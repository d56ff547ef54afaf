import Stencil.Proofs.Html.Thinning
import Stencil.Proofs.Text.Classes

/-!
# What minification does

Minification of a text that holds nothing spelled like a placeholder removes blanks only, and exactly those that
`thin` removes from the pieces of the text; all elements stay as they are, and minifying again changes nothing
(`minify_removes_blanks`). The passes in between work on the text with numbered placeholders in place of its elements
(`shown`): these have the outside of a tag, as the elements do, and are told apart by their numbers.
-/

namespace Stencil.Html

/-- Is nothing in the text spelled like a placeholder? -/
def IsFree (cs : List Char) : Prop :=
  ∀ digits p, IsPlaceholder digits p → ¬ p <:+: cs

/-- The text of pieces, with placeholders for the elements, numbered from `number`. -/
def shown (number : Nat) : List Item → List Char
  | [] => []
  | .plain c :: items => c :: shown number items
  | .element _ :: items => placeholder number ++ shown (number + 1) items

/-! ## Putting placeholders in -/

/-- What belongs to an element is passed over. -/
theorem stashFrom_skip (number : Nat) (front rest : List Char) :
    stashFrom number front.length (front ++ rest) = stashFrom number 0 rest := by
  induction front with
  | nil => rfl
  | cons c front ih => exact ih

/-- The first pass replaces the elements of a cut text by placeholders. -/
theorem stashFrom_cut {cs : List Char} {items : List Item} (h : Cut cs items) (number : Nat) :
    stashFrom number 0 cs = ⟨shown number items, elementsOf items⟩ := by
  induction h generalizing number with
  | nil => rfl
  | @element element rest items is cut ih =>
    have found : afterElement? (element ++ rest) = some rest := afterElement?_eq_some_iff.2 ⟨_, is, rfl⟩
    obtain ⟨inner, rfl⟩ := is.eq_tag
    rw [List.cons_append] at found ⊢
    rw [stashFrom, found]
    have size : (inner ++ ['>'] ++ rest).length + 1 - rest.length = (inner ++ ['>']).length + 1 := by
      simp only [List.length_append]
      omega
    dsimp only
    rw [size, Nat.add_sub_cancel, stashFrom_skip, ih, List.take_succ_cons, List.take_left]
    rfl
  | @plain c rest items none cut ih =>
    have nothing : afterElement? (c :: rest) = Option.none := by
      refine Option.eq_none_iff_forall_ne_some.2 fun behind found => ?_
      obtain ⟨element, is, split⟩ := afterElement?_eq_some_iff.1 found
      exact none element is ⟨behind, split.symm⟩
    rw [stashFrom, nothing, ih]
    rfl

/-! ## Removing blanks from a text with placeholders -/

/-- A text spelled like a placeholder is a tag without blanks. -/
theorem IsPlaceholder.eq_tag {digits p : List Char} (h : IsPlaceholder digits p) :
    ∃ tag, p = '<' :: (tag ++ ['>']) ∧ '>' ∉ tag ∧ ∀ c ∈ '<' :: tag, isBlank c = false := by
  obtain ⟨-, inside, rfl⟩ := h
  have closed : '>' ∉ digits := not_mem_digits (by decide +kernel) inside
  have solid : ∀ c ∈ digits, isBlank c = false := by
    intro c mem
    refine Bool.eq_false_iff.2 fun blank => ?_
    exact absurd (inside c mem) (Bool.eq_false_iff.1 (isDecimalDigit_of_isBlank blank))
  refine ⟨'\x00' :: (digits ++ ['\x00']), by simp, by simp [closed], ?_⟩
  have zero : isBlank '\x00' = false := by decide
  simp only [List.forall_mem_cons, List.forall_mem_append]
  exact ⟨by decide, zero, solid, zero, List.forall_mem_nil _⟩

/-- Behind a tag, `thin` goes on as behind an element. -/
theorem thin_tag {tag : List Char} (solid : ∀ c ∈ tag, isBlank c = false) (closed : Option Bool) (items : List Item) :
    thin closed ((tag ++ ['>']).map .plain ++ items) = (tag ++ ['>']).map .plain ++ thin (some true) items := by
  induction tag generalizing closed with
  | nil => exact thin_of_not_blank (by decide) closed items
  | cons c tag ih =>
    obtain ⟨first, later⟩ := List.forall_mem_cons.1 solid
    have first : Item.isBlank (.plain c) = false := first
    rw [List.cons_append, List.map_cons, List.cons_append, thin_of_not_blank first, ih later]
    rfl

/-- A placeholder is followed, as an element is, by what begins with `<`. -/
theorem goes_shown (closed : Option Bool) (number : Nat) (items : List Item) :
    goes closed (next? ((shown number items).map .plain)) = goes closed (next? items) := by
  induction items with
  | nil => rfl
  | cons item items ih =>
    cases item with
    | plain c =>
      rw [shown, List.map_cons]
      cases blank : Item.isBlank (.plain c) with
      | true => rw [next?_cons_of_blank blank, next?_cons_of_blank blank, ih]
      | false => rw [next?_cons_of_not_blank blank, next?_cons_of_not_blank blank]
    | element text =>
      obtain ⟨tag, shape, -⟩ := (isPlaceholder_placeholder number).eq_tag
      have solid : Item.isBlank (.plain '<') = false := by decide
      rw [shown, shape, List.cons_append, List.map_cons, next?_cons_of_not_blank solid, next?_cons_of_not_blank rfl]
      cases closed <;> rfl

/-- Blanks are removed around placeholders as they are around elements. -/
theorem thin_shown (closed : Option Bool) (number : Nat) (items : List Item) :
    thin closed ((shown number items).map .plain) = (shown number (thin closed items)).map .plain := by
  induction items generalizing closed number with
  | nil => rfl
  | cons item items ih =>
    cases item with
    | plain c =>
      rw [shown, List.map_cons]
      rcases thin_cases closed (.plain c) items with ⟨blank, go, thinned⟩ | ⟨blank, stay, thinned⟩ | ⟨other, thinned⟩ <;>
        rw [thinned]
      · rw [thin_of_goes blank (by rw [goes_shown, go]), ih]
      · rw [thin_of_stays blank (by rw [goes_shown, stay]), ih]
        rfl
      · rw [thin_of_not_blank other, ih]
        rfl
    | element text =>
      obtain ⟨tag, shape, -, solid⟩ := (isPlaceholder_placeholder number).eq_tag
      rw [thin_of_not_blank rfl, shown, shown, shape, ← List.cons_append, List.map_append, thin_tag solid, ih,
        ← List.map_append]
      rfl

/-! ## Putting elements back -/

theorem restoreFrom_skip (elements : List (List Char)) (front rest : List Char) :
    restoreFrom elements front.length (front ++ rest) = restoreFrom elements 0 rest := by
  induction front with
  | nil => rfl
  | cons c front ih => exact ih

theorem restoreFrom_placeholder {elements : List (List Char)} {number : Nat} {element : List Char}
    (given : elements[number]? = some element) (rest : List Char) :
    restoreFrom elements 0 (placeholder number ++ rest) = (restoreFrom elements 0 rest).map (element ++ ·) := by
  have found : readPlaceholder? (placeholder number ++ rest) = some (Nat.toDigits 10 number, rest) :=
    readPlaceholder?_eq_some_iff.2 ⟨_, isPlaceholder_placeholder number, rfl⟩
  obtain ⟨tag, shape, -⟩ := (isPlaceholder_placeholder number).eq_tag
  rw [shape, List.cons_append] at found ⊢
  have size : (tag ++ ['>'] ++ rest).length - rest.length = (tag ++ ['>']).length := by
    rw [List.length_append, Nat.add_sub_cancel]
  rw [restoreFrom, found]
  simp only [stashed_toDigits given, size, restoreFrom_skip]

/-- Up to the next `<`, a text with placeholders is the text. -/
theorem prefix_of_prefix_shown {front : List Char} {number : Nat} {items : List Item} (missing : '<' ∉ front)
    (h : front <+: shown number items) : front <+: textOf items := by
  induction items generalizing front with
  | nil => exact h
  | cons item items ih =>
    cases front with
    | nil => exact List.nil_prefix
    | cons c front =>
      obtain ⟨first, later⟩ := List.ne_and_not_mem_of_not_mem_cons missing
      cases item with
      | plain d =>
        obtain ⟨rfl, rest⟩ := List.cons_prefix_cons.1 h
        exact List.cons_prefix_cons.2 ⟨rfl, ih later rest⟩
      | element text =>
        obtain ⟨tag, shape, -⟩ := (isPlaceholder_placeholder number).eq_tag
        rw [shown, shape] at h
        exact absurd (List.cons_prefix_cons.1 h).1.symm first

/-- Each placeholder is replaced by its element. -/
theorem restoreFrom_shown {given : List (List Char)} {items : List Item} (free : IsFree (textOf items)) :
    restoreFrom (given ++ elementsOf items) 0 (shown given.length items) = .ok (textOf items) := by
  induction items generalizing given with
  | nil => rfl
  | cons item items ih =>
    have later : IsFree (textOf items) :=
      fun number p is part => free number p is (part.trans (List.suffix_append item.text _).isInfix)
    cases item with
    | plain c =>
      have nothing : readPlaceholder? (c :: shown given.length items) = none := by
        refine Option.eq_none_iff_forall_ne_some.2 fun ⟨number, behind⟩ found => ?_
        obtain ⟨p, is, split⟩ := readPlaceholder?_eq_some_iff.1 found
        obtain ⟨q, rfl, missing⟩ := is.eq_cons
        obtain ⟨rfl, rest⟩ := List.cons.inj split
        have there := prefix_of_prefix_shown missing ⟨behind, rest.symm⟩
        exact free number _ is (List.cons_prefix_cons.2 ⟨rfl, there⟩).isInfix
      rw [shown, restoreFrom, nothing]
      exact map_eq_ok_iff.2 ⟨_, ih later, rfl⟩
    | element text =>
      have here : (given ++ elementsOf (.element text :: items))[given.length]? = some text := by
        rw [List.getElem?_append_right (Nat.le_refl _), Nat.sub_self]
        rfl
      have restored : restoreFrom (given ++ [text] ++ elementsOf items) 0 (shown (given ++ [text]).length items)
          = .ok (textOf items) := ih later
      rw [List.append_assoc, List.length_append] at restored
      rw [shown, restoreFrom_placeholder here]
      exact map_eq_ok_iff.2 ⟨_, restored, rfl⟩

/-! ## Minification -/

/-- What `thin` leaves is not spelled like a placeholder anywhere if nothing was before. -/
theorem IsFree.thin {cs : List Char} {items : List Item} (free : IsFree cs) (cut : Cut cs items) (closed : Option Bool) :
    IsFree (textOf (thin closed items)) := by
  intro number p is part
  obtain ⟨tag, rfl, missing, -⟩ := is.eq_tag
  exact free number _ is ((cut.loses closed).tag_of_tag missing part)

/-- Minification leaves what `thin` leaves. -/
theorem minify_cut {html : String} {items : List Item} (free : IsFree html.toList) (cut : Cut html.toList items) :
    minify html = .ok (String.ofList (textOf (thin none items))) := by
  have stashed := stashFrom_cut cut 0
  have collapsed : strip (collapse (shown 0 items)) = shown 0 (thin none items) := by
    apply List.map_injective_iff.2 fun _ _ => Item.plain.inj
    rw [map_plain_strip, thin_shown]
  have restored : restoreFrom ([] ++ elementsOf (thin none items)) 0 (shown 0 (thin none items))
      = .ok (textOf (thin none items)) := restoreFrom_shown (free.thin cut none)
  rw [List.nil_append, elementsOf_thin] at restored
  rw [minify, stashed, collapsed]
  exact map_eq_ok_iff.2 ⟨_, restored, rfl⟩

/-- **Minification removes blanks between tags and at the ends, and nothing else.** A text is cut in one way into
protected elements, each as far left as possible and up to its first closing tag, and characters outside of them. Of
these pieces, minification leaves what `thin` leaves: the blanks that go are those directly between a `>` and a `<`, and
those at both ends. All other pieces stay in their order, among them the elements; the text that is left is cut into
the pieces that are left, and minifying it again changes nothing. -/
theorem minify_removes_blanks (html : String) (free : IsFree html.toList) :
    ∃ items, (∀ others, Cut html.toList others ↔ others = items)
      ∧ minify html = .ok (String.ofList (textOf (thin none items)))
      ∧ (thin none items).Sublist items
      ∧ (thin none items).filter (!·.isBlank) = items.filter (!·.isBlank)
      ∧ elementsOf (thin none items) = elementsOf items
      ∧ Cut (textOf (thin none items)) (thin none items)
      ∧ minify (String.ofList (textOf (thin none items))) = .ok (String.ofList (textOf (thin none items))) := by
  obtain ⟨items, cut⟩ := exists_cut html.toList
  have again : minify (String.ofList (textOf (thin none items))) = .ok (String.ofList (textOf (thin none items))) := by
    have freeAgain : IsFree (String.ofList (textOf (thin none items))).toList := by
      rw [String.toList_ofList]
      exact free.thin cut none
    have cutAgain : Cut (String.ofList (textOf (thin none items))).toList (thin none items) := by
      rw [String.toList_ofList]
      exact cut.thin none
    have thinned := minify_cut freeAgain cutAgain
    rwa [thin_thin] at thinned
  refine ⟨items, fun others => ⟨fun other => other.unique cut, ?_⟩, minify_cut free cut, sublist_thin none items,
    filter_thin none items, elementsOf_thin none items, cut.thin none, again⟩
  rintro rfl
  exact cut

/-- A text without the character zero holds no placeholder. -/
theorem isFree_of_not_mem {cs : List Char} (missing : '\x00' ∉ cs) : IsFree cs := by
  rintro digits p ⟨-, -, rfl⟩ part
  exact missing (part.subset (by simp))

/-- A text whose only element keeps its blanks. -/
def preText : String :=
  " <b> <PRE>\n> < </pre > x <b> "

theorem minify_removes_blanks_preText :
    IsFree preText.toList
      ∧ minify preText = .ok "<b><PRE>\n> < </pre > x <b>"
      ∧ minify "<b><PRE>\n> < </pre > x <b>" = .ok "<b><PRE>\n> < </pre > x <b>" := by
  have free : IsFree preText.toList := isFree_of_not_mem (by decide)
  have once : minify preText = .ok "<b><PRE>\n> < </pre > x <b>" := eq_ok_of_toOption (by decide +kernel)
  obtain ⟨items, -, minified, -, -, -, -, again⟩ := minify_removes_blanks preText free
  rw [Except.ok.inj (minified.symm.trans once)] at again
  exact ⟨free, once, again⟩

end Stencil.Html
