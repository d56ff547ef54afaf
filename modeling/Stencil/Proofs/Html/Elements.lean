import Mathlib.Data.List.Forall2
import Stencil.Html.Minify
import Stencil.Proofs.Text.Runs

/-!
# The protected elements of a text

A protected element is an opening tag with one of four names, in any mix of cases, and what follows up to the first
closing tag with the same name. It is said here what such a text is, without reading; `afterElement?` finds it if there
is one at the start of a text (`afterElement?_eq_some_iff`). Every text is cut in one way into elements, each as far
left as possible, and characters outside of them (`exists_cut`, `Cut.unique`).
-/

namespace Stencil.Html

/-- Is the text one of the names, written in any mix of cases? -/
def IsTagName (written : List Char) : Prop :=
  ∃ name ∈ protectedNames, List.Forall₂ (fun letter c => isLetterLike letter c) name written

/-- A closing tag for the name that the opening tag writes as `written`. -/
def IsClosing (written closing : List Char) : Prop :=
  ∃ again blanks, again.map foldCase = written.map foldCase ∧ (∀ c ∈ blanks, isBlank c)
    ∧ closing = '<' :: '/' :: (again ++ blanks ++ ['>'])

/-- A protected element: the name ends at the edge of a word, and the element with the first closing tag behind it. -/
def IsElement (element : List Char) : Prop :=
  ∃ written inner closing, IsTagName written ∧ beginsWith isWordChar inner = false ∧ IsClosing written closing
    ∧ (∀ c, IsClosing written c → ¬ c <:+: inner) ∧ element = '<' :: (written ++ inner ++ closing)

/-! ## Names -/

/-- The letter that `c` may stand for in an opening tag. -/
def letterOf (c : Char) : Char :=
  if c = 'ı' then 'i' else if c = 'ſ' then 's' else foldCase c

/-- The names are spelled with lower case letters, which are not brackets of tags. -/
theorem plain_of_mem_protectedNames {name : List Char} (mem : name ∈ protectedNames) {letter : Char}
    (inside : letter ∈ name) : letter ≠ 'ı' ∧ letter ≠ 'ſ' ∧ letter ≠ '<' ∧ letter ≠ '>' := by
  have all : protectedNames.all fun name => name.all fun letter =>
      decide (letter ≠ 'ı' ∧ letter ≠ 'ſ' ∧ letter ≠ '<' ∧ letter ≠ '>') := by decide
  exact of_decide_eq_true (List.all_eq_true.1 (List.all_eq_true.1 all name mem) letter inside)

theorem letterOf_of_foldCase {letter c : Char} (plain : letter ≠ 'ı' ∧ letter ≠ 'ſ') (h : foldCase c = letter) :
    letterOf c = letter := by
  have notDotless : c ≠ 'ı' := by
    rintro rfl
    exact plain.1 (h.symm.trans (by decide))
  have notLong : c ≠ 'ſ' := by
    rintro rfl
    exact plain.2 (h.symm.trans (by decide))
  rw [letterOf, if_neg notDotless, if_neg notLong, h]

theorem letterOf_of_isLetterLike {letter c : Char} (plain : letter ≠ 'ı' ∧ letter ≠ 'ſ')
    (h : isLetterLike letter c) : letterOf c = letter := by
  simp only [isLetterLike, Bool.or_eq_true, Bool.and_eq_true, decide_eq_true_eq] at h
  rcases h with (same | ⟨rfl, rfl⟩) | ⟨rfl, rfl⟩
  · exact letterOf_of_foldCase plain same
  · rfl
  · rfl

theorem map_letterOf {name written : List Char} (mem : name ∈ protectedNames)
    (h : List.Forall₂ (fun letter c => isLetterLike letter c) name written) : written.map letterOf = name := by
  have plain : ∀ letter ∈ name, letter ≠ 'ı' ∧ letter ≠ 'ſ' :=
    fun letter inside => ⟨(plain_of_mem_protectedNames mem inside).1, (plain_of_mem_protectedNames mem inside).2.1⟩
  clear mem
  induction h with
  | nil => rfl
  | cons here _ ih =>
    obtain ⟨first, later⟩ := List.forall_mem_cons.1 plain
    rw [List.map_cons, letterOf_of_isLetterLike first here, ih later]

theorem IsTagName.map_letterOf {written : List Char} (h : IsTagName written) : written.map letterOf ∈ protectedNames := by
  obtain ⟨name, mem, spelled⟩ := h
  rw [Html.map_letterOf mem spelled]
  exact mem

/-- No name begins another one, so what a text begins with is one name at most. -/
theorem IsTagName.unique {written other rest behind : List Char} (h : IsTagName written) (h' : IsTagName other)
    (same : written ++ rest = other ++ behind) : written = other := by
  have apart : ∀ name ∈ protectedNames, ∀ name' ∈ protectedNames, name <+: name' → name.length = name'.length := by
    decide
  have long {w v : List Char} (hw : IsTagName w) (hv : IsTagName v) (front : w <+: v) : w = v := by
    have lengths := apart _ hw.map_letterOf _ hv.map_letterOf (front.map letterOf)
    rw [List.length_map, List.length_map] at lengths
    exact front.eq_of_length lengths
  have left : written <+: other ++ behind := ⟨rest, same⟩
  rcases List.prefix_or_prefix_of_prefix left (List.prefix_append other behind) with front | front
  · exact long h h' front
  · exact (long h' h front).symm

theorem readTagName?_eq_some_iff {name cs written rest : List Char} :
    readTagName? name cs = some (written, rest)
      ↔ List.Forall₂ (fun letter c => isLetterLike letter c) name written ∧ cs = written ++ rest := by
  induction name generalizing cs written with
  | nil =>
    rw [readTagName?, List.forall₂_nil_left_iff]
    constructor
    · rintro ⟨⟩
      exact ⟨rfl, rfl⟩
    · rintro ⟨rfl, rfl⟩
      rfl
  | cons letter name ih =>
    rw [List.forall₂_cons_left_iff]
    constructor
    · intro h
      cases cs with
      | nil => cases h
      | cons c cs =>
        rw [readTagName?] at h
        split at h
        · next like =>
          obtain ⟨⟨later, behind⟩, read, same⟩ := Option.map_eq_some_iff.1 h
          obtain ⟨rfl, rfl⟩ := Prod.mk.inj same
          obtain ⟨spelled, rfl⟩ := ih.1 read
          exact ⟨⟨c, later, like, spelled, rfl⟩, rfl⟩
        · cases h
    · rintro ⟨⟨c, later, like, spelled, rfl⟩, rfl⟩
      rw [List.cons_append, readTagName?, if_pos like, ih.2 ⟨spelled, rfl⟩]
      rfl

/-- The name that is read is the one that stands there. -/
theorem findSome?_readTagName? {cs written rest : List Char} :
    protectedNames.findSome? (readTagName? · cs) = some (written, rest) ↔ IsTagName written ∧ cs = written ++ rest := by
  constructor
  · intro h
    obtain ⟨name, mem, read⟩ := List.exists_of_findSome?_eq_some h
    obtain ⟨spelled, split⟩ := readTagName?_eq_some_iff.1 read
    exact ⟨⟨name, mem, spelled⟩, split⟩
  · rintro ⟨⟨name, mem, spelled⟩, split⟩
    have read := readTagName?_eq_some_iff.2 ⟨spelled, split⟩
    have found : (protectedNames.findSome? (readTagName? · cs)).isSome := by
      rw [List.findSome?_isSome_iff]
      exact ⟨name, mem, by rw [read]; rfl⟩
    obtain ⟨⟨other, behind⟩, first⟩ := Option.isSome_iff_exists.1 found
    obtain ⟨name', mem', read'⟩ := List.exists_of_findSome?_eq_some first
    obtain ⟨spelled', split'⟩ := readTagName?_eq_some_iff.1 read'
    obtain rfl := IsTagName.unique ⟨name', mem', spelled'⟩ ⟨name, mem, spelled⟩ (split'.symm.trans split)
    rw [first, List.append_cancel_left (split'.symm.trans split)]

/-! ## Closing tags -/

/-- A character of a name is no bracket of a tag, and neither is one that differs from it in case. -/
theorem IsTagName.not_bracket {written : List Char} (h : IsTagName written) {c : Char} (mem : c ∈ written) :
    foldCase c ≠ '<' ∧ foldCase c ≠ '>' := by
  obtain ⟨-, -, notOpen, notClose⟩ := plain_of_mem_protectedNames h.map_letterOf (List.mem_map_of_mem mem)
  exact ⟨fun same => notOpen (letterOf_of_foldCase (by decide) same),
    fun same => notClose (letterOf_of_foldCase (by decide) same)⟩

/-- In a closing tag, `<` stands first only and `>` last only. -/
theorem IsClosing.eq_tag {written closing : List Char} (name : IsTagName written) (h : IsClosing written closing) :
    ∃ inner, closing = '<' :: (inner ++ ['>']) ∧ '<' ∉ inner ∧ '>' ∉ inner := by
  obtain ⟨again, blanks, same, blank, rfl⟩ := h
  have folded : ∀ c ∈ again, foldCase c ≠ '<' ∧ foldCase c ≠ '>' := by
    intro c mem
    have there : foldCase c ∈ written.map foldCase := by
      rw [← same]
      exact List.mem_map_of_mem mem
    obtain ⟨d, inside, fold⟩ := List.mem_map.1 there
    rw [← fold]
    exact name.not_bracket inside
  have bracket (b : Char) (fold : foldCase b = b) (other : isBlank b = false) (slash : b ≠ '/')
      (apart : ∀ c ∈ again, foldCase c ≠ b) : b ∉ '/' :: (again ++ blanks) := by
    simp only [List.mem_cons, List.mem_append, not_or]
    refine ⟨slash, fun mem => apart b mem fold, fun mem => ?_⟩
    rw [blank b mem] at other
    cases other
  refine ⟨'/' :: (again ++ blanks), by simp, ?_, ?_⟩
  · exact bracket '<' (by decide) (by decide) (by decide) fun c mem => (folded c mem).1
  · exact bracket '>' (by decide) (by decide) (by decide) fun c mem => (folded c mem).2

theorem IsClosing.ne_nil {written closing : List Char} (h : IsClosing written closing) : closing ≠ [] := by
  obtain ⟨again, blanks, -, -, rfl⟩ := h
  exact List.cons_ne_nil _ _

/-- A closing tag that begins in front of another one ends in front of it. -/
theorem IsClosing.prefix_of_prefix {written other closing front rest : List Char} (name : IsTagName written)
    (h : IsClosing written other) (closes : IsClosing written closing) (nonempty : front ≠ [])
    (part : other <+: front ++ (closing ++ rest)) : other <+: front := by
  obtain ⟨inner, rfl, missing, -⟩ := h.eq_tag name
  rcases List.prefix_or_prefix_of_prefix part (List.prefix_append front _) with within | ⟨more, same⟩
  · exact within
  · cases more with
    | nil =>
      rw [List.append_nil] at same
      exact ⟨[], by rw [same, List.append_nil]⟩
    | cons c more =>
      exfalso
      obtain ⟨d, front, rfl⟩ := List.exists_cons_of_ne_nil nonempty
      obtain ⟨tag, rfl, -⟩ := closes.eq_tag name
      rw [← same, List.prefix_append_right_inj, List.cons_append] at part
      obtain ⟨rfl, -⟩ := List.cons_prefix_cons.1 part
      have tail : front ++ '<' :: more = inner ++ ['>'] := (List.cons.inj same).2
      have there : '<' ∈ inner ++ ['>'] := by
        rw [← tail]
        simp
      simp [missing] at there

theorem skipName?_eq_some_iff {written cs rest : List Char} :
    skipName? written cs = some rest
      ↔ ∃ again, again.map foldCase = written.map foldCase ∧ cs = again ++ rest := by
  induction written generalizing cs with
  | nil =>
    rw [skipName?]
    constructor
    · rintro ⟨⟩
      exact ⟨[], rfl, rfl⟩
    · rintro ⟨again, same, rfl⟩
      obtain rfl := List.map_eq_nil_iff.1 same
      rfl
  | cons w written ih =>
    constructor
    · intro h
      cases cs with
      | nil => cases h
      | cons c cs =>
        rw [skipName?] at h
        split at h
        · next fold =>
          obtain ⟨again, same, rfl⟩ := ih.1 h
          exact ⟨c :: again, by rw [List.map_cons, List.map_cons, fold, same], rfl⟩
        · cases h
    · rintro ⟨again, same, rfl⟩
      obtain ⟨c, later, rfl, fold, same⟩ := List.map_eq_cons_iff.1 same
      rw [List.cons_append, skipName?, if_pos fold]
      exact ih.2 ⟨later, same, rfl⟩

theorem skipClosing?_eq_some_iff {written cs rest : List Char} :
    skipClosing? written cs = some rest ↔ ∃ closing, IsClosing written closing ∧ cs = closing ++ rest := by
  constructor
  · intro h
    unfold skipClosing? at h
    split at h
    · next behind =>
      split at h
      · next after stop =>
        obtain rfl := Option.some.inj h
        obtain ⟨tail, skipped, ends⟩ := Option.map_eq_some_iff.1 stop
        obtain ⟨again, same, rfl⟩ := skipName?_eq_some_iff.1 skipped
        obtain ⟨blanks, rfl, blank, -⟩ := dropWhile_eq_iff.1 ends
        exact ⟨_, ⟨again, blanks, same, blank, rfl⟩, by simp⟩
      · cases h
    · cases h
  · rintro ⟨closing, ⟨again, blanks, same, blank, rfl⟩, rfl⟩
    have whole : '<' :: '/' :: (again ++ blanks ++ ['>']) ++ rest = '<' :: '/' :: (again ++ (blanks ++ '>' :: rest)) := by
      simp
    have skipped : skipName? written (again ++ (blanks ++ '>' :: rest)) = some (blanks ++ '>' :: rest) :=
      skipName?_eq_some_iff.2 ⟨again, same, rfl⟩
    have stop : (blanks ++ '>' :: rest).dropWhile isBlank = '>' :: rest :=
      dropWhile_append_of_stop blank (by rw [beginsWith_cons]; decide)
    rw [whole, skipClosing?, skipped, Option.map_some, stop]
    rfl

/-- What is found is a closing tag, and there is none in front of it. -/
theorem exists_closing {written cs rest : List Char} (h : afterClosing? written cs = some rest) :
    ∃ inner closing, IsClosing written closing ∧ (∀ c, IsClosing written c → ¬ c <:+: inner)
      ∧ cs = inner ++ closing ++ rest := by
  induction cs with
  | nil => cases h
  | cons c cs ih =>
    rw [afterClosing?] at h
    cases here : skipClosing? written (c :: cs) with
    | some behind =>
      rw [here] at h
      obtain rfl := Option.some.inj h
      obtain ⟨closing, closes, split⟩ := skipClosing?_eq_some_iff.1 here
      exact ⟨[], closing, closes, fun other closes' part => closes'.ne_nil (List.infix_nil.1 part), split⟩
    | none =>
      rw [here] at h
      obtain ⟨inner, closing, closes, first, rfl⟩ := ih h
      refine ⟨c :: inner, closing, closes, fun other closes' part => ?_, rfl⟩
      rcases List.infix_cons_iff.1 part with ⟨behind, same⟩ | later
      · have found : skipClosing? written (c :: (inner ++ closing ++ rest)) = some (behind ++ closing ++ rest) := by
          refine skipClosing?_eq_some_iff.2 ⟨other, closes', ?_⟩
          rw [← List.append_assoc, ← List.append_assoc, same]
          simp
        rw [here] at found
        cases found
      · exact first other closes' later

/-- The first closing tag is found. -/
theorem afterClosing?_append {written inner closing : List Char} (name : IsTagName written)
    (closes : IsClosing written closing) (first : ∀ c, IsClosing written c → ¬ c <:+: inner) (rest : List Char) :
    afterClosing? written (inner ++ closing ++ rest) = some rest := by
  induction inner with
  | nil =>
    obtain ⟨tag, rfl, -⟩ := closes.eq_tag name
    rw [List.nil_append, List.cons_append, afterClosing?, ← List.cons_append,
      skipClosing?_eq_some_iff.2 ⟨_, closes, rfl⟩]
    rfl
  | cons c inner ih =>
    have none : skipClosing? written (c :: (inner ++ closing ++ rest)) = none := by
      refine Option.eq_none_iff_forall_ne_some.2 fun behind found => ?_
      obtain ⟨other, closes', split⟩ := skipClosing?_eq_some_iff.1 found
      have part : other <+: (c :: inner) ++ (closing ++ rest) := ⟨behind, by rw [← split]; simp⟩
      exact first other closes' (closes'.prefix_of_prefix name closes (List.cons_ne_nil c inner) part).isInfix
    rw [List.cons_append, List.cons_append, afterClosing?, none]
    exact ih fun other closes' part => first other closes' (part.trans (List.suffix_cons c inner).isInfix)

/-- Where there is a closing tag, one is found. -/
theorem exists_afterClosing? {written closing cs : List Char} (name : IsTagName written)
    (closes : IsClosing written closing) (part : closing <:+: cs) : ∃ rest, afterClosing? written cs = some rest := by
  obtain ⟨before, rest, rfl⟩ := part
  induction before with
  | nil =>
    have none : ∀ c, IsClosing written c → ¬ c <:+: [] :=
      fun c closes' part => closes'.ne_nil (List.infix_nil.1 part)
    exact ⟨rest, afterClosing?_append name closes none rest⟩
  | cons c before ih =>
    obtain ⟨rest', found⟩ := ih
    rw [List.cons_append, List.cons_append, afterClosing?, found]
    cases skipClosing? written (c :: (before ++ closing ++ rest)) with
    | none => exact ⟨rest', rfl⟩
    | some behind => exact ⟨behind, rfl⟩

/-! ## Elements -/

/-- Behind a name that ends at the edge of a word, the element is read. -/
theorem afterElement?_name {written behind : List Char} (name : IsTagName written)
    (edge : beginsWith isWordChar behind = false) :
    afterElement? ('<' :: (written ++ behind)) = afterClosing? written behind := by
  rw [afterElement?, findSome?_readTagName?.2 ⟨name, rfl⟩, Option.bind_some]
  exact if_neg (Bool.eq_false_iff.1 edge)

theorem beginsWith_append_closing {written inner closing : List Char} (edge : beginsWith isWordChar inner = false)
    (closes : IsClosing written closing) (rest : List Char) :
    beginsWith isWordChar (inner ++ closing ++ rest) = false := by
  cases inner with
  | nil =>
    obtain ⟨again, blanks, -, -, rfl⟩ := closes
    exact (by decide : isWordChar '<' = false)
  | cons c inner => exact edge

/-- What stands at the start of a text is recognized as an element exactly if it is one. -/
theorem afterElement?_eq_some_iff {cs rest : List Char} :
    afterElement? cs = some rest ↔ ∃ element, IsElement element ∧ cs = element ++ rest := by
  constructor
  · intro h
    unfold afterElement? at h
    split at h
    · next tail =>
      obtain ⟨⟨written, behind⟩, read, found⟩ := Option.bind_eq_some_iff.1 h
      obtain ⟨name, rfl⟩ := findSome?_readTagName?.1 read
      dsimp only at found
      split at found
      · cases found
      · next edge =>
        obtain ⟨inner, closing, closes, first, rfl⟩ := exists_closing found
        have edge : beginsWith isWordChar (inner ++ (closing ++ rest)) = false := by
          rw [← List.append_assoc]
          exact Bool.eq_false_iff.2 edge
        refine ⟨_, ⟨written, inner, closing, name, ?_, closes, first, rfl⟩, by simp⟩
        cases inner with
        | nil => rfl
        | cons c inner => exact edge
    · cases h
  · rintro ⟨element, ⟨written, inner, closing, name, edge, closes, first, rfl⟩, rfl⟩
    have whole : '<' :: (written ++ inner ++ closing) ++ rest = '<' :: (written ++ (inner ++ closing ++ rest)) := by simp
    rw [whole, afterElement?_name name (beginsWith_append_closing edge closes rest)]
    exact afterClosing?_append name closes first rest

/-- An element stands behind a name at the edge of a word as soon as there is a closing tag anywhere behind it. -/
theorem exists_element {written closing behind : List Char} (name : IsTagName written)
    (edge : beginsWith isWordChar behind = false) (closes : IsClosing written closing) (part : closing <:+: behind) :
    ∃ element, IsElement element ∧ element <+: '<' :: (written ++ behind) := by
  obtain ⟨rest, found⟩ := exists_afterClosing? name closes part
  rw [← afterElement?_name name edge] at found
  obtain ⟨element, is, split⟩ := afterElement?_eq_some_iff.1 found
  exact ⟨element, is, rest, split.symm⟩

/-- The element at the start of a text is the only one there. -/
theorem IsElement.unique {element other rest behind : List Char} (h : IsElement element) (h' : IsElement other)
    (same : element ++ rest = other ++ behind) : element = other ∧ rest = behind := by
  have found : afterElement? (element ++ rest) = some rest := afterElement?_eq_some_iff.2 ⟨_, h, rfl⟩
  have found' : afterElement? (element ++ rest) = some behind := afterElement?_eq_some_iff.2 ⟨_, h', same⟩
  obtain rfl := Option.some.inj (found.symm.trans found')
  exact ⟨List.append_cancel_right same, rfl⟩

/-- On its outside, an element is a tag. -/
theorem IsElement.eq_tag {element : List Char} (h : IsElement element) :
    ∃ inner, element = '<' :: (inner ++ ['>']) := by
  obtain ⟨written, inner, closing, name, -, closes, -, rfl⟩ := h
  obtain ⟨tag, rfl, -⟩ := closes.eq_tag name
  exact ⟨written ++ inner ++ '<' :: tag, by simp⟩

/-! ## Cutting a text -/

/-- A piece of a text: a character outside of protected elements, or one of these. -/
inductive Item where
  | plain (c : Char)
  | element (text : List Char)

/-- The text of a piece. -/
def Item.text : Item → List Char
  | .plain c => [c]
  | .element text => text

/-- The text of pieces. -/
def textOf (items : List Item) : List Char :=
  items.flatMap Item.text

@[simp] theorem textOf_nil : textOf [] = [] := rfl

@[simp] theorem textOf_plain (c : Char) (items : List Item) : textOf (.plain c :: items) = c :: textOf items := rfl

@[simp] theorem textOf_element (element : List Char) (items : List Item) :
    textOf (.element element :: items) = element ++ textOf items := rfl

/-- The piece as an element. -/
def Item.element? : Item → Option (List Char)
  | .plain _ => none
  | .element text => some text

/-- The elements among pieces, in order. -/
def elementsOf (items : List Item) : List (List Char) :=
  items.filterMap Item.element?

/-- Cutting a text from left to right: an element where one begins, and a character where none does. -/
inductive Cut : List Char → List Item → Prop
  | nil : Cut [] []
  | element {element rest items} : IsElement element → Cut rest items → Cut (element ++ rest) (.element element :: items)
  | plain {c rest items} : (∀ e, IsElement e → ¬ e <+: c :: rest) → Cut rest items → Cut (c :: rest) (.plain c :: items)

/-- Nothing is lost by cutting. -/
theorem Cut.textOf_eq {cs : List Char} {items : List Item} (h : Cut cs items) : textOf items = cs := by
  induction h with
  | nil => rfl
  | element _ _ ih => rw [textOf_element, ih]
  | plain _ _ ih => rw [textOf_plain, ih]

/-- Every text can be cut. -/
theorem exists_cut (cs : List Char) : ∃ items, Cut cs items := by
  induction long : cs.length using Nat.strong_induction_on generalizing cs with
  | h n ih =>
    subst long
    by_cases begins : ∃ e, IsElement e ∧ e <+: cs
    · obtain ⟨e, is, rest, rfl⟩ := begins
      obtain ⟨inner, shape⟩ := is.eq_tag
      obtain ⟨items, cut⟩ := ih rest.length (by rw [shape]; simp; omega) rest rfl
      exact ⟨_, .element is cut⟩
    · cases cs with
      | nil => exact ⟨[], .nil⟩
      | cons c rest =>
        obtain ⟨items, cut⟩ := ih rest.length (by simp) rest rfl
        exact ⟨_, .plain (fun e is part => begins ⟨e, is, part⟩) cut⟩

/-- There is one way to cut a text. -/
theorem Cut.unique {cs : List Char} {items others : List Item} (h : Cut cs items) (h' : Cut cs others) :
    items = others := by
  induction h generalizing others with
  | nil =>
    generalize same : [] = cs at h'
    cases h' with
    | nil => rfl
    | element is _ =>
      obtain ⟨inner, rfl⟩ := is.eq_tag
      cases same
    | plain => cases same
  | @element element rest items is cut ih =>
    generalize same : element ++ rest = cs at h'
    cases h' with
    | nil =>
      obtain ⟨inner, rfl⟩ := is.eq_tag
      cases same
    | element is' cut' =>
      obtain ⟨rfl, rfl⟩ := is.unique is' same
      rw [ih cut']
    | plain none _ => exact absurd ⟨rest, same⟩ (none element is)
  | @plain c rest items none cut ih =>
    generalize same : c :: rest = cs at h'
    cases h' with
    | nil => cases same
    | @element element' behind _ is _ => exact absurd ⟨behind, same.symm⟩ (none element' is)
    | plain _ cut' =>
      obtain ⟨rfl, rfl⟩ := List.cons.inj same
      rw [ih cut']

end Stencil.Html
