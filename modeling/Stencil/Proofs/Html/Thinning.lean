import Stencil.Proofs.Html.Elements
import Stencil.Proofs.Html.Minifying

/-!
# Which blanks are removed

Outside of elements, a blank is removed at both ends of a text and where the blanks around it stand directly between a
`>` and a `<`; an element counts as a tag there. `thin` says so of the pieces of a text. On a text without elements,
`thin` is what collapsing and stripping do (`map_plain_strip`). What it removes is found nowhere in the rest
(`thin_thin`).
-/

namespace Stencil.Html

/-- Is the piece a blank outside of elements? -/
def Item.isBlank : Item → Bool
  | .plain c => Stencil.isBlank c
  | .element _ => false

/-- Does the piece begin with `<`? -/
def Item.opens : Item → Bool
  | .plain c => c = '<'
  | .element _ => true

/-- Does the piece end with `>`? -/
def Item.closes : Item → Bool
  | .plain c => c = '>'
  | .element _ => true

/-- The first piece that is no blank. -/
def next? (items : List Item) : Option Item :=
  items.find? fun item => !item.isBlank

/-- Do blanks go in front of `next`, where `closed` tells whether the last piece before them that is no blank ends
with `>`? At both ends of a text they do. -/
def goes : (closed : Option Bool) → (next : Option Item) → Bool
  | some closed, some next => closed && next.opens
  | _, _ => true

/-- The pieces that are left. -/
def thin (closed : Option Bool) : List Item → List Item
  | [] => []
  | item :: items =>
    if item.isBlank then
      if goes closed (next? items) then thin closed items else item :: thin closed items
    else item :: thin (some item.closes) items

theorem next?_cons_of_blank {item : Item} (blank : item.isBlank) (items : List Item) :
    next? (item :: items) = next? items := by
  rw [next?, List.find?_cons_of_neg (by simp [blank])]
  rfl

theorem next?_cons_of_not_blank {item : Item} (other : item.isBlank = false) (items : List Item) :
    next? (item :: items) = some item := by
  rw [next?, List.find?_cons_of_pos (by simp [other])]

theorem thin_of_goes {closed : Option Bool} {item : Item} {items : List Item} (blank : item.isBlank)
    (go : goes closed (next? items)) : thin closed (item :: items) = thin closed items := by
  rw [thin, if_pos blank, if_pos go]

theorem thin_of_stays {closed : Option Bool} {item : Item} {items : List Item} (blank : item.isBlank)
    (stay : goes closed (next? items) = false) : thin closed (item :: items) = item :: thin closed items := by
  rw [thin, if_pos blank, stay]
  rfl

theorem thin_of_not_blank {item : Item} (other : item.isBlank = false) (closed : Option Bool) (items : List Item) :
    thin closed (item :: items) = item :: thin (some item.closes) items := by
  rw [thin, other]
  rfl

/-- A piece is removed, or it is left. -/
theorem thin_cases (closed : Option Bool) (item : Item) (items : List Item) :
    (item.isBlank ∧ goes closed (next? items) ∧ thin closed (item :: items) = thin closed items)
      ∨ (item.isBlank ∧ goes closed (next? items) = false ∧ thin closed (item :: items) = item :: thin closed items)
      ∨ (item.isBlank = false ∧ thin closed (item :: items) = item :: thin (some item.closes) items) := by
  cases blank : item.isBlank with
  | false => exact .inr (.inr ⟨rfl, thin_of_not_blank blank closed items⟩)
  | true =>
    cases go : goes closed (next? items) with
    | true => exact .inl ⟨rfl, rfl, thin_of_goes blank go⟩
    | false => exact .inr (.inl ⟨rfl, rfl, thin_of_stays blank go⟩)

theorem sublist_thin (closed : Option Bool) (items : List Item) : (thin closed items).Sublist items := by
  induction items generalizing closed with
  | nil => exact List.Sublist.refl _
  | cons item items ih =>
    rcases thin_cases closed item items with ⟨-, -, thinned⟩ | ⟨-, -, thinned⟩ | ⟨-, thinned⟩ <;> rw [thinned]
    · exact (ih closed).cons item
    · exact (ih closed).cons_cons item
    · exact (ih _).cons_cons item

/-- Nothing but blanks is removed. -/
theorem filter_thin (closed : Option Bool) (items : List Item) :
    (thin closed items).filter (!·.isBlank) = items.filter (!·.isBlank) := by
  induction items generalizing closed with
  | nil => rfl
  | cons item items ih =>
    rcases thin_cases closed item items with ⟨blank, -, thinned⟩ | ⟨blank, -, thinned⟩ | ⟨other, thinned⟩ <;> rw [thinned]
    · rw [List.filter_cons_of_neg (by simp [blank]), ih]
    · rw [List.filter_cons_of_neg (by simp [blank]), List.filter_cons_of_neg (by simp [blank]), ih]
    · rw [List.filter_cons_of_pos (by simp [other]), List.filter_cons_of_pos (by simp [other]), ih]

theorem next?_thin (closed : Option Bool) (items : List Item) : next? (thin closed items) = next? items := by
  rw [next?, next?, ← List.head?_filter, ← List.head?_filter, filter_thin]

/-- The elements are left, in the same order. -/
theorem elementsOf_thin (closed : Option Bool) (items : List Item) : elementsOf (thin closed items) = elementsOf items := by
  have solid (items : List Item) : elementsOf (items.filter (!·.isBlank)) = elementsOf items := by
    rw [elementsOf, elementsOf, List.filterMap_filter]
    apply List.filterMap_congr
    intro item _
    cases item with
    | plain c => simp [Item.element?]
    | element text => rfl
  rw [← solid, filter_thin, solid]

/-- A second pass finds nothing to remove. -/
theorem thin_thin (closed : Option Bool) (items : List Item) : thin closed (thin closed items) = thin closed items := by
  induction items generalizing closed with
  | nil => rfl
  | cons item items ih =>
    rcases thin_cases closed item items with ⟨-, -, thinned⟩ | ⟨blank, stay, thinned⟩ | ⟨other, thinned⟩ <;> rw [thinned]
    · exact ih closed
    · rw [thin_of_stays blank (by rw [next?_thin, stay]), ih]
    · rw [thin_of_not_blank other, ih]

theorem next?_append {blanks : List Item} (blank : ∀ item ∈ blanks, item.isBlank) (items : List Item) :
    next? (blanks ++ items) = next? items := by
  induction blanks with
  | nil => rfl
  | cons item blanks ih =>
    obtain ⟨first, later⟩ := List.forall_mem_cons.1 blank
    rw [List.cons_append, next?_cons_of_blank first, ih later]

/-- A run of blanks is removed as a whole or left as a whole. -/
theorem thin_append {closed : Option Bool} {blanks : List Item} (blank : ∀ item ∈ blanks, item.isBlank)
    (items : List Item) :
    thin closed (blanks ++ items) = (if goes closed (next? items) then [] else blanks) ++ thin closed items := by
  induction blanks with
  | nil => simp
  | cons item blanks ih =>
    obtain ⟨first, later⟩ := List.forall_mem_cons.1 blank
    rw [List.cons_append]
    cases go : goes closed (next? items) with
    | true => rw [thin_of_goes first (by rw [next?_append later, go]), ih later, go]; rfl
    | false => rw [thin_of_stays first (by rw [next?_append later, go]), ih later, go]; rfl

theorem isBlank_of_next?_eq_none {items : List Item} (last : next? items = none) :
    ∀ item ∈ items, item.isBlank := by
  simpa [next?] using last

/-- At the end of a text, all blanks are removed. -/
theorem thin_eq_nil {closed : Option Bool} {items : List Item} (last : next? items = none) : thin closed items = [] := by
  have whole : thin closed (items ++ []) = _ := thin_append (isBlank_of_next?_eq_none last) []
  rw [List.append_nil] at whole
  rw [whole]
  cases closed <;> rfl

theorem thin_ne_nil {closed : Option Bool} {items : List Item} {item : Item} (more : next? items = some item) :
    thin closed items ≠ [] := by
  intro nothing
  rw [← next?_thin closed, nothing] at more
  cases more

/-! ## Texts without elements -/

theorem next?_map_plain (cs : List Char) : next? (cs.map .plain) = (cs.dropWhile isBlank).head?.map .plain := by
  induction cs with
  | nil => rfl
  | cons c rest ih =>
    cases blank : isBlank c with
    | true => rw [List.map_cons, next?_cons_of_blank (show Item.isBlank (.plain c) from blank), ih,
        List.dropWhile_cons_of_pos blank]
    | false =>
      rw [List.map_cons, next?_cons_of_not_blank (show Item.isBlank (.plain c) = false from blank),
        List.dropWhile_cons_of_neg (Bool.eq_false_iff.1 blank)]
      rfl

/-- Where the blanks at the start go, they need not be there. -/
theorem thin_dropWhile {closed : Option Bool} {cs : List Char} (go : goes closed (next? (cs.map .plain))) :
    thin closed ((cs.dropWhile isBlank).map .plain) = thin closed (cs.map .plain) := by
  obtain ⟨split, inside, -⟩ := takeWhile_dropWhile_spec isBlank cs
  have blank : ∀ item ∈ (cs.takeWhile isBlank).map Item.plain, item.isBlank := by
    intro item mem
    obtain ⟨c, there, rfl⟩ := List.mem_map.1 mem
    exact inside c there
  rw [split, List.map_append, next?_append blank] at go
  conv_rhs => rw [split, List.map_append, thin_append blank, if_pos go, List.nil_append]

theorem stripStart_collapse (cs : List Char) : stripStart (collapse cs) = collapse (stripStart cs) := by
  unfold stripStart
  fun_induction collapse cs with
  | case1 => rw [List.dropWhile_nil, collapse]
  | case2 c cs between _ =>
    obtain ⟨rfl, opens⟩ := between
    have solid : ¬ isBlank '>' := by decide
    rw [List.dropWhile_cons_of_neg solid, List.dropWhile_cons_of_neg solid, collapse, if_pos ⟨rfl, opens⟩]
  | case3 c cs between ih =>
    cases blank : isBlank c with
    | true => rw [List.dropWhile_cons_of_pos blank, List.dropWhile_cons_of_pos blank, ih]
    | false =>
      have solid := Bool.eq_false_iff.1 blank
      rw [List.dropWhile_cons_of_neg solid, List.dropWhile_cons_of_neg solid, collapse, if_neg between]

/-- Where blanks at the start do not go, collapsing and stripping at the end do what `thin` does. -/
theorem map_plain_stripEnd {cs : List Char} {closed : Option Bool}
    (stays : beginsWith isBlank cs → ∀ item, next? (cs.map .plain) = some item → goes closed (some item) = false) :
    (stripEnd (collapse cs)).map .plain = thin closed (cs.map .plain) := by
  fun_induction collapse cs generalizing closed with
  | case1 => rfl
  | case2 c cs between ih =>
    obtain ⟨rfl, opens⟩ := between
    have solid : ¬ isBlank '>' := by decide
    have go : goes (some true) (next? (cs.map .plain)) := by
      rw [next?_map_plain, opens]
      rfl
    have later : (stripEnd (collapse (cs.dropWhile isBlank))).map .plain = thin (some true) (cs.map .plain) := by
      rw [← thin_dropWhile go]
      exact ih fun begins => absurd begins (Bool.eq_false_iff.1 (beginsWith_dropWhile isBlank cs))
    rw [stripEnd_cons, if_neg (fun both => solid both.1), List.map_cons, List.map_cons, thin_of_not_blank (by decide),
      later]
    rfl
  | case3 c cs between ih =>
    rw [stripEnd_cons, List.map_cons]
    cases blank : isBlank c with
    | false =>
      have later : (stripEnd (collapse cs)).map .plain = thin (some (Item.closes (.plain c))) (cs.map .plain) := by
        apply ih
        intro _ item next
        rw [next?_map_plain] at next
        obtain ⟨d, first, rfl⟩ := Option.map_eq_some_iff.1 next
        rw [first, Option.some_inj] at between
        simpa [goes, Item.closes, Item.opens] using between
      rw [if_neg (by simp), List.map_cons, thin_of_not_blank (show Item.isBlank (.plain c) = false from blank), later]
    | true =>
      have plain : Item.isBlank (.plain c) := blank
      rw [List.map_cons, next?_cons_of_blank plain] at stays
      have later := ih fun _ => stays blank
      cases next : next? (cs.map .plain) with
      | none =>
        have nothing : thin closed (.plain c :: cs.map .plain) = [] :=
          thin_eq_nil (by rw [next?_cons_of_blank plain, next])
        rw [thin_eq_nil next, List.map_eq_nil_iff] at later
        rw [if_pos ⟨rfl, later⟩, nothing]
        rfl
      | some item =>
        have stay := stays blank item next
        rw [thin_of_stays plain (by rw [next, stay]), ← later, if_neg]
        · rfl
        · rintro ⟨-, nothing⟩
          rw [nothing] at later
          exact thin_ne_nil next later.symm

/-- Collapsing and stripping a text leaves what `thin` leaves. -/
theorem map_plain_strip (cs : List Char) : (strip (collapse cs)).map .plain = thin none (cs.map .plain) := by
  have go : goes none (next? (cs.map .plain)) := rfl
  rw [strip, stripStart_collapse, ← thin_dropWhile go]
  apply map_plain_stripEnd
  intro begins
  exact absurd begins (Bool.eq_false_iff.1 (beginsWith_dropWhile isBlank cs))

/-! ## What is left -/

/-- The second text is what is left of the first one when blanks are lost at the end, or while nothing but blanks has
come since a `>`; `open_` tells whether this is so at the start. -/
inductive Loses : (open_ : Bool) → List Char → List Char → Prop
  | ends {open_ blanks} : (∀ c ∈ blanks, isBlank c) → Loses open_ blanks []
  | drops {c cs ds} : isBlank c → Loses true cs ds → Loses true (c :: cs) ds
  | keeps {open_ c cs ds} : Loses (c == '>' || (isBlank c && open_)) cs ds → Loses open_ (c :: cs) (c :: ds)

/-- Up to a `>`, nothing is lost. -/
theorem Loses.exists_behind {cs front ds : List Char} (h : Loses false cs (front ++ ds)) (missing : '>' ∉ front) :
    ∃ behind, cs = front ++ behind ∧ Loses false behind ds := by
  induction front generalizing cs with
  | nil => exact ⟨cs, rfl, h⟩
  | cons c front ih =>
    obtain ⟨other, later⟩ := List.ne_and_not_mem_of_not_mem_cons missing
    cases h with
    | keeps rest =>
      have shut : (c == '>' || (isBlank c && false)) = false := by simp [other.symm]
      rw [shut] at rest
      obtain ⟨behind, rfl, left⟩ := ih rest later
      exact ⟨behind, rfl, left⟩

theorem Loses.head?_eq {cs ds : List Char} (h : Loses false cs ds) (nonempty : ds ≠ []) : cs.head? = ds.head? := by
  cases h with
  | ends => exact absurd rfl nonempty
  | keeps => rfl

/-- A tag that is left was there. -/
theorem Loses.tag_of_tag {open_ : Bool} {cs ds inner : List Char} (h : Loses open_ cs ds) (missing : '>' ∉ inner)
    (part : '<' :: (inner ++ ['>']) <:+: ds) : '<' :: (inner ++ ['>']) <:+: cs := by
  induction h with
  | ends => cases List.infix_nil.1 part
  | @drops c cs ds _ _ ih => exact (ih part).trans (List.suffix_cons c cs).isInfix
  | @keeps open_ c cs ds rest ih =>
    rcases List.infix_cons_iff.1 part with here | later
    · obtain ⟨rfl, more, split⟩ := List.cons_prefix_cons.1 here
      rw [List.append_assoc] at split
      rw [← split] at rest
      obtain ⟨behind, rfl, left⟩ := Loses.exists_behind rest missing
      have first : behind.head? = some '>' := left.head?_eq (List.cons_ne_nil _ _)
      obtain ⟨tail, rfl⟩ := List.head?_eq_some_iff.1 first
      exact ⟨[], tail, by simp⟩
    · exact (ih later).trans (List.suffix_cons c cs).isInfix

/-- An element may lose nothing. -/
theorem Loses.append {cs ds : List Char} (h : Loses true cs ds) (front : List Char) (open_ : Bool) :
    Loses open_ (front ++ ['>'] ++ cs) (front ++ ['>'] ++ ds) := by
  induction front generalizing open_ with
  | nil => exact .keeps h
  | cons c front ih => exact .keeps (ih _)

/-- If a text has no element at its start, it has none after a loss. -/
theorem Loses.not_prefix {c : Char} {cs ds : List Char} (none : ∀ e, IsElement e → ¬ e <+: c :: cs)
    (h : c = '<' → Loses false cs ds) : ∀ e, IsElement e → ¬ e <+: c :: ds := by
  rintro e ⟨written, inner, closing, name, edge, closes, -, rfl⟩ part
  obtain ⟨rfl, more, split⟩ := List.cons_prefix_cons.1 part
  have missing : '>' ∉ written := fun mem => (name.not_bracket mem).2 (by decide)
  have lost : Loses false cs (written ++ (inner ++ closing ++ more)) := by
    have lost := h rfl
    rw [← split] at lost
    simpa using lost
  obtain ⟨behind, rfl, left⟩ := lost.exists_behind missing
  obtain ⟨tag, shape, -, closed⟩ := closes.eq_tag name
  have nonempty : inner ++ closing ++ more ≠ [] := by simp [closes.ne_nil]
  have edge : beginsWith isWordChar behind = false := by
    rw [beginsWith, left.head?_eq nonempty]
    exact beginsWith_append_closing edge closes more
  have there : closing <:+: behind := by
    rw [shape]
    apply left.tag_of_tag closed
    rw [← shape]
    exact ⟨inner, more, rfl⟩
  obtain ⟨element, is, front⟩ := exists_element name edge closes there
  exact none element is front

theorem isBlank_of_mem_textOf {items : List Item} (last : next? items = none) {c : Char} (mem : c ∈ textOf items) :
    isBlank c := by
  obtain ⟨item, inside, part⟩ := List.mem_flatMap.1 mem
  have blank : item.isBlank := isBlank_of_next?_eq_none last item inside
  cases item with
  | plain d =>
    obtain rfl := List.mem_singleton.1 part
    exact blank
  | element text => cases blank

/-- What `thin` removes is lost in this way. -/
theorem Cut.loses {cs : List Char} {items : List Item} (h : Cut cs items) (closed : Option Bool) :
    Loses (closed.getD true) cs (textOf (thin closed items)) := by
  induction h generalizing closed with
  | nil => exact .ends (by simp)
  | @element element rest items is cut ih =>
    obtain ⟨inner, rfl⟩ := is.eq_tag
    rw [thin_of_not_blank rfl]
    exact (ih (some true)).append ('<' :: inner) _
  | @plain c rest items none cut ih =>
    rcases thin_cases closed (.plain c) items with ⟨blank, go, thinned⟩ | ⟨blank, -, thinned⟩ | ⟨other, thinned⟩ <;>
      rw [thinned]
    · cases next : next? items with
      | none =>
        rw [thin_eq_nil next]
        refine .ends (List.forall_mem_cons.2 ⟨blank, fun d mem => ?_⟩)
        rw [← cut.textOf_eq] at mem
        exact isBlank_of_mem_textOf next mem
      | some item =>
        have behind : closed.getD true = true := by
          rw [next] at go
          cases closed with
          | none => rfl
          | some b => exact (Bool.and_eq_true_iff.1 go).1
        have left := ih closed
        rw [behind] at left ⊢
        exact .drops blank left
    · have same : (c == '>' || (isBlank c && closed.getD true)) = closed.getD true := by
        have blank : isBlank c := blank
        have other : c ≠ '>' := by
          rintro rfl
          exact absurd blank (by decide)
        simp [other, blank]
      exact .keeps (by rw [same]; exact ih closed)
    · have same : (c == '>' || (isBlank c && closed.getD true)) = (some (Item.closes (.plain c))).getD true := by
        have solid : isBlank c = false := other
        simp [solid, Item.closes, beq_eq_decide]
      exact .keeps (by rw [same]; exact ih _)

/-- Cut again, the text that is left gives the pieces that are left. -/
theorem Cut.thin {cs : List Char} {items : List Item} (h : Cut cs items) (closed : Option Bool) :
    Cut (textOf (thin closed items)) (thin closed items) := by
  induction h generalizing closed with
  | nil => exact .nil
  | element is cut ih =>
    rw [thin_of_not_blank rfl]
    exact .element is (ih _)
  | @plain c rest items none cut ih =>
    rcases thin_cases closed (.plain c) items with ⟨-, -, thinned⟩ | ⟨blank, -, thinned⟩ | ⟨-, thinned⟩ <;> rw [thinned]
    · exact ih closed
    · have other : c ≠ '<' := by
        rintro rfl
        exact absurd blank (by decide)
      exact .plain (Loses.not_prefix none fun same => absurd same other) (ih closed)
    · refine .plain (Loses.not_prefix none ?_) (ih _)
      rintro rfl
      exact cut.loses (some false)

end Stencil.Html
