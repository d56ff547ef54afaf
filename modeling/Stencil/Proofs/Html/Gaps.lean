import Stencil.Proofs.Html.Squeezing

/-!
# Gaps

A gap is a run of blanks directly between a `>` and a `<`, wherever these two stand. All that minification removes
inside a text are gaps, each of them as a whole (`exists_tightens`). A text without gaps is left as it is
(`Tightens.eq_of_not_hasGap`), and what is left of a text is put together from what is left of its parts, if it is cut
where no gap can lie.
-/

namespace Stencil.Html

/-- Is there a `>` in the text, and behind it blanks up to a `<`? -/
def hasGap : List Char → Bool
  | [] => false
  | c :: cs => (c == '>' && beginsWith isBlank cs && (cs.dropWhile isBlank).head? == some '<') || hasGap cs

/-- The second text is the first one with some of its gaps removed; `closed` tells whether a `>` stands in front of
both. -/
inductive Tightens : (closed : Bool) → List Char → List Char → Prop
  | nil {closed : Bool} : Tightens closed [] []
  | drops {c : Char} {cs ds : List Char} : isBlank c → ds.head? = some '<' → Tightens true cs ds →
    Tightens true (c :: cs) ds
  | keeps {closed : Bool} {c : Char} {cs ds : List Char} : Tightens (c == '>') cs ds →
    Tightens closed (c :: cs) (c :: ds)

variable {closed : Bool} {c : Char} {cs ds front rest out : List Char}

/-! ## What minification removes -/

/-- Which blanks at the start are removed depends on what is in front only by whether they go. -/
theorem thin_congr {closed closed' : Option Bool} {items : List Item}
    (same : goes closed (next? items) = goes closed' (next? items)) : thin closed items = thin closed' items := by
  induction items with
  | nil => rfl
  | cons item items ih =>
    cases blank : item.isBlank with
    | false => rw [thin_of_not_blank blank, thin_of_not_blank blank]
    | true =>
      rw [next?_cons_of_blank blank] at same
      cases go : goes closed (next? items) with
      | true => rw [thin_of_goes blank go, thin_of_goes blank (same ▸ go), ih same]
      | false => rw [thin_of_stays blank go, thin_of_stays blank (same ▸ go), ih same]

/-- Where blanks go in front of a `<`, what is left begins with it. -/
theorem head?_thin_of_cut {closed : Option Bool} {items : List Item} {item : Item} (cut : Cut cs items)
    (next : next? items = some item) (opens : item.opens) (go : goes closed (next? items)) :
    (textOf (thin closed items)).head? = some '<' := by
  induction cut with
  | nil => cases next
  | element is cut ih =>
    obtain ⟨inner, rfl⟩ := is.eq_tag
    rw [thin_of_not_blank rfl]
    rfl
  | @plain c rest items none cut ih =>
    cases blank : Item.isBlank (.plain c) with
    | true =>
      rw [next?_cons_of_blank blank] at next go
      rw [thin_of_goes blank go]
      exact ih next go
    | false =>
      rw [next?_cons_of_not_blank blank] at next
      obtain rfl := Option.some.inj next
      rw [thin_of_not_blank blank]
      exact congrArg some (of_decide_eq_true opens)

theorem Tightens.append (h : Tightens true cs ds) (front : List Char) (closed : Bool) :
    Tightens closed (front ++ '>' :: cs) (front ++ '>' :: ds) := by
  induction front generalizing closed with
  | nil => exact .keeps h
  | cons c front ih => exact .keeps (ih _)

theorem Tightens.ne_nil (h : Tightens closed cs ds) (nonempty : ds ≠ []) : cs ≠ [] := by
  cases h with
  | nil => exact nonempty
  | drops | keeps => exact List.cons_ne_nil _ _

theorem stripEnd_cons_of_ne_nil (more : stripEnd cs ≠ []) (c : Char) : stripEnd (c :: cs) = c :: stripEnd cs := by
  rw [stripEnd_cons, if_neg fun both => more both.2]

theorem textOf_thin_ne_nil {closed : Option Bool} {items : List Item} {item : Item} (cut : Cut cs items)
    (next : next? items = some item) : textOf (thin closed items) ≠ [] := by
  intro nothing
  have cutAgain := cut.thin closed
  rw [nothing] at cutAgain
  exact thin_ne_nil next (cutAgain.unique .nil)

/-- Behind a piece, what minification removes are gaps, and the blanks at the end. -/
theorem tightens_of_cut {items : List Item} (cut : Cut cs items) (closed : Bool) :
    Tightens closed (stripEnd cs) (textOf (thin (some closed) items)) := by
  induction cut generalizing closed with
  | nil => exact .nil
  | element is cut ih =>
    obtain ⟨inner, rfl⟩ := is.eq_tag
    rw [thin_of_not_blank rfl, textOf_element, ← List.cons_append, List.append_assoc, List.append_assoc,
      List.singleton_append, List.singleton_append, stripEnd_append_cons (by decide)]
    exact (ih true).append ('<' :: inner) closed
  | @plain c rest items none cut ih =>
    rcases thin_cases (some closed) (.plain c) items with ⟨blank, go, thinned⟩ | ⟨blank, stay, thinned⟩
      | ⟨other, thinned⟩ <;> rw [thinned]
    · cases next : next? items with
      | none =>
        -- only blanks follow, and all of them are at the end
        have blanks : ∀ d ∈ c :: rest, isBlank d := by
          refine List.forall_mem_cons.2 ⟨blank, ?_⟩
          rw [← cut.textOf_eq]
          exact fun d mem => isBlank_of_mem_textOf next mem
        have nothing : stripEnd ([] ++ c :: rest) = [] := stripEnd_append_blanks blanks rfl
        rw [List.nil_append] at nothing
        rw [thin_eq_nil next, nothing]
        exact .nil
      | some item =>
        rw [next] at go
        obtain ⟨rfl, opens⟩ : closed = true ∧ item.opens = true := Bool.and_eq_true_iff.1 go
        have head := head?_thin_of_cut cut next opens (next ▸ go)
        have more := (ih true).ne_nil (textOf_thin_ne_nil cut next)
        rw [stripEnd_cons_of_ne_nil more]
        exact .drops blank head (ih true)
    · have apart : (c == '>') = false := by
        have blank : isBlank c := blank
        rw [beq_eq_false_iff_ne]
        rintro rfl
        exact absurd blank (by decide)
      -- the blanks stay, as they would behind anything that is no `>`
      cases next : next? items with
      | none =>
        rw [next] at stay
        cases stay
      | some item =>
        have same : thin (some closed) items = thin (some false) items := by
          apply thin_congr
          rw [stay, next]
          rfl
        have more := (ih closed).ne_nil (textOf_thin_ne_nil cut next)
        rw [stripEnd_cons_of_ne_nil more, textOf_plain, same]
        exact .keeps (apart ▸ ih false)
    · have solid : isBlank c = false := other
      rw [show stripEnd (c :: rest) = c :: stripEnd rest from stripEnd_append_cons solid [] rest, textOf_plain]
      exact .keeps (ih (c == '>'))

/-- All that minification removes are gaps, and the blanks at both ends. -/
theorem tightens_strip {items : List Item} (cut : Cut cs items) :
    Tightens false (strip cs) (textOf (thin none items)) := by
  induction cut with
  | nil => exact .nil
  | @element element rest items is cut ih =>
    obtain ⟨inner, rfl⟩ := is.eq_tag
    have begins : stripStart ('<' :: (inner ++ ['>']) ++ rest) = '<' :: (inner ++ ['>']) ++ rest :=
      List.dropWhile_cons_of_neg (by decide)
    have behind := tightens_of_cut (.element is cut) false
    rw [thin_of_not_blank rfl] at behind ⊢
    rwa [strip, begins]
  | @plain c rest items none cut ih =>
    cases blank : isBlank c with
    | true =>
      rw [thin_of_goes (show Item.isBlank (.plain c) from blank) rfl,
        show strip (c :: rest) = strip rest from congrArg stripEnd (List.dropWhile_cons_of_pos blank)]
      exact ih
    | false =>
      have begins : stripStart (c :: rest) = c :: rest := List.dropWhile_cons_of_neg (Bool.eq_false_iff.1 blank)
      have behind := tightens_of_cut (.plain none cut) false
      rw [thin_of_not_blank (show Item.isBlank (.plain c) = false from blank)] at behind ⊢
      rwa [strip, begins]

/-- Minification leaves the text between its ends, but for some gaps. -/
theorem exists_tightens {html : String} (free : IsFree html.toList) :
    ∃ out, minify html = .ok (String.ofList out) ∧ Tightens false (strip html.toList) out := by
  obtain ⟨items, cut⟩ := exists_cut html.toList
  exact ⟨_, minify_cut free cut, tightens_strip cut⟩

/-! ## What is left of parts -/

theorem Tightens.subset (h : Tightens closed cs ds) : ds ⊆ cs := by
  induction h with
  | nil => exact fun _ mem => mem
  | drops _ _ _ ih => exact fun d mem => List.mem_cons_of_mem _ (ih mem)
  | keeps _ ih => exact List.cons_subset_cons _ ih

/-- A text without a `<` is left as it is. -/
theorem Tightens.eq_of_not_mem (h : Tightens closed cs ds) (missing : '<' ∉ cs) : ds = cs := by
  induction h with
  | nil => rfl
  | drops _ head later _ =>
    exact absurd (List.mem_cons_of_mem _ (later.subset (List.mem_of_mem_head? head))) missing
  | keeps _ ih => rw [ih (List.not_mem_of_not_mem_cons missing)]

/-- In front of what begins with `<` stands a `<`, with blanks between at most. -/
theorem Tightens.head?_dropWhile (h : Tightens closed cs ds) (head : ds.head? = some '<') :
    (cs.dropWhile isBlank).head? = some '<' := by
  induction h with
  | nil => cases head
  | drops blank _ _ ih =>
    rw [List.dropWhile_cons_of_pos blank]
    exact ih head
  | keeps _ _ =>
    obtain rfl := Option.some.inj head
    rw [List.dropWhile_cons_of_neg (by decide)]
    rfl

/-- A text without gaps is left as it is. -/
theorem Tightens.eq_of_not_hasGap (h : Tightens closed cs ds) (none : hasGap cs = false)
    (start : closed → beginsWith isBlank cs → (cs.dropWhile isBlank).head? ≠ some '<') : ds = cs := by
  induction h with
  | nil => rfl
  | drops blank head later _ =>
    refine absurd ?_ (start rfl blank)
    rw [List.dropWhile_cons_of_pos blank]
    exact later.head?_dropWhile head
  | keeps _ ih =>
    rw [hasGap, Bool.or_eq_false_iff] at none
    rw [ih none.2 fun behind begins opens => ?_]
    simp [behind, begins, opens] at none

/-- At a character that is no blank and no `<`, a text may be cut. -/
theorem Tightens.exists_of_append_cons (h : Tightens closed (front ++ c :: rest) out) (solid : isBlank c = false)
    (other : c ≠ '<') :
    ∃ front' rest', out = front' ++ c :: rest' ∧ Tightens closed front front' ∧ Tightens (c == '>') rest rest' := by
  induction front generalizing closed out with
  | nil =>
    cases h with
    | drops blank =>
      rw [solid] at blank
      cases blank
    | keeps later => exact ⟨[], _, rfl, .nil, later⟩
  | cons d front ih =>
    cases h with
    | drops blank head later =>
      obtain ⟨front', rest', rfl, before, behind⟩ := ih later
      refine ⟨front', rest', rfl, .drops blank ?_ before, behind⟩
      cases front' with
      | nil => exact absurd (Option.some.inj head) other
      | cons e front' => exact head
    | keeps later =>
      obtain ⟨front', rest', rfl, before, behind⟩ := ih later
      exact ⟨d :: front', rest', rfl, .keeps before, behind⟩

/-- Without a `>`, the front of a text is left as it is. -/
theorem Tightens.exists_of_append (h : Tightens false (front ++ rest) out) (missing : '>' ∉ front) :
    ∃ rest', out = front ++ rest' ∧ Tightens false rest rest' := by
  induction front generalizing out with
  | nil => exact ⟨out, rfl, h⟩
  | cons c front ih =>
    obtain ⟨first, later⟩ := List.ne_and_not_mem_of_not_mem_cons missing
    cases h with
    | keeps behind =>
      rw [beq_eq_false_iff_ne.2 first.symm] at behind
      obtain ⟨rest', rfl, left⟩ := ih behind later
      exact ⟨rest', rfl, left⟩

/-- Of a run without `<`, nothing is lost but blanks at its end, behind a `>`. -/
theorem Tightens.exists_of_run (h : Tightens closed (front ++ rest) out) (missing : '<' ∉ front) :
    ∃ front' blanks rest' closed', front = front' ++ blanks ∧ out = front' ++ rest' ∧ Tightens closed' rest rest'
      ∧ (∀ c ∈ blanks, isBlank c)
      ∧ (blanks = [] ∨ front'.getLast? = some '>' ∨ (closed ∧ front' = [])) := by
  induction front generalizing closed out with
  | nil => exact ⟨[], [], out, closed, rfl, rfl, h, by simp, .inl rfl⟩
  | cons c front ih =>
    obtain ⟨first, later⟩ := List.ne_and_not_mem_of_not_mem_cons missing
    cases h with
    | drops blank head behind =>
      obtain ⟨front', blanks, rest', closed', rfl, rfl, left, inside, -⟩ := ih behind later
      cases front' with
      | nil =>
        refine ⟨[], c :: blanks, rest', closed', rfl, rfl, left, List.forall_mem_cons.2 ⟨blank, inside⟩, ?_⟩
        exact .inr (.inr ⟨rfl, rfl⟩)
      | cons d front' =>
        obtain rfl := Option.some.inj head
        simp at later
    | keeps behind =>
      obtain ⟨front', blanks, rest', closed', rfl, rfl, left, inside, shape⟩ := ih behind later
      refine ⟨c :: front', blanks, rest', closed', rfl, rfl, left, inside, ?_⟩
      rcases shape with none | last | ⟨close, rfl⟩
      · exact .inl none
      · refine .inr (.inl ?_)
        rw [List.getLast?_cons, last]
        rfl
      · refine .inr (.inl ?_)
        rw [beq_iff_eq.1 close]
        rfl

end Stencil.Html
