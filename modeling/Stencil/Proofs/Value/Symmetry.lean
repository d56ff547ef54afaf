import Stencil.Value.Equality

/-!
# Comparison is symmetric

None of the three equalities of values asks which side a value stands on: the one of keys and items (`same_comm`),
the one of whole values (`equal_comm`), and the comparison in conditions (`agrees_symmetric`). None of them is an
equivalence: what is no number differs from itself, and a text may agree with two numbers that differ. So symmetry is
shown along the values. Sets and maps are compared in both directions, which is where the order could matter.
-/

namespace Stencil.Value

/-! ## Values that are no containers -/

theorem sameLeaf_comm (v w : Value) : sameLeaf v w = sameLeaf w v := by
  unfold sameLeaf
  cases v.number? with
  | some a =>
    cases w.number? with
    | some b => exact decide_eq_decide.2 eq_comm
    | none => rfl
  | none =>
    cases w.number? with
    | some b => rfl
    | none =>
      cases v.text? with
      | some s =>
        cases w.text? with
        | some t => exact decide_eq_decide.2 eq_comm
        | none => rfl
      | none =>
        cases w.text? with
        | some t => rfl
        | none => cases v <;> cases w <;> first | rfl | exact decide_eq_decide.2 eq_comm

/-! ## Rows without regard to order -/

/-- Whether each member of two rows has a like one in the other row does not depend on which row is the first. -/
theorem all_any_comm {α : Type} (like : α → α → Bool) {xs : List α} (comm : ∀ x ∈ xs, ∀ y, like x y = like y x)
    (ys : List α) :
    ((xs.all fun x => ys.any fun y => like x y) && ys.all fun y => xs.any fun x => like x y)
      = ((ys.all fun y => xs.any fun x => like y x) && xs.all fun x => ys.any fun y => like y x) := by
  have swap : ∀ x ∈ xs, ∀ y, like x y = true ↔ like y x = true := fun x mem y => by rw [comm x mem y]
  rw [Bool.and_comm, Bool.eq_iff_iff]
  simp only [Bool.and_eq_true, List.all_eq_true, List.any_eq_true]
  apply and_congr
  · exact forall₂_congr fun y _ => exists_congr fun x => and_congr_right fun mem => swap x mem y
  · exact forall₂_congr fun x mem => exists_congr fun y => and_congr_right fun _ => swap x mem y

theorem sameLeafEntries_comm (entries others : List (Value × Value)) :
    sameLeafEntries entries others = sameLeafEntries others entries := by
  refine all_any_comm (fun e f => sameLeaf e.1 f.1 && sameLeaf e.2 f.2) (fun e _ f => ?_) others
  rw [sameLeaf_comm e.1, sameLeaf_comm e.2]

theorem allHaveLike_eq_all (items others : List Value) :
    allHaveLike items others = items.all fun v => others.any fun w => same v w := by
  induction items with
  | nil => rfl
  | cons v rest ih => rw [allHaveLike, ih, List.all_cons]

theorem hasLike_eq_any (items : List Value) (w : Value) : hasLike items w = items.any fun v => same v w := by
  induction items with
  | nil => rfl
  | cons v rest ih => rw [hasLike, ih, List.any_cons]

theorem allHaveEntryLike_eq_all (entries others : List (Value × Value)) :
    allHaveEntryLike entries others = entries.all fun e => others.any fun f => same e.1 f.1 && same e.2 f.2 := by
  induction entries with
  | nil => rfl
  | cons e rest ih => rw [allHaveEntryLike, ih, List.all_cons]

theorem hasEntryLike_eq_any (entries : List (Value × Value)) (other : Value × Value) :
    hasEntryLike entries other = entries.any fun e => same e.1 other.1 && same e.2 other.2 := by
  induction entries with
  | nil => rfl
  | cons e rest ih => rw [hasEntryLike, ih, List.any_cons]

/-! ## The three equalities -/

mutual

theorem same_comm : ∀ v w : Value, same v w = same w v
  | .list items, w => by
    cases w with
    | list others => exact sameItems_comm items others
    | _ => simp only [same]; exact sameLeaf_comm _ _
  | .tuple items, w => by
    cases w with
    | tuple others => exact sameItems_comm items others
    | _ => simp only [same]; exact sameLeaf_comm _ _
  | .set _ items, w => by
    cases w with
    | set _ others =>
      simp only [same, allHaveLike_eq_all, funext (hasLike_eq_any _)]
      exact all_any_comm same (same_comm_of_mem items) others
    | _ => simp only [same]; exact sameLeaf_comm _ _
  | .map entries, w => by
    cases w with
    | map others =>
      simp only [same, allHaveEntryLike_eq_all, funext (hasEntryLike_eq_any _)]
      exact all_any_comm (fun e f => same e.1 f.1 && same e.2 f.2) (same_comm_of_mem_entries entries) others
    | loop s => simp only [same]; exact sameLeafEntries_comm _ _
    | _ => simp only [same]; exact sameLeaf_comm _ _
  | .loop s, w => by
    cases w with
    | map others => simp only [same]; exact sameLeafEntries_comm _ _
    | _ => simp only [same]; exact sameLeaf_comm _ _
  | .null, w | .undefined, w | .bool _, w | .int _, w | .float _, w | .notANumber _, w | .text _, w | .markup _, w
  | .bytes _, w | .foreign _ _ _, w => by
    cases w <;> simp only [same] <;> exact sameLeaf_comm _ _

theorem sameItems_comm : ∀ items others : List Value, sameItems items others = sameItems others items
  | [], [] => rfl
  | [], _ :: _ => rfl
  | _ :: _, [] => rfl
  | v :: rest, w :: others => by rw [sameItems, sameItems, same_comm v w, sameItems_comm rest others]

theorem same_comm_of_mem : ∀ items : List Value, ∀ v ∈ items, ∀ w, same v w = same w v
  | [] => by simp
  | v :: rest => List.forall_mem_cons.2 ⟨same_comm v, same_comm_of_mem rest⟩

theorem same_comm_of_mem_entries : ∀ entries : List (Value × Value), ∀ e ∈ entries, ∀ f : Value × Value,
    (same e.1 f.1 && same e.2 f.2) = (same f.1 e.1 && same f.2 e.2)
  | [] => by simp
  | (k, v) :: rest =>
    List.forall_mem_cons.2 ⟨fun f => by rw [same_comm k, same_comm v], same_comm_of_mem_entries rest⟩

end

theorem equal_comm (v w : Value) : equal v w = equal w v := by
  cases v with
  | notANumber m => cases w <;> rfl
  | _ =>
    cases w with
    | notANumber n => rfl
    | _ => exact same_comm _ _

theorem isNumber_of_text? {v : Value} {s : String} (isText : v.text? = some s) : v.isNumber = false := by
  cases v with
  | text | markup => rfl
  | _ => cases isText

/-- **The comparison in conditions is symmetric**, for values of any kinds and any depth, and says no if exactly one of
the two values is the one of a path that leads nowhere. -/
theorem agrees_symmetric (v w : Value) :
    agrees v w = agrees w v ∧ (v.isUndefined ≠ w.isUndefined → agrees v w = false) := by
  constructor
  · unfold agrees
    rw [Bool.or_comm, Bool.and_comm]
    split
    · rfl
    · cases left : v.text? with
      | some s =>
        cases right : w.text? with
        | some t =>
          -- two texts are compared as whole values, since neither is a number
          dsimp only
          rw [isNumber_of_text? left, isNumber_of_text? right]
          exact equal_comm v w
        | none =>
          dsimp only
          rw [equal_comm v w, decide_eq_decide.2 (eq_comm (a := s))]
      | none =>
        cases right : w.text? with
        | some t =>
          dsimp only
          rw [equal_comm v w, decide_eq_decide.2 (eq_comm (a := v.output))]
        | none => exact equal_comm v w
  · intro oneAbsent
    unfold agrees
    cases absent : v.isUndefined with
    | true =>
      have there : w.isUndefined = false := by simpa [absent] using oneAbsent.symm
      rw [there]
      rfl
    | false =>
      have other : w.isUndefined = true := by simpa [absent] using oneAbsent.symm
      rw [other]
      rfl

/-- An absent value and an empty text print alike and do not agree. -/
theorem absent_disagrees_with_empty :
    undefined.isUndefined ≠ (text "").isUndefined ∧ undefined.output = (text "").output
      ∧ agrees undefined (text "") = false ∧ agrees (text "") undefined = false := by
  have different : undefined.isUndefined ≠ (text "").isUndefined := by decide
  obtain ⟨symmetric, disagrees⟩ := agrees_symmetric undefined (text "")
  exact ⟨different, rfl, disagrees different, symmetric ▸ disagrees different⟩

end Stencil.Value
