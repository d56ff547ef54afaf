import Stencil.Value.Equality

/-!
# Keys of mappings

A mapping is asked for a text or for an integer. The keys that a text finds are the texts of the same characters,
trusted or not. The keys that an integer finds are the numbers of the same exact value: integers, truth values and
floating-point numbers.
-/

namespace Stencil

theorem dyadic_ofInt_inj {m n : Int} : Dyadic.ofInt m = Dyadic.ofInt n ↔ m = n := by
  constructor
  · intro same
    have values : (m : Dyadic).toRat = (n : Dyadic).toRat := congrArg Dyadic.toRat same
    rw [Dyadic.toRat_intCast, Dyadic.toRat_intCast] at values
    exact Rat.intCast_inj.1 values
  · rintro rfl
    rfl

namespace Value

/-- Is the key the integer, as a number of any kind? A truth value counts as one or zero. -/
inductive IsInteger (n : Int) : Value → Prop
  | int : IsInteger n (.int n)
  | bool {b : Bool} : (if b then 1 else 0) = n → IsInteger n (.bool b)
  | float {x : Binary64} : x.toDyadic? = some (n : Dyadic) → IsInteger n (.float x)

/-- The keys that a name finds are the texts of the name, trusted or not. -/
theorem same_text_iff {k : Value} {name : String} : same k (text name) = true ↔ k.text? = some name := by
  have leaf : same k (text name) = sameLeaf k (text name) := by
    cases k <;> simp only [same]
  rw [leaf]
  cases k with
  | float x => cases x <;> simp [sameLeaf, number?, text?, Binary64.toDyadic?]
  | _ => simp [sameLeaf, number?, text?]

theorem same_of_text? {k l : Value} {s : String} (isText : k.text? = some s) (isText' : l.text? = some s) :
    same k l = true := by
  cases k with
  | text _ | markup _ =>
    cases l with
    | text _ | markup _ =>
      obtain rfl := Option.some.inj isText
      obtain rfl := Option.some.inj isText'
      simp [same, sameLeaf, number?, text?]
    | _ => cases isText'
  | _ => cases isText

/-- The keys that an integer finds are the numbers of its value. -/
theorem same_int_iff {k : Value} {n : Int} : same k (int n) = true ↔ IsInteger n k := by
  have leaf : same k (int n) = sameLeaf k (int n) := by
    cases k <;> simp only [same]
  have number : sameLeaf k (int n) = true ↔ k.number? = some (.finite (Dyadic.ofInt n)) := by
    unfold sameLeaf
    cases k.number? <;> simp [number?]
  rw [leaf, number]
  constructor
  · intro value
    cases k with
    | int i =>
      simp only [number?, Option.some.injEq, ExactNumber.finite.injEq, dyadic_ofInt_inj] at value
      exact value ▸ .int
    | bool b =>
      simp only [number?, Option.some.injEq, ExactNumber.finite.injEq, dyadic_ofInt_inj] at value
      exact .bool value
    | float x =>
      refine .float ?_
      rw [number?] at value
      cases finite : x.toDyadic? with
      | some d =>
        rw [finite] at value
        rw [ExactNumber.finite.inj (Option.some.inj value)]
        rfl
      | none =>
        rw [finite] at value
        cases value
    | _ => cases value
  · intro isInteger
    cases isInteger with
    | int => rfl
    | bool value => rw [number?, value]
    | float value => rw [number?, value]; rfl

end Value

end Stencil
