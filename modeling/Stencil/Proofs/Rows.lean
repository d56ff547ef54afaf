import Mathlib.Data.List.Chain
import Mathlib.Data.List.Forall2

/-!
# Rows that correspond

Two rows correspond if they are of one length and related at every place. What holds at each place or between
neighbours of one of them is carried over to the other.
-/

namespace Stencil

variable {α β γ : Type} {R : α → β → Prop}

theorem exists_of_forall₂ {xs : List α} {ys : List β} (h : List.Forall₂ R xs ys) {y : β} (mem : y ∈ ys) :
    ∃ x ∈ xs, R x y := by
  induction h with
  | nil => cases mem
  | cons related _ ih =>
    rcases List.mem_cons.1 mem with rfl | mem
    · exact ⟨_, List.mem_cons_self, related⟩
    · obtain ⟨x, mem, related⟩ := ih mem
      exact ⟨x, List.mem_cons_of_mem _ mem, related⟩

/-- If something corresponds to each item of a row, then a row corresponds to the row. -/
theorem exists_forall₂ {ys : List β} (each : ∀ y ∈ ys, ∃ x, R x y) : ∃ xs, List.Forall₂ R xs ys := by
  induction ys with
  | nil => exact ⟨[], .nil⟩
  | cons y rest ih =>
    obtain ⟨x, related⟩ := each y List.mem_cons_self
    obtain ⟨xs, others⟩ := ih fun z mem => each z (List.mem_cons_of_mem _ mem)
    exact ⟨x :: xs, .cons related others⟩

/-- Two rows that correspond to the same row correspond to each other. -/
theorem forall₂_of_common {S : α → γ → Prop} {T : γ → β → Prop} {xs : List α} {ys : List β} {zs : List γ}
    (h : List.Forall₂ R xs ys) (h' : List.Forall₂ S xs zs) (imp : ∀ {x y z}, R x y → S x z → T z y) :
    List.Forall₂ T zs ys := by
  induction h generalizing zs with
  | nil =>
    cases h'
    exact .nil
  | cons related _ ih =>
    cases h' with
    | cons related' others => exact .cons (imp related related') (ih others)

/-- A row that corresponds to one in two parts is in two parts as well. -/
theorem exists_of_forall₂_append {xs : List α} {ys zs : List β} (h : List.Forall₂ R xs (ys ++ zs)) :
    ∃ front back, xs = front ++ back ∧ List.Forall₂ R front ys ∧ List.Forall₂ R back zs :=
  ⟨_, _, (List.take_append_drop ys.length xs).symm, List.forall₂_take_append xs ys zs h,
    List.forall₂_drop_append xs ys zs h⟩

/-- A row that corresponds to one with a block in front has a block in front as well. -/
theorem exists_of_forall₂_block {xs : List α} {opener closer : β} {body rest : List β}
    (h : List.Forall₂ R xs (opener :: body ++ closer :: rest)) :
    ∃ a inside b behind, xs = a :: inside ++ b :: behind ∧ R a opener ∧ List.Forall₂ R inside body
      ∧ R b closer ∧ List.Forall₂ R behind rest := by
  obtain ⟨front, back, rfl, eachFront, eachBack⟩ := exists_of_forall₂_append h
  obtain ⟨a, inside, opens, eachInside, rfl⟩ := List.forall₂_cons_right_iff.1 eachFront
  obtain ⟨b, behind, closes, eachBehind, rfl⟩ := List.forall₂_cons_right_iff.1 eachBack
  exact ⟨a, inside, b, behind, rfl, opens, eachInside, closes, eachBehind⟩

/-- What holds of neighbours in a row holds of those that correspond to them. -/
theorem isChain_of_forall₂ {S : α → α → Prop} {T : β → β → Prop} {xs : List α} {ys : List β}
    (h : List.Forall₂ R xs ys) (imp : ∀ {a b c d}, R a b → R c d → T b d → S a c) (chain : ys.IsChain T) :
    xs.IsChain S := by
  induction h with
  | nil => exact .nil
  | cons related others ih =>
    obtain ⟨border, chain⟩ := List.isChain_cons.1 chain
    refine List.isChain_cons.2 ⟨?_, ih chain⟩
    intro c next
    cases others with
    | nil => cases next
    | cons related' _ =>
      cases next
      exact imp related related' (border _ rfl)

end Stencil
