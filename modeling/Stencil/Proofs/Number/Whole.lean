import Stencil.Filter.Builtin
import Stencil.Proofs.Number.Integers
import Stencil.Proofs.Number.Layout

/-!
# Rounding integers

The decimal text of an integer is a numeral of the same value, and an integer of few enough digits is what it is
rounded to (`Filter.roundHalfAway_int`).
-/

namespace Stencil

/-- What holds of the ten ASCII digits holds of every digit. -/
theorem forall_isDigit {p : Char → Prop} [DecidablePred p] (each : ∀ d ∈ List.range 10, p (Nat.digitChar d))
    {c : Char} (h : c.isDigit) : p c := by
  have bounds : 48 ≤ c.toNat ∧ c.toNat ≤ 57 := by
    simpa [Char.isDigit, UInt32.le_iff_toNat_le] using h
  have among : ∀ n ∈ List.range' 48 10, Char.ofNat n = Nat.digitChar (n - 48) := by decide
  have same : c = Nat.digitChar (c.toNat - 48) := by
    rw [← among c.toNat (List.mem_range'_1.2 (by omega)), Char.ofNat_toNat]
  rw [same]
  exact each _ (List.mem_range.2 (by omega))

theorem isDigit_of_mem_toDigits {n : Nat} {c : Char} (mem : c ∈ Nat.toDigits 10 n) : c.isDigit :=
  Nat.isDigit_of_mem_toDigits (by decide) (by decide) mem

theorem strip_eq_self {cs : List Char} (none : ∀ c ∈ cs, isBlank c = false) : strip cs = cs := by
  have padded : strip ([] ++ cs ++ []) = cs := strip_padded (by simp) (by simp) (isTrimmed_of_forall none)
  simpa using padded

namespace Numeral

theorem plain?_eq_self {cs : List Char} (ascii : ∀ c ∈ cs, c ≠ '_' ∧ 0 < c.toNat ∧ c.toNat < 128) :
    plain? cs = some cs := by
  induction cs with
  | nil => rfl
  | cons c rest ih =>
    obtain ⟨⟨other, bounds⟩, later⟩ := List.forall_mem_cons.1 ascii
    rw [plain?, if_neg other, if_pos bounds, ih later]
    rfl

theorem readUnsigned?_toDigits {n : Nat} (few : n < 10 ^ Integer.greatestLength) (negative : Bool) :
    readUnsigned? negative (Nat.toDigits 10 n) = some (.finite negative n 0) := by
  have wordless : ((Nat.toDigits 10 n).map Char.toLower).takeWhile Char.isAlpha = [] := by
    cases digits : Nat.toDigits 10 n with
    | nil => rfl
    | cons d rest =>
      have digit : d.isDigit := isDigit_of_mem_toDigits (n := n) (digits ▸ List.mem_cons_self)
      have other : d.toLower.isAlpha = false :=
        forall_isDigit (p := fun c => c.toLower.isAlpha = false) (by decide) digit
      simp [other]
  have spelled : Spells (Nat.toDigits 10 n) (Nat.toDigits 10 n) [] [] 0 :=
    ⟨by simp, Nat.toDigits_ne_nil, fun c mem => isDigit_of_mem_toDigits mem, by simp, .inl rfl, rfl⟩
  have short : (Nat.toDigits 10 n).length ≤ Integer.greatestLength :=
    (Nat.length_toDigits_le_iff (by decide) (by decide)).2 few
  have fits : ((Nat.toDigits 10 n).length : Int) ≤ greatestExponent + 1 := by
    clear few
    simp only [Integer.greatestLength, greatestExponent] at *
    omega
  have read := spelled.readFinite? negative (by simpa using fits) (by decide)
  unfold readUnsigned?
  simp only [wordless]
  simpa [ofDigits_toDigits] using read

theorem mem_toString {i : Int} {c : Char} (mem : c ∈ (toString i).toList) : c = '-' ∨ c.isDigit := by
  rw [Integer.toList_toString] at mem
  split at mem
  · exact .inr (isDigit_of_mem_toDigits mem)
  · exact (List.mem_cons.1 mem).imp_right isDigit_of_mem_toDigits

/-- The decimal text of an integer that can be written is a numeral of its value. -/
theorem read?_toString {i : Int} (writable : Integer.isWritable i) :
    read? (toString i).toList = some (.finite (decide (i < 0)) i.natAbs 0) := by
  have stripped : strip (toString i).toList = (toString i).toList := by
    refine strip_eq_self fun c mem => ?_
    rcases mem_toString mem with rfl | digit
    · decide
    · exact forall_isDigit (p := fun c => isBlank c = false) (by decide) digit
  have ascii : plain? (toString i).toList = some (toString i).toList := by
    refine plain?_eq_self fun c mem => ?_
    rcases mem_toString mem with rfl | digit
    · decide
    · exact forall_isDigit (p := fun c => c ≠ '_' ∧ 0 < c.toNat ∧ c.toNat < 128) (by decide) digit
  have few : i.natAbs < 10 ^ Integer.greatestLength := Integer.isWritable_iff.1 writable
  rw [read?, stripped, ascii, Option.bind_some, Integer.toList_toString]
  rcases lt_or_ge i 0 with negative | nonneg
  · have magnitude : (-i).toNat = i.natAbs := by omega
    rw [if_neg (by omega), magnitude, decide_eq_true negative]
    exact readUnsigned?_toDigits few true
  · have magnitude : i.toNat = i.natAbs := by omega
    rw [if_pos nonneg, magnitude, decide_eq_false (by omega)]
    have signless {sign : Char} {rest : List Char} (digits : Nat.toDigits 10 i.natAbs = sign :: rest) :
        sign.isDigit :=
      isDigit_of_mem_toDigits (n := i.natAbs) (digits ▸ List.mem_cons_self)
    split
    · next digits => cases signless digits
    · next digits => cases signless digits
    · exact readUnsigned?_toDigits few false

theorem roundMagnitude?_whole {n : Nat} (few : n < 10 ^ precision) : roundMagnitude? n 0 = some n := by
  have short : (Nat.toDigits 10 n).length ≤ precision :=
    (Nat.length_toDigits_le_iff (by decide) (by decide)).2 few
  unfold roundMagnitude?
  split
  · next zero => rw [zero]
  · have size : ¬ (precision : Int) < digitCount n + 0 := by
      rw [digitCount]
      omega
    have nonneg : ¬ (digitCount n + 0 : Int) < 0 := by omega
    have few' : n * Nat.pow 10 (0 : Int).toNat < Nat.pow 10 precision := by simpa using few
    rw [if_neg size, if_neg nonneg]
    simp only [Int.le_refl, if_true, few']
    simp

end Numeral

theorem Filter.roundHalfAway_int (name : String) {i : Int} (few : i.natAbs < 10 ^ Numeral.precision) :
    roundHalfAway name (.int i) = .ok i := by
  have writable : Integer.isWritable i :=
    Integer.isWritable_iff.2 (few.trans_le (Nat.pow_le_pow_right (by decide) (by decide)))
  have written : (Value.int i).write = .ok (toString i) := by
    rw [Value.write, Value.undisplayed?_int, Value.unwrittenInteger?_eq_none writable]
    rfl
  have signed : (if decide (i < 0) then -(i.natAbs : Int) else i.natAbs) = i := by
    simp only [decide_eq_true_eq]
    split <;> omega
  have rounded : Numeral.round? (decide (i < 0)) i.natAbs 0 = some i := by
    rw [Numeral.round?, Numeral.roundMagnitude?_whole few]
    exact congrArg some signed
  unfold roundHalfAway
  simp only [written, Numeral.read?_toString writable, rounded]

end Stencil
