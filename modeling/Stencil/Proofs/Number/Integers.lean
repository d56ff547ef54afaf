import Mathlib.Algebra.Group.Nat.Defs
import Stencil.Condition.Lexeme
import Stencil.Number.Integer
import Stencil.Proofs.Token.Directives

/-!
# Reading integers back

A row of decimal digits of any script has a value, and so has a bound of a counting loop; it is converted if there
are not too many digits (`read_digits`, `read_of_isBound`). The decimal text of an integer is a bound, it is read as
that integer if that can be written (`read_toString`), as everything can that is converted (`isWritable_of_read`).
-/

namespace Stencil

open Lexeme

theorem isDecimalDigit_of_isDigit {c : Char} (h : c.isDigit) : digitValue? c = some (c.toNat - 48) := by
  have bounds : 48 ≤ c.toNat ∧ c.toNat ≤ 57 := by
    simpa [Char.isDigit, UInt32.le_iff_toNat_le] using h
  simp [digitValue?, digitZeros, bounds]

theorem isDecimalDigit_underscore : isDecimalDigit '_' = false := by decide +kernel

namespace Integer

theorem readDigits_eq_some {digits : List Char} (nonempty : digits ≠ []) (inside : ∀ c ∈ digits, isDecimalDigit c)
    (high : Nat) :
    readDigits high digits = some (digits.foldl (fun n c => 10 * n + (digitValue? c).getD 0) high) := by
  fun_induction readDigits high digits with
  | case1 => exact absurd rfl nonempty
  | case2 high c =>
    obtain ⟨d, value⟩ := Option.isSome_iff_exists.1 (inside c List.mem_cons_self)
    simp [value]
  | case3 high c rest ih =>
    have digit := inside '_' (by simp)
    rw [isDecimalDigit_underscore] at digit
    cases digit
  | case4 high c rest single _ ih =>
    obtain ⟨d, value⟩ := Option.isSome_iff_exists.1 (inside c List.mem_cons_self)
    have more : rest ≠ [] := fun none => single none
    rw [value, Option.bind_some, ih d more fun c mem => inside c (List.mem_cons_of_mem _ mem)]
    simp [value]

theorem isMargin_eq_false {c : Char} (h : isDecimalDigit c ∨ c = '-') : isMargin c = false := by
  rw [isMargin, Bool.and_eq_false_iff]
  refine .inl ?_
  rcases h with h | rfl
  · rw [← Bool.not_eq_true]
    intro blank
    rw [isDecimalDigit_of_isBlank blank] at h
    cases h
  · decide

theorem trimmed_eq_self {cs : List Char} (inside : ∀ c ∈ cs, isDecimalDigit c ∨ c = '-') : trimmed cs = cs := by
  have unchanged : ∀ {ds : List Char}, (∀ c ∈ ds, c ∈ cs) → ds.dropWhile isMargin = ds := by
    intro ds sub
    cases ds with
    | nil => rfl
    | cons c rest =>
      rw [List.dropWhile_cons, isMargin_eq_false (inside c (sub c List.mem_cons_self))]
      rfl
  rw [trimmed, unchanged fun c mem => mem, unchanged fun c mem => List.mem_reverse.1 mem, List.reverse_reverse]

theorem read?_digits {digits : List Char} (nonempty : digits ≠ []) (inside : ∀ c ∈ digits, isDecimalDigit c) :
    read? digits = some (digitsValue digits : Int) := by
  rw [read?, trimmed_eq_self fun c mem => .inl (inside c mem)]
  split
  · have digit := inside '-' List.mem_cons_self
    rw [isDecimalDigit_minus] at digit
    cases digit
  · have digit := inside '+' List.mem_cons_self
    rw [show isDecimalDigit '+' = false by decide +kernel] at digit
    cases digit
  · rw [readDigits_eq_some nonempty inside]
    rfl

theorem read?_minus_digits {digits : List Char} (nonempty : digits ≠ [])
    (inside : ∀ c ∈ digits, isDecimalDigit c) : read? ('-' :: digits) = some (-(digitsValue digits : Int)) := by
  have plain : ∀ c ∈ '-' :: digits, isDecimalDigit c ∨ c = '-' := by
    intro c mem
    rcases List.mem_cons.1 mem with rfl | mem
    · exact .inr rfl
    · exact .inl (inside c mem)
  rw [read?, trimmed_eq_self plain]
  split
  · next same =>
    obtain rfl := (List.cons.inj same).2
    rw [readDigits_eq_some nonempty inside]
    rfl
  · next same => exact absurd (List.cons.inj same).1 (by decide)
  · next signless _ => exact (signless digits rfl).elim

/-! ## Too many digits -/

theorem countP_digits {digits : List Char} (inside : ∀ c ∈ digits, isDecimalDigit c) :
    digits.countP isDecimalDigit = digits.length :=
  List.countP_eq_length.2 inside

theorem takeWhile_digits {digits : List Char} (inside : ∀ c ∈ digits, isDecimalDigit c) :
    digits.takeWhile (fun c => isDecimalDigit c || c = '_') = digits :=
  List.takeWhile_eq_self_iff.2 fun c mem => by simp [inside c mem]

theorem digitRun_digits {digits : List Char} (inside : ∀ c ∈ digits, isDecimalDigit c) : digitRun digits = digits := by
  rw [digitRun, trimmed_eq_self fun c mem => .inl (inside c mem)]
  split
  · have digit := inside '-' List.mem_cons_self
    rw [isDecimalDigit_minus] at digit
    cases digit
  · have digit := inside '+' List.mem_cons_self
    rw [show isDecimalDigit '+' = false by decide +kernel] at digit
    cases digit
  · exact takeWhile_digits inside

theorem digitRun_minus_digits {digits : List Char} (inside : ∀ c ∈ digits, isDecimalDigit c) :
    digitRun ('-' :: digits) = digits := by
  have plain : ∀ c ∈ '-' :: digits, isDecimalDigit c ∨ c = '-' := by
    intro c mem
    rcases List.mem_cons.1 mem with rfl | mem
    · exact .inr rfl
    · exact .inl (inside c mem)
  rw [digitRun, trimmed_eq_self plain]
  exact takeWhile_digits inside

theorem excess?_of_digitRun {cs digits : List Char} (run : digitRun cs = digits) (nonempty : digits ≠ [])
    (inside : ∀ c ∈ digits, isDecimalDigit c) :
    excess? cs = if greatestLength < digits.length then some digits.length else none := by
  rw [excess?, run, countP_digits inside, readDigits_eq_some nonempty inside]
  simp

/-- A row of digits is converted to its value, unless it is too long. -/
theorem read_digits {digits : List Char} (nonempty : digits ≠ []) (inside : ∀ c ∈ digits, isDecimalDigit c) :
    read digits = if greatestLength < digits.length then .error (.tooLong digits.length)
      else .ok (digitsValue digits : Int) := by
  rw [read, excess?_of_digitRun (digitRun_digits inside) nonempty inside, read?_digits nonempty inside]
  by_cases long : greatestLength < digits.length
  · rw [if_pos long, if_pos long]
  · rw [if_neg long, if_neg long]

/-- With a minus sign in front a row of digits is converted to what is below zero by its value. -/
theorem read_minus_digits {digits : List Char} (nonempty : digits ≠ []) (inside : ∀ c ∈ digits, isDecimalDigit c) :
    read ('-' :: digits) = if greatestLength < digits.length then .error (.tooLong digits.length)
      else .ok (-(digitsValue digits : Int)) := by
  rw [read, excess?_of_digitRun (digitRun_minus_digits inside) nonempty inside, read?_minus_digits nonempty inside]
  by_cases long : greatestLength < digits.length
  · rw [if_pos long, if_pos long]
  · rw [if_neg long, if_neg long]

/-- A bound of a counting loop has a value, or it has too many digits. -/
theorem read_of_isBound {cs : List Char} (h : IsBound cs) :
    (∃ n, read cs = .ok n) ∨ ∃ digits, greatestLength < digits ∧ read cs = .error (.tooLong digits) := by
  obtain ⟨sign, digits, rfl, rfl | rfl, nonempty, inside⟩ := h
  · rw [List.nil_append, read_digits nonempty inside]
    split
    · next long => exact .inr ⟨_, long, rfl⟩
    · exact .inl ⟨_, rfl⟩
  · rw [List.singleton_append, read_minus_digits nonempty inside]
    split
    · next long => exact .inr ⟨_, long, rfl⟩
    · exact .inl ⟨_, rfl⟩

/-- A bound of a counting loop is converted exactly if it has not too many digits. -/
theorem exists_read_iff {cs : List Char} (h : IsBound cs) :
    (∃ n, read cs = .ok n) ↔ cs.countP isDecimalDigit ≤ greatestLength := by
  obtain ⟨sign, digits, rfl, rfl | rfl, nonempty, inside⟩ := h
  · rw [List.nil_append, read_digits nonempty inside, countP_digits inside]
    split
    · next long => simpa using long
    · next short => simpa using short
  · rw [List.singleton_append, read_minus_digits nonempty inside,
      List.countP_cons_of_neg (by rw [isDecimalDigit_minus]; decide), countP_digits inside]
    split
    · next long => simpa using long
    · next short => simpa using short

/-! ## Decimal texts -/

/-- The number that ASCII digits write. -/
theorem digitsValue_eq_ofDigitChars {digits : List Char} (ascii : ∀ c ∈ digits, c.isDigit) :
    digitsValue digits = Nat.ofDigitChars 10 digits 0 := by
  rw [digitsValue, Nat.ofDigitChars_eq_foldl]
  refine List.foldl_ext _ _ _ fun m c mem => ?_
  rw [isDecimalDigit_of_isDigit (ascii c mem)]
  rfl

theorem toDigits_spec (n : Nat) :
    Nat.toDigits 10 n ≠ [] ∧ (∀ c ∈ Nat.toDigits 10 n, isDecimalDigit c) ∧ digitsValue (Nat.toDigits 10 n) = n := by
  have ascii : ∀ c ∈ Nat.toDigits 10 n, c.isDigit := fun c mem =>
    Nat.isDigit_of_mem_toDigits (by decide) (by decide) mem
  refine ⟨Nat.toDigits_ne_nil, ?_, ?_⟩
  · intro c mem
    rw [isDecimalDigit, isDecimalDigit_of_isDigit (ascii c mem)]
    rfl
  · rw [digitsValue_eq_ofDigitChars ascii, Nat.ofDigitChars_ten_toDigits]

/-- The decimal text of an integer: digits, with a minus sign in front of negative ones. -/
theorem toList_toString (n : Int) :
    (toString n).toList = if 0 ≤ n then Nat.toDigits 10 n.toNat else '-' :: Nat.toDigits 10 (-n).toNat := by
  rw [Int.toString_eq_repr, Int.repr_eq_if]
  split
  · exact Nat.toList_repr
  · rw [String.toList_append, Nat.toList_repr]
    rfl

theorem isBound_toString (n : Int) : IsBound (toString n).toList := by
  rw [toList_toString]
  split
  · obtain ⟨nonempty, inside, -⟩ := toDigits_spec n.toNat
    exact ⟨[], _, rfl, .inl rfl, nonempty, inside⟩
  · obtain ⟨nonempty, inside, -⟩ := toDigits_spec (-n).toNat
    exact ⟨['-'], _, rfl, .inr rfl, nonempty, inside⟩

theorem read?_toString (n : Int) : read? (toString n).toList = some n := by
  rw [toList_toString]
  split
  · obtain ⟨nonempty, inside, value⟩ := toDigits_spec n.toNat
    rw [read?_digits nonempty inside, value, Int.toNat_of_nonneg (by assumption)]
  · obtain ⟨nonempty, inside, value⟩ := toDigits_spec (-n).toNat
    rw [read?_minus_digits nonempty inside, value]
    congr
    omega

theorem digitsValue_lt (digits : List Char) : digitsValue digits < 10 ^ digits.length := by
  induction digits using List.reverseRecOn with
  | nil => decide
  | append_singleton front c ih =>
    have digit : (digitValue? c).getD 0 ≤ 9 := by
      cases value : digitValue? c with
      | none => decide
      | some d => exact digitValue?_le_nine value
    have step : digitsValue (front ++ [c]) = 10 * digitsValue front + (digitValue? c).getD 0 := by
      simp [digitsValue]
    rw [step, List.length_append, List.length_singleton, Nat.pow_succ]
    omega

theorem isWritable_iff {n : Int} : isWritable n ↔ n.natAbs < 10 ^ greatestLength := by
  rw [isWritable, decide_eq_true_iff, Nat.pow_eq]

/-- What is converted can be written. -/
theorem isWritable_of_read {cs : List Char} (bound : IsBound cs) {n : Int} (h : read cs = .ok n) : isWritable n := by
  obtain ⟨sign, digits, rfl, rfl | rfl, nonempty, inside⟩ := bound
  · rw [List.nil_append, read_digits nonempty inside] at h
    split at h
    · cases h
    · next short =>
      obtain rfl := Except.ok.inj h
      exact isWritable_iff.2 ((digitsValue_lt digits).trans_le (Nat.pow_le_pow_right (by decide) (by omega)))
  · rw [List.singleton_append, read_minus_digits nonempty inside] at h
    split at h
    · cases h
    · next short =>
      obtain rfl := Except.ok.inj h
      rw [isWritable_iff, Int.natAbs_neg]
      exact (digitsValue_lt digits).trans_le (Nat.pow_le_pow_right (by decide) (by omega))

/-- The decimal text of an integer that can be written is converted to the integer. -/
theorem read_toString {n : Int} (writable : isWritable n) : read (toString n).toList = .ok n := by
  have few : (Nat.toDigits 10 n.natAbs).length ≤ greatestLength :=
    (Nat.length_toDigits_le_iff (by decide) (by decide)).2 (isWritable_iff.1 writable)
  rw [toList_toString]
  split
  · next sign =>
    obtain ⟨nonempty, inside, value⟩ := toDigits_spec n.toNat
    rw [show n.natAbs = n.toNat by omega] at few
    rw [read_digits nonempty inside, if_neg (by omega), value, Int.toNat_of_nonneg sign]
  · next sign =>
    obtain ⟨nonempty, inside, value⟩ := toDigits_spec (-n).toNat
    rw [show n.natAbs = (-n).toNat by omega] at few
    have back : -((-n).toNat : Int) = n := by clear writable few; omega
    rw [read_minus_digits nonempty inside, if_neg (by omega), value, back]

/-! ## Too many digits -/

/-- A row of ones, one more than the digits that are converted. -/
def manyDigits : List Char :=
  List.replicate (greatestLength + 1) '1'

theorem eq_of_mem_manyDigits {c : Char} (mem : c ∈ manyDigits) : c = '1' :=
  List.eq_of_mem_replicate mem

theorem manyDigits_ne_nil : manyDigits ≠ [] := by
  rw [manyDigits, List.replicate_succ]
  exact List.cons_ne_nil _ _

theorem not_mem_manyDigits {c : Char} (other : c ≠ '1') : c ∉ manyDigits :=
  fun mem => other (eq_of_mem_manyDigits mem)

theorem length_manyDigits : manyDigits.length = greatestLength + 1 :=
  List.length_replicate

theorem isDecimalDigit_of_mem_manyDigits {c : Char} (mem : c ∈ manyDigits) : isDecimalDigit c := by
  obtain rfl := eq_of_mem_manyDigits mem
  decide +kernel

theorem countP_manyDigits : manyDigits.countP isDecimalDigit = greatestLength + 1 :=
  (List.countP_eq_length.2 fun _ => isDecimalDigit_of_mem_manyDigits).trans length_manyDigits

/-- Behind a text that begins with no blank the digits leave nothing to strip. -/
theorem isTrimmed_append_manyDigits {front : List Char} (trimmed : isTrimmed front) (some : front ≠ []) (gap : List Char) :
    isTrimmed (front ++ gap ++ manyDigits) := by
  refine isTrimmed_append trimmed (isTrimmed_of_forall fun c mem => ?_) some manyDigits_ne_nil gap
  obtain rfl := eq_of_mem_manyDigits mem
  rfl

end Integer

end Stencil
