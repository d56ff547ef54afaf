import Stencil.Number.Numeral
import Stencil.Proofs.Number.Shortest

/-!
# Reading floating-point numbers back

However a layout writes a number, positionally or with an exponent, its text is a numeral of the same value as the
shortest decimal, so it reads back as the number (`Layout.magnitude_reads_back`). Different numbers therefore
have different texts (`Layout.text_injective`).
-/

namespace Stencil

namespace Numeral

/-- How a numeral is written: digits in front of the point, digits after it, and an exponent. -/
structure Spells (cs whole fraction tail : List Char) (exponent : Int) : Prop where
  text : cs = whole ++ (if fraction = [] then tail else '.' :: (fraction ++ tail))
  nonempty : whole ≠ []
  whole_digits : ∀ c ∈ whole, c.isDigit
  fraction_digits : ∀ c ∈ fraction, c.isDigit
  mark : tail = [] ∨ ∃ rest, tail = 'e' :: rest ∧ ∀ c ∈ rest, c.isDigit ∨ c = '-' ∨ c = '+'
  reads : readExponent? tail = some exponent

theorem ofDigits_append (ds es : List Char) :
    ofDigits (ds ++ es) = ofDigits ds * 10 ^ es.length + ofDigits es := by
  simp only [ofDigits, ← Nat.ofDigitChars_eq_foldl]
  rw [Nat.ofDigitChars_append, Nat.ofDigitChars_eq_ofDigitChars_zero]
  ring

theorem ofDigits_zeros (n : Nat) : ofDigits (List.replicate n '0') = 0 := by
  rw [ofDigits, ← Nat.ofDigitChars_eq_foldl, Nat.ofDigitChars_replicate_zero]
  ring

theorem ofDigits_toDigits (n : Nat) : ofDigits (Nat.toDigits 10 n) = n := by
  rw [ofDigits, ← Nat.ofDigitChars_eq_foldl, Nat.ofDigitChars_ten_toDigits]

theorem ofDigits_lt {ds : List Char} (digits : ∀ c ∈ ds, c.isDigit) : ofDigits ds < 10 ^ ds.length := by
  induction ds using List.reverseRecOn with
  | nil => decide
  | append_singleton ds d ih =>
    have last : ofDigits [d] < 10 := by
      have : 48 ≤ d.toNat ∧ d.toNat ≤ 57 := by
        simpa [Char.isDigit, UInt32.le_iff_toNat_le] using digits d (by simp)
      show 10 * 0 + (d.toNat - 48) < 10
      omega
    have := ih fun c mem => digits c (by simp [mem])
    rw [ofDigits_append, List.length_append, List.length_singleton, pow_succ]
    omega

theorem digitCount_ofDigits_le {ds : List Char} (nonempty : ds ≠ []) (digits : ∀ c ∈ ds, c.isDigit) :
    digitCount (ofDigits ds) ≤ ds.length :=
  (Nat.length_toDigits_le_iff (by decide) (List.length_pos_of_ne_nil nonempty)).2 (ofDigits_lt digits)

theorem takeWhile_digits {ds rest : List Char} (digits : ∀ c ∈ ds, c.isDigit)
    (after : ∀ c ∈ rest.head?, c.isDigit = false) :
    (ds ++ rest).takeWhile Char.isDigit = ds ∧ (ds ++ rest).dropWhile Char.isDigit = rest := by
  rw [List.takeWhile_append_of_pos digits, List.dropWhile_append_of_pos digits]
  cases rest with
  | nil => simp
  | cons c rest =>
    have := after c rfl
    simp [this]

/-- The reader finds the parts of a numeral. -/
theorem Spells.split {cs whole fraction tail : List Char} {exponent : Int}
    (spelled : Spells cs whole fraction tail exponent) (negative : Bool) :
    Numeral.readFinite? negative cs =
      if whole.isEmpty && fraction.isEmpty then none
      else
        (readExponent? tail).bind fun exponent =>
          let digits := ofDigits (whole ++ fraction)
          let place := exponent - fraction.length
          if place + (digitCount digits - 1 : Nat) ≤ greatestExponent ∧ leastPlace ≤ place then
            some (.finite negative digits place)
          else none := by
  obtain ⟨rfl, -, whole_digits, fraction_digits, mark, -⟩ := spelled
  have after : ∀ c ∈ tail.head?, c.isDigit = false := by
    rcases mark with rfl | ⟨rest, rfl, -⟩ <;> simp
  unfold Numeral.readFinite?
  by_cases none : fraction = []
  · obtain ⟨taken, dropped⟩ := takeWhile_digits whole_digits after
    subst none
    rw [if_pos rfl, taken, dropped]
    rcases mark with rfl | ⟨rest, rfl, -⟩ <;> rfl
  · have point : ∀ c ∈ ('.' :: (fraction ++ tail)).head?, c.isDigit = false := by simp
    obtain ⟨taken, dropped⟩ := takeWhile_digits whole_digits point
    obtain ⟨taken', dropped'⟩ := takeWhile_digits fraction_digits after
    rw [if_neg none, taken, dropped]
    simp only [taken', dropped']

/-- A numeral that is neither too large nor too fine is read as its digits and its place. -/
theorem Spells.readFinite? {cs whole fraction tail : List Char} {exponent : Int}
    (spelled : Spells cs whole fraction tail exponent) (negative : Bool)
    (greatest : exponent + whole.length - 1 ≤ greatestExponent) (least : leastPlace ≤ exponent - fraction.length) :
    Numeral.readFinite? negative cs =
      some (.finite negative (ofDigits (whole ++ fraction)) (exponent - fraction.length)) := by
  have some_digits : whole.isEmpty = false := by simpa using spelled.nonempty
  have small : exponent - fraction.length + (digitCount (ofDigits (whole ++ fraction)) - 1 : Nat) ≤ greatestExponent := by
    have digits : ∀ c ∈ whole ++ fraction, c.isDigit := by
      intro c mem
      rcases List.mem_append.1 mem with mem | mem
      · exact spelled.whole_digits c mem
      · exact spelled.fraction_digits c mem
    have := digitCount_ofDigits_le (by simp [spelled.nonempty]) digits
    rw [List.length_append] at this
    have := List.length_pos_of_ne_nil spelled.nonempty
    omega
  rw [spelled.split, some_digits, Bool.false_and, if_neg Bool.false_ne_true, spelled.reads, Option.bind_some]
  exact if_pos ⟨small, least⟩

/-- The value of a numeral's digits and place. -/
theorem value_append_zeros (ds : List Char) (n : Nat) (place : Int) :
    (⟨ofDigits (ds ++ List.replicate n '0'), place⟩ : Scientific).value = (⟨ofDigits ds, place + n⟩ : Scientific).value := by
  rw [ofDigits_append, ofDigits_zeros, List.length_replicate, Nat.add_zero, Scientific.value, Scientific.value,
    zpow_add₀ (by norm_num), zpow_natCast]
  push_cast
  ring

theorem ofDigits_zeros_append (n : Nat) (ds : List Char) : ofDigits (List.replicate n '0' ++ ds) = ofDigits ds := by
  rw [ofDigits_append, ofDigits_zeros, Nat.zero_mul, Nat.zero_add]

theorem isDigit_of_mem_zeros {c : Char} {n : Nat} (mem : c ∈ List.replicate n '0') : c.isDigit = true := by
  rw [List.eq_of_mem_replicate mem]
  rfl

theorem isDigit_of_mem_power {c : Char} {zeros n : Nat} (mem : c ∈ List.replicate zeros '0' ++ Nat.toDigits 10 n) :
    c.isDigit = true :=
  (List.mem_append.1 mem).elim isDigit_of_mem_zeros (Nat.isDigit_of_mem_toDigits (by decide) (by decide))

/-- The exponent of a numeral, with its sign and any number of leading zeros. -/
theorem readExponent?_written (first : Int) (zeros : Nat) :
    readExponent? ('e' :: (if first < 0 then '-' else '+') ::
      (List.replicate zeros '0' ++ Nat.toDigits 10 first.natAbs)) = some first := by
  have inside : (List.replicate zeros '0' ++ Nat.toDigits 10 first.natAbs).all Char.isDigit = true := by
    rw [List.all_eq_true]
    exact fun c mem => isDigit_of_mem_power mem
  have nonempty : (List.replicate zeros '0' ++ Nat.toDigits 10 first.natAbs).isEmpty = false := by
    simp [Nat.toDigits_ne_nil]
  have value : ofDigits (List.replicate zeros '0' ++ Nat.toDigits 10 first.natAbs) = first.natAbs := by
    rw [ofDigits_zeros_append, ofDigits_toDigits]
  by_cases negative : first < 0
  · rw [if_pos negative, readExponent?, if_neg (by decide)]
    simp only [nonempty, inside, value, Bool.not_true, Bool.or_self, Bool.false_eq_true, if_false, if_true]
    congr 1
    omega
  · rw [if_neg negative, readExponent?, if_neg (by decide)]
    simp only [nonempty, inside, value, Bool.not_true, Bool.or_self, Bool.false_eq_true, if_false]
    congr 1
    omega

/-- A text is a numeral of the value that some digits have when the first of them stands at a given place. -/
structure Denotes (cs digits : List Char) (first : Int) (whole fraction tail : List Char) (exponent : Int) : Prop where
  spells : Spells cs whole fraction tail exponent
  greatest : exponent + whole.length ≤ max first 0 + 1
  least : min (first + 1 - digits.length) (-1) ≤ exponent - fraction.length
  value : (⟨ofDigits (whole ++ fraction), exponent - fraction.length⟩ : Scientific).value =
    (⟨ofDigits digits, first + 1 - digits.length⟩ : Scientific).value

end Numeral

namespace Layout

open Numeral

variable (layout : Layout) {digits : List Char} (nonempty : digits ≠ []) (inside : ∀ c ∈ digits, c.isDigit)

include nonempty inside

/-- In front of the first digit stand the point and zeros. -/
theorem positional_denotes_of_neg {first : Int} (below : first < 0) :
    Denotes (layout.positional digits first) digits first ['0'] (List.replicate (-first - 1).toNat '0' ++ digits) [] 0 := by
  have some_digits := List.length_pos_of_ne_nil nonempty
  unfold positional
  rw [if_pos below]
  refine ⟨⟨?_, by simp, by simp, ?_, .inl rfl, rfl⟩, ?_, ?_, ?_⟩
  · rw [if_neg (by simp [nonempty])]
    simp
  · intro c mem
    exact (List.mem_append.1 mem).elim isDigit_of_mem_zeros (inside c)
  · simp
  · rw [List.length_append, List.length_replicate]
    omega
  · rw [List.length_append, List.length_replicate, List.singleton_append, ← List.cons_append, ← List.replicate_succ,
      ofDigits_zeros_append]
    congr 2
    omega

/-- All digits stand in front of the point, with zeros behind them. -/
theorem positional_denotes_of_length_le {n : Nat} (few : digits.length ≤ n + 1) :
    ∃ fraction, Denotes (layout.positional digits n) digits n (digits ++ List.replicate (n + 1 - digits.length) '0')
      fraction [] 0 ∧ (layout.wholeFraction = true → fraction ≠ []) := by
  have front : ∀ c ∈ digits ++ List.replicate (n + 1 - digits.length) '0', c.isDigit := by
    intro c mem
    exact (List.mem_append.1 mem).elim (inside c) isDigit_of_mem_zeros
  have length : (digits ++ List.replicate (n + 1 - digits.length) '0').length = n + 1 := by
    rw [List.length_append, List.length_replicate]
    omega
  have front_nonempty : digits ++ List.replicate (n + 1 - digits.length) '0' ≠ [] := by simp [nonempty]
  unfold positional
  rw [if_neg (by omega), Int.toNat_natCast]
  dsimp only
  rw [List.drop_eq_nil_of_le few, List.take_of_length_le few]
  cases layout.wholeFraction with
  | true =>
    refine ⟨['0'], ⟨⟨?_, front_nonempty, front, by simp, .inl rfl, rfl⟩, ?_, ?_, ?_⟩, fun _ => by simp⟩
    · simp
    · rw [length]
      simp
    · simp
    · rw [List.append_assoc, show (['0'] : List Char) = List.replicate 1 '0' from rfl, List.replicate_append_replicate,
        value_append_zeros, List.length_replicate]
      congr 2
      omega
  | false =>
    refine ⟨[], ⟨⟨?_, front_nonempty, front, by simp, .inl rfl, rfl⟩, ?_, ?_, ?_⟩, fun fraction => by cases fraction⟩
    · simp
    · rw [length]
      simp
    · simp
    · rw [List.append_nil, value_append_zeros]
      congr 2
      simp
      omega

omit nonempty in
/-- The point stands between digits. -/
theorem positional_denotes_of_lt_length {n : Nat} (many : n + 1 < digits.length) :
    Denotes (layout.positional digits n) digits n (digits.take (n + 1)) (digits.drop (n + 1)) [] 0 := by
  have more : digits.drop (n + 1) ≠ [] := fun none => absurd (List.drop_eq_nil_iff.1 none) (not_le.2 many)
  have length : (digits.take (n + 1)).length = n + 1 := List.length_take_of_le many.le
  unfold positional
  rw [if_neg (by omega), Int.toNat_natCast]
  dsimp only
  rw [Nat.sub_eq_zero_of_le many.le, List.replicate_zero, List.append_nil]
  refine ⟨⟨?_, ?_, ?_, ?_, .inl rfl, rfl⟩, ?_, ?_, ?_⟩
  · split
    · next none => exact absurd none more
    · rw [if_neg more, List.append_nil]
  · exact List.ne_nil_of_length_pos (by omega)
  · exact fun c mem => inside c (List.mem_of_mem_take mem)
  · exact fun c mem => inside c (List.mem_of_mem_drop mem)
  · rw [length]
    simp
  · rw [List.length_drop]
    omega
  · rw [List.take_append_drop, List.length_drop]
    congr 2
    omega

theorem positional_denotes (first : Int) :
    ∃ whole fraction, Denotes (layout.positional digits first) digits first whole fraction [] 0 ∧
      (layout.wholeFraction = true → fraction ≠ []) := by
  by_cases below : first < 0
  · exact ⟨_, _, layout.positional_denotes_of_neg nonempty inside below, fun _ => by simp [nonempty]⟩
  obtain ⟨n, rfl⟩ := Int.eq_ofNat_of_zero_le (not_lt.1 below)
  by_cases few : digits.length ≤ n + 1
  · exact ⟨_, layout.positional_denotes_of_length_le nonempty inside few⟩
  · refine ⟨_, _, layout.positional_denotes_of_lt_length inside (not_le.1 few), fun _ none => ?_⟩
    exact few (List.drop_eq_nil_iff.1 none)

theorem scientific_denotes (first : Int) :
    ∃ whole fraction rest, Denotes (layout.scientific digits first) digits first whole fraction ('e' :: rest) first := by
  obtain ⟨d, rest, rfl⟩ := List.exists_cons_of_ne_nil nonempty
  have reads := readExponent?_written first (layout.exponentWidth - (Nat.toDigits 10 first.natAbs).length)
  have signed : ∀ c ∈ (if first < 0 then '-' else '+') ::
      (List.replicate (layout.exponentWidth - (Nat.toDigits 10 first.natAbs).length) '0' ++
        Nat.toDigits 10 first.natAbs), c.isDigit ∨ c = '-' ∨ c = '+' := by
    intro c mem
    rcases List.mem_cons.1 mem with rfl | mem
    · split <;> simp
    · exact .inl (isDigit_of_mem_power mem)
  refine ⟨[d], rest, _, ⟨⟨?_, by simp, fun c mem => inside c (by simp_all), fun c mem => inside c (by simp [mem]),
    .inr ⟨_, rfl, signed⟩, reads⟩, ?_, ?_, ?_⟩⟩
  · cases rest with
    | nil => simp [scientific]
    | cons e rest => simp [scientific]
  · simp
  · simp
  · rw [List.singleton_append]
    congr 2
    simp

omit nonempty inside

/-- A row of digits without the zeros at its end. -/
theorem exists_dropped_zeros (written : List Char) :
    ∃ zeros, written = (written.reverse.dropWhile (· == '0')).reverse ++ List.replicate zeros '0' := by
  refine ⟨(written.reverse.takeWhile (· == '0')).length, ?_⟩
  have zeros : written.reverse.takeWhile (· == '0') =
      List.replicate (written.reverse.takeWhile (· == '0')).length '0' := by
    rw [List.eq_replicate_iff]
    exact ⟨rfl, fun c mem => by simpa using List.all_eq_true.1 List.all_takeWhile c mem⟩
  rw [← List.reverse_replicate, ← zeros, ← List.reverse_append, List.takeWhile_append_dropWhile, List.reverse_reverse]

/-- The digits of a magnitude, the place of the first of them, and how they are written. -/
structure Writes (layout : Layout) (m : Magnitude) (digits : List Char) (first : Int)
    (whole fraction tail : List Char) (exponent : Int) : Prop where
  denotes : Denotes (layout.magnitude m) digits first whole fraction tail exponent
  mark : layout.wholeFraction = true → fraction ≠ [] ∨ tail ≠ []
  greatest : first ≤ 310
  least : -416 ≤ first + 1 - digits.length
  reads : Binary64.ofDecimal false (ofDigits digits) (first + 1 - digits.length) = .finite false m

theorem exists_writes_of_digits {m : Magnitude} {digits : List Char} {first : Int} (nonempty : digits ≠ [])
    (inside : ∀ c ∈ digits, c.isDigit)
    (form : layout.magnitude m = layout.positional digits first ∨ layout.magnitude m = layout.scientific digits first)
    (greatest : first ≤ 310) (least : -416 ≤ first + 1 - digits.length)
    (reads : Binary64.ofDecimal false (ofDigits digits) (first + 1 - digits.length) = .finite false m) :
    ∃ whole fraction tail exponent, layout.Writes m digits first whole fraction tail exponent := by
  rcases form with positional | scientific
  · obtain ⟨whole, fraction, denotes, point⟩ := layout.positional_denotes nonempty inside first
    exact ⟨_, _, _, _, positional ▸ denotes, fun wanted => .inl (point wanted), greatest, least, reads⟩
  · obtain ⟨whole, fraction, rest, denotes⟩ := layout.scientific_denotes nonempty inside first
    exact ⟨_, _, _, _, scientific ▸ denotes, fun _ => .inr (List.cons_ne_nil _ _), greatest, least, reads⟩

theorem exists_writes (m : Magnitude) :
    ∃ digits first whole fraction tail exponent, layout.Writes m digits first whole fraction tail exponent := by
  by_cases zero : m.mantissa = 0
  · refine ⟨['0'], 0, layout.exists_writes_of_digits (by simp) (by simp) (.inl ?_) (by decide) (by decide) ?_⟩
    · rw [magnitude, if_pos zero]
    · obtain ⟨mantissa, exponent, canonical⟩ := m
      obtain rfl : mantissa = 0 := zero
      obtain rfl : exponent = -1074 := by
        rcases canonical with ⟨-, least⟩ | ⟨many, -⟩
        · exact least
        · exact absurd many (by decide)
      rfl
  obtain ⟨written, is_written⟩ : ∃ written, Nat.toDigits 10 (Scientific.shortest m).digits = written := ⟨_, rfl⟩
  obtain ⟨digits, is_digits⟩ : ∃ digits, (written.reverse.dropWhile (· == '0')).reverse = digits := ⟨_, rfl⟩
  obtain ⟨zeros, split⟩ := exists_dropped_zeros written
  rw [is_digits] at split
  have inside : ∀ c ∈ digits, c.isDigit := by
    intro c mem
    refine Nat.isDigit_of_mem_toDigits (n := (Scientific.shortest m).digits) (b := 10) (by decide) (by decide) ?_
    rw [is_written, split]
    exact List.mem_append_left _ mem
  have value : ofDigits written = (Scientific.shortest m).digits := is_written ▸ ofDigits_toDigits _
  have nonempty : digits ≠ [] := by
    rintro rfl
    rw [split, List.nil_append, ofDigits_zeros] at value
    exact Scientific.digits_shortest_ne_zero zero value.symm
  have length : written.length = digits.length + zeros := by
    rw [split, List.length_append, List.length_replicate]
  have some_digits := List.length_pos_of_ne_nil nonempty
  have small := Scientific.size_shortest_le zero
  rw [Scientific.size, is_written] at small
  have fine := Scientific.exponent_shortest zero
  refine ⟨digits, (Scientific.shortest m).exponent + (written.length - 1 : Nat),
    layout.exists_writes_of_digits nonempty inside ?_ (by omega) (by omega) ?_⟩
  · rw [magnitude, if_neg zero]
    dsimp only
    rw [is_written, is_digits]
    split
    · exact .inl rfl
    · exact .inr rfl
  · rw [show (Scientific.shortest m).exponent + (written.length - 1 : Nat) + 1 - digits.length
        = (Scientific.shortest m).exponent + zeros by omega]
    refine (Scientific.ofDecimal_congr (s := ⟨ofDigits digits, _⟩) (t := Scientific.shortest m) ?_ false).trans
      (Scientific.shortest_reads_back zero)
    rw [← value_append_zeros, ← split, value]

/-- The text of a magnitude is read as a numeral whose nearest number is the magnitude. -/
theorem magnitude_reads_back (m : Magnitude) (negative : Bool) :
    ∃ s : Scientific, readFinite? negative (layout.magnitude m) = some (.finite negative s.digits s.exponent) ∧
      Binary64.ofDecimal false s.digits s.exponent = .finite false m := by
  obtain ⟨digits, first, whole, fraction, tail, exponent, writes⟩ := layout.exists_writes m
  obtain ⟨⟨spells, greatest, least, value⟩, -, small, fine, reads⟩ := writes
  refine ⟨⟨ofDigits (whole ++ fraction), exponent - fraction.length⟩, spells.readFinite? negative ?_ ?_, ?_⟩
  · rw [greatestExponent]
    omega
  · rw [leastPlace]
    omega
  · rw [Scientific.ofDecimal_congr value, reads]

theorem magnitude_injective {m n : Magnitude} (same : layout.magnitude m = layout.magnitude n) : m = n := by
  obtain ⟨s, read, back⟩ := layout.magnitude_reads_back m false
  obtain ⟨t, read', back'⟩ := layout.magnitude_reads_back n false
  rw [same, read', Option.some_inj] at read
  obtain ⟨-, digits, exponent⟩ := Numeral.finite.inj read
  rw [digits, exponent, back] at back'
  exact (Binary64.finite.inj back').2

/-- A magnitude is written with a digit first. -/
theorem exists_magnitude_eq_cons (m : Magnitude) : ∃ d rest, layout.magnitude m = d :: rest ∧ d.isDigit = true := by
  obtain ⟨digits, first, whole, fraction, tail, exponent, writes⟩ := layout.exists_writes m
  obtain ⟨d, rest, rfl⟩ := List.exists_cons_of_ne_nil writes.denotes.spells.nonempty
  exact ⟨d, _, writes.denotes.spells.text, writes.denotes.spells.whole_digits d List.mem_cons_self⟩

/-- A magnitude is written with digits and the marks of a numeral. -/
theorem mem_magnitude {m : Magnitude} {c : Char} (mem : c ∈ layout.magnitude m) :
    c.isDigit ∨ c ∈ ['.', 'e', '-', '+'] := by
  obtain ⟨digits, first, whole, fraction, tail, exponent, ⟨⟨spells, -⟩, -⟩⟩ := layout.exists_writes m
  have marks : c ∈ tail → c.isDigit ∨ c ∈ ['.', 'e', '-', '+'] := by
    intro mem
    rcases spells.mark with rfl | ⟨rest, rfl, signed⟩
    · cases mem
    · rcases List.mem_cons.1 mem with rfl | mem
      · simp
      · rcases signed c mem with digit | rfl | rfl
        · exact .inl digit
        · simp
        · simp
  rw [spells.text] at mem
  rcases List.mem_append.1 mem with mem | mem
  · exact .inl (spells.whole_digits c mem)
  · split at mem
    · exact marks mem
    · rcases List.mem_cons.1 mem with rfl | mem
      · simp
      · exact (List.mem_append.1 mem).elim (fun mem => .inl (spells.fraction_digits c mem)) marks

/-- Where whole numbers have a fraction, a magnitude is never written with digits alone. -/
theorem exists_mark_mem_magnitude (point : layout.wholeFraction = true) (m : Magnitude) :
    '.' ∈ layout.magnitude m ∨ 'e' ∈ layout.magnitude m := by
  obtain ⟨digits, first, whole, fraction, tail, exponent, ⟨⟨spells, -⟩, mark, -⟩⟩ := layout.exists_writes m
  rw [spells.text]
  by_cases none : fraction = []
  · rcases spells.mark with tailless | ⟨rest, rfl, -⟩
    · exact absurd tailless ((mark point).resolve_left (not_not.2 none))
    · simp [none]
  · simp [none]

/-- The text of a number without its sign. -/
def unsigned (layout : Layout) : Binary64 → List Char
  | .finite _ m => layout.magnitude m
  | .infinite _ => layout.infinity.toList

theorem toList_text (x : Binary64) :
    (layout.text x).toList = (if x.isNegative then ['-'] else []) ++ layout.unsigned x := by
  cases x with
  | finite negative m => cases negative <;> simp [text, Binary64.isNegative, unsigned]
  | infinite negative => cases negative <;> simp [text, Binary64.isNegative, unsigned]

theorem sign_injective {negative negative' : Bool} {cs cs' : List Char} (unsigned : ∀ c ∈ cs.head?, c ≠ '-')
    (unsigned' : ∀ c ∈ cs'.head?, c ≠ '-')
    (same : (if negative then ['-'] else []) ++ cs = (if negative' then ['-'] else []) ++ cs') :
    negative = negative' ∧ cs = cs' := by
  cases negative <;> cases negative'
  · exact ⟨rfl, same⟩
  · have : cs = '-' :: cs' := same
    exact absurd rfl <| unsigned '-' (by rw [this]; rfl)
  · have : '-' :: cs = cs' := same
    exact absurd rfl <| unsigned' '-' (by rw [← this]; rfl)
  · exact ⟨rfl, List.cons.inj same |>.2⟩

/-- Different numbers have different texts if infinity is written as a word. -/
theorem text_injective (word : ∀ c ∈ layout.infinity.toList.head?, c ≠ '-' ∧ c.isDigit = false) {x y : Binary64}
    (same : layout.text x = layout.text y) : x = y := by
  have plain : ∀ z, ∀ c ∈ (layout.unsigned z).head?, c ≠ '-' := by
    intro z c mem
    cases z with
    | finite negative m =>
      obtain ⟨d, rest, text, digit⟩ := layout.exists_magnitude_eq_cons m
      rw [unsigned, text, List.head?_cons, Option.mem_some_iff] at mem
      rintro rfl
      rw [mem] at digit
      cases digit
    | infinite negative => exact (word c mem).1
  have apart : ∀ m, layout.magnitude m ≠ layout.infinity.toList := by
    intro m text
    obtain ⟨d, rest, text', digit⟩ := layout.exists_magnitude_eq_cons m
    rw [← text, text'] at word
    exact Bool.false_ne_true ((word d rfl).2.symm.trans digit)
  obtain ⟨negative, unsigned⟩ := sign_injective (plain x) (plain y) (by
    rw [← toList_text, ← toList_text, same])
  cases x with
  | finite a m =>
    cases y with
    | finite b n =>
      obtain rfl : a = b := negative
      rw [layout.magnitude_injective unsigned]
    | infinite b => exact absurd unsigned (apart m)
  | infinite a =>
    cases y with
    | finite b n => exact absurd unsigned.symm (apart n)
    | infinite b =>
      obtain rfl : a = b := negative
      rfl

end Layout

end Stencil
