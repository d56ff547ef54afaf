import Stencil.Proofs.Number.Nearest
import Stencil.Proofs.Number.Numerals
import Stencil.Proofs.Success

/-!
# Rounding and rating

A value has an amount if it is an integer or truth value or a text that writes a decimal numeral. Rounding gives the
nearest integer, a half away from zero, of every amount whose nearest integer has at most 28 digits
(`Filter.roundHalfAway_nearest`), and a rating in stars is that integer between none and five (`Filter.stars_five`).
Beyond 28 digits both fail.
-/

namespace Stencil

open Numeral

/-- The value is an integer, a truth value, or a text that writes a decimal numeral, and `q` is its exact amount. -/
inductive Value.HasAmount : Value → ℚ → Prop
  | bool (b : Bool) : HasAmount (.bool b) (if b then 1 else 0)
  | int (i : Int) : HasAmount (.int i) i
  | written {v : Value} {s : String} {negative : Bool} {digits : Nat} {exponent : Int} : v.text? = some s →
    Writes s.toList negative digits exponent → HasAmount v (amount negative digits exponent)

/-! ## The decimal text of an integer -/

namespace Numeral

theorem bare_toString (i : Int) : bare (toString i).toList = (toString i).toList := by
  have solid : ∀ c ∈ (toString i).toList, isBlank c = false ∧ c ≠ '_' := by
    intro c mem
    rcases mem_toString mem with rfl | digit
    · decide
    · exact forall_isDigit (p := fun c => isBlank c = false ∧ c ≠ '_') (by decide) digit
  rw [bare, strip_eq_self fun c mem => (solid c mem).1, List.filter_eq_self]
  exact fun c mem => decide_eq_true (solid c mem).2

/-- A sign and digits are numerals without a point and without an exponent. -/
theorem exists_whole_of_writes {cs : List Char} (among : ∀ c ∈ cs, c = '-' ∨ c.isDigit) (itself : bare cs = cs)
    {negative : Bool} {digits : Nat} {exponent : Int} (h : Writes cs negative digits exponent) :
    ∃ sign ds, cs = sign ++ ds ∧ IsSign sign negative ∧ (∀ c ∈ ds, isDecimalDigit c)
      ∧ digits = Lexeme.digitsValue ds ∧ exponent = 0 := by
  obtain ⟨sign, unsigned, split, isSign, isMagnitude, -⟩ := h
  obtain ⟨coefficient, tail, places, power, rfl, isCoefficient, isExponent, rfl⟩ := isMagnitude
  rw [itself] at split
  rw [split] at among
  obtain ⟨rfl, rfl⟩ : tail = [] ∧ power = 0 := by
    cases isExponent with
    | none => exact ⟨rfl, rfl⟩
    | @written mark _ _ _ isMark =>
      rcases among mark (by simp) with rfl | digit
      · simp at isMark
      · rcases isMark with rfl | rfl <;> cases digit
  rw [List.append_nil] at split among
  cases isCoefficient with
  | whole _ inside => exact ⟨sign, coefficient, split, isSign, inside, rfl, rfl⟩
  | pointed =>
    rcases among '.' (by simp) with same | digit
    · cases same
    · cases digit

/-- An integer's decimal text, as far as it is a numeral at all, is one of the integer. -/
theorem amount_of_writes_toString {i : Int} {negative : Bool} {digits : Nat} {exponent : Int}
    (h : Writes (toString i).toList negative digits exponent) : amount negative digits exponent = i := by
  obtain ⟨sign, ds, split, isSign, inside, rfl, rfl⟩ :=
    exists_whole_of_writes (fun c => mem_toString) (bare_toString i) h
  have plain : amount negative (Lexeme.digitsValue ds) 0
      = ((if negative then -(Lexeme.digitsValue ds : Int) else Lexeme.digitsValue ds : Int) : ℚ) := by
    cases negative <;> simp [amount, Scientific.value]
  rw [plain]
  congr 1
  have among : ∀ c ∈ sign, c = '-' ∨ c.isDigit := fun c mem => mem_toString (split ▸ List.mem_append_left _ mem)
  rw [Integer.toList_toString] at split
  cases isSign with
  | none =>
    rw [List.nil_append] at split
    split at split
    · rw [← split, (Integer.toDigits_spec i.toNat).2.2]
      simp only [Bool.false_eq_true, if_false]
      omega
    · have digit := inside '-' (by rw [← split]; exact List.mem_cons_self)
      rw [isDecimalDigit_minus] at digit
      cases digit
  | plus =>
    rcases among '+' (by simp) with same | digit
    · cases same
    · cases digit
  | minus =>
    split at split
    · have digit : Char.isDigit '-' := isDigit_of_mem_toDigits (n := i.toNat) (by rw [split]; simp)
      cases digit
    · obtain rfl := (List.cons.inj split).2
      rw [(Integer.toDigits_spec (-i).toNat).2.2, if_pos rfl]
      omega

end Numeral

namespace Filter

variable {name : String} {v w : Value} {p q : ℚ} {m n r : ℤ}

/-! ## Rounding -/

/-- What is no truth value is rounded as its text says, if it has one. -/
theorem roundHalfAway_of_write {s : String} (written : v.write = .ok s) (other : ∀ b, v ≠ .bool b) :
    roundHalfAway name v =
      match Numeral.read? s.toList with
      | none => .error (v.refusedBy name "a number")
      | some (.infinite _) | some .notANumber => .error (v.refusedBy name "a finite number")
      | some (.finite negative digits exponent) =>
        match Numeral.round? negative digits exponent with
        | some n => .ok n
        | none => .error .tooManyDigits := by
  unfold roundHalfAway
  split
  · next b => exact absurd rfl (other b)
  · split
    · next failed => cases failed.symm.trans written
    · next written' =>
      obtain rfl := Except.ok.inj (written'.symm.trans written)
      rfl

theorem write_of_ok {s : String} (written : v.write = .ok s) : v.undisplayed? = none ∧ s = v.display := by
  unfold Value.write at written
  split at written
  · cases written
  · next displayed => exact ⟨displayed, (Except.ok.inj written).symm⟩

theorem roundHalfAway_text {s : String} (isText : v.text? = some s) :
    roundHalfAway name v =
      match Numeral.read? s.toList with
      | none => .error (.filterValue name v "a number")
      | some (.infinite _) | some .notANumber => .error (.filterValue name v "a finite number")
      | some (.finite negative digits exponent) =>
        match Numeral.round? negative digits exponent with
        | some n => .ok n
        | none => .error .tooManyDigits := by
  cases v with
  | text t | markup t =>
    obtain rfl := Option.some.inj isText
    exact roundHalfAway_of_write rfl nofun
  | _ => cases isText

/-- An amount is rounded to its nearest integer exactly if this has few enough digits. -/
theorem roundHalfAway_eq_ok_iff (amount : v.HasAmount q) :
    roundHalfAway name v = .ok r ↔ IsNearest q r ∧ |r| < 10 ^ precision := by
  cases amount with
  | bool b =>
    have one : IsNearest (if b then 1 else 0) r ↔ r = if b then 1 else 0 := by
      cases b
      · exact_mod_cast isNearest_intCast_iff (i := 0)
      · exact_mod_cast isNearest_intCast_iff (i := 1)
    rw [one, roundHalfAway, Except.ok.injEq, eq_comm]
    constructor
    · rintro rfl
      exact ⟨rfl, by cases b <;> decide⟩
    · exact And.left
  | int i =>
    rw [isNearest_intCast_iff]
    constructor
    · intro rounded
      cases written : (Value.int i).write with
      | error fault =>
        rw [roundHalfAway, written] at rounded
        · cases rounded
        · nofun
      | ok s =>
        rw [roundHalfAway_of_write written nofun] at rounded
        obtain rfl : s = toString i := (write_of_ok written).2
        split at rounded
        · cases rounded
        · cases rounded
        · cases rounded
        · next read =>
          split at rounded
          · next n round =>
            obtain rfl := Except.ok.inj rounded
            obtain ⟨nearest, few⟩ := round?_eq_some_iff.1 round
            rw [amount_of_writes_toString (read?_eq_finite_iff.1 read), isNearest_intCast_iff] at nearest
            exact ⟨nearest, few⟩
          · cases rounded
    · rintro ⟨rfl, few⟩
      refine roundHalfAway_int name ?_
      rw [Int.abs_eq_natAbs] at few
      exact_mod_cast few
  | written isText writes =>
    rw [roundHalfAway_text isText, read?_eq_finite_iff.2 writes, ← round?_eq_some_iff]
    dsimp only
    cases round? _ _ _ with
    | none => simp
    | some n => simp

/-- **Rounding to the nearest integer, halves away from zero.** Every number has one nearest integer in this sense, and
rounding gives it, if it has at most 28 digits. So it is odd, it keeps the order, and it refuses every text that is no
numeral, and what is infinite or no number. -/
theorem roundHalfAway_nearest (name : String) :
    (∀ q : ℚ, ∃! r, IsNearest q r)
      ∧ (∀ v q r, v.HasAmount q → IsNearest q r → |r| < 10 ^ 28 → roundHalfAway name v = .ok r)
      ∧ (∀ v w q r, v.HasAmount q → w.HasAmount (-q) → roundHalfAway name v = .ok r → roundHalfAway name w = .ok (-r))
      ∧ (∀ v w p q m n, v.HasAmount p → w.HasAmount q → p ≤ q → roundHalfAway name v = .ok m →
          roundHalfAway name w = .ok n → m ≤ n)
      ∧ (∀ v s, v.text? = some s → (∀ q, ¬ v.HasAmount q) → ∃ expected ∈ ["a number", "a finite number"],
          roundHalfAway name v = .error (.filterValue name v expected))
      ∧ (∀ mark, roundHalfAway name (.notANumber mark)
          = .error (.filterValue name (.notANumber mark) "a finite number"))
      ∧ ∀ negative, roundHalfAway name (.float (.infinite negative))
          = .error (.filterValue name (.float (.infinite negative)) "a finite number") := by
  refine ⟨existsUnique_isNearest, fun v q r amount nearest few => ?_, fun v w q r amount amount' rounded => ?_,
    fun v w p q m n amount amount' le rounded rounded' => ?_, fun v s isText none => ?_, fun mark => ?_,
    fun negative => ?_⟩
  · exact (roundHalfAway_eq_ok_iff amount).2 ⟨nearest, few⟩
  · obtain ⟨nearest, few⟩ := (roundHalfAway_eq_ok_iff amount).1 rounded
    exact (roundHalfAway_eq_ok_iff amount').2 ⟨isNearest_neg.2 nearest, by rwa [abs_neg]⟩
  · obtain ⟨nearest, -⟩ := (roundHalfAway_eq_ok_iff amount).1 rounded
    obtain ⟨nearest', -⟩ := (roundHalfAway_eq_ok_iff amount').1 rounded'
    exact nearest.mono nearest' le
  · rw [roundHalfAway_text isText]
    split
    · exact ⟨_, by simp, rfl⟩
    · exact ⟨_, by simp, rfl⟩
    · exact ⟨_, by simp, rfl⟩
    · next read => exact absurd (.written isText (read?_eq_finite_iff.1 read)) (none _)
  · have read : Numeral.read? "nan".toList = some .notANumber := by decide
    have written : (Value.notANumber mark).write = .ok "nan" := rfl
    rw [roundHalfAway_of_write written nofun, read]
    rfl
  · have read : Numeral.read? (Value.float (.infinite negative)).display.toList = some (.infinite negative) := by
      cases negative <;> decide
    have written : (Value.float (.infinite negative)).write = .ok (Value.float (.infinite negative)).display := rfl
    rw [roundHalfAway_of_write written nofun, read]
    rfl

theorem hasAmount_negative_tie : (Value.text "-2.5").HasAmount (-(5 / 2)) := by
  have writes : Writes "-2.5".toList true 25 (-1) := read?_eq_finite_iff.1 (by decide)
  have amount : amount true 25 (-1) = -(5 / 2) := by norm_num [Numeral.amount, Scientific.value]
  exact amount ▸ .written rfl writes

theorem hasAmount_grouped_tie : (Value.text " 2_5e-1").HasAmount (5 / 2) := by
  have writes : Writes " 2_5e-1".toList false 25 (-1) := read?_eq_finite_iff.1 (by decide)
  have amount : amount false 25 (-1) = 5 / 2 := by norm_num [Numeral.amount, Scientific.value]
  exact amount ▸ .written rfl writes

/-- A half goes away from zero on both sides, in whatever way it is written, and a word is refused. -/
theorem roundHalfAway_ties :
    IsNearest (5 / 2) 3
      ∧ roundHalfAway "round" (.text " 2_5e-1") = .ok 3
      ∧ roundHalfAway "round" (.text "-2.5") = .ok (-3)
      ∧ (-3 : ℤ) ≤ 3 ∧ (∀ q, ¬ (Value.text "two").HasAmount q)
      ∧ ∃ expected, roundHalfAway "round" (.text "two") = .error (.filterValue "round" (.text "two") expected) := by
  obtain ⟨-, gives, odd, keeps, refuses, -⟩ := roundHalfAway_nearest "round"
  have nearest : IsNearest (5 / 2) 3 := .inr (by norm_num)
  have up := gives _ _ _ hasAmount_grouped_tie nearest (by decide)
  have down := odd _ _ _ _ hasAmount_grouped_tie hasAmount_negative_tie up
  have word : ∀ q, ¬ (Value.text "two").HasAmount q := by
    intro q amount
    generalize same : Value.text "two" = v at amount
    cases amount with
    | bool | int => cases same
    | written isText writes =>
      subst same
      obtain rfl := Option.some.inj isText
      have none : Numeral.read? "two".toList = none := by decide
      cases none.symm.trans (read?_eq_finite_iff.2 writes)
  obtain ⟨expected, -, refused⟩ := refuses _ _ rfl word
  exact ⟨nearest, up, down, keeps _ _ _ _ _ _ hasAmount_negative_tie hasAmount_grouped_tie (by norm_num) down up, word,
    expected, refused⟩

/-! ## Rating -/

/-- How many stars an integer is worth. -/
def starCount (n : ℤ) : Nat :=
  (min (max n 0) (maxStars : ℤ)).toNat

theorem starCount_le (n : ℤ) : starCount n ≤ maxStars := by
  unfold starCount
  omega

theorem starCount_mono (le : m ≤ n) : starCount m ≤ starCount n := by
  unfold starCount
  omega

theorem length_starText (n : ℤ) : (starText (starCount n)).length = maxStars := by
  have := starCount_le n
  simp only [starText, String.length_ofList, List.length_append, List.length_replicate]
  omega

theorem count_starText (filled : Nat) : (starText filled).toList.count '★' = filled := by
  rw [starText, String.toList_ofList, List.count_append, List.count_replicate_self, List.count_replicate,
    if_neg (by decide), Nat.add_zero]

theorem stars_eq_ok_iff (amount : v.HasAmount q) {shown : Value} :
    stars v = .ok shown ↔ ∃ r, IsNearest q r ∧ |r| < 10 ^ precision ∧ shown = .text (starText (starCount r)) := by
  rw [stars, map_eq_ok_iff]
  constructor
  · rintro ⟨r, rounded, rfl⟩
    obtain ⟨nearest, few⟩ := (roundHalfAway_eq_ok_iff amount).1 rounded
    exact ⟨r, nearest, few, rfl⟩
  · rintro ⟨r, nearest, few, rfl⟩
    exact ⟨r, (roundHalfAway_eq_ok_iff amount).2 ⟨nearest, few⟩, rfl⟩

/-- **A rating has five stars**, as many of them full as its nearest integer says, from none to five, so that a larger
amount never shows fewer full stars; this if the nearest integer has at most 28 digits. Beyond, there is no rating. -/
theorem stars_five (amount : v.HasAmount q) (nearest : IsNearest q r) :
    (|r| < 10 ^ 28 → ∃ text, stars v = .ok (.text text) ∧ text.length = 5
        ∧ (∃ filled : Nat, (filled : ℤ) = min (max r 0) 5
            ∧ text.toList = List.replicate filled '★' ++ List.replicate (5 - filled) '☆')
        ∧ ∀ w p more, w.HasAmount p → q ≤ p → stars w = .ok (.text more) →
            text.toList.count '★' ≤ more.toList.count '★')
      ∧ (10 ^ 28 ≤ |r| → ∃ fault, stars v = .error fault) := by
  constructor
  · intro few
    refine ⟨starText (starCount r), (stars_eq_ok_iff amount).2 ⟨r, nearest, few, rfl⟩, length_starText r,
      ⟨starCount r, ?_, String.toList_ofList⟩, fun w p more amount' le shown => ?_⟩
    · unfold starCount maxStars
      omega
    · obtain ⟨r', nearest', -, same⟩ := (stars_eq_ok_iff amount').1 shown
      obtain rfl := Value.text.inj same
      rw [count_starText, count_starText]
      exact starCount_mono (nearest.mono nearest' le)
  · intro many
    cases result : stars v with
    | error fault => exact ⟨fault, rfl⟩
    | ok shown =>
      obtain ⟨r', nearest', few, -⟩ := (stars_eq_ok_iff amount).1 result
      obtain rfl := (existsUnique_isNearest q).unique nearest' nearest
      exact absurd few (not_lt.2 many)

/-- Two and a half stars are three, and minus two and a half are none. -/
theorem stars_of_ties :
    IsNearest (5 / 2) 3 ∧ IsNearest (-(5 / 2)) (-3)
      ∧ (∃ text, stars (.text " 2_5e-1") = .ok (.text text) ∧ text.toList = ['★', '★', '★', '☆', '☆'])
      ∧ ∃ text, stars (.text "-2.5") = .ok (.text text) ∧ text.toList = ['☆', '☆', '☆', '☆', '☆'] := by
  have up : IsNearest (5 / 2) 3 := .inr (by norm_num)
  have down : IsNearest (-(5 / 2)) (-3) := isNearest_neg.2 up
  obtain ⟨text, shown, -, ⟨filled, count, glyphs⟩, -⟩ := (stars_five hasAmount_grouped_tie up).1 (by decide)
  obtain ⟨text', shown', -, ⟨filled', count', glyphs'⟩, -⟩ := (stars_five hasAmount_negative_tie down).1 (by decide)
  obtain rfl : filled = 3 := by omega
  obtain rfl : filled' = 0 := by omega
  exact ⟨up, down, ⟨text, shown, glyphs⟩, text', shown', glyphs'⟩

/-- An integer of 29 digits has no rating. -/
theorem stars_of_long_integer : stars (.int (10 ^ 28)) = .error .tooManyDigits := by
  have read : Numeral.read? (toString (10 ^ 28 : Int)).toList = some (.finite false (10 ^ 28) 0) := by decide +kernel
  have round : Numeral.round? false (10 ^ 28) 0 = none := by decide +kernel
  have few : Integer.isWritable (10 ^ 28) := by decide +kernel
  have written : (Value.int (10 ^ 28)).write = .ok (toString (10 ^ 28 : Int)) := by
    rw [Value.write, Value.undisplayed?_int, Value.unwrittenInteger?_eq_none few]
    rfl
  have other : ∀ b, Value.int (10 ^ 28) ≠ .bool b := fun _ same => by cases same
  rw [stars, roundHalfAway_of_write written other, read]
  dsimp only
  rw [round]
  rfl

end Filter

end Stencil
