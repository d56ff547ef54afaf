import Stencil.Proofs.Number.Whole

/-!
# Decimal numerals

What a decimal numeral is, said without reading: between blanks and apart from underscores, a sign if wanted, digits
of any script with a point if wanted, and an exponent if wanted. `Numeral.read?` gives the digits and the place of a
finite numeral exactly for the texts that write it (`Numeral.read?_eq_finite_iff`).
-/

namespace Stencil.Numeral

open Lexeme (digitsValue)

/-! ## Grammar -/

/-- A sign if wanted; does it say that the number is negative? -/
inductive IsSign : List Char → Bool → Prop
  | none : IsSign [] false
  | plus : IsSign ['+'] false
  | minus : IsSign ['-'] true

/-- Digits with a point if wanted: the number that all of them write, and how many stand behind the point. -/
inductive IsCoefficient : List Char → (digits places : Nat) → Prop
  | whole {ds : List Char} : ds ≠ [] → (∀ c ∈ ds, isDecimalDigit c) → IsCoefficient ds (digitsValue ds) 0
  | pointed {front behind : List Char} : front ++ behind ≠ [] → (∀ c ∈ front ++ behind, isDecimalDigit c) →
    IsCoefficient (front ++ '.' :: behind) (digitsValue (front ++ behind)) behind.length

/-- An exponent if wanted: a mark, a sign if wanted, and digits. -/
inductive IsExponent : List Char → Int → Prop
  | none : IsExponent [] 0
  | written {mark : Char} {sign ds : List Char} {negative : Bool} : mark = 'e' ∨ mark = 'E' → IsSign sign negative →
    ds ≠ [] → (∀ c ∈ ds, isDecimalDigit c) →
    IsExponent (mark :: (sign ++ ds)) (if negative then -(digitsValue ds : Int) else digitsValue ds)

/-- A numeral without its sign, of the magnitude `digits * 10 ^ exponent`. -/
def IsMagnitude (cs : List Char) (digits : Nat) (exponent : Int) : Prop :=
  ∃ coefficient tail places power, cs = coefficient ++ tail ∧ IsCoefficient coefficient digits places
    ∧ IsExponent tail power ∧ exponent = power - places

/-- Are the exponents of the first and of the last digit within the bounds? -/
def InRange (digits : Nat) (exponent : Int) : Prop :=
  exponent + (digitCount digits - 1 : Nat) ≤ greatestExponent ∧ leastPlace ≤ exponent

/-- What is left of a text without the blanks around it and the underscores in it. -/
def bare (cs : List Char) : List Char :=
  (strip cs).filter (· ≠ '_')

/-- The text is a numeral of the number `± digits * 10 ^ exponent`. -/
def Writes (cs : List Char) (negative : Bool) (digits : Nat) (exponent : Int) : Prop :=
  ∃ sign unsigned, bare cs = sign ++ unsigned ∧ IsSign sign negative ∧ IsMagnitude unsigned digits exponent
    ∧ InRange digits exponent

/-! ## Characters -/

/-- May the character stand in a numeral? -/
def IsPlain (c : Char) : Prop :=
  (0 < c.toNat ∧ c.toNat < 128) ∨ isDecimalDigit c

/-- The ASCII form of a character that may stand in a numeral. -/
def plainChar (c : Char) : Char :=
  if 0 < c.toNat ∧ c.toNat < 128 then c else Nat.digitChar ((digitValue? c).getD 0)

theorem isDecimalDigit_ascii {c : Char} (small : c.toNat < 128) : isDecimalDigit c = c.isDigit :=
  of_ascii (p := fun c => isDecimalDigit c = c.isDigit) (by decide +kernel) small

/-- A digit has the form of a digit of the same value, and everything else keeps its form. -/
theorem plainChar_cases {c : Char} (plain : IsPlain c) :
    (isDecimalDigit c ∧ (plainChar c).isDigit ∧ (plainChar c).toNat - 48 = (digitValue? c).getD 0)
      ∨ (isDecimalDigit c = false ∧ plainChar c = c ∧ c.isDigit = false) := by
  by_cases ascii : 0 < c.toNat ∧ c.toNat < 128
  · have same : plainChar c = c := if_pos ascii
    rw [same, isDecimalDigit_ascii ascii.2]
    cases digit : c.isDigit with
    | true => exact .inl ⟨rfl, rfl, by rw [isDecimalDigit_of_isDigit digit]; rfl⟩
    | false => exact .inr ⟨rfl, rfl, rfl⟩
  · have digit : isDecimalDigit c := plain.resolve_left ascii
    obtain ⟨d, value⟩ := Option.isSome_iff_exists.1 digit
    have form : plainChar c = Nat.digitChar d := by rw [plainChar, if_neg ascii, value]; rfl
    have small : d ∈ List.range 10 := List.mem_range.2 (Nat.lt_succ_of_le (digitValue?_le_nine value))
    have each : ∀ d ∈ List.range 10, (Nat.digitChar d).isDigit ∧ (Nat.digitChar d).toNat - 48 = d := by decide
    rw [form, value]
    exact .inl ⟨digit, each d small⟩

theorem isDigit_plainChar {c : Char} (plain : IsPlain c) : (plainChar c).isDigit = isDecimalDigit c := by
  rcases plainChar_cases plain with ⟨digit, form, -⟩ | ⟨other, same, form⟩
  · rw [digit, form]
  · rw [other, same, form]

/-- A character that is no digit is the form of itself only. -/
theorem plainChar_eq_iff {c mark : Char} (plain : IsPlain c) (small : mark.toNat < 128) (other : mark.isDigit = false) :
    plainChar c = mark ↔ c = mark := by
  rcases plainChar_cases plain with ⟨digit, form, -⟩ | ⟨-, same, -⟩
  · constructor
    · rintro rfl
      rw [form] at other
      cases other
    · rintro rfl
      rw [isDecimalDigit_ascii small, other] at digit
      cases digit
  · rw [same]

theorem ofDigits_map_plainChar {ds : List Char} (inside : ∀ c ∈ ds, isDecimalDigit c) :
    ofDigits (ds.map plainChar) = digitsValue ds := by
  rw [ofDigits, digitsValue, List.foldl_map]
  refine List.foldl_ext _ _ _ fun n c mem => ?_
  rcases plainChar_cases (.inr (inside c mem)) with ⟨-, -, value⟩ | ⟨other, -⟩
  · rw [← value]
    rfl
  · rw [inside c mem] at other
    cases other

/-- A text has an ASCII form if all that is left of it without underscores may stand in a numeral. -/
theorem plain?_eq_some_iff {cs ds : List Char} :
    plain? cs = some ds
      ↔ (∀ c ∈ cs.filter (· ≠ '_'), IsPlain c) ∧ ds = (cs.filter (· ≠ '_')).map plainChar := by
  induction cs generalizing ds with
  | nil => simp [plain?, eq_comm]
  | cons c rest ih =>
    rw [plain?]
    by_cases gap : c = '_'
    · rw [if_pos gap, List.filter_cons_of_neg (by simp [gap])]
      exact ih
    · rw [if_neg gap, List.filter_cons_of_pos (by simp [gap]), List.forall_mem_cons, List.map_cons]
      split
      · next ascii =>
        rw [Option.map_eq_some_iff, plainChar, if_pos ascii]
        constructor
        · rintro ⟨es, read, rfl⟩
          obtain ⟨plain, rfl⟩ := ih.1 read
          exact ⟨⟨.inl ascii, plain⟩, rfl⟩
        · rintro ⟨⟨-, plain⟩, rfl⟩
          exact ⟨_, ih.2 ⟨plain, rfl⟩, rfl⟩
      · next other =>
        rw [Option.bind_eq_some_iff, plainChar, if_neg other]
        constructor
        · rintro ⟨d, value, read⟩
          obtain ⟨es, later, rfl⟩ := Option.map_eq_some_iff.1 read
          obtain ⟨plain, rfl⟩ := ih.1 later
          exact ⟨⟨.inr (by rw [isDecimalDigit, value]; rfl), plain⟩, by rw [value]; rfl⟩
        · rintro ⟨⟨plain, later⟩, rfl⟩
          obtain ⟨d, value⟩ := Option.isSome_iff_exists.1 (plain.resolve_left other)
          exact ⟨d, value, Option.map_eq_some_iff.2 ⟨_, ih.2 ⟨later, rfl⟩, by rw [value]; rfl⟩⟩

theorem plain?_strip {cs ds : List Char} :
    plain? (strip cs) = some ds ↔ (∀ c ∈ bare cs, IsPlain c) ∧ ds = (bare cs).map plainChar :=
  plain?_eq_some_iff

/-! ## Signs -/

/-- Is the text's sign minus? And what stands behind the sign. -/
def splitSign : List Char → Bool × List Char
  | '-' :: rest => (true, rest)
  | '+' :: rest => (false, rest)
  | rest => (false, rest)

/-- Is the character a sign? -/
def isSignChar (c : Char) : Bool :=
  c = '-' || c = '+'

theorem splitSign_of_unsigned {cs : List Char} (unsigned : beginsWith isSignChar cs = false) :
    splitSign cs = (false, cs) := by
  unfold splitSign
  split
  · cases unsigned
  · cases unsigned
  · rfl

theorem splitSign_cases (cs : List Char) :
    (∃ rest, cs = '-' :: rest) ∨ (∃ rest, cs = '+' :: rest) ∨ beginsWith isSignChar cs = false := by
  cases cs with
  | nil => exact .inr (.inr rfl)
  | cons c rest =>
    cases signed : isSignChar c with
    | false => exact .inr (.inr (by rw [beginsWith_cons, signed]))
    | true =>
      simp only [isSignChar, Bool.or_eq_true, decide_eq_true_eq] at signed
      rcases signed with rfl | rfl
      · exact .inl ⟨rest, rfl⟩
      · exact .inr (.inl ⟨rest, rfl⟩)

theorem exists_isSign (cs : List Char) : ∃ sign, IsSign sign (splitSign cs).1 ∧ cs = sign ++ (splitSign cs).2 := by
  rcases splitSign_cases cs with ⟨rest, rfl⟩ | ⟨rest, rfl⟩ | unsigned
  · exact ⟨_, .minus, rfl⟩
  · exact ⟨_, .plus, rfl⟩
  · rw [splitSign_of_unsigned unsigned]
    exact ⟨_, .none, rfl⟩

theorem IsSign.splitSign {sign rest : List Char} {negative : Bool} (h : IsSign sign negative)
    (unsigned : beginsWith isSignChar rest = false) : splitSign (sign ++ rest) = (negative, rest) := by
  cases h with
  | none => exact splitSign_of_unsigned unsigned
  | plus | minus => rfl

theorem IsSign.plain {sign : List Char} {negative : Bool} (h : IsSign sign negative) : ∀ c ∈ sign, IsPlain c := by
  cases h with
  | none => simp
  | plus | minus => exact List.forall_mem_singleton.2 (.inl (by decide))

theorem splitSign_map {cs : List Char} (plain : ∀ c ∈ cs, IsPlain c) :
    splitSign (cs.map plainChar) = ((splitSign cs).1, (splitSign cs).2.map plainChar) := by
  rcases splitSign_cases cs with ⟨rest, rfl⟩ | ⟨rest, rfl⟩ | unsigned
  · rfl
  · rfl
  · have unsigned' : beginsWith isSignChar (cs.map plainChar) = false := by
      cases cs with
      | nil => rfl
      | cons c rest =>
        have first := plain c List.mem_cons_self
        simp only [List.map_cons, beginsWith_cons, isSignChar, plainChar_eq_iff first (by decide : '-'.toNat < 128) rfl,
          plainChar_eq_iff first (by decide : '+'.toNat < 128) rfl]
        exact unsigned
    rw [splitSign_of_unsigned unsigned, splitSign_of_unsigned unsigned']

theorem isSignChar_of_isDecimalDigit {c : Char} (h : isDecimalDigit c) : isSignChar c = false := by
  rw [isSignChar, Bool.or_eq_false_iff, decide_eq_false_iff_not, decide_eq_false_iff_not]
  constructor <;> rintro rfl
  · exact absurd h (by decide +kernel)
  · exact absurd h (by decide +kernel)

theorem unsigned_of_digits {ds : List Char} (inside : ∀ c ∈ ds, isDecimalDigit c) :
    beginsWith isSignChar ds = false := by
  cases ds with
  | nil => rfl
  | cons c rest => exact isSignChar_of_isDecimalDigit (inside c List.mem_cons_self)

/-! ## Reading -/

theorem readExponent?_cons (mark : Char) (rest : List Char) :
    readExponent? (mark :: rest) =
      if mark ≠ 'e' ∧ mark ≠ 'E' then none
      else if (splitSign rest).2.isEmpty || !(splitSign rest).2.all Char.isDigit then none
      else some (if (splitSign rest).1 then -(ofDigits (splitSign rest).2 : Int) else ofDigits (splitSign rest).2) := by
  rcases splitSign_cases rest with ⟨digits, rfl⟩ | ⟨digits, rfl⟩ | unsigned
  · rw [readExponent?]
    rfl
  · rw [readExponent?]
    rfl
  · rw [splitSign_of_unsigned unsigned, readExponent?]
    · rintro digits rfl
      cases unsigned
    · rintro digits rfl
      cases unsigned

theorem all_isDigit_map {ds : List Char} (plain : ∀ c ∈ ds, IsPlain c) :
    (ds.map plainChar).all Char.isDigit = ds.all isDecimalDigit := by
  rw [List.all_map, Bool.eq_iff_iff, List.all_eq_true, List.all_eq_true]
  refine forall₂_congr fun c mem => ?_
  rw [Function.comp_apply, isDigit_plainChar (plain c mem)]

theorem readExponent?_eq_some_iff {cs : List Char} (plain : ∀ c ∈ cs, IsPlain c) {power : Int} :
    readExponent? (cs.map plainChar) = some power ↔ IsExponent cs power := by
  cases cs with
  | nil =>
    rw [List.map_nil, readExponent?, Option.some_inj]
    constructor
    · rintro rfl
      exact .none
    · rintro ⟨⟩
      rfl
  | cons mark rest =>
    obtain ⟨first, later⟩ := List.forall_mem_cons.1 plain
    have marked : plainChar mark ≠ 'e' ∧ plainChar mark ≠ 'E' ↔ ¬ (mark = 'e' ∨ mark = 'E') := by
      rw [not_or, ne_eq, ne_eq, plainChar_eq_iff first (by decide) (by decide),
        plainChar_eq_iff first (by decide) (by decide)]
    obtain ⟨sign, isSign, split⟩ := exists_isSign rest
    have plainBehind : ∀ c ∈ (splitSign rest).2, IsPlain c := by
      rw [split] at later
      exact fun c mem => later c (List.mem_append_right _ mem)
    rw [List.map_cons, readExponent?_cons, splitSign_map later]
    dsimp only
    rw [all_isDigit_map plainBehind]
    constructor
    · intro h
      split at h
      · cases h
      · next isMark =>
        rw [marked, not_not] at isMark
        split at h
        · cases h
        · next digits =>
          simp only [Bool.or_eq_true, not_or, Bool.not_eq_true', Bool.not_eq_false, List.isEmpty_iff,
            List.map_eq_nil_iff, List.all_eq_true] at digits
          obtain ⟨nonempty, inside⟩ := digits
          rw [ofDigits_map_plainChar inside] at h
          rw [split, ← Option.some.inj h]
          exact .written isMark isSign nonempty inside
    · intro h
      generalize same : mark :: rest = whole at h
      cases h with
      | none => cases same
      | @written mark' sign' ds negative isMark isSign' nonempty inside =>
        obtain ⟨rfl, rfl⟩ := List.cons.inj same
        have parts := isSign'.splitSign (unsigned_of_digits inside)
        rw [if_neg (by rwa [marked, not_not]), parts]
        dsimp only
        rw [ofDigits_map_plainChar inside, if_neg]
        simpa [nonempty] using inside

/-- The digits at the start of a text are found in its ASCII form. -/
theorem takeWhile_map_plainChar {ds rest : List Char} (plain : ∀ c ∈ rest, IsPlain c)
    (inside : ∀ c ∈ ds, isDecimalDigit c) (stop : beginsWith isDecimalDigit rest = false) :
    ((ds ++ rest).map plainChar).takeWhile Char.isDigit = ds.map plainChar
      ∧ ((ds ++ rest).map plainChar).dropWhile Char.isDigit = rest.map plainChar := by
  refine takeWhile_dropWhile_iff.2 ⟨List.map_append, ?_, ?_⟩
  · intro c mem
    obtain ⟨d, there, rfl⟩ := List.mem_map.1 mem
    rw [isDigit_plainChar (.inr (inside d there))]
    exact inside d there
  · cases rest with
    | nil => rfl
    | cons c rest =>
      rw [List.map_cons, beginsWith_cons, isDigit_plainChar (plain c List.mem_cons_self)]
      exact stop

/-- The numeral of a row of digits, of which some stand behind the point, and an exponent. -/
def finish (negative : Bool) (ds : List Char) (places : Nat) (tail : List Char) : Option Numeral :=
  if ds = [] then none
  else (readExponent? (tail.map plainChar)).bind fun power =>
    if power - places + (digitCount (digitsValue ds) - 1 : Nat) ≤ greatestExponent ∧ leastPlace ≤ power - places then
      some (.finite negative (digitsValue ds) (power - places))
    else none

variable {negative : Bool} {front behind tail : List Char}

theorem readFinite?_pointed (inside : ∀ c ∈ front ++ behind, isDecimalDigit c) (plain : ∀ c ∈ tail, IsPlain c)
    (stop : beginsWith isDecimalDigit tail = false) :
    readFinite? negative ((front ++ '.' :: (behind ++ tail)).map plainChar)
      = finish negative (front ++ behind) behind.length tail := by
  obtain ⟨insideFront, insideBehind⟩ := List.forall_mem_append.1 inside
  have plainPoint : ∀ c ∈ '.' :: (behind ++ tail), IsPlain c := by
    refine List.forall_mem_cons.2 ⟨.inl (by decide), List.forall_mem_append.2 ⟨?_, plain⟩⟩
    exact fun c mem => .inr (insideBehind c mem)
  obtain ⟨taken, dropped⟩ := takeWhile_map_plainChar plainPoint insideFront isDecimalDigit_dot
  obtain ⟨taken', dropped'⟩ := takeWhile_map_plainChar plain insideBehind stop
  have point : ('.' :: (behind ++ tail)).map plainChar = '.' :: (behind ++ tail).map plainChar := rfl
  unfold readFinite? finish
  rw [taken, dropped, point]
  simp only [taken', dropped', ← List.map_append, ofDigits_map_plainChar inside, List.length_map, List.isEmpty_iff,
    Bool.and_eq_true, List.map_eq_nil_iff, List.append_eq_nil_iff]

theorem readFinite?_whole (inside : ∀ c ∈ front, isDecimalDigit c) (plain : ∀ c ∈ tail, IsPlain c)
    (stop : beginsWith isDecimalDigit tail = false) (unpointed : tail.head? ≠ some '.') :
    readFinite? negative ((front ++ tail).map plainChar) = finish negative front 0 tail := by
  obtain ⟨taken, dropped⟩ := takeWhile_map_plainChar plain inside stop
  unfold readFinite? finish
  rw [taken, dropped]
  split
  next fraction rest cut =>
  split at cut
  · next point =>
    obtain ⟨c, rest, rfl, same, -⟩ := List.map_eq_cons_iff.1 point
    rw [plainChar_eq_iff (plain c List.mem_cons_self) (by decide) (by decide)] at same
    exact absurd (congrArg some same) unpointed
  · obtain ⟨rfl, rfl⟩ := Prod.mk.inj cut
    simp only [List.append_nil, ofDigits_map_plainChar inside, List.isEmpty_nil, Bool.and_true, List.isEmpty_iff,
      List.map_eq_nil_iff, List.length_nil]

theorem finish_eq_some_iff {ds : List Char} {places : Nat} (plain : ∀ c ∈ tail, IsPlain c) {numeral : Numeral} :
    finish negative ds places tail = some numeral
      ↔ ds ≠ [] ∧ ∃ power, IsExponent tail power ∧ InRange (digitsValue ds) (power - places)
        ∧ numeral = .finite negative (digitsValue ds) (power - places) := by
  rw [finish]
  constructor
  · intro h
    split at h
    · cases h
    · next nonempty =>
      obtain ⟨power, read, h⟩ := Option.bind_eq_some_iff.1 h
      split at h
      · next range =>
        exact ⟨nonempty, power, (readExponent?_eq_some_iff plain).1 read, range, (Option.some.inj h).symm⟩
      · cases h
  · rintro ⟨nonempty, power, isExponent, range, rfl⟩
    rw [if_neg nonempty, (readExponent?_eq_some_iff plain).2 isExponent, Option.bind_some]
    exact if_pos range

/-- Behind the digits of a numeral, an exponent is recognized as such. -/
theorem IsExponent.stops {power : Int} (h : IsExponent tail power) :
    beginsWith isDecimalDigit tail = false ∧ tail.head? ≠ some '.' := by
  cases h with
  | none => exact ⟨rfl, by simp⟩
  | written isMark =>
    rcases isMark with rfl | rfl
    · exact ⟨by rw [beginsWith_cons]; decide +kernel, by simp⟩
    · exact ⟨by rw [beginsWith_cons]; decide +kernel, by simp⟩

/-- A text without sign is read as a finite numeral exactly if it is one. -/
theorem readFinite?_eq_some_iff {cs : List Char} (plain : ∀ c ∈ cs, IsPlain c) {numeral : Numeral} :
    readFinite? negative (cs.map plainChar) = some numeral
      ↔ ∃ digits exponent, IsMagnitude cs digits exponent ∧ InRange digits exponent
        ∧ numeral = .finite negative digits exponent := by
  constructor
  · intro read
    obtain ⟨split, inside, stop⟩ := takeWhile_dropWhile_spec isDecimalDigit cs
    generalize cs.takeWhile isDecimalDigit = front at split inside
    generalize cs.dropWhile isDecimalDigit = rest at split stop
    subst split
    obtain ⟨-, plainRest⟩ := List.forall_mem_append.1 plain
    by_cases pointed : rest.head? = some '.'
    · obtain ⟨more, rfl⟩ := List.head?_eq_some_iff.1 pointed
      obtain ⟨split, insideBehind, stopBehind⟩ := takeWhile_dropWhile_spec isDecimalDigit more
      generalize more.takeWhile isDecimalDigit = behind at split insideBehind
      generalize more.dropWhile isDecimalDigit = tail at split stopBehind
      subst split
      have insideBoth := List.forall_mem_append.2 ⟨inside, insideBehind⟩
      have plainTail : ∀ c ∈ tail, IsPlain c := fun c mem => plainRest c (by simp [mem])
      rw [readFinite?_pointed insideBoth plainTail stopBehind, finish_eq_some_iff plainTail] at read
      obtain ⟨nonempty, power, isExponent, range, rfl⟩ := read
      exact ⟨_, _, ⟨_, tail, _, power, by simp, .pointed nonempty insideBoth, isExponent, rfl⟩, range, rfl⟩
    · rw [readFinite?_whole inside plainRest stop pointed, finish_eq_some_iff plainRest] at read
      obtain ⟨nonempty, power, isExponent, range, rfl⟩ := read
      exact ⟨_, _, ⟨_, rest, _, power, rfl, .whole nonempty inside, isExponent, rfl⟩, range, rfl⟩
  · rintro ⟨_, _, ⟨coefficient, tail, places, power, rfl, isCoefficient, isExponent, rfl⟩, range, rfl⟩
    obtain ⟨-, plainTail⟩ := List.forall_mem_append.1 plain
    obtain ⟨stop, unpointed⟩ := isExponent.stops
    cases isCoefficient with
    | whole nonempty inside =>
      rw [readFinite?_whole inside plainTail stop unpointed, finish_eq_some_iff plainTail]
      exact ⟨nonempty, power, isExponent, range, rfl⟩
    | pointed nonempty inside =>
      rw [List.append_assoc, List.cons_append, readFinite?_pointed inside plainTail stop, finish_eq_some_iff plainTail]
      exact ⟨nonempty, power, isExponent, range, rfl⟩

/-- A numeral without its sign begins with a digit or the point. -/
theorem IsMagnitude.exists_cons {cs : List Char} {digits : Nat} {exponent : Int} (h : IsMagnitude cs digits exponent) :
    ∃ c rest, cs = c :: rest ∧ (isDecimalDigit c ∨ c = '.') := by
  obtain ⟨_, tail, _, _, rfl, isCoefficient, -, -⟩ := h
  cases isCoefficient with
  | whole nonempty inside =>
    obtain ⟨c, rest, rfl⟩ := List.exists_cons_of_ne_nil nonempty
    exact ⟨c, rest ++ tail, rfl, .inl (inside c List.mem_cons_self)⟩
  | @pointed front behind _ inside =>
    cases front with
    | nil => exact ⟨_, _, rfl, .inr rfl⟩
    | cons c front => exact ⟨c, _, rfl, .inl (inside c (by simp))⟩

theorem readUnsigned?_eq_finite_iff {cs : List Char} (plain : ∀ c ∈ cs, IsPlain c) {negative' : Bool} {digits : Nat}
    {exponent : Int} :
    readUnsigned? negative (cs.map plainChar) = some (.finite negative' digits exponent)
      ↔ negative' = negative ∧ IsMagnitude cs digits exponent ∧ InRange digits exponent := by
  have finite : readFinite? negative (cs.map plainChar) = some (.finite negative' digits exponent)
      ↔ negative' = negative ∧ IsMagnitude cs digits exponent ∧ InRange digits exponent := by
    rw [readFinite?_eq_some_iff plain]
    constructor
    · rintro ⟨_, _, isMagnitude, range, same⟩
      obtain ⟨rfl, rfl, rfl⟩ := Numeral.finite.inj same
      exact ⟨rfl, isMagnitude, range⟩
    · rintro ⟨rfl, isMagnitude, range⟩
      exact ⟨_, _, isMagnitude, range, rfl⟩
  constructor
  · intro read
    unfold readUnsigned? at read
    dsimp only at read
    split at read
    · split at read <;> cases read
    · split at read
      · split at read <;> cases read
      · exact finite.1 read
  · intro isNumeral
    -- what begins with a digit or the point is none of the words
    obtain ⟨c, rest, rfl, first⟩ := isNumeral.2.1.exists_cons
    have letter : (plainChar c).toLower.isAlpha = false := by
      rcases first with digit | rfl
      · exact forall_isDigit (p := fun c => c.toLower.isAlpha = false) (by decide)
          ((isDigit_plainChar (.inr digit)).trans digit)
      · decide
    have wordless : (((c :: rest).map plainChar).map Char.toLower).takeWhile Char.isAlpha = [] := by
      rw [List.map_cons, List.map_cons, List.takeWhile_cons_of_neg (by rw [letter]; exact Bool.false_ne_true)]
    unfold readUnsigned?
    simp only [wordless]
    simpa using finite.2 isNumeral

theorem read?_eq_bind (cs : List Char) :
    read? cs = (plain? (strip cs)).bind fun plain => readUnsigned? (splitSign plain).1 (splitSign plain).2 := by
  rw [read?]
  congr 1
  funext plain
  rcases splitSign_cases plain with ⟨rest, rfl⟩ | ⟨rest, rfl⟩ | unsigned
  · rfl
  · rfl
  · rw [splitSign_of_unsigned unsigned]
    split
    · cases unsigned
    · cases unsigned
    · rfl

/-- A numeral without its sign has characters of numerals only. -/
theorem IsMagnitude.plain {cs : List Char} {digits : Nat} {exponent : Int} (h : IsMagnitude cs digits exponent) :
    ∀ c ∈ cs, IsPlain c := by
  have digits {ds : List Char} (inside : ∀ c ∈ ds, isDecimalDigit c) : ∀ c ∈ ds, IsPlain c :=
    fun c mem => .inr (inside c mem)
  obtain ⟨_, tail, _, _, rfl, isCoefficient, isExponent, -⟩ := h
  refine List.forall_mem_append.2 ⟨?_, ?_⟩
  · cases isCoefficient with
    | whole _ inside => exact digits inside
    | pointed _ inside =>
      obtain ⟨front, behind⟩ := List.forall_mem_append.1 (digits inside)
      exact List.forall_mem_append.2 ⟨front, List.forall_mem_cons.2 ⟨.inl (by decide), behind⟩⟩
  · cases isExponent with
    | none => simp
    | written isMark isSign _ inside =>
      refine List.forall_mem_cons.2 ⟨?_, List.forall_mem_append.2 ⟨isSign.plain, digits inside⟩⟩
      rcases isMark with rfl | rfl
      · exact .inl (by decide)
      · exact .inl (by decide)

/-- **Reading a numeral.** A text is read as a finite numeral exactly if it writes it. -/
theorem read?_eq_finite_iff {cs : List Char} {digits : Nat} {exponent : Int} :
    read? cs = some (.finite negative digits exponent) ↔ Writes cs negative digits exponent := by
  rw [read?_eq_bind, Option.bind_eq_some_iff]
  constructor
  · rintro ⟨_, read, h⟩
    obtain ⟨plain, rfl⟩ := plain?_strip.1 read
    obtain ⟨sign, isSign, split⟩ := exists_isSign (bare cs)
    have plainBehind : ∀ c ∈ (splitSign (bare cs)).2, IsPlain c :=
      fun c mem => plain c (split ▸ List.mem_append_right _ mem)
    rw [splitSign_map plain] at h
    obtain ⟨rfl, isMagnitude, range⟩ := (readUnsigned?_eq_finite_iff plainBehind).1 h
    exact ⟨sign, _, split, isSign, isMagnitude, range⟩
  · rintro ⟨sign, unsigned, split, isSign, isMagnitude, range⟩
    have plain : ∀ c ∈ bare cs, IsPlain c := by
      rw [split]
      exact List.forall_mem_append.2 ⟨isSign.plain, isMagnitude.plain⟩
    have parts : splitSign (bare cs) = (negative, unsigned) := by
      rw [split]
      apply isSign.splitSign
      obtain ⟨c, rest, rfl, digit | rfl⟩ := isMagnitude.exists_cons
      · exact isSignChar_of_isDecimalDigit digit
      · rfl
    refine ⟨_, plain?_strip.2 ⟨plain, rfl⟩, ?_⟩
    rw [splitSign_map plain, parts]
    exact (readUnsigned?_eq_finite_iff isMagnitude.plain).2 ⟨rfl, isMagnitude, range⟩

end Stencil.Numeral
