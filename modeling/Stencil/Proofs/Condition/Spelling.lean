import Stencil.Condition.Lexeme
import Stencil.Proofs.Success
import Stencil.Proofs.Text.Classes
import Stencil.Proofs.Token.Names

/-!
# How conditions are spelled

The characters of every kind of lexeme, and what may not follow them: a path must not be carried on, and a
number may not run into a word or a point. `Lexeme.readAll_eq_ok_iff` says that a text is read as a row of
lexemes exactly if it is these lexemes, with any blanks in front of each.
-/

namespace Stencil.Lexeme

/-- What follows an opening quote, up to the quote that closes it. -/
inductive IsQuotedBody (quote : Char) : List Char → Prop where
  | close : IsQuotedBody quote [quote]
  | escaped {c : Char} {rest : List Char} : IsQuotedBody quote rest → IsQuotedBody quote ('\\' :: c :: rest)
  | plain {c : Char} {rest : List Char} : c ≠ quote → c ≠ '\\' → IsQuotedBody quote rest →
      IsQuotedBody quote (c :: rest)

/-- The fraction of a number: nothing, or a point with digits behind it. -/
def IsFraction (cs : List Char) : Prop :=
  cs = [] ∨ ∃ places, cs = '.' :: places ∧ places ≠ [] ∧ ∀ c ∈ places, isDecimalDigit c

/-- A number without a sign. -/
def IsUnsigned (cs : List Char) : Prop :=
  ∃ whole fraction, cs = whole ++ fraction ∧ whole ≠ [] ∧ (∀ c ∈ whole, isDecimalDigit c) ∧ IsFraction fraction

/-- A number, with or without a minus sign. -/
def IsNumber (literal : List Char) : Prop :=
  IsUnsigned literal ∨ ∃ unsigned, literal = '-' :: unsigned ∧ IsUnsigned unsigned

/-- The characters of a lexeme. -/
def chars : Lexeme → List Char
  | quoted literal => literal
  | number literal => literal
  | operator .equals => ['=', '=']
  | operator .differs => ['!', '=']
  | operator .bar => ['|']
  | name chars => chars

/-- Is the lexeme spelled as one of its kind? -/
def IsSpelled : Lexeme → Prop
  | quoted literal => ∃ quote body, literal = quote :: body ∧ (quote = '\'' ∨ quote = '"') ∧ IsQuotedBody quote body
  | number literal => IsNumber literal
  | operator _ => True
  | name chars => IsPath chars

/-- May the text follow a number? It carries on neither the number nor a word. -/
def StopsNumber (rest : List Char) : Prop :=
  beginsWith isDecimalDigit rest = false ∧ beginsWith isNumberTail rest = false

/-- May the text follow the lexeme? -/
def EndsBefore : Lexeme → List Char → Prop
  | number _, rest => StopsNumber rest
  | name _, rest => extendsPath rest = false
  | _, _ => True

/-- A text that is a row of lexemes, with any blanks in front of each. -/
inductive Spelled : List Char → List Lexeme → Prop where
  | nil : Spelled [] []
  | cons {gap rest : List Char} {l : Lexeme} {lexemes : List Lexeme} : (∀ c ∈ gap, isBlank c) → l.IsSpelled →
      l.EndsBefore rest → Spelled rest lexemes → Spelled (gap ++ l.chars ++ rest) (l :: lexemes)

/-! ## Quoted texts -/

theorem readQuoted?_eq_some_iff {quote : Char} (notBackslash : quote ≠ '\\') {cs body rest : List Char} :
    readQuoted? quote cs = some (body, rest) ↔ cs = body ++ rest ∧ IsQuotedBody quote body := by
  constructor
  · intro h
    fun_induction readQuoted? quote cs generalizing body with
    | case1 => cases h
    | case2 c tail ih =>
      obtain ⟨⟨body', rest'⟩, found, same⟩ := Option.map_eq_some_iff.1 h
      obtain ⟨rfl, rfl⟩ := Prod.mk.inj same
      obtain ⟨rfl, isBody⟩ := ih found
      exact ⟨rfl, .escaped isBody⟩
    | case3 tail _ =>
      obtain ⟨rfl, rfl⟩ := Prod.mk.inj (Option.some.inj h)
      exact ⟨rfl, .close⟩
    | case4 => cases h
    | case5 c tail _ notQuote plain ih =>
      obtain ⟨⟨body', rest'⟩, found, same⟩ := Option.map_eq_some_iff.1 h
      obtain ⟨rfl, rfl⟩ := Prod.mk.inj same
      obtain ⟨rfl, isBody⟩ := ih found
      exact ⟨rfl, .plain notQuote plain isBody⟩
  · rintro ⟨rfl, isBody⟩
    induction isBody with
    | close =>
      rw [List.singleton_append, readQuoted?]
      · exact if_pos rfl
      · rintro c tail rfl
        exact absurd rfl notBackslash
    | escaped _ ih => rw [List.cons_append, List.cons_append, readQuoted?, ih]; rfl
    | plain notQuote plain _ ih =>
      rw [List.cons_append, readQuoted?, if_neg notQuote, if_neg plain, ih]
      · rfl
      · rintro c tail rfl
        exact absurd rfl plain

/-! ## Numbers -/

theorem not_dot_of_stops {rest : List Char} (stop : StopsNumber rest) : rest.head? ≠ some '.' := by
  intro dot
  obtain ⟨tail, rfl⟩ := List.head?_eq_some_iff.1 dot
  cases stop.2

theorem readFraction_spec {cs : List Char} (stop : beginsWith isDecimalDigit cs = false) :
    cs = (readFraction cs).1 ++ (readFraction cs).2 ∧ IsFraction (readFraction cs).1
      ∧ beginsWith isDecimalDigit (readFraction cs).2 = false := by
  unfold readFraction
  split
  · next tail =>
    split
    · exact ⟨rfl, .inl rfl, stop⟩
    · next nonempty =>
      obtain ⟨same, inside, ends⟩ := takeWhile_dropWhile_spec isDecimalDigit tail
      refine ⟨?_, .inr ⟨_, rfl, nonempty, inside⟩, ends⟩
      rw [List.cons_append, ← same]
  · exact ⟨rfl, .inl rfl, stop⟩

theorem IsFraction.readFraction {fraction rest : List Char} (h : IsFraction fraction) (stop : StopsNumber rest) :
    readFraction (fraction ++ rest) = (fraction, rest) := by
  rcases h with rfl | ⟨places, rfl, nonempty, inside⟩
  · have dot := not_dot_of_stops stop
    unfold Lexeme.readFraction
    split
    · next tail same =>
      rw [List.nil_append] at same
      exact absurd (congrArg List.head? same) dot
    · rfl
  · rw [List.cons_append, Lexeme.readFraction, takeWhile_append_of_stop inside stop.1,
      dropWhile_append_of_stop inside stop.1]
    obtain ⟨c, tail, rfl⟩ := List.exists_cons_of_ne_nil nonempty
    rfl

theorem readUnsigned?_eq_some_iff {cs literal rest : List Char} :
    readUnsigned? cs = some (literal, rest) ↔ cs = literal ++ rest ∧ IsUnsigned literal ∧ StopsNumber rest := by
  constructor
  · intro h
    unfold readUnsigned? at h
    dsimp only at h
    split at h
    · cases h
    · next ok =>
      simp only [Bool.or_eq_true, not_or, List.isEmpty_iff, Bool.not_eq_true] at ok
      obtain ⟨rfl, rfl⟩ := Prod.mk.inj (Option.some.inj h)
      obtain ⟨same, inside, stop⟩ := takeWhile_dropWhile_spec isDecimalDigit cs
      obtain ⟨split, isFraction, ends⟩ := readFraction_spec stop
      refine ⟨?_, ⟨_, _, rfl, ok.1, inside, isFraction⟩, ends, ok.2⟩
      rw [List.append_assoc, ← split, ← same]
  · rintro ⟨rfl, ⟨whole, fraction, rfl, nonempty, inside, isFraction⟩, stop⟩
    have ends : beginsWith isDecimalDigit (fraction ++ rest) = false := by
      rcases isFraction with rfl | ⟨places, rfl, -, -⟩
      · exact stop.1
      · rw [List.cons_append, beginsWith_cons]
        exact isDecimalDigit_dot
    have fits : (whole.isEmpty || rest.head?.any isNumberTail) = false := by
      rw [Bool.or_eq_false_iff]
      exact ⟨by simpa using nonempty, stop.2⟩
    rw [readUnsigned?, List.append_assoc, takeWhile_append_of_stop inside ends,
      dropWhile_append_of_stop inside ends, isFraction.readFraction stop]
    simp [fits]

theorem IsUnsigned.beginsWith_isDecimalDigit {cs : List Char} (h : IsUnsigned cs) :
    beginsWith isDecimalDigit cs = true := by
  obtain ⟨whole, fraction, rfl, nonempty, inside, -⟩ := h
  rw [beginsWith_append nonempty]
  exact beginsWith_of_forall nonempty inside

theorem readNumber?_eq_some_iff {cs literal rest : List Char} :
    readNumber? cs = some (literal, rest) ↔ cs = literal ++ rest ∧ IsNumber literal ∧ StopsNumber rest := by
  constructor
  · intro h
    unfold readNumber? at h
    split at h
    · next tail =>
      obtain ⟨⟨unsigned, rest'⟩, found, same⟩ := Option.map_eq_some_iff.1 h
      obtain ⟨rfl, rfl⟩ := Prod.mk.inj same
      obtain ⟨rfl, isUnsigned, stop⟩ := readUnsigned?_eq_some_iff.1 found
      exact ⟨rfl, .inr ⟨unsigned, rfl, isUnsigned⟩, stop⟩
    · obtain ⟨rfl, isUnsigned, stop⟩ := readUnsigned?_eq_some_iff.1 h
      exact ⟨rfl, .inl isUnsigned, stop⟩
  · rintro ⟨rfl, isUnsigned | ⟨unsigned, rfl, isUnsigned⟩, stop⟩
    · have digit := isUnsigned.beginsWith_isDecimalDigit
      rw [readNumber?, readUnsigned?_eq_some_iff.2 ⟨rfl, isUnsigned, stop⟩]
      intro tail same
      cases literal with
      | nil => cases digit
      | cons c more =>
        obtain ⟨rfl, -⟩ := List.cons.inj same
        rw [beginsWith_cons, isDecimalDigit_minus] at digit
        cases digit
    · rw [List.cons_append, readNumber?, readUnsigned?_eq_some_iff.2 ⟨rfl, isUnsigned, stop⟩]
      rfl

/-! ## Lexemes -/

theorem IsNumber.ne_nil {literal : List Char} (h : IsNumber literal) : literal ≠ [] := by
  rcases h with isUnsigned | ⟨unsigned, rfl, -⟩
  · rintro rfl
    cases isUnsigned.beginsWith_isDecimalDigit
  · simp

theorem IsSpelled.ne_nil {l : Lexeme} (h : l.IsSpelled) : l.chars ≠ [] := by
  cases l with
  | quoted literal =>
    obtain ⟨quote, body, rfl, -⟩ := h
    simp [chars]
  | number literal => exact IsNumber.ne_nil h
  | operator op => cases op <;> simp [chars]
  | name chars => exact IsPath.ne_nil h

/-- A path does not begin like any other lexeme. -/
theorem readNumber?_eq_none_of_isPath {path : List Char} (h : IsPath path) (rest : List Char) :
    readNumber? (path ++ rest) = none := by
  rw [Option.eq_none_iff_forall_ne_some]
  rintro ⟨literal, left⟩ found
  obtain ⟨same, isNumber, -⟩ := readNumber?_eq_some_iff.1 found
  have starts : beginsWith isNameStart (literal ++ left) = true := by
    rw [← same, beginsWith_append h.ne_nil]
    exact h.beginsWith_isNameStart
  rcases isNumber with isUnsigned | ⟨unsigned, rfl, -⟩
  · have digit := isUnsigned.beginsWith_isDecimalDigit
    cases literal with
    | nil => cases digit
    | cons c tail =>
      rw [List.cons_append, beginsWith_cons] at starts
      rw [beginsWith_cons, isDecimalDigit_of_isNameStart starts] at digit
      cases digit
  · rw [List.cons_append, beginsWith_cons] at starts
    exact absurd starts (by decide)

/-- The text begins neither with a quote nor with an operator. -/
def isPlain (cs : List Char) : Bool :=
  !beginsWith (fun c => c = '\'' || c = '"' || c = '=' || c = '!' || c = '|') cs

theorem read?_of_plain {cs : List Char} (plain : isPlain cs) :
    read? cs = match readNumber? cs with
      | some (literal, rest) => some (number literal, rest)
      | none => (readPath? cs).map fun (chars, rest) => (name chars, rest) := by
  unfold read?
  split
  · cases plain
  · cases plain
  · cases plain
  · cases plain
  · cases plain
  · rfl

theorem plain_of_isPath {path : List Char} (h : IsPath path) (rest : List Char) : isPlain (path ++ rest) := by
  have starts := h.beginsWith_isNameStart
  obtain ⟨c, tail, rfl⟩ := List.exists_cons_of_ne_nil h.ne_nil
  rw [beginsWith_cons] at starts
  rw [isPlain, List.cons_append, beginsWith_cons, Bool.not_eq_true', ← Bool.not_eq_true]
  intro other
  simp only [Bool.or_eq_true, decide_eq_true_eq] at other
  rcases other with (((rfl | rfl) | rfl) | rfl) | rfl <;> exact absurd starts (by decide)

theorem plain_of_isNumber {literal : List Char} (h : IsNumber literal) (rest : List Char) :
    isPlain (literal ++ rest) := by
  rcases h with isUnsigned | ⟨unsigned, rfl, -⟩
  · have digit := isUnsigned.beginsWith_isDecimalDigit
    cases literal with
    | nil => cases digit
    | cons c tail =>
      rw [beginsWith_cons] at digit
      rw [isPlain, List.cons_append, beginsWith_cons, Bool.not_eq_true', ← Bool.not_eq_true]
      intro other
      simp only [Bool.or_eq_true, decide_eq_true_eq] at other
      rcases other with (((rfl | rfl) | rfl) | rfl) | rfl <;> exact absurd digit (by decide +kernel)
  · rfl

/-- The lexeme at the start of a text, and what follows it. -/
theorem read?_eq_some_iff {cs rest : List Char} {l : Lexeme} :
    read? cs = some (l, rest) ↔ cs = l.chars ++ rest ∧ l.IsSpelled ∧ l.EndsBefore rest := by
  constructor
  · intro h
    unfold read? at h
    split at h
    · obtain ⟨⟨body, rest'⟩, found, same⟩ := Option.map_eq_some_iff.1 h
      obtain ⟨rfl, rfl⟩ := Prod.mk.inj same
      obtain ⟨rfl, isBody⟩ := (readQuoted?_eq_some_iff (by decide)).1 found
      exact ⟨rfl, ⟨_, body, rfl, .inl rfl, isBody⟩, trivial⟩
    · obtain ⟨⟨body, rest'⟩, found, same⟩ := Option.map_eq_some_iff.1 h
      obtain ⟨rfl, rfl⟩ := Prod.mk.inj same
      obtain ⟨rfl, isBody⟩ := (readQuoted?_eq_some_iff (by decide)).1 found
      exact ⟨rfl, ⟨_, body, rfl, .inr rfl, isBody⟩, trivial⟩
    · obtain ⟨rfl, rfl⟩ := Prod.mk.inj (Option.some.inj h)
      exact ⟨rfl, trivial, trivial⟩
    · obtain ⟨rfl, rfl⟩ := Prod.mk.inj (Option.some.inj h)
      exact ⟨rfl, trivial, trivial⟩
    · obtain ⟨rfl, rfl⟩ := Prod.mk.inj (Option.some.inj h)
      exact ⟨rfl, trivial, trivial⟩
    · split at h
      · next found =>
        obtain ⟨rfl, rfl⟩ := Prod.mk.inj (Option.some.inj h)
        exact readNumber?_eq_some_iff.1 found
      · obtain ⟨⟨path, rest'⟩, found, same⟩ := Option.map_eq_some_iff.1 h
        obtain ⟨rfl, rfl⟩ := Prod.mk.inj same
        exact readPath?_eq_some_iff.1 found
  · rintro ⟨rfl, isSpelled, ends⟩
    cases l with
    | quoted literal =>
      obtain ⟨quote, body, rfl, rfl | rfl, isBody⟩ := isSpelled
      · rw [chars, List.cons_append, read?, (readQuoted?_eq_some_iff (by decide)).2 ⟨rfl, isBody⟩]
        rfl
      · rw [chars, List.cons_append, read?, (readQuoted?_eq_some_iff (by decide)).2 ⟨rfl, isBody⟩]
        rfl
    | operator op => cases op <;> rfl
    | number literal =>
      have found := readNumber?_eq_some_iff.2 ⟨rfl, isSpelled, ends⟩
      rw [chars, read?_of_plain (plain_of_isNumber isSpelled rest), found]
    | name path =>
      have none := readNumber?_eq_none_of_isPath isSpelled rest
      have found := readPath?_eq_some_iff.2 ⟨rfl, isSpelled, ends⟩
      rw [chars, read?_of_plain (plain_of_isPath isSpelled rest), none, found]
      rfl

theorem IsSpelled.not_beginsWith_isBlank {l : Lexeme} (h : l.IsSpelled) (rest : List Char) :
    beginsWith isBlank (l.chars ++ rest) = false := by
  rw [beginsWith_append h.ne_nil, ← Bool.not_eq_true]
  intro blank
  have digit : ∀ {cs : List Char}, IsUnsigned cs → beginsWith isBlank cs = false := by
    intro cs isUnsigned
    have digit := isUnsigned.beginsWith_isDecimalDigit
    cases cs with
    | nil => rfl
    | cons c tail =>
      rw [beginsWith_cons, ← Bool.not_eq_true]
      intro blank
      rw [beginsWith_cons, isDecimalDigit_of_isBlank blank] at digit
      cases digit
  cases l with
  | quoted literal =>
    obtain ⟨quote, body, rfl, rfl | rfl, -⟩ := h
    · exact absurd (show isBlank '\'' from blank) (by decide)
    · exact absurd (show isBlank '"' from blank) (by decide)
  | number literal =>
    rcases h with isUnsigned | ⟨unsigned, rfl, -⟩
    · have stop := digit isUnsigned
      rw [show beginsWith isBlank literal = true from blank] at stop
      cases stop
    · exact absurd (show isBlank '-' from blank) (by decide)
  | operator op => cases op <;> exact absurd blank (by decide)
  | name path =>
    have starts := IsPath.beginsWith_isNameStart h
    cases path with
    | nil => cases starts
    | cons c tail =>
      have := isNameChar_of_isNameStart starts
      rw [isNameChar_of_isBlank blank] at this
      cases this

theorem readAll_nil : readAll [] = .ok [] := by
  rw [readAll]
  rfl

/-- One lexeme, with blanks in front of it, is read before what follows it. -/
theorem readAll_lexeme {gap rest : List Char} {l : Lexeme} (blank : ∀ c ∈ gap, isBlank c) (isSpelled : l.IsSpelled)
    (ends : l.EndsBefore rest) : readAll (gap ++ l.chars ++ rest) = (readAll rest).map (l :: ·) := by
  have found : read? ((gap ++ l.chars ++ rest).dropWhile isBlank) = some (l, rest) := by
    rw [List.append_assoc, dropWhile_append_of_stop blank (isSpelled.not_beginsWith_isBlank rest)]
    exact read?_eq_some_iff.2 ⟨rfl, isSpelled, ends⟩
  have nonempty : ¬ (gap ++ l.chars ++ rest).isEmpty := by simp [isSpelled.ne_nil]
  rw [readAll, if_neg nonempty]
  split
  · next l' rest' found' =>
    obtain ⟨rfl, rfl⟩ := Prod.mk.inj (Option.some.inj (found.symm.trans found'))
    rfl
  · next none =>
    rw [found] at none
    cases none

/-- A text is read as the lexemes that it is spelled of. -/
theorem readAll_eq_ok_iff {cs : List Char} {lexemes : List Lexeme} :
    readAll cs = .ok lexemes ↔ Spelled cs lexemes := by
  constructor
  · intro h
    fun_induction readAll cs generalizing lexemes with
    | case1 cs empty =>
      obtain rfl := List.isEmpty_iff.1 empty
      obtain rfl := Except.ok.inj h
      exact .nil
    | case2 cs nonempty l rest found ih =>
      obtain ⟨tail, later, rfl⟩ := map_eq_ok_iff.1 h
      obtain ⟨split, isSpelled, ends⟩ := read?_eq_some_iff.1 found
      obtain ⟨gap, rfl, blank, -⟩ := dropWhile_eq_iff.1 split
      rw [← List.append_assoc]
      exact .cons blank isSpelled ends (ih later)
    | case3 => cases h
  · intro spelled
    induction spelled with
    | nil => exact readAll_nil
    | @cons gap rest l lexemes blank isSpelled ends spelled ih =>
      rw [readAll_lexeme blank isSpelled ends, ih]
      rfl

end Stencil.Lexeme
