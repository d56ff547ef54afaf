import Stencil.Node.Reading
import Stencil.Proofs.Condition.Writing
import Stencil.Proofs.Render.Progress

/-!
# What conditions mean

Which expression a condition means is told without the reader. The text is a row of lexemes, with blanks between them
and around the whole. The lexemes form an operand, a comparison of two operands, or the negation of either
(`Condition.Forms`); an operand is a quoted text, a number, a word for a constant, or a path with known filters, which
are applied from left to right. `Condition.readCondition_iff` says that the reader finds this expression if the text has
no integer with more digits than are converted, and that for every text that means none it reports an invalid
expression, an unknown filter, or such an integer.
-/

namespace Stencil

namespace Lexeme

/-- The value of a number: without a point the integer of its digits, with a point and digits behind it the
floating-point number of the decimal fraction. -/
inductive Denotes : List Char → Value → Prop where
  | integer {negative : Bool} {digits : List Char} : digits ≠ [] → (∀ c ∈ digits, isDecimalDigit c) →
      Denotes (signed negative digits)
        (.int (if negative then -(digitsValue digits : Int) else (digitsValue digits : Int)))
  | decimal {negative : Bool} {whole places : List Char} : whole ≠ [] → (∀ c ∈ whole, isDecimalDigit c) →
      places ≠ [] → (∀ c ∈ places, isDecimalDigit c) →
      Denotes (signed negative (whole ++ '.' :: places))
        (.float (Binary64.ofDecimal negative (digitsValue (whole ++ places)) (-(places.length : Int))))

/-- The lexemes of a text, with any blanks in front of each and behind the last. -/
def Fills (text : List Char) (lexemes : List Lexeme) : Prop :=
  ∃ body blanks, text = body ++ blanks ∧ (∀ c ∈ blanks, isBlank c) ∧ Spelled body lexemes

end Lexeme

namespace Condition

/-- The words for constants, in lower case. -/
def constants : List (List Char × Value) :=
  [("true".toList, .bool true), ("false".toList, .bool false), ("none".toList, .null), ("null".toList, .null)]

/-- The word is one for a constant, in any case. -/
def IsConstant (word : List Char) (value : Value) : Prop :=
  (word.map Char.toLower, value) ∈ constants

variable (position : Position) (known : List String)

/-- A path with filters, each of which is applied to what stands in front of it. -/
inductive FormsPipeline : List Lexeme → Expr → Prop where
  | path {chars : List Char} : (∀ value, ¬ IsConstant chars value) →
      FormsPipeline [.name chars] (.path position (splitPath (String.ofList chars)))
  | filter {lexemes : List Lexeme} {operand : Expr} {name : List Char} : FormsPipeline lexemes operand →
      IsName name → String.ofList name ∈ known →
      FormsPipeline (lexemes ++ [.operator .bar, .name name]) (.filter position operand (String.ofList name))

/-- An operand. -/
inductive FormsOperand : List Lexeme → Expr → Prop where
  | quoted {quote : Char} {body text : List Char} : Lexeme.Unquotes quote body text →
      FormsOperand [.quoted (quote :: body)] (.const position (.text (String.ofList text)))
  | number {literal : List Char} {value : Value} : Lexeme.Denotes literal value →
      FormsOperand [.number literal] (.const position value)
  | constant {word : List Char} {value : Value} : IsConstant word value →
      FormsOperand [.name word] (.const position value)
  | pipeline {lexemes : List Lexeme} {e : Expr} : FormsPipeline position known lexemes e → FormsOperand lexemes e

/-- An operand, or a comparison of two. -/
inductive FormsComparison : List Lexeme → Expr → Prop where
  | operand {lexemes : List Lexeme} {e : Expr} : FormsOperand position known lexemes e → FormsComparison lexemes e
  | equal {left right : List Lexeme} {e f : Expr} : FormsOperand position known left e →
      FormsOperand position known right f →
      FormsComparison (left ++ .operator .equals :: right) (.compare position e true f)
  | different {left right : List Lexeme} {e f : Expr} : FormsOperand position known left e →
      FormsOperand position known right f →
      FormsComparison (left ++ .operator .differs :: right) (.compare position e false f)

/-- A condition. The word `not` in front of it always negates it. -/
inductive Forms : List Lexeme → Expr → Prop where
  | plain {lexemes : List Lexeme} {e : Expr} : lexemes.head? ≠ some (.name notWord) →
      FormsComparison position known lexemes e → Forms lexemes e
  | negated {lexemes : List Lexeme} {e : Expr} : FormsComparison position known lexemes e →
      Forms (.name notWord :: lexemes) (.not position e)

/-- The condition that the text writes. -/
def Means (text : String) (e : Expr) : Prop :=
  ∃ lexemes, Lexeme.Fills text.toList lexemes ∧ Forms position known lexemes e

end Condition

/-! ## Blanks at the end -/

namespace Lexeme

theorem IsNumber.isBlank_eq_false {literal : List Char} (h : IsNumber literal) : ∀ c ∈ literal, isBlank c = false := by
  have digit {c : Char} (h : isDecimalDigit c) : isBlank c = false := by
    by_contra blank
    rw [isDecimalDigit_of_isBlank (by simpa using blank)] at h
    cases h
  have unsigned {cs : List Char} (h : IsUnsigned cs) : ∀ c ∈ cs, isBlank c = false := by
    obtain ⟨whole, fraction, rfl, -, inside, rfl | ⟨places, rfl, -, inside'⟩⟩ := h
    · rw [List.append_nil]
      exact fun c mem => digit (inside c mem)
    · refine List.forall_mem_append.2 ⟨fun c mem => digit (inside c mem), ?_⟩
      exact List.forall_mem_cons.2 ⟨by decide, fun c mem => digit (inside' c mem)⟩
  rcases h with isUnsigned | ⟨cs, rfl, isUnsigned⟩
  · exact unsigned isUnsigned
  · exact List.forall_mem_cons.2 ⟨by decide, unsigned isUnsigned⟩

theorem IsQuotedBody.exists_eq {quote : Char} {body : List Char} (h : IsQuotedBody quote body) :
    ∃ front, body = front ++ [quote] := by
  induction h with
  | close => exact ⟨[], rfl⟩
  | escaped _ ih =>
    obtain ⟨front, rfl⟩ := ih
    exact ⟨_ :: _ :: front, rfl⟩
  | plain _ _ _ ih =>
    obtain ⟨front, rfl⟩ := ih
    exact ⟨_ :: front, rfl⟩

/-- No lexeme ends in a blank. -/
theorem IsSpelled.not_endsWith_isBlank {l : Lexeme} (h : l.IsSpelled) : beginsWith isBlank l.chars.reverse = false := by
  have solid {cs : List Char} (none : ∀ c ∈ cs, isBlank c = false) : beginsWith isBlank cs.reverse = false := by
    have trimmed := isTrimmed_of_forall none
    rw [isTrimmed, Bool.and_eq_true, Bool.not_eq_true', Bool.not_eq_true'] at trimmed
    exact trimmed.2
  cases l with
  | quoted literal =>
    obtain ⟨quote, body, rfl, isQuote, isBody⟩ := h
    obtain ⟨front, rfl⟩ := isBody.exists_eq
    rw [chars, ← List.cons_append, List.reverse_append]
    rcases isQuote with rfl | rfl
    · exact show isBlank '\'' = false by decide
    · exact show isBlank '"' = false by decide
  | number literal => exact solid (IsNumber.isBlank_eq_false h)
  | operator op => cases op <;> decide
  | name path =>
    refine solid fun c mem => ?_
    have here := Condition.isSolid_of_isPath h c mem
    rw [isSolid, Bool.and_eq_true, Bool.not_eq_true'] at here
    exact here.1

theorem Spelled.not_endsWith_isBlank {body : List Char} {lexemes : List Lexeme} (h : Spelled body lexemes) :
    beginsWith isBlank body.reverse = false := by
  induction h with
  | nil => rfl
  | @cons gap rest l _ _ isSpelled _ _ ih =>
    rw [List.reverse_append, List.reverse_append]
    by_cases last : rest = []
    · subst last
      rw [List.reverse_nil, List.nil_append, beginsWith_append (by simpa using isSpelled.ne_nil)]
      exact isSpelled.not_endsWith_isBlank
    · rwa [beginsWith_append (by simpa using last)]

theorem fills_iff {text : List Char} {lexemes : List Lexeme} : Fills text lexemes ↔ Spelled (stripEnd text) lexemes := by
  constructor
  · rintro ⟨body, blanks, rfl, blank, spelled⟩
    rwa [stripEnd_append_blanks blank spelled.not_endsWith_isBlank]
  · intro spelled
    obtain ⟨blanks, split, blank, -⟩ := exists_blanks_behind text
    exact ⟨_, blanks, split, blank, spelled⟩

/-! ## Numbers -/

theorem isNumber_iff_signed {literal : List Char} :
    IsNumber literal ↔ ∃ negative unsigned, literal = signed negative unsigned ∧ IsUnsigned unsigned := by
  constructor
  · rintro (isUnsigned | ⟨unsigned, rfl, isUnsigned⟩)
    · exact ⟨false, literal, rfl, isUnsigned⟩
    · exact ⟨true, unsigned, rfl, isUnsigned⟩
  · rintro ⟨negative, unsigned, rfl, isUnsigned⟩
    cases negative
    · exact .inl isUnsigned
    · exact .inr ⟨unsigned, rfl, isUnsigned⟩

theorem Denotes.isNumber {literal : List Char} {value : Value} (h : Denotes literal value) : IsNumber literal := by
  cases h with
  | integer nonempty inside =>
    exact isNumber_iff_signed.2 ⟨_, _, rfl, _, [], (List.append_nil _).symm, nonempty, inside, .inl rfl⟩
  | decimal nonempty inside nonempty' inside' =>
    exact isNumber_iff_signed.2 ⟨_, _, rfl, _, _, rfl, nonempty, inside, .inr ⟨_, rfl, nonempty', inside'⟩⟩

theorem Denotes.numberValue_eq {literal : List Char} {value : Value} (h : Denotes literal value) :
    numberValue literal = value := by
  cases h with
  | integer nonempty inside => exact numberValue_integer _ nonempty inside
  | decimal nonempty inside => exact numberValue_decimal _ nonempty inside _

theorem exists_denotes {literal : List Char} (h : IsNumber literal) : ∃ value, Denotes literal value := by
  obtain ⟨negative, _, rfl, whole, _, rfl, nonempty, inside, rfl | ⟨places, rfl, nonempty', inside'⟩⟩ :=
    isNumber_iff_signed.1 h
  · rw [List.append_nil]
    exact ⟨_, .integer nonempty inside⟩
  · exact ⟨_, .decimal nonempty inside nonempty' inside'⟩

theorem denotes_iff {literal : List Char} {value : Value} :
    Denotes literal value ↔ IsNumber literal ∧ value = numberValue literal := by
  constructor
  · exact fun h => ⟨h.isNumber, h.numberValue_eq.symm⟩
  · rintro ⟨isNumber, rfl⟩
    obtain ⟨value, denotes⟩ := exists_denotes isNumber
    rwa [denotes.numberValue_eq]

end Lexeme

/-! ## Words -/

/-- All runs but the first lie behind the ASCII characters. -/
theorem findSome?_lowerRuns_of_ascii {n : Nat} (ascii : n < 128) :
    lowerRuns.findSome? (·.partner? n) = CaseRun.partner? ⟨65, 90, 1, 32⟩ n := by
  have behind : ∀ r ∈ lowerRuns.tail, 128 ≤ r.first := by decide +kernel
  have none : lowerRuns.tail.findSome? (·.partner? n) = none := by
    refine List.findSome?_eq_none_iff.2 fun r mem => if_neg ?_
    have := behind r mem
    simp only [CaseRun.covers, Bool.and_eq_true, decide_eq_true_eq]
    omega
  rw [show lowerRuns = ⟨65, 90, 1, 32⟩ :: lowerRuns.tail from rfl, List.findSome?_cons, none]
  cases CaseRun.partner? ⟨65, 90, 1, 32⟩ n <;> rfl

theorem lowerOf_of_ascii {c : Char} (ascii : c.toNat < 128) : lowerOf c = [c.toLower] := by
  have plain : lowerExceptions.lookup c.toNat = none :=
    of_ascii (p := fun c => lowerExceptions.lookup c.toNat = none) (by decide +kernel) ascii
  rw [lowerOf, mapCase, plain, findSome?_lowerRuns_of_ascii ascii]
  exact of_ascii (p := fun c => [(CaseRun.partner? ⟨65, 90, 1, 32⟩ c.toNat).getD c] = [c.toLower])
    (by decide +kernel) ascii

theorem lowerAfter_of_ascii {cs : List Char} (ascii : ∀ c ∈ cs, c.toNat < 128) (before : List Char) :
    lowerAfter before cs = cs.map Char.toLower := by
  induction cs generalizing before with
  | nil => rfl
  | cons c rest ih =>
    obtain ⟨here, later⟩ := List.forall_mem_cons.1 ascii
    have other : c ≠ 'Σ' := by
      rintro rfl
      exact absurd here (by decide)
    rw [lowerAfter, lowerBetween, if_neg other, lowerOf_of_ascii here, ih later]
    rfl

namespace Condition

/-- The word of a path is one for a constant if its lower case is. -/
theorem constant?_eq_some_iff {word : List Char} (isPath : IsPath word) {value : Value} :
    constant? word = some value ↔ IsConstant word value := by
  have ascii : ∀ c ∈ word, c.toNat < 128 := by
    intro c mem
    rcases isPath.mem mem with inName | rfl
    · exact toNat_lt_of_isNameChar inName
    · decide
  have lower : lowered (String.ofList word) = String.ofList (word.map Char.toLower) := by
    rw [lowered, Stencil.lower, String.toList_ofList, lowerAfter_of_ascii ascii]
  have chars {cs : List Char} {s : String} (same : String.ofList cs = s) : cs = s.toList := by
    rw [← same, String.toList_ofList]
  unfold constant? IsConstant
  rw [lower]
  generalize word.map Char.toLower = cs
  constructor
  · intro found
    split at found
    · next same => simp [constants, chars same, ← Option.some.inj found]
    · next same => simp [constants, chars same, ← Option.some.inj found]
    · next same => simp [constants, chars same, ← Option.some.inj found]
    · next same => simp [constants, chars same, ← Option.some.inj found]
    · cases found
  · intro mem
    simp only [constants, List.mem_cons, Prod.mk.injEq, List.not_mem_nil, or_false] at mem
    rcases mem with ⟨rfl, rfl⟩ | ⟨rfl, rfl⟩ | ⟨rfl, rfl⟩ | ⟨rfl, rfl⟩ <;> rfl

theorem constant?_eq_none_iff {word : List Char} (isPath : IsPath word) :
    constant? word = none ↔ ∀ value, ¬ IsConstant word value := by
  rw [Option.eq_none_iff_forall_ne_some]
  exact forall_congr' fun value => not_congr (constant?_eq_some_iff isPath)

/-! ## Operands -/

variable {position : Position} {known : List String} {lexemes : List Lexeme} {e : Expr}

theorem formsPipeline_iff (spelled : ∀ l ∈ lexemes, l.IsSpelled) :
    FormsPipeline position known lexemes e
      ↔ ∃ chars filters, (Operand.path chars filters).Valid ∧ lexemes = (Operand.path chars filters).lexemes
        ∧ (∀ name ∈ (Operand.path chars filters).filters, name ∈ known)
        ∧ e = (Operand.path chars filters).expr position := by
  constructor
  · intro forms
    induction forms with
    | @path chars other =>
      have isPath : IsPath chars := spelled _ List.mem_cons_self
      exact ⟨chars, [], ⟨(constant?_eq_none_iff isPath).2 other, by simp⟩, rfl, by simp [Operand.filters], rfl⟩
    | @filter _ _ name _ isName isKnown ih =>
      obtain ⟨chars, filters, ⟨word, named⟩, rfl, allKnown, rfl⟩ :=
        ih fun l mem => spelled l (List.mem_append_left _ mem)
      refine ⟨chars, filters ++ [name], ⟨word, ?_⟩, ?_, ?_, ?_⟩
      · exact List.forall_mem_append.2 ⟨named, List.forall_mem_singleton.2 isName⟩
      · simp [Operand.lexemes, Operand.filterLexemes]
      · rw [Operand.filters, List.map_append]
        exact List.forall_mem_append.2 ⟨allKnown, List.forall_mem_singleton.2 isKnown⟩
      · simp [Operand.expr, Expr.pipeline]
  · rintro ⟨chars, filters, ⟨word, named⟩, rfl, allKnown, rfl⟩
    have isPath : IsPath chars := spelled (.name chars) List.mem_cons_self
    clear spelled
    induction filters using List.reverseRecOn with
    | nil => exact .path ((constant?_eq_none_iff isPath).1 word)
    | append_singleton filters name ih =>
      obtain ⟨named, isName⟩ := List.forall_mem_append.1 named
      rw [Operand.filters, List.map_append] at allKnown
      obtain ⟨allKnown, isKnown⟩ := List.forall_mem_append.1 allKnown
      have forms := FormsPipeline.filter (ih named allKnown) (isName name List.mem_cons_self)
        (isKnown _ List.mem_cons_self)
      simpa [Operand.lexemes, Operand.filterLexemes, Operand.expr, Expr.pipeline] using forms

theorem formsOperand_iff (spelled : ∀ l ∈ lexemes, l.IsSpelled) :
    FormsOperand position known lexemes e
      ↔ ∃ operand : Operand, operand.Valid ∧ lexemes = operand.lexemes ∧ (∀ name ∈ operand.filters, name ∈ known)
        ∧ e = operand.expr position := by
  have notBackslash {quote : Char} {body : List Char} (isSpelled : (Lexeme.quoted (quote :: body)).IsSpelled) :
      quote ≠ '\\' := by
    obtain ⟨_, _, same, isQuote, -⟩ := isSpelled
    rw [(List.cons.inj same).1]
    rcases isQuote with rfl | rfl <;> decide
  constructor
  · intro forms
    cases forms with
    | @quoted quote body text unquotes =>
      have text_eq := unquotes.unquote_eq (notBackslash (spelled _ List.mem_cons_self))
      refine ⟨.quoted (quote :: body), trivial, rfl, by simp [Operand.filters], ?_⟩
      rw [Operand.expr, text_eq]
    | @number literal _ denotes =>
      refine ⟨.number literal, trivial, rfl, by simp [Operand.filters], ?_⟩
      rw [Operand.expr, denotes.numberValue_eq]
    | @constant word value isConstant =>
      have found := (constant?_eq_some_iff (spelled (.name word) List.mem_cons_self)).2 isConstant
      exact ⟨.constant word value, found, rfl, by simp [Operand.filters], rfl⟩
    | pipeline forms =>
      obtain ⟨chars, filters, valid⟩ := (formsPipeline_iff spelled).1 forms
      exact ⟨.path chars filters, valid⟩
  · rintro ⟨operand, valid, rfl, allKnown, rfl⟩
    cases operand with
    | quoted literal =>
      obtain ⟨quote, body, rfl, -, isBody⟩ := spelled (.quoted literal) List.mem_cons_self
      have other := notBackslash (spelled (.quoted (quote :: body)) List.mem_cons_self)
      exact .quoted ((Lexeme.unquotes_iff other).2 ⟨isBody, rfl⟩)
    | number literal => exact .number (Lexeme.denotes_iff.2 ⟨spelled (.number literal) List.mem_cons_self, rfl⟩)
    | constant word value =>
      exact .constant ((constant?_eq_some_iff (spelled (.name word) List.mem_cons_self)).1 valid)
    | path chars filters =>
      exact .pipeline ((formsPipeline_iff spelled).2 ⟨chars, filters, valid, rfl, allKnown, rfl⟩)

/-! ## Comparisons and conditions -/

theorem formsComparison_iff (spelled : ∀ l ∈ lexemes, l.IsSpelled) :
    FormsComparison position known lexemes e
      ↔ ∃ c : Comparison, c.Valid ∧ lexemes = c.lexemes ∧ (∀ name ∈ c.filters, name ∈ known)
        ∧ e = c.expr position := by
  have compared {left right : List Lexeme} {f g : Expr} (equal : Bool)
      (spelled : ∀ l ∈ left ++ .operator (Comparison.operator equal) :: right, l.IsSpelled)
      (forms : FormsOperand position known left f) (forms' : FormsOperand position known right g) :
      ∃ c : Comparison, c.Valid ∧ left ++ .operator (Comparison.operator equal) :: right = c.lexemes
        ∧ (∀ name ∈ c.filters, name ∈ known) ∧ Expr.compare position f equal g = c.expr position := by
    obtain ⟨spelled, spelled'⟩ := List.forall_mem_append.1 spelled
    obtain ⟨o, valid, rfl, allKnown, rfl⟩ := (formsOperand_iff spelled).1 forms
    obtain ⟨o', valid', rfl, allKnown', rfl⟩ := (formsOperand_iff (List.forall_mem_cons.1 spelled').2).1 forms'
    refine ⟨⟨o, some (equal, o')⟩, ⟨valid, ?_⟩, rfl, List.forall_mem_append.2 ⟨allKnown, allKnown'⟩, rfl⟩
    rintro _ ⟨⟩
    exact valid'
  constructor
  · intro forms
    cases forms with
    | operand forms =>
      obtain ⟨o, valid, rfl, allKnown, rfl⟩ := (formsOperand_iff spelled).1 forms
      exact ⟨⟨o, none⟩, ⟨valid, by simp⟩, rfl, by simpa [Comparison.filters] using allKnown, rfl⟩
    | equal forms forms' => exact compared true spelled forms forms'
    | different forms forms' => exact compared false spelled forms forms'
  · rintro ⟨⟨left, right⟩, ⟨valid, valid'⟩, rfl, allKnown, rfl⟩
    cases right with
    | none =>
      refine .operand ((formsOperand_iff spelled).2 ⟨left, valid, rfl, ?_, rfl⟩)
      simpa [Comparison.filters] using allKnown
    | some pair =>
      obtain ⟨equal, right⟩ := pair
      obtain ⟨spelled, spelled'⟩ := List.forall_mem_append.1 spelled
      obtain ⟨allKnown, allKnown'⟩ := List.forall_mem_append.1 allKnown
      have forms : FormsOperand position known left.lexemes (left.expr position) :=
        (formsOperand_iff spelled).2 ⟨left, valid, rfl, allKnown, rfl⟩
      have forms' : FormsOperand position known right.lexemes (right.expr position) :=
        (formsOperand_iff (List.forall_mem_cons.1 spelled').2).2 ⟨right, valid' _ rfl, rfl, allKnown', rfl⟩
      cases equal
      · exact .different forms forms'
      · exact .equal forms forms'

theorem forms_iff (spelled : ∀ l ∈ lexemes, l.IsSpelled) :
    Forms position known lexemes e
      ↔ ∃ phrase : Phrase, phrase.Valid ∧ lexemes = phrase.lexemes ∧ (∀ name ∈ phrase.filters, name ∈ known)
        ∧ e = phrase.expr position := by
  constructor
  · intro forms
    cases forms with
    | plain begins forms =>
      obtain ⟨c, valid, rfl, allKnown, rfl⟩ := (formsComparison_iff spelled).1 forms
      exact ⟨⟨c, false⟩, ⟨valid, fun _ => begins⟩, rfl, allKnown, rfl⟩
    | negated forms =>
      obtain ⟨c, valid, rfl, allKnown, rfl⟩ := (formsComparison_iff (List.forall_mem_cons.1 spelled).2).1 forms
      exact ⟨⟨c, true⟩, ⟨valid, by simp⟩, rfl, allKnown, rfl⟩
  · rintro ⟨⟨c, negated⟩, ⟨valid, begins⟩, rfl, allKnown, rfl⟩
    cases negated with
    | false => exact .plain (begins rfl) ((formsComparison_iff spelled).2 ⟨c, valid, rfl, allKnown, rfl⟩)
    | true =>
      have spelled' : ∀ l ∈ c.lexemes, l.IsSpelled := (List.forall_mem_cons.1 spelled).2
      exact .negated ((formsComparison_iff spelled').2 ⟨c, valid, rfl, allKnown, rfl⟩)

theorem means_iff {text : String} :
    Means position known text e
      ↔ ∃ phrase : Phrase, phrase.Writes text ∧ (∀ name ∈ phrase.filters, name ∈ known) ∧ e = phrase.expr position := by
  constructor
  · rintro ⟨lexemes, fills, forms⟩
    have spelled := Lexeme.fills_iff.1 fills
    obtain ⟨phrase, valid, rfl, allKnown, rfl⟩ := (forms_iff (isSpelled_of_spelled spelled)).1 forms
    exact ⟨phrase, ⟨valid, spelled⟩, allKnown, rfl⟩
  · rintro ⟨phrase, ⟨valid, spelled⟩, allKnown, rfl⟩
    exact ⟨_, Lexeme.fills_iff.2 spelled, (forms_iff (isSpelled_of_spelled spelled)).2 ⟨phrase, valid, rfl, allKnown, rfl⟩⟩

theorem read_eq_ok_iff_means {text : String} :
    read position known text = .ok e
      ↔ ∃ lexemes, Lexeme.Fills text.toList lexemes ∧ Forms position known lexemes e
        ∧ ∀ l ∈ lexemes, l.IsConvertible := by
  rw [read_eq_ok_iff]
  constructor
  · rintro ⟨phrase, ⟨valid, spelled⟩, allKnown, convertible, rfl⟩
    exact ⟨_, Lexeme.fills_iff.2 spelled,
      (forms_iff (isSpelled_of_spelled spelled)).2 ⟨phrase, valid, rfl, allKnown, rfl⟩, convertible⟩
  · rintro ⟨lexemes, fills, forms, convertible⟩
    have spelled := Lexeme.fills_iff.1 fills
    obtain ⟨phrase, valid, rfl, allKnown, rfl⟩ := (forms_iff (isSpelled_of_spelled spelled)).1 forms
    exact ⟨phrase, ⟨valid, spelled⟩, allKnown, convertible, rfl⟩

/-! ## Too many digits -/

variable (position) in
theorem readOperand_of_valid {operand : Operand} {rest : List Lexeme} (valid : operand.Valid)
    (ends : operand.EndsBefore rest) (allKnown : ∀ name ∈ operand.filters, name ∈ known) :
    readOperand position known (operand.lexemes ++ rest) = .ok (operand.expr position, rest)
      ∨ ∃ digits, readOperand position known (operand.lexemes ++ rest) = .error (.tooManyDigits digits) := by
  have read (convertible : ∀ l ∈ operand.lexemes, l.IsConvertible) :
      readOperand position known (operand.lexemes ++ rest) = .ok (operand.expr position, rest) :=
    readOperand_eq_ok_iff.2 ⟨operand, valid, rfl, ends, allKnown, convertible, rfl⟩
  cases operand with
  | number literal =>
    cases excess : Lexeme.excess? literal with
    | none => exact .inl (read (List.forall_mem_singleton.2 (Lexeme.excess?_eq_none_iff.1 excess)))
    | some digits =>
      refine .inr ⟨digits, ?_⟩
      rw [Operand.lexemes, List.singleton_append, readOperand, excess]
  | path chars filters => exact .inl (read Operand.isConvertible_of_path)
  | quoted | constant => exact .inl (read (List.forall_mem_singleton.2 trivial))

variable (position) in
theorem readComparison_of_valid {c : Comparison} (valid : c.Valid) (allKnown : ∀ name ∈ c.filters, name ∈ known) :
    readComparison position known c.lexemes = .ok (c.expr position)
      ∨ ∃ digits, readComparison position known c.lexemes = .error (.tooManyDigits digits) := by
  obtain ⟨left, right⟩ := c
  obtain ⟨valid, valid'⟩ := valid
  cases right with
  | none =>
    have ends : left.EndsBefore [] := by cases left <;> simp [Operand.EndsBefore]
    have few : ∀ name ∈ left.filters, name ∈ known := by simpa [Comparison.filters] using allKnown
    have lexemes : Comparison.lexemes ⟨left, none⟩ = left.lexemes ++ [] := (List.append_nil _).symm
    rw [lexemes]
    rcases readOperand_of_valid position valid ends few with read | ⟨digits, failed⟩
    · exact .inl (bind_eq_ok_iff.2 ⟨_, read, rfl⟩)
    · exact .inr ⟨digits, bind_eq_error_iff.2 (.inl failed)⟩
  | some pair =>
    obtain ⟨equal, right⟩ := pair
    obtain ⟨few, few'⟩ := List.forall_mem_append.1 allKnown
    have ends : left.EndsBefore (.operator (Comparison.operator equal) :: right.lexemes) := by
      cases left <;> cases equal <;> simp [Operand.EndsBefore, Comparison.operator]
    have ends' : right.EndsBefore [] := by cases right <;> simp [Operand.EndsBefore]
    have second := readOperand_of_valid position (valid' _ rfl) ends' few'
    rw [List.append_nil] at second
    rcases readOperand_of_valid position valid ends few with read | ⟨digits, failed⟩
    · rcases second with read' | ⟨digits, failed'⟩
      · refine .inl (bind_eq_ok_iff.2 ⟨_, read, ?_⟩)
        cases equal
        · exact bind_eq_ok_iff.2 ⟨_, read', rfl⟩
        · exact bind_eq_ok_iff.2 ⟨_, read', rfl⟩
      · refine .inr ⟨digits, bind_eq_error_iff.2 (.inr ⟨_, read, ?_⟩)⟩
        cases equal
        · exact bind_eq_error_iff.2 (.inl failed')
        · exact bind_eq_error_iff.2 (.inl failed')
    · exact .inr ⟨digits, bind_eq_error_iff.2 (.inl failed)⟩

/-- What means an expression is read as this, unless too many digits are reported. -/
theorem read_of_means {text : String} (means : Means position known text e) :
    read position known text = .ok e ∨ ∃ digits, read position known text = .error (.tooManyDigits digits) := by
  obtain ⟨⟨c, negated⟩, ⟨⟨valid, begins⟩, spelled⟩, allKnown, rfl⟩ := means_iff.1 means
  have lexed := Lexeme.readAll_eq_ok_iff.2 spelled
  have compared := readComparison_of_valid position valid allKnown
  cases negated with
  | true =>
    rw [read, show Lexeme.readAll (stripEnd text.toList) = .ok (.name notWord :: c.lexemes) from lexed]
    rcases compared with compared | ⟨digits, failed⟩
    · exact .inl (map_eq_ok_iff.2 ⟨_, compared, rfl⟩)
    · exact .inr ⟨digits, map_eq_error_iff.2 failed⟩
  | false =>
    rw [read, show Lexeme.readAll (stripEnd text.toList) = .ok c.lexemes from lexed]
    split
    · next failed => cases failed
    · next rest same => exact absurd (congrArg List.head? (Except.ok.inj same)) (begins rfl)
    · next same =>
      obtain rfl := Except.ok.inj same
      exact compared

/-! ## Readings and reports -/

/-- How a text that is no condition is reported: as an invalid expression, or as using a filter that is not known. -/
inductive Reports (known : List String) (m : Malformed) : Prop where
  | invalid : m.kindName = "ParseError" → m.code.label = "C-PAR-003" → Reports known m
  | unknown {name : String} : m.kindName = "UnknownFilterError" → m.kind = .unknownFilter name → name ∉ known →
      Reports known m

/-- The text writes an integer with so many digits, more than are converted. -/
def WritesExcess (text : String) (digits : Nat) : Prop :=
  ∃ lexemes literal, Lexeme.Fills text.toList lexemes ∧ .number literal ∈ lexemes ∧ '.' ∉ literal
    ∧ literal.countP isDecimalDigit = digits ∧ Integer.greatestLength < digits

theorem writesExcess_of_read {text : String} {digits : Nat}
    (failed : read position known text = .error (.tooManyDigits digits)) : WritesExcess text digits := by
  obtain ⟨lexemes, lexed, literal, mem, excess⟩ := hasExcess_of_read failed
  refine ⟨lexemes, literal, Lexeme.fills_iff.2 (Lexeme.readAll_eq_ok_iff.1 lexed), mem, ?_⟩
  unfold Lexeme.excess? at excess
  dsimp only at excess
  split at excess
  · next many =>
    obtain rfl := Option.some.inj excess
    exact ⟨many.1, rfl, many.2⟩
  · cases excess

/-- **A condition is read as what it means, if none of its integers has too many digits.** Every text that means nothing
is reported, or else it has an integer with too many digits: this is a fault that is not reported as one of the
condition, whether the text means anything or not. -/
theorem readCondition_iff (ctx : ReadContext) (t : Token) (text : String) :
    (∀ e, NodeReader.readCondition ctx t text = .ok e
        ↔ ∃ lexemes, Lexeme.Fills text.toList lexemes ∧ Forms t.position ctx.filters lexemes e
          ∧ ∀ l ∈ lexemes, l.IsConvertible)
      ∧ ((∃ e, NodeReader.readCondition ctx t text = .ok e)
        ∨ (∃ m, NodeReader.readCondition ctx t text = .error m ∧ Reports ctx.filters m
          ∧ ∀ e, ¬ Means t.position ctx.filters text e)
        ∨ ∃ digits, NodeReader.readCondition ctx t text = .error (.number "" (.tooLong digits))
          ∧ WritesExcess text digits) := by
  cases outcome : read t.position ctx.filters text with
  | ok e =>
    have read : NodeReader.readCondition ctx t text = .ok e := by rw [NodeReader.readCondition, outcome]
    refine ⟨fun f => ?_, .inl ⟨e, read⟩⟩
    rw [← read_eq_ok_iff_means, read, outcome, Except.ok.injEq, Except.ok.injEq]
  | error fault =>
    have unread : ∃ m, NodeReader.readCondition ctx t text = .error m
        ∧ ((Reports ctx.filters m ∧ ∀ digits, fault ≠ .tooManyDigits digits)
          ∨ ∃ digits, fault = .tooManyDigits digits ∧ m = .number "" (.tooLong digits)) := by
      rw [NodeReader.readCondition, outcome]
      cases fault with
      | unknownFilter name =>
        exact ⟨_, rfl, .inl ⟨.unknown rfl rfl (not_mem_of_read outcome), fun _ same => by cases same⟩⟩
      | tooManyDigits digits => exact ⟨_, rfl, .inr ⟨digits, rfl, rfl⟩⟩
      | _ => exact ⟨_, rfl, .inl ⟨.invalid rfl rfl, fun _ same => by cases same⟩⟩
    obtain ⟨m, failed, way⟩ := unread
    refine ⟨fun f => ?_, .inr ?_⟩
    · rw [← read_eq_ok_iff_means, failed, outcome]
      simp only [reduceCtorEq]
    · rcases way with ⟨reports, other⟩ | ⟨digits, rfl, rfl⟩
      · refine .inl ⟨m, failed, reports, fun e means => ?_⟩
        rcases read_of_means means with read | ⟨digits, failed'⟩
        · cases outcome.symm.trans read
        · exact other digits (Except.error.inj (outcome.symm.trans failed'))
      · exact .inr ⟨digits, failed, writesExcess_of_read outcome⟩

/-! ## A comparison that is not read -/

open Integer

theorem excess?_manyDigits : Lexeme.excess? manyDigits = some (greatestLength + 1) := by
  have whole : '.' ∉ manyDigits := not_mem_manyDigits (by decide)
  unfold Lexeme.excess?
  dsimp only
  rw [countP_manyDigits, if_pos ⟨whole, Nat.lt_succ_self _⟩]

/-- A comparison with a number of too many digits. -/
def manyDigitsCompared : Phrase :=
  ⟨⟨.path ['a'] [], some (true, .number manyDigits)⟩, false⟩

/-- Its text. -/
def manyDigitsComparison : String :=
  String.ofList (['a'] ++ [' ', '=', '=', ' '] ++ manyDigits)

theorem isTrimmed_manyDigitsComparison : isTrimmed (['a'] ++ [' ', '=', '=', ' '] ++ manyDigits) :=
  isTrimmed_append_manyDigits rfl (by decide) _

theorem writes_manyDigitsCompared : manyDigitsCompared.Writes manyDigitsComparison := by
  have space : ∀ c ∈ [' '], isBlank c := List.all_eq_true.1 (by decide)
  have isNumber : Lexeme.IsNumber manyDigits :=
    .inl ⟨manyDigits, [], (List.append_nil _).symm, manyDigits_ne_nil, fun _ => isDecimalDigit_of_mem_manyDigits, .inl rfl⟩
  have isPath : IsPath ['a'] := ⟨['a'], [], rfl, isName_of_all (by decide), .nil⟩
  have number : Lexeme.Spelled ([' '] ++ manyDigits ++ []) [.number manyDigits] :=
    .cons (l := .number manyDigits) space isNumber ⟨rfl, rfl⟩ .nil
  have compared : Lexeme.Spelled ([' '] ++ ['=', '='] ++ ([' '] ++ manyDigits ++ [])) _ :=
    .cons (l := .operator .equals) space trivial trivial number
  have whole : Lexeme.Spelled ([] ++ ['a'] ++ ([' '] ++ ['=', '='] ++ ([' '] ++ manyDigits ++ []))) _ :=
    .cons (l := .name ['a']) nofun isPath rfl compared
  refine ⟨⟨⟨⟨by decide, by simp⟩, ?_⟩, by decide⟩, ?_⟩
  · rintro _ ⟨⟩
    trivial
  · have lexemes : manyDigitsCompared.lexemes = [.name ['a'], .operator .equals, .number manyDigits] := rfl
    rw [manyDigitsComparison, String.toList_ofList, stripEnd_eq_self isTrimmed_manyDigitsComparison, lexemes]
    simpa using whole

theorem readCondition_manyDigits (ctx : ReadContext) (t : Token) :
    NodeReader.readCondition ctx t manyDigitsComparison = .error (.number "" (.tooLong (greatestLength + 1))) := by
  have lexed := Lexeme.readAll_eq_ok_iff.2 writes_manyDigitsCompared.2
  have failed : readOperand t.position ctx.filters [.number manyDigits] = .error (.tooManyDigits (greatestLength + 1)) := by
    rw [readOperand, excess?_manyDigits]
  have read : read t.position ctx.filters manyDigitsComparison = .error (.tooManyDigits (greatestLength + 1)) := by
    rw [read, lexed]
    refine bind_eq_error_iff.2 (.inr ⟨(.path t.position ["a"], [.operator .equals, .number manyDigits]), rfl, ?_⟩)
    exact bind_eq_error_iff.2 (.inl failed)
  rw [NodeReader.readCondition, read]

/-- A comparison with an integer of too many digits is a condition, but it is neither read nor reported as a fault of
one. -/
theorem comparison_of_many_digits_breaks :
    (∃ e, Means ⟨1, 0⟩ [] manyDigitsComparison e)
      ∧ ∃ m, NodeReader.readCondition ⟨⟨none, none⟩, none, [], true⟩
          ⟨.openIf manyDigitsComparison, "", ⟨1, 0⟩⟩ manyDigitsComparison = .error m
        ∧ m.kindName = "ValueError" :=
  ⟨⟨_, means_iff.2 ⟨manyDigitsCompared, writes_manyDigitsCompared, by decide, rfl⟩⟩,
    _, readCondition_manyDigits _ _, rfl⟩

end Condition

end Stencil
