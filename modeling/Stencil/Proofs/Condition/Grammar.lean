import Stencil.Condition
import Stencil.Proofs.Condition.Spelling
import Stencil.Proofs.Success

/-!
# The grammar of conditions

A condition is a phrase: an optional `not`, an operand, and an optional comparison with a second operand. A
phrase knows the lexemes that it is written with, the filters it uses and the expression it means.
`Condition.read_eq_ok_iff` says that a text is read as an expression exactly if it writes a phrase that means
this expression, uses known filters only and holds no integer with too many digits.
-/

namespace Stencil

/-- Is the lexeme converted to a value? Integers with too many digits are not. -/
def Lexeme.IsConvertible : Lexeme → Prop
  | .number literal => '.' ∉ literal → literal.countP isDecimalDigit ≤ Integer.greatestLength
  | _ => True

theorem Lexeme.excess?_eq_none_iff {literal : List Char} : excess? literal = none ↔ (number literal).IsConvertible := by
  simp [excess?, IsConvertible]

theorem Lexeme.lt_of_excess? {literal : List Char} {digits : Nat} (excess : excess? literal = some digits) :
    Integer.greatestLength < digits := by
  unfold excess? at excess
  dsimp only at excess
  split at excess
  · next long => exact Option.some.inj excess ▸ long.2
  · cases excess

namespace Condition

/-- An operand as it is written. -/
inductive Operand where
  | quoted (literal : List Char)
  | number (literal : List Char)
  /-- A word that stands for a constant. -/
  | constant (word : List Char) (value : Value)
  | path (chars : List Char) (filters : List (List Char))

/-- A comparison of two operands, for equality or difference, or a single operand. -/
structure Comparison where
  left : Operand
  right : Option (Bool × Operand)

/-- A condition as it is written. -/
structure Phrase extends Comparison where
  negated : Bool

namespace Operand

/-- The lexemes of filters, each with a bar in front. -/
def filterLexemes (filters : List (List Char)) : List Lexeme :=
  filters.flatMap fun name => [.operator .bar, .name name]

/-- The lexemes of an operand. -/
def lexemes : Operand → List Lexeme
  | quoted literal => [.quoted literal]
  | number literal => [.number literal]
  | constant word _ => [.name word]
  | path chars filters => .name chars :: filterLexemes filters

/-- Constants are written with their words, no path is such a word, and filters have names. -/
def Valid : Operand → Prop
  | constant word value => constant? word = some value
  | path chars filters => constant? chars = none ∧ ∀ name ∈ filters, IsName name
  | _ => True

/-- The filters that an operand uses. -/
def filters : Operand → List String
  | path _ filters => filters.map String.ofList
  | _ => []

/-- What an operand means. -/
def expr (position : Position) : Operand → Expr
  | quoted literal => .const position (.text (String.ofList (Lexeme.unquote literal)))
  | number literal => .const position (Lexeme.numberValue literal)
  | constant _ value => .const position value
  | path chars filters =>
    Expr.pipeline position (.path position (splitPath (String.ofList chars))) (filters.map String.ofList)

/-- May these lexemes follow the operand? -/
def EndsBefore : Operand → List Lexeme → Prop
  | path _ _, rest => rest.head? ≠ some (.operator .bar)
  | _, _ => True

end Operand

namespace Comparison

/-- The operator of a comparison. -/
def operator (equal : Bool) : Operator :=
  if equal then .equals else .differs

/-- The lexemes of a comparison. -/
def lexemes (c : Comparison) : List Lexeme :=
  match c.right with
  | none => c.left.lexemes
  | some (equal, right) => c.left.lexemes ++ .operator (operator equal) :: right.lexemes

/-- The filters that a comparison uses. -/
def filters (c : Comparison) : List String :=
  c.left.filters ++ (c.right.map fun (_, right) => right.filters).getD []

/-- Are its operands well-formed? -/
def Valid (c : Comparison) : Prop :=
  c.left.Valid ∧ ∀ pair ∈ c.right, pair.2.Valid

/-- What a comparison means. -/
def expr (position : Position) (c : Comparison) : Expr :=
  match c.right with
  | none => c.left.expr position
  | some (equal, right) => .compare position (c.left.expr position) equal (right.expr position)

end Comparison

/-- The word that negates a condition. -/
def notWord : List Char := ['n', 'o', 't']

namespace Phrase

/-- The lexemes of a condition. -/
def lexemes (phrase : Phrase) : List Lexeme :=
  if phrase.negated then .name notWord :: phrase.toComparison.lexemes else phrase.toComparison.lexemes

/-- Its operands are well-formed, and without a negation it does not begin with the word for it. -/
structure Valid (phrase : Phrase) : Prop where
  comparison : phrase.toComparison.Valid
  begins : phrase.negated = false → phrase.toComparison.lexemes.head? ≠ some (.name notWord)

/-- What a condition means. -/
def expr (position : Position) (phrase : Phrase) : Expr :=
  if phrase.negated then .not position (phrase.toComparison.expr position)
  else phrase.toComparison.expr position

/-- The text is the phrase, with any blanks in front of each lexeme and at the end. -/
def Writes (phrase : Phrase) (text : String) : Prop :=
  phrase.Valid ∧ Lexeme.Spelled (stripEnd text.toList) phrase.lexemes

end Phrase

/-! ## Operands -/

theorem isSimpleName_iff {chars : List Char} : isSimpleName chars ↔ IsName chars := by
  unfold isSimpleName
  split
  · next name found =>
    obtain ⟨rfl, isName, -⟩ := readName?_eq_some_iff.1 found
    simpa using isName
  · next other =>
    refine ⟨fun h => ?_, fun isName => ?_⟩
    · cases h
    · exact (other chars (readName?_eq_some_iff.2 ⟨(List.append_nil chars).symm, isName, rfl⟩)).elim

theorem readFilters_eq_ok_iff {lexemes rest : List Lexeme} {names : List String} :
    readFilters lexemes = .ok (names, rest)
      ↔ ∃ filters, names = filters.map String.ofList ∧ lexemes = Operand.filterLexemes filters ++ rest
        ∧ (∀ name ∈ filters, IsName name) ∧ rest.head? ≠ some (.operator .bar) := by
  constructor
  · intro h
    fun_induction readFilters lexemes generalizing names with
    | case1 tail chars simple ih =>
      obtain ⟨⟨names', rest'⟩, later, same⟩ := map_eq_ok_iff.1 h
      obtain ⟨rfl, rfl⟩ := Prod.mk.inj same
      obtain ⟨filters, rfl, rfl, named, ends⟩ := ih later
      refine ⟨chars :: filters, rfl, rfl, ?_, ends⟩
      intro name mem
      rcases List.mem_cons.1 mem with rfl | mem
      · exact isSimpleName_iff.1 simple
      · exact named name mem
    | case2 => cases h
    | case3 => cases h
    | case4 => cases h
    | case5 lexemes more alone =>
      obtain ⟨rfl, rfl⟩ := Prod.mk.inj (Except.ok.inj h)
      refine ⟨[], rfl, rfl, by simp, ?_⟩
      intro bar
      obtain ⟨tail, rfl⟩ := List.head?_eq_some_iff.1 bar
      cases tail with
      | nil => exact alone rfl
      | cons next tail => exact more next tail rfl
  · rintro ⟨filters, rfl, rfl, named, ends⟩
    induction filters with
    | nil =>
      change readFilters rest = .ok ([], rest)
      rw [readFilters.eq_def]
      split
      · exact absurd rfl ends
      · exact absurd rfl ends
      · rfl
    | cons name filters ih =>
      have later := ih fun other mem => named other (List.mem_cons_of_mem _ mem)
      have simple := isSimpleName_iff.2 (named name List.mem_cons_self)
      change readFilters (.operator .bar :: .name name :: (Operand.filterLexemes filters ++ rest)) = _
      rw [readFilters, if_pos simple, later]
      rfl

theorem unknownName?_eq_none_iff {known names : List String} :
    unknownName? known names = none ↔ ∀ name ∈ names, name ∈ known := by
  simp [unknownName?]

variable {position : Position} {known : List String}

/-- A path and filters behind it hold no number. -/
theorem Operand.isConvertible_of_path {chars : List Char} {filters : List (List Char)} :
    ∀ l ∈ (path chars filters).lexemes, l.IsConvertible := by
  refine List.forall_mem_cons.2 ⟨trivial, fun l mem => ?_⟩
  obtain ⟨name, -, mem⟩ := List.mem_flatMap.1 mem
  simp only [List.mem_cons, List.not_mem_nil, or_false] at mem
  rcases mem with rfl | rfl <;> trivial

theorem readOperand_eq_ok_iff {lexemes rest : List Lexeme} {e : Expr} :
    readOperand position known lexemes = .ok (e, rest)
      ↔ ∃ operand : Operand, operand.Valid ∧ lexemes = operand.lexemes ++ rest ∧ operand.EndsBefore rest
        ∧ (∀ name ∈ operand.filters, name ∈ known) ∧ (∀ l ∈ operand.lexemes, l.IsConvertible)
        ∧ e = operand.expr position := by
  constructor
  · intro h
    unfold readOperand at h
    split at h
    · cases h
    · next literal tail =>
      obtain ⟨rfl, rfl⟩ := Prod.mk.inj (Except.ok.inj h)
      exact ⟨.quoted literal, trivial, rfl, trivial, by simp [Operand.filters], List.forall_mem_singleton.2 trivial, rfl⟩
    · next literal tail =>
      split at h
      · cases h
      · next convertible =>
        obtain ⟨rfl, rfl⟩ := Prod.mk.inj (Except.ok.inj h)
        exact ⟨.number literal, trivial, rfl, trivial, by simp [Operand.filters],
          List.forall_mem_singleton.2 (Lexeme.excess?_eq_none_iff.1 convertible), rfl⟩
    · cases h
    · next chars tail =>
      split at h
      · next value found =>
        obtain ⟨rfl, rfl⟩ := Prod.mk.inj (Except.ok.inj h)
        exact ⟨.constant chars value, found, rfl, trivial, by simp [Operand.filters],
          List.forall_mem_singleton.2 trivial, rfl⟩
      · next word =>
        obtain ⟨⟨names, tail'⟩, read, h⟩ := bind_eq_ok_iff.1 h
        dsimp only at h
        split at h
        · cases h
        · next allKnown =>
          obtain ⟨rfl, rfl⟩ := Prod.mk.inj (Except.ok.inj h)
          obtain ⟨filters, rfl, rfl, named, ends⟩ := readFilters_eq_ok_iff.1 read
          exact ⟨.path chars filters, ⟨word, named⟩, rfl, ends, unknownName?_eq_none_iff.1 allKnown,
            Operand.isConvertible_of_path, rfl⟩
  · rintro ⟨operand, valid, rfl, ends, allKnown, convertible, rfl⟩
    cases operand with
    | quoted literal => rfl
    | number literal =>
      change readOperand position known (.number literal :: rest) = _
      rw [readOperand, Lexeme.excess?_eq_none_iff.2 (convertible _ List.mem_cons_self)]
      rfl
    | constant word value =>
      change readOperand position known (.name word :: rest) = _
      rw [readOperand, show constant? word = some value from valid]
      rfl
    | path chars filters =>
      obtain ⟨word, named⟩ := valid
      have read := readFilters_eq_ok_iff.2 ⟨filters, rfl, rfl, named, ends⟩
      change readOperand position known (.name chars :: (Operand.filterLexemes filters ++ rest)) = _
      rw [readOperand, word]
      refine bind_eq_ok_iff.2 ⟨_, read, ?_⟩
      dsimp only
      rw [show unknownName? known (filters.map String.ofList) = none from unknownName?_eq_none_iff.2 allKnown]
      rfl

/-! ## Comparisons -/

/-- The second operand of a comparison, behind which nothing may stand. -/
theorem compared_eq_ok_iff {left e : Expr} {equal : Bool} {lexemes : List Lexeme} :
    (do
      match ← readOperand position known lexemes with
      | (right, []) => Except.ok (Expr.compare position left equal right)
      | (_, extra :: _) => .error (.unexpectedAfterComparison extra.text)) = .ok e
      ↔ ∃ operand : Operand, operand.Valid ∧ lexemes = operand.lexemes ∧ (∀ name ∈ operand.filters, name ∈ known)
        ∧ (∀ l ∈ operand.lexemes, l.IsConvertible) ∧ e = .compare position left equal (operand.expr position) := by
  constructor
  · intro h
    obtain ⟨⟨right, rest⟩, read, h⟩ := bind_eq_ok_iff.1 h
    obtain ⟨operand, valid, rfl, -, allKnown, convertible, rfl⟩ := readOperand_eq_ok_iff.1 read
    cases rest with
    | nil => exact ⟨operand, valid, List.append_nil _, allKnown, convertible, (Except.ok.inj h).symm⟩
    | cons => cases h
  · rintro ⟨operand, valid, rfl, allKnown, convertible, rfl⟩
    have ends : operand.EndsBefore [] := by cases operand <;> simp [Operand.EndsBefore]
    refine bind_eq_ok_iff.2 ⟨(operand.expr position, []), ?_, rfl⟩
    exact readOperand_eq_ok_iff.2 ⟨operand, valid, (List.append_nil _).symm, ends, allKnown, convertible, rfl⟩

theorem readComparison_eq_ok_iff {lexemes : List Lexeme} {e : Expr} :
    readComparison position known lexemes = .ok e
      ↔ ∃ c : Comparison, c.Valid ∧ lexemes = c.lexemes ∧ (∀ name ∈ c.filters, name ∈ known)
        ∧ (∀ l ∈ c.lexemes, l.IsConvertible) ∧ e = c.expr position := by
  constructor
  · intro h
    obtain ⟨⟨left, rest⟩, read, h⟩ := bind_eq_ok_iff.1 h
    obtain ⟨operand, valid, rfl, -, allKnown, convertible, rfl⟩ := readOperand_eq_ok_iff.1 read
    dsimp only at h
    -- a comparison for equality and one for difference differ in the operator alone
    have compared : ∀ {equal tail}, rest = .operator (Comparison.operator equal) :: tail →
        (do
          match ← readOperand position known tail with
          | (right, []) => Except.ok (Expr.compare position (operand.expr position) equal right)
          | (_, extra :: _) => .error (.unexpectedAfterComparison extra.text)) = .ok e →
        ∃ c : Comparison, c.Valid ∧ operand.lexemes ++ rest = c.lexemes ∧ (∀ name ∈ c.filters, name ∈ known)
          ∧ (∀ l ∈ c.lexemes, l.IsConvertible) ∧ e = c.expr position := by
      rintro equal tail rfl h
      obtain ⟨right, valid', rfl, allKnown', convertible', rfl⟩ := compared_eq_ok_iff.1 h
      refine ⟨⟨operand, some (equal, right)⟩, ⟨valid, ?_⟩, rfl, ?_, ?_, rfl⟩
      · rintro _ ⟨⟩
        exact valid'
      · exact List.forall_mem_append.2 ⟨allKnown, allKnown'⟩
      · exact List.forall_mem_append.2 ⟨convertible, List.forall_mem_cons.2 ⟨trivial, convertible'⟩⟩
    split at h
    · obtain rfl := Except.ok.inj h
      refine ⟨⟨operand, none⟩, ⟨valid, by simp⟩, List.append_nil _, ?_, convertible, rfl⟩
      simpa [Comparison.filters] using allKnown
    · exact compared rfl h
    · exact compared rfl h
    · cases h
  · rintro ⟨⟨operand, right⟩, ⟨valid, valid'⟩, rfl, allKnown, convertible, rfl⟩
    have allKnown' : ∀ name ∈ operand.filters, name ∈ known := fun name mem =>
      allKnown name (List.mem_append_left _ mem)
    cases right with
    | none =>
      have ends : operand.EndsBefore [] := by cases operand <;> simp [Operand.EndsBefore]
      refine bind_eq_ok_iff.2 ⟨(operand.expr position, []), ?_, rfl⟩
      exact readOperand_eq_ok_iff.2 ⟨operand, valid, (List.append_nil _).symm, ends, allKnown', convertible, rfl⟩
    | some pair =>
      obtain ⟨equal, right⟩ := pair
      obtain ⟨convertible, convertible'⟩ := List.forall_mem_append.1 convertible
      have convertible'' := (List.forall_mem_cons.1 convertible').2
      have ends : operand.EndsBefore (.operator (Comparison.operator equal) :: right.lexemes) := by
        cases operand <;> cases equal <;> simp [Operand.EndsBefore, Comparison.operator]
      have allKnown'' : ∀ name ∈ right.filters, name ∈ known := fun name mem =>
        allKnown name (List.mem_append_right _ mem)
      refine bind_eq_ok_iff.2 ⟨(operand.expr position, .operator (Comparison.operator equal) :: right.lexemes),
        readOperand_eq_ok_iff.2 ⟨operand, valid, rfl, ends, allKnown', convertible, rfl⟩, ?_⟩
      cases equal
      · exact compared_eq_ok_iff.2 ⟨right, valid' _ rfl, rfl, allKnown'', convertible'', rfl⟩
      · exact compared_eq_ok_iff.2 ⟨right, valid' _ rfl, rfl, allKnown'', convertible'', rfl⟩

/-! ## Conditions -/

/-- A text is read as an expression if it writes a phrase of known filters and convertible numbers that means it. -/
theorem read_eq_ok_iff {text : String} {e : Expr} :
    read position known text = .ok e
      ↔ ∃ phrase : Phrase, phrase.Writes text ∧ (∀ name ∈ phrase.filters, name ∈ known)
        ∧ (∀ l ∈ phrase.lexemes, l.IsConvertible) ∧ e = phrase.expr position := by
  constructor
  · intro h
    unfold read at h
    split at h
    · cases h
    · next rest spelled =>
      obtain ⟨test, compared, rfl⟩ := map_eq_ok_iff.1 h
      obtain ⟨c, valid, rfl, allKnown, convertible, rfl⟩ := readComparison_eq_ok_iff.1 compared
      exact ⟨⟨c, true⟩, ⟨⟨valid, by simp⟩, Lexeme.readAll_eq_ok_iff.1 spelled⟩, allKnown,
        List.forall_mem_cons.2 ⟨trivial, convertible⟩, rfl⟩
    · next lexemes other spelled =>
      obtain ⟨c, valid, rfl, allKnown, convertible, rfl⟩ := readComparison_eq_ok_iff.1 h
      refine ⟨⟨c, false⟩, ⟨⟨valid, fun _ begins => ?_⟩, Lexeme.readAll_eq_ok_iff.1 spelled⟩, allKnown, convertible, rfl⟩
      obtain ⟨tail, same⟩ := List.head?_eq_some_iff.1 begins
      exact other tail same
  · rintro ⟨⟨c, negated⟩, ⟨⟨valid, begins⟩, spelled⟩, allKnown, convertible, rfl⟩
    have convertible' : ∀ l ∈ c.lexemes, l.IsConvertible := by
      cases negated
      · exact convertible
      · exact (List.forall_mem_cons.1 convertible).2
    have compared : readComparison position known c.lexemes = .ok (c.expr position) :=
      readComparison_eq_ok_iff.2 ⟨c, valid, rfl, allKnown, convertible', rfl⟩
    have lexed := Lexeme.readAll_eq_ok_iff.2 spelled
    cases negated with
    | true =>
      rw [read, show Lexeme.readAll (stripEnd text.toList) = .ok (.name notWord :: c.lexemes) from lexed]
      exact map_eq_ok_iff.2 ⟨_, compared, rfl⟩
    | false =>
      rw [read, show Lexeme.readAll (stripEnd text.toList) = .ok c.lexemes from lexed]
      split
      · next failed => cases failed
      · next rest same =>
        have same := Except.ok.inj same
        exact absurd (congrArg List.head? same) (begins rfl)
      · next same =>
        obtain rfl := Except.ok.inj same
        exact compared

/-! ## Where a fault comes from -/

theorem fault_of_readFilters {lexemes : List Lexeme} {fault : ConditionFault}
    (failed : readFilters lexemes = .error fault) :
    (∃ lexeme, fault = .notAFilterName lexeme) ∨ fault = .missingFilterName := by
  fun_induction readFilters lexemes with
  | case1 _ _ _ ih => exact ih (map_eq_error_iff.1 failed)
  | case2 | case3 =>
    obtain rfl := Except.error.inj failed
    exact .inl ⟨_, rfl⟩
  | case4 =>
    obtain rfl := Except.error.inj failed
    exact .inr rfl
  | case5 => cases failed

/-- A fault of a comparison is that of one of its operands, or it is about what follows an operand. -/
theorem fault_of_readComparison {lexemes : List Lexeme} {fault : ConditionFault}
    (failed : readComparison position known lexemes = .error fault) :
    readOperand position known lexemes = .error fault
      ∨ (∃ left operator rest, readOperand position known lexemes = .ok (left, operator :: rest)
        ∧ readOperand position known rest = .error fault)
      ∨ ∃ lexeme, fault = .unexpected lexeme ∨ fault = .unexpectedAfterComparison lexeme := by
  have compared {left : Expr} {equal : Bool} {rest : List Lexeme}
      (failed : (do
        match ← readOperand position known rest with
        | (right, []) => Except.ok (Expr.compare position left equal right)
        | (_, extra :: _) => .error (.unexpectedAfterComparison extra.text)) = .error fault) :
      readOperand position known rest = .error fault ∨ ∃ lexeme, fault = .unexpectedAfterComparison lexeme := by
    rcases bind_eq_error_iff.1 failed with failed | ⟨⟨right, _ | ⟨extra, _⟩⟩, -, failed⟩
    · exact .inl failed
    · cases failed
    · exact .inr ⟨_, (Except.error.inj failed).symm⟩
  rcases bind_eq_error_iff.1 failed with failed | ⟨⟨left, rest⟩, read, failed⟩
  · exact .inl failed
  · dsimp only at failed
    split at failed
    · cases failed
    · rcases compared failed with failed | ⟨lexeme, same⟩
      · exact .inr (.inl ⟨_, _, _, read, failed⟩)
      · exact .inr (.inr ⟨lexeme, .inr same⟩)
    · rcases compared failed with failed | ⟨lexeme, same⟩
      · exact .inr (.inl ⟨_, _, _, read, failed⟩)
      · exact .inr (.inr ⟨lexeme, .inr same⟩)
    · exact .inr (.inr ⟨_, .inl (Except.error.inj failed).symm⟩)

/-! ## Unknown filters -/

theorem not_mem_of_readOperand {lexemes : List Lexeme} {name : String}
    (failed : readOperand position known lexemes = .error (.unknownFilter name)) : name ∉ known := by
  unfold readOperand at failed
  split at failed
  · cases failed
  · cases failed
  · split at failed <;> cases failed
  · cases failed
  · split at failed
    · cases failed
    · rcases bind_eq_error_iff.1 failed with failed | ⟨⟨names, rest⟩, -, failed⟩
      · rcases fault_of_readFilters failed with ⟨_, other⟩ | other <;> cases other
      · dsimp only at failed
        split at failed
        · next found =>
          obtain rfl := ConditionFault.unknownFilter.inj (Except.error.inj failed)
          simpa using List.find?_some found
        · cases failed

theorem not_mem_of_readComparison {lexemes : List Lexeme} {name : String}
    (failed : readComparison position known lexemes = .error (.unknownFilter name)) : name ∉ known := by
  rcases fault_of_readComparison failed with first | ⟨_, _, _, -, second⟩ | ⟨_, other | other⟩
  · exact not_mem_of_readOperand first
  · exact not_mem_of_readOperand second
  · cases other
  · cases other

/-- A filter that is reported as unknown is not among the known ones. -/
theorem not_mem_of_read {text name : String} (failed : read position known text = .error (.unknownFilter name)) :
    name ∉ known := by
  unfold read at failed
  split at failed
  · cases failed
  · exact not_mem_of_readComparison (map_eq_error_iff.1 failed)
  · exact not_mem_of_readComparison failed

/-! ## Too many digits -/

/-- An integer among the lexemes that has so many digits that it is not converted. -/
def HasExcess (lexemes : List Lexeme) (digits : Nat) : Prop :=
  ∃ literal, .number literal ∈ lexemes ∧ Lexeme.excess? literal = some digits

theorem hasExcess_of_readOperand {lexemes : List Lexeme} {digits : Nat}
    (failed : readOperand position known lexemes = .error (.tooManyDigits digits)) : HasExcess lexemes digits := by
  unfold readOperand at failed
  split at failed
  · cases failed
  · cases failed
  · next literal rest =>
    split at failed
    · next excess =>
      obtain rfl := ConditionFault.tooManyDigits.inj (Except.error.inj failed)
      exact ⟨literal, List.mem_cons_self, excess⟩
    · cases failed
  · cases failed
  · split at failed
    · cases failed
    · rcases bind_eq_error_iff.1 failed with failed | ⟨⟨names, rest⟩, -, failed⟩
      · rcases fault_of_readFilters failed with ⟨_, other⟩ | other <;> cases other
      · dsimp only at failed
        split at failed <;> cases failed

theorem hasExcess_of_readComparison {lexemes : List Lexeme} {digits : Nat}
    (failed : readComparison position known lexemes = .error (.tooManyDigits digits)) : HasExcess lexemes digits := by
  rcases fault_of_readComparison failed with first | ⟨left, _, rest, read, second⟩ | ⟨_, other | other⟩
  · exact hasExcess_of_readOperand first
  · obtain ⟨operand, -, rfl, -⟩ := readOperand_eq_ok_iff.1 read
    obtain ⟨literal, mem, excess⟩ := hasExcess_of_readOperand second
    exact ⟨literal, List.mem_append_right _ (List.mem_cons_of_mem _ mem), excess⟩
  · cases other
  · cases other

/-- If too many digits are reported, then the text holds an integer with so many. -/
theorem hasExcess_of_read {text : String} {digits : Nat}
    (failed : read position known text = .error (.tooManyDigits digits)) :
    ∃ lexemes, Lexeme.readAll (stripEnd text.toList) = .ok lexemes ∧ HasExcess lexemes digits := by
  unfold read at failed
  split at failed
  · cases failed
  · next rest spelled =>
    obtain ⟨literal, mem, excess⟩ := hasExcess_of_readComparison (map_eq_error_iff.1 failed)
    exact ⟨_, spelled, literal, List.mem_cons_of_mem _ mem, excess⟩
  · next spelled => exact ⟨_, spelled, hasExcess_of_readComparison failed⟩

/-! ## Filters -/

/-- The names behind bars. -/
def namesBehindBars : List Lexeme → List String
  | .operator .bar :: .name name :: rest => String.ofList name :: namesBehindBars rest
  | _ :: rest => namesBehindBars rest
  | [] => []

theorem Operand.namesBehindBars_append (operand : Operand) (rest : List Lexeme) :
    namesBehindBars (operand.lexemes ++ rest) = operand.filters ++ namesBehindBars rest := by
  cases operand with
  | path chars filters =>
    change namesBehindBars (filterLexemes filters ++ rest) = filters.map String.ofList ++ namesBehindBars rest
    induction filters with
    | nil => rfl
    | cons name filters ih => exact congrArg (String.ofList name :: ·) ih
  | _ => rfl

theorem Comparison.namesBehindBars_lexemes (c : Comparison) : namesBehindBars c.lexemes = c.filters := by
  obtain ⟨left, right⟩ := c
  cases right with
  | none =>
    have alone := left.namesBehindBars_append []
    rwa [List.append_nil] at alone
  | some pair =>
    obtain ⟨equal, right⟩ := pair
    have alone := right.namesBehindBars_append []
    rw [List.append_nil] at alone
    have second : namesBehindBars (.operator (operator equal) :: right.lexemes) = namesBehindBars right.lexemes := by
      cases equal <;> rfl
    calc namesBehindBars (left.lexemes ++ .operator (operator equal) :: right.lexemes)
      _ = left.filters ++ namesBehindBars (.operator (operator equal) :: right.lexemes) :=
        left.namesBehindBars_append _
      _ = left.filters ++ (right.filters ++ []) := by rw [second, alone]; rfl
      _ = left.filters ++ right.filters := by rw [List.append_nil]

theorem Phrase.namesBehindBars_lexemes (phrase : Phrase) : namesBehindBars phrase.lexemes = phrase.filters := by
  obtain ⟨c, negated⟩ := phrase
  cases negated
  · exact c.namesBehindBars_lexemes
  · exact c.namesBehindBars_lexemes

theorem Phrase.Writes.lexemes_eq {phrase other : Phrase} {text : String} (h : phrase.Writes text)
    (h' : other.Writes text) : phrase.lexemes = other.lexemes :=
  Except.ok.inj ((Lexeme.readAll_eq_ok_iff.2 h.2).symm.trans (Lexeme.readAll_eq_ok_iff.2 h'.2))

/-- However a text is taken as a condition, it uses the same filters. -/
theorem Phrase.Writes.filters_eq {phrase other : Phrase} {text : String} (h : phrase.Writes text)
    (h' : other.Writes text) : phrase.filters = other.filters := by
  rw [← phrase.namesBehindBars_lexemes, h.lexemes_eq h', other.namesBehindBars_lexemes]

end Condition

end Stencil
