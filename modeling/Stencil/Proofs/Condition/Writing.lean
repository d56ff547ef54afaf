import Stencil.Proofs.Condition.Grammar
import Stencil.Proofs.Condition.Quoting
import Stencil.Proofs.Number.Integers

/-!
# The canonical text of conditions

An expression that a condition can mean has a canonical text: operands and operators with one space between
them, filters behind bars, constants in lower case, integers with decimal digits, and texts between given
quotes with a backslash in front of every backslash and every such quote. `Phrase.exists_written` says that
the canonical text of what a phrase means writes a phrase that means the same and uses the same filters, as
long as no number in it has a fraction.
-/

namespace Stencil

namespace Lexeme

/-! ## Whole numbers -/

theorem isNumber_of_isBound {cs : List Char} (h : IsBound cs) : IsNumber cs := by
  obtain ⟨sign, digits, rfl, signed, nonempty, inside⟩ := h
  have isUnsigned : IsUnsigned digits := ⟨digits, [], (List.append_nil _).symm, nonempty, inside, .inl rfl⟩
  rcases signed with rfl | rfl
  · exact .inl isUnsigned
  · exact .inr ⟨digits, rfl, isUnsigned⟩

/-- A number without a point is a sign and digits. -/
theorem isBound_of_whole {literal : List Char} (h : IsNumber literal) (whole : '.' ∉ literal) :
    IsBound literal := by
  have digits : ∀ {cs : List Char}, '.' ∉ cs → IsUnsigned cs → cs ≠ [] ∧ ∀ c ∈ cs, isDecimalDigit c := by
    rintro cs whole ⟨digits, fraction, rfl, nonempty, inside, rfl | ⟨places, rfl, -, -⟩⟩
    · rw [List.append_nil]
      exact ⟨nonempty, inside⟩
    · simp at whole
  rcases h with isUnsigned | ⟨unsigned, rfl, isUnsigned⟩
  · obtain ⟨nonempty, inside⟩ := digits whole isUnsigned
    exact ⟨[], literal, rfl, .inl rfl, nonempty, inside⟩
  · obtain ⟨nonempty, inside⟩ := digits (fun mem => whole (List.mem_cons_of_mem _ mem)) isUnsigned
    exact ⟨['-'], unsigned, rfl, .inr rfl, nonempty, inside⟩

/-- A number in front of which a minus sign may stand. -/
def signed (negative : Bool) (cs : List Char) : List Char :=
  if negative then '-' :: cs else cs

theorem numberValue_signed (negative : Bool) {cs : List Char} (digit : beginsWith isDecimalDigit cs) :
    numberValue (signed negative cs) = match cs.dropWhile isDecimalDigit with
      | '.' :: places =>
        .float (Binary64.ofDecimal negative (digitsValue (cs.takeWhile isDecimalDigit ++ places))
          (-(places.length : Int)))
      | _ => .int (if negative then -(digitsValue cs : Int) else digitsValue cs) := by
  cases negative with
  | true => rfl
  | false =>
    unfold numberValue
    split
    next negative unsigned same =>
    split at same
    · next rest minus =>
      rw [show cs = '-' :: rest from minus, beginsWith_cons, isDecimalDigit_minus] at digit
      cases digit
    · obtain ⟨rfl, rfl⟩ := Prod.mk.inj same
      rfl

theorem numberValue_integer (negative : Bool) {digits : List Char} (nonempty : digits ≠ [])
    (inside : ∀ c ∈ digits, isDecimalDigit c) :
    numberValue (signed negative digits) = .int (if negative then -(digitsValue digits : Int) else digitsValue digits) := by
  rw [numberValue_signed negative (beginsWith_of_forall nonempty inside), List.dropWhile_eq_nil_iff.2 inside]

theorem numberValue_decimal (negative : Bool) {whole : List Char} (nonempty : whole ≠ [])
    (inside : ∀ c ∈ whole, isDecimalDigit c) (places : List Char) :
    numberValue (signed negative (whole ++ '.' :: places))
      = .float (Binary64.ofDecimal negative (digitsValue (whole ++ places)) (-(places.length : Int))) := by
  have digit : beginsWith isDecimalDigit (whole ++ '.' :: places) := by
    rw [beginsWith_append nonempty]
    exact beginsWith_of_forall nonempty inside
  have stop : beginsWith isDecimalDigit ('.' :: places) = false := isDecimalDigit_dot
  rw [numberValue_signed negative digit, dropWhile_append_of_stop inside stop, takeWhile_append_of_stop inside stop]
  rfl

/-- As a number in a condition, a sign and digits are the integer that they are as a bound. -/
theorem exists_value_of_isBound {cs : List Char} (h : IsBound cs)
    (few : cs.countP isDecimalDigit ≤ Integer.greatestLength) :
    ∃ n, Integer.read cs = .ok n ∧ numberValue cs = .int n := by
  obtain ⟨n, read⟩ := (Integer.exists_read_iff h).2 few
  refine ⟨n, read, ?_⟩
  obtain ⟨sign, digits, rfl, rfl | rfl, nonempty, inside⟩ := h
  · rw [List.nil_append, Integer.read_digits nonempty inside] at read
    split at read
    · cases read
    · obtain rfl := Except.ok.inj read
      exact numberValue_integer false nonempty inside
  · rw [List.singleton_append, Integer.read_minus_digits nonempty inside] at read
    split at read
    · cases read
    · obtain rfl := Except.ok.inj read
      exact numberValue_integer true nonempty inside

/-- The decimal text of an integer that can be written is a number in a condition that is converted to it. -/
theorem numberValue_toString {n : Int} (writable : Integer.isWritable n) :
    (number (toString n).toList).IsConvertible ∧ numberValue (toString n).toList = .int n := by
  have isBound := Integer.isBound_toString n
  have few := (Integer.exists_read_iff isBound).1 ⟨n, Integer.read_toString writable⟩
  obtain ⟨m, read, value⟩ := exists_value_of_isBound isBound few
  rw [Integer.read_toString writable] at read
  exact ⟨fun _ => few, value.trans (congrArg Value.int (Except.ok.inj read).symm)⟩

theorem isSolid_of_isBound {cs : List Char} (h : IsBound cs) : ∀ c ∈ cs, isSolid c := by
  obtain ⟨sign, digits, rfl, signed, -, inside⟩ := h
  intro c mem
  rcases List.mem_append.1 mem with mem | mem
  · rcases signed with rfl | rfl
    · cases mem
    · obtain rfl := List.mem_singleton.1 mem
      decide
  · exact isSolid_of_isDecimalDigit (inside c mem)

end Lexeme

/-! ## Expressions -/

/-- The canonical text of a constant that conditions have a spelling for. -/
def Value.literal (quote : Char) : Value → String
  | bool true => "true"
  | bool false => "false"
  | null => "none"
  | int n => toString n
  | text s => String.ofList (Lexeme.quoteText quote s.toList)
  | v => v.inspect

/-- The canonical text of an expression. -/
def Expr.written (quote : Char) : Expr → String
  | const _ value => value.literal quote
  | path _ segments => ".".intercalate segments
  | filter _ operand name => operand.written quote ++ "|" ++ name
  | not _ operand => "not " ++ operand.written quote
  | compare _ left equal right => left.written quote ++ " " ++ operator equal ++ " " ++ right.written quote

theorem intercalate_splitPath (path : List Char) :
    (".".intercalate (splitPath (String.ofList path))).toList = path := by
  have same : ∀ segments : List (List Char), (segments.map String.ofList).map String.toList = segments := by
    intro segments
    rw [List.map_map]
    exact List.map_id'' (fun _ => String.toList_ofList) segments
  have chars : (String.ofList path).toList = path := String.toList_ofList
  rw [String.toList_intercalate, splitPath, same, chars]
  exact List.intercalate_splitOn '.'

theorem written_pipeline {quote : Char} (position : Position) (operand : Expr) (filters : List (List Char)) :
    ((Expr.pipeline position operand (filters.map String.ofList)).written quote).toList
      = (operand.written quote).toList ++ filters.flatMap ('|' :: ·) := by
  unfold Expr.pipeline
  induction filters generalizing operand with
  | nil => simp
  | cons name rest ih =>
    rw [List.map_cons, List.foldl_cons, ih, Expr.written]
    simp

/-- A path with filters is written with bars alone between its parts. -/
theorem written_path (quote : Char) (position : Position) (path : List Char) (filters : List (List Char)) :
    ((Expr.pipeline position (.path position (splitPath (String.ofList path))) (filters.map String.ofList)).written
      quote).toList = path ++ filters.flatMap ('|' :: ·) := by
  rw [written_pipeline, Expr.written, intercalate_splitPath]

/-! ## Operands -/

/-- A lexeme as it may stand in a block tag: spelled as one of its kind, converted to a value, without a delimiter of
block tags, and without a fraction. -/
structure Lexeme.Fits (l : Lexeme) : Prop where
  spelled : l.IsSpelled
  closes : Avoids '%' '}' l.chars
  opens : Avoids '{' '%' l.chars
  convertible : l.IsConvertible
  whole : ∀ literal, l = .number literal → '.' ∉ literal

/-- A text that may follow an operand: nothing, or a space and more. -/
def Detached (rest : List Char) : Prop :=
  ∀ c ∈ rest.head?, c = ' '

theorem Detached.not_extendsPath {rest : List Char} (h : Detached rest) : extendsPath rest = false := by
  cases rest with
  | nil => rfl
  | cons c tail =>
    obtain rfl := h c rfl
    rfl

theorem Detached.stopsNumber {rest : List Char} (h : Detached rest) : Lexeme.StopsNumber rest := by
  cases rest with
  | nil => exact ⟨rfl, rfl⟩
  | cons c tail =>
    obtain rfl := h c rfl
    exact ⟨show isDecimalDigit ' ' = false by decide +kernel,
      show Lexeme.isNumberTail ' ' = false by decide +kernel⟩

namespace Lexeme

/-- The lexemes of a text are parts of it. -/
theorem Spelled.of_mem {cs : List Char} {lexemes : List Lexeme} (h : Spelled cs lexemes) {l : Lexeme}
    (mem : l ∈ lexemes) : l.IsSpelled ∧ l.chars <:+: cs := by
  induction h with
  | nil => cases mem
  | @cons gap rest _ _ _ isSpelled _ _ ih =>
    rcases List.mem_cons.1 mem with rfl | mem
    · exact ⟨isSpelled, gap, rest, rfl⟩
    · obtain ⟨isSpelled', part⟩ := ih mem
      exact ⟨isSpelled', part.trans (List.suffix_append _ rest).isInfix⟩

/-- The text is how the lexemes are written, wherever a space or nothing follows. -/
structure Written (lexemes : List Lexeme) (text : List Char) : Prop where
  nonempty : text ≠ []
  quiet : Quiet text
  trimmed : isTrimmed text
  spelled {gap rest : List Char} {more : List Lexeme} : (∀ c ∈ gap, isBlank c) → Detached rest →
    Spelled rest more → Spelled (gap ++ text ++ rest) (lexemes ++ more)

theorem written_of_single (l : Lexeme) (isSpelled : l.IsSpelled) (quiet : Quiet l.chars)
    (trimmed : isTrimmed l.chars) (ends : ∀ rest, Detached rest → l.EndsBefore rest) : Written [l] l.chars := by
  refine ⟨isSpelled.ne_nil, quiet, trimmed, ?_⟩
  intro gap rest more blank detached spelled
  exact .cons blank isSpelled (ends rest detached) spelled

/-- A lexeme without blanks and delimiters is written as its characters. -/
theorem written_of_solid (l : Lexeme) (isSpelled : l.IsSpelled) (solid : ∀ c ∈ l.chars, isSolid c)
    (ends : ∀ rest, Detached rest → l.EndsBefore rest) : Written [l] l.chars :=
  written_of_single l isSpelled (quiet_of_solid solid) (isTrimmed_of_solid solid) ends

/-- Lexemes may be written with a space between them. -/
theorem Written.spaced {lexemes others : List Lexeme} {xs ys : List Char} (hx : Written lexemes xs)
    (hy : Written others ys) : Written (lexemes ++ others) (xs ++ ' ' :: ys) := by
  have split : xs ++ ' ' :: ys = xs ++ [' '] ++ ys := by simp
  have space : Quiet [' '] := quiet_of_all (by decide)
  have blankSpace : ∀ c ∈ [' '], isBlank c := List.all_eq_true.1 (by decide)
  refine ⟨List.append_ne_nil_of_left_ne_nil hx.nonempty _, ?_, ?_, ?_⟩
  · rw [split]
    exact (hx.quiet.append space).append hy.quiet
  · rw [split]
    exact isTrimmed_append hx.trimmed hy.trimmed hx.nonempty hy.nonempty [' ']
  · intro gap rest more blank detached spelled
    have later : Spelled ([' '] ++ ys ++ rest) (others ++ more) :=
      hy.spelled blankSpace detached spelled
    have detached' : Detached ([' '] ++ ys ++ rest) := by
      rintro c ⟨⟩
      rfl
    have whole := hx.spelled blank detached' later
    simpa using whole

theorem Written.spelled_all {lexemes : List Lexeme} {text : List Char} (h : Written lexemes text) :
    Spelled text lexemes := by
  have detached : Detached [] := by
    rintro c ⟨⟩
  have whole : Spelled ([] ++ text ++ []) (lexemes ++ []) := h.spelled (by simp) detached .nil
  simpa using whole

end Lexeme

namespace Condition

variable {quote : Char}

theorem isSolid_of_isPath {path : List Char} (h : IsPath path) : ∀ c ∈ path, isSolid c := by
  intro c mem
  rcases h.mem mem with inName | rfl
  · exact isSolid_of_isNameChar inName
  · decide

theorem isSolid_of_filters {filters : List (List Char)} (named : ∀ name ∈ filters, IsName name) :
    ∀ c ∈ filters.flatMap ('|' :: ·), isSolid c := by
  intro c mem
  obtain ⟨name, inside, mem⟩ := List.mem_flatMap.1 mem
  rcases List.mem_cons.1 mem with rfl | mem
  · decide
  · exact isSolid_of_isNameChar ((named name inside).2 c mem)

theorem spelled_filters {filters : List (List Char)} (named : ∀ name ∈ filters, IsName name) {rest : List Char}
    {more : List Lexeme} (detached : Detached rest) (spelled : Lexeme.Spelled rest more) :
    extendsPath (filters.flatMap ('|' :: ·) ++ rest) = false
      ∧ Lexeme.Spelled (filters.flatMap ('|' :: ·) ++ rest) (Operand.filterLexemes filters ++ more) := by
  induction filters with
  | nil => exact ⟨detached.not_extendsPath, spelled⟩
  | cons name filters ih =>
    obtain ⟨ends, later⟩ := ih fun other mem => named other (List.mem_cons_of_mem _ mem)
    refine ⟨rfl, ?_⟩
    have isPath := (named name List.mem_cons_self).isPath
    have word := @Lexeme.Spelled.cons [] _ (.name name) _ (by simp) isPath ends later
    have barred := @Lexeme.Spelled.cons [] _ (.operator .bar) _ (by simp) trivial trivial word
    simpa [Operand.filterLexemes, Lexeme.chars] using barred

theorem constant?_cases {word : List Char} {value : Value} (h : constant? word = some value) :
    (value = .bool true ∨ value = .bool false) ∨ value = .null := by
  unfold constant? at h
  split at h
  · exact .inl (.inl (Option.some.inj h).symm)
  · exact .inl (.inr (Option.some.inj h).symm)
  · exact .inr (Option.some.inj h).symm
  · exact .inr (Option.some.inj h).symm
  · cases h

/-- The operand means the same as another one, and the canonical text of that is how it is written. -/
structure Operand.Renews (quote : Char) (o' o : Operand) : Prop where
  valid : o'.Valid
  filters : o'.filters = o.filters
  convertible : ∀ l ∈ o'.lexemes, l.IsConvertible
  means : ∀ position, o'.expr position = o.expr position
  begins : o'.lexemes.head? = some (.name notWord) → o.lexemes.head? = some (.name notWord)
  written : ∀ position, Lexeme.Written o'.lexemes ((o.expr position).written quote).toList

theorem Operand.renews_quoted (isQuote : quote = '\'' ∨ quote = '"') {literal : List Char}
    (fit : (Lexeme.quoted literal).Fits) :
    Operand.Renews quote (.quoted (Lexeme.quoteText quote (Lexeme.unquote literal))) (.quoted literal) := by
  obtain ⟨first, body, rfl, isFirst, -⟩ := fit.spelled
  have notBackslash : quote ≠ '\\' := by
    rcases isQuote with rfl | rfl <;> decide
  have other : ∀ c, isDelimiter c → (first :: body).head? ≠ some c := by
    rintro c delimits ⟨⟩
    rcases isFirst with rfl | rfl <;> exact absurd delimits (by decide)
  have closes := Lexeme.avoids_unquote (by decide) (other '}' (by decide)) fit.closes
  have opens := Lexeme.avoids_unquote (by decide) (other '%' (by decide)) fit.opens
  refine ⟨trivial, rfl, List.forall_mem_singleton.2 trivial, ?_, ?_, ?_⟩
  · intro position
    rw [Operand.expr, Operand.expr, Lexeme.unquote_quoteText notBackslash]
  · intro begins
    cases begins
  · intro position
    rw [Operand.expr, Expr.written, Value.literal, String.toList_ofList, String.toList_ofList]
    apply Lexeme.written_of_single (.quoted _)
    · exact ⟨quote, _, rfl, isQuote, (Lexeme.unquotes_escaped _).isQuotedBody⟩
    · exact Lexeme.quiet_quoteText isQuote closes opens
    · exact Lexeme.isTrimmed_quoteText isQuote _
    · exact fun _ _ => trivial

theorem Operand.exists_renews_number {literal : List Char} (fit : (Lexeme.number literal).Fits) :
    ∃ n : Int, Operand.Renews quote (.number (toString n).toList) (.number literal) := by
  have isBound := Lexeme.isBound_of_whole fit.spelled (fit.whole literal rfl)
  obtain ⟨n, read, value⟩ := Lexeme.exists_value_of_isBound isBound (fit.convertible (fit.whole literal rfl))
  have isBound' := Integer.isBound_toString n
  obtain ⟨convertible, value'⟩ := Lexeme.numberValue_toString (Integer.isWritable_of_read isBound read)
  refine ⟨n, trivial, rfl, List.forall_mem_singleton.2 convertible, ?_, ?_, ?_⟩
  · intro position
    rw [Operand.expr, Operand.expr, value', value]
  · intro begins
    cases begins
  · intro position
    rw [Operand.expr, value]
    apply Lexeme.written_of_solid (.number _)
    · exact Lexeme.isNumber_of_isBound isBound'
    · exact Lexeme.isSolid_of_isBound isBound'
    · exact fun _ detached => detached.stopsNumber

theorem Operand.renews_constant (chars : List Char) {word : List Char} {value : Value}
    (means : constant? chars = some value) (isName : IsName chars) (other : chars ≠ notWord)
    (same : (value.literal quote).toList = chars) :
    Operand.Renews quote (.constant chars value) (.constant word value) := by
  refine ⟨means, rfl, List.forall_mem_singleton.2 trivial, fun _ => rfl, ?_, ?_⟩
  · intro begins
    exact absurd (Lexeme.name.inj (Option.some.inj begins)) other
  · intro position
    rw [Operand.expr, Expr.written, same]
    apply Lexeme.written_of_solid (.name chars)
    · exact isName.isPath
    · exact isSolid_of_isPath isName.isPath
    · exact fun _ detached => detached.not_extendsPath

theorem Operand.renews_path {chars : List Char} {filters : List (List Char)} (valid : (path chars filters).Valid)
    (isPath : IsPath chars) : Operand.Renews quote (.path chars filters) (.path chars filters) := by
  obtain ⟨word, named⟩ := valid
  have solid : ∀ c ∈ chars ++ filters.flatMap ('|' :: ·), isSolid c := by
    intro c mem
    exact (List.mem_append.1 mem).elim (isSolid_of_isPath isPath c) (isSolid_of_filters named c)
  refine ⟨⟨word, named⟩, rfl, Operand.isConvertible_of_path, fun _ => rfl, id, ?_⟩
  intro position
  rw [Operand.expr, written_path]
  refine ⟨?_, quiet_of_solid solid, isTrimmed_of_solid solid, ?_⟩
  · exact List.append_ne_nil_of_left_ne_nil isPath.ne_nil _
  · intro gap rest more blank detached spelled
    obtain ⟨ends, later⟩ := spelled_filters named detached spelled
    have whole := @Lexeme.Spelled.cons gap _ (.name chars) _ blank isPath ends later
    simpa [Operand.lexemes, Lexeme.chars] using whole

/-- The canonical text of what an operand means is an operand that means the same. -/
theorem Operand.exists_renews (isQuote : quote = '\'' ∨ quote = '"') {o : Operand} (valid : o.Valid)
    (fits : ∀ l ∈ o.lexemes, l.Fits) : ∃ o' : Operand, o'.Renews quote o := by
  cases o with
  | quoted literal => exact ⟨_, Operand.renews_quoted isQuote (fits _ List.mem_cons_self)⟩
  | number literal =>
    obtain ⟨n, renews⟩ := Operand.exists_renews_number (fits _ List.mem_cons_self)
    exact ⟨_, renews⟩
  | constant word value =>
    rcases constant?_cases valid with (rfl | rfl) | rfl
    · exact ⟨_, Operand.renews_constant "true".toList rfl (isName_of_all (by decide)) (by decide) rfl⟩
    · exact ⟨_, Operand.renews_constant "false".toList rfl (isName_of_all (by decide)) (by decide) rfl⟩
    · exact ⟨_, Operand.renews_constant "none".toList rfl (isName_of_all (by decide)) (by decide) rfl⟩
  | path chars filters => exact ⟨_, Operand.renews_path valid (fits _ List.mem_cons_self).spelled⟩

/-! ## Comparisons and phrases -/

theorem Comparison.head?_lexemes (c : Comparison) : c.lexemes.head? = c.left.lexemes.head? := by
  obtain ⟨left, right⟩ := c
  cases left <;> cases right <;> rfl

theorem written_operator (equal : Bool) :
    Lexeme.Written [.operator (Comparison.operator equal)] (Expr.operator equal).toList := by
  cases equal
  · exact Lexeme.written_of_solid (.operator .differs) trivial (List.all_eq_true.1 (by decide)) fun _ _ => trivial
  · exact Lexeme.written_of_solid (.operator .equals) trivial (List.all_eq_true.1 (by decide)) fun _ _ => trivial

theorem written_not : Lexeme.Written [.name notWord] notWord := by
  apply Lexeme.written_of_solid (.name notWord)
  · exact (isName_of_all (by decide)).isPath
  · exact List.all_eq_true.1 (by decide)
  · exact fun _ detached => detached.not_extendsPath

theorem Comparison.exists_written (isQuote : quote = '\'' ∨ quote = '"') {c : Comparison} (valid : c.Valid)
    (fits : ∀ l ∈ c.lexemes, l.Fits) :
    ∃ c' : Comparison, c'.Valid ∧ c'.filters = c.filters ∧ (∀ l ∈ c'.lexemes, l.IsConvertible)
      ∧ (∀ position, c'.expr position = c.expr position)
      ∧ (c'.lexemes.head? = some (.name notWord) → c.lexemes.head? = some (.name notWord))
      ∧ ∀ position, Lexeme.Written c'.lexemes ((c.expr position).written quote).toList := by
  obtain ⟨left, right⟩ := c
  obtain ⟨validLeft, validRight⟩ := valid
  cases right with
  | none =>
    obtain ⟨left', renews⟩ := Operand.exists_renews isQuote validLeft fits
    refine ⟨⟨left', none⟩, ⟨renews.valid, by simp⟩, ?_, renews.convertible, renews.means, renews.begins, renews.written⟩
    rw [Comparison.filters, Comparison.filters, renews.filters]
  | some pair =>
    obtain ⟨equal, right⟩ := pair
    have fitsLeft : ∀ l ∈ left.lexemes, l.Fits := fun l mem => fits l (List.mem_append_left _ mem)
    have fitsRight : ∀ l ∈ right.lexemes, l.Fits := fun l mem =>
      fits l (List.mem_append_right _ (List.mem_cons_of_mem _ mem))
    obtain ⟨left', renews⟩ := Operand.exists_renews isQuote validLeft fitsLeft
    obtain ⟨right', renews'⟩ := Operand.exists_renews isQuote (validRight _ rfl) fitsRight
    refine ⟨⟨left', some (equal, right')⟩, ⟨renews.valid, ?_⟩, ?_, ?_, ?_, ?_, ?_⟩
    · rintro _ ⟨⟩
      exact renews'.valid
    · simp [Comparison.filters, renews.filters, renews'.filters]
    · exact List.forall_mem_append.2 ⟨renews.convertible, List.forall_mem_cons.2 ⟨trivial, renews'.convertible⟩⟩
    · intro position
      simp [Comparison.expr, renews.means, renews'.means]
    · rw [Comparison.head?_lexemes, Comparison.head?_lexemes]
      exact renews.begins
    · intro position
      have compared := (renews.written position).spaced (written_operator equal)
      have whole := compared.spaced (renews'.written position)
      simpa [Comparison.expr, Expr.written, Comparison.lexemes] using whole

/-- What a condition means has a canonical text, which writes a condition that means the same. -/
theorem Phrase.exists_written (isQuote : quote = '\'' ∨ quote = '"') {phrase : Phrase} (valid : phrase.Valid)
    (fits : ∀ l ∈ phrase.lexemes, l.Fits) :
    ∃ phrase' : Phrase, phrase'.Valid ∧ phrase'.filters = phrase.filters ∧ (∀ l ∈ phrase'.lexemes, l.IsConvertible)
      ∧ (∀ position, phrase'.expr position = phrase.expr position)
      ∧ ∀ position, Lexeme.Written phrase'.lexemes ((phrase.expr position).written quote).toList := by
  obtain ⟨c, negated⟩ := phrase
  cases negated with
  | false =>
    obtain ⟨c', valid', filters, convertible, means, begins, written⟩ :=
      Comparison.exists_written isQuote valid.comparison fits
    exact ⟨⟨c', false⟩, ⟨valid', fun _ same => valid.begins rfl (begins same)⟩, filters, convertible, means, written⟩
  | true =>
    have fits' : ∀ l ∈ c.lexemes, l.Fits := fun l mem => fits l (List.mem_cons_of_mem _ mem)
    obtain ⟨c', valid', filters, convertible, means, -, written⟩ :=
      Comparison.exists_written isQuote valid.comparison fits'
    refine ⟨⟨c', true⟩, ⟨valid', by simp⟩, filters, List.forall_mem_cons.2 ⟨trivial, convertible⟩, ?_, ?_⟩
    · intro position
      exact congrArg (Expr.not position) (means position)
    · intro position
      have whole := written_not.spaced (written position)
      simpa [Phrase.expr, Expr.written, Phrase.lexemes, notWord] using whole

/-- A condition that stands in a block tag and is converted, without fractions, means the same as its canonical
text. -/
theorem Phrase.Writes.exists_again (isQuote : quote = '\'' ∨ quote = '"') {phrase : Phrase} {condition : String}
    (writes : phrase.Writes condition) (closes : Avoids '%' '}' condition.toList)
    (opens : Avoids '{' '%' condition.toList) (convertible : ∀ l ∈ phrase.lexemes, l.IsConvertible)
    (whole : ∀ literal, .number literal ∈ phrase.lexemes → '.' ∉ literal) :
    ∃ phrase' : Phrase, phrase'.filters = phrase.filters ∧ (∀ l ∈ phrase'.lexemes, l.IsConvertible)
      ∧ (∀ position, phrase'.expr position = phrase.expr position)
      ∧ ∀ position, phrase'.Writes ((phrase.expr position).written quote)
        ∧ Lexeme.Written phrase'.lexemes ((phrase.expr position).written quote).toList := by
  obtain ⟨valid, spelled⟩ := writes
  have fits : ∀ l ∈ phrase.lexemes, l.Fits := by
    intro l mem
    obtain ⟨isSpelled, part⟩ := spelled.of_mem mem
    have inside : l.chars <:+: condition.toList := part.trans (isPrefix_stripEnd condition.toList).isInfix
    refine ⟨isSpelled, closes.within inside, opens.within inside, convertible l mem, ?_⟩
    rintro literal rfl
    exact whole literal mem
  obtain ⟨phrase', valid', filters, convertible', means, written⟩ := Phrase.exists_written isQuote valid fits
  refine ⟨phrase', filters, convertible', means, fun position => ⟨⟨valid', ?_⟩, written position⟩⟩
  rw [stripEnd_eq_self (written position).trimmed]
  exact (written position).spelled_all

end Condition

end Stencil
