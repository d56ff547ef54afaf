import Stencil.Proofs.Condition.Reading

/-!
# Texts as literals

What the scanner of conditions takes for a quoted text stands for what one pass over it from left to right gives,
although the reader makes two passes. And every text can be written as a literal with either quote: whatever follows
it, it is scanned as this one lexeme, and it is read as the constant that the text is
(`Condition.literal_is_read_back`).
-/

namespace Stencil

namespace Lexeme

/-- One pass from left to right: a backslash is taken off a quote of the kind and off a backslash, and any other
backslash is kept. -/
def unescaped (quote : Char) : List Char → List Char
  | '\\' :: c :: rest =>
    if c = '\\' ∨ c = quote then c :: unescaped quote rest else '\\' :: unescaped quote (c :: rest)
  | c :: rest => c :: unescaped quote rest
  | [] => []

variable {quote : Char} {body text cs literal rest : List Char}

theorem unescaped_cons {c : Char} (other : c ≠ '\\') (cs : List Char) :
    unescaped quote (c :: cs) = c :: unescaped quote cs := by
  rw [unescaped]
  rintro d tail rfl
  exact absurd rfl other

/-- In front of the quote that closes, the one pass gives what the text stands for. -/
theorem Unquotes.unescaped_eq (h : Unquotes quote body text) : unescaped quote body.dropLast = text := by
  induction h with
  | close => rfl
  | @escaped c body text special h ih =>
    rw [List.dropLast_cons_of_ne_nil (List.cons_ne_nil _ _), List.dropLast_cons_of_ne_nil h.ne_nil, unescaped,
      if_pos special, ih]
  | @kept c body text plain h ih =>
    rw [List.dropLast_cons_of_ne_nil (List.cons_ne_nil _ _), List.dropLast_cons_of_ne_nil h.ne_nil, unescaped,
      if_neg plain, unescaped_cons (not_or.1 plain).1, ih]
  | @plain c body text plain h ih =>
    rw [List.dropLast_cons_of_ne_nil h.ne_nil, unescaped_cons (not_or.1 plain).1, ih]

theorem ne_backslash_of_isQuote (isQuote : quote = '\'' ∨ quote = '"') : quote ≠ '\\' := by
  rcases isQuote with rfl | rfl <;> decide

/-- The two passes over a literal give what the one pass gives. -/
theorem unquote_eq_unescaped (scanned : read? cs = some (.quoted literal, rest)) :
    ∃ quote inside, (quote = '\'' ∨ quote = '"') ∧ literal = quote :: inside ++ [quote]
      ∧ unquote literal = unescaped quote inside := by
  obtain ⟨-, ⟨quote, body, rfl, isQuote, isBody⟩, -⟩ := read?_eq_some_iff.1 scanned
  obtain ⟨text, unquotes⟩ := exists_unquotes isBody
  obtain ⟨inside, rfl⟩ := isBody.exists_eq
  have onePass := unquotes.unescaped_eq
  rw [List.dropLast_concat] at onePass
  refine ⟨quote, inside, isQuote, rfl, ?_⟩
  rw [unquotes.unquote_eq (ne_backslash_of_isQuote isQuote), onePass]

/-! ## Writing a literal -/

theorem isSpelled_quoteText (isQuote : quote = '\'' ∨ quote = '"') (text : List Char) :
    IsSpelled (.quoted (quoteText quote text)) :=
  ⟨quote, _, List.cons_append, isQuote, (unquotes_escaped text).isQuotedBody⟩

theorem read?_quoteText (isQuote : quote = '\'' ∨ quote = '"') (text rest : List Char) :
    read? (quoteText quote text ++ rest) = some (.quoted (quoteText quote text), rest) :=
  read?_eq_some_iff.2 ⟨rfl, isSpelled_quoteText isQuote text, trivial⟩

theorem stripEnd_quoteText (isQuote : quote = '\'' ∨ quote = '"') (front text rest : List Char) :
    stripEnd (front ++ quoteText quote text ++ rest) = front ++ quoteText quote text ++ stripEnd rest := by
  have solid : isBlank quote = false := by rcases isQuote with rfl | rfl <;> decide
  have apart (rest : List Char) :
      front ++ quoteText quote text ++ rest = front ++ quote :: escaped quote text ++ quote :: rest := by
    simp [quoteText]
  rw [apart, stripEnd_append_cons solid, apart]

end Lexeme

namespace Condition

open Lexeme

/-- **A literal stands for what one pass over it gives, and every text has a literal, which is read as the text.** -/
theorem literal_is_read_back :
    (∀ cs literal rest, read? cs = some (.quoted literal, rest) →
      ∃ quote inside, (quote = '\'' ∨ quote = '"') ∧ literal = quote :: inside ++ [quote]
        ∧ unquote literal = unescaped quote inside)
    ∧ ∀ quote text, quote = '\'' ∨ quote = '"' →
      (∀ rest, read? (quoteText quote text ++ rest) = some (.quoted (quoteText quote text), rest))
      ∧ (∀ front rest, (∀ c ∈ front, isBlank c) →
        readAll (stripEnd (front ++ quoteText quote text ++ rest))
          = (readAll (stripEnd rest)).map (.quoted (quoteText quote text) :: ·))
      ∧ ∀ position known,
        (∀ lexemes, readOperand position known (.quoted (quoteText quote text) :: lexemes)
          = .ok (.const position (.text (String.ofList text)), lexemes))
        ∧ read position known (String.ofList (quoteText quote text))
          = .ok (.const position (.text (String.ofList text))) := by
  refine ⟨fun cs literal rest => unquote_eq_unescaped, fun quote text isQuote => ?_⟩
  have isSpelled := isSpelled_quoteText isQuote text
  have scanned (front rest : List Char) (blank : ∀ c ∈ front, isBlank c) :
      readAll (stripEnd (front ++ quoteText quote text ++ rest))
        = (readAll (stripEnd rest)).map (.quoted (quoteText quote text) :: ·) := by
    rw [stripEnd_quoteText isQuote]
    exact readAll_lexeme blank isSpelled trivial
  have operand (position : Position) (known : List String) (lexemes : List Lexeme) :
      readOperand position known (.quoted (quoteText quote text) :: lexemes)
        = .ok (.const position (.text (String.ofList text)), lexemes) := by
    rw [readOperand, unquote_quoteText (ne_backslash_of_isQuote isQuote)]
  refine ⟨read?_quoteText isQuote text, scanned, fun position known => ⟨operand position known, ?_⟩⟩
  have alone : readAll (stripEnd (quoteText quote text)) = .ok [.quoted (quoteText quote text)] := by
    have := scanned [] [] (by simp)
    rwa [List.nil_append, List.append_nil, show stripEnd [] = [] from rfl, readAll_nil] at this
  rw [read, String.toList_ofList, alone]
  dsimp only
  rw [readComparison, operand]
  rfl

/-- A text that holds the quote and ends in a backslash, as one side of a comparison and by itself. -/
theorem literal_is_read_back_beside_comparison :
    readAll (stripEnd " 'it\\'s \\\\' == a ".toList)
        = (readAll (stripEnd " == a ".toList)).map (.quoted "'it\\'s \\\\'".toList :: ·)
      ∧ read ⟨1, 0⟩ [] "'it\\'s \\\\'" = .ok (.const ⟨1, 0⟩ (.text "it's \\")) := by
  have written := literal_is_read_back.2 '\'' "it's \\".toList (.inl rfl)
  exact ⟨written.2.1 [' '] " == a ".toList (List.forall_mem_singleton.2 rfl), (written.2.2 ⟨1, 0⟩ []).2⟩

end Condition

end Stencil
