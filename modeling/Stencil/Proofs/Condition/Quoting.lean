import Stencil.Proofs.Condition.Spelling
import Stencil.Proofs.Text.Pairs

/-!
# Texts between quotes

A text is written between quotes with a backslash in front of every backslash and every quote of the kind. It
is read back as the text. The reader takes the backslashes off in two passes, first those in front of quotes, but
what it reads is what one pass from left to right would read (`Lexeme.Unquotes.unquote_eq`). Neither writing nor
reading makes a delimiter of a block tag, because a backslash only ever stands, or stood, in front of a character
that is no part of one.
-/

namespace Stencil.Lexeme

/-- A text with a backslash in front of every backslash and every quote. -/
def escaped (quote : Char) (cs : List Char) : List Char :=
  cs.flatMap fun c => if c = '\\' ∨ c = quote then ['\\', c] else [c]

/-- A text between quotes. -/
def quoteText (quote : Char) (cs : List Char) : List Char :=
  quote :: escaped quote cs ++ [quote]

variable {quote : Char}

theorem escaped_cons_special {c : Char} (special : c = '\\' ∨ c = quote) (cs : List Char) :
    escaped quote (c :: cs) = '\\' :: c :: escaped quote cs := by
  simp [escaped, special]

theorem escaped_cons_plain {c : Char} (plain : ¬ (c = '\\' ∨ c = quote)) (cs : List Char) :
    escaped quote (c :: cs) = c :: escaped quote cs := by
  simp [escaped, plain]

/-- An escaped text begins like the text, or with a backslash. -/
theorem head?_escaped (cs : List Char) :
    (escaped quote cs).head? = some '\\' ∨ (escaped quote cs).head? = cs.head? ∧ cs.head? ≠ some quote := by
  cases cs with
  | nil => exact .inr ⟨rfl, by simp⟩
  | cons c rest =>
    by_cases special : c = '\\' ∨ c = quote
    · rw [escaped_cons_special special]
      exact .inl rfl
    · rw [escaped_cons_plain special]
      refine .inr ⟨rfl, ?_⟩
      rintro ⟨⟩
      exact special (.inr rfl)

/-- Where no pair begins, its replacement changes nothing. -/
theorem replaceAll_cons {old : Char × Char} {new c : Char} {cs : List Char}
    (other : ¬ (c = old.1 ∧ cs.head? = some old.2)) :
    replaceAll old new (c :: cs) = c :: replaceAll old new cs := by
  cases cs with
  | nil => rfl
  | cons d rest =>
    rw [replaceAll, if_neg]
    rintro rfl
    exact other ⟨rfl, rfl⟩

theorem replaceAll_cons_cons {a b new c d : Char} {cs : List Char} (other : d ≠ b) :
    replaceAll (a, b) new (c :: d :: cs) = c :: replaceAll (a, b) new (d :: cs) :=
  replaceAll_cons fun pair => other (Option.some.inj pair.2)

theorem replaceAll_pair {a b new : Char} (cs : List Char) :
    replaceAll (a, b) new (a :: b :: cs) = new :: replaceAll (a, b) new cs := by
  rw [replaceAll, if_pos rfl]

/-! ## Reading in one pass -/

/-- What the characters behind an opening quote stand for, up to the quote that closes: a backslash is taken off a
quote of the kind and off a backslash, and stays in front of any other character. -/
inductive Unquotes (quote : Char) : List Char → List Char → Prop where
  | close : Unquotes quote [quote] []
  | escaped {c : Char} {body text : List Char} : c = '\\' ∨ c = quote → Unquotes quote body text →
      Unquotes quote ('\\' :: c :: body) (c :: text)
  | kept {c : Char} {body text : List Char} : ¬ (c = '\\' ∨ c = quote) → Unquotes quote body text →
      Unquotes quote ('\\' :: c :: body) ('\\' :: c :: text)
  | plain {c : Char} {body text : List Char} : ¬ (c = '\\' ∨ c = quote) → Unquotes quote body text →
      Unquotes quote (c :: body) (c :: text)

variable {body text : List Char}

theorem Unquotes.isQuotedBody (h : Unquotes quote body text) : IsQuotedBody quote body := by
  induction h with
  | close => exact .close
  | escaped _ _ ih | kept _ _ ih => exact .escaped ih
  | plain special _ ih =>
    rw [not_or] at special
    exact .plain special.2 special.1 ih

theorem exists_unquotes (h : IsQuotedBody quote body) : ∃ text, Unquotes quote body text := by
  induction h with
  | close => exact ⟨[], .close⟩
  | @escaped c _ _ ih =>
    obtain ⟨text, unquotes⟩ := ih
    by_cases special : c = '\\' ∨ c = quote
    · exact ⟨_, .escaped special unquotes⟩
    · exact ⟨_, .kept special unquotes⟩
  | plain notQuote notBackslash _ ih =>
    obtain ⟨text, unquotes⟩ := ih
    exact ⟨_, .plain (not_or.2 ⟨notBackslash, notQuote⟩) unquotes⟩

theorem Unquotes.ne_nil (h : Unquotes quote body text) : body ≠ [] := by
  cases h <;> exact List.cons_ne_nil _ _

/-- In front of the closing quote no quote stands, unless a backslash stands in front of it. -/
theorem Unquotes.head?_ne (notBackslash : quote ≠ '\\') (h : Unquotes quote body text) :
    body.dropLast.head? ≠ some quote := by
  cases h with
  | close => simp
  | escaped _ h | kept _ h =>
    rw [List.dropLast_cons_of_ne_nil (List.cons_ne_nil _ _)]
    exact fun same => notBackslash (Option.some.inj same).symm
  | plain special h =>
    rw [List.dropLast_cons_of_ne_nil h.ne_nil]
    exact fun same => special (.inr (Option.some.inj same))

/-- The two passes of the reader are one. -/
theorem Unquotes.unquote_eq (notBackslash : quote ≠ '\\') (h : Unquotes quote body text) :
    unquote (quote :: body) = text := by
  rw [unquote]
  induction h with
  | close => rfl
  | @escaped c body text special h ih =>
    rw [List.dropLast_cons_of_ne_nil (List.cons_ne_nil _ _), List.dropLast_cons_of_ne_nil h.ne_nil]
    by_cases isQuote : c = quote
    · subst isQuote
      rw [replaceAll_pair, replaceAll_cons fun pair => notBackslash pair.1, ih]
    · obtain rfl : c = '\\' := special.resolve_right isQuote
      have first : replaceAll ('\\', quote) quote ('\\' :: body.dropLast)
          = '\\' :: replaceAll ('\\', quote) quote body.dropLast :=
        replaceAll_cons fun pair => h.head?_ne notBackslash pair.2
      rw [replaceAll_cons_cons isQuote, first, replaceAll_pair, ih]
  | @kept c body text special h ih =>
    rw [not_or] at special
    have kept {d : Char} (other : c ≠ d) (cs : List Char) :
        replaceAll ('\\', d) d ('\\' :: c :: cs) = '\\' :: c :: replaceAll ('\\', d) d cs := by
      rw [replaceAll_cons_cons other, replaceAll_cons fun pair => special.1 pair.1]
    rw [List.dropLast_cons_of_ne_nil (List.cons_ne_nil _ _), List.dropLast_cons_of_ne_nil h.ne_nil,
      kept special.2, kept special.1, ih]
  | plain special h ih =>
    rw [not_or] at special
    rw [List.dropLast_cons_of_ne_nil h.ne_nil, replaceAll_cons fun pair => special.1 pair.1,
      replaceAll_cons fun pair => special.1 pair.1, ih]

theorem unquotes_iff (notBackslash : quote ≠ '\\') :
    Unquotes quote body text ↔ IsQuotedBody quote body ∧ text = unquote (quote :: body) := by
  constructor
  · exact fun h => ⟨h.isQuotedBody, (h.unquote_eq notBackslash).symm⟩
  · rintro ⟨isBody, rfl⟩
    obtain ⟨text, unquotes⟩ := exists_unquotes isBody
    rwa [unquotes.unquote_eq notBackslash]

/-- A text between quotes stands for the text. -/
theorem unquotes_escaped (cs : List Char) : Unquotes quote (escaped quote cs ++ [quote]) cs := by
  induction cs with
  | nil => exact .close
  | cons c rest ih =>
    by_cases special : c = '\\' ∨ c = quote
    · rw [escaped_cons_special special]
      exact .escaped special ih
    · rw [escaped_cons_plain special]
      exact .plain special ih

/-- A text between quotes is read as the text. -/
theorem unquote_quoteText (notBackslash : quote ≠ '\\') (cs : List Char) : unquote (quoteText quote cs) = cs :=
  (unquotes_escaped cs).unquote_eq notBackslash

/-- No pair arises where backslashes are taken off characters that do not belong to it. -/
theorem avoids_replaceAll {a b x y : Char} (hb : y ≠ b) {cs : List Char} (h : Avoids a b cs) :
    Avoids a b (replaceAll (x, y) y cs) := by
  have head : ∀ cs : List Char, (replaceAll (x, y) y cs).head? = some b → cs.head? = some b ∨
      ∃ rest, cs = x :: y :: rest ∧ y = b := by
    intro cs same
    unfold replaceAll at same
    split at same
    · next c d rest =>
      split at same
      · next pair =>
        obtain ⟨rfl, rfl⟩ := Prod.mk.inj pair
        exact .inr ⟨rest, rfl, Option.some.inj same⟩
      · exact .inl same
    · exact .inl same
  fun_induction replaceAll (x, y) y cs with
  | case1 c d rest pair ih =>
    obtain ⟨rfl, rfl⟩ := Prod.mk.inj pair
    have later := (avoids_cons.1 (avoids_cons.1 h).2)
    refine avoids_cons.2 ⟨?_, ih later.2⟩
    rintro ⟨same, next⟩
    rcases head _ next with first | ⟨_, _, same'⟩
    · exact later.1 ⟨same, first⟩
    · exact hb same'
  | case2 c d rest other ih =>
    obtain ⟨border, later⟩ := avoids_cons.1 h
    refine avoids_cons.2 ⟨?_, ih later⟩
    rintro ⟨same, next⟩
    rcases head _ next with first | ⟨_, _, same'⟩
    · exact border ⟨same, first⟩
    · exact hb same'
  | case3 => exact h

theorem avoids_unquote {a b : Char} {literal : List Char} (notBackslash : '\\' ≠ b)
    (notQuote : literal.head? ≠ some b) (h : Avoids a b literal) : Avoids a b (unquote literal) := by
  cases literal with
  | nil => exact avoids_nil
  | cons first rest =>
    have other : first ≠ b := fun same => notQuote (congrArg some same)
    have front := List.dropLast_prefix rest
    have inside : Avoids a b rest.dropLast := (avoids_cons.1 h).2.within front.isInfix
    exact avoids_replaceAll notBackslash (avoids_replaceAll other inside)

theorem avoids_escaped {a b : Char} (ha : a ≠ '\\') (hb : b ≠ '\\') {cs : List Char} (h : Avoids a b cs) :
    Avoids a b (escaped quote cs) := by
  induction cs with
  | nil => exact avoids_nil
  | cons c rest ih =>
    obtain ⟨border, later⟩ := avoids_cons.1 h
    have border' : ¬ (c = a ∧ (escaped quote rest).head? = some b) := by
      rintro ⟨same, next⟩
      rcases @head?_escaped quote rest with backslash | ⟨same', -⟩
      · rw [backslash] at next
        exact hb (Option.some.inj next).symm
      · exact border ⟨same, same'.symm.trans next⟩
    by_cases special : c = '\\' ∨ c = quote
    · rw [escaped_cons_special special]
      exact avoids_cons.2 ⟨fun h => ha h.1.symm, avoids_cons.2 ⟨border', ih later⟩⟩
    · rw [escaped_cons_plain special]
      exact avoids_cons.2 ⟨border', ih later⟩

theorem quiet_quoteText (isQuote : quote = '\'' ∨ quote = '"') {cs : List Char} (closes : Avoids '%' '}' cs)
    (opens : Avoids '{' '%' cs) : Quiet (quoteText quote cs) := by
  have delimits : isDelimiter quote = false := by
    rcases isQuote with rfl | rfl <;> decide
  have around : ∀ {a b : Char}, isDelimiter a → isDelimiter b → Avoids a b (escaped quote cs) →
      Avoids a b (quoteText quote cs) := by
    intro a b ha hb inside
    have other : ∀ {d : Char}, isDelimiter d → quote ≠ d := by
      rintro d delimits' rfl
      rw [delimits] at delimits'
      cases delimits'
    rw [quoteText, List.cons_append]
    refine avoids_cons.2 ⟨fun h => other ha h.1, avoids_append.2 ⟨inside, ?_, ?_⟩⟩
    · exact avoids_cons.2 ⟨by simp, avoids_nil⟩
    · rintro ⟨-, same⟩
      exact other hb (Option.some.inj same)
  refine ⟨?_, ?_, delimits, ?_⟩
  · exact around (by decide) (by decide) (avoids_escaped (by decide) (by decide) closes)
  · exact around (by decide) (by decide) (avoids_escaped (by decide) (by decide) opens)
  · rw [quoteText, List.reverse_append]
    exact delimits

theorem isTrimmed_quoteText (isQuote : quote = '\'' ∨ quote = '"') (cs : List Char) :
    isTrimmed (quoteText quote cs) := by
  have solid : isBlank quote = false := by
    rcases isQuote with rfl | rfl <;> decide
  have first : beginsWith isBlank (quoteText quote cs) = false := solid
  have last : beginsWith isBlank (quoteText quote cs).reverse = false := by
    rw [quoteText, List.reverse_append]
    exact solid
  rw [isTrimmed, first, last]
  rfl

end Stencil.Lexeme
