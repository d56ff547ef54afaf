import Stencil.Proofs.Condition.Reading
import Stencil.Proofs.Node.Blocks
import Stencil.Proofs.Node.Marks
import Stencil.Proofs.Token.Failing

/-!
# Which tokens are accepted

The tokens of a source are read as nodes exactly if those in front of the last one are a body, every condition
among them is one of the language, all filters they use are known, and no number in them has too many digits.
Whatever else is wrong, it is a fault of the reader of nodes, an unknown filter, or the report of the digits.
-/

namespace Stencil

open NodeReader

/-- Does the token use the filter, in its output or in its condition? -/
def Token.Uses (t : Token) (name : String) : Prop :=
  (∃ path filters, t.tag = .output path filters ∧ name ∈ filters)
    ∨ ∃ condition, ∃ phrase : Condition.Phrase, t.HasCondition condition ∧ phrase.Writes condition
      ∧ name ∈ phrase.filters

/-- Are all conditions of the tokens in the language of conditions? -/
def Grammatical (tokens : List Token) : Prop :=
  ∀ t ∈ tokens, ∀ condition, t.HasCondition condition → ∃ phrase : Condition.Phrase, phrase.Writes condition

variable {ctx : ReadContext}

theorem readable_iff {t : Token} (proper : t.Proper) :
    t.Readable ctx ↔ (∀ condition, t.HasCondition condition → ∃ phrase : Condition.Phrase, phrase.Writes condition)
      ∧ (∀ name, t.Uses name → name ∈ ctx.filters) ∧ t.IsConvertible := by
  -- a condition that writes a phrase of known filters does so whichever phrase it is taken for
  have conditional : ∀ {text : String}, (∀ condition, t.HasCondition condition ↔ condition = text) →
      (∀ path filters, t.tag ≠ .output path filters) → t.HasShortBounds →
      ((∃ phrase : Condition.Phrase, phrase.Writes text ∧ (∀ name ∈ phrase.filters, name ∈ ctx.filters)
          ∧ ∀ l ∈ phrase.lexemes, l.IsConvertible)
        ↔ (∀ condition, t.HasCondition condition → ∃ phrase : Condition.Phrase, phrase.Writes condition)
          ∧ (∀ name, t.Uses name → name ∈ ctx.filters) ∧ t.IsConvertible) := by
    intro text only noOutput short
    constructor
    · rintro ⟨phrase, writes, known, convertible⟩
      refine ⟨?_, ?_, ?_, short⟩
      · intro condition has
        obtain rfl := (only condition).1 has
        exact ⟨phrase, writes⟩
      · rintro name (⟨path, filters, output, -⟩ | ⟨condition, other, has, writes', mem⟩)
        · exact absurd output (noOutput path filters)
        · obtain rfl := (only condition).1 has
          rw [← writes.filters_eq writes'] at mem
          exact known name mem
      · intro condition lexemes has lexed
        obtain rfl := (only condition).1 has
        obtain rfl := Except.ok.inj ((Lexeme.readAll_eq_ok_iff.2 writes.2).symm.trans lexed)
        exact convertible
    · rintro ⟨grammatical, known, convertible, -⟩
      have has := (only text).2 rfl
      obtain ⟨phrase, writes⟩ := grammatical text has
      refine ⟨phrase, writes, fun name mem => known name (.inr ⟨text, phrase, has, writes, mem⟩), ?_⟩
      exact convertible text phrase.lexemes has (Lexeme.readAll_eq_ok_iff.2 writes.2)
  obtain ⟨tag, text, position⟩ := t
  cases tag with
  | openIf text => exact conditional (by simp [Token.HasCondition, eq_comm]) (by simp) (by simp [Token.HasShortBounds])
  | elseIf text => exact conditional (by simp [Token.HasCondition, eq_comm]) (by simp) (by simp [Token.HasShortBounds])
  | output path filters =>
    have convertible : (Token.mk (.output path filters) text position).IsConvertible := by
      constructor <;> simp [Token.HasCondition, Token.HasShortBounds]
    simp [Token.Readable, Token.HasCondition, Token.Uses, convertible]
  | openFor name start stop =>
    obtain ⟨-, isStart, isStop⟩ := proper
    have readable : (Token.mk (.openFor name start stop) text position).Readable ctx
        ↔ (Token.mk (.openFor name start stop) text position).IsConvertible := by
      simp only [Token.Readable, (OpenBlock.bound_of_isBound isStart).1, (OpenBlock.bound_of_isBound isStop).1]
      constructor
      · rintro ⟨short, short'⟩
        refine ⟨by simp [Token.HasCondition], ?_⟩
        rintro _ _ _ ⟨⟩
        exact List.forall_mem_cons.2 ⟨short, List.forall_mem_singleton.2 short'⟩
      · rintro ⟨-, short⟩
        exact ⟨short name start stop rfl start (by simp), short name start stop rfl stop (by simp)⟩
    rw [readable]
    simp [Token.HasCondition, Token.Uses]
  | _ =>
    refine iff_of_true (by simp [Token.Readable]) ⟨by simp [Token.HasCondition], ?_, ?_⟩
    · simp [Token.Uses, Token.HasCondition]
    · constructor <;> simp [Token.HasCondition, Token.HasShortBounds]

/-! ## Faults -/

/-- A fault that the reader of nodes may report: one of its own, an unknown filter, or too many digits of a number in
one of the tokens. -/
def Malformed.IsParsing (tokens : List Token) (m : Malformed) : Prop :=
  m.kind = .parser ∨ (∃ name, m.kind = .unknownFilter name)
    ∨ (∃ digits, m.ReportsDigits digits) ∧ ∃ t ∈ tokens, ¬ t.IsConvertible

theorem isParsing_of_reading {body : List Token} {eof : Token} {m : Malformed} (ends : eof.tag = .finish)
    (proper : ∀ t ∈ body, t.Proper) (h : Node.ofTokens ctx (body ++ [eof]) = .error m) : m.IsParsing body := by
  rcases Node.ofTokens_eq_error h with ⟨before, t, after, r, split, ran, failed⟩ | ⟨_, _, _, -, -, rfl⟩
  · cases refusal_of_step failed with
    | unexpected | expression => exact .inl rfl
    | filter name => exact .inr (.inl ⟨name, rfl⟩)
    | number shown refusal =>
      obtain ⟨behind, rfl⟩ : ∃ behind, body = before ++ t :: behind := by
        rcases List.eq_nil_or_concat' after with rfl | ⟨behind, last, rfl⟩
        · obtain rfl : t = eof := by simpa using (congrArg List.getLast? split).symm
          rw [step, ends] at failed
          cases failed
        · refine ⟨behind, ?_⟩
          have initial := congrArg List.dropLast split
          rwa [List.dropLast_concat, ← List.cons_append, ← List.append_assoc, List.dropLast_concat] at initial
      obtain ⟨reports, ⟨condition, -, long⟩ | ⟨-, opening, outer, opened, long⟩⟩ :=
        reports_of_step rfl ran (fun u mem => proper u (List.mem_append_left _ mem)) failed
      · exact .inr (.inr ⟨reports, t, by simp, long⟩)
      · have mem := (mem_of_mem_leftOpen (opened ▸ List.mem_cons_self)).1
        exact .inr (.inr ⟨reports, opening, List.mem_append_left _ mem, fun convertible => long convertible.bounds⟩)
  · exact .inl rfl

/-- A source that is refused is reported as a fault, or a number in it has too many digits. -/
theorem isReported_or_reportsDigits_of_read {source : String} {m : Malformed} (h : Node.read ctx source = .error m) :
    m.isReported ∨ ∃ digits, m.ReportsDigits digits := by
  rcases bind_eq_error_iff.1 h with failed | ⟨tokens, tokenized, failed⟩
  · obtain ⟨_, _, _, -, -, failed⟩ := Token.ofPieces_eq_error failed
    obtain ⟨_, _, _, _, -, -, rfl⟩ := Token.exists_of_ofPiece failed
    exact .inl rfl
  · obtain ⟨body, eof, rfl, ends, proper, -⟩ := Token.exists_body_of_read tokenized
    rcases isParsing_of_reading ends proper failed with kind | ⟨name, kind⟩ | ⟨reports, -⟩
    · exact .inl (by simp [Malformed.isReported, kind])
    · exact .inl (by simp [Malformed.isReported, kind])
    · exact .inr reports

/-! ## Acceptance -/

/-- The tokens of a source are read as nodes exactly if they are blocks within blocks, with conditions of the
language, known filters and numbers that are converted; every fault is one of the reader of nodes, an unknown filter, or
the number of the digits of a number that has too many; and the nodes show, from left to right, what each of the tokens
says and where it stands. -/
theorem Node.ofTokens_iff_body (ctx : ReadContext) {origin : Origin} {source : String} {tokens : List Token}
    (tokenized : Token.read origin source = .ok tokens) :
    ∃ body eof, tokens = body ++ [eof] ∧ eof.tag = .finish
      ∧ ((∃ nodes, Node.ofTokens ctx tokens = .ok nodes)
        ↔ Body (body.map Token.tag) ∧ Grammatical body
          ∧ (∀ t ∈ body, ∀ name, t.Uses name → name ∈ ctx.filters) ∧ ∀ t ∈ body, t.IsConvertible)
      ∧ (∀ m, Node.ofTokens ctx tokens = .error m → m.kind = .parser ∨ (∃ name, m.kind = .unknownFilter name)
        ∨ (∃ digits, m.ReportsDigits digits) ∧ ∃ t ∈ body, ¬ t.IsConvertible)
      ∧ ∀ nodes, Node.ofTokens ctx tokens = .ok nodes →
        List.Forall₂ (Mark.Of ctx) (withoutEmptyElse body) (Node.marksOfAll nodes) := by
  obtain ⟨body, eof, rfl, ends, proper, -⟩ := Token.exists_body_of_read tokenized
  have unfinished := Token.unfinished_of_read tokenized
  have formed : ∀ {nodes}, Node.ofTokens ctx (body ++ [eof]) = .ok nodes ↔ Forms ctx body nodes :=
    Node.ofTokens_eq_ok_iff unfinished ends
  refine ⟨body, eof, rfl, ends, ⟨?_, ?_⟩, fun m => isParsing_of_reading ends proper, ?_⟩
  · rintro ⟨nodes, read⟩
    have forms := formed.1 read
    have readable := fun t mem => (readable_iff (proper t mem)).1 (forms.readable t mem)
    exact ⟨forms.body unfinished, fun t mem => (readable t mem).1, fun t mem => (readable t mem).2.1,
      fun t mem => (readable t mem).2.2⟩
  · rintro ⟨isBody, grammatical, known, convertible⟩
    have readable : ∀ t ∈ body, t.Readable ctx := fun t mem =>
      (readable_iff (proper t mem)).2 ⟨grammatical t mem, known t mem, convertible t mem⟩
    obtain ⟨nodes, forms⟩ := isBody.exists_forms body rfl readable
    exact ⟨nodes, formed.2 forms⟩
  · intro nodes read
    exact (formed.1 read).forall₂_marks proper

/-- A conditional with a text and an output in its first branch and nothing in its last part is accepted where
the filter of the output is known. -/
theorem Node.ofTokens_conditional :
    ∃ nodes, Node.ofTokens ⟨⟨none, none⟩, none, ["upper"], true⟩
      [⟨.openIf "a", "\x7b% if a %\x7d", ⟨1, 0⟩⟩, ⟨.data, "x", ⟨1, 10⟩⟩,
        ⟨.output "b" ["upper"], "\x7bb|upper\x7d", ⟨1, 11⟩⟩, ⟨.otherwise, "\x7b% else %\x7d", ⟨1, 20⟩⟩,
        ⟨.closeIf, "\x7b% endif %\x7d", ⟨1, 30⟩⟩, ⟨.finish, "", ⟨1, 41⟩⟩] = .ok nodes := by
  have tokenized : Token.read ⟨none, none⟩
      "\x7b% if a %\x7dx\x7bb|upper\x7d\x7b% else %\x7d\x7b% endif %\x7d" = .ok _ :=
    eq_ok_of_toOption (by decide +kernel : _ = some
      [⟨.openIf "a", "\x7b% if a %\x7d", ⟨1, 0⟩⟩, ⟨.data, "x", ⟨1, 10⟩⟩,
        ⟨.output "b" ["upper"], "\x7bb|upper\x7d", ⟨1, 11⟩⟩, ⟨.otherwise, "\x7b% else %\x7d", ⟨1, 20⟩⟩,
        ⟨.closeIf, "\x7b% endif %\x7d", ⟨1, 30⟩⟩, ⟨.finish, "", ⟨1, 41⟩⟩])
  obtain ⟨body, eof, same, -, accepted, -, -⟩ :=
    Node.ofTokens_iff_body ⟨⟨none, none⟩, none, ["upper"], true⟩ tokenized
  obtain rfl := (congrArg List.dropLast same).trans List.dropLast_concat
  have writes : Condition.Phrase.Writes ⟨⟨.path ['a'] [], none⟩, false⟩ "a" :=
    ⟨⟨⟨⟨by decide, by simp⟩, by simp⟩, by decide⟩, Lexeme.readAll_eq_ok_iff.1 (by decide +kernel)⟩
  refine accepted.2 ⟨.cond (.data (.output .nil)) (.otherwise .nil) .nil, ?_, ?_, ?_⟩
  · intro t mem condition has
    simp only [List.dropLast, List.mem_cons, List.not_mem_nil, or_false] at mem
    rcases mem with rfl | rfl | rfl | rfl | rfl <;> rcases has with ⟨⟨⟩⟩ | ⟨⟨⟩⟩
    exact ⟨_, writes⟩
  · intro t mem name uses
    simp only [List.dropLast, List.mem_cons, List.not_mem_nil, or_false] at mem
    rcases mem with rfl | rfl | rfl | rfl | rfl <;>
      rcases uses with ⟨path, filters, ⟨⟩, mem⟩ | ⟨condition, phrase, ⟨⟨⟩⟩ | ⟨⟨⟩⟩, writes', mem⟩
    · rw [← writes.filters_eq writes'] at mem
      cases mem
    · exact mem
  · intro t mem
    simp only [List.dropLast, List.mem_cons, List.not_mem_nil, or_false] at mem
    constructor
    · intro condition lexemes has lexed
      rcases mem with rfl | rfl | rfl | rfl | rfl <;> rcases has with ⟨⟨⟩⟩ | ⟨⟨⟩⟩
      obtain rfl := Except.ok.inj ((Lexeme.readAll_eq_ok_iff.2 writes.2).symm.trans lexed)
      exact Condition.Operand.isConvertible_of_path
    · rintro name start stop tag
      rcases mem with rfl | rfl | rfl | rfl | rfl <;> cases tag

open Condition Integer in
/-- The tokens of a conditional that compares with an integer of too many digits are blocks within blocks, with a
condition of the language, but they are neither read nor reported as a fault of the source. -/
theorem Node.conditional_of_many_digits_breaks :
    ∃ source body eof, Token.read ⟨none, none⟩ source = .ok (body ++ [eof]) ∧ Body (body.map Token.tag)
      ∧ Grammatical body ∧ (∀ t ∈ body, ∀ name, ¬ t.Uses name)
      ∧ ∃ m, Node.ofTokens ⟨⟨none, none⟩, none, [], true⟩ (body ++ [eof]) = .error m ∧ m.kindName = "ValueError" := by
  have solid : ∀ c ∈ ['i', 'f'], isBlank c = false := by
    rintro c (_ | ⟨_, _ | ⟨_, ⟨⟩⟩⟩) <;> rfl
  have opening : Directive.read (' ' :: (['i', 'f'] ++ ' ' :: (['a'] ++ [' ', '=', '=', ' '] ++ manyDigits)) ++ [' '])
      = .ok (.openIf manyDigitsComparison) := by
    refine Directive.read_spaced solid (by decide) isTrimmed_manyDigitsComparison (avoids_of_first_not_mem ?_)
      (.openIf (by simp))
    simp [not_mem_manyDigits]
  have closing : Directive.read " endif ".toList = .ok .closeIf := eq_ok_of_toOption (by decide +kernel)
  obtain ⟨source, text, text', p, p', eof, tokenized, -, -⟩ := Token.exists_read_blocks ⟨none, none⟩ opening closing
    (avoids_of_first_not_mem (by simp [not_mem_manyDigits])) (avoids_of_first_not_mem (by decide))
  have has {t : Token} {condition : String}
      (mem : t ∈ [⟨.openIf manyDigitsComparison, text, p⟩, (⟨.closeIf, text', p'⟩ : Token)])
      (is : t.HasCondition condition) : condition = manyDigitsComparison := by
    rcases List.mem_pair.1 mem with rfl | rfl <;> rcases is with is | is
    · exact (Tag.openIf.inj is).symm
    all_goals cases is
  refine ⟨source, [_, _], eof, tokenized, .cond .nil .close .nil, ?_, ?_, ?_⟩
  · intro t mem condition is
    exact ⟨_, has mem is ▸ writes_manyDigitsCompared⟩
  · rintro t mem name (⟨path, filters, output, -⟩ | ⟨condition, phrase, is, writes, used⟩)
    · rcases List.mem_pair.1 mem with rfl | rfl <;> cases output
    · obtain rfl := has mem is
      rw [writes.filters_eq writes_manyDigitsCompared] at used
      cases used
  · have refused : NodeReader.step ⟨⟨none, none⟩, none, [], true⟩ .start ⟨.openIf manyDigitsComparison, text, p⟩
        = .error (.number "" (.tooLong (greatestLength + 1))) :=
      congrArg (Except.map _) (readCondition_manyDigits _ _)
    exact ⟨_, Node.ofTokens_of_refused (runs_nil _) refused [_, eof], rfl⟩

end Stencil
