import Mathlib.Data.List.DropRight
import Stencil.Proofs.Token.Lexing

/-!
# Where tokens stand

Nothing of a source is lost between its tokens: their texts put together are the source again, and so the
place of a token is settled by the texts in front of it. It stands on one line more than they have line
feeds, as many columns in as they have characters behind the last of these. `Token.read_covers` says so
of every token of a source that is read, the last one included.
-/

namespace Stencil

namespace Position

/-- The column behind a text counts the characters behind its last line feed, and goes on from that of the
start if the text has none. -/
theorem column_after (p : Position) (cs : List Char) :
    (p.after cs).column
      = (cs.rtakeWhile (· ≠ '\n')).length + if '\n' ∈ cs then 0 else p.column := by
  induction cs using List.reverseRecOn with
  | nil => simp [after]
  | append_singleton cs c ih =>
    rw [after_append]
    by_cases feed : c = '\n'
    · simp [after, next, feed]
    · have step : ((p.after cs).after [c]).column = (p.after cs).column + 1 := by
        simp [after, next, feed]
      have missing : '\n' ≠ c := fun same => feed same.symm
      rw [step, ih, List.rtakeWhile_concat_pos (fun c => decide (c ≠ '\n')) cs c (by simpa using feed)]
      simp only [List.mem_append, List.mem_singleton, missing, or_false, List.length_append,
        List.length_singleton]
      omega

end Position

theorem Piece.Cut.chars_ne_nil {piece : Piece} (cut : piece.Cut) : piece.chars ≠ [] := by
  cases piece with
  | text chars => exact cut.1
  | block inner => exact List.cons_ne_nil _ _
  | output chars path filters =>
    obtain ⟨rest, same⟩ := Piece.IsTag.chars_eq_cons cut
    rw [same]
    exact List.cons_ne_nil _ _

namespace Token

/-- The texts of tokens put together. -/
def spelled (tokens : List Token) : List Char :=
  tokens.flatMap fun t => t.text.toList

@[simp] theorem spelled_nil : spelled [] = [] := rfl

@[simp] theorem spelled_cons (t : Token) (tokens : List Token) :
    spelled (t :: tokens) = t.text.toList ++ spelled tokens := rfl

/-- Tokens that cover a source. -/
structure Covers (source : List Char) (tokens : List Token) : Prop where
  /-- Nothing of the source is lost, and nothing is added. -/
  spelled : Token.spelled tokens = source
  /-- The last token is the only one that says `finish` and the only one without a text. -/
  ends : ∃ body eof, tokens = body ++ [eof] ∧ eof.tag = .finish ∧ eof.text = ""
    ∧ ∀ t ∈ body, t.tag ≠ .finish ∧ t.text ≠ ""
  /-- No two texts stand side by side. -/
  apart : Apart tokens
  /-- The line of a token is one more than the line feeds in front of it, and its column is the number of
  characters between the last of these and the token. -/
  placed : ∀ before t after, tokens = before ++ t :: after →
    t.position.line = 1 + (Token.spelled before).count '\n'
      ∧ t.position.column = ((Token.spelled before).rtakeWhile (· ≠ '\n')).length

theorem Lexed.spelled {p : Position} {pieces : List Piece} {tokens : List Token}
    (lexed : Lexed p pieces tokens) : Token.spelled tokens = pieces.flatMap Piece.chars := by
  induction lexed with
  | finish => rfl
  | piece _ _ ih => rw [spelled_cons, ih, String.toList_ofList, List.flatMap_cons]

/-- A token stands behind the text in front of it. -/
theorem Lexed.position {p : Position} {pieces : List Piece} {tokens : List Token}
    (lexed : Lexed p pieces tokens) {before after : List Token} {t : Token}
    (cut : tokens = before ++ t :: after) : t.position = p.after (Token.spelled before) := by
  induction lexed generalizing before with
  | finish =>
    obtain ⟨rfl, rfl, -⟩ : before = [] ∧ _ := by
      simpa [eq_comm, List.append_eq_singleton_iff] using cut
    rfl
  | @piece p piece rest tag tokens _ _ ih =>
    cases before with
    | nil =>
      obtain ⟨rfl, -⟩ := List.cons.inj cut
      rfl
    | cons first before =>
      obtain ⟨rfl, later⟩ := List.cons.inj cut
      rw [ih later, spelled_cons, Position.after_append, String.toList_ofList]

theorem covers_of_read {origin : Origin} {source : String} {tokens : List Token}
    (h : read origin source = .ok tokens) : Covers source.toList tokens := by
  obtain ⟨body, eof, split, ends, proper, apart⟩ := exists_body_of_read h
  have lexed := read_eq_ok_iff.1 h
  obtain ⟨body', q, split', each⟩ := lexed.exists_body
  obtain ⟨rfl, rfl⟩ : body = body' ∧ eof = ⟨.finish, "", q⟩ := by
    simpa using List.append_inj' (split.symm.trans split') rfl
  have cuts := Piece.cuts_split source.toList
  refine ⟨?_, ⟨body, _, split, rfl, rfl, fun t mem => ⟨(proper t mem).unfinished, ?_⟩⟩, ?_, ?_⟩
  · rw [lexed.spelled, Piece.chars_split]
  · intro empty
    have back : List.Forall₂ (flip Of) (Piece.split source.toList) body := List.Forall₂.flip each
    obtain ⟨piece, mem, -, text⟩ := exists_of_forall₂ back mem
    apply (cuts.cut piece mem).chars_ne_nil
    simpa [empty] using text.symm
  · subst split
    refine List.isChain_append.2 ⟨apart, .singleton _, ?_⟩
    rintro t - u last ⟨-, data⟩
    obtain rfl : u = ⟨.finish, "", q⟩ := by simpa [eq_comm] using last
    cases data
  · intro before t after cut
    rw [lexed.position cut, Position.line_after, Position.column_after]
    exact ⟨rfl, by simp [Position.start]⟩

/-- The tokens of a source cover it. -/
theorem read_covers {origin : Origin} {source : String} {tokens : List Token}
    (h : read origin source = .ok tokens) : Covers source.toList tokens :=
  covers_of_read h

/-- A line feed inside a tag counts for the tokens behind it. -/
theorem read_covers_lines :
    ∃ tokens, read ⟨none, none⟩ "a\n\x7b% if\nb %\x7d\x7bc\x7d" = .ok tokens
      ∧ tokens.map Token.position = [⟨1, 0⟩, ⟨2, 0⟩, ⟨3, 4⟩, ⟨3, 7⟩]
      ∧ Covers "a\n\x7b% if\nb %\x7d\x7bc\x7d".toList tokens := by
  have tokenized : read ⟨none, none⟩ "a\n\x7b% if\nb %\x7d\x7bc\x7d"
      = .ok [⟨.data, "a\n", ⟨1, 0⟩⟩, ⟨.openIf "b", "\x7b% if\nb %\x7d", ⟨2, 0⟩⟩,
        ⟨.output "c" [], "\x7bc\x7d", ⟨3, 4⟩⟩, ⟨.finish, "", ⟨3, 7⟩⟩] :=
    eq_ok_of_toOption (by decide +kernel)
  exact ⟨_, tokenized, rfl, read_covers tokenized⟩

end Token

end Stencil
