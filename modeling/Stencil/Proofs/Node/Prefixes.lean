import Stencil.Proofs.Node.Blocks
import Stencil.Proofs.Token.Places

/-!
# Where a template goes wrong

The fault of a source points at the first token with which it cannot be a template any more. The tokens in
front of it are the start of a template: closing tags for the blocks that they leave open, written behind
them, give a source that is read (`Node.begins_iff_of_runs`). With the token itself no continuation is read.
Only where every token is taken and a block is open at the end the fault points back, at the tag that opens
the innermost such block. The bounds of a counting loop are converted where it is closed, so a loop whose tag has a
bound with too many digits may be open in front of a fault, and then no continuation is read even without the token.
-/

namespace Stencil

open NodeReader

namespace Position

theorem eq_of_line_of_column {p q : Position} (line : p.line = q.line) (column : p.column = q.column) : p = q := by
  obtain ⟨l, c⟩ := p
  obtain rfl : l = q.line := line
  obtain rfl : c = q.column := column
  rfl

theorem after_ne {cs : List Char} (nonempty : cs ≠ []) (p : Position) : p.after cs ≠ p := by
  intro same
  have line : p.line + cs.count '\n' = p.line := by rw [← line_after, same]
  have feedless : '\n' ∉ cs := List.count_eq_zero.1 (by omega)
  have column := column_after p cs
  have whole : cs.rtakeWhile (· ≠ '\n') = cs := by
    rw [List.rtakeWhile_eq_self_iff]
    intro c mem
    simpa using fun feed : c = '\n' => feedless (feed ▸ mem)
  rw [same, whole, if_neg feedless] at column
  have := List.length_pos_of_ne_nil nonempty
  omega

end Position

/-- What is cut off behind a piece may be replaced by tags. -/
theorem Piece.Cuts.append_tags {front back tags : List Piece} (cuts : Cuts (front ++ back))
    (isTag : ∀ tag ∈ tags, IsTag tag) : Cuts (front ++ tags) := by
  obtain ⟨apart, -, -⟩ := List.isChain_append.1 cuts.apart
  constructor
  · intro piece mem
    rcases List.mem_append.1 mem with mem | mem
    · exact cuts.cut piece (List.mem_append_left _ mem)
    · exact (isTag piece mem).cut
  · have tagged : tags.IsChain fun p q => ¬ (p.isText ∧ q.isText) := by
      refine (List.pairwise_of_forall_mem_list ?_).isChain
      intro p mem q _
      simp [(isTag p mem).isText]
    refine List.isChain_append.2 ⟨apart, tagged, ?_⟩
    intro p _ q first
    simp [(isTag q (List.mem_of_mem_head? first)).isText]

namespace Token

theorem Covers.position {source : List Char} {tokens before after : List Token} {t : Token}
    (covers : Covers source tokens) (cut : tokens = before ++ t :: after) :
    t.position = Position.start.after (Token.spelled before) := by
  obtain ⟨line, column⟩ := covers.placed before t after cut
  apply Position.eq_of_line_of_column
  · rw [line, Position.line_after]
    rfl
  · rw [column, Position.column_after]
    simp [Position.start]

theorem Covers.position_ne {source : List Char} {tokens before between after : List Token} {t u : Token}
    (covers : Covers source tokens) (cut : tokens = before ++ t :: (between ++ u :: after)) :
    u.position ≠ t.position := by
  obtain ⟨body, eof, split, -, -, inside⟩ := covers.ends
  have mem : t ∈ body := by
    have initial : before ++ t :: (between ++ (u :: after).dropLast) = body := by
      have := congrArg List.dropLast (cut.symm.trans split)
      rwa [List.dropLast_concat, List.dropLast_append_of_ne_nil (by simp), List.dropLast_cons_of_ne_nil (by simp),
        List.dropLast_append_of_ne_nil (by simp)] at this
    rw [← initial]
    simp
  have written : t.text.toList ≠ [] := fun empty => (inside t mem).2 (String.toList_eq_nil_iff.1 empty)
  have whole : tokens = before ++ t :: between ++ u :: after := by simp [cut]
  have later := covers.position whole
  have covered : Token.spelled (before ++ t :: between)
      = Token.spelled before ++ (t.text.toList ++ Token.spelled between) := by
    simp [Token.spelled]
  rw [later, covered, Position.after_append, ← covers.position cut]
  exact Position.after_ne (List.append_ne_nil_of_left_ne_nil written _) t.position

/-- No two tokens of a source begin at the same place. -/
theorem Covers.eq_of_position {source : List Char} {tokens before before' after after' : List Token}
    {t u : Token} (covers : Covers source tokens) (cut : tokens = before ++ t :: after)
    (cut' : tokens = before' ++ u :: after') (same : u.position = t.position) : before' = before ∧ u = t := by
  rcases List.append_eq_append_iff.1 (cut.symm.trans cut') with ⟨between, rfl, rest⟩ | ⟨between, rfl, rest⟩
  · cases between with
    | nil => exact ⟨List.append_nil _, (List.cons.inj rest).1.symm⟩
    | cons first between =>
      obtain ⟨rfl, -⟩ := List.cons.inj rest
      rw [List.append_assoc, List.cons_append] at cut'
      exact absurd same (covers.position_ne cut')
  · cases between with
    | nil => exact ⟨(List.append_nil _).symm, (List.cons.inj rest).1⟩
    | cons first between =>
      obtain ⟨rfl, -⟩ := List.cons.inj rest
      rw [List.append_assoc, List.cons_append] at cut
      exact absurd same.symm (covers.position_ne cut)

/-- What is cut off behind a token may be replaced by any other pieces. -/
theorem Lexed.graft {p : Position} {pieces : List Piece} {tokens before after : List Token} {t : Token}
    (lexed : Lexed p pieces tokens) (cut : tokens = before ++ t :: after) :
    ∃ front back, pieces = front ++ back
      ∧ ∀ others more, Lexed (p.after (front.flatMap Piece.chars)) others more →
        Lexed p (front ++ others) (before ++ more) := by
  induction lexed generalizing before with
  | finish =>
    obtain ⟨rfl, -, -⟩ : before = [] ∧ _ := by
      simpa [eq_comm, List.append_eq_singleton_iff] using cut
    exact ⟨[], [], rfl, fun others more lexed => lexed⟩
  | @piece p piece rest tag tokens means _ ih =>
    cases before with
    | nil => exact ⟨[], piece :: rest, rfl, fun others more lexed => lexed⟩
    | cons first before =>
      obtain ⟨rfl, later⟩ := List.cons.inj cut
      obtain ⟨front, back, rfl, graft⟩ := ih later
      refine ⟨piece :: front, back, rfl, fun others more lexed => .piece means (graft others more ?_)⟩
      rwa [← Position.after_append]

end Token

/-- The tag that closes a block, as a piece of a source. -/
def BlockKind.closingPiece (kind : BlockKind) : Piece :=
  .block (" end".toList ++ kind.word.toList ++ " ".toList)

theorem BlockKind.means_closer (kind : BlockKind) : kind.closingPiece.Says kind.closer := by
  refine .block (eq_ok_of_toOption ?_)
  cases kind <;> decide

theorem BlockKind.isTag_closingPiece (kind : BlockKind) : Piece.IsTag kind.closingPiece := by
  refine .block (avoids_of_first_not_mem ?_)
  cases kind <;> decide

/-- The tokens are the first ones of some source that is read as nodes. -/
def Node.Begins (ctx : ReadContext) (origin : Origin) (tokens : List Token) : Prop :=
  ∃ source rest nodes, Token.read origin source = .ok (tokens ++ rest)
    ∧ Node.ofTokens ctx (tokens ++ rest) = .ok nodes

/-- Tokens at the start of a source that the reader takes are the start of a template exactly if no counting loop that
they leave open has a bound with too many digits: then closing tags for the open blocks complete them. -/
theorem Node.begins_iff_of_runs {ctx : ReadContext} {origin : Origin} {source : String} {before after : List Token}
    {t : Token} {r : NodeReader} (tokenized : Token.read origin source = .ok (before ++ t :: after))
    (ran : Runs ctx .start before r) :
    Node.Begins ctx origin before ↔ ∀ block ∈ leftOpen before, block.2.HasShortBounds := by
  have proper : ∀ u ∈ before, u.Proper := by
    obtain ⟨body, eof, split, -, proper, -⟩ := Token.exists_body_of_read tokenized
    intro u mem
    obtain ⟨front, back, rfl⟩ := List.append_of_mem mem
    have initial := congrArg List.dropLast split
    rw [List.dropLast_concat, List.dropLast_append_of_ne_nil (by simp)] at initial
    exact proper u (initial ▸ by simp)
  rw [← isBounded_iff_of_runs ran proper]
  constructor
  · rintro ⟨source', rest, nodes, tokenized', read⟩
    obtain ⟨r', whole, closed⟩ := bind_eq_ok_iff.1 read
    obtain ⟨next, ran', later⟩ := runs_append.1 whole
    obtain rfl := Except.ok.inj (ran.symm.trans ran')
    have closed : r'.blocks = [] := by
      unfold NodeReader.result at closed
      split at closed
      · next none => exact none
      · cases closed
    exact (readable_of_runs later (by simp [closed])).2
  · intro bounded
    have cuts := Piece.cuts_split source.toList
    obtain ⟨front, back, same, graft⟩ := (Token.read_eq_ok_iff.1 tokenized).graft rfl
    rw [same] at cuts
    let closers := r.unclosed.map fun block => (block.1.closingPiece, block.1.closer)
    have means : ∀ item ∈ closers, item.1.Says item.2 := by
      intro item mem
      obtain ⟨block, -, rfl⟩ := List.mem_map.1 mem
      exact block.1.means_closer
    obtain ⟨ends, eof, lexed, finish, made⟩ :=
      Token.exists_lexed means (Position.start.after (front.flatMap Piece.chars))
    have apart : Piece.Cuts (front ++ closers.map Prod.fst) := by
      refine cuts.append_tags ?_
      simp only [closers, List.map_map, List.forall_mem_map]
      exact fun block _ => block.1.isTag_closingPiece
    have closes : ends.map Token.tag = closers.map Prod.snd := by
      rw [← List.forall₂_eq_eq_eq, List.forall₂_map_left_iff, List.forall₂_map_right_iff]
      exact made.flip.imp fun _ _ same => same.1
    rw [List.map_map] at closes
    obtain ⟨nodes, closed⟩ : ∃ nodes, Runs ctx r ends ⟨[], nodes⟩ := runs_closers bounded closes
    have finished : step ctx ⟨[], nodes⟩ eof = .ok ⟨[], nodes⟩ := by rw [step, finish]
    have whole : Runs ctx .start (before ++ (ends ++ [eof])) ⟨[], nodes⟩ :=
      runs_append.2 ⟨r, ran, runs_append.2 ⟨_, closed, runs_cons.2 ⟨_, finished, runs_nil _⟩⟩⟩
    exact ⟨_, ends ++ [eof], nodes.reverse, (graft _ _ lexed).read apart origin, bind_eq_ok_iff.2 ⟨_, whole, rfl⟩⟩

/-! ## Faults -/

/-- The fault is about the token: it stands where the token begins and quotes its text. -/
structure Malformed.Shows (m : Malformed) (t : Token) : Prop where
  line : m.line = some t.position.line
  column : m.column = some t.position.column
  fragment : m.fragment = some t.text

theorem nonEmpty?_of_ne {s : String} (written : s ≠ "") : nonEmpty? (some s) = some s := by
  unfold nonEmpty?
  split
  · next empty => exact absurd (Option.some.inj empty) written
  · rfl

theorem shows_fault (ctx : ReadContext) (code : Code) {t : Token} (written : t.text ≠ "") (message : String)
    (suggestion : Option String) : (fault ctx code t message suggestion).Shows t :=
  ⟨rfl, rfl, nonEmpty?_of_ne written⟩

theorem NodeReader.Refusal.shows {ctx : ReadContext} {t : Token} {m : Malformed} (refusal : Refusal ctx t m)
    (written : t.text ≠ "") (reported : m.isReported) : m.Shows t := by
  cases refusal with
  | unexpected message suggestion | expression message suggestion => exact shows_fault ctx _ written _ _
  | filter name => exact ⟨rfl, rfl, rfl⟩
  | number shown refusal => cases reported

theorem NodeReader.Refusal.code_ne {ctx : ReadContext} {t : Token} {m : Malformed} (refusal : Refusal ctx t m) :
    m.code ≠ .unclosedBlock := by
  cases refusal <;> exact nofun

/-- A fault shows one token of a source only. -/
theorem Malformed.Shows.unique {m : Malformed} {source : List Char}
    {tokens before before' after after' : List Token} {t u : Token} (covers : Token.Covers source tokens)
    (cut : tokens = before ++ t :: after) (cut' : tokens = before' ++ u :: after') (here : m.Shows t)
    (there : m.Shows u) : before' = before ∧ u = t := by
  refine covers.eq_of_position cut cut' ?_
  have line := Option.some.inj (there.line.symm.trans here.line)
  have column := Option.some.inj (there.column.symm.trans here.column)
  exact Position.eq_of_line_of_column (Int.ofNat.inj line) (Int.ofNat.inj column)

/-- A tag that closes or carries on a block is refused with the name of the innermost open one, if it does not belong
to this one. -/
theorem NodeReader.names_innermost {ctx : ReadContext} {r : NodeReader} {before : List Token} {t : Token}
    {m : Malformed} (ran : Runs ctx start before r) (failed : step ctx r t = .error m) (reported : m.isReported)
    {kind : BlockKind}
    {opening : Token} {outer : List (BlockKind × Token)} (blocks : leftOpen before = (kind, opening) :: outer)
    (tag : t.tag.closes?.isSome ∨ t.tag.isBranch ∧ kind ≠ .cond) :
    m.code = .unexpectedToken
      ∧ m.message = "Unexpected " ++ t.text ++ " at depth " ++ toString (outer.length + 1) ++ ": expected "
        ++ Directive.shown ("end" ++ kind.word) ++ " to close '" ++ kind.word ++ "' opened at line "
        ++ toString opening.position.line := by
  obtain ⟨b, others, same, rfl, rfl, rfl⟩ := exists_of_unclosed ((unclosed_eq_leftOpen ran).trans blocks)
  have misplaced : t.tag.Misplaced b.kind := by
    refine tag.imp_left fun closes => ?_
    obtain ⟨closed, closes⟩ := Option.isSome_iff_exists.1 closes
    refine ⟨closed, closes, ?_⟩
    rintro rfl
    have unfinished := map_eq_error_iff.1 ((step_closer same (Tag.eq_closer closes)).symm.trans failed)
    obtain ⟨_, _, _, -, s, -, failed⟩ := OpenBlock.exists_bound_of_finished unfinished
    obtain ⟨refusal, -, rfl⟩ := OpenBlock.bound_eq_error failed
    cases reported
  obtain rfl := Except.error.inj (failed.symm.trans (step_of_misplaced same misplaced))
  rw [List.length_map, ← List.length_cons (a := b), ← same]
  exact ⟨rfl, rfl⟩

/-- Whatever is wrong with the tokens of a source, a fault that is reported with a place is about one of them and about
no other. Either with this token those in front of it are not the start of a template, however they go on; and if it is a
closing tag or a further branch inside of a block of another kind, then the fault names the tag that closes the
innermost block that they leave open. Or the fault is about the tag that opens the innermost block that all tokens but
the last leave open, and it names this block and how many are open. What stands in front of the token, or in front of
the last one, is the start of a template exactly if no counting loop that is left open there has a bound with too
many digits. Any other fault is the report of too many digits, in the condition of a token or in the tag of the loop
that a token closes. -/
theorem Node.ofTokens_fails_at_first {ctx : ReadContext} {origin : Origin} {source : String}
    {tokens : List Token} {m : Malformed} (tokenized : Token.read origin source = .ok tokens)
    (refused : Node.ofTokens ctx tokens = .error m) :
    (m.isReported → ∃ before t after, tokens = before ++ t :: after ∧ m.Shows t
      ∧ (∀ before' u after', tokens = before' ++ u :: after' → m.Shows u → before' = before ∧ u = t)
      ∧ (m.code ≠ .unclosedBlock →
        (Node.Begins ctx origin before ↔ ∀ block ∈ leftOpen before, block.2.HasShortBounds)
          ∧ (∀ rest nodes, Node.ofTokens ctx (before ++ t :: rest) ≠ .ok nodes)
          ∧ ∀ kind opening outer, leftOpen before = (kind, opening) :: outer →
            (t.tag.closes?.isSome ∨ t.tag.isBranch ∧ kind ≠ .cond) →
            m.code = .unexpectedToken
              ∧ m.message = "Unexpected " ++ t.text ++ " at depth " ++ toString (outer.length + 1) ++ ": expected "
                ++ Directive.shown ("end" ++ kind.word) ++ " to close '" ++ kind.word ++ "' opened at line "
                ++ toString opening.position.line)
      ∧ (m.code = .unclosedBlock →
        ∃ body eof kind outer, tokens = body ++ [eof] ∧ eof.tag = .finish
          ∧ (Node.Begins ctx origin body ↔ ∀ block ∈ leftOpen body, block.2.HasShortBounds)
          ∧ leftOpen body = (kind, t) :: outer ∧ t.tag.opens? = some kind
          ∧ m.message = "Unclosed '" ++ kind.word ++ "' block opened at line " ++ toString t.position.line
            ++ " (depth " ++ toString (outer.length + 1) ++ "); expected "
            ++ Directive.shown ("end" ++ kind.word)))
    ∧ (m.isReported = false → (∃ digits, m.ReportsDigits digits) ∧ ∃ before t after, tokens = before ++ t :: after
      ∧ (∀ rest nodes, Node.ofTokens ctx (before ++ t :: rest) ≠ .ok nodes)
      ∧ ((∃ condition, t.HasCondition condition ∧ ¬ t.IsConvertible)
        ∨ t.tag = .closeFor ∧ ∃ opening outer, leftOpen before = (.count, opening) :: outer
          ∧ ¬ opening.HasShortBounds)) := by
  have covers := Token.covers_of_read tokenized
  obtain ⟨body, eof, split, ends, -, inside⟩ := covers.ends
  have proper : ∀ t ∈ body, t.Proper := by
    obtain ⟨body', eof', split', -, proper, -⟩ := Token.exists_body_of_read tokenized
    obtain rfl : body = body' := by simpa using congrArg List.dropLast (split.symm.trans split')
    exact proper
  rcases Node.ofTokens_eq_error refused with
    ⟨before, t, after, r, rfl, ran, failed⟩ | ⟨r, b, outer, whole, blocks, rfl⟩
  · have refusal := refusal_of_step failed
    have never : ∀ rest nodes, Node.ofTokens ctx (before ++ t :: rest) ≠ .ok nodes := by
      intro rest nodes accepted
      cases accepted.symm.trans (Node.ofTokens_of_refused ran failed rest)
    have mem : t ∈ body ++ [eof] := split ▸ List.mem_append_right _ List.mem_cons_self
    have written : t.text ≠ "" := by
      rcases List.mem_append.1 mem with mem | last
      · exact (inside t mem).2
      · obtain rfl := List.mem_singleton.1 last
        rw [step, ends] at failed
        cases failed
    refine ⟨fun reported => ?_, fun silent => ?_⟩
    · have shows := refusal.shows written reported
      refine ⟨before, t, after, rfl, shows, ?_, fun _ => ⟨Node.begins_iff_of_runs tokenized ran, never, ?_⟩, ?_⟩
      · exact fun before' u after' cut' there => shows.unique covers rfl cut' there
      · exact fun kind opening outer blocks tag => names_innermost ran failed reported blocks tag
      · exact fun code => absurd code refusal.code_ne
    · have earlier : ∀ u ∈ before, u.Proper := by
        intro u mem
        have initial := congrArg List.dropLast split
        rw [List.dropLast_concat, List.dropLast_append_of_ne_nil (by simp)] at initial
        exact proper u (initial ▸ List.mem_append_left _ mem)
      obtain ⟨reports, cause⟩ := reports_of_step (by simpa [Malformed.isReported] using silent) ran earlier failed
      exact ⟨reports, before, t, after, rfl, never, cause⟩
  · subst split
    obtain ⟨r', ran, last⟩ := runs_append.1 whole
    obtain rfl : r' = r := by
      obtain ⟨_, same, done⟩ := runs_cons.1 last
      rw [step, ends] at same
      exact (Except.ok.inj same).trans (Except.ok.inj done)
    have blocks' := (unclosed_eq_leftOpen ran).symm.trans (unclosed_of_blocks blocks)
    obtain ⟨mem, opens⟩ := mem_of_mem_leftOpen (blocks' ▸ List.mem_cons_self)
    obtain ⟨before, after, cut⟩ := List.append_of_mem (List.mem_append_left [eof] mem)
    have shows := shows_fault ctx .unclosedBlock (inside _ mem).2
    refine ⟨fun _ => ⟨before, b.opening, after, cut, shows _ _, ?_, fun code => absurd rfl code, fun _ => ?_⟩, nofun⟩
    · intro before' u after' cut' there
      exact (shows _ _).unique covers cut cut' there
    · refine ⟨body, eof, b.kind, _, rfl, ends, Node.begins_iff_of_runs tokenized ran, blocks', opens, ?_⟩
      rw [List.length_map, ← List.length_cons (a := b), ← blocks]
      rfl

/-- A conditional may not be closed while a loop inside of it is open: the fault asks for the end of the loop. -/
theorem Node.ofTokens_crossed :
    ∃ before t after m,
      Token.read ⟨none, none⟩ "\x7b% if a %\x7d\n\x7b% for i in 1..2 %\x7d\x7b% endif %\x7d"
        = .ok (before ++ t :: after)
      ∧ Node.ofTokens ⟨⟨none, none⟩, none, [], true⟩ (before ++ t :: after) = .error m
      ∧ t.tag = .closeIf ∧ m.Shows t
      ∧ m.message = "Unexpected \x7b% endif %\x7d at depth 2: expected \x7b% endfor %\x7d to close 'for'"
        ++ " opened at line 2"
      ∧ Node.Begins ⟨⟨none, none⟩, none, [], true⟩ ⟨none, none⟩ before
      ∧ ∀ rest nodes, Node.ofTokens ⟨⟨none, none⟩, none, [], true⟩ (before ++ t :: rest) ≠ .ok nodes := by
  let before : List Token :=
    [⟨.openIf "a", "\x7b% if a %\x7d", ⟨1, 0⟩⟩, ⟨.data, "\n", ⟨1, 10⟩⟩,
      ⟨.openFor "i" "1" "2", "\x7b% for i in 1..2 %\x7d", ⟨2, 0⟩⟩]
  let t : Token := ⟨.closeIf, "\x7b% endif %\x7d", ⟨2, 19⟩⟩
  have tokenized : Token.read ⟨none, none⟩
      "\x7b% if a %\x7d\n\x7b% for i in 1..2 %\x7d\x7b% endif %\x7d"
      = .ok (before ++ t :: [⟨.finish, "", ⟨2, 30⟩⟩]) := eq_ok_of_toOption (by decide +kernel)
  have outcome : (match Node.ofTokens ⟨⟨none, none⟩, none, [], true⟩ (before ++ t :: [⟨.finish, "", ⟨2, 30⟩⟩]) with
      | .ok _ => none
      | .error m => some (m.isReported, m.code, m.line, m.column, m.fragment))
      = some (true, Code.unexpectedToken, some 2, some 19, some "\x7b% endif %\x7d") := by decide +kernel
  cases refused : Node.ofTokens ⟨⟨none, none⟩, none, [], true⟩ (before ++ t :: [⟨.finish, "", ⟨2, 30⟩⟩]) with
  | ok nodes =>
    rw [refused] at outcome
    cases outcome
  | error m =>
    rw [refused] at outcome
    simp only [Option.some.injEq, Prod.mk.injEq] at outcome
    obtain ⟨reported, code, line, column, fragment⟩ := outcome
    have shows : m.Shows t := ⟨line, column, fragment⟩
    obtain ⟨before', t', after', -, -, only, first, -⟩ := (Node.ofTokens_fails_at_first tokenized refused).1 reported
    obtain ⟨rfl, rfl⟩ := only before t _ rfl shows
    obtain ⟨begins, never, named⟩ := first (by rw [code]; decide)
    obtain ⟨-, message⟩ := named .count _ [_] rfl (.inl rfl)
    have short : ∀ block ∈ leftOpen before, block.2.HasShortBounds := by
      have opened : leftOpen before = [(.count, ⟨.openFor "i" "1" "2", "\x7b% for i in 1..2 %\x7d", ⟨2, 0⟩⟩),
        (.cond, ⟨.openIf "a", "\x7b% if a %\x7d", ⟨1, 0⟩⟩)] := rfl
      rw [opened]
      refine List.forall_mem_cons.2 ⟨?_, List.forall_mem_singleton.2 nofun⟩
      rintro _ _ _ ⟨⟩
      decide +kernel
    exact ⟨before, t, _, m, tokenized, refused, rfl, shows, message, begins.2 short, never⟩

open Integer

/-- The tag of a counting loop with a bound of too many digits. -/
def manyDigitsLoop : List Char :=
  ['i'] ++ [' ', 'i', 'n', ' ', '1', '.', '.'] ++ manyDigits

/-- A conditional may not be closed inside of a loop, and this is what is reported, but the tag of the loop is not the
start of a template either. -/
theorem Node.loop_of_many_digits_never_ends :
    ∃ source before t after m, Token.read ⟨none, none⟩ source = .ok (before ++ t :: after)
      ∧ Node.ofTokens ⟨⟨none, none⟩, none, [], true⟩ (before ++ t :: after) = .error m ∧ m.Shows t
      ∧ m.kindName = "ParseError" ∧ m.code ≠ .unclosedBlock
      ∧ ¬ Node.Begins ⟨⟨none, none⟩, none, [], true⟩ ⟨none, none⟩ before := by
  have isBound {digits : List Char} (nonempty : digits ≠ []) (inside : ∀ c ∈ digits, isDecimalDigit c) :
      IsBound digits := ⟨[], digits, rfl, .inl rfl, nonempty, inside⟩
  have gap : IsGap [' '] := ⟨by simp, List.all_eq_true.1 (by decide)⟩
  have isFor : Directive.IsFor manyDigitsLoop ['i'] ['1'] manyDigits :=
    ⟨[' '], [' '], [], [], by simp [manyDigitsLoop], isName_of_all (by decide), gap, gap,
      isBound (by simp) (List.all_eq_true.1 (by decide +kernel)), nofun, nofun,
      isBound manyDigits_ne_nil fun _ => isDecimalDigit_of_mem_manyDigits⟩
  have trimmed : isTrimmed manyDigitsLoop := isTrimmed_append_manyDigits rfl (by decide) _
  have solid : ∀ c ∈ ['f', 'o', 'r'], isBlank c = false := by
    rintro c (_ | ⟨_, _ | ⟨_, _ | ⟨_, ⟨⟩⟩⟩⟩) <;> rfl
  have opening : Directive.read (' ' :: (['f', 'o', 'r'] ++ ' ' :: manyDigitsLoop) ++ [' '])
      = .ok (.openFor "i" "1" (String.ofList manyDigits)) := by
    refine Directive.read_spaced solid (by decide) trimmed (avoids_of_first_not_mem ?_) (.openFor isFor)
    simp [manyDigitsLoop, not_mem_manyDigits]
  have closing : Directive.read " endif ".toList = .ok .closeIf := eq_ok_of_toOption (by decide +kernel)
  obtain ⟨source, text, text', p, p', eof, tokenized, written, -⟩ :=
    Token.exists_read_blocks ⟨none, none⟩ opening closing
      (avoids_of_first_not_mem (by simp [manyDigitsLoop, not_mem_manyDigits])) (avoids_of_first_not_mem (by decide))
  let loop : Token := ⟨.openFor "i" "1" (String.ofList manyDigits), text, p⟩
  have ran : Runs ⟨⟨none, none⟩, none, [], true⟩ .start [loop]
      (NodeReader.start.push loop (.count "i" "1" (String.ofList manyDigits))) := rfl
  have failed : NodeReader.step ⟨⟨none, none⟩, none, [], true⟩
      (NodeReader.start.push loop (.count "i" "1" (String.ofList manyDigits))) ⟨.closeIf, text', p'⟩ = .error _ := rfl
  refine ⟨source, [loop], _, [eof], _, tokenized, Node.ofTokens_of_refused ran failed [eof],
    (NodeReader.refusal_of_step failed).shows written rfl, rfl, nofun, fun begins => ?_⟩
  have opened : leftOpen [loop] = [(.count, loop)] := rfl
  have short := (Node.begins_iff_of_runs tokenized ran).1 begins (.count, loop) (opened ▸ List.mem_cons_self)
  have few := short "i" "1" _ rfl (String.ofList manyDigits) (by simp)
  rw [String.toList_ofList, countP_manyDigits] at few
  exact Nat.not_succ_le_self _ few

end Stencil
