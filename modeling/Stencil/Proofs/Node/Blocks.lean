import Stencil.Proofs.Node.Forms
import Stencil.Proofs.Number.Integers

/-!
# Which blocks are open

Tokens alone say which blocks they leave open: a tag that opens a block puts it inside of those before, and a
tag that closes one ends the innermost (`leftOpen`). The stack of the reader of nodes is this list at every
token that it takes (`NodeReader.unclosed_of_runs`), however the blocks and their parts are nested. So the tags
that close them, from the innermost on, lead the reader to where no block is open, and every tag that the reader
refuses because another block must be closed first is refused with the name of the innermost one.
-/

namespace Stencil

open NodeReader

/-- The kind of block that the tag opens, if it opens one. -/
def Tag.opens? : Tag → Option BlockKind
  | .openIf _ => some .cond
  | .openForeach _ _ => some .foreach
  | .openFor _ _ _ => some .count
  | _ => none

/-- The kind of block that the tag closes, if it closes one. -/
def Tag.closes? : Tag → Option BlockKind
  | .closeIf => some .cond
  | .closeForeach => some .foreach
  | .closeFor => some .count
  | _ => none

/-- Does the tag begin a further part of a conditional? -/
def Tag.isBranch : Tag → Bool
  | .elseIf _ | .otherwise => true
  | _ => false

/-- The tag that closes a block. -/
def BlockKind.closer : BlockKind → Tag
  | .cond => .closeIf
  | .foreach => .closeForeach
  | .count => .closeFor

theorem Tag.eq_closer {tag : Tag} {kind : BlockKind} (closes : tag.closes? = some kind) : tag = kind.closer := by
  cases tag <;> cases closes <;> rfl

/-- The blocks that are open behind a token, if `blocks` are those in front of it. -/
def openBehind (blocks : List (BlockKind × Token)) (t : Token) : List (BlockKind × Token) :=
  match t.tag.opens?, t.tag.closes? with
  | some kind, _ => (kind, t) :: blocks
  | none, some _ => blocks.tail
  | none, none => blocks

/-- The blocks that tokens open and do not close, innermost first: the kind of each and the token that opens
it. -/
def leftOpen (tokens : List Token) : List (BlockKind × Token) :=
  tokens.foldl openBehind []

theorem mem_of_mem_foldl_openBehind {tokens : List Token} {blocks : List (BlockKind × Token)}
    {block : BlockKind × Token} (mem : block ∈ tokens.foldl openBehind blocks) :
    block ∈ blocks ∨ block.2 ∈ tokens ∧ block.2.tag.opens? = some block.1 := by
  induction tokens generalizing blocks with
  | nil => exact .inl mem
  | cons t rest ih =>
    rcases ih mem with here | ⟨later, opens⟩
    · unfold openBehind at here
      split at here
      · next kind opens =>
        rcases List.mem_cons.1 here with rfl | here
        · exact .inr ⟨List.mem_cons_self, opens⟩
        · exact .inl here
      · exact .inl (List.mem_of_mem_tail here)
      · exact .inl here
    · exact .inr ⟨List.mem_cons_of_mem _ later, opens⟩

/-- A block that tokens leave open is opened by one of them. -/
theorem mem_of_mem_leftOpen {tokens : List Token} {block : BlockKind × Token} (mem : block ∈ leftOpen tokens) :
    block.2 ∈ tokens ∧ block.2.tag.opens? = some block.1 := by
  rcases mem_of_mem_foldl_openBehind mem with none | found
  · cases none
  · exact found

/-- Can the tag not stand in a block of the given kind unless another one is opened in it first? -/
def Tag.Misplaced (tag : Tag) (kind : BlockKind) : Prop :=
  (∃ closed, tag.closes? = some closed ∧ closed ≠ kind) ∨ (tag.isBranch ∧ kind ≠ .cond)

variable {ctx : ReadContext} {r r' : NodeReader} {t : Token}

namespace NodeReader

/-- The open blocks of the reader, innermost first: their kinds and the tokens that open them. -/
def unclosed (r : NodeReader) : List (BlockKind × Token) :=
  r.blocks.map fun b => (b.kind, b.opening)

theorem unclosed_add (r : NodeReader) (node : Node) : (r.add node).unclosed = r.unclosed := by
  obtain ⟨_ | ⟨b, outer⟩, nodes⟩ := r <;> rfl

theorem unclosed_of_blocks {b : OpenBlock} {outer : List OpenBlock} (blocks : r.blocks = b :: outer) :
    r.unclosed = (b.kind, b.opening) :: outer.map fun b => (b.kind, b.opening) := by
  rw [unclosed, blocks, List.map_cons]

theorem exists_of_unclosed {kind : BlockKind} {opening : Token} {outer : List (BlockKind × Token)}
    (h : r.unclosed = (kind, opening) :: outer) :
    ∃ b others, r.blocks = b :: others ∧ b.kind = kind ∧ b.opening = opening
      ∧ others.map (fun b => (b.kind, b.opening)) = outer := by
  obtain ⟨b, others, blocks, same, rest⟩ := List.map_eq_cons_iff.1 h
  obtain ⟨rfl, rfl⟩ := Prod.mk.inj same
  exact ⟨b, others, blocks, rfl, rfl, rest⟩

/-! ## Tokens that are taken -/

theorem unclosed_of_nextBranch {next : List (Expr × List Node) → Except Malformed BlockState}
    (inside : ∀ before state, next before = .ok state → ∀ opening nodes,
      (OpenBlock.mk opening state nodes).kind = .cond)
    (h : nextBranch ctx r t next = .ok r') : r'.unclosed = r.unclosed := by
  obtain ⟨b, outer, before, test, state, blocks, branch, found, rfl⟩ := nextBranch_eq_ok h
  have kind : b.kind = .cond := by rw [OpenBlock.kind, branch]
  rw [unclosed_of_blocks blocks, kind]
  exact congrArg (fun kind => (kind, b.opening) :: _) (inside _ _ found _ _)

theorem unclosed_of_close {kind : BlockKind} (h : close ctx r t kind = .ok r') :
    r'.unclosed = r.unclosed.tail := by
  obtain ⟨b, outer, node, blocks, -, -, rfl⟩ := close_eq_ok h
  rw [unclosed_add, unclosed_of_blocks blocks]
  rfl

/-- A token that the reader takes changes its stack as the token alone says. -/
theorem unclosed_of_step (h : step ctx r t = .ok r') : r'.unclosed = openBehind r.unclosed t := by
  unfold step at h
  unfold openBehind
  split at h
  · next tag =>
    obtain rfl := Except.ok.inj h
    rw [tag, unclosed_add]
    rfl
  · next tag =>
    obtain ⟨node, -, rfl⟩ := map_eq_ok_iff.1 h
    rw [tag, unclosed_add]
    rfl
  · next tag =>
    obtain ⟨test, -, rfl⟩ := map_eq_ok_iff.1 h
    rw [tag]
    rfl
  · next tag =>
    rw [tag]
    refine unclosed_of_nextBranch ?_ h
    intro before state found opening nodes
    obtain ⟨test, -, rfl⟩ := map_eq_ok_iff.1 found
    rfl
  · next tag =>
    rw [tag]
    refine unclosed_of_nextBranch ?_ h
    intro before state found opening nodes
    obtain rfl := Except.ok.inj found
    rfl
  · next tag =>
    obtain rfl := Except.ok.inj h
    rw [tag]
    rfl
  · next tag =>
    obtain rfl := Except.ok.inj h
    rw [tag]
    rfl
  · next tag =>
    rw [tag]
    exact unclosed_of_close h
  · next tag =>
    rw [tag]
    exact unclosed_of_close h
  · next tag =>
    rw [tag]
    exact unclosed_of_close h
  · next tag =>
    obtain rfl := Except.ok.inj h
    rw [tag]
    rfl

/-- Behind every row of tokens that the reader takes its stack is what the tokens leave open. -/
theorem unclosed_of_runs {tokens : List Token} (h : Runs ctx r tokens r') :
    r'.unclosed = tokens.foldl openBehind r.unclosed := by
  induction tokens generalizing r with
  | nil =>
    obtain rfl := Except.ok.inj h
    rfl
  | cons t rest ih =>
    obtain ⟨next, first, later⟩ := runs_cons.1 h
    rw [ih later, unclosed_of_step first, List.foldl_cons]

theorem unclosed_eq_leftOpen {tokens : List Token} (h : Runs ctx .start tokens r) :
    r.unclosed = leftOpen tokens :=
  unclosed_of_runs h

/-- The tag that closes the innermost block finishes it. -/
theorem step_closer {b : OpenBlock} {outer : List OpenBlock} (blocks : r.blocks = b :: outer)
    (tag : t.tag = b.kind.closer) : step ctx r t = b.finished.map (add { r with blocks := outer }) := by
  have closed : close ctx r t b.kind = b.finished.map (add { r with blocks := outer }) := by
    unfold close
    rw [blocks]
    exact if_pos rfl
  unfold step
  rw [tag]
  cases kind : b.kind
  all_goals
    rw [kind] at closed
    exact closed

/-- The tags that close the open blocks, from the innermost on, lead the reader to where none is open, if the bounds
of the loops among them are converted. -/
theorem runs_closers {tokens : List Token} (bounded : ∀ b ∈ r.blocks, b.IsBounded)
    (closers : tokens.map Token.tag = r.unclosed.map fun block => block.1.closer) :
    ∃ nodes, Runs ctx r tokens ⟨[], nodes⟩ := by
  induction tokens generalizing r with
  | nil =>
    obtain ⟨blocks, nodes⟩ := r
    obtain rfl : blocks = [] := by simpa [unclosed] using closers.symm
    exact ⟨nodes, runs_nil _⟩
  | cons t rest ih =>
    obtain ⟨_ | ⟨b, outer⟩, outside⟩ := r
    · cases closers
    · obtain ⟨tag, later⟩ := List.cons.inj closers
      obtain ⟨inner, bounded⟩ := List.forall_mem_cons.1 bounded
      obtain ⟨node, finished⟩ := OpenBlock.exists_finished_iff.2 inner
      have first : step ctx ⟨b :: outer, outside⟩ t = .ok (add ⟨outer, outside⟩ node) :=
        (step_closer rfl tag).trans (map_eq_ok_iff.2 ⟨node, finished, rfl⟩)
      obtain ⟨nodes, ran⟩ := ih (r := add ⟨outer, outside⟩ node) (isBounded_add_iff.2 bounded)
        (by rw [later, unclosed_add]; rfl)
      exact ⟨nodes, runs_cons.2 ⟨_, first, ran⟩⟩

/-! ## Tokens that are refused -/

/-- The fault `m` is one of those that the reader refuses the token `t` with. -/
inductive Refusal (ctx : ReadContext) (t : Token) : Malformed → Prop where
  | unexpected (message : String) (suggestion : Option String) :
      Refusal ctx t (fault ctx .unexpectedToken t message suggestion)
  | expression (message : String) (suggestion : Option String) :
      Refusal ctx t (fault ctx .invalidExpression t message suggestion)
  | filter (name : String) : Refusal ctx t (unknownFilter ctx t name)
  /-- A number in its condition, or in the bounds of the loop that it closes. -/
  | number (shown : String) (refusal : Integer.Refusal) : Refusal ctx t (.number shown refusal)

theorem refusal_of_readCondition {condition : String} {m : Malformed}
    (h : readCondition ctx t condition = .error m) : Refusal ctx t m := by
  unfold readCondition at h
  split at h
  · cases h
  · obtain rfl := Except.error.inj h
    exact .filter _
  · obtain rfl := Except.error.inj h
    exact .number _ _
  · obtain rfl := Except.error.inj h
    exact .expression _ _

theorem refusal_of_nextBranch {m : Malformed} {next : List (Expr × List Node) → Except Malformed BlockState}
    (inside : ∀ before, next before = .error m → Refusal ctx t m) (h : nextBranch ctx r t next = .error m) :
    Refusal ctx t m := by
  unfold nextBranch at h
  split at h
  · obtain rfl := Except.error.inj h
    exact .unexpected _ _
  · split at h
    · exact inside _ (map_eq_error_iff.1 h)
    · obtain rfl := Except.error.inj h
      exact .unexpected _ _
    · obtain rfl := Except.error.inj h
      exact .unexpected _ _

theorem refusal_of_close {kind : BlockKind} {m : Malformed} (h : close ctx r t kind = .error m) :
    Refusal ctx t m := by
  unfold close at h
  split at h
  · obtain rfl := Except.error.inj h
    exact .unexpected _ _
  · split at h
    · obtain ⟨_, _, _, -, s, -, failed⟩ := OpenBlock.exists_bound_of_finished (map_eq_error_iff.1 h)
      obtain ⟨refusal, -, rfl⟩ := OpenBlock.bound_eq_error failed
      exact .number _ refusal
    · obtain rfl := Except.error.inj h
      exact .unexpected _ _

theorem refusal_of_step {m : Malformed} (h : step ctx r t = .error m) : Refusal ctx t m := by
  unfold step at h
  split at h
  · cases h
  · have h := map_eq_error_iff.1 h
    unfold readOutput at h
    split at h
    · obtain rfl := Except.error.inj h
      exact .filter _
    · cases h
  · exact refusal_of_readCondition (map_eq_error_iff.1 h)
  · refine refusal_of_nextBranch ?_ h
    intro before failed
    exact refusal_of_readCondition (map_eq_error_iff.1 failed)
  · refine refusal_of_nextBranch ?_ h
    intro before failed
    cases failed
  · cases h
  · cases h
  · exact refusal_of_close h
  · exact refusal_of_close h
  · exact refusal_of_close h
  · cases h

theorem nextBranch_of_not_cond {b : OpenBlock} {outer : List OpenBlock} (blocks : r.blocks = b :: outer)
    (other : b.kind ≠ .cond) (next : List (Expr × List Node) → Except Malformed BlockState) :
    nextBranch ctx r t next = .error (wrongTag ctx r b t) := by
  obtain ⟨opening, state, nodes⟩ := b
  unfold nextBranch
  rw [blocks]
  cases state with
  | branch | otherwise => exact absurd rfl other
  | foreach | count => rfl

theorem close_of_other_kind {b : OpenBlock} {outer : List OpenBlock} (blocks : r.blocks = b :: outer)
    {kind : BlockKind} (other : kind ≠ b.kind) : close ctx r t kind = .error (wrongTag ctx r b t) := by
  unfold close
  rw [blocks]
  exact if_neg (Ne.symm other)

/-- A tag that does not fit the innermost block is refused, and the refusal names that block. -/
theorem step_of_misplaced {b : OpenBlock} {outer : List OpenBlock} (blocks : r.blocks = b :: outer)
    (misplaced : t.tag.Misplaced b.kind) : step ctx r t = .error (wrongTag ctx r b t) := by
  unfold step
  rcases misplaced with ⟨closed, closes, other⟩ | ⟨branch, other⟩
  · cases tag : t.tag with
    | closeIf | closeForeach | closeFor =>
      rw [tag] at closes
      cases closes
      exact close_of_other_kind blocks other
    | _ =>
      rw [tag] at closes
      cases closes
  · cases tag : t.tag with
    | elseIf | otherwise => exact nextBranch_of_not_cond blocks other _
    | _ =>
      rw [tag] at branch
      cases branch

end NodeReader

/-! ## Numbers that are not converted -/

/-- The fault reports that many digits, which are too many. -/
def Malformed.ReportsDigits (m : Malformed) (digits : Nat) : Prop :=
  Integer.greatestLength < digits ∧ ∃ shown, m = .number shown (.tooLong digits)

theorem OpenBlock.bound_of_isBound {s : String} (isBound : IsBound s.toList) :
    ((∃ n, bound s = .ok n) ↔ s.toList.countP isDecimalDigit ≤ Integer.greatestLength)
      ∧ ∀ m, bound s = .error m → ∃ digits, m.ReportsDigits digits := by
  refine ⟨?_, fun m failed => ?_⟩
  · rw [← Integer.exists_read_iff isBound]
    exact exists_congr fun n => bound_eq_ok_iff
  · obtain ⟨refusal, read, rfl⟩ := bound_eq_error failed
    rcases Integer.read_of_isBound isBound with ⟨n, read'⟩ | ⟨digits, long, read'⟩
    · cases read.symm.trans read'
    · obtain rfl := Except.error.inj (read.symm.trans read')
      exact ⟨digits, long, _, rfl⟩

/-- A block that a tag opens is a counting loop if the tag opens one, and has its bounds. -/
def OpenBlock.IsAnchored (b : OpenBlock) : Prop :=
  ∀ name start stop, b.state = .count name start stop ↔ b.opening.tag = .openFor name start stop

theorem OpenBlock.IsAnchored.isBounded_iff {b : OpenBlock} (anchored : b.IsAnchored) (proper : b.opening.Proper) :
    b.IsBounded ↔ b.opening.HasShortBounds := by
  cases state : b.state with
  | count name start stop =>
    have tag := (anchored name start stop).1 state
    simp only [Token.Proper, tag] at proper
    simp only [IsBounded, state, Token.HasShortBounds, tag, (bound_of_isBound proper.2.1).1,
      (bound_of_isBound proper.2.2).1]
    constructor
    · rintro short _ _ _ ⟨⟩
      exact List.forall_mem_cons.2 ⟨short.1, List.forall_mem_singleton.2 short.2⟩
    · intro short
      exact ⟨short name start stop rfl start (by simp), short name start stop rfl stop (by simp)⟩
  | _ =>
    refine iff_of_true (by simp [IsBounded, state]) fun name start stop tag => ?_
    cases state.symm.trans ((anchored name start stop).2 tag)

/-- If the tag that opens a block is spelled and the block is not finished, then the tag has a bound with too many
digits, and these are reported. -/
theorem OpenBlock.IsAnchored.reports {b : OpenBlock} {m : Malformed} (anchored : b.IsAnchored)
    (proper : b.opening.Proper) (failed : b.finished = .error m) :
    b.kind = .count ∧ ¬ b.opening.HasShortBounds ∧ ∃ digits, m.ReportsDigits digits := by
  refine ⟨?_, ?_, ?_⟩
  · obtain ⟨name, start, stop, state, -⟩ := exists_bound_of_finished failed
    rw [OpenBlock.kind, state]
  · rw [← anchored.isBounded_iff proper, ← exists_finished_iff]
    rintro ⟨node, finished⟩
    cases failed.symm.trans finished
  · obtain ⟨name, start, stop, state, s, mem, failed⟩ := exists_bound_of_finished failed
    have tag := (anchored name start stop).1 state
    simp only [Token.Proper, tag] at proper
    have isBound : IsBound s.toList := by
      simp only [List.mem_cons, List.not_mem_nil, or_false] at mem
      rcases mem with rfl | rfl
      · exact proper.2.1
      · exact proper.2.2
    exact (bound_of_isBound isBound).2 m failed

namespace NodeReader

theorem isAnchored_add {node : Node} (anchored : ∀ b ∈ r.blocks, b.IsAnchored) :
    ∀ b ∈ (r.add node).blocks, b.IsAnchored := by
  obtain ⟨_ | ⟨b, outer⟩, nodes⟩ := r
  · exact anchored
  · obtain ⟨inner, outer⟩ := List.forall_mem_cons.1 anchored
    exact List.forall_mem_cons.2 ⟨inner, outer⟩

theorem isAnchored_of_nextBranch {next : List (Expr × List Node) → Except Malformed BlockState}
    (inside : ∀ before state, next before = .ok state → ∀ opening nodes,
      (OpenBlock.mk opening state nodes).kind = .cond)
    (h : nextBranch ctx r t next = .ok r') (anchored : ∀ b ∈ r.blocks, b.IsAnchored) :
    ∀ b ∈ r'.blocks, b.IsAnchored := by
  obtain ⟨b, outer, before, test, state, blocks, branch, found, rfl⟩ := nextBranch_eq_ok h
  rw [blocks] at anchored
  obtain ⟨here, anchored⟩ := List.forall_mem_cons.1 anchored
  refine List.forall_mem_cons.2 ⟨fun name start stop => iff_of_false ?_ fun tag => ?_, anchored⟩
  · rintro rfl
    cases inside _ _ found b.opening []
  · cases branch.symm.trans ((here name start stop).2 tag)

theorem isAnchored_of_close {kind : BlockKind} (h : close ctx r t kind = .ok r')
    (anchored : ∀ b ∈ r.blocks, b.IsAnchored) : ∀ b ∈ r'.blocks, b.IsAnchored := by
  obtain ⟨b, outer, node, blocks, -, -, rfl⟩ := close_eq_ok h
  rw [blocks] at anchored
  exact isAnchored_add (List.forall_mem_cons.1 anchored).2

theorem isAnchored_of_step (h : step ctx r t = .ok r') (anchored : ∀ b ∈ r.blocks, b.IsAnchored) :
    ∀ b ∈ r'.blocks, b.IsAnchored := by
  unfold step at h
  split at h
  · obtain rfl := Except.ok.inj h
    exact isAnchored_add anchored
  · obtain ⟨node, -, rfl⟩ := map_eq_ok_iff.1 h
    exact isAnchored_add anchored
  · next tag =>
    obtain ⟨test, -, rfl⟩ := map_eq_ok_iff.1 h
    exact List.forall_mem_cons.2 ⟨fun name start stop => by simp [tag], anchored⟩
  · refine isAnchored_of_nextBranch ?_ h anchored
    intro before state found opening nodes
    obtain ⟨test, -, rfl⟩ := map_eq_ok_iff.1 found
    rfl
  · refine isAnchored_of_nextBranch ?_ h anchored
    intro before state found opening nodes
    obtain rfl := Except.ok.inj found
    rfl
  · next tag =>
    obtain rfl := Except.ok.inj h
    exact List.forall_mem_cons.2 ⟨fun name start stop => by simp [tag], anchored⟩
  · next tag =>
    obtain rfl := Except.ok.inj h
    refine List.forall_mem_cons.2 ⟨fun name start stop => ?_, anchored⟩
    rw [tag, BlockState.count.injEq, Tag.openFor.injEq]
  · exact isAnchored_of_close h anchored
  · exact isAnchored_of_close h anchored
  · exact isAnchored_of_close h anchored
  · obtain rfl := Except.ok.inj h
    exact anchored

/-- Every block that is open behind tokens which the reader takes is what the tag that opens it says. -/
theorem isAnchored_of_runs {tokens : List Token} (h : Runs ctx r tokens r')
    (anchored : ∀ b ∈ r.blocks, b.IsAnchored) : ∀ b ∈ r'.blocks, b.IsAnchored := by
  induction tokens generalizing r with
  | nil =>
    obtain rfl := Except.ok.inj h
    exact anchored
  | cons t rest ih =>
    obtain ⟨next, first, later⟩ := runs_cons.1 h
    exact ih later (isAnchored_of_step first anchored)

/-- The bounds of all open blocks are converted exactly if no bound in a tag that opens one has too many digits. -/
theorem isBounded_iff_of_runs {tokens : List Token} (ran : Runs ctx start tokens r)
    (proper : ∀ t ∈ tokens, t.Proper) :
    (∀ b ∈ r.blocks, b.IsBounded) ↔ ∀ block ∈ leftOpen tokens, block.2.HasShortBounds := by
  have anchored := isAnchored_of_runs ran (by simp [start])
  have opened := unclosed_eq_leftOpen ran
  have each : ∀ b ∈ r.blocks, b.IsBounded ↔ b.opening.HasShortBounds := by
    intro b mem
    have listed : (b.kind, b.opening) ∈ leftOpen tokens := opened ▸ List.mem_map_of_mem mem
    exact (anchored b mem).isBounded_iff (proper _ (mem_of_mem_leftOpen listed).1)
  rw [← opened]
  simp only [unclosed, List.forall_mem_map]
  exact forall₂_congr each

section Numbers

variable {tokens : List Token} {m : Malformed} (number : m.kind = .number)
include number

/-- A condition that is refused for its numbers has one with too many digits. -/
theorem reports_of_readCondition {condition : String} (has : t.HasCondition condition)
    (failed : readCondition ctx t condition = .error m) : (∃ digits, m.ReportsDigits digits) ∧ ¬ t.IsConvertible := by
  unfold readCondition at failed
  split at failed
  · cases failed
  · obtain rfl := Except.error.inj failed
    cases number
  · next found =>
    obtain rfl := Except.error.inj failed
    obtain ⟨lexemes, lexed, literal, mem, excess⟩ := Condition.hasExcess_of_read found
    refine ⟨⟨_, Lexeme.lt_of_excess? excess, _, rfl⟩, fun convertible => ?_⟩
    have short := Lexeme.excess?_eq_none_iff.2 (convertible.condition _ _ has lexed _ mem)
    cases excess.symm.trans short
  · obtain rfl := Except.error.inj failed
    cases number

/-- A block that is not closed for its numbers is a counting loop, and its tag has a bound with too many digits. -/
theorem reports_of_close {kind : BlockKind} (ran : Runs ctx start tokens r) (proper : ∀ t ∈ tokens, t.Proper)
    (failed : close ctx r t kind = .error m) :
    (∃ digits, m.ReportsDigits digits) ∧ kind = .count
      ∧ ∃ opening outer, leftOpen tokens = (.count, opening) :: outer ∧ ¬ opening.HasShortBounds := by
  unfold close at failed
  split at failed
  · obtain rfl := Except.error.inj failed
    cases number
  · next b outer blocks =>
    split at failed
    · next same =>
      have opened := (unclosed_eq_leftOpen ran).symm.trans (unclosed_of_blocks blocks)
      have here : b ∈ r.blocks := blocks ▸ List.mem_cons_self
      have opening := proper _ (mem_of_mem_leftOpen (opened ▸ List.mem_cons_self)).1
      obtain ⟨count, long, reports⟩ :=
        (isAnchored_of_runs ran (by simp [start]) b here).reports opening (map_eq_error_iff.1 failed)
      exact ⟨reports, same.symm.trans count, b.opening, _, count ▸ opened, long⟩
    · obtain rfl := Except.error.inj failed
      cases number

theorem exists_of_nextBranch_eq_error {next : List (Expr × List Node) → Except Malformed BlockState}
    (failed : nextBranch ctx r t next = .error m) : ∃ before, next before = .error m := by
  unfold nextBranch at failed
  split at failed
  · obtain rfl := Except.error.inj failed
    cases number
  · split at failed
    · exact ⟨_, map_eq_error_iff.1 failed⟩
    · obtain rfl := Except.error.inj failed
      cases number
    · obtain rfl := Except.error.inj failed
      cases number

/-- A token that is refused for its numbers holds one with too many digits in its condition, or it closes a counting
loop whose tag has a bound with too many digits. -/
theorem reports_of_step (ran : Runs ctx start tokens r) (proper : ∀ t ∈ tokens, t.Proper)
    (failed : step ctx r t = .error m) :
    (∃ digits, m.ReportsDigits digits)
      ∧ ((∃ condition, t.HasCondition condition ∧ ¬ t.IsConvertible)
        ∨ t.tag = .closeFor ∧ ∃ opening outer, leftOpen tokens = (.count, opening) :: outer
          ∧ ¬ opening.HasShortBounds) := by
  unfold step at failed
  split at failed
  · cases failed
  · have failed := map_eq_error_iff.1 failed
    unfold readOutput at failed
    split at failed
    · obtain rfl := Except.error.inj failed
      cases number
    · cases failed
  · next tag =>
    obtain ⟨reports, long⟩ := reports_of_readCondition number (.inl tag) (map_eq_error_iff.1 failed)
    exact ⟨reports, .inl ⟨_, .inl tag, long⟩⟩
  · next tag =>
    obtain ⟨before, failed⟩ := exists_of_nextBranch_eq_error number failed
    obtain ⟨reports, long⟩ := reports_of_readCondition number (.inr tag) (map_eq_error_iff.1 failed)
    exact ⟨reports, .inl ⟨_, .inr tag, long⟩⟩
  · obtain ⟨before, failed⟩ := exists_of_nextBranch_eq_error number failed
    cases failed
  · cases failed
  · cases failed
  · obtain ⟨-, other, -⟩ := reports_of_close number ran proper failed
    cases other
  · obtain ⟨-, other, -⟩ := reports_of_close number ran proper failed
    cases other
  · next tag =>
    obtain ⟨reports, -, opened⟩ := reports_of_close number ran proper failed
    exact ⟨reports, .inr ⟨tag, opened⟩⟩
  · cases failed

end Numbers

end NodeReader

/-! ## Where reading fails -/

theorem exists_of_runs_fail {tokens : List Token} {m : Malformed}
    (h : tokens.foldlM (step ctx) r = .error m) :
    ∃ before t after r', tokens = before ++ t :: after ∧ Runs ctx r before r' ∧ step ctx r' t = .error m := by
  induction tokens generalizing r with
  | nil => cases h
  | cons t rest ih =>
    rw [List.foldlM_cons] at h
    cases first : step ctx r t with
    | error fault =>
      rw [first] at h
      obtain rfl : fault = m := Except.error.inj h
      exact ⟨[], t, rest, r, rfl, runs_nil r, first⟩
    | ok next =>
      rw [first] at h
      obtain ⟨before, u, after, r', rfl, ran, failed⟩ := ih h
      exact ⟨t :: before, u, after, r', rfl, runs_cons.2 ⟨next, first, ran⟩, failed⟩

/-- Once a token is refused it does not matter what follows. -/
theorem Node.ofTokens_of_refused {before : List Token} {m : Malformed} (ran : Runs ctx .start before r)
    (refused : step ctx r t = .error m) (rest : List Token) :
    Node.ofTokens ctx (before ++ t :: rest) = .error m := by
  have ran : before.foldlM (step ctx) .start = .ok r := ran
  rw [Node.ofTokens, List.foldlM_append, ran]
  change ((t :: rest).foldlM (step ctx) r >>= _) = _
  rw [List.foldlM_cons, refused]
  rfl

/-- Either a token is refused behind others that are taken, or all are taken and a block is open at the
end. -/
theorem Node.ofTokens_eq_error {tokens : List Token} {m : Malformed} (h : Node.ofTokens ctx tokens = .error m) :
    (∃ before t after r, tokens = before ++ t :: after ∧ Runs ctx .start before r ∧ step ctx r t = .error m)
      ∨ ∃ r b outer, Runs ctx .start tokens r ∧ r.blocks = b :: outer ∧ m = unclosedBlock ctx r b := by
  unfold Node.ofTokens at h
  cases ran : tokens.foldlM (step ctx) .start with
  | error fault =>
    rw [ran] at h
    obtain rfl : fault = m := Except.error.inj h
    exact .inl (exists_of_runs_fail ran)
  | ok r =>
    rw [ran] at h
    change r.result ctx = .error m at h
    unfold NodeReader.result at h
    split at h
    · cases h
    · next b outer blocks => exact .inr ⟨r, b, outer, ran, blocks, (Except.error.inj h).symm⟩

end Stencil
