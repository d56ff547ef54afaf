import Stencil.Proofs.Condition.Grammar
import Stencil.Proofs.Node.Grammar
import Stencil.Proofs.Token.Lexing

/-!
# What nodes are formed by

The derivations of the block grammar with what they mean: `Forms ctx tokens nodes` says that the tokens are a
body that means these nodes. The reader with its stack and the grammar agree. Tokens that form nodes lead the
reader through to exactly these nodes (`Forms.runs`), and if the tags of tokens are a body and every tag can be
read, then the tokens form nodes (`Body.exists_forms`). Hence `Node.ofTokens_eq_ok_iff`.
-/

namespace Stencil

open NodeReader

/-- Is this the condition of the token, as it is written? -/
def Token.HasCondition (t : Token) (condition : String) : Prop :=
  t.tag = .openIf condition ∨ t.tag = .elseIf condition

/-- If the token opens a counting loop, then no bound of it has too many digits. -/
def Token.HasShortBounds (t : Token) : Prop :=
  ∀ name start stop, t.tag = .openFor name start stop → ∀ bound ∈ [start, stop],
    bound.toList.countP isDecimalDigit ≤ Integer.greatestLength

/-- No number in the token has too many digits. -/
structure Token.IsConvertible (t : Token) : Prop where
  condition : ∀ condition lexemes, t.HasCondition condition →
    Lexeme.readAll (stripEnd condition.toList) = .ok lexemes → ∀ l ∈ lexemes, l.IsConvertible
  bounds : t.HasShortBounds

/-- Are the filters of the token known, is its condition one of the language, and are its numbers converted? -/
def Token.Readable (ctx : ReadContext) (t : Token) : Prop :=
  match t.tag with
  | .output _ filters => ∀ name ∈ filters, name ∈ ctx.filters
  | .openIf condition | .elseIf condition =>
    ∃ phrase : Condition.Phrase, phrase.Writes condition ∧ (∀ name ∈ phrase.filters, name ∈ ctx.filters)
      ∧ ∀ l ∈ phrase.lexemes, l.IsConvertible
  | .openFor _ start stop => (∃ n, OpenBlock.bound start = .ok n) ∧ ∃ n, OpenBlock.bound stop = .ok n
  | _ => True

mutual

/-- The tokens are a body that means these nodes. -/
inductive Forms (ctx : ReadContext) : List Token → List Node → Prop where
  | nil : Forms ctx [] []
  | data {t : Token} {rest : List Token} {nodes : List Node} : t.tag = .data → Forms ctx rest nodes →
      Forms ctx (t :: rest) (.data t.position t.text :: nodes)
  | output {t : Token} {path : String} {filters : List String} {node : Node} {rest : List Token}
      {nodes : List Node} : t.tag = .output path filters → readOutput ctx t path filters = .ok node →
      Forms ctx rest nodes → Forms ctx (t :: rest) (node :: nodes)
  | cond {t : Token} {condition : String} {test : Expr} {first others rest : List Token}
      {body otherwise nodes : List Node} {branches : List (Expr × List Node)} : t.tag = .openIf condition →
      readCondition ctx t condition = .ok test → Forms ctx first body →
      FormsBranches ctx others branches otherwise → Forms ctx rest nodes →
      Forms ctx (t :: first ++ others ++ rest) (.cond t.position ((test, body) :: branches) otherwise :: nodes)
  | foreach {t e : Token} {collection itemName : String} {inner rest : List Token} {body nodes : List Node} :
      t.tag = .openForeach collection itemName → Forms ctx inner body → e.tag = .closeForeach →
      Forms ctx rest nodes →
      Forms ctx (t :: inner ++ e :: rest) (.foreach t.position (splitPath collection) itemName body :: nodes)
  | count {t e : Token} {name start stop : String} {first last : Int} {inner rest : List Token}
      {body nodes : List Node} : t.tag = .openFor name start stop → OpenBlock.bound start = .ok first →
      OpenBlock.bound stop = .ok last → Forms ctx inner body → e.tag = .closeFor → Forms ctx rest nodes →
      Forms ctx (t :: inner ++ e :: rest) (.count t.position name first last body :: nodes)

/-- The tokens of a conditional behind its first branch mean these further branches and this last part. -/
inductive FormsBranches (ctx : ReadContext) : List Token → List (Expr × List Node) → List Node → Prop where
  | elseIf {t : Token} {condition : String} {test : Expr} {inner rest : List Token} {body otherwise : List Node}
      {branches : List (Expr × List Node)} : t.tag = .elseIf condition →
      readCondition ctx t condition = .ok test → Forms ctx inner body →
      FormsBranches ctx rest branches otherwise →
      FormsBranches ctx (t :: inner ++ rest) ((test, body) :: branches) otherwise
  | otherwise {t e : Token} {inner : List Token} {body : List Node} : t.tag = .otherwise →
      Forms ctx inner body → e.tag = .closeIf → FormsBranches ctx (t :: inner ++ [e]) [] body
  | close {e : Token} : e.tag = .closeIf → FormsBranches ctx [e] [] []

end

variable {ctx : ReadContext}

/-! ## Tokens that form nodes are read as these -/

/-- The tokens lead the reader from `r` to `r'`. -/
def Runs (ctx : ReadContext) (r : NodeReader) (tokens : List Token) (r' : NodeReader) : Prop :=
  tokens.foldlM (step ctx) r = .ok r'

theorem runs_nil (r : NodeReader) : Runs ctx r [] r := rfl

theorem runs_cons {r r' : NodeReader} {t : Token} {rest : List Token} :
    Runs ctx r (t :: rest) r' ↔ ∃ next, step ctx r t = .ok next ∧ Runs ctx next rest r' := by
  unfold Runs
  rw [List.foldlM_cons]
  exact bind_eq_ok_iff

theorem runs_append {r r' : NodeReader} {tokens rest : List Token} :
    Runs ctx r (tokens ++ rest) r' ↔ ∃ next, Runs ctx r tokens next ∧ Runs ctx next rest r' := by
  unfold Runs
  rw [List.foldlM_append]
  exact bind_eq_ok_iff

theorem foldl_add_block (nodes : List Node) (opening : Token) (state : BlockState) (before : List Node)
    (outer : List OpenBlock) (outside : List Node) :
    nodes.foldl add ⟨⟨opening, state, before⟩ :: outer, outside⟩
      = ⟨⟨opening, state, nodes.reverse ++ before⟩ :: outer, outside⟩ := by
  induction nodes generalizing before with
  | nil => rfl
  | cons node rest ih =>
    rw [List.foldl_cons, add, ih]
    simp

theorem foldl_add_outside (nodes before : List Node) :
    nodes.foldl add ⟨[], before⟩ = ⟨[], nodes.reverse ++ before⟩ := by
  induction nodes generalizing before with
  | nil => rfl
  | cons node rest ih =>
    rw [List.foldl_cons, add, ih]
    simp

theorem close_of_kind {b : OpenBlock} {node : Node} (finished : b.finished = .ok node) (outer : List OpenBlock)
    (outside : List Node) (t : Token) :
    close ctx ⟨b :: outer, outside⟩ t b.kind = .ok (add ⟨outer, outside⟩ node) :=
  (if_pos rfl).trans (map_eq_ok_iff.2 ⟨node, finished, rfl⟩)

namespace OpenBlock

variable {s : String} {m : Malformed}

theorem bound_eq_ok_iff {n : Int} : bound s = .ok n ↔ Integer.read s.toList = .ok n := by
  unfold bound
  cases Integer.read s.toList <;> simp [Except.mapError]

theorem bound_eq_error (h : bound s = .error m) :
    ∃ refusal, Integer.read s.toList = .error refusal ∧ m = .number (quoted s) refusal := by
  unfold bound at h
  cases read : Integer.read s.toList with
  | ok n =>
    rw [read] at h
    cases h
  | error refusal =>
    rw [read] at h
    exact ⟨refusal, rfl, (Except.error.inj h).symm⟩

/-- A block that is not finished is a loop of which a bound is not converted. -/
theorem exists_bound_of_finished {b : OpenBlock} (h : b.finished = .error m) :
    ∃ name start stop, b.state = .count name start stop ∧ ∃ s ∈ [start, stop], bound s = .error m := by
  unfold finished at h
  split at h
  · cases h
  · cases h
  · cases h
  · next name start stop count =>
    refine ⟨name, start, stop, count, ?_⟩
    cases first : bound start with
    | error =>
      simp only [first] at h
      exact ⟨start, by simp, first.trans (congrArg _ (Except.error.inj h))⟩
    | ok =>
      cases last : bound stop with
      | error =>
        simp only [first, last] at h
        exact ⟨stop, by simp, last.trans (congrArg _ (Except.error.inj h))⟩
      | ok => simp [first, last] at h

theorem finished_count {opening : Token} {name start stop : String} {first last : Int} (nodes : List Node)
    (isFirst : bound start = .ok first) (isLast : bound stop = .ok last) :
    finished ⟨opening, .count name start stop, nodes⟩
      = .ok (.count opening.position name first last nodes.reverse) := by
  simp only [finished, isFirst, isLast]

end OpenBlock

mutual

/-- Tokens that form nodes add these to the innermost block. -/
theorem Forms.runs {tokens : List Token} {nodes : List Node} (h : Forms ctx tokens nodes) (r : NodeReader) :
    Runs ctx r tokens (nodes.foldl add r) := by
  match h with
  | .nil => exact runs_nil r
  | .data tag rest =>
    refine runs_cons.2 ⟨_, ?_, Forms.runs rest _⟩
    rw [step, tag]
  | .output tag read rest =>
    refine runs_cons.2 ⟨_, ?_, Forms.runs rest _⟩
    rw [step, tag]
    exact map_eq_ok_iff.2 ⟨_, read, rfl⟩
  | @Forms.cond _ t _ test _ _ _ body otherwise _ branches tag read inner others rest =>
    have opened : step ctx r t = .ok (r.push t (.branch [] test)) := by
      rw [step, tag]
      exact map_eq_ok_iff.2 ⟨_, read, rfl⟩
    have branch := Forms.runs inner (r.push t (.branch [] test))
    rw [push, foldl_add_block, List.append_nil] at branch
    have closed := FormsBranches.runs others t [] test body.reverse r.blocks r.nodes
    rw [List.reverse_reverse] at closed
    refine runs_append.2 ⟨_, runs_cons.2 ⟨_, opened, ?_⟩, Forms.runs rest _⟩
    exact runs_append.2 ⟨_, branch, closed⟩
  | @Forms.foreach _ t e collection itemName _ _ body _ tag inner ends rest =>
    have opened : step ctx r t = .ok (r.push t (.foreach collection itemName)) := by rw [step, tag]
    have items := Forms.runs inner (r.push t (.foreach collection itemName))
    rw [push, foldl_add_block, List.append_nil] at items
    have closed : step ctx ⟨⟨t, .foreach collection itemName, body.reverse⟩ :: r.blocks, r.nodes⟩ e
        = .ok (r.add (.foreach t.position (splitPath collection) itemName body)) := by
      rw [step, ends]
      refine close_of_kind ?_ _ _ e
      rw [OpenBlock.finished, List.reverse_reverse]
    refine runs_cons.2 ⟨_, opened, runs_append.2 ⟨_, items, ?_⟩⟩
    exact runs_cons.2 ⟨_, closed, Forms.runs rest _⟩
  | @Forms.count _ t e name start stop first last _ _ body _ tag isFirst isLast inner ends rest =>
    have opened : step ctx r t = .ok (r.push t (.count name start stop)) := by rw [step, tag]
    have rounds := Forms.runs inner (r.push t (.count name start stop))
    rw [push, foldl_add_block, List.append_nil] at rounds
    have closed : step ctx ⟨⟨t, .count name start stop, body.reverse⟩ :: r.blocks, r.nodes⟩ e
        = .ok (r.add (.count t.position name first last body)) := by
      rw [step, ends]
      refine close_of_kind ?_ _ _ e
      rw [OpenBlock.finished_count _ isFirst isLast, List.reverse_reverse]
    refine runs_cons.2 ⟨_, opened, runs_append.2 ⟨_, rounds, ?_⟩⟩
    exact runs_cons.2 ⟨_, closed, Forms.runs rest _⟩

theorem FormsBranches.runs {tokens : List Token} {branches : List (Expr × List Node)} {otherwise : List Node}
    (h : FormsBranches ctx tokens branches otherwise) (opening : Token) (before : List (Expr × List Node))
    (test : Expr) (nodes : List Node) (outer : List OpenBlock) (outside : List Node) :
    Runs ctx ⟨⟨opening, .branch before test, nodes⟩ :: outer, outside⟩ tokens
      (add ⟨outer, outside⟩
        (.cond opening.position (before.reverse ++ (test, nodes.reverse) :: branches) otherwise)) := by
  match h with
  | @FormsBranches.elseIf _ t condition next _ rest body _ branches tag read inner others =>
    have opened : step ctx ⟨⟨opening, .branch before test, nodes⟩ :: outer, outside⟩ t
        = .ok ⟨⟨opening, .branch ((test, nodes.reverse) :: before) next, []⟩ :: outer, outside⟩ := by
      rw [step, tag]
      exact map_eq_ok_iff.2 ⟨_, map_eq_ok_iff.2 ⟨_, read, rfl⟩, rfl⟩
    have branch := Forms.runs inner
      ⟨⟨opening, .branch ((test, nodes.reverse) :: before) next, []⟩ :: outer, outside⟩
    rw [foldl_add_block, List.append_nil] at branch
    have closed :=
      FormsBranches.runs others opening ((test, nodes.reverse) :: before) next body.reverse outer outside
    rw [List.reverse_reverse, List.reverse_cons, List.append_assoc, List.singleton_append] at closed
    exact runs_cons.2 ⟨_, opened, runs_append.2 ⟨_, branch, closed⟩⟩
  | @FormsBranches.otherwise _ t e inner _ tag forms ends =>
    have opened : step ctx ⟨⟨opening, .branch before test, nodes⟩ :: outer, outside⟩ t
        = .ok ⟨⟨opening, .otherwise ((test, nodes.reverse) :: before).reverse t.position.line, []⟩ :: outer,
            outside⟩ := by
      rw [step, tag]
      rfl
    have last := Forms.runs forms
      ⟨⟨opening, .otherwise ((test, nodes.reverse) :: before).reverse t.position.line, []⟩ :: outer, outside⟩
    rw [foldl_add_block, List.append_nil] at last
    refine runs_cons.2 ⟨_, opened, runs_append.2 ⟨_, last, runs_cons.2 ⟨_, ?_, runs_nil _⟩⟩⟩
    rw [step, ends]
    refine close_of_kind ?_ _ _ e
    rw [OpenBlock.finished, List.reverse_reverse, List.reverse_cons]
  | @FormsBranches.close _ e ends =>
    refine runs_cons.2 ⟨_, ?_, runs_nil _⟩
    rw [step, ends]
    refine close_of_kind ?_ _ _ e
    simp [OpenBlock.finished]

end

/-- The tags of tokens that form nodes are a body. -/
theorem Forms.body {tokens : List Token} {nodes : List Node} (h : Forms ctx tokens nodes)
    (unfinished : ∀ t ∈ tokens, t.tag ≠ .finish) : Body (tokens.map Token.tag) := by
  have closed : (nodes.foldl add .start).blocks = [] := by rw [NodeReader.start, foldl_add_outside]
  cases closes_of_foldlM (h.runs .start) closed unfinished with
  | outside body => exact body

/-! ## Bodies that can be read form nodes -/

theorem readCondition_eq_ok_iff {t : Token} {condition : String} {test : Expr} :
    readCondition ctx t condition = .ok test
      ↔ ∃ phrase : Condition.Phrase, phrase.Writes condition
        ∧ (∀ name ∈ phrase.filters, name ∈ ctx.filters) ∧ (∀ l ∈ phrase.lexemes, l.IsConvertible)
        ∧ test = phrase.expr t.position := by
  rw [← Condition.read_eq_ok_iff, readCondition]
  cases Condition.read t.position ctx.filters condition with
  | ok => simp
  | error fault =>
    constructor
    · intro h
      cases fault <;> cases h
    · intro h
      cases h

theorem readOutput_eq_ok_iff {t : Token} {path : String} {filters : List String} {node : Node} :
    readOutput ctx t path filters = .ok node
      ↔ (∀ name ∈ filters, name ∈ ctx.filters)
        ∧ node = .output t.position (Expr.pipeline t.position (.path t.position (splitPath path)) filters)
            t.text ctx.escape := by
  rw [← Condition.unknownName?_eq_none_iff, readOutput]
  cases unknownName? ctx.filters filters with
  | none => simp [eq_comm]
  | some => simp

/-- Are the bounds of the block converted when it is closed, if it counts? -/
def OpenBlock.IsBounded (b : OpenBlock) : Prop :=
  match b.state with
  | .count _ start stop => (∃ n, bound start = .ok n) ∧ ∃ n, bound stop = .ok n
  | _ => True

theorem OpenBlock.exists_finished_iff {b : OpenBlock} : (∃ node, b.finished = .ok node) ↔ b.IsBounded := by
  obtain ⟨opening, state, nodes⟩ := b
  cases state with
  | count name start stop =>
    simp only [finished, IsBounded]
    cases bound start <;> cases bound stop <;> simp
  | _ => simp [finished, IsBounded]

theorem isBounded_add_iff {r : NodeReader} {node : Node} :
    (∀ b ∈ (r.add node).blocks, b.IsBounded) ↔ ∀ b ∈ r.blocks, b.IsBounded := by
  obtain ⟨_ | ⟨b, outer⟩, nodes⟩ := r
  · rfl
  · rw [add, List.forall_mem_cons, List.forall_mem_cons]
    rfl

/-- A token that is taken can be read, and the bounds of all blocks that are open in front of it are converted, if
this holds of the blocks that are open behind it: the bounds of a loop are converted where it is closed. -/
theorem readable_of_step {r r' : NodeReader} {t : Token} (h : step ctx r t = .ok r')
    (bounded : ∀ b ∈ r'.blocks, b.IsBounded) : t.Readable ctx ∧ ∀ b ∈ r.blocks, b.IsBounded := by
  have condition : ∀ {condition : String} {test : Expr}, readCondition ctx t condition = .ok test →
      ∃ phrase : Condition.Phrase, phrase.Writes condition ∧ (∀ name ∈ phrase.filters, name ∈ ctx.filters)
        ∧ ∀ l ∈ phrase.lexemes, l.IsConvertible := by
    intro condition test read
    obtain ⟨phrase, writes, known, convertible, -⟩ := readCondition_eq_ok_iff.1 read
    exact ⟨phrase, writes, known, convertible⟩
  have closed : ∀ {kind : BlockKind}, close ctx r t kind = .ok r' → ∀ b ∈ r.blocks, b.IsBounded := by
    intro kind closed
    obtain ⟨b, outer, node, blocks, -, finished, rfl⟩ := close_eq_ok closed
    rw [blocks]
    exact List.forall_mem_cons.2 ⟨OpenBlock.exists_finished_iff.1 ⟨node, finished⟩, isBounded_add_iff.1 bounded⟩
  have branched : ∀ {next : List (Expr × List Node) → Except Malformed BlockState},
      nextBranch ctx r t next = .ok r' → ∀ b ∈ r.blocks, b.IsBounded := by
    intro next branched
    obtain ⟨b, outer, before, test, state, blocks, branch, -, rfl⟩ := nextBranch_eq_ok branched
    have isBounded : b.IsBounded := by simp [OpenBlock.IsBounded, branch]
    rw [blocks]
    exact List.forall_mem_cons.2 ⟨isBounded, (List.forall_mem_cons.1 bounded).2⟩
  unfold step at h
  unfold Token.Readable
  split at h
  · next tag =>
    obtain rfl := Except.ok.inj h
    exact ⟨by simp [tag], isBounded_add_iff.1 bounded⟩
  · next path filters tag =>
    obtain ⟨node, read, rfl⟩ := map_eq_ok_iff.1 h
    exact ⟨by simpa [tag] using (readOutput_eq_ok_iff.1 read).1, isBounded_add_iff.1 bounded⟩
  · next tag =>
    obtain ⟨test, read, rfl⟩ := map_eq_ok_iff.1 h
    exact ⟨by simpa [tag] using condition read, (List.forall_mem_cons.1 bounded).2⟩
  · next tag =>
    obtain ⟨_, _, _, _, _, _, _, found, -⟩ := nextBranch_eq_ok h
    obtain ⟨test, read, -⟩ := map_eq_ok_iff.1 found
    exact ⟨by simpa [tag] using condition read, branched h⟩
  · next tag => exact ⟨by simp [tag], branched h⟩
  · next tag =>
    obtain rfl := Except.ok.inj h
    exact ⟨by simp [tag], (List.forall_mem_cons.1 bounded).2⟩
  · next name start stop tag =>
    obtain rfl := Except.ok.inj h
    obtain ⟨here, outer⟩ := List.forall_mem_cons.1 bounded
    exact ⟨by simpa [tag, OpenBlock.IsBounded] using here, outer⟩
  · next tag => exact ⟨by simp [tag], closed h⟩
  · next tag => exact ⟨by simp [tag], closed h⟩
  · next tag => exact ⟨by simp [tag], closed h⟩
  · next tag =>
    obtain rfl := Except.ok.inj h
    exact ⟨by simp [tag], bounded⟩

theorem readable_of_runs {r r' : NodeReader} {tokens : List Token} (h : Runs ctx r tokens r')
    (bounded : ∀ b ∈ r'.blocks, b.IsBounded) :
    (∀ t ∈ tokens, t.Readable ctx) ∧ ∀ b ∈ r.blocks, b.IsBounded := by
  induction tokens generalizing r with
  | nil =>
    obtain rfl := Except.ok.inj h
    exact ⟨by simp, bounded⟩
  | cons t rest ih =>
    obtain ⟨next, first, later⟩ := runs_cons.1 h
    obtain ⟨readable, bounded'⟩ := ih later
    obtain ⟨here, bounded''⟩ := readable_of_step first bounded'
    exact ⟨List.forall_mem_cons.2 ⟨here, readable⟩, bounded''⟩

/-- The tokens that form nodes can be read. -/
theorem Forms.readable {tokens : List Token} {nodes : List Node} (h : Forms ctx tokens nodes) :
    ∀ t ∈ tokens, t.Readable ctx := by
  have closed : (nodes.foldl add .start).blocks = [] := by rw [NodeReader.start, foldl_add_outside]
  exact (readable_of_runs (h.runs .start) (by simp [closed])).1

theorem Token.Readable.condition {t : Token} {condition : String} (readable : t.Readable ctx)
    (tag : t.HasCondition condition) :
    ∃ test, readCondition ctx t condition = .ok test := by
  unfold Token.Readable at readable
  rcases tag with tag | tag
  all_goals
    rw [tag] at readable
    obtain ⟨phrase, writes, known, convertible⟩ := readable
    exact ⟨_, readCondition_eq_ok_iff.2 ⟨phrase, writes, known, convertible, rfl⟩⟩

theorem Token.Readable.output {t : Token} {path : String} {filters : List String} (readable : t.Readable ctx)
    (tag : t.tag = .output path filters) : ∃ node, readOutput ctx t path filters = .ok node := by
  unfold Token.Readable at readable
  rw [tag] at readable
  exact ⟨_, readOutput_eq_ok_iff.2 ⟨readable, rfl⟩⟩

theorem Token.Readable.bounds {t : Token} {name start stop : String} (readable : t.Readable ctx)
    (tag : t.tag = .openFor name start stop) :
    (∃ n, OpenBlock.bound start = .ok n) ∧ ∃ n, OpenBlock.bound stop = .ok n := by
  unfold Token.Readable at readable
  rwa [tag] at readable

theorem readable_append {tokens rest : List Token} :
    (∀ t ∈ tokens ++ rest, t.Readable ctx) ↔ (∀ t ∈ tokens, t.Readable ctx) ∧ ∀ t ∈ rest, t.Readable ctx :=
  List.forall_mem_append

mutual

/-- Tokens whose tags are a body form nodes if each of them can be read. -/
theorem Body.exists_forms {tags : List Tag} (body : Body tags) (tokens : List Token)
    (same : tokens.map Token.tag = tags) (readable : ∀ t ∈ tokens, t.Readable ctx) :
    ∃ nodes, Forms ctx tokens nodes := by
  match body with
  | .nil =>
    obtain rfl := List.map_eq_nil_iff.1 same
    exact ⟨[], .nil⟩
  | .data rest =>
    obtain ⟨t, later, rfl, tag, same⟩ := List.map_eq_cons_iff.1 same
    obtain ⟨nodes, forms⟩ := Body.exists_forms rest later same (List.forall_mem_cons.1 readable).2
    exact ⟨_, .data tag forms⟩
  | .output rest =>
    obtain ⟨t, later, rfl, tag, same⟩ := List.map_eq_cons_iff.1 same
    obtain ⟨here, readable⟩ := List.forall_mem_cons.1 readable
    obtain ⟨nodes, forms⟩ := Body.exists_forms rest later same readable
    obtain ⟨node, read⟩ := here.output tag
    exact ⟨_, .output tag read forms⟩
  | .cond inner others rest =>
    obtain ⟨front, after, rfl, same, same₃⟩ := List.map_eq_append_iff.1 same
    obtain ⟨front, between, rfl, same, same₂⟩ := List.map_eq_append_iff.1 same
    obtain ⟨t, first, rfl, tag, same₁⟩ := List.map_eq_cons_iff.1 same
    obtain ⟨readable, readable₃⟩ := readable_append.1 readable
    obtain ⟨readable, readable₂⟩ := readable_append.1 readable
    obtain ⟨here, readable₁⟩ := List.forall_mem_cons.1 readable
    obtain ⟨test, read⟩ := here.condition (.inl tag)
    obtain ⟨body, forms₁⟩ := Body.exists_forms inner first same₁ readable₁
    obtain ⟨branches, otherwise, forms₂⟩ := Branches.exists_forms others between same₂ readable₂
    obtain ⟨nodes, forms₃⟩ := Body.exists_forms rest after same₃ readable₃
    exact ⟨_, .cond tag read forms₁ forms₂ forms₃⟩
  | .foreach inner rest =>
    obtain ⟨front, after, rfl, same, same₂⟩ := List.map_eq_append_iff.1 same
    obtain ⟨t, items, rfl, tag, same₁⟩ := List.map_eq_cons_iff.1 same
    obtain ⟨e, after, rfl, ends, same₂⟩ := List.map_eq_cons_iff.1 same₂
    obtain ⟨readable₁, readable₂⟩ := readable_append.1 readable
    obtain ⟨body, forms₁⟩ := Body.exists_forms inner items same₁ (List.forall_mem_cons.1 readable₁).2
    obtain ⟨nodes, forms₂⟩ := Body.exists_forms rest after same₂ (List.forall_mem_cons.1 readable₂).2
    exact ⟨_, .foreach tag forms₁ ends forms₂⟩
  | .count inner rest =>
    obtain ⟨front, after, rfl, same, same₂⟩ := List.map_eq_append_iff.1 same
    obtain ⟨t, rounds, rfl, tag, same₁⟩ := List.map_eq_cons_iff.1 same
    obtain ⟨e, after, rfl, ends, same₂⟩ := List.map_eq_cons_iff.1 same₂
    obtain ⟨readable₁, readable₂⟩ := readable_append.1 readable
    obtain ⟨here, readable₁⟩ := List.forall_mem_cons.1 readable₁
    obtain ⟨⟨first, isFirst⟩, last, isLast⟩ := here.bounds tag
    obtain ⟨body, forms₁⟩ := Body.exists_forms inner rounds same₁ readable₁
    obtain ⟨nodes, forms₂⟩ := Body.exists_forms rest after same₂ (List.forall_mem_cons.1 readable₂).2
    exact ⟨_, .count tag isFirst isLast forms₁ ends forms₂⟩

theorem Branches.exists_forms {tags : List Tag} (h : Branches tags) (tokens : List Token)
    (same : tokens.map Token.tag = tags) (readable : ∀ t ∈ tokens, t.Readable ctx) :
    ∃ branches otherwise, FormsBranches ctx tokens branches otherwise := by
  match h with
  | .elseIf inner rest =>
    obtain ⟨front, after, rfl, same, same₂⟩ := List.map_eq_append_iff.1 same
    obtain ⟨t, first, rfl, tag, same₁⟩ := List.map_eq_cons_iff.1 same
    obtain ⟨readable₁, readable₂⟩ := readable_append.1 readable
    obtain ⟨here, readable₁⟩ := List.forall_mem_cons.1 readable₁
    obtain ⟨test, read⟩ := here.condition (.inr tag)
    obtain ⟨body, forms₁⟩ := Body.exists_forms inner first same₁ readable₁
    obtain ⟨branches, otherwise, forms₂⟩ := Branches.exists_forms rest after same₂ readable₂
    exact ⟨_, _, .elseIf tag read forms₁ forms₂⟩
  | .otherwise inner =>
    obtain ⟨front, after, rfl, same, same₂⟩ := List.map_eq_append_iff.1 same
    obtain ⟨t, last, rfl, tag, same₁⟩ := List.map_eq_cons_iff.1 same
    obtain ⟨e, rfl, ends⟩ := List.map_eq_singleton_iff.1 same₂
    obtain ⟨readable₁, -⟩ := readable_append.1 readable
    obtain ⟨body, forms⟩ := Body.exists_forms inner last same₁ (List.forall_mem_cons.1 readable₁).2
    exact ⟨_, _, .otherwise tag forms ends⟩
  | .close =>
    obtain ⟨e, rfl, ends⟩ := List.map_eq_singleton_iff.1 same
    exact ⟨_, _, .close ends⟩

end

/-! ## Reading -/

/-- Tokens that lead the reader from where no block is open to where none is form the nodes that are added. -/
theorem exists_forms_of_runs {tokens : List Token} {before : List Node} {r' : NodeReader}
    (ran : Runs ctx ⟨[], before⟩ tokens r') (closed : r'.blocks = []) (unfinished : ∀ t ∈ tokens, t.tag ≠ .finish) :
    ∃ nodes, Forms ctx tokens nodes ∧ r' = ⟨[], nodes.reverse ++ before⟩ := by
  have body : Body (tokens.map Token.tag) := by
    cases closes_of_foldlM ran closed unfinished with
    | outside body => exact body
  have readable := (readable_of_runs ran (by simp [closed])).1
  obtain ⟨nodes, forms⟩ := body.exists_forms tokens rfl readable
  have again := forms.runs ⟨[], before⟩
  rw [foldl_add_outside] at again
  exact ⟨nodes, forms, Except.ok.inj (ran.symm.trans again)⟩

/-- Tokens in front of the one that finishes them are read as nodes exactly if they form these. -/
theorem Node.ofTokens_eq_ok_iff {body : List Token} {eof : Token} {nodes : List Node}
    (unfinished : ∀ t ∈ body, t.tag ≠ .finish) (ends : eof.tag = .finish) :
    Node.ofTokens ctx (body ++ [eof]) = .ok nodes ↔ Forms ctx body nodes := by
  have finished : ∀ r : NodeReader, step ctx r eof = .ok r := by
    intro r
    rw [step, ends]
  constructor
  · intro h
    obtain ⟨r, whole, result⟩ := bind_eq_ok_iff.1 h
    obtain ⟨r', ran, last⟩ := runs_append.1 whole
    obtain ⟨_, same, done⟩ := runs_cons.1 last
    obtain rfl := Except.ok.inj ((finished r').symm.trans same)
    obtain rfl := Except.ok.inj done
    have closed : r'.blocks = [] := by
      unfold NodeReader.result at result
      split at result
      · next none => exact none
      · cases result
    obtain ⟨nodes', forms, rfl⟩ := exists_forms_of_runs ran closed unfinished
    have same : Except.ok (nodes'.reverse ++ []).reverse = Except.ok nodes := result
    rw [List.append_nil, List.reverse_reverse] at same
    obtain rfl := Except.ok.inj same
    exact forms
  · intro forms
    have ran := forms.runs .start
    rw [NodeReader.start, foldl_add_outside, List.append_nil] at ran
    refine bind_eq_ok_iff.2 ⟨_, runs_append.2 ⟨_, ran, runs_cons.2 ⟨_, finished _, runs_nil _⟩⟩, ?_⟩
    rw [NodeReader.result, List.reverse_reverse]

/-- The tokens of a source that is read form its nodes. -/
theorem Node.exists_forms_of_read {source : String} {nodes : List Node} (read : Node.read ctx source = .ok nodes) :
    ∃ body eof, Token.read ctx.origin source = .ok (body ++ [eof]) ∧ eof.tag = .finish ∧ (∀ t ∈ body, t.Proper)
      ∧ Forms ctx body nodes := by
  obtain ⟨tokens, tokenized, formed⟩ := bind_eq_ok_iff.1 read
  obtain ⟨body, eof, rfl, ends, proper, -⟩ := Token.exists_body_of_read tokenized
  exact ⟨body, eof, tokenized, ends, proper, (ofTokens_eq_ok_iff (Token.unfinished_of_read tokenized) ends).1 formed⟩

end Stencil
