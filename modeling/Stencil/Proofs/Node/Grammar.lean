import Stencil.Node.Reading
import Stencil.Proofs.Success

/-!
# The grammar of blocks

Tags form a body if every block among them is closed by a tag of its own kind and branches stand in
conditionals only, with the part without a test last. The reader of nodes knows the blocks that are open; what
the tags that follow must be for them to be closed in turn is `Closes`. No token that the reader takes changes
what remains to be closed (`NodeReader.closes_of_step`), so tokens that it takes from the start to a reader
without open blocks form a body.
-/

namespace Stencil

mutual

/-- The tags of a body: texts, outputs and whole blocks in any order. -/
inductive Body : List Tag → Prop where
  | nil : Body []
  | data {rest : List Tag} : Body rest → Body (.data :: rest)
  | output {path : String} {filters : List String} {rest : List Tag} :
      Body rest → Body (.output path filters :: rest)
  | cond {condition : String} {first others rest : List Tag} :
      Body first → Branches others → Body rest → Body (.openIf condition :: first ++ others ++ rest)
  | foreach {collection itemName : String} {inner rest : List Tag} :
      Body inner → Body rest → Body (.openForeach collection itemName :: inner ++ .closeForeach :: rest)
  | count {name start stop : String} {inner rest : List Tag} :
      Body inner → Body rest → Body (.openFor name start stop :: inner ++ .closeFor :: rest)

/-- The tags of a conditional behind its first branch: further branches, at most one last part, and the end. -/
inductive Branches : List Tag → Prop where
  | elseIf {condition : String} {body rest : List Tag} :
      Body body → Branches rest → Branches (.elseIf condition :: body ++ rest)
  | otherwise {body : List Tag} : Body body → Branches (.otherwise :: body ++ [.closeIf])
  | close : Branches [.closeIf]

end

/-- What of an open block decides which tags may close it. -/
inductive Frame where
  | branch
  | otherwise
  | foreach
  | count

/-- The frame of an open block. -/
def OpenBlock.frame (b : OpenBlock) : Frame :=
  match b.state with
  | .branch _ _ => .branch
  | .otherwise _ _ => .otherwise
  | .foreach _ _ => .foreach
  | .count _ _ _ => .count

/-- The tags carry on the innermost open block, close it, do so with the next one, and end in a body outside
of all blocks. -/
inductive Closes : List Frame → List Tag → Prop where
  | outside {tags : List Tag} : Body tags → Closes [] tags
  | branch {outer : List Frame} {body rest after : List Tag} : Body body → Branches rest → Closes outer after →
      Closes (.branch :: outer) (body ++ rest ++ after)
  | otherwise {outer : List Frame} {body after : List Tag} : Body body → Closes outer after →
      Closes (.otherwise :: outer) (body ++ .closeIf :: after)
  | foreach {outer : List Frame} {body after : List Tag} : Body body → Closes outer after →
      Closes (.foreach :: outer) (body ++ .closeForeach :: after)
  | count {outer : List Frame} {body after : List Tag} : Body body → Closes outer after →
      Closes (.count :: outer) (body ++ .closeFor :: after)

/-- What can stand in front of any body can stand in front of what closes open blocks. -/
theorem Closes.prepend {frames : List Frame} {tags : List Tag} (closes : Closes frames tags) (unit : List Tag)
    (whole : ∀ body, Body body → Body (unit ++ body)) : Closes frames (unit ++ tags) := by
  cases closes with
  | outside body => exact .outside (whole _ body)
  | branch body rest after =>
    rw [← List.append_assoc, ← List.append_assoc]
    exact .branch (whole _ body) rest after
  | otherwise body after =>
    rw [← List.append_assoc]
    exact .otherwise (whole _ body) after
  | foreach body after =>
    rw [← List.append_assoc]
    exact .foreach (whole _ body) after
  | count body after =>
    rw [← List.append_assoc]
    exact .count (whole _ body) after

namespace NodeReader

variable {ctx : ReadContext} {r r' : NodeReader} {t : Token}

/-- The frames of the open blocks, innermost first. -/
def frames (r : NodeReader) : List Frame :=
  r.blocks.map OpenBlock.frame

theorem frames_add (r : NodeReader) (node : Node) : (r.add node).frames = r.frames := by
  obtain ⟨_ | ⟨b, outer⟩, nodes⟩ := r <;> rfl

/-! ## What one token can do -/

theorem nextBranch_eq_ok {next : List (Expr × List Node) → Except Malformed BlockState}
    (h : nextBranch ctx r t next = .ok r') :
    ∃ b outer before test state, r.blocks = b :: outer ∧ b.state = .branch before test
      ∧ next ((test, b.nodes.reverse) :: before) = .ok state
      ∧ r' = { r with blocks := { b with state := state, nodes := [] } :: outer } := by
  unfold nextBranch at h
  split at h
  · cases h
  · next b outer blocks =>
    split at h
    · next before test branch =>
      obtain ⟨state, found, rfl⟩ := map_eq_ok_iff.1 h
      exact ⟨b, outer, before, test, state, blocks, branch, found, rfl⟩
    · cases h
    · cases h

theorem close_eq_ok {kind : BlockKind} (h : close ctx r t kind = .ok r') :
    ∃ b outer node, r.blocks = b :: outer ∧ b.kind = kind ∧ b.finished = .ok node
      ∧ r' = add { r with blocks := outer } node := by
  unfold close at h
  split at h
  · cases h
  · next b outer blocks =>
    split at h
    · next same =>
      obtain ⟨node, finished, rfl⟩ := map_eq_ok_iff.1 h
      exact ⟨b, outer, node, blocks, same, finished, rfl⟩
    · cases h

theorem frames_of_blocks {b : OpenBlock} {outer : List OpenBlock} (blocks : r.blocks = b :: outer) :
    r.frames = b.frame :: outer.map OpenBlock.frame := by
  rw [frames, blocks, List.map_cons]

theorem frame_of_kind {b : OpenBlock} {kind : BlockKind} (same : b.kind = kind) :
    match kind with
    | .cond => b.frame = .branch ∨ b.frame = .otherwise
    | .foreach => b.frame = .foreach
    | .count => b.frame = .count := by
  subst same
  obtain ⟨opening, state, nodes⟩ := b
  cases state with
  | branch => exact .inl rfl
  | otherwise => exact .inr rfl
  | foreach => rfl
  | count => rfl

/-- If the tags behind a token that the reader takes close what is open behind it, then together with its own
they close what is open in front of it. -/
theorem closes_of_step (h : step ctx r t = .ok r') (unfinished : t.tag ≠ .finish) {tags : List Tag}
    (closes : Closes r'.frames tags) : Closes r.frames (t.tag :: tags) := by
  unfold step at h
  split at h
  · next data =>
    obtain rfl := Except.ok.inj h
    rw [frames_add] at closes
    rw [data]
    exact closes.prepend [.data] fun _ => .data
  · next path filters output =>
    obtain ⟨node, -, rfl⟩ := map_eq_ok_iff.1 h
    rw [frames_add] at closes
    rw [output]
    exact closes.prepend [.output path filters] fun _ => .output
  · next condition opens =>
    obtain ⟨test, -, rfl⟩ := map_eq_ok_iff.1 h
    rw [opens]
    cases closes with
    | @branch _ body rest after isBody isRest closes =>
      have whole : Closes r.frames _ :=
        closes.prepend (.openIf condition :: body ++ rest) fun _ => .cond isBody isRest
      simpa using whole
  · next condition opens =>
    obtain ⟨b, outer, before, test, state, blocks, branch, found, rfl⟩ := nextBranch_eq_ok h
    obtain ⟨test', -, rfl⟩ := map_eq_ok_iff.1 found
    rw [opens, frames_of_blocks blocks, show b.frame = .branch by rw [OpenBlock.frame, branch]]
    cases closes with
    | @branch _ body rest after isBody isRest closes =>
      have branches : Branches (.elseIf condition :: body ++ rest) := .elseIf isBody isRest
      simpa using Closes.branch .nil branches closes
  · next opens =>
    obtain ⟨b, outer, before, test, state, blocks, branch, found, rfl⟩ := nextBranch_eq_ok h
    obtain rfl := Except.ok.inj found
    rw [opens, frames_of_blocks blocks, show b.frame = .branch by rw [OpenBlock.frame, branch]]
    cases closes with
    | @otherwise _ body after isBody closes =>
      have branches : Branches (.otherwise :: body ++ [.closeIf]) := .otherwise isBody
      simpa using Closes.branch .nil branches closes
  · next collection itemName opens =>
    obtain rfl := Except.ok.inj h
    rw [opens]
    cases closes with
    | @foreach _ body after isBody closes =>
      have unit : ∀ rest, Body rest →
          Body ((.openForeach collection itemName :: body ++ [.closeForeach]) ++ rest) := by
        intro rest isRest
        simpa using Body.foreach isBody isRest
      have whole : Closes r.frames _ := closes.prepend _ unit
      simpa using whole
  · next name start stop opens =>
    obtain rfl := Except.ok.inj h
    rw [opens]
    cases closes with
    | @count _ body after isBody closes =>
      have unit : ∀ rest, Body rest → Body ((.openFor name start stop :: body ++ [.closeFor]) ++ rest) := by
        intro rest isRest
        simpa using Body.count isBody isRest
      have whole : Closes r.frames _ := closes.prepend _ unit
      simpa using whole
  · next ends =>
    obtain ⟨b, outer, node, blocks, kind, -, rfl⟩ := close_eq_ok h
    rw [frames_add] at closes
    rw [ends, frames_of_blocks blocks]
    rcases frame_of_kind kind with frame | frame
    · rw [frame]
      exact .branch .nil .close closes
    · rw [frame]
      exact .otherwise .nil closes
  · next ends =>
    obtain ⟨b, outer, node, blocks, kind, -, rfl⟩ := close_eq_ok h
    rw [frames_add] at closes
    rw [ends, frames_of_blocks blocks, show b.frame = .foreach from frame_of_kind kind]
    exact .foreach .nil closes
  · next ends =>
    obtain ⟨b, outer, node, blocks, kind, -, rfl⟩ := close_eq_ok h
    rw [frames_add] at closes
    rw [ends, frames_of_blocks blocks, show b.frame = .count from frame_of_kind kind]
    exact .count .nil closes
  · next finish => exact absurd finish unfinished

/-- Tokens that lead the reader to where no block is open close all blocks. -/
theorem closes_of_foldlM {tokens : List Token} (h : tokens.foldlM (step ctx) r = .ok r')
    (closed : r'.blocks = []) (unfinished : ∀ t ∈ tokens, t.tag ≠ .finish) :
    Closes r.frames (tokens.map Token.tag) := by
  induction tokens generalizing r with
  | nil =>
    obtain rfl := Except.ok.inj h
    rw [frames, closed]
    exact .outside .nil
  | cons t rest ih =>
    rw [List.foldlM_cons] at h
    obtain ⟨next, first, later⟩ := bind_eq_ok_iff.1 h
    have closes := ih later fun t mem => unfinished t (List.mem_cons_of_mem _ mem)
    exact closes_of_step first (unfinished t List.mem_cons_self) closes

end NodeReader

end Stencil
