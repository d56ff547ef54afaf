import Stencil.Proofs.Node.Writing
import Stencil.Proofs.Token.Joining

/-!
# Nodes of sources put together

Tokens in a row form the nodes of each in a row. The other way round a row of tokens may be taken apart where texts
begin or end it, since a text neither opens nor closes a block (`Forms.split`). Where the tokens stand matters only for
the places that the tree keeps (`Forms.moved`).
-/

namespace Stencil

open NodeReader

variable {ctx : ReadContext}

/-! ## Rows of tokens -/

theorem Forms.append {tokens others : List Token} {nodes more : List Node} (h : Forms ctx tokens nodes)
    (h' : Forms ctx others more) : Forms ctx (tokens ++ others) (nodes ++ more) := by
  cases h with
  | nil => exact h'
  | data tag rest => exact .data tag (rest.append h')
  | output tag read rest => exact .output tag read (rest.append h')
  | cond tag read first branches rest =>
    rw [List.append_assoc]
    exact .cond tag read first branches (rest.append h')
  | foreach tag inner ends rest =>
    rw [List.append_assoc]
    exact .foreach tag inner ends (rest.append h')
  | count tag isFirst isLast inner ends rest =>
    rw [List.append_assoc]
    exact .count tag isFirst isLast inner ends (rest.append h')

theorem Forms.unique {tokens : List Token} {nodes nodes' : List Node} (h : Forms ctx tokens nodes)
    (h' : Forms ctx tokens nodes') : nodes = nodes' := by
  have same := Except.ok.inj ((h.runs .start).symm.trans (h'.runs .start))
  rw [NodeReader.start, foldl_add_outside, foldl_add_outside] at same
  simpa using congrArg NodeReader.nodes same

/-- Texts form the nodes of these. -/
theorem forms_of_data {tokens : List Token} (data : ∀ t ∈ tokens, t.tag = .data) :
    Forms ctx tokens (tokens.map fun t => .data t.position t.text) := by
  induction tokens with
  | nil => exact .nil
  | cons t rest ih =>
    obtain ⟨isData, later⟩ := List.forall_mem_cons.1 data
    exact .data isData (ih later)

theorem blocks_add_eq_nil_iff {r : NodeReader} {node : Node} : (r.add node).blocks = [] ↔ r.blocks = [] := by
  unfold add
  split
  · next none => simp [none]
  · next b outer some => simp [some]

/-- Texts neither open nor close a block. -/
theorem blocks_eq_nil_iff_of_data {tokens : List Token} {r r' : NodeReader} (ran : Runs ctx r tokens r')
    (data : ∀ t ∈ tokens, t.tag = .data) : r'.blocks = [] ↔ r.blocks = [] := by
  induction tokens generalizing r with
  | nil =>
    obtain rfl := Except.ok.inj ran
    rfl
  | cons t rest ih =>
    obtain ⟨isData, later⟩ := List.forall_mem_cons.1 data
    obtain ⟨next, stepped, ran⟩ := runs_cons.1 ran
    rw [step, isData] at stepped
    obtain rfl := Except.ok.inj stepped
    rw [ih ran later, blocks_add_eq_nil_iff]

/-- Tokens of nodes may be taken apart where texts begin or end them. -/
theorem Forms.split {front back : List Token} {nodes : List Node} (h : Forms ctx (front ++ back) nodes)
    (unfinished : ∀ t ∈ front ++ back, t.tag ≠ .finish)
    (data : (∀ t ∈ front, t.tag = .data) ∨ ∀ t ∈ back, t.tag = .data) :
    ∃ first last, nodes = first ++ last ∧ Forms ctx front first ∧ Forms ctx back last := by
  have ran := h.runs .start
  rw [NodeReader.start, foldl_add_outside, List.append_nil] at ran
  obtain ⟨between, ranFront, ranBack⟩ := runs_append.1 ran
  obtain ⟨unfinishedFront, unfinishedBack⟩ := List.forall_mem_append.1 unfinished
  have closed : between.blocks = [] := by
    rcases data with data | data
    · exact (blocks_eq_nil_iff_of_data ranFront data).2 rfl
    · exact (blocks_eq_nil_iff_of_data ranBack data).1 rfl
  obtain ⟨first, formsFirst, rfl⟩ := exists_forms_of_runs ranFront closed unfinishedFront
  obtain ⟨last, formsLast, same⟩ := exists_forms_of_runs ranBack rfl unfinishedBack
  refine ⟨first, last, ?_, formsFirst, formsLast⟩
  have reversed : nodes.reverse = last.reverse ++ (first.reverse ++ []) := congrArg NodeReader.nodes same
  apply List.reverse_injective
  simpa using reversed

/-! ## Tokens at other places -/

theorem readOutput_moved {t : Token} (u : Token) {path : String} {filters : List String} {node : Node}
    (read : readOutput ctx t path filters = .ok node) :
    ∃ node', readOutput ctx u path filters = .ok node' ∧ node'.bare = node.bare := by
  obtain ⟨known, rfl⟩ := readOutput_eq_ok_iff.1 read
  refine ⟨_, readOutput_eq_ok_iff.2 ⟨known, rfl⟩, ?_⟩
  simp only [Node.bare, bare_pipeline, Expr.bare]

theorem readCondition_moved {t : Token} (u : Token) {condition : String} {test : Expr}
    (read : readCondition ctx t condition = .ok test) :
    ∃ test', readCondition ctx u condition = .ok test' ∧ test'.bare = test.bare := by
  obtain ⟨phrase, writes, known, convertible, rfl⟩ := readCondition_eq_ok_iff.1 read
  refine ⟨_, readCondition_eq_ok_iff.2 ⟨phrase, writes, known, convertible, rfl⟩, ?_⟩
  rw [bare_phrase, bare_phrase]

mutual

/-- Tokens that say the same at other places form the same nodes up to places. -/
theorem Forms.moved {tokens others : List Token} {nodes : List Node} (h : Forms ctx tokens nodes)
    (alike : List.Forall₂ Token.Alike others tokens) :
    ∃ nodes', Forms ctx others nodes' ∧ Node.bareAll nodes' = Node.bareAll nodes := by
  match h with
  | .nil =>
    obtain rfl := List.forall₂_nil_right_iff.1 alike
    exact ⟨[], .nil, rfl⟩
  | .data tag rest =>
    obtain ⟨u, later, ⟨tag', text⟩, alikeRest, rfl⟩ := List.forall₂_cons_right_iff.1 alike
    obtain ⟨nodes', forms, same⟩ := Forms.moved rest alikeRest
    refine ⟨_, .data (tag'.trans tag) forms, ?_⟩
    simp only [Node.bareAll, Node.bare, text, same]
  | .output tag read rest =>
    obtain ⟨u, later, ⟨tag', -⟩, alikeRest, rfl⟩ := List.forall₂_cons_right_iff.1 alike
    obtain ⟨nodes', forms, same⟩ := Forms.moved rest alikeRest
    obtain ⟨node', read', bare⟩ := readOutput_moved u read
    refine ⟨_, .output (tag'.trans tag) read' forms, ?_⟩
    simp only [Node.bareAll, bare, same]
  | .cond tag read first branches rest =>
    obtain ⟨front, others₃, rfl, alikeFront, alike₃⟩ := exists_of_forall₂_append alike
    obtain ⟨opened, others₂, rfl, alikeOpened, alike₂⟩ := exists_of_forall₂_append alikeFront
    obtain ⟨u, others₁, ⟨tag', -⟩, alike₁, rfl⟩ := List.forall₂_cons_right_iff.1 alikeOpened
    obtain ⟨test, read', bare⟩ := readCondition_moved u read
    obtain ⟨body, forms₁, same₁⟩ := Forms.moved first alike₁
    obtain ⟨branches', otherwise', forms₂, same₂, last⟩ := FormsBranches.moved branches alike₂
    obtain ⟨nodes', forms₃, same₃⟩ := Forms.moved rest alike₃
    refine ⟨_, .cond (tag'.trans tag) read' forms₁ forms₂ forms₃, ?_⟩
    simp only [Node.bareAll, Node.bare, Node.bareBranches, bare, same₁, same₂, same₃, last]
  | .foreach tag inner ends rest =>
    obtain ⟨u, others₁, e, others₂, rfl, ⟨tag', -⟩, alike₁, ⟨ends', -⟩, alike₂⟩ := exists_of_forall₂_block alike
    obtain ⟨body, forms₁, same₁⟩ := Forms.moved inner alike₁
    obtain ⟨nodes', forms₂, same₂⟩ := Forms.moved rest alike₂
    refine ⟨_, .foreach (tag'.trans tag) forms₁ (ends'.trans ends) forms₂, ?_⟩
    simp only [Node.bareAll, Node.bare, same₁, same₂]
  | .count tag isFirst isLast inner ends rest =>
    obtain ⟨u, others₁, e, others₂, rfl, ⟨tag', -⟩, alike₁, ⟨ends', -⟩, alike₂⟩ := exists_of_forall₂_block alike
    obtain ⟨body, forms₁, same₁⟩ := Forms.moved inner alike₁
    obtain ⟨nodes', forms₂, same₂⟩ := Forms.moved rest alike₂
    refine ⟨_, .count (tag'.trans tag) isFirst isLast forms₁ (ends'.trans ends) forms₂, ?_⟩
    simp only [Node.bareAll, Node.bare, same₁, same₂]

theorem FormsBranches.moved {tokens others : List Token} {branches : List (Expr × List Node)}
    {otherwise : List Node} (h : FormsBranches ctx tokens branches otherwise)
    (alike : List.Forall₂ Token.Alike others tokens) :
    ∃ branches' otherwise', FormsBranches ctx others branches' otherwise'
      ∧ Node.bareBranches branches' = Node.bareBranches branches
      ∧ Node.bareAll otherwise' = Node.bareAll otherwise := by
  match h with
  | .elseIf tag read inner rest =>
    obtain ⟨front, others₂, rfl, alikeFront, alike₂⟩ := exists_of_forall₂_append alike
    obtain ⟨u, others₁, ⟨tag', -⟩, alike₁, rfl⟩ := List.forall₂_cons_right_iff.1 alikeFront
    obtain ⟨test, read', bare⟩ := readCondition_moved u read
    obtain ⟨body, forms₁, same₁⟩ := Forms.moved inner alike₁
    obtain ⟨branches', otherwise', forms₂, same₂, last⟩ := FormsBranches.moved rest alike₂
    refine ⟨_, otherwise', .elseIf (tag'.trans tag) read' forms₁ forms₂, ?_, last⟩
    simp only [Node.bareBranches, bare, same₁, same₂]
  | .otherwise tag inner ends =>
    obtain ⟨u, others₁, e, none, rfl, ⟨tag', -⟩, alike₁, ⟨ends', -⟩, alikeNone⟩ := exists_of_forall₂_block alike
    obtain rfl := List.forall₂_nil_right_iff.1 alikeNone
    obtain ⟨body, forms, same⟩ := Forms.moved inner alike₁
    exact ⟨[], body, .otherwise (tag'.trans tag) forms (ends'.trans ends), rfl, same⟩
  | .close ends =>
    obtain ⟨e, none, ⟨ends', -⟩, alikeNone, rfl⟩ := List.forall₂_cons_right_iff.1 alike
    obtain rfl := List.forall₂_nil_right_iff.1 alikeNone
    exact ⟨[], [], .close (ends'.trans ends), rfl, rfl⟩

end

end Stencil
