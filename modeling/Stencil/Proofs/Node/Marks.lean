import Stencil.Proofs.Node.Forms
import Stencil.Proofs.Number.Integers

/-!
# What tags leave behind in a tree

Read from left to right, a tree shows one mark for each tag that it was formed by, with everything that the
tree keeps of the tag. Only an `else` with nothing behind it leaves no mark, as `Forms.marks` says.
-/

namespace Stencil

/-- What a tag leaves behind in a tree. -/
inductive Mark where
  | data (position : Position) (text : String)
  | output (position : Position) (expr : Expr) (source : String) (escape : Bool)
  | openIf (position : Position) (test : Expr)
  | elseIf (test : Expr)
  | otherwise
  | closeIf
  | openForeach (position : Position) (collection : List String) (itemName : String)
  | closeForeach
  | openFor (position : Position) (name : String) (start stop : Int)
  | closeFor

/-- Does the mark hold what the token says, at the place where it stands? -/
def Mark.Of (ctx : ReadContext) (t : Token) : Mark → Prop
  | .data position text => t.tag = .data ∧ position = t.position ∧ text = t.text
  | .output position expr source escape =>
    ∃ path filters, t.tag = .output path filters ∧ position = t.position
      ∧ expr = Expr.pipeline t.position (.path t.position (splitPath path)) filters ∧ source = t.text
      ∧ escape = ctx.escape
  | .openIf position test =>
    ∃ condition, ∃ phrase : Condition.Phrase, t.tag = .openIf condition ∧ position = t.position
      ∧ phrase.Writes condition ∧ test = phrase.expr t.position
  | .elseIf test =>
    ∃ condition, ∃ phrase : Condition.Phrase, t.tag = .elseIf condition ∧ phrase.Writes condition
      ∧ test = phrase.expr t.position
  | .otherwise => t.tag = .otherwise
  | .closeIf => t.tag = .closeIf
  | .openForeach position collection itemName =>
    ∃ path, t.tag = .openForeach path itemName ∧ position = t.position ∧ collection = splitPath path
  | .closeForeach => t.tag = .closeForeach
  | .openFor position name start stop =>
    ∃ first last, t.tag = .openFor name first last ∧ position = t.position
      ∧ OpenBlock.bound first = .ok start ∧ OpenBlock.bound last = .ok stop
  | .closeFor => t.tag = .closeFor

/-- The marks of the last part of a conditional, given those of its nodes, and of its end. -/
def Mark.lastPart (empty : Bool) (marks : List Mark) : List Mark :=
  if empty then [.closeIf] else .otherwise :: marks ++ [.closeIf]

mutual

/-- The marks of a node, from left to right. -/
def Node.marks : Node → List Mark
  | .data position text => [.data position text]
  | .output position expr source escape => [.output position expr source escape]
  | .cond position branches otherwise =>
    Node.marksOfBranches (.openIf position) branches
      ++ Mark.lastPart otherwise.isEmpty (Node.marksOfAll otherwise)
  | .foreach position collection itemName body =>
    .openForeach position collection itemName :: Node.marksOfAll body ++ [.closeForeach]
  | .count position name start stop body =>
    .openFor position name start stop :: Node.marksOfAll body ++ [.closeFor]

/-- The marks of nodes, in order. -/
def Node.marksOfAll : List Node → List Mark
  | [] => []
  | node :: rest => Node.marks node ++ Node.marksOfAll rest

/-- The marks of branches; `mark` is that of the first test. -/
def Node.marksOfBranches (mark : Expr → Mark) : List (Expr × List Node) → List Mark
  | [] => []
  | (test, body) :: rest => mark test :: Node.marksOfAll body ++ Node.marksOfBranches .elseIf rest

end

theorem mem_lastPart {otherwise : List Node} {mark : Mark} (mem : mark ∈ Node.marksOfAll otherwise) :
    mark ∈ Mark.lastPart otherwise.isEmpty (Node.marksOfAll otherwise) := by
  cases otherwise with
  | nil => cases mem
  | cons node rest => simp [Mark.lastPart, mem]

/-- The tokens without each `else` that stands directly in front of its `endif`. -/
def withoutEmptyElse : List Token → List Token
  | [] => []
  | t :: rest =>
    if t.tag = .otherwise ∧ rest.head?.map Token.tag = some .closeIf then withoutEmptyElse rest
    else t :: withoutEmptyElse rest

theorem withoutEmptyElse_cons {t : Token} (kept : t.tag ≠ .otherwise) (rest : List Token) :
    withoutEmptyElse (t :: rest) = t :: withoutEmptyElse rest :=
  if_neg fun h => kept h.1

theorem mem_of_mem_withoutEmptyElse {tokens : List Token} {t : Token} (mem : t ∈ withoutEmptyElse tokens) :
    t ∈ tokens := by
  fun_induction withoutEmptyElse tokens with
  | case1 => exact mem
  | case2 u rest _ ih => exact List.mem_cons_of_mem u (ih mem)
  | case3 u rest _ ih =>
    rcases List.mem_cons.1 mem with rfl | mem
    · exact List.mem_cons_self
    · exact List.mem_cons_of_mem u (ih mem)

variable {ctx : ReadContext}

/-- Tokens that form nodes begin with one that neither begins a last part nor ends a conditional. -/
theorem Forms.head {tokens : List Token} {nodes : List Node} (h : Forms ctx tokens nodes) :
    (tokens = [] ∧ nodes = []) ∨ ∃ t rest node more, tokens = t :: rest ∧ nodes = node :: more
      ∧ t.tag ≠ .closeIf := by
  cases h with
  | nil => exact .inl ⟨rfl, rfl⟩
  | data tag => exact .inr ⟨_, _, _, _, rfl, rfl, by simp [tag]⟩
  | output tag => exact .inr ⟨_, _, _, _, rfl, rfl, by simp [tag]⟩
  | cond tag => exact .inr ⟨_, _, _, _, rfl, rfl, by simp [tag]⟩
  | foreach tag => exact .inr ⟨_, _, _, _, rfl, rfl, by simp [tag]⟩
  | count tag => exact .inr ⟨_, _, _, _, rfl, rfl, by simp [tag]⟩

mutual

/-- The marks of nodes are those of the tokens that form them, up to an `else` with nothing behind it. -/
theorem Forms.marks {tokens : List Token} {nodes : List Node} (h : Forms ctx tokens nodes)
    (proper : ∀ t ∈ tokens, t.Proper) {after : List Token} {others : List Mark}
    (later : List.Forall₂ (Mark.Of ctx) (withoutEmptyElse after) others) :
    List.Forall₂ (Mark.Of ctx) (withoutEmptyElse (tokens ++ after)) (Node.marksOfAll nodes ++ others) := by
  match h with
  | .nil => exact later
  | .data tag rest =>
    rw [List.cons_append, withoutEmptyElse_cons (by simp [tag])]
    exact .cons ⟨tag, rfl, rfl⟩ (Forms.marks rest (List.forall_mem_cons.1 proper).2 later)
  | .output tag read rest =>
    obtain ⟨-, rfl⟩ := readOutput_eq_ok_iff.1 read
    rw [List.cons_append, withoutEmptyElse_cons (by simp [tag])]
    exact .cons ⟨_, _, tag, rfl, rfl, rfl, rfl⟩ (Forms.marks rest (List.forall_mem_cons.1 proper).2 later)
  | .cond tag read first branches rest =>
    obtain ⟨phrase, writes, -, -, rfl⟩ := readCondition_eq_ok_iff.1 read
    obtain ⟨proper, proper₃⟩ := List.forall_mem_append.1 proper
    obtain ⟨proper, proper₂⟩ := List.forall_mem_append.1 proper
    have marks₃ := Forms.marks rest proper₃ later
    have marks₂ := FormsBranches.marks branches proper₂ marks₃
    have marks₁ := Forms.marks first (List.forall_mem_cons.1 proper).2 marks₂
    simp only [List.cons_append, List.append_assoc, Node.marksOfAll, Node.marks, Node.marksOfBranches] at *
    rw [withoutEmptyElse_cons (by simp [tag])]
    exact .cons ⟨_, phrase, tag, rfl, writes, rfl⟩ marks₁
  | .foreach tag inner ends rest =>
    obtain ⟨proper₁, proper₂⟩ := List.forall_mem_append.1 proper
    have marks₂ := Forms.marks rest (List.forall_mem_cons.1 proper₂).2 later
    have closed := List.Forall₂.cons (R := Mark.Of ctx) (b := .closeForeach) ends marks₂
    rw [← withoutEmptyElse_cons (by simp [ends])] at closed
    have marks₁ := Forms.marks inner (List.forall_mem_cons.1 proper₁).2 closed
    simp only [List.cons_append, List.append_assoc, List.nil_append, Node.marksOfAll, Node.marks] at *
    rw [withoutEmptyElse_cons (by simp [tag])]
    exact .cons ⟨_, tag, rfl, rfl⟩ marks₁
  | .count tag isFirst isLast inner ends rest =>
    obtain ⟨proper₁, proper₂⟩ := List.forall_mem_append.1 proper
    have marks₂ := Forms.marks rest (List.forall_mem_cons.1 proper₂).2 later
    have closed := List.Forall₂.cons (R := Mark.Of ctx) (b := .closeFor) ends marks₂
    rw [← withoutEmptyElse_cons (by simp [ends])] at closed
    have marks₁ := Forms.marks inner (List.forall_mem_cons.1 proper₁).2 closed
    simp only [List.cons_append, List.append_assoc, List.nil_append, Node.marksOfAll, Node.marks] at *
    rw [withoutEmptyElse_cons (by simp [tag])]
    exact .cons ⟨_, _, tag, rfl, isFirst, isLast⟩ marks₁

theorem FormsBranches.marks {tokens : List Token} {branches : List (Expr × List Node)} {otherwise : List Node}
    (h : FormsBranches ctx tokens branches otherwise)
    (proper : ∀ t ∈ tokens, t.Proper) {after : List Token} {others : List Mark}
    (later : List.Forall₂ (Mark.Of ctx) (withoutEmptyElse after) others) :
    List.Forall₂ (Mark.Of ctx) (withoutEmptyElse (tokens ++ after))
      (Node.marksOfBranches .elseIf branches ++ Mark.lastPart otherwise.isEmpty (Node.marksOfAll otherwise)
        ++ others) := by
  match h with
  | .elseIf tag read inner rest =>
    obtain ⟨phrase, writes, -, -, rfl⟩ := readCondition_eq_ok_iff.1 read
    obtain ⟨proper₁, proper₂⟩ := List.forall_mem_append.1 proper
    have marks₂ := FormsBranches.marks rest proper₂ later
    have marks₁ := Forms.marks inner (List.forall_mem_cons.1 proper₁).2 marks₂
    simp only [List.cons_append, List.append_assoc, Node.marksOfBranches] at *
    rw [withoutEmptyElse_cons (by simp [tag])]
    exact .cons ⟨_, phrase, tag, writes, rfl⟩ marks₁
  | @FormsBranches.otherwise _ t e part body tag inner ends =>
    have closed := List.Forall₂.cons (R := Mark.Of ctx) (b := .closeIf) ends later
    rw [← withoutEmptyElse_cons (by simp [ends])] at closed
    have proper' := (List.forall_mem_cons.1 (List.forall_mem_append.1 proper).1).2
    have marks := Forms.marks inner proper' closed
    rcases inner.head with ⟨rfl, rfl⟩ | ⟨u, rest, node, more, rfl, rfl, other⟩
    · have dropped : withoutEmptyElse (t :: e :: after) = withoutEmptyElse (e :: after) :=
        if_pos ⟨tag, congrArg some ends⟩
      change List.Forall₂ (Mark.Of ctx) (withoutEmptyElse (t :: e :: after)) _
      rw [dropped]
      exact closed
    · have kept : withoutEmptyElse (t :: (u :: rest ++ e :: after))
          = t :: withoutEmptyElse (u :: rest ++ e :: after) := by
        refine if_neg ?_
        rintro ⟨-, next⟩
        exact other (Option.some.inj next)
      simp only [List.cons_append, List.append_assoc, List.nil_append] at *
      rw [kept]
      refine .cons tag ?_
      simpa using marks
  | .close ends =>
    rw [List.singleton_append, withoutEmptyElse_cons (by simp [ends])]
    exact .cons ends later

end

theorem Forms.forall₂_marks {tokens : List Token} {nodes : List Node} (h : Forms ctx tokens nodes)
    (proper : ∀ t ∈ tokens, t.Proper) :
    List.Forall₂ (Mark.Of ctx) (withoutEmptyElse tokens) (Node.marksOfAll nodes) := by
  have marks : List.Forall₂ (Mark.Of ctx) (withoutEmptyElse (tokens ++ [])) (Node.marksOfAll nodes ++ []) :=
    h.marks proper .nil
  simpa using marks

/-- Every mark of what is read from a source holds what some token says, which is spelled as it should be and can
be read. -/
theorem exists_token_of_mark {source : String} {nodes : List Node} (read : Node.read ctx source = .ok nodes)
    {mark : Mark} (mem : mark ∈ Node.marksOfAll nodes) :
    ∃ tokens, Token.read ctx.origin source = .ok tokens
      ∧ ∃ t ∈ tokens, t.Proper ∧ t.Readable ctx ∧ mark.Of ctx t := by
  obtain ⟨body, eof, tokenized, -, proper, forms⟩ := Node.exists_forms_of_read read
  obtain ⟨t, kept, of⟩ := exists_of_forall₂ (forms.forall₂_marks proper) mem
  have inside := mem_of_mem_withoutEmptyElse kept
  refine ⟨_, tokenized, t, List.mem_append_left _ inside, proper t inside, ?_, of⟩
  exact forms.readable t inside

end Stencil
