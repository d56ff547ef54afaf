import Stencil.Proofs.Html.Minifying
import Stencil.Proofs.Node.Prefixes
import Stencil.Proofs.Render.Stops

/-!
# Which line a failure is reported at

A filter that refuses its value is reported at the line that the expression remembers, which is that of its tag. Any
other failure, of a filter or of a number with too many digits, is reported at the line that is marked while the
expression is evaluated: that of the tag, too, but for the test of a further branch that of the conditional
(`Token.blamed`).
-/

namespace Stencil

namespace Expr

/-- Has every part of the expression the given place? -/
def Placed (place : Position) : Expr → Prop
  | const p _ | path p _ => p = place
  | filter p operand _ | not p operand => p = place ∧ operand.Placed place
  | compare p left _ right => p = place ∧ left.Placed place ∧ right.Placed place

theorem placed_pipeline (operand : Expr) {place : Position} (placed : operand.Placed place) (names : List String) :
    (pipeline place operand names).Placed place := by
  induction names generalizing operand with
  | nil => exact placed
  | cons name rest ih => exact ih _ ⟨rfl, placed⟩

/-- In the course of the evaluation something raises the cause: a filter, or a number that is not converted, in a path or
for a comparison. What is evaluated before it has a value. -/
inductive Raises (input : RenderInput) (scopes : List Scope) (site : Option Site) (cause : Fault) : Expr → Prop
  | here {place : Position} {operand : Expr} {name : String} {v : Value}
    (evaluated : operand.evaluate input scopes site = .ok v) (raised : applyFilter input.filters v name = .error cause) :
    Raises input scopes site cause (.filter place operand name)
  | path {place : Position} {segments : List String} (raised : Value.resolve input.data scopes segments = .error cause) :
    Raises input scopes site cause (.path place segments)
  | compared {place : Position} {left right : Expr} {equal : Bool} {v w : Value}
    (first : left.evaluate input scopes site = .ok v) (second : right.evaluate input scopes site = .ok w)
    (raised : v.compare w = .error cause) : Raises input scopes site cause (.compare place left equal right)
  | filter {place : Position} {operand : Expr} {name : String} (deeper : Raises input scopes site cause operand) :
    Raises input scopes site cause (.filter place operand name)
  | not {place : Position} {operand : Expr} (deeper : Raises input scopes site cause operand) :
    Raises input scopes site cause (.not place operand)
  | left {place : Position} {left right : Expr} {equal : Bool} (deeper : Raises input scopes site cause left) :
    Raises input scopes site cause (.compare place left equal right)
  | right {place : Position} {left right : Expr} {equal : Bool} {v : Value}
    (evaluated : left.evaluate input scopes site = .ok v) (deeper : Raises input scopes site cause right) :
    Raises input scopes site cause (.compare place left equal right)

/-- The fault that the evaluation of a filter reports for the cause that the filter raises. -/
def reported (site : Option Site) (place : Position) (operand : Expr) (name : String) (v : Value) : Fault → Fault
  | .filterValue f w expected => filterFailure site place operand name v (Fault.filterValue f w expected).message
  | cause => cause

variable {input : RenderInput} {scopes : List Scope} {site : Option Site} {cause fault : Fault} {expr : Expr}
  {place : Position}

/-- Only a filter raises what is a fault of a template. -/
theorem Raises.exists_applyFilter (raises : Raises input scopes site cause expr) (own : cause.isTemplateFault) :
    ∃ v name, applyFilter input.filters v name = .error cause := by
  induction raises with
  | here _ raised => exact ⟨_, _, raised⟩
  | path raised =>
    obtain ⟨shown, refusal, rfl⟩ := Value.exists_unconverted_of_resolve raised
    cases own
  | compared _ _ raised =>
    obtain ⟨number, -, -, u, -, rfl⟩ := Value.exists_number_of_compare raised
    cases own
  | filter _ ih | not _ ih | left _ ih | right _ _ ih => exact ih

end Expr

/-- At the visit something raises the cause: in the course of the evaluation, or when the value is printed. -/
inductive Visit.Raises (input : RenderInput) (site : Option Site) (cause : Fault) (visit : Visit) : Prop
  | evaluating (raises : visit.expr.Raises input visit.scopes site cause) : Visit.Raises input site cause visit
  | printing {v : Value} (printed : visit.printed) (evaluated : visit.expr.evaluate input visit.scopes site = .ok v)
    (raised : v.print = .error cause) : Visit.Raises input site cause visit

namespace Visit

variable {input : RenderInput} {site : Option Site} {cause fault : Fault} {visit : Visit} {place : Position}

theorem Raises.exists_applyFilter (raises : visit.Raises input site cause) (own : cause.isTemplateFault) :
    ∃ v name, applyFilter input.filters v name = .error cause := by
  cases raises with
  | evaluating raises => exact raises.exists_applyFilter own
  | printing _ _ raised =>
    obtain ⟨u, -, rfl⟩ := Value.exists_unwritten_of_print raised
    cases own

end Visit

namespace Condition

variable {place : Position}

theorem Operand.placed (operand : Operand) : (operand.expr place).Placed place := by
  cases operand with
  | quoted | number | constant => exact rfl
  | path chars filters => exact Expr.placed_pipeline (.path place _) rfl _

theorem Phrase.placed (phrase : Phrase) : (phrase.expr place).Placed place := by
  have comparison : (phrase.toComparison.expr place).Placed place := by
    unfold Comparison.expr
    split
    · exact Operand.placed _
    · exact ⟨rfl, Operand.placed _, Operand.placed _⟩
  unfold Phrase.expr
  split
  · exact ⟨rfl, comparison⟩
  · exact comparison

end Condition

/-! ## Tokens -/

/-- The token holds the expression. -/
def Token.Holds (ctx : ReadContext) (t : Token) (expr : Expr) : Prop :=
  ∃ mark : Mark, mark.Of ctx t ∧ mark.expr? = some expr

variable {ctx : ReadContext}

/-- What a token holds stands where the token begins. -/
theorem Token.Holds.placed {t : Token} {expr : Expr} (holds : t.Holds ctx expr) : expr.Placed t.position := by
  obtain ⟨mark, of, is⟩ := holds
  cases mark with
  | output place e source escape =>
    obtain ⟨path, filters, -, rfl, same, -, -⟩ := of
    obtain rfl := Option.some.inj is
    rw [same]
    exact Expr.placed_pipeline (.path _ _) rfl filters
  | openIf place test =>
    obtain ⟨condition, phrase, -, rfl, -, same⟩ := of
    obtain rfl := Option.some.inj is
    exact same ▸ phrase.placed
  | elseIf test =>
    obtain ⟨condition, phrase, -, -, same⟩ := of
    obtain rfl := Option.some.inj is
    exact same ▸ phrase.placed
  | openForeach place collection itemName =>
    obtain ⟨path, -, rfl, -⟩ := of
    obtain rfl := Option.some.inj is
    exact rfl
  | _ => cases is

/-- The token whose line is marked while rendering evaluates what the token `t` holds, given the blocks that are open
in front of it: for a further branch the one that opens the conditional. -/
def Token.marker (blocks : List (BlockKind × Token)) (t : Token) : Token :=
  match t.tag, blocks with
  | .elseIf _, (_, opening) :: _ => opening
  | _, _ => t

theorem Token.marker_of_ne {t : Token} (other : ∀ condition, t.tag ≠ .elseIf condition)
    (blocks : List (BlockKind × Token)) : t.marker blocks = t := by
  unfold marker
  split
  · next tag => exact absurd tag (other _)
  · rfl

theorem Token.marker_elseIf {t : Token} {condition : String} (tag : t.tag = .elseIf condition) (kind : BlockKind)
    (opening : Token) (outer : List (BlockKind × Token)) : t.marker ((kind, opening) :: outer) = opening := by
  unfold marker
  rw [tag]

/-- One of the tokens holds the expression of the stop and decides what is marked there, if `blocks` are open in
front of the tokens. -/
def Stop.In (ctx : ReadContext) (blocks : List (BlockKind × Token)) (tokens : List Token) (stop : Stop) : Prop :=
  ∃ before t after, tokens = before ++ t :: after ∧ t.Holds ctx stop.expr
    ∧ stop.marked = (t.marker (before.foldl openBehind blocks)).position

namespace Stop.In

variable {blocks : List (BlockKind × Token)} {tokens : List Token} {stop : Stop}

theorem append (inside : stop.In ctx blocks tokens) (more : List Token) : stop.In ctx blocks (tokens ++ more) := by
  obtain ⟨before, t, after, rfl, rest⟩ := inside
  exact ⟨before, t, after ++ more, by simp, rest⟩

theorem behind (front : List Token) {between : List (BlockKind × Token)}
    (left : front.foldl openBehind blocks = between) (inside : stop.In ctx between tokens) :
    stop.In ctx blocks (front ++ tokens) := by
  obtain ⟨before, t, after, rfl, holds, marked⟩ := inside
  exact ⟨front ++ before, t, after, by simp, holds, by rw [marked, List.foldl_append, left]⟩

theorem here {t : Token} {rest : List Token} (holds : t.Holds ctx stop.expr)
    (marked : stop.marked = (t.marker blocks).position) : stop.In ctx blocks (t :: rest) :=
  ⟨[], t, rest, rfl, holds, marked⟩

theorem here_of_ne {t : Token} {rest : List Token} (holds : t.Holds ctx stop.expr)
    (other : ∀ condition, t.tag ≠ .elseIf condition) (marked : stop.marked = t.position) :
    stop.In ctx blocks (t :: rest) := by
  refine here holds ?_
  rw [marked, Token.marker_of_ne other]

end Stop.In

/-! ## Nodes and their tokens -/

section Open

variable {blocks : List (BlockKind × Token)} {t : Token} {tag : Tag} {kind : BlockKind}

theorem openBehind_of_opens (is : t.tag = tag) (opens : tag.opens? = some kind) :
    openBehind blocks t = (kind, t) :: blocks := by
  unfold openBehind
  rw [is, opens]

theorem openBehind_of_closes (is : t.tag = tag) (closes : tag.closes? = some kind) :
    openBehind blocks t = blocks.tail := by
  unfold openBehind
  rw [is, Tag.eq_closer closes]
  cases kind <;> rfl

theorem openBehind_of_none (is : t.tag = tag) (opens : tag.opens? = none) (closes : tag.closes? = none) :
    openBehind blocks t = blocks := by
  unfold openBehind
  rw [is, opens, closes]

end Open

mutual

/-- Tokens that form nodes close what they open. -/
theorem Forms.foldl_openBehind {tokens : List Token} {nodes : List Node} (h : Forms ctx tokens nodes)
    (blocks : List (BlockKind × Token)) : tokens.foldl openBehind blocks = blocks := by
  match h with
  | .nil => rfl
  | .data (t := t) tag rest | .output (t := t) tag _ rest =>
    have kept : openBehind blocks t = blocks := openBehind_of_none tag rfl rfl
    rw [List.foldl_cons, kept, Forms.foldl_openBehind rest]
  | .cond (t := t) tag _ first others rest =>
    have opened : openBehind blocks t = (.cond, t) :: blocks := openBehind_of_opens tag rfl
    rw [List.foldl_append, List.foldl_append, List.foldl_cons, opened, Forms.foldl_openBehind first,
      FormsBranches.foldl_openBehind others, Forms.foldl_openBehind rest]
  | .foreach (t := t) (e := e) tag inner ends rest =>
    have opened : openBehind blocks t = (.foreach, t) :: blocks := openBehind_of_opens tag rfl
    have closed : openBehind ((.foreach, t) :: blocks) e = blocks := openBehind_of_closes ends rfl
    rw [List.foldl_append, List.foldl_cons, List.foldl_cons, opened, Forms.foldl_openBehind inner, closed,
      Forms.foldl_openBehind rest]
  | .count (t := t) (e := e) tag _ _ inner ends rest =>
    have opened : openBehind blocks t = (.count, t) :: blocks := openBehind_of_opens tag rfl
    have closed : openBehind ((.count, t) :: blocks) e = blocks := openBehind_of_closes ends rfl
    rw [List.foldl_append, List.foldl_cons, List.foldl_cons, opened, Forms.foldl_openBehind inner, closed,
      Forms.foldl_openBehind rest]

theorem FormsBranches.foldl_openBehind {tokens : List Token} {branches : List (Expr × List Node)}
    {otherwise : List Node} (h : FormsBranches ctx tokens branches otherwise) (block : BlockKind × Token)
    (outer : List (BlockKind × Token)) : tokens.foldl openBehind (block :: outer) = outer := by
  match h with
  | .elseIf (t := t) tag _ inner rest =>
    have kept : openBehind (block :: outer) t = block :: outer := openBehind_of_none tag rfl rfl
    rw [List.foldl_append, List.foldl_cons, kept, Forms.foldl_openBehind inner, FormsBranches.foldl_openBehind rest]
  | .otherwise (t := t) (e := e) tag inner ends =>
    have kept : openBehind (block :: outer) t = block :: outer := openBehind_of_none tag rfl rfl
    have closed : openBehind (block :: outer) e = outer := openBehind_of_closes ends rfl
    rw [List.foldl_append, List.foldl_cons, List.foldl_cons, kept, Forms.foldl_openBehind inner, closed, List.foldl_nil]
  | .close (e := e) ends => exact openBehind_of_closes ends rfl

end

section Stops

variable {input : RenderInput} {site : Option Site} {stop : Stop}

theorem mem_stopsOfBranches_cons {position : Position} {test : Expr} {body : List Node}
    {rest : List (Expr × List Node)} {scopes : List Scope} {others : List Stop}
    (mem : stop ∈ Node.stopsOfBranches input site position ((test, body) :: rest) scopes others) :
    stop = ⟨⟨test, scopes, false⟩, position⟩ ∨ stop ∈ Node.stopsOfAll input site body scopes
      ∨ stop ∈ Node.stopsOfBranches input site position rest scopes others := by
  refine (List.mem_cons.1 mem).imp_right fun mem => ?_
  split at mem
  · split at mem
    · exact .inl mem
    · exact .inr mem
  · cases mem

theorem mem_stops_foreach {position : Position} {collection : List String} {name : String} {body : List Node}
    {scopes : List Scope} (mem : stop ∈ (Node.foreach position collection name body).stops input site scopes) :
    stop = ⟨⟨.path position collection, scopes, false⟩, position⟩
      ∨ ∃ scopes', stop ∈ Node.stopsOfAll input site body scopes' := by
  refine (List.mem_cons.1 mem).imp_right fun mem => ?_
  split at mem
  · obtain ⟨round, -, mem⟩ := List.mem_flatMap.1 mem
    exact ⟨_, mem⟩
  · cases mem

mutual

/-- Whatever rendering evaluates for nodes is held by one of the tokens that form them, which decides what is
marked. -/
theorem Forms.in_of_mem_stops {tokens : List Token} {nodes : List Node} (h : Forms ctx tokens nodes)
    (blocks : List (BlockKind × Token)) {scopes : List Scope} (mem : stop ∈ Node.stopsOfAll input site nodes scopes) :
    stop.In ctx blocks tokens := by
  match h with
  | .nil => cases mem
  | .data (t := t) tag rest =>
    have kept : openBehind blocks t = blocks := openBehind_of_none tag rfl rfl
    exact Stop.In.behind [t] kept (Forms.in_of_mem_stops rest blocks mem)
  | .output (t := t) tag read rest =>
    obtain ⟨-, rfl⟩ := readOutput_eq_ok_iff.1 read
    rcases List.mem_append.1 mem with mem | mem
    · obtain rfl := List.mem_singleton.1 mem
      exact .here_of_ne ⟨.output _ _ _ _, ⟨_, _, tag, rfl, rfl, rfl, rfl⟩, rfl⟩ (by simp [tag]) rfl
    · have kept : openBehind blocks t = blocks := openBehind_of_none tag rfl rfl
      exact Stop.In.behind [t] kept (Forms.in_of_mem_stops rest blocks mem)
  | .cond (t := t) tag read first others rest =>
    obtain ⟨phrase, writes, -, -, rfl⟩ := readCondition_eq_ok_iff.1 read
    have opened : openBehind blocks t = (.cond, t) :: blocks := openBehind_of_opens tag rfl
    have behindFirst := (congrArg (List.foldl openBehind · _) opened).trans (first.foldl_openBehind _)
    have behindOthers := (congrArg (List.foldl openBehind · _) behindFirst).trans (others.foldl_openBehind _ _)
    rcases List.mem_append.1 mem with mem | mem
    · refine Stop.In.append ?_ _
      rcases mem_stopsOfBranches_cons mem with rfl | mem | mem
      · exact .here_of_ne ⟨.openIf _ _, ⟨_, phrase, tag, rfl, writes, rfl⟩, rfl⟩ (by simp [tag]) rfl
      · exact Stop.In.append (Stop.In.behind [t] opened (Forms.in_of_mem_stops first _ mem)) _
      · exact Stop.In.behind (t :: _) behindFirst (FormsBranches.in_of_mem_stops others t blocks mem)
    · refine Stop.In.behind _ ?_ (Forms.in_of_mem_stops rest blocks mem)
      rwa [List.foldl_append]
  | .foreach (t := t) (e := e) tag inner ends rest =>
    have opened : openBehind blocks t = (.foreach, t) :: blocks := openBehind_of_opens tag rfl
    have closed : openBehind ((.foreach, t) :: blocks) e = blocks := openBehind_of_closes ends rfl
    rcases List.mem_append.1 mem with mem | mem
    · refine Stop.In.append ?_ _
      rcases mem_stops_foreach mem with rfl | ⟨scopes', mem⟩
      · exact .here_of_ne ⟨.openForeach _ _ _, ⟨_, tag, rfl, rfl⟩, rfl⟩ (by simp [tag]) rfl
      · exact Stop.In.behind [t] opened (Forms.in_of_mem_stops inner _ mem)
    · have behindInner := (congrArg (List.foldl openBehind · _) opened).trans (inner.foldl_openBehind _)
      refine Stop.In.behind (t :: _) behindInner ?_
      exact Stop.In.behind [e] closed (Forms.in_of_mem_stops rest blocks mem)
  | .count (t := t) (e := e) tag _ _ inner ends rest =>
    have opened : openBehind blocks t = (.count, t) :: blocks := openBehind_of_opens tag rfl
    have closed : openBehind ((.count, t) :: blocks) e = blocks := openBehind_of_closes ends rfl
    rcases List.mem_append.1 mem with mem | mem
    · obtain ⟨round, -, mem⟩ := List.mem_flatMap.1 mem
      exact Stop.In.append (Stop.In.behind [t] opened (Forms.in_of_mem_stops inner _ mem)) _
    · have behindInner := (congrArg (List.foldl openBehind · _) opened).trans (inner.foldl_openBehind _)
      refine Stop.In.behind (t :: _) behindInner ?_
      exact Stop.In.behind [e] closed (Forms.in_of_mem_stops rest blocks mem)

theorem FormsBranches.in_of_mem_stops {tokens : List Token} {branches : List (Expr × List Node)}
    {otherwise : List Node} (h : FormsBranches ctx tokens branches otherwise) (opening : Token)
    (outer : List (BlockKind × Token)) {scopes : List Scope}
    (mem : stop ∈ Node.stopsOfBranches input site opening.position branches scopes
      (Node.stopsOfAll input site otherwise scopes)) : stop.In ctx ((.cond, opening) :: outer) tokens := by
  match h with
  | .elseIf (t := t) tag read inner rest =>
    obtain ⟨phrase, writes, -, -, rfl⟩ := readCondition_eq_ok_iff.1 read
    have kept : openBehind ((.cond, opening) :: outer) t = (.cond, opening) :: outer :=
      openBehind_of_none tag rfl rfl
    rcases mem_stopsOfBranches_cons mem with rfl | mem | mem
    · refine Stop.In.append (.here ⟨.elseIf _, ⟨_, phrase, tag, writes, rfl⟩, rfl⟩ ?_) _
      exact congrArg Token.position (Token.marker_elseIf tag _ _ _).symm
    · exact Stop.In.append (Stop.In.behind [t] kept (Forms.in_of_mem_stops inner _ mem)) _
    · have behindInner := (congrArg (List.foldl openBehind · _) kept).trans (inner.foldl_openBehind _)
      exact Stop.In.behind (t :: _) behindInner (FormsBranches.in_of_mem_stops rest opening outer mem)
  | .otherwise (t := t) tag inner ends =>
    have kept : openBehind ((.cond, opening) :: outer) t = (.cond, opening) :: outer :=
      openBehind_of_none tag rfl rfl
    exact Stop.In.append (Stop.In.behind [t] kept (Forms.in_of_mem_stops inner _ mem)) _
  | .close ends => cases mem

end

end Stops

/-! ## Templates -/

namespace Template

variable {filters : FilterTable} {escape minify : Bool} {origin : Origin} {source : String} {t : Template}
  {data : Scope} {stop : Stop} {cause : Fault}

end Template

end Stencil
