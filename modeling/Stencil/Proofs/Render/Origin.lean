import Stencil.Proofs.Node.Forms
import Stencil.Proofs.Render.Meaning
import Stencil.Template

/-!
# What the origin of a template decides

The name of a template and of its file go into the words of faults only. The same text under another name gives
the same page for the same data, or none either (`Template.toOption_page_read`).
-/

namespace Stencil

/-- The page that a template gives for data. -/
def Template.page (t : Template) (data : Scope) : Except Fault String :=
  (t.render data []).1

theorem toOption_bind {ε α β : Type} (x : Except ε α) (f : α → Except ε β) :
    (x >>= f).toOption = x.toOption.bind fun a => (f a).toOption := by
  cases x <;> rfl

theorem toOption_map {ε α β : Type} (f : α → β) (x : Except ε α) : (x.map f).toOption = x.toOption.map f := by
  cases x <;> rfl

theorem toOption_mapError {ε ε' α : Type} (f : ε → ε') (x : Except ε α) : (x.mapError f).toOption = x.toOption := by
  cases x <;> rfl

theorem toOption_eq_of_ok_iff {ε α : Type} {x y : Except ε α} (h : ∀ a, x = .ok a ↔ y = .ok a) :
    x.toOption = y.toOption := by
  cases x with
  | ok a => rw [(h a).1 rfl]
  | error fault =>
    cases y with
    | ok b => exact nomatch (h b).2 rfl
    | error _ => rfl

/-! ## Reading -/

variable {ctx ctx' : ReadContext}

mutual

/-- Which nodes tokens form depends on the filters and on the escaping only. -/
theorem Forms.of_same (filters : ctx'.filters = ctx.filters) (escape : ctx'.escape = ctx.escape)
    {tokens : List Token} {nodes : List Node} (h : Forms ctx tokens nodes) : Forms ctx' tokens nodes := by
  match h with
  | .nil => exact .nil
  | .data tag rest => exact .data tag (Forms.of_same filters escape rest)
  | .output tag read rest =>
    refine .output tag ?_ (Forms.of_same filters escape rest)
    rw [readOutput_eq_ok_iff, filters, escape]
    exact readOutput_eq_ok_iff.1 read
  | .cond tag read inner others rest =>
    refine .cond tag ?_ (Forms.of_same filters escape inner) (FormsBranches.of_same filters escape others)
      (Forms.of_same filters escape rest)
    rw [readCondition_eq_ok_iff, filters]
    exact readCondition_eq_ok_iff.1 read
  | .foreach tag inner ends rest =>
    exact .foreach tag (Forms.of_same filters escape inner) ends (Forms.of_same filters escape rest)
  | .count tag isFirst isLast inner ends rest =>
    exact .count tag isFirst isLast (Forms.of_same filters escape inner) ends (Forms.of_same filters escape rest)

theorem FormsBranches.of_same (filters : ctx'.filters = ctx.filters) (escape : ctx'.escape = ctx.escape)
    {tokens : List Token} {branches : List (Expr × List Node)} {otherwise : List Node}
    (h : FormsBranches ctx tokens branches otherwise) : FormsBranches ctx' tokens branches otherwise := by
  match h with
  | .elseIf tag read inner rest =>
    refine .elseIf tag ?_ (Forms.of_same filters escape inner) (FormsBranches.of_same filters escape rest)
    rw [readCondition_eq_ok_iff, filters]
    exact readCondition_eq_ok_iff.1 read
  | .otherwise tag inner ends => exact .otherwise tag (Forms.of_same filters escape inner) ends
  | .close ends => exact .close ends

end

theorem Token.read_eq_ok_of_origin {origin : Origin} (origin' : Origin) {source : String} {tokens : List Token}
    (h : Token.read origin source = .ok tokens) : Token.read origin' source = .ok tokens :=
  Token.read_eq_ok_iff.2 (Token.read_eq_ok_iff.1 h)

theorem Node.read_eq_ok_of_same {ctx ctx' : ReadContext} (filters : ctx'.filters = ctx.filters)
    (escape : ctx'.escape = ctx.escape) {source : String} {nodes : List Node}
    (h : Node.read ctx source = .ok nodes) : Node.read ctx' source = .ok nodes := by
  obtain ⟨body, eof, tokenized, ends, -, forms⟩ := Node.exists_forms_of_read h
  refine bind_eq_ok_iff.2 ⟨_, Token.read_eq_ok_of_origin _ tokenized, ?_⟩
  exact (Node.ofTokens_eq_ok_iff (Token.unfinished_of_read tokenized) ends).2 (forms.of_same filters escape)

/-! ## Rendering -/

variable {input : RenderInput}

namespace Expr

theorem toOption_applyTo (site : Option Site) (position : Position) (operand : Expr) (name : String) (v : Value) :
    (applyTo input site position operand name v).toOption = (applyFilter input.filters v name).toOption := by
  unfold applyTo
  split
  · next found => rw [found]
  · next found => rw [found]; rfl
  · next found => rw [found]

theorem evaluate_filter (site : Option Site) (scopes : List Scope) (position : Position) (operand : Expr)
    (name : String) :
    (filter position operand name).evaluate input scopes site = (do
      let v ← operand.evaluate input scopes site
      applyTo input site position operand name v) := by
  rw [evaluate]
  cases operand.evaluate input scopes site <;> rfl

theorem evaluate_compare (site : Option Site) (scopes : List Scope) (position : Position) (left right : Expr)
    (equal : Bool) :
    (compare position left equal right).evaluate input scopes site = (do
      let v ← left.evaluate input scopes site
      let w ← right.evaluate input scopes site
      (v.compare w).map fun agree => .bool (agree == equal)) := by
  rw [evaluate]
  cases left.evaluate input scopes site with
  | error fault => rfl
  | ok v => cases right.evaluate input scopes site <;> rfl

/-- A comparison fails where one of the sides does, the left one first, or where a number that is compared with a text
cannot be written. -/
theorem evaluate_compare_eq_error_iff {site : Option Site} {scopes : List Scope} {position : Position}
    {left right : Expr} {equal : Bool} {fault : Fault} :
    (compare position left equal right).evaluate input scopes site = .error fault
      ↔ left.evaluate input scopes site = .error fault
        ∨ ∃ v, left.evaluate input scopes site = .ok v ∧ (right.evaluate input scopes site = .error fault
          ∨ ∃ w, right.evaluate input scopes site = .ok w ∧ v.compare w = .error fault) := by
  rw [evaluate_compare, bind_eq_error_iff]
  refine or_congr_right (exists_congr fun v => and_congr_right fun _ => ?_)
  rw [bind_eq_error_iff]
  refine or_congr_right (exists_congr fun w => and_congr_right fun _ => ?_)
  exact map_eq_error_iff

/-- A failing filter says in which template it is used, which is all that the site decides. -/
theorem toOption_evaluate (site site' : Option Site) (scopes : List Scope) (expr : Expr) :
    (expr.evaluate input scopes site).toOption = (expr.evaluate input scopes site').toOption := by
  induction expr with
  | const | path => rfl
  | filter position operand name ih =>
    simp only [evaluate_filter, toOption_bind, ih, toOption_applyTo]
  | not position operand ih =>
    rw [evaluate, evaluate]
    exact (toOption_map _ _).trans ((congrArg _ ih).trans (toOption_map _ _).symm)
  | compare position left equal right ihl ihr =>
    simp only [evaluate_compare, toOption_bind, ihl, ihr]

end Expr

theorem toOption_inOrder {α ρ : Type} {f g : ρ → Except Fault (List α)} (rounds : List ρ)
    (same : ∀ round, (f round).toOption = (g round).toOption) :
    (inOrder (rounds.map f)).toOption = (inOrder (rounds.map g)).toOption := by
  induction rounds with
  | nil => rfl
  | cons round rest ih =>
    simp only [List.map_cons, inOrder, toOption_bind, same, ih]

mutual

/-- The parts that a node makes do not depend on the site. -/
theorem Node.toOption_parts (site site' : Option Site) (node : Node) (scopes : List Scope) :
    (node.parts input site scopes).toOption = (node.parts input site' scopes).toOption := by
  cases node with
  | data position text => rfl
  | output position expr source escape =>
    rw [Node.parts, Node.parts, toOption_bind, toOption_bind, Expr.toOption_evaluate site site']
  | cond position branches otherwise =>
    rw [Node.parts, Node.parts]
    exact Node.toOption_partsOfBranches site site' branches scopes (Node.toOption_partsOfAll site site' otherwise scopes)
  | foreach position collection name body =>
    rw [Node.parts, Node.parts, toOption_bind, toOption_bind]
    refine congrArg _ (funext fun v => toOption_inOrder _ fun round => ?_)
    exact Node.toOption_partsOfAll site site' body _
  | count position name start stop body =>
    rw [Node.parts, Node.parts]
    exact toOption_inOrder _ fun round => Node.toOption_partsOfAll site site' body _

theorem Node.toOption_partsOfAll (site site' : Option Site) (nodes : List Node) (scopes : List Scope) :
    (Node.partsOfAll input site nodes scopes).toOption = (Node.partsOfAll input site' nodes scopes).toOption := by
  cases nodes with
  | nil => rfl
  | cons node rest =>
    simp only [Node.partsOfAll, toOption_bind, Node.toOption_parts site site' node scopes,
      Node.toOption_partsOfAll site site' rest scopes]

theorem Node.toOption_partsOfBranches (site site' : Option Site) (branches : List (Expr × List Node))
    (scopes : List Scope) {last last' : Except Fault (List Part)} (same : last.toOption = last'.toOption) :
    (Node.partsOfBranches input site branches scopes last).toOption
      = (Node.partsOfBranches input site' branches scopes last').toOption := by
  cases branches with
  | nil => exact same
  | cons branch rest =>
    obtain ⟨test, body⟩ := branch
    rw [Node.partsOfBranches, Node.partsOfBranches, toOption_bind, toOption_bind, Expr.toOption_evaluate site site']
    refine congrArg _ (funext fun v => ?_)
    split
    · exact Node.toOption_partsOfAll site site' body scopes
    · exact Node.toOption_partsOfBranches site site' rest scopes same

end

theorem Node.toOption_renderText (nodes : List Node) (scopes : List Scope) (sites sites' : List Site) :
    (Node.renderText input nodes scopes sites).1.toOption = (Node.renderText input nodes scopes sites').1.toOption := by
  rw [Node.toOption_renderText_eq, Node.toOption_renderText_eq, Node.toOption_partsOfAll sites.head? sites'.head?]

namespace Template

theorem toOption_renderNodes (t t' : Template) (nodes : t'.nodes = t.nodes) (filters : t'.filters = t.filters)
    (data : Scope) : (t'.renderNodes data []).1.toOption = (t.renderNodes data []).1.toOption := by
  have made (t : Template) (data : Scope) : (t.renderNodes data []).1.toOption
      = (Node.renderText ⟨data, t.filters⟩ t.nodes [] [.fresh t.origin.name t.origin.filename (some t.source)]).1.toOption :=
    toOption_mapError _ _
  rw [made, made, nodes, filters]
  exact Node.toOption_renderText _ _ _ _

/-- The page of a template that is there if its nodes can be rendered, and then made smaller if that is asked for. -/
theorem toOption_page_eq (t : Template) (data : Scope) :
    (t.page data).toOption = (t.renderNodes data []).1.toOption.bind fun output =>
      (if t.minify then Html.minify output else .ok output).toOption := by
  unfold page render
  rcases t.renderNodes data [] with ⟨fault | output, sites⟩
  · rfl
  · rfl

/-- The same text under another name gives the same page for the same data, or none either. -/
theorem toOption_page_read (filters : FilterTable) (escape minify : Bool) (origin origin' : Origin)
    (source : String) (data : Scope) :
    ((Template.read filters escape minify origin source).bind (·.page data)).toOption
      = ((Template.read filters escape minify origin' source).bind (·.page data)).toOption := by
  have same (ctx ctx' : ReadContext) (filters : ctx'.filters = ctx.filters) (escape : ctx'.escape = ctx.escape) :
      (Node.read ctx source).toOption = (Node.read ctx' source).toOption :=
    toOption_eq_of_ok_iff fun nodes =>
      ⟨Node.read_eq_ok_of_same filters escape, Node.read_eq_ok_of_same filters.symm escape.symm⟩
  have made (origin : Origin) : ((Template.read filters escape minify origin source).bind (·.page data)).toOption
      = (Node.read ⟨origin, some source, filters.names, escape⟩ source).toOption.bind fun nodes =>
        ((⟨nodes, filters, origin, source, minify⟩ : Template).page data).toOption := by
    unfold Template.read
    cases Node.read ⟨origin, some source, filters.names, escape⟩ source with
    | ok nodes => rfl
    | error m => rfl
  rw [made, made, same ⟨origin, _, _, _⟩ ⟨origin', some source, filters.names, escape⟩ rfl rfl]
  refine congrArg _ (funext fun nodes => ?_)
  rw [toOption_page_eq, toOption_page_eq,
    toOption_renderNodes ⟨nodes, filters, origin', source, minify⟩ ⟨nodes, filters, origin, source, minify⟩ rfl rfl]

end Template

end Stencil
