import Stencil.Engine
import Stencil.Proofs.Node.Joining
import Stencil.Proofs.Render.Dataless

/-!
# Templates put together

A source in front of another one renders to its text in front of the other one's (`Engine.fromText_append`). Rendering
looks at places only where it fails, so the tags of the second source may as well stand where it is alone
(`Node.joined?_of_bareAll`), and the text that is merged where the sources meet is written as both its parts.
-/

namespace Stencil

/-! ## Texts of parts -/

namespace Part

theorem joined_append (front back : List Part) : joined (front ++ back) = joined front ++ joined back := by
  unfold joined
  rw [List.map_append, String.join_append]

/-- The text that parts make, if no failure is in their way. -/
def joined? (parts : Except Fault (List Part)) : Option String :=
  parts.toOption.map joined

theorem joined?_bind {α : Type} (x : Except Fault α) (f : α → Except Fault (List Part)) :
    joined? (x >>= f) = x.toOption.bind fun a => joined? (f a) := by
  cases x <;> rfl

theorem joined?_both (front back : Except Fault (List Part)) :
    joined? (do let xs ← front; let ys ← back; pure (xs ++ ys)) = (do
      let s ← joined? front
      let t ← joined? back
      pure (s ++ t)) := by
  cases front with
  | error fault => rfl
  | ok xs =>
    cases back with
    | error fault => rfl
    | ok ys => exact congrArg some (joined_append xs ys)

theorem joined?_inOrder {ρ : Type} {f g : ρ → Except Fault (List Part)} (rounds : List ρ)
    (same : ∀ round, joined? (f round) = joined? (g round)) :
    joined? (inOrder (rounds.map f)) = joined? (inOrder (rounds.map g)) := by
  induction rounds with
  | nil => rfl
  | cons round rest ih => rw [List.map_cons, List.map_cons, inOrder, inOrder, joined?_both, joined?_both, same, ih]

end Part

open Stencil.Part

variable {input : RenderInput} {site : Option Site}

/-! ## Trees without places -/

namespace Expr

/-- The place of an expression is for the words of a failure only. -/
theorem toOption_evaluate_bare (scopes : List Scope) (expr : Expr) :
    (expr.bare.evaluate input scopes site).toOption = (expr.evaluate input scopes site).toOption := by
  induction expr with
  | const | path => rfl
  | filter position operand name ih =>
    simp only [bare, evaluate_filter, toOption_bind, ih, toOption_applyTo]
  | not position operand ih =>
    rw [bare, evaluate, evaluate, toOption_map, toOption_map, ih]
  | compare position left equal right ihl ihr =>
    simp only [bare, evaluate_compare, toOption_bind, ihl, ihr]

end Expr

mutual

/-- A node without places and written tags makes the same text. -/
theorem Node.joined?_bare (node : Node) (scopes : List Scope) :
    joined? (node.bare.parts input site scopes) = joined? (node.parts input site scopes) := by
  cases node with
  | data position text => rfl
  | output position expr source escape =>
    rw [Node.bare, Node.parts, Node.parts, joined?_bind, joined?_bind, Expr.toOption_evaluate_bare]
    -- The expression is part of what is written down about an output, but not of its text.
    refine congrArg _ (funext fun v => ?_)
    cases v.print <;> rfl
  | cond position branches otherwise =>
    rw [Node.bare, Node.parts, Node.parts]
    exact Node.joined?_bareBranches branches scopes (Node.joined?_bareAll otherwise scopes)
  | foreach position collection name body =>
    rw [Node.bare, Node.parts, Node.parts, joined?_bind, joined?_bind]
    refine congrArg _ (funext fun v => joined?_inOrder _ fun round => ?_)
    exact Node.joined?_bareAll body _
  | count position name start stop body =>
    rw [Node.bare, Node.parts, Node.parts]
    exact joined?_inOrder _ fun round => Node.joined?_bareAll body _

theorem Node.joined?_bareAll (nodes : List Node) (scopes : List Scope) :
    joined? (Node.partsOfAll input site (Node.bareAll nodes) scopes)
      = joined? (Node.partsOfAll input site nodes scopes) := by
  cases nodes with
  | nil => rfl
  | cons node rest =>
    rw [Node.bareAll, Node.partsOfAll, Node.partsOfAll, joined?_both, joined?_both, Node.joined?_bare node scopes,
      Node.joined?_bareAll rest scopes]

theorem Node.joined?_bareBranches (branches : List (Expr × List Node)) (scopes : List Scope)
    {last last' : Except Fault (List Part)} (same : joined? last = joined? last') :
    joined? (Node.partsOfBranches input site (Node.bareBranches branches) scopes last)
      = joined? (Node.partsOfBranches input site branches scopes last') := by
  cases branches with
  | nil => exact same
  | cons branch rest =>
    obtain ⟨test, body⟩ := branch
    rw [Node.bareBranches, Node.partsOfBranches, Node.partsOfBranches, joined?_bind, joined?_bind,
      Expr.toOption_evaluate_bare]
    refine congrArg _ (funext fun v => ?_)
    split
    · exact Node.joined?_bareAll body scopes
    · exact Node.joined?_bareBranches rest scopes same

end

/-- Nodes that are the same up to places make the same text. -/
theorem Node.joined?_of_bareAll {nodes nodes' : List Node} (same : Node.bareAll nodes' = Node.bareAll nodes)
    (scopes : List Scope) :
    joined? (Node.partsOfAll input site nodes' scopes) = joined? (Node.partsOfAll input site nodes scopes) := by
  rw [← Node.joined?_bareAll nodes', same, Node.joined?_bareAll]

/-! ## Nodes in a row -/

theorem Node.joined?_append (nodes more : List Node) (scopes : List Scope) :
    joined? (Node.partsOfAll input site (nodes ++ more) scopes) = (do
      let s ← joined? (Node.partsOfAll input site nodes scopes)
      let t ← joined? (Node.partsOfAll input site more scopes)
      pure (s ++ t)) := by
  induction nodes with
  | nil =>
    have nothing : joined? (Node.partsOfAll input site [] scopes) = some "" := rfl
    rw [nothing, List.nil_append]
    cases joined? (Node.partsOfAll input site more scopes) with
    | none => rfl
    | some t => exact congrArg some String.empty_append.symm
  | cons node rest ih =>
    rw [List.cons_append, Node.partsOfAll, Node.partsOfAll, joined?_both, joined?_both, ih]
    cases joined? (Node.parts input site node scopes) with
    | none => rfl
    | some s =>
      cases joined? (Node.partsOfAll input site rest scopes) with
      | none => rfl
      | some t =>
        cases joined? (Node.partsOfAll input site more scopes) with
        | none => rfl
        | some u => exact congrArg some String.append_assoc.symm

/-- Tokens that are texts are rendered as these. -/
theorem Forms.joined?_of_spell {ctx : ReadContext} {tokens : List Token} {nodes : List Node} {text : String}
    (h : Forms ctx tokens nodes) (spell : Token.Spell tokens text) (scopes : List Scope) :
    joined? (Node.partsOfAll input site nodes scopes) = some text := by
  obtain ⟨data, rfl⟩ := spell
  rw [h.unique (forms_of_data data)]
  clear h data
  induction tokens with
  | nil => rfl
  | cons t rest ih =>
    rw [List.map_cons, Node.partsOfAll, joined?_both, ih, List.map_cons, String.join_cons]
    have literal : joined? (Node.parts input site (.data t.position t.text) scopes) = some t.text := by
      simp [joined?, Node.parts, joined, Part.text, Except.toOption]
    rw [literal]
    rfl

/-! ## Templates -/

/-- The text of nodes that tokens of sources put together form. -/
theorem exists_forms_of_joined {ctx : ReadContext} {tokens₁ tokens₂ tokens : List Token} {nodes₁ nodes₂ : List Node}
    (together : Token.Joined tokens₁ tokens₂ tokens) (forms₁ : Forms ctx tokens₁ nodes₁)
    (forms₂ : Forms ctx tokens₂ nodes₂) (unfinished₁ : ∀ t ∈ tokens₁, t.tag ≠ .finish)
    (unfinished₂ : ∀ t ∈ tokens₂, t.tag ≠ .finish) :
    ∃ nodes, Forms ctx tokens nodes ∧ ∀ (input : RenderInput) (site : Option Site) (scopes : List Scope),
      joined? (Node.partsOfAll input site nodes scopes) = (do
        let s ← joined? (Node.partsOfAll input site nodes₁ scopes)
        let t ← joined? (Node.partsOfAll input site nodes₂ scopes)
        pure (s ++ t)) := by
  obtain @⟨front, front', end₁, end₂, between, back, back', x, y, alikeFront, spell₁, spell₂, spell, alikeBack⟩ :=
    together
  obtain ⟨front₁, last₁, rfl, formsFront, formsEnd₁⟩ := forms₁.split unfinished₁ (.inr spell₁.data)
  obtain ⟨first₂, back₂, rfl, formsEnd₂, formsBack⟩ := forms₂.split unfinished₂ (.inl spell₂.data)
  obtain ⟨nodesFront, formsFront', sameFront⟩ := formsFront.moved alikeFront
  obtain ⟨nodesBack, formsBack', sameBack⟩ := formsBack.moved alikeBack
  have formsSeam : Forms ctx between _ := forms_of_data spell.data
  refine ⟨_, (formsFront'.append formsSeam).append formsBack', ?_⟩
  intro input site scopes
  rw [Node.joined?_append, Node.joined?_append, Node.joined?_append, Node.joined?_append,
    Node.joined?_of_bareAll sameFront, Node.joined?_of_bareAll sameBack, formsSeam.joined?_of_spell spell,
    formsEnd₁.joined?_of_spell spell₁, formsEnd₂.joined?_of_spell spell₂]
  cases joined? (Node.partsOfAll input site front₁ scopes) with
  | none => rfl
  | some s =>
    cases joined? (Node.partsOfAll input site back₂ scopes) with
    | none => rfl
    | some t => exact congrArg some (by simp [String.append_assoc])

/-- Sources whose nodes are read are put together to one whose nodes are read. -/
theorem Node.exists_read_append {ctx : ReadContext} {source₁ source₂ : String} {nodes₁ nodes₂ : List Node}
    (read₁ : Node.read ctx source₁ = .ok nodes₁) (read₂ : Node.read ctx source₂ = .ok nodes₂)
    (noBrace : '{' ∉ Piece.textBehind source₁.toList) :
    ∃ nodes, Node.read ctx (source₁ ++ source₂) = .ok nodes
      ∧ ∀ (input : RenderInput) (site : Option Site) (scopes : List Scope),
        joined? (Node.partsOfAll input site nodes scopes) = (do
          let s ← joined? (Node.partsOfAll input site nodes₁ scopes)
          let t ← joined? (Node.partsOfAll input site nodes₂ scopes)
          pure (s ++ t)) := by
  obtain ⟨tokens₁, tokenized₁, formed₁⟩ := bind_eq_ok_iff.1 read₁
  obtain ⟨tokens₂, tokenized₂, formed₂⟩ := bind_eq_ok_iff.1 read₂
  obtain ⟨body₁, body₂, body, eof₁, eof₂, eof, rfl, rfl, tokenized, ends₁, ends₂, ends, together⟩ :=
    Token.exists_joined tokenized₁ tokenized₂ noBrace ctx.origin
  have unfinished₁ := Token.unfinished_of_read tokenized₁
  have unfinished₂ := Token.unfinished_of_read tokenized₂
  have forms₁ := (Node.ofTokens_eq_ok_iff unfinished₁ ends₁).1 formed₁
  have forms₂ := (Node.ofTokens_eq_ok_iff unfinished₂ ends₂).1 formed₂
  obtain ⟨nodes, forms, text⟩ := exists_forms_of_joined together forms₁ forms₂ unfinished₁ unfinished₂
  have formed := (Node.ofTokens_eq_ok_iff (Token.unfinished_of_read tokenized) ends).2 forms
  exact ⟨nodes, bind_eq_ok_iff.2 ⟨_, tokenized, formed⟩, text⟩

namespace Template

/-- A template that is not made smaller has the text of its nodes as its page. -/
theorem toOption_page_of_plain {t : Template} (plain : t.minify = false) (data : Scope) :
    (t.page data).toOption = joined? (Node.partsOfAll ⟨data, t.filters⟩ none t.nodes []) := by
  have made : (t.renderNodes data []).1.toOption
      = (Node.renderText ⟨data, t.filters⟩ t.nodes [] [.fresh t.origin.name t.origin.filename (some t.source)]).1.toOption :=
    toOption_mapError _ _
  rw [toOption_page_eq, made, Node.toOption_renderText_eq, Node.toOption_partsOfAll _ none, plain]
  exact Option.bind_fun_some _

theorem page_eq_ok_iff {t : Template} (plain : t.minify = false) {data : Scope} {text : String} :
    t.page data = .ok text ↔ joined? (Node.partsOfAll ⟨data, t.filters⟩ none t.nodes []) = some text := by
  rw [← toOption_page_of_plain plain]
  constructor
  · intro rendered
    rw [rendered]
    rfl
  · exact eq_ok_of_toOption

end Template

namespace Engine

/-- **A source in front of another one renders to its text in front of the other one's**, if no `{` stands behind its
last tag. The source that they make together is accepted if both are, under any name, and has a page for all data for
which both have one. -/
theorem fromText_append (e : Engine) (w : World) {source₁ source₂ : String} {name₁ name₂ : Option String}
    {t₁ t₂ : Template} (accepted₁ : (fromText source₁ name₁ (e, w)).1 = .ok t₁)
    (accepted₂ : (fromText source₂ name₂ (e, w)).1 = .ok t₂) (noBrace : '{' ∉ Piece.textBehind source₁.toList)
    (name : Option String) :
    ∃ t, (fromText (source₁ ++ source₂) name (e, w)).1 = .ok t
      ∧ (e.settings.minify = false → ∀ (args : List Value) (named : List (String × Value)) (text₁ text₂ : String),
        (Template.ownArguments args named).bind t₁.page = .ok text₁ →
        (Template.ownArguments args named).bind t₂.page = .ok text₂ →
        (Template.ownArguments args named).bind t.page = .ok (text₁ ++ text₂)) := by
  rw [fromText_fst] at accepted₁ accepted₂ ⊢
  obtain ⟨read₁, filters₁, minify₁⟩ := Template.read_eq_ok accepted₁
  obtain ⟨read₂, filters₂, minify₂⟩ := Template.read_eq_ok accepted₂
  -- the name and the source of a template do not decide what is read
  have again {name' : Option String} {source : String} {nodes : List Node}
      (read : Node.read ⟨⟨name', none⟩, some source, e.filters.names, e.settings.autoescape⟩ source = .ok nodes) :
      Node.read ⟨⟨name, none⟩, some (source₁ ++ source₂), e.filters.names, e.settings.autoescape⟩ source
        = .ok nodes := by
    apply Node.read_eq_ok_of_same _ _ read
    · rfl
    · rfl
  obtain ⟨nodes, read, text⟩ := Node.exists_read_append (again read₁) (again read₂) noBrace
  refine ⟨⟨nodes, e.filters, ⟨name, none⟩, source₁ ++ source₂, e.settings.minify⟩, ?_, ?_⟩
  · rw [readTemplate, Template.read, read]
  · intro plain args named text₁ text₂ rendered₁ rendered₂
    obtain ⟨data, merged, page₁⟩ := bind_eq_ok_iff.1 rendered₁
    obtain ⟨data', merged', page₂⟩ := bind_eq_ok_iff.1 rendered₂
    obtain rfl := Except.ok.inj (merged.symm.trans merged')
    refine bind_eq_ok_iff.2 ⟨data, merged, ?_⟩
    rw [Template.page_eq_ok_iff (minify₁.trans plain), filters₁] at page₁
    rw [Template.page_eq_ok_iff (minify₂.trans plain), filters₂] at page₂
    rw [Template.page_eq_ok_iff plain, text, page₁, page₂]
    rfl

/-- A world with an empty disk. -/
def noFiles : World :=
  ⟨⟨[], []⟩, .ofInt 0, .calm, 0, []⟩

/-- Two texts meet between the outputs of the sources. -/
theorem fromText_append_outputs :
    ∃ t₁ t₂ t, (fromText "a\x7bx\x7db" none (fresh none .standard none, noFiles)).1 = .ok t₁
      ∧ (fromText "c\x7by\x7dd" none (fresh none .standard none, noFiles)).1 = .ok t₂
      ∧ '{' ∉ Piece.textBehind "a\x7bx\x7db".toList
      ∧ (fromText ("a\x7bx\x7db" ++ "c\x7by\x7dd") none (fresh none .standard none, noFiles)).1 = .ok t
      ∧ (Template.ownArguments [] [("x", .text "<"), ("y", .int 2)]).bind t.page = .ok "a&lt;bc2d" := by
  obtain ⟨t₁, accepted₁, page₁⟩ : ∃ t, (fromText "a\x7bx\x7db" none (fresh none .standard none, noFiles)).1 = .ok t
      ∧ (Template.ownArguments [] [("x", .text "<"), ("y", .int 2)]).bind t.page = .ok "a&lt;b" :=
    bind_eq_ok_iff.1 (eq_ok_of_toOption (by decide +kernel))
  obtain ⟨t₂, accepted₂, page₂⟩ : ∃ t, (fromText "c\x7by\x7dd" none (fresh none .standard none, noFiles)).1 = .ok t
      ∧ (Template.ownArguments [] [("x", .text "<"), ("y", .int 2)]).bind t.page = .ok "c2d" :=
    bind_eq_ok_iff.1 (eq_ok_of_toOption (by decide +kernel))
  have noBrace : '{' ∉ Piece.textBehind "a\x7bx\x7db".toList := by decide +kernel
  obtain ⟨t, accepted, together⟩ := fromText_append _ _ accepted₁ accepted₂ noBrace none
  exact ⟨t₁, t₂, t, accepted₁, accepted₂, noBrace, accepted, together rfl _ _ _ _ page₁ page₂⟩

end Engine

end Stencil
