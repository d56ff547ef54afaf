import Stencil.Proofs.Disk.Moves
import Stencil.Template

/-!
# Nesting of sites and scopes

Two stacks accompany a rendering: the sites, one for each rendering that is under way, and the scopes, one for each loop
around. Whoever puts something on top of one of them takes it away again, also if what happens in between fails.
`Node.moves_render` says what the rendering of a node does to both, however it ends: the scopes are what they were,
and at most the active site has been marked.

From the outside one sees entries into sites, marks, renderings and exits. In a well-nested row of these
(`SiteEvent.Nested`) every exit leads back to the sites in front of its entry (`SiteEvent.contexts_are_restored`).
-/

namespace Stencil

/-! ## Marks -/

namespace Site

/-- The sites are the same, but that the active one may have been marked. -/
def Marked (sites sites' : List Site) : Prop :=
  sites' = sites ∨ ∃ line expression, sites' = markActive sites line expression

variable {sites sites' : List Site}

/-- Of two marks the later one remains. -/
theorem markActive_markActive (sites : List Site) (line line' : Int) (expression expression' : Option String) :
    markActive (markActive sites line expression) line' expression' = markActive sites line' expression' := by
  cases sites <;> rfl

theorem tail_markActive (sites : List Site) (line : Int) (expression : Option String) :
    (markActive sites line expression).tail = sites.tail := by
  cases sites <;> rfl

theorem head?_markActive (sites : List Site) (line : Int) (expression : Option String) :
    (markActive sites line expression).head? = sites.head?.map (·.mark line expression) := by
  cases sites <;> rfl

instance : IsPreorder (List Site) Marked where
  refl _ := .inl rfl
  trans := by
    rintro sites _ _ (rfl | ⟨line, expression, rfl⟩) (rfl | ⟨line', expression', rfl⟩)
    · exact .inl rfl
    · exact .inr ⟨line', expression', rfl⟩
    · exact .inr ⟨line, expression, rfl⟩
    · exact .inr ⟨line', expression', markActive_markActive sites _ _ _ _⟩

theorem Marked.tail_eq (h : Marked sites sites') : sites'.tail = sites.tail := by
  rcases h with rfl | ⟨line, expression, rfl⟩
  · rfl
  · exact tail_markActive sites line expression

end Site

/-! ## Scopes -/

/-- The scopes around the `inner` innermost ones are what they were, and at most the active site has been marked. -/
structure Machine.Keeps (inner : Nat) (m m' : Machine) : Prop where
  scopes : m'.scopes.drop inner = m.scopes.drop inner
  sites : Site.Marked m.sites m'.sites

instance (inner : Nat) : IsPreorder Machine (Machine.Keeps inner) where
  refl m := ⟨rfl, refl_of Site.Marked m.sites⟩
  trans _ _ _ h h' := ⟨h'.scopes.trans h.scopes, trans_of Site.Marked h.sites h'.sites⟩

namespace Render

open Machine (Keeps)

variable {input : RenderInput} {body act : Render Unit}

theorem moves_emit (s : String) : Moves (Keeps 0) (emit s) :=
  fun m => ⟨rfl, refl_of Site.Marked m.sites⟩

theorem moves_emitValue (escape : Bool) (v : Value) : Moves (Keeps 0) (emitValue escape v) := by
  unfold emitValue
  split
  · exact moves_emit _
  · exact .throw _

theorem moves_mark (line : Nat) (expression : Option String) : Moves (Keeps 0) (mark line expression) :=
  fun _ => ⟨rfl, .inr ⟨line, expression, rfl⟩⟩

theorem moves_evaluate (expr : Expr) : Moves (Keeps 0) (evaluate input expr) := by
  refine .bind (fun m => refl_of (Keeps 0) m) fun m => ?_
  split
  · exact .pure _
  · exact .throw _

/-- A scope that is put around a step is taken away again, whatever the step has done to it and however it ended. -/
theorem moves_withScope (scope : Scope) (h : Moves (Keeps 1) act) : Moves (Keeps 0) (withScope scope act) := by
  intro m
  have kept := h { m with scopes := scope :: m.scopes }
  refine ⟨?_, kept.sites⟩
  have around := kept.scopes
  rw [List.drop_one, List.drop_one] at around
  exact around

theorem moves_setName (name : String) (value : Value) : Moves (Keeps 1) (setName name value) := by
  rintro ⟨output, scopes, sites⟩
  cases scopes with
  | nil => exact refl_of (Keeps 1) _
  | cons scope outer => exact ⟨rfl, refl_of Site.Marked sites⟩

theorem moves_enterRound (state : LoopState) (name : String) (item : Value) :
    Moves (Keeps 1) (enterRound state name item) :=
  .bind (moves_setName _ _) fun _ => moves_setName _ _

/-- In a round of a loop, what keeps all scopes keeps those around the loop. -/
theorem moves_inRound (h : Moves (Keeps 0) body) : Moves (Keeps 1) body :=
  h.mono fun _ _ kept => ⟨congrArg (List.drop 1) kept.scopes, kept.sites⟩

theorem moves_forItems (name : String) (length : Nat) (h : Moves (Keeps 0) body) (index : Nat) (items : List Value) :
    Moves (Keeps 1) (forItems name length body index items) := by
  induction items generalizing index with
  | nil => exact .pure _
  | cons item rest ih =>
    refine .bind (moves_enterRound _ _ _) fun _ => ?_
    exact .bind (moves_inRound h) fun _ => ih (index + 1)

theorem moves_forCount (name : String) (start : Int) (length : Nat) (h : Moves (Keeps 0) body) (rounds : Nat) :
    Moves (Keeps 1) (forCount name start length body rounds) := by
  induction rounds with
  | zero => exact .pure _
  | succ rounds ih =>
    refine .bind (moves_enterRound _ _ _) fun _ => ?_
    exact .bind (moves_inRound h) fun _ => ih

end Render

section Nodes

open Machine (Keeps)
open Render

variable {input : RenderInput}

mutual

/-- However the rendering of a node ends, the scopes are those from before it. -/
theorem Node.moves_render : (node : Node) → Moves (Keeps 0) (Node.render input node)
  | .data _ text => moves_emit text
  | .output _ expr _ _ =>
    .bind (moves_mark _ _) fun _ => .bind (moves_evaluate expr) fun v => moves_emitValue _ v
  | .cond position branches otherwise =>
    Node.moves_renderBranches position branches _ (Node.moves_renderAll otherwise)
  | .foreach _ _ _ body => by
    refine .bind (moves_mark _ _) fun _ => .bind (moves_evaluate _) fun value => ?_
    dsimp only
    split
    · exact .pure _
    · exact moves_withScope _ (moves_forItems _ _ (Node.moves_renderAll body) _ _)
  | .count _ name start stop body => by
    unfold Node.render
    split
    · exact .pure _
    · exact moves_withScope _ (moves_forCount _ _ _ (Node.moves_renderAll body) _)

theorem Node.moves_renderAll : (nodes : List Node) → Moves (Keeps 0) (Node.renderAll input nodes)
  | [] => .pure _
  | node :: rest => .bind (Node.moves_render node) fun _ => Node.moves_renderAll rest

theorem Node.moves_renderBranches (position : Position) :
    (branches : List (Expr × List Node)) → (otherwise : Render Unit) → Moves (Keeps 0) otherwise →
      Moves (Keeps 0) (Node.renderBranches input position branches otherwise)
  | [], _, last => last
  | (test, body) :: rest, otherwise, last => by
    refine .bind (moves_mark _ _) fun _ => .bind (moves_evaluate test) fun value => ?_
    split
    · exact Node.moves_renderAll body
    · exact Node.moves_renderBranches position rest otherwise last

end

theorem Node.scopes_render (node : Node) (m : Machine) : (Node.render input node m).2.scopes = m.scopes :=
  (Node.moves_render node m).scopes

/-- A template leaves the site that it is rendered in, and marks no other one. -/
theorem Template.sites_renderNodes (t : Template) (data : Scope) (sites : List Site) :
    (t.renderNodes data sites).2 = sites :=
  (Node.moves_renderAll t.nodes ⟨[], [], _ :: sites⟩).sites.tail_eq

theorem Template.sites_render (t : Template) (data : Scope) (sites : List Site) : (t.render data sites).2 = sites := by
  have left := t.sites_renderNodes data sites
  unfold Template.render
  split
  · next h => exact (congrArg Prod.snd h).symm.trans left
  · next h => exact left

end Nodes

/-! ## Rows of events -/

/-- What can happen to the sites from outside. -/
inductive SiteEvent where
  /-- A site is entered, of which nothing has been rendered yet. -/
  | enter (templateName filename source : Option String)
  /-- The active site is marked. -/
  | mark (line : Int) (expression : Option String)
  /-- A template is rendered, successfully or not. -/
  | render (t : Template) (data : Scope)
  /-- The active site is left. -/
  | leave

namespace SiteEvent

/-- The sites after an event. -/
def after (sites : List Site) : SiteEvent → List Site
  | enter templateName filename source => .fresh templateName filename source :: sites
  | mark line expression => Site.markActive sites line expression
  | render t data => (t.render data sites).2
  | leave => sites.tail

/-- The sites after a row of events. -/
def afterAll (sites : List Site) (events : List SiteEvent) : List Site :=
  events.foldl after sites

/-- Every site that is entered is left, and no other one. -/
inductive Nested : List SiteEvent → Prop where
  | nil : Nested []
  | mark {line : Int} {expression : Option String} {rest : List SiteEvent} : Nested rest →
      Nested (mark line expression :: rest)
  | render {t : Template} {data : Scope} {rest : List SiteEvent} : Nested rest → Nested (render t data :: rest)
  | site {templateName filename source : Option String} {inner rest : List SiteEvent} : Nested inner → Nested rest →
      Nested (enter templateName filename source :: inner ++ leave :: rest)

variable {events before rest inner : List SiteEvent}

@[simp] theorem afterAll_append (sites : List Site) (events more : List SiteEvent) :
    afterAll sites (events ++ more) = afterAll (afterAll sites events) more :=
  List.foldl_append

@[simp] theorem afterAll_cons (sites : List Site) (event : SiteEvent) (events : List SiteEvent) :
    afterAll sites (event :: events) = afterAll (after sites event) events := rfl

@[simp] theorem afterAll_nil (sites : List Site) : afterAll sites [] = sites := rfl

/-- A well-nested row of events does no more to the sites around it than to mark the active one. -/
theorem Nested.marked (h : Nested events) (sites : List Site) : Site.Marked sites (afterAll sites events) := by
  induction h generalizing sites with
  | nil => exact refl_of Site.Marked sites
  | @mark line expression rest _ ih => exact trans_of Site.Marked (.inr ⟨line, expression, rfl⟩) (ih _)
  | @render t data rest _ ih =>
    rw [afterAll_cons, after, t.sites_render]
    exact ih sites
  | @site templateName filename source inner rest _ _ ihInner ihRest =>
    have left : (afterAll (.fresh templateName filename source :: sites) inner).tail = sites := (ihInner _).tail_eq
    rw [List.cons_append, afterAll_cons, afterAll_append, afterAll_cons, after, after, left]
    exact ihRest sites

/-- In a well-nested row, what stands in front of an exit ends in an entry and a well-nested row. -/
theorem Nested.exists_entry (h : Nested events) (split : events = before ++ leave :: rest) :
    ∃ outer templateName filename source inner,
      before = outer ++ enter templateName filename source :: inner ∧ Nested inner := by
  induction h generalizing before rest with
  | nil => simp at split
  | mark _ ih | render _ ih =>
    cases before with
    | nil => cases split
    | cons event before =>
      rw [List.cons_append] at split
      obtain ⟨rfl, later⟩ := List.cons.inj split
      obtain ⟨outer, templateName, filename, source, inner, rfl, nested⟩ := ih later
      exact ⟨_ :: outer, templateName, filename, source, inner, rfl, nested⟩
  | @site templateName filename source inner rest' nestedInner _ ihInner ihRest =>
    cases before with
    | nil => cases split
    | cons event before =>
      rw [List.cons_append, List.cons_append] at split
      obtain ⟨rfl, later⟩ := List.cons.inj split
      rcases List.append_eq_append_iff.1 later with ⟨front, rfl, same⟩ | ⟨back, rfl, same⟩
      · -- The exit is the one of this site, or it comes later.
        cases front with
        | nil => exact ⟨[], templateName, filename, source, inner, by simp, nestedInner⟩
        | cons event front =>
          rw [List.cons_append] at same
          obtain ⟨rfl, behind⟩ := List.cons.inj same
          obtain ⟨outer, templateName', filename', source', inner', rfl, nested⟩ := ihRest behind
          exact ⟨enter templateName filename source :: inner ++ leave :: outer, templateName', filename', source',
            inner', by simp, nested⟩
      · -- The exit is the one of this site, or it stands inside of it.
        cases back with
        | nil => exact ⟨[], templateName, filename, source, before, rfl, by simpa using nestedInner⟩
        | cons event back =>
          rw [List.cons_append] at same
          obtain ⟨rfl, -⟩ := List.cons.inj same
          obtain ⟨outer, templateName', filename', source', inner', rfl, nested⟩ := ihInner rfl
          exact ⟨_ :: outer, templateName', filename', source', inner', rfl, nested⟩

/-- The exit that belongs to an entry leads back to the sites in front of the entry. -/
theorem afterAll_site (sites : List Site) (outer : List SiteEvent) (templateName filename source : Option String)
    (nested : Nested inner) :
    afterAll sites (outer ++ enter templateName filename source :: inner ++ [leave]) = afterAll sites outer := by
  have left := (nested.marked (.fresh templateName filename source :: afterAll sites outer)).tail_eq
  rw [afterAll_append, afterAll_append, afterAll_cons, afterAll_cons, afterAll_nil, after, after]
  exact left

/-- **Every exit and every rendering leads back to the sites in front of its entry, and a node leaves the scopes that
it found.** A mark changes the line and the expression of the active site and nothing else. -/
theorem contexts_are_restored (nested : Nested events) :
    (∀ before rest, events = before ++ leave :: rest →
      ∃ outer templateName filename source inner,
        before = outer ++ enter templateName filename source :: inner ∧ Nested inner)
    ∧ (∀ outer templateName filename source inner rest, Nested inner →
      events = outer ++ enter templateName filename source :: inner ++ leave :: rest → ∀ sites,
        afterAll sites (outer ++ enter templateName filename source :: inner ++ [leave]) = afterAll sites outer)
    ∧ (∀ before t data rest, events = before ++ render t data :: rest →
      ∀ sites, afterAll sites (before ++ [render t data]) = afterAll sites before)
    ∧ (∀ before line expression rest, events = before ++ mark line expression :: rest → ∀ sites,
      (afterAll sites (before ++ [mark line expression])).tail = (afterAll sites before).tail
        ∧ (afterAll sites (before ++ [mark line expression])).head?
          = (afterAll sites before).head?.map fun site =>
            ⟨site.templateName, site.filename, site.source, line, expression⟩)
    ∧ ∀ (input : RenderInput) (node : Node) (m : Machine),
      (Node.render input node m).2.scopes = m.scopes ∧ (Node.render input node m).2.sites.tail = m.sites.tail := by
  refine ⟨fun before rest split => nested.exists_entry split, ?_, ?_, ?_, ?_⟩
  · intro outer templateName filename source inner rest nestedInner _ sites
    exact afterAll_site sites outer templateName filename source nestedInner
  · intro before t data rest _ sites
    rw [afterAll_append, afterAll_cons, afterAll_nil, after, t.sites_render]
  · intro before line expression rest _ sites
    rw [afterAll_append, afterAll_cons, afterAll_nil, after]
    exact ⟨Site.tail_markActive _ _ _, Site.head?_markActive _ _ _⟩
  · intro input node m
    exact ⟨node.scopes_render m, (node.moves_render m).sites.tail_eq⟩

/-- A template whose filter raises a failure in the middle of a loop. -/
def raisingInLoop : Template :=
  ⟨[.count .start "i" 1 2 [.output .start (.filter .start (.path .start ["i"]) "raises") "{i|raises}" true]],
    ⟨[("raises", fun _ => .error (.raised "ValueError" "no"))], 0⟩, ⟨some "inner", none⟩, "", false⟩

/-- Inside of a site that is marked, another one is entered and left because a rendering in it fails. -/
theorem contexts_are_restored_after_failure :
    Nested [enter (some "outer") none none, mark 3 (some "{x}"), enter (some "page") none none, mark 7 none,
        render raisingInLoop [], leave, leave]
      ∧ (∃ fault, (raisingInLoop.render [] []).1 = .error fault)
      ∧ afterAll [] [enter (some "outer") none none, mark 3 (some "{x}"), enter (some "page") none none, mark 7 none,
          render raisingInLoop [], leave]
        = [⟨some "outer", none, none, 3, some "{x}"⟩] := by
  have inner : Nested [mark 7 none, render raisingInLoop []] := .mark (.render .nil)
  have nested : Nested ([enter (some "outer") none none, mark 3 (some "{x}"), enter (some "page") none none,
      mark 7 none, render raisingInLoop [], leave, leave]) :=
    .site (.mark (.site inner .nil)) .nil
  refine ⟨nested, ⟨_, rfl⟩, ?_⟩
  exact (contexts_are_restored nested).2.1 [enter (some "outer") none none, mark 3 (some "{x}")] _ _ _ _ [leave] inner
    rfl []

end SiteEvent

end Stencil
