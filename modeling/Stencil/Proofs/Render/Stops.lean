import Stencil.Proofs.Render.Failures

/-!
# What a failing rendering has marked

While an expression is evaluated the active site is marked with a line. For outputs, loops and first tests it is the
line of the expression's own tag, for the tests of further branches that of the conditional (`Node.stops`). A
rendering goes through the expressions in order up to the first one that fails, ends with the fault of this one, and
leaves the site marked with its line (`Node.renderAll_ends`).
-/

namespace Stencil

/-- An expression that is evaluated, the scopes around it, and the place whose line is marked meanwhile. -/
structure Stop extends Visit where
  marked : Position

mutual

/-- Where the rendering of a node in the given scopes evaluates an expression, in order, if nothing fails. -/
def Node.stops (input : RenderInput) (site : Option Site) : Node → List Scope → List Stop
  | .data _ _, _ => []
  | .output position expr _ _, scopes => [⟨⟨expr, scopes, true⟩, position⟩]
  | .cond position branches otherwise, scopes =>
    Node.stopsOfBranches input site position branches scopes (Node.stopsOfAll input site otherwise scopes)
  | .foreach position collection name body, scopes =>
    ⟨⟨.path position collection, scopes, false⟩, position⟩ :: match Value.resolve input.data scopes collection with
      | .ok v => (loopRounds (v.sequence?.getD [])).flatMap fun round =>
        Node.stopsOfAll input site body (roundScope name round :: scopes)
      | .error _ => []
  | .count _ name start stop body, scopes =>
    (loopRounds (integersFrom start stop)).flatMap fun round =>
      Node.stopsOfAll input site body (roundScope name round :: scopes)

/-- Where the rendering of nodes one after the other evaluates an expression. -/
def Node.stopsOfAll (input : RenderInput) (site : Option Site) : List Node → List Scope → List Stop
  | [], _ => []
  | node :: rest, scopes => Node.stops input site node scopes ++ Node.stopsOfAll input site rest scopes

/-- The tests of the conditional at `position` up to the first one that is true, all of them under its own line, and
the stops in its branch, or else those in the last part. -/
def Node.stopsOfBranches (input : RenderInput) (site : Option Site) (position : Position) :
    List (Expr × List Node) → List Scope → List Stop → List Stop
  | [], _, otherwise => otherwise
  | (test, body) :: rest, scopes, otherwise =>
    ⟨⟨test, scopes, false⟩, position⟩ :: match test.evaluate input scopes site with
      | .ok v =>
        if v.isTruthy then Node.stopsOfAll input site body scopes
        else Node.stopsOfBranches input site position rest scopes otherwise
      | .error _ => []

end

section Failures

variable {input : RenderInput} {site : Option Site} {fault : Fault} {stop : Stop}

variable (input site) in
/-- The stop with its fault, if its expression has no value. -/
def Stop.failure? (stop : Stop) : Option (Stop × Fault) :=
  match stop.value input site with
  | .ok _ => none
  | .error fault => some (stop, fault)

variable (input site) in
/-- The first of the stops whose expression has no value, and its fault. -/
def firstFailure (stops : List Stop) : Option (Stop × Fault) :=
  stops.findSome? (Stop.failure? input site)

@[simp] theorem firstFailure_nil : firstFailure input site [] = none := rfl

theorem firstFailure_append (stops others : List Stop) :
    firstFailure input site (stops ++ others) = (firstFailure input site stops).or (firstFailure input site others) :=
  List.findSome?_append

theorem firstFailure_cons_of_ok (stop : Stop) {v : Value} (evaluated : stop.value input site = .ok v) (rest : List Stop) :
    firstFailure input site (stop :: rest) = firstFailure input site rest := by
  rw [firstFailure, List.findSome?_cons, Stop.failure?, evaluated]
  rfl

theorem firstFailure_cons_of_error (stop : Stop) (failed : stop.value input site = .error fault) (rest : List Stop) :
    firstFailure input site (stop :: rest) = some (stop, fault) := by
  rw [firstFailure, List.findSome?_cons, Stop.failure?, failed]

end Failures

/-! ## Steps of the machine -/

/-- The line that the active site is marked with. -/
def Site.activeLine (sites : List Site) : Option Int :=
  sites.head?.map (·.line)

theorem Site.activeLine_markActive {sites : List Site} {origin : Option String × Option String}
    (active : activeOrigin sites = some origin) (line : Int) (expression : Option String) :
    activeLine (markActive sites line expression) = some line := by
  cases sites with
  | nil => cases active
  | cons site outer => rfl

namespace Render

/-- From the scopes `before`, the step either succeeds and leaves the scopes as `after` says and the site at its
origin, or it fails with the given fault while the line of the stop is marked. -/
def Ends (origin : Option String × Option String) (act : Render Unit) (before : List Scope)
    (after : List Scope → Prop) (outcome : Option (Stop × Fault)) : Prop :=
  ∀ m : Machine, m.scopes = before → Site.activeOrigin m.sites = some origin →
    match outcome with
    | none => (act m).1 = .ok () ∧ after (act m).2.scopes ∧ Site.activeOrigin (act m).2.sites = some origin
    | some (stop, fault) =>
      (act m).1 = .error fault ∧ Site.activeLine (act m).2.sites = some (stop.marked.line : Int)

variable {origin : Option String × Option String} {before : List Scope} {after : List Scope → Prop}
  {input : RenderInput} {site : Option Site}

theorem Ends.nothing (kept : after before) : Ends origin (pure ()) before after none := by
  rintro m rfl active
  exact ⟨rfl, kept, active⟩

theorem Ends.emit (s : String) (kept : after before) : Ends origin (Render.emit s) before after none := by
  rintro m rfl active
  exact ⟨rfl, kept, active⟩

/-- One step after another: what fails first decides. -/
theorem Ends.andThen {act next : Render Unit} {between : List Scope → Prop} {first second : Option (Stop × Fault)}
    (ran : Ends origin act before between first)
    (continued : ∀ scopes, between scopes → Ends origin next scopes after second) :
    Ends origin (do act; next) before after (first.or second) := by
  intro m same active
  have ended := ran m same active
  rw [bind_apply]
  rcases h : act m with ⟨r, m'⟩
  rw [h] at ended
  cases first with
  | none =>
    obtain ⟨rfl, left, active⟩ := ended
    exact continued _ left m' rfl active
  | some failure =>
    obtain ⟨rfl, line⟩ := ended
    exact ⟨rfl, line⟩

/-- A line is marked and an expression evaluated, and what follows goes on with the value. -/
theorem marked_evaluate_apply (known : site.map Site.origin = some origin) (m : Machine)
    (active : Site.activeOrigin m.sites = some origin) (input : RenderInput) (position : Position)
    (source : Option String) (expr : Expr) (next : Value → Render Unit) :
    ∃ marked : Machine, marked.scopes = m.scopes ∧ Site.activeLine marked.sites = some (position.line : Int)
      ∧ Site.activeOrigin marked.sites = some origin
      ∧ (do Render.mark position.line source; let v ← Render.evaluate input expr; next v : Render Unit) m
        = match expr.evaluate input m.scopes site with
          | .ok v => next v marked
          | .error fault => (.error fault, marked) := by
  let marked : Machine := { m with sites := Site.markActive m.sites position.line source }
  have ran : Render.mark position.line source m = (.ok (), marked) := rfl
  have active' : Site.activeOrigin marked.sites = some origin :=
    (Site.activeOrigin_markActive m.sites position.line source).trans active
  refine ⟨marked, rfl, Site.activeLine_markActive active _ _, active', ?_⟩
  rw [bind_apply, ran]
  dsimp only
  rw [bind_apply, evaluate_apply (active'.trans known.symm) input expr]
  cases expr.evaluate input marked.scopes site <;> rfl

/-- The value of an expression, for which a line is marked, and what follows it. -/
theorem Ends.stopped (known : site.map Site.origin = some origin) {expr : Expr} {position : Position}
    {source : Option String} {next : Value → Render Unit} {rest : List Stop}
    (continued : ∀ v, expr.evaluate input before site = .ok v →
      Ends origin (next v) before after (firstFailure input site rest)) :
    Ends origin (do Render.mark position.line source; let v ← Render.evaluate input expr; next v) before after
      (firstFailure input site (⟨⟨expr, before, false⟩, position⟩ :: rest)) := by
  rintro m rfl active
  obtain ⟨marked, scopes, line, active', ran⟩ :=
    marked_evaluate_apply known m active input position source expr next
  rw [ran]
  have unprinted : (⟨expr, m.scopes, false⟩ : Visit).value input site = expr.evaluate input m.scopes site :=
    Visit.value_unprinted expr m.scopes
  cases value : expr.evaluate input m.scopes site with
  | error fault =>
    rw [firstFailure_cons_of_error ⟨⟨expr, m.scopes, false⟩, position⟩ (unprinted.trans value)]
    exact ⟨rfl, line⟩
  | ok v =>
    rw [firstFailure_cons_of_ok ⟨⟨expr, m.scopes, false⟩, position⟩ (unprinted.trans value)]
    exact continued v value marked scopes active'

/-- The value of an expression, for which a line is marked, and its output. -/
theorem Ends.printed (known : site.map Site.origin = some origin) {expr : Expr} {position : Position}
    {source : Option String} {escape : Bool} (kept : after before) :
    Ends origin (do Render.mark position.line source; let v ← Render.evaluate input expr; emitValue escape v)
      before after (firstFailure input site [⟨⟨expr, before, true⟩, position⟩]) := by
  rintro m rfl active
  obtain ⟨marked, scopes, line, active', ran⟩ :=
    marked_evaluate_apply known m active input position source expr (emitValue escape)
  rw [ran]
  cases value : expr.evaluate input m.scopes site with
  | error fault =>
    rw [firstFailure_cons_of_error ⟨⟨expr, m.scopes, true⟩, position⟩
      (Visit.value_printed_eq_error_iff.2 (.inl value))]
    exact ⟨rfl, line⟩
  | ok v =>
    dsimp only
    rw [emitValue, outputText_eq]
    cases text : v.print with
    | error fault =>
      rw [firstFailure_cons_of_error ⟨⟨expr, m.scopes, true⟩, position⟩
        (Visit.value_printed_eq_error_iff.2 (.inr ⟨v, value, text⟩))]
      exact ⟨rfl, line⟩
    | ok s =>
      rw [firstFailure_cons_of_ok ⟨⟨expr, m.scopes, true⟩, position⟩
        (Visit.value_printed_eq_ok_iff.2 ⟨value, Value.undisplayed?_of_print text⟩)]
      exact Ends.emit _ (scopes.symm ▸ kept) marked rfl active'

theorem Ends.inScope {scope : Scope} {act : Render Unit} {outcome : Option (Stop × Fault)}
    (ran : Ends origin act (scope :: before) (fun scopes => scopes.tail = before) outcome) :
    Ends origin (withScope scope act) before (· = before) outcome := by
  rintro m rfl active
  have ended := ran { m with scopes := scope :: m.scopes } rfl active
  cases outcome <;> exact ended

theorem Ends.entered {name : String} {scope : Scope} {outer : List Scope} {round : LoopState × Value}
    {next : Render Unit} {outcome : Option (Stop × Fault)} (shared : Shared name scope)
    (continued : Ends origin next (roundScope name round :: outer) after outcome) :
    Ends origin (do enterRound round.1 name round.2; next) (scope :: outer) after outcome := by
  intro m same active
  rw [bind_apply, enterRound_apply, same, enteredScopes_cons shared]
  exact continued { m with scopes := roundScope name round :: outer } rfl active

section Rounds

variable {name : String} {outer : List Scope} {body : Render Unit} {stops : List Scope → List Stop}

variable (input site name outer stops) in
/-- The first failure in the rounds of a loop, given the stops of its body in a scope. -/
def failureInRounds (rounds : List (LoopState × Value)) : Option (Stop × Fault) :=
  firstFailure input site (rounds.flatMap fun round => stops (roundScope name round :: outer))

/-- One round and those after it. -/
theorem Ends.round (round : LoopState × Value) {scope : Scope} {rest : Render Unit}
    {rounds : List (LoopState × Value)} (shared : Shared name scope)
    (ran : ∀ scopes, Ends origin body scopes (· = scopes) (firstFailure input site (stops scopes)))
    (continued : ∀ scope, Shared name scope → Ends origin rest (scope :: outer)
      (fun scopes => scopes.tail = outer) (failureInRounds input site name outer stops rounds)) :
    Ends origin (do enterRound round.1 name round.2; body; rest) (scope :: outer)
      (fun scopes => scopes.tail = outer) (failureInRounds input site name outer stops (round :: rounds)) := by
  rw [failureInRounds, List.flatMap_cons, firstFailure_append]
  refine Ends.entered shared (Ends.andThen (ran _) ?_)
  rintro scopes rfl
  exact continued _ (shared_roundScope name round)

theorem forItems_ends (length : Nat)
    (ran : ∀ scopes, Ends origin body scopes (· = scopes) (firstFailure input site (stops scopes)))
    (items : List Value) (index : Nat) (scope : Scope) (shared : Shared name scope) :
    Ends origin (forItems name length body index items) (scope :: outer) (fun scopes => scopes.tail = outer)
      (failureInRounds input site name outer stops
        ((items.zipIdx index).map fun (item, i) => (⟨i, length⟩, item))) := by
  induction items generalizing index scope with
  | nil => exact Ends.nothing rfl
  | cons item rest ih =>
    rw [forItems, List.zipIdx_cons, List.map_cons]
    exact Ends.round (⟨index, length⟩, item) shared ran fun scope shared => ih (index + 1) scope shared

variable (outer) in
theorem forCount_ends (start : Int) (length : Nat)
    (ran : ∀ scopes, Ends origin body scopes (· = scopes) (firstFailure input site (stops scopes)))
    (rounds : Nat) (scope : Scope) (shared : Shared name scope) (left : rounds ≤ length) :
    Ends origin (forCount name start length body rounds) (scope :: outer) (fun scopes => scopes.tail = outer)
      (failureInRounds input site name outer stops
        ((List.range' (length - rounds) rounds).map fun i : Nat => (⟨i, length⟩, .int (start + i)))) := by
  induction rounds generalizing scope with
  | zero => exact Ends.nothing rfl
  | succ rounds ih =>
    have next : length - (rounds + 1) + 1 = length - rounds := by omega
    rw [forCount, List.range'_succ, List.map_cons, next]
    exact Ends.round (⟨(length - (rounds + 1) : Nat), length⟩, .int (start + (length - (rounds + 1) : Nat))) shared
      ran fun scope shared => ih scope shared (by omega)

end Rounds

end Render

/-! ## Nodes -/

section Nodes

variable {origin : Option String × Option String} {input : RenderInput} {site : Option Site}

open Render

mutual

/-- Rendering a node goes through its stops up to the first failure. -/
theorem Node.render_ends (known : site.map Site.origin = some origin) (node : Node) (scopes : List Scope) :
    Ends origin (Node.render input node) scopes (· = scopes) (firstFailure input site (node.stops input site scopes))
    := by
  cases node with
  | data position text => exact Ends.emit text rfl
  | output position expr source escape => exact Ends.printed known rfl
  | cond position branches otherwise =>
    exact Node.renderBranches_ends known position branches scopes (Node.renderAll_ends known otherwise scopes)
  | foreach position collection name body =>
    have ran := Node.renderAll_ends known body
    refine Ends.stopped known fun v found => ?_
    have found : Value.resolve input.data scopes collection = .ok v := found
    rw [found]
    dsimp only
    split
    · next none =>
      rw [List.isEmpty_iff.1 none]
      exact Ends.nothing rfl
    · exact Ends.inScope (forItems_ends _ ran _ 0 _ (shared_loopScope name _))
  | count position name start stop body =>
    have ran := Node.renderAll_ends known body
    rw [Node.render, Node.stops, loopRounds_integersFrom]
    split
    · next none =>
      rw [show (stop - start + 1).toNat = 0 by omega]
      exact Ends.nothing rfl
    · have rounds := forCount_ends scopes start (stop - start + 1).toNat ran (stop - start + 1).toNat _
        (shared_loopScope name (stop - start + 1).toNat) (Nat.le_refl _)
      rw [Nat.sub_self] at rounds
      exact Ends.inScope rounds

theorem Node.renderAll_ends (known : site.map Site.origin = some origin) (nodes : List Node) (scopes : List Scope) :
    Ends origin (Node.renderAll input nodes) scopes (· = scopes)
      (firstFailure input site (Node.stopsOfAll input site nodes scopes)) := by
  cases nodes with
  | nil => exact Ends.nothing rfl
  | cons node rest =>
    rw [Node.stopsOfAll, firstFailure_append]
    refine Ends.andThen (Node.render_ends known node scopes) ?_
    rintro _ rfl
    exact Node.renderAll_ends known rest _

theorem Node.renderBranches_ends (known : site.map Site.origin = some origin) (position : Position)
    (branches : List (Expr × List Node)) (scopes : List Scope) {otherwise : Render Unit} {stops : List Stop}
    (last : Ends origin otherwise scopes (· = scopes) (firstFailure input site stops)) :
    Ends origin (Node.renderBranches input position branches otherwise) scopes (· = scopes)
      (firstFailure input site (Node.stopsOfBranches input site position branches scopes stops)) := by
  cases branches with
  | nil => exact last
  | cons branch rest =>
    obtain ⟨test, body⟩ := branch
    refine Ends.stopped known fun v tested => ?_
    rw [tested]
    dsimp only
    split
    · exact Node.renderAll_ends known body scopes
    · exact Node.renderBranches_ends known position rest scopes last

end

end Nodes

/-! ## Templates -/

namespace Template

variable {t : Template} {data : Scope}

/-- The first failure of a rendering of the template. -/
def failure? (t : Template) (data : Scope) : Option (Stop × Fault) :=
  firstFailure ⟨data, t.filters⟩ (some t.ownSite) (Node.stopsOfAll ⟨data, t.filters⟩ (some t.ownSite) t.nodes [])

end Template

end Stencil
