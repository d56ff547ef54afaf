import Stencil.Render.Machine

/-!
# What nodes mean

The rendering machine shares one output and one stack of scopes among all nodes, and a loop changes one
scope from round to round. Here every node has a meaning of its own: the parts of the output that it makes
in given scopes, or the first failure on the way to them. `Node.meaning` is defined by recursion on the tree
and nothing in it is ever changed; the scope of a round is a new one.

`Node.renderText_eq_meaning` says that the machine writes what the nodes mean. It rests on `Yields`, which
says of a step of the machine what it adds to the output and in which scopes it leaves the machine, also if
it fails.
-/

namespace Stencil

/-- A part of the output: literal text, or the value of an output in the scopes around it. -/
inductive Part where
  | literal (text : String)
  | value (expr : Expr) (escape : Bool) (scopes : List Scope) (value : Value)

/-- What `output` makes of a value: what prints trusted markup becomes this, all else becomes plain text. -/
def Value.stringified (v : Value) : Value :=
  if v.printsMarkup then .markup v.output else .text v.output

namespace Part

/-- The text of a part. -/
def text : Part → String
  | literal text => text
  | value _ escape _ v => if escape then Html.escapeValue v.stringified else v.output

/-- The texts of the parts, put together. -/
def joined (parts : List Part) : String :=
  String.join (parts.map text)

end Part

/-- Results put together in order, up to the first failure. -/
def inOrder {α : Type} : List (Except Fault (List α)) → Except Fault (List α)
  | [] => .ok []
  | first :: rest => do
    let xs ← first
    let ys ← inOrder rest
    pure (xs ++ ys)

/-- The rounds of a loop over the given items: the state of the loop and the item. -/
def loopRounds (items : List Value) : List (LoopState × Value) :=
  items.zipIdx.map fun (item, index) => (⟨index, items.length⟩, item)

/-- The scope of one round of a loop: the loop's state, and the item under its name, which wins over the
name of the state. -/
def roundScope (name : String) (round : LoopState × Value) : Scope :=
  Value.insert [(.text Render.loopName, .loop round.1)] (.text name) round.2

/-- The integers from `start` to `stop`. -/
def integersFrom (start stop : Int) : List Value :=
  (List.range (stop - start + 1).toNat).map fun i : Nat => .int (start + i)

mutual

/-- The parts that a node makes in the given scopes, for messages about the given site. -/
def Node.parts (input : RenderInput) (site : Option Site) : Node → List Scope → Except Fault (List Part)
  | .data _ text, _ => .ok [.literal text]
  | .output _ expr _ escape, scopes => do
    let v ← expr.evaluate input scopes site
    v.print.map fun _ => [.value expr escape scopes v]
  | .cond _ branches otherwise, scopes =>
    Node.partsOfBranches input site branches scopes (Node.partsOfAll input site otherwise scopes)
  | .foreach _ collection name body, scopes => do
    let v ← Value.resolve input.data scopes collection
    inOrder ((loopRounds (v.sequence?.getD [])).map fun round =>
      Node.partsOfAll input site body (roundScope name round :: scopes))
  | .count _ name start stop body, scopes =>
    inOrder ((loopRounds (integersFrom start stop)).map fun round =>
      Node.partsOfAll input site body (roundScope name round :: scopes))

/-- The parts that nodes make one after the other. -/
def Node.partsOfAll (input : RenderInput) (site : Option Site) :
    List Node → List Scope → Except Fault (List Part)
  | [], _ => .ok []
  | node :: rest, scopes => do
    let xs ← Node.parts input site node scopes
    let ys ← Node.partsOfAll input site rest scopes
    pure (xs ++ ys)

/-- The parts of the first branch whose test is true, or else those of the last part. -/
def Node.partsOfBranches (input : RenderInput) (site : Option Site) :
    List (Expr × List Node) → List Scope → Except Fault (List Part) → Except Fault (List Part)
  | [], _, otherwise => otherwise
  | (test, body) :: rest, scopes, otherwise => do
    let v ← test.evaluate input scopes site
    if v.isTruthy then Node.partsOfAll input site body scopes
    else Node.partsOfBranches input site rest scopes otherwise

end

/-- The text that nodes mean in the given scopes, or the first failure. -/
def Node.meaning (input : RenderInput) (site : Option Site) (nodes : List Node) (scopes : List Scope) :
    Except Fault String :=
  (Node.partsOfAll input site nodes scopes).map Part.joined

/-! ## Sites

Rendering marks the active site with lines and expressions. A failing filter reports the name and the source
of its template only, which no mark changes. -/

namespace Site

/-- What a failing filter reports of a site. -/
def origin (s : Site) : Option String × Option String :=
  (s.templateName, s.source)

/-- What a failing filter reports of the active site. -/
def activeOrigin (sites : List Site) : Option (Option String × Option String) :=
  sites.head?.map origin

theorem activeOrigin_markActive (sites : List Site) (line : Int) (expression : Option String) :
    activeOrigin (markActive sites line expression) = activeOrigin sites := by
  cases sites <;> rfl

end Site

namespace Expr

theorem filterFailure_congr {site site' : Option Site}
    (same : site.map Site.origin = site'.map Site.origin) (position : Position) (operand : Expr)
    (name : String) (v : Value) (message : String) :
    filterFailure site position operand name v message
      = filterFailure site' position operand name v message := by
  cases site <;> cases site' <;> simp_all [filterFailure, Site.origin]

theorem applyTo_congr {site site' : Option Site}
    (same : site.map Site.origin = site'.map Site.origin) (input : RenderInput) (position : Position)
    (operand : Expr) (name : String) (v : Value) :
    applyTo input site position operand name v = applyTo input site' position operand name v := by
  unfold applyTo
  split
  · rfl
  · rw [filterFailure_congr same]
  · rfl

/-- The value of an expression does not depend on the marks of the active site. -/
theorem evaluate_congr {site site' : Option Site}
    (same : site.map Site.origin = site'.map Site.origin) (input : RenderInput) (scopes : List Scope)
    (expr : Expr) : expr.evaluate input scopes site = expr.evaluate input scopes site' := by
  induction expr with
  | const | path => rfl
  | filter position operand name ih =>
    rw [evaluate, evaluate, ih]
    split
    · exact applyTo_congr same input position operand name _
    · rfl
  | not position operand ih => rw [evaluate, evaluate, ih]
  | compare position left equal right ihl ihr => rw [evaluate, evaluate, ihl, ihr]

end Expr

/-! ## Steps of the machine -/

namespace Render

/-- From the scopes `before`, the step adds the parts of `meaning` to the output, or fails as it does. It
leaves the scopes as `after` says, and the site at its origin, in either case. -/
def Yields (origin : Option (Option String × Option String)) (act : Render Unit) (before : List Scope)
    (after : List Scope → Prop) (meaning : Except Fault (List Part)) : Prop :=
  ∀ m : Machine, m.scopes = before → Site.activeOrigin m.sites = origin →
    (act m).1 = meaning.map (fun _ => ())
      ∧ after (act m).2.scopes
      ∧ Site.activeOrigin (act m).2.sites = origin
      ∧ ∀ parts, meaning = .ok parts → (act m).2.output = (parts.map Part.text).reverse ++ m.output

variable {origin : Option (Option String × Option String)} {before : List Scope}
  {after : List Scope → Prop}

theorem outputText_eq (escape : Bool) (v : Value) :
    outputText escape v = v.print.map fun _ => if escape then Html.escapeValue v.stringified else v.output := by
  unfold outputText Value.print
  cases v.undisplayed? with
  | some => rfl
  | none => cases escape <;> cases trusted : v.printsMarkup <;> simp [Except.map, Value.stringified, trusted] <;> rfl

theorem Yields.nothing (kept : after before) : Yields origin (pure ()) before after (.ok []) := by
  rintro m rfl site
  exact ⟨rfl, kept, site, by rintro parts ⟨rfl⟩; rfl⟩

theorem Yields.emit (part : Part) (kept : after before) :
    Yields origin (Render.emit part.text) before after (.ok [part]) := by
  rintro m rfl site
  exact ⟨rfl, kept, site, by rintro parts ⟨rfl⟩; rfl⟩

/-- A value is added to the output, unless it cannot be printed. -/
theorem Yields.emitValue (expr : Expr) (escape : Bool) (scopes : List Scope) (v : Value) (kept : after before) :
    Yields origin (Render.emitValue escape v) before after (v.print.map fun _ => [.value expr escape scopes v]) := by
  rw [Render.emitValue, outputText_eq]
  cases v.print with
  | ok => exact Yields.emit (.value expr escape scopes v) kept
  | error fault =>
    rintro m rfl site
    exact ⟨rfl, kept, site, by rintro parts ⟨⟩⟩

theorem bind_apply {α β : Type} (act : Render α) (next : α → Render β) (m : Machine) :
    (act >>= next) m = match act m with
      | (.ok a, m') => next a m'
      | (.error fault, m') => (.error fault, m') := by
  change (do let x ← act; ExceptT.bindCont next x : StateM Machine _) m = _
  simp only [bind, StateT.bind]
  rcases act m with ⟨_ | _, m'⟩ <;> rfl

/-- One step after another: what fails first decides. -/
theorem Yields.andThen {act next : Render Unit} {between : List Scope → Prop}
    {first second : Except Fault (List Part)} (ran : Yields origin act before between first)
    (kept : ∀ scopes, between scopes → after scopes)
    (continued : ∀ scopes, between scopes → Yields origin next scopes after second) :
    Yields origin (do act; next) before after (do let xs ← first; let ys ← second; pure (xs ++ ys)) := by
  intro m same site
  obtain ⟨result, left, site', output⟩ := ran m same site
  rw [bind_apply]
  rcases h : act m with ⟨r, m'⟩
  rw [h] at result left site' output
  cases first with
  | error fault =>
    obtain rfl : r = .error fault := result
    exact ⟨rfl, kept _ left, site', by rintro parts ⟨⟩⟩
  | ok xs =>
    obtain rfl : r = .ok () := result
    obtain ⟨result, left, site, output'⟩ := continued _ left m' rfl site'
    refine ⟨?_, left, site, ?_⟩
    · rw [result]
      cases second <;> rfl
    · intro parts joined
      cases second with
      | error fault => cases joined
      | ok ys =>
        obtain rfl : xs ++ ys = parts := Except.ok.inj joined
        rw [output' ys rfl, output xs rfl, List.map_append, List.reverse_append, List.append_assoc]

/-- A step that neither fails nor adds to the output, and what follows it. -/
theorem Yields.silently (act : Render Unit) (change : Machine → Machine) {next : Render Unit}
    {meaning : Except Fault (List Part)} {middle : List Scope}
    (ran : ∀ m, act m = (.ok (), change m)) (moved : ∀ m, m.scopes = before → (change m).scopes = middle)
    (placed : ∀ m, Site.activeOrigin (change m).sites = Site.activeOrigin m.sites)
    (silent : ∀ m, (change m).output = m.output) (continued : Yields origin next middle after meaning) :
    Yields origin (do act; next) before after meaning := by
  intro m same site
  rw [bind_apply, ran]
  obtain ⟨result, left, site', output⟩ := continued (change m) (moved m same) ((placed m).trans site)
  exact ⟨result, left, site', fun parts h => by rw [output parts h, silent]⟩

theorem Yields.marked {line : Nat} {expression : Option String} {next : Render Unit}
    {meaning : Except Fault (List Part)} (continued : Yields origin next before after meaning) :
    Yields origin (do Render.mark line expression; next) before after meaning := by
  refine Yields.silently (Render.mark line expression) _ (fun m => rfl) ?_ ?_ ?_ continued
  · exact fun m same => same
  · exact fun m => Site.activeOrigin_markActive m.sites line expression
  · exact fun m => rfl

/-- An expression is evaluated in the scopes of the machine, which stays as it is. -/
theorem evaluate_apply {site : Option Site} {m : Machine} (same : Site.activeOrigin m.sites = site.map Site.origin)
    (input : RenderInput) (expr : Expr) :
    Render.evaluate input expr m = (expr.evaluate input m.scopes site, m) := by
  have machine : (get : Render Machine) m = (.ok m, m) := rfl
  rw [← Expr.evaluate_congr same input m.scopes expr]
  unfold Render.evaluate
  rw [bind_apply, machine]
  dsimp only
  cases expr.evaluate input m.scopes m.sites.head? <;> rfl

/-- The value of an expression, and what follows it. -/
theorem Yields.evaluated {input : RenderInput} {site : Option Site} {expr : Expr}
    {next : Value → Render Unit} {meaning : Value → Except Fault (List Part)}
    (known : site.map Site.origin = origin) (kept : after before)
    (continued : ∀ v, Yields origin (next v) before after (meaning v)) :
    Yields origin (do let v ← Render.evaluate input expr; next v) before after
      (do let v ← expr.evaluate input before site; meaning v) := by
  rintro m rfl active
  rw [bind_apply, evaluate_apply (active.trans known.symm)]
  cases expr.evaluate input m.scopes site with
  | error fault => exact ⟨rfl, kept, active, by rintro parts ⟨⟩⟩
  | ok v => exact continued v m rfl active

/-- A scope that is opened and closed again leaves the scopes as they were. -/
theorem Yields.inScope {scope : Scope} {act : Render Unit} {meaning : Except Fault (List Part)}
    (ran : Yields origin act (scope :: before) (fun scopes => scopes.tail = before) meaning) :
    Yields origin (withScope scope act) before (· = before) meaning := by
  rintro m rfl site
  obtain ⟨result, left, site', output⟩ := ran { m with scopes := scope :: m.scopes } rfl site
  exact ⟨result, left, site', output⟩

end Render

/-! ## Loops -/

@[simp] theorem Value.same_text (s t : String) : Value.same (.text s) (.text t) = decide (s = t) := by
  simp [Value.same, Value.sameLeaf, Value.number?, Value.text?]

namespace Render

/-- A scope that the rounds of a loop share: entering a round turns it into the scope of that round. -/
def Shared (name : String) (scope : Scope) : Prop :=
  ∀ round : LoopState × Value,
    Value.insert (Value.insert scope (.text loopName) (.loop round.1)) (.text name) round.2
      = roundScope name round

theorem shared_loopScope (name : String) (length : Int) : Shared name (loopScope length) := by
  intro round
  simp [loopScope, roundScope, Value.insert]

theorem shared_roundScope (name : String) (round : LoopState × Value) :
    Shared name (roundScope name round) := by
  intro next
  by_cases h : loopName = name <;> simp [roundScope, Value.insert, h]

variable {origin : Option (Option String × Option String)}

/-- The scopes in a round, given those after the one before it. -/
def enteredScopes (name : String) (round : LoopState × Value) : List Scope → List Scope
  | [] => []
  | scope :: outer =>
    Value.insert (Value.insert scope (.text loopName) (.loop round.1)) (.text name) round.2 :: outer

theorem enterRound_apply (name : String) (round : LoopState × Value) (m : Machine) :
    enterRound round.1 name round.2 m = (.ok (), { m with scopes := enteredScopes name round m.scopes }) := by
  obtain ⟨output, _ | ⟨scope, outer⟩, sites⟩ := m <;> rfl

theorem enteredScopes_cons {name : String} {scope : Scope} (shared : Shared name scope) (round : LoopState × Value)
    (outer : List Scope) : enteredScopes name round (scope :: outer) = roundScope name round :: outer := by
  rw [enteredScopes, shared round]

theorem Yields.entered {name : String} {scope : Scope} {outer : List Scope} {round : LoopState × Value}
    {after : List Scope → Prop} {next : Render Unit} {meaning : Except Fault (List Part)}
    (shared : Shared name scope)
    (continued : Yields origin next (roundScope name round :: outer) after meaning) :
    Yields origin (do enterRound round.1 name round.2; next) (scope :: outer) after meaning := by
  refine Yields.silently (enterRound round.1 name round.2)
    (fun m => { m with scopes := enteredScopes name round m.scopes }) (enterRound_apply name round) ?_ ?_ ?_ continued
  · rintro m same
    exact (congrArg (enteredScopes name round) same).trans (enteredScopes_cons shared round outer)
  · exact fun m => rfl
  · exact fun m => rfl

/-- What the rounds of a loop mean, given what its body means in a scope. -/
def meaningOfRounds (name : String) (outer : List Scope)
    (meaning : List Scope → Except Fault (List Part)) (rounds : List (LoopState × Value)) :
    Except Fault (List Part) :=
  inOrder (rounds.map fun round => meaning (roundScope name round :: outer))

section Rounds

variable {name : String} {outer : List Scope} {body : Render Unit}
  {meaning : List Scope → Except Fault (List Part)}

/-- One round and those after it. -/
theorem Yields.round (round : LoopState × Value) {scope : Scope} {rest : Render Unit}
    {rounds : List (LoopState × Value)} (shared : Shared name scope)
    (ran : ∀ scopes, Yields origin body scopes (· = scopes) (meaning scopes))
    (continued : ∀ scope, Shared name scope → Yields origin rest (scope :: outer)
      (fun scopes => scopes.tail = outer) (meaningOfRounds name outer meaning rounds)) :
    Yields origin (do enterRound round.1 name round.2; body; rest) (scope :: outer)
      (fun scopes => scopes.tail = outer) (meaningOfRounds name outer meaning (round :: rounds)) := by
  refine Yields.entered shared (Yields.andThen (ran _) ?_ ?_)
  · rintro scopes rfl
    rfl
  · rintro scopes rfl
    exact continued _ (shared_roundScope name round)

/-- The rounds over a list change one scope in place, and mean what they mean in scopes of their own. -/
theorem forItems_yields (length : Nat)
    (ran : ∀ scopes, Yields origin body scopes (· = scopes) (meaning scopes))
    (items : List Value) (index : Nat) (scope : Scope) (shared : Shared name scope) :
    Yields origin (forItems name length body index items) (scope :: outer)
      (fun scopes => scopes.tail = outer)
      (meaningOfRounds name outer meaning
        ((items.zipIdx index).map fun (item, i) => (⟨i, length⟩, item))) := by
  induction items generalizing index scope with
  | nil => exact Yields.nothing rfl
  | cons item rest ih =>
    rw [forItems, List.zipIdx_cons, List.map_cons]
    exact Yields.round (⟨index, length⟩, item) shared ran
      fun scope shared => ih (index + 1) scope shared

variable (outer) in
/-- The rounds of a counting loop, as those over a list. -/
theorem forCount_yields (start : Int) (length : Nat)
    (ran : ∀ scopes, Yields origin body scopes (· = scopes) (meaning scopes))
    (rounds : Nat) (scope : Scope) (shared : Shared name scope) (left : rounds ≤ length) :
    Yields origin (forCount name start length body rounds) (scope :: outer)
      (fun scopes => scopes.tail = outer)
      (meaningOfRounds name outer meaning
        ((List.range' (length - rounds) rounds).map fun i : Nat => (⟨i, length⟩, .int (start + i)))) := by
  induction rounds generalizing scope with
  | zero => exact Yields.nothing rfl
  | succ rounds ih =>
    have next : length - (rounds + 1) + 1 = length - rounds := by omega
    rw [forCount, List.range'_succ, List.map_cons, next]
    exact Yields.round (⟨(length - (rounds + 1) : Nat), length⟩, .int (start + (length - (rounds + 1) : Nat)))
      shared ran fun scope shared => ih scope shared (by omega)

end Rounds

end Render

theorem loopRounds_integersFrom (start stop : Int) :
    loopRounds (integersFrom start stop)
      = (List.range' 0 (stop - start + 1).toNat).map fun i : Nat =>
          (⟨i, (stop - start + 1).toNat⟩, .int (start + i)) := by
  apply List.ext_getElem
  · simp [loopRounds, integersFrom]
  · intro i _ _
    simp [loopRounds, integersFrom]

/-! ## Nodes -/

section Nodes

variable {origin : Option (Option String × Option String)} {input : RenderInput} {site : Option Site}

open Render

mutual

/-- Rendering a node adds the parts that it means and leaves the scopes as they were. -/
theorem Node.render_yields (known : site.map Site.origin = origin) (node : Node) (scopes : List Scope) :
    Yields origin (Node.render input node) scopes (· = scopes) (node.parts input site scopes) := by
  cases node with
  | data position text => exact Yields.emit (.literal text) rfl
  | output position expr source escape =>
    refine Yields.marked (Yields.evaluated known rfl fun v => ?_)
    exact Yields.emitValue expr escape scopes v rfl
  | cond position branches otherwise =>
    exact Node.renderBranches_yields known position branches scopes
      (Node.renderAll_yields known otherwise scopes)
  | foreach position collection name body =>
    refine Yields.marked (Yields.evaluated known rfl fun v => ?_)
    have ran := Node.renderAll_yields known body
    dsimp only
    split
    · next none =>
      rw [List.isEmpty_iff.1 none]
      exact Yields.nothing rfl
    · exact Yields.inScope (forItems_yields _ ran _ 0 _ (shared_loopScope name _))
  | count position name start stop body =>
    have ran := Node.renderAll_yields known body
    rw [Node.render, Node.parts, loopRounds_integersFrom]
    split
    · next none =>
      rw [show (stop - start + 1).toNat = 0 by omega]
      exact Yields.nothing rfl
    · have rounds := forCount_yields scopes start (stop - start + 1).toNat ran
        (stop - start + 1).toNat _ (shared_loopScope name (stop - start + 1).toNat) (Nat.le_refl _)
      rw [Nat.sub_self] at rounds
      exact Yields.inScope rounds

theorem Node.renderAll_yields (known : site.map Site.origin = origin) (nodes : List Node)
    (scopes : List Scope) :
    Yields origin (Node.renderAll input nodes) scopes (· = scopes)
      (Node.partsOfAll input site nodes scopes) := by
  cases nodes with
  | nil => exact Yields.nothing rfl
  | cons node rest =>
    refine Yields.andThen (Node.render_yields known node scopes) (fun _ same => same) ?_
    rintro _ rfl
    exact Node.renderAll_yields known rest _

theorem Node.renderBranches_yields (known : site.map Site.origin = origin) (position : Position)
    (branches : List (Expr × List Node)) (scopes : List Scope) {otherwise : Render Unit}
    {meaning : Except Fault (List Part)} (last : Yields origin otherwise scopes (· = scopes) meaning) :
    Yields origin (Node.renderBranches input position branches otherwise) scopes (· = scopes)
      (Node.partsOfBranches input site branches scopes meaning) := by
  cases branches with
  | nil => exact last
  | cons branch rest =>
    obtain ⟨test, body⟩ := branch
    refine Yields.marked (Yields.evaluated known rfl fun v => ?_)
    split
    · exact Node.renderAll_yields known body scopes
    · exact Node.renderBranches_yields known position rest scopes last

end

end Nodes

/-- A machine without output gathers the texts of the parts, last one first, or fails as they do. -/
theorem Node.renderAll_gathers (input : RenderInput) (nodes : List Node) (scopes : List Scope)
    (sites : List Site) :
    (Node.renderAll input nodes ⟨[], scopes, sites⟩).1
        = (Node.partsOfAll input sites.head? nodes scopes).map (fun _ => ())
      ∧ ∀ parts, Node.partsOfAll input sites.head? nodes scopes = .ok parts →
        (Node.renderAll input nodes ⟨[], scopes, sites⟩).2.output = (parts.map Part.text).reverse := by
  have ran : Render.Yields (sites.head?.map Site.origin) (Node.renderAll input nodes) scopes (· = scopes)
      (Node.partsOfAll input sites.head? nodes scopes) := Node.renderAll_yields rfl nodes scopes
  obtain ⟨result, -, -, output⟩ := ran ⟨[], scopes, sites⟩ rfl rfl
  refine ⟨result, fun parts made => ?_⟩
  rw [output parts made, List.append_nil]

section Text

variable {input : RenderInput} {nodes : List Node} {scopes : List Scope} {sites : List Site}

theorem Node.renderText_of_fault {fault : Fault}
    (failed : Node.partsOfAll input sites.head? nodes scopes = .error fault) :
    (Node.renderText input nodes scopes sites).1 = .error fault := by
  obtain ⟨result, -⟩ := Node.renderAll_gathers input nodes scopes sites
  rw [failed] at result
  change Except.map _ (Node.renderAll input nodes ⟨[], scopes, sites⟩).1 = _
  rw [result]
  rfl

theorem Node.renderText_of_parts {parts : List Part}
    (made : Node.partsOfAll input sites.head? nodes scopes = .ok parts) :
    (Node.renderText input nodes scopes sites).1 = .ok (Part.joined parts) := by
  obtain ⟨result, output⟩ := Node.renderAll_gathers input nodes scopes sites
  rw [made] at result
  change Except.map (fun _ => String.join (Node.renderAll input nodes ⟨[], scopes, sites⟩).2.output.reverse)
    (Node.renderAll input nodes ⟨[], scopes, sites⟩).1 = _
  rw [result, output parts made, List.reverse_reverse]
  rfl

end Text

/-- If there are parts, the machine gathers them, and else it gathers nothing. -/
theorem Node.toOption_renderText_eq (input : RenderInput) (nodes : List Node) (scopes : List Scope) (sites : List Site) :
    (Node.renderText input nodes scopes sites).1.toOption
      = (Node.partsOfAll input sites.head? nodes scopes).toOption.map Part.joined := by
  cases made : Node.partsOfAll input sites.head? nodes scopes with
  | error fault => rw [Node.renderText_of_fault made]; rfl
  | ok parts => rw [Node.renderText_of_parts made]; rfl

/-- The text that the machine gathers is the meaning of the nodes in the given scopes, and a rendering that
fails does so with the first failure of that meaning. -/
theorem Node.renderText_eq_meaning (input : RenderInput) (nodes : List Node) (scopes : List Scope)
    (sites : List Site) :
    (Node.renderText input nodes scopes sites).1 = Node.meaning input sites.head? nodes scopes := by
  unfold Node.meaning
  cases made : Node.partsOfAll input sites.head? nodes scopes with
  | error fault => exact Node.renderText_of_fault made
  | ok parts => exact Node.renderText_of_parts made

end Stencil
