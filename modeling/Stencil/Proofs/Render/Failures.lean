import Stencil.Proofs.Render.Origin
import Stencil.Proofs.Render.Progress
import Stencil.Proofs.Value.Walking

/-!
# Where a rendering fails

Rendering evaluates one expression after the other: outputs, the tests up to the first true one, and the collections
of loops, in the scopes of the rounds around them (`Node.visits`); what is an output is printed, too. Nodes are
rendered exactly if each of these has a value (`Node.exists_partsOfAll_iff`). Of what the reader accepts only filters
can fail, and what comes to a limit: a number with too many digits in a path, and a value that has no text where one is
asked for (`Visit.Limits`). So a template whose filters return a value whatever they are given is rendered exactly if it
comes to no limit (`Template.exists_render_iff_of_total`).
-/

namespace Stencil

/-! ## Expressions -/

/-- A path fails only where a number is not converted. -/
theorem Value.exists_unconverted_of_resolve {data : Scope} {scopes : List Scope} {segments : List String} {fault : Fault}
    (failed : resolve data scopes segments = .error fault) : ∃ shown refusal, fault = .unconverted shown refusal := by
  have number {segment : String} {f : Option Int → Value} (failed : (segmentNumber? segment).map f = .error fault) :
      ∃ shown refusal, fault = .unconverted shown refusal := by
    rw [map_eq_error_iff, segmentNumber?] at failed
    split at failed
    · cases failed
    · split at failed
      · cases failed
      · exact ⟨_, _, (Except.error.inj failed).symm⟩
  have step {v : Value} {segment : String} (failed : descend v segment = .error fault) :
      ∃ shown refusal, fault = .unconverted shown refusal := by
    unfold descend at failed
    split at failed
    · split at failed
      · cases failed
      · exact number failed
    · split at failed
      · exact number failed
      · cases failed
  have walk (segments : List String) (v : Value) (failed : descendAll v segments = .error fault) :
      ∃ shown refusal, fault = .unconverted shown refusal := by
    induction segments generalizing v with
    | nil => cases failed
    | cons segment rest ih =>
      rw [descendAll] at failed
      split at failed
      · cases failed
      · split at failed
        · exact ih _ failed
        · next failed' => exact step (failed'.trans failed)
  cases segments with
  | nil => cases failed
  | cons name rest => exact walk rest _ failed

theorem Value.exists_unwritten_of_print {v : Value} {fault : Fault} (failed : v.print = .error fault) :
    ∃ u, v.undisplayed? = some u ∧ fault = .unwritten u := by
  unfold print at failed
  split at failed
  · next u obstacle => exact ⟨u, obstacle, (Except.error.inj failed).symm⟩
  · cases failed

/-- A comparison fails where a number cannot be written. -/
theorem Value.exists_number_of_compare {v w : Value} {fault : Fault} (failed : v.compare w = .error fault) :
    ∃ number ∈ [v, w], number.isNumber ∧ ∃ u, number.undisplayed? = some u ∧ fault = .unwritten u := by
  unfold compare at failed
  dsimp only at failed
  split at failed
  · next u obstacle =>
    refine (Except.error.inj failed) ▸ ?_
    split at obstacle
    · split at obstacle
      · next isNumber => exact ⟨w, by simp, isNumber, u, obstacle, rfl⟩
      · cases obstacle
    · split at obstacle
      · next isNumber => exact ⟨v, by simp, isNumber, u, obstacle, rfl⟩
      · cases obstacle
    · cases obstacle
  · cases failed

theorem Value.undisplayed?_of_print {v : Value} {s : String} (h : v.print = .ok s) : v.undisplayed? = none := by
  unfold print at h
  split at h
  · cases h
  · assumption

namespace Expr

/-- Is `part` the expression, or does it stand inside? -/
inductive Contains (part : Expr) : Expr → Prop
  | here : Contains part part
  | filter {around : Position} {inner : Expr} {outer : String} (deeper : Contains part inner) :
    Contains part (.filter around inner outer)
  | not {around : Position} {inner : Expr} (deeper : Contains part inner) : Contains part (.not around inner)
  | left {around : Position} {left right : Expr} {equal : Bool} (deeper : Contains part left) :
    Contains part (.compare around left equal right)
  | right {around : Position} {left right : Expr} {equal : Bool} (deeper : Contains part right) :
    Contains part (.compare around left equal right)

variable {input : RenderInput} {site : Option Site} {scopes : List Scope} {expr part : Expr} {fault : Fault}

theorem Sound.of_contains {known : List String} (sound : expr.Sound known) (contains : Contains part expr) :
    part.Sound known := by
  induction contains with
  | here => exact sound
  | filter _ ih => exact ih sound.1
  | not _ ih => exact ih sound
  | left _ ih => exact ih sound.1
  | right _ ih => exact ih sound.2

/-- If an expression has a value, so has every part. -/
theorem exists_evaluate_of_contains (contains : Contains part expr) {v : Value}
    (evaluated : expr.evaluate input scopes site = .ok v) : ∃ w, part.evaluate input scopes site = .ok w := by
  induction contains generalizing v with
  | here => exact ⟨v, evaluated⟩
  | filter _ ih =>
    rw [evaluate_filter] at evaluated
    obtain ⟨w, inner, -⟩ := bind_eq_ok_iff.1 evaluated
    exact ih inner
  | not _ ih =>
    rw [evaluate] at evaluated
    obtain ⟨w, inner, -⟩ := map_eq_ok_iff.1 evaluated
    exact ih inner
  | left _ ih =>
    rw [evaluate_compare] at evaluated
    obtain ⟨w, left, -⟩ := bind_eq_ok_iff.1 evaluated
    exact ih left
  | right _ ih =>
    rw [evaluate_compare] at evaluated
    obtain ⟨_, -, evaluated⟩ := bind_eq_ok_iff.1 evaluated
    obtain ⟨w, right, -⟩ := bind_eq_ok_iff.1 evaluated
    exact ih right

/-- The expression fails by itself: what it is made of has values. -/
inductive Breaks (input : RenderInput) (scopes : List Scope) (site : Option Site) (fault : Fault) : Expr → Prop
  | path {position : Position} {segments : List String}
    (failed : Value.resolve input.data scopes segments = .error fault) :
    Breaks input scopes site fault (.path position segments)
  | filter {position : Position} {operand : Expr} {name : String} {v : Value}
    (evaluated : operand.evaluate input scopes site = .ok v)
    (failed : applyTo input site position operand name v = .error fault) :
    Breaks input scopes site fault (.filter position operand name)
  | compare {position : Position} {left right : Expr} {equal : Bool} {v w : Value}
    (first : left.evaluate input scopes site = .ok v) (second : right.evaluate input scopes site = .ok w)
    (failed : v.compare w = .error fault) : Breaks input scopes site fault (.compare position left equal right)

theorem Breaks.evaluate_eq (breaks : Breaks input scopes site fault expr) :
    expr.evaluate input scopes site = .error fault := by
  cases breaks with
  | path failed => exact failed
  | filter evaluated failed =>
    rw [evaluate_filter, evaluated]
    exact failed
  | compare first second failed =>
    exact evaluate_compare_eq_error_iff.2 (.inr ⟨_, first, .inr ⟨_, second, failed⟩⟩)

/-- What keeps an expression from having a value is that a part of it fails. -/
theorem exists_breaks_of_evaluate (failed : expr.evaluate input scopes site = .error fault) :
    ∃ part, Contains part expr ∧ Breaks input scopes site fault part := by
  induction expr with
  | const _ value => cases failed
  | path _ segments => exact ⟨_, .here, .path failed⟩
  | filter position operand name ih =>
    rw [evaluate_filter, bind_eq_error_iff] at failed
    rcases failed with failed | ⟨v, evaluated, failed⟩
    · obtain ⟨part, contains, breaks⟩ := ih failed
      exact ⟨part, .filter contains, breaks⟩
    · exact ⟨_, .here, .filter evaluated failed⟩
  | not _ operand ih =>
    rw [evaluate, map_eq_error_iff] at failed
    obtain ⟨part, contains, breaks⟩ := ih failed
    exact ⟨part, .not contains, breaks⟩
  | compare position left equal right ihLeft ihRight =>
    rcases evaluate_compare_eq_error_iff.1 failed with failed | ⟨v, first, failed | ⟨w, second, failed⟩⟩
    · obtain ⟨part, contains, breaks⟩ := ihLeft failed
      exact ⟨part, .left contains, breaks⟩
    · obtain ⟨part, contains, breaks⟩ := ihRight failed
      exact ⟨part, .right contains, breaks⟩
    · exact ⟨_, .here, .compare first second failed⟩

end Expr

/-! ## Nodes -/

/-- An expression that is evaluated, the scopes around it, and whether its value is printed, too. -/
structure Visit where
  expr : Expr
  scopes : List Scope
  printed : Bool

/-- The value of the expression there. It counts for none if it is to be printed and cannot be. -/
def Visit.value (input : RenderInput) (site : Option Site) (visit : Visit) : Except Fault Value := do
  let v ← visit.expr.evaluate input visit.scopes site
  if visit.printed then v.print.map fun _ => v else .ok v

mutual

/-- What comes to be evaluated, in order, when a node is rendered in the given scopes and nothing fails. -/
def Node.visits (input : RenderInput) (site : Option Site) : Node → List Scope → List Visit
  | .data _ _, _ => []
  | .output _ expr _ _, scopes => [⟨expr, scopes, true⟩]
  | .cond _ branches otherwise, scopes =>
    Node.visitsOfBranches input site branches scopes (Node.visitsOfAll input site otherwise scopes)
  | .foreach position collection name body, scopes =>
    ⟨.path position collection, scopes, false⟩ :: match Value.resolve input.data scopes collection with
      | .ok v => (loopRounds (v.sequence?.getD [])).flatMap fun round =>
        Node.visitsOfAll input site body (roundScope name round :: scopes)
      | .error _ => []
  | .count _ name start stop body, scopes =>
    (loopRounds (integersFrom start stop)).flatMap fun round =>
      Node.visitsOfAll input site body (roundScope name round :: scopes)

/-- What comes to be evaluated when nodes are rendered one after the other. -/
def Node.visitsOfAll (input : RenderInput) (site : Option Site) : List Node → List Scope → List Visit
  | [], _ => []
  | node :: rest, scopes => Node.visits input site node scopes ++ Node.visitsOfAll input site rest scopes

/-- The tests up to the first one that is true, and what comes to be evaluated in its branch, or else in the last
part. -/
def Node.visitsOfBranches (input : RenderInput) (site : Option Site) :
    List (Expr × List Node) → List Scope → List Visit → List Visit
  | [], _, otherwise => otherwise
  | (test, body) :: rest, scopes, otherwise =>
    ⟨test, scopes, false⟩ :: match test.evaluate input scopes site with
      | .ok v =>
        if v.isTruthy then Node.visitsOfAll input site body scopes
        else Node.visitsOfBranches input site rest scopes otherwise
      | .error _ => []

end

variable {input : RenderInput} {site : Option Site} {fault : Fault}

theorem Visit.value_unprinted (expr : Expr) (scopes : List Scope) :
    (Visit.mk expr scopes false).value input site = expr.evaluate input scopes site := by
  unfold Visit.value
  cases expr.evaluate input scopes site <;> rfl

theorem Visit.value_printed_eq_ok_iff {expr : Expr} {scopes : List Scope} {v : Value} :
    (Visit.mk expr scopes true).value input site = .ok v
      ↔ expr.evaluate input scopes site = .ok v ∧ v.undisplayed? = none := by
  unfold Visit.value
  rw [bind_eq_ok_iff]
  constructor
  · rintro ⟨w, evaluated, printed⟩
    obtain ⟨text, print, rfl⟩ := map_eq_ok_iff.1 printed
    exact ⟨evaluated, Value.undisplayed?_of_print print⟩
  · rintro ⟨evaluated, displayed⟩
    refine ⟨v, evaluated, map_eq_ok_iff.2 ⟨v.output, Value.print_of_undisplayed?_eq_none displayed, rfl⟩⟩

theorem Visit.value_printed_eq_error_iff {expr : Expr} {scopes : List Scope} :
    (Visit.mk expr scopes true).value input site = .error fault
      ↔ expr.evaluate input scopes site = .error fault
        ∨ ∃ v, expr.evaluate input scopes site = .ok v ∧ v.print = .error fault := by
  unfold Visit.value
  rw [bind_eq_error_iff]
  exact or_congr_right (exists_congr fun v => and_congr_right fun _ => map_eq_error_iff)

theorem exists_error_of_inOrder {α β : Type} {f : α → Except Fault (List β)} {xs : List α}
    (h : inOrder (xs.map f) = .error fault) : ∃ x ∈ xs, f x = .error fault := by
  induction xs with
  | nil => cases h
  | cons x rest ih =>
    rcases bind_eq_error_iff.1 h with failed | ⟨_, -, h⟩
    · exact ⟨x, List.mem_cons_self, failed⟩
    · rcases bind_eq_error_iff.1 h with later | ⟨_, -, h⟩
      · obtain ⟨x', mem, failed⟩ := ih later
        exact ⟨x', List.mem_cons_of_mem x mem, failed⟩
      · cases h

theorem forall_ok_of_inOrder {α β : Type} {f : α → Except Fault (List β)} {xs : List α} {ys : List β}
    (h : inOrder (xs.map f) = .ok ys) : ∀ x ∈ xs, ∃ zs, f x = .ok zs := by
  induction xs generalizing ys with
  | nil => simp
  | cons x rest ih =>
    obtain ⟨zs, here, h⟩ := bind_eq_ok_iff.1 h
    obtain ⟨_, later, -⟩ := bind_eq_ok_iff.1 h
    exact List.forall_mem_cons.2 ⟨⟨zs, here⟩, ih later⟩

mutual

/-- What ends the rendering of a node is that something evaluated has no value. -/
theorem Node.exists_visit_of_parts (node : Node) {scopes : List Scope}
    (failed : node.parts input site scopes = .error fault) :
    ∃ visit ∈ node.visits input site scopes, visit.value input site = .error fault := by
  cases node with
  | data position text => cases failed
  | output position expr source escape =>
    refine ⟨_, List.mem_cons_self, Visit.value_printed_eq_error_iff.2 ?_⟩
    refine (bind_eq_error_iff.1 failed).imp_right ?_
    rintro ⟨v, evaluated, failed⟩
    exact ⟨v, evaluated, map_eq_error_iff.1 failed⟩
  | cond position branches otherwise =>
    exact Node.exists_visit_of_partsOfBranches branches (Node.exists_visit_of_partsOfAll otherwise) failed
  | foreach position collection name body =>
    rcases bind_eq_error_iff.1 failed with failed | ⟨v, found, failed⟩
    · exact ⟨_, List.mem_cons_self, (Visit.value_unprinted _ _).trans failed⟩
    · obtain ⟨round, mem, failed⟩ := exists_error_of_inOrder failed
      obtain ⟨visit, inside, failed⟩ := Node.exists_visit_of_partsOfAll body failed
      refine ⟨visit, List.mem_cons_of_mem _ ?_, failed⟩
      rw [found]
      exact List.mem_flatMap.2 ⟨round, mem, inside⟩
  | count position name start stop body =>
    obtain ⟨round, mem, failed⟩ := exists_error_of_inOrder failed
    obtain ⟨visit, inside, failed⟩ := Node.exists_visit_of_partsOfAll body failed
    exact ⟨visit, List.mem_flatMap.2 ⟨round, mem, inside⟩, failed⟩

theorem Node.exists_visit_of_partsOfAll (nodes : List Node) {scopes : List Scope}
    (failed : Node.partsOfAll input site nodes scopes = .error fault) :
    ∃ visit ∈ Node.visitsOfAll input site nodes scopes, visit.value input site = .error fault := by
  cases nodes with
  | nil => cases failed
  | cons node rest =>
    rcases bind_eq_error_iff.1 failed with failed | ⟨_, -, failed⟩
    · obtain ⟨visit, inside, failed⟩ := Node.exists_visit_of_parts node failed
      exact ⟨visit, List.mem_append_left _ inside, failed⟩
    · rcases bind_eq_error_iff.1 failed with failed | ⟨_, -, failed⟩
      · obtain ⟨visit, inside, failed⟩ := Node.exists_visit_of_partsOfAll rest failed
        exact ⟨visit, List.mem_append_right _ inside, failed⟩
      · cases failed

theorem Node.exists_visit_of_partsOfBranches (branches : List (Expr × List Node)) {scopes : List Scope}
    {otherwise : Except Fault (List Part)} {others : List Visit}
    (last : otherwise = .error fault → ∃ visit ∈ others, visit.value input site = .error fault)
    (failed : Node.partsOfBranches input site branches scopes otherwise = .error fault) :
    ∃ visit ∈ Node.visitsOfBranches input site branches scopes others, visit.value input site = .error fault := by
  cases branches with
  | nil => exact last failed
  | cons branch rest =>
    obtain ⟨test, body⟩ := branch
    rcases bind_eq_error_iff.1 failed with failed | ⟨v, tested, failed⟩
    · exact ⟨_, List.mem_cons_self, (Visit.value_unprinted _ _).trans failed⟩
    · rw [Node.visitsOfBranches, tested]
      dsimp only
      split at failed
      · next truthy =>
        obtain ⟨visit, inside, failed⟩ := Node.exists_visit_of_partsOfAll body failed
        rw [if_pos truthy]
        exact ⟨visit, List.mem_cons_of_mem _ inside, failed⟩
      · next falsy =>
        obtain ⟨visit, inside, failed⟩ := Node.exists_visit_of_partsOfBranches rest last failed
        rw [if_neg falsy]
        exact ⟨visit, List.mem_cons_of_mem _ inside, failed⟩

end

mutual

/-- If a node is rendered, everything that is evaluated has a value. -/
theorem Node.forall_visits_of_parts (node : Node) {scopes : List Scope} {parts : List Part}
    (made : node.parts input site scopes = .ok parts) :
    ∀ visit ∈ node.visits input site scopes, ∃ v, visit.value input site = .ok v := by
  cases node with
  | data position text => simp [Node.visits]
  | output position expr source escape =>
    obtain ⟨v, evaluated, printed⟩ := bind_eq_ok_iff.1 made
    obtain ⟨text, print, -⟩ := map_eq_ok_iff.1 printed
    refine List.forall_mem_singleton.2 ⟨v, ?_⟩
    exact bind_eq_ok_iff.2 ⟨v, evaluated, map_eq_ok_iff.2 ⟨text, print, rfl⟩⟩
  | cond position branches otherwise =>
    exact Node.forall_visits_of_partsOfBranches branches (Node.forall_visits_of_partsOfAll otherwise) made
  | foreach position collection name body =>
    obtain ⟨v, found, made⟩ := bind_eq_ok_iff.1 made
    rw [Node.visits, found]
    refine List.forall_mem_cons.2 ⟨⟨v, (Visit.value_unprinted _ _).trans found⟩, fun visit mem => ?_⟩
    obtain ⟨round, inside, mem⟩ := List.mem_flatMap.1 mem
    obtain ⟨parts, made⟩ := forall_ok_of_inOrder made round inside
    exact Node.forall_visits_of_partsOfAll body made visit mem
  | count position name start stop body =>
    intro visit mem
    obtain ⟨round, inside, mem⟩ := List.mem_flatMap.1 mem
    obtain ⟨parts, made⟩ := forall_ok_of_inOrder made round inside
    exact Node.forall_visits_of_partsOfAll body made visit mem

theorem Node.forall_visits_of_partsOfAll (nodes : List Node) {scopes : List Scope} {parts : List Part}
    (made : Node.partsOfAll input site nodes scopes = .ok parts) :
    ∀ visit ∈ Node.visitsOfAll input site nodes scopes, ∃ v, visit.value input site = .ok v := by
  cases nodes with
  | nil => simp [Node.visitsOfAll]
  | cons node rest =>
    obtain ⟨_, first, made⟩ := bind_eq_ok_iff.1 made
    obtain ⟨_, later, -⟩ := bind_eq_ok_iff.1 made
    exact List.forall_mem_append.2
      ⟨Node.forall_visits_of_parts node first, Node.forall_visits_of_partsOfAll rest later⟩

theorem Node.forall_visits_of_partsOfBranches (branches : List (Expr × List Node)) {scopes : List Scope}
    {otherwise : Except Fault (List Part)} {others : List Visit}
    (last : ∀ {parts}, otherwise = .ok parts → ∀ visit ∈ others, ∃ v, visit.value input site = .ok v)
    {parts : List Part} (made : Node.partsOfBranches input site branches scopes otherwise = .ok parts) :
    ∀ visit ∈ Node.visitsOfBranches input site branches scopes others, ∃ v, visit.value input site = .ok v := by
  cases branches with
  | nil => exact last made
  | cons branch rest =>
    obtain ⟨test, body⟩ := branch
    obtain ⟨v, tested, made⟩ := bind_eq_ok_iff.1 made
    rw [Node.visitsOfBranches, tested]
    refine List.forall_mem_cons.2 ⟨⟨v, (Visit.value_unprinted _ _).trans tested⟩, ?_⟩
    dsimp only
    split at made
    · next truthy =>
      rw [if_pos truthy]
      exact Node.forall_visits_of_partsOfAll body made
    · next falsy =>
      rw [if_neg falsy]
      exact Node.forall_visits_of_partsOfBranches rest last made

end

/-- Nodes are rendered exactly if everything that comes to be evaluated has a value. -/
theorem Node.exists_partsOfAll_iff {nodes : List Node} {scopes : List Scope} :
    (∃ parts, Node.partsOfAll input site nodes scopes = .ok parts)
      ↔ ∀ visit ∈ Node.visitsOfAll input site nodes scopes, ∃ v, visit.value input site = .ok v := by
  constructor
  · rintro ⟨parts, made⟩
    exact Node.forall_visits_of_partsOfAll nodes made
  · intro each
    cases made : Node.partsOfAll input site nodes scopes with
    | ok parts => exact ⟨parts, rfl⟩
    | error fault =>
      obtain ⟨visit, mem, failed⟩ := Node.exists_visit_of_partsOfAll nodes made
      obtain ⟨v, evaluated⟩ := each visit mem
      cases evaluated.symm.trans failed

/-! ## What is visited -/

/-- The expression that rendering may evaluate for the mark. -/
def Mark.expr? : Mark → Option Expr
  | .output _ expr _ _ => some expr
  | .openIf _ test | .elseIf test => some test
  | .openForeach position collection _ => some (.path position collection)
  | _ => none

theorem Mark.Sound.of_expr? {known : List String} {mark : Mark} {expr : Expr} (sound : mark.Sound known)
    (holds : mark.expr? = some expr) : expr.Sound known := by
  cases mark with
  | output | openIf | elseIf | openForeach =>
    obtain rfl := Option.some.inj holds
    exact sound
  | _ => cases holds

/-- What holds of scopes also holds inside of the rounds of loops. -/
structure KeptInRounds (input : RenderInput) (P : List Scope → Prop) : Prop where
  foreach : ∀ {scopes : List Scope} {collection : List String} {v : Value}, P scopes →
    Value.resolve input.data scopes collection = .ok v → ∀ round ∈ loopRounds (v.sequence?.getD []),
      ∀ name, P (roundScope name round :: scopes)
  count : ∀ {scopes : List Scope} {start stop : Int}, P scopes → ∀ round ∈ loopRounds (integersFrom start stop),
    ∀ name, P (roundScope name round :: scopes)

/-- The visit is to an expression of one of the marks, in scopes with the property. -/
def Visit.Within (marks : List Mark) (P : List Scope → Prop) (visit : Visit) : Prop :=
  (∃ mark ∈ marks, mark.expr? = some visit.expr) ∧ P visit.scopes

theorem Visit.Within.mono {marks others : List Mark} {P : List Scope → Prop} {visit : Visit}
    (sub : ∀ mark ∈ marks, mark ∈ others) (h : visit.Within marks P) : visit.Within others P := by
  obtain ⟨⟨mark, mem, holds⟩, kept⟩ := h
  exact ⟨⟨mark, sub mark mem, holds⟩, kept⟩

mutual

theorem Node.within_of_visits {P : List Scope → Prop} (keeps : KeptInRounds input P) (node : Node)
    {scopes : List Scope} (here : P scopes) :
    ∀ visit ∈ node.visits input site scopes, visit.Within node.marks P := by
  cases node with
  | data position text => simp [Node.visits]
  | output position expr source escape => simp [Node.visits, Node.marks, Visit.Within, Mark.expr?, here]
  | cond position branches otherwise =>
    refine Node.within_of_visitsOfBranches keeps branches (.openIf position) (fun _ => rfl) here ?_
    exact fun visit mem => (Node.within_of_visitsOfAll keeps otherwise here visit mem).mono fun _ => mem_lastPart
  | foreach position collection name body =>
    refine List.forall_mem_cons.2 ⟨⟨⟨_, List.mem_cons_self, rfl⟩, here⟩, fun visit mem => ?_⟩
    split at mem
    · next v found =>
      obtain ⟨round, inside, mem⟩ := List.mem_flatMap.1 mem
      have kept := keeps.foreach here found round inside name
      refine (Node.within_of_visitsOfAll keeps body kept visit mem).mono fun mark mem => ?_
      simp [Node.marks, mem]
    · cases mem
  | count position name start stop body =>
    intro visit mem
    obtain ⟨round, inside, mem⟩ := List.mem_flatMap.1 mem
    have kept := keeps.count here round inside name
    refine (Node.within_of_visitsOfAll keeps body kept visit mem).mono fun mark mem => ?_
    simp [Node.marks, mem]

theorem Node.within_of_visitsOfAll {P : List Scope → Prop} (keeps : KeptInRounds input P) (nodes : List Node)
    {scopes : List Scope} (here : P scopes) :
    ∀ visit ∈ Node.visitsOfAll input site nodes scopes, visit.Within (Node.marksOfAll nodes) P := by
  cases nodes with
  | nil => simp [Node.visitsOfAll]
  | cons node rest =>
    refine List.forall_mem_append.2 ⟨fun visit mem => ?_, fun visit mem => ?_⟩
    · exact (Node.within_of_visits keeps node here visit mem).mono fun _ => List.mem_append_left _
    · exact (Node.within_of_visitsOfAll keeps rest here visit mem).mono fun _ => List.mem_append_right _

theorem Node.within_of_visitsOfBranches {P : List Scope → Prop} (keeps : KeptInRounds input P)
    (branches : List (Expr × List Node)) (mark : Expr → Mark) (holds : ∀ test, (mark test).expr? = some test)
    {scopes : List Scope} (here : P scopes) {others : List Visit} {marks : List Mark}
    (last : ∀ visit ∈ others, visit.Within marks P) :
    ∀ visit ∈ Node.visitsOfBranches input site branches scopes others,
      visit.Within (Node.marksOfBranches mark branches ++ marks) P := by
  cases branches with
  | nil => exact last
  | cons branch rest =>
    obtain ⟨test, body⟩ := branch
    have first : mark test ∈ Node.marksOfBranches mark ((test, body) :: rest) ++ marks := List.mem_cons_self
    refine List.forall_mem_cons.2 ⟨⟨⟨mark test, first, holds test⟩, here⟩, fun visit mem => ?_⟩
    split at mem
    · split at mem
      · refine (Node.within_of_visitsOfAll keeps body here visit mem).mono fun mark mem => ?_
        simp [Node.marksOfBranches, mem]
      · have later := Node.within_of_visitsOfBranches keeps rest .elseIf (fun _ => rfl) here last visit mem
        refine later.mono fun mark mem => ?_
        rw [Node.marksOfBranches, List.append_assoc]
        exact List.mem_append_right _ mem
    · cases mem

end

/-- Every visit is to an expression that the nodes hold. -/
theorem Node.exists_mark_of_visit {nodes : List Node} {scopes : List Scope} {visit : Visit}
    (mem : visit ∈ Node.visitsOfAll input site nodes scopes) :
    ∃ mark ∈ Node.marksOfAll nodes, mark.expr? = some visit.expr := by
  have anywhere : KeptInRounds input fun _ => True := ⟨fun _ _ _ _ _ => trivial, fun _ _ _ _ => trivial⟩
  exact (Node.within_of_visitsOfAll anywhere nodes trivial visit mem).1

/-! ## Limits -/

/-- The visit comes to a limit, which is a fault: a path is asked for a number with too many digits, a number that is
compared with a text has none, or a value that is printed has none. -/
inductive Visit.Limits (input : RenderInput) (site : Option Site) (visit : Visit) : Fault → Prop
  | segment {position : Position} {segments : List String} {segment : String}
    (path : Expr.Contains (.path position segments) visit.expr) (mem : segment ∈ segments) (long : IsOverlong segment)
    (failed : Value.resolve input.data visit.scopes segments = .error (Value.overlongFault segment)) :
    Visit.Limits input site visit (Value.overlongFault segment)
  | comparison {position : Position} {left right : Expr} {equal : Bool} {v w number : Value} {u : Unwritten}
    (comparison : Expr.Contains (.compare position left equal right) visit.expr)
    (first : left.evaluate input visit.scopes site = .ok v) (second : right.evaluate input visit.scopes site = .ok w)
    (mem : number ∈ [v, w]) (isNumber : number.isNumber) (obstacle : number.undisplayed? = some u)
    (failed : v.compare w = .error (.unwritten u)) : Visit.Limits input site visit (.unwritten u)
  | output {v : Value} {u : Unwritten} (printed : visit.printed)
    (evaluated : visit.expr.evaluate input visit.scopes site = .ok v) (obstacle : v.undisplayed? = some u) :
    Visit.Limits input site visit (.unwritten u)

/-- The visit comes to a filter and gives it the value. -/
structure Visit.ComesTo (input : RenderInput) (site : Option Site) (visit : Visit) (position : Position)
    (operand : Expr) (name : String) (v : Value) : Prop where
  contains : Expr.Contains (.filter position operand name) visit.expr
  evaluated : operand.evaluate input visit.scopes site = .ok v

/-- A visit to a sound expression has a value, comes to a filter that fails, or comes to a limit. -/
theorem Visit.cases_of_failed {visit : Visit} {known : List String} (sound : visit.expr.Sound known)
    (failed : visit.value input site = .error fault) :
    (∃ position operand name v, visit.ComesTo input site position operand name v
        ∧ Expr.applyTo input site position operand name v = .error fault)
      ∨ visit.Limits input site fault := by
  obtain ⟨expr, scopes, printed⟩ := visit
  rcases bind_eq_error_iff.1 failed with failed | ⟨v, evaluated, failed⟩
  · obtain ⟨part, contains, breaks⟩ := Expr.exists_breaks_of_evaluate failed
    cases breaks with
    | path failed =>
      have each := sound.of_contains contains
      rcases Value.resolve_cases each input.data scopes with ⟨v, found⟩ | ⟨segment, mem, long, failed'⟩
      · cases found.symm.trans failed
      · obtain rfl := Except.error.inj (failed'.symm.trans failed)
        exact .inr (.segment contains mem long failed)
    | filter evaluated failed => exact .inl ⟨_, _, _, _, ⟨contains, evaluated⟩, failed⟩
    | compare first second failed =>
      obtain ⟨number, mem, isNumber, u, obstacle, rfl⟩ := Value.exists_number_of_compare failed
      exact .inr (.comparison contains first second mem isNumber obstacle failed)
  · cases printed with
    | false => cases failed
    | true =>
      rw [if_pos rfl, map_eq_error_iff] at failed
      obtain ⟨u, obstacle, rfl⟩ := Value.exists_unwritten_of_print failed
      exact .inr (.output rfl evaluated obstacle)

/-- What comes to a limit has no value. -/
theorem Visit.Limits.value_ne_ok {visit : Visit} (limits : visit.Limits input site fault) (v : Value) :
    visit.value input site ≠ .ok v := by
  intro evaluated
  obtain ⟨w, value, printed⟩ := bind_eq_ok_iff.1 evaluated
  cases limits with
  | segment path mem long failed =>
    obtain ⟨found, found'⟩ := Expr.exists_evaluate_of_contains path value
    cases found'.symm.trans failed
  | comparison contains first second mem isNumber obstacle failed =>
    obtain ⟨agree, compared⟩ := Expr.exists_evaluate_of_contains contains value
    cases compared.symm.trans (Expr.Breaks.compare first second failed).evaluate_eq
  | output isPrinted evaluated' obstacle =>
    obtain rfl := Except.ok.inj (value.symm.trans evaluated')
    rw [if_pos isPrinted, map_eq_ok_iff] at printed
    obtain ⟨text, print, -⟩ := printed
    rw [Value.print, obstacle] at print
    cases print

/-! ## Templates -/

namespace Template

variable {t : Template}

/-- What keeps a template from being read is a fault of its text. -/
theorem exists_malformed_of_read {filters : FilterTable} {escape minify : Bool} {origin : Origin} {source : String}
    (h : read filters escape minify origin source = .error fault) :
    ∃ m, fault = .malformed m ∧ Node.read ⟨origin, some source, filters.names, escape⟩ source = .error m := by
  unfold read at h
  split at h
  · cases h
  · next m failed => exact ⟨m, (Except.error.inj h).symm, failed⟩

theorem read_eq_ok {filters : FilterTable} {escape minify : Bool} {origin : Origin} {source : String}
    (h : read filters escape minify origin source = .ok t) :
    Node.read ⟨origin, some source, filters.names, escape⟩ source = .ok t.nodes
      ∧ t.filters = filters ∧ t.minify = minify := by
  unfold read at h
  split at h
  · next nodes found =>
    obtain rfl := Except.ok.inj h
    exact ⟨found, rfl, rfl⟩
  · cases h

/-- The site in which the nodes of a template are rendered. -/
def ownSite (t : Template) : Site :=
  .fresh t.origin.name t.origin.filename (some t.source)

/-- What ends the nodes of a template ends its rendering, with an explanation. -/
theorem exists_explain_of_renderText {data : Scope} {sites : List Site}
    (failed : (Node.renderText ⟨data, t.filters⟩ t.nodes [] (t.ownSite :: sites)).1 = .error fault) :
    ∃ site, (t.render data sites).1 = .error (t.explain site fault) := by
  have nodes : ∃ site, (t.renderNodes data sites).1 = .error (t.explain site fault) := by
    unfold renderNodes
    exact ⟨_, congrArg (Except.mapError _) failed⟩
  obtain ⟨site, nodes⟩ := nodes
  unfold render
  split
  · next output left ran =>
    rw [ran] at nodes
    cases nodes
  · exact ⟨site, nodes⟩

/-- What is evaluated when the template is rendered by itself. -/
def visits (t : Template) (data : Scope) : List Visit :=
  Node.visitsOfAll ⟨data, t.filters⟩ (some t.ownSite) t.nodes []

theorem exists_render_of_renderText (t : Template) (plain : t.minify = false) {data : Scope}
    {sites : List Site} {text : String}
    (written : (Node.renderText ⟨data, t.filters⟩ t.nodes [] (t.ownSite :: sites)).1 = .ok text) :
    (t.render data sites).1 = .ok text := by
  have nodes : (t.renderNodes data sites).1 = .ok text := by
    unfold renderNodes
    exact congrArg (Except.mapError _) written
  unfold render
  split
  · next output left ran =>
    rw [ran] at nodes
    rw [plain]
    exact nodes
  · exact nodes

/-- A template that is not made smaller is rendered, or a visit has no value, whose fault is explained. -/
theorem render_cases (plain : t.minify = false) (data : Scope) (sites : List Site) :
    ((∃ text, (t.render data sites).1 = .ok text)
        ∧ ∀ visit ∈ t.visits data, ∃ v, visit.value ⟨data, t.filters⟩ (some t.ownSite) = .ok v)
      ∨ ∃ visit ∈ t.visits data, ∃ fault site, visit.value ⟨data, t.filters⟩ (some t.ownSite) = .error fault
        ∧ (t.render data sites).1 = .error (t.explain site fault) := by
  cases made : Node.partsOfAll ⟨data, t.filters⟩ (some t.ownSite) t.nodes [] with
  | ok parts =>
    exact .inl ⟨⟨_, exists_render_of_renderText t plain (Node.renderText_of_parts made)⟩,
      Node.exists_partsOfAll_iff.1 ⟨parts, made⟩⟩
  | error fault =>
    obtain ⟨visit, mem, failed⟩ := Node.exists_visit_of_partsOfAll t.nodes made
    obtain ⟨site, ended⟩ := exists_explain_of_renderText (Node.renderText_of_fault made)
    exact .inr ⟨visit, mem, fault, site, failed, ended⟩

/-- **A template whose filters return a value whatever they are given** is rendered, whatever the data, exactly if
rendering comes to no limit. If it fails, this is because it comes to one. -/
theorem exists_render_iff_of_total {filters : FilterTable} {escape : Bool} {origin : Origin}
    {source : String} (total : filters.Total) (parsed : read filters escape false origin source = .ok t)
    (data : Scope) (sites : List Site) :
    ((∃ text, (t.render data sites).1 = .ok text)
        ↔ ∀ visit ∈ t.visits data, ∀ fault, ¬ visit.Limits ⟨data, filters⟩ (some t.ownSite) fault)
      ∧ ∀ failure, (t.render data sites).1 = .error failure →
        ∃ visit ∈ t.visits data, ∃ fault site, visit.Limits ⟨data, filters⟩ (some t.ownSite) fault
          ∧ failure = t.explain site fault := by
  obtain ⟨read, rfl, plain⟩ := read_eq_ok parsed
  have limited : ∀ visit ∈ t.visits data, ∀ fault, visit.value ⟨data, t.filters⟩ (some t.ownSite) = .error fault →
      visit.Limits ⟨data, t.filters⟩ (some t.ownSite) fault := by
    intro visit mem fault failed
    obtain ⟨mark, inside, holds⟩ := Node.exists_mark_of_visit mem
    have sound := (Node.sound_of_read read mark inside).of_expr? holds
    refine (Visit.cases_of_failed sound failed).resolve_left ?_
    rintro ⟨position, operand, name, v, comes, failed⟩
    obtain ⟨w, applied⟩ := exists_applyFilter total (sound.of_contains comes.contains).2 v
    rw [Expr.applyTo, applied] at failed
    cases failed
  rcases render_cases plain data sites with ⟨⟨text, rendered⟩, each⟩ | ⟨visit, mem, fault, site, failed, ended⟩
  · refine ⟨iff_of_true ⟨text, rendered⟩ fun visit mem fault limits => ?_, fun failure failed => ?_⟩
    · obtain ⟨v, evaluated⟩ := each visit mem
      exact limits.value_ne_ok v evaluated
    · cases rendered.symm.trans failed
  · have limits := limited visit mem fault failed
    refine ⟨iff_of_false ?_ fun none => none visit mem fault limits, fun failure failed' => ?_⟩
    · rintro ⟨text, rendered⟩
      cases rendered.symm.trans ended
    · exact ⟨visit, mem, fault, site, limits, Except.error.inj (failed'.symm.trans ended)⟩

end Template

/-- A table with one filter, which gives the type of a value. -/
def FilterTable.naming : FilterTable :=
  ⟨[("type", fun v => .ok (.text v.typeName))], 0⟩

theorem FilterTable.total_naming : FilterTable.naming.Total := by
  intro name f found v
  obtain ⟨front, back, same, -⟩ := List.lookup_eq_some_iff.1 found
  cases front with
  | nil =>
    obtain ⟨-, rfl⟩ := Prod.mk.inj (List.cons.inj same).1
    exact ⟨_, rfl⟩
  | cons first rest => simp [FilterTable.naming] at same

/-- An object that cannot be printed. -/
def Value.silent : Value :=
  .foreign 0 false ⟨.error ⟨"KeyError", "no text", false⟩, false, .ok "<silent>"⟩

namespace Template

/-- Numbers as segments and a filter, in the second branch of a conditional. Without an object that cannot be printed
rendering comes to no limit, and with one it does. -/
theorem limits_of_silent_object :
    FilterTable.naming.Total
      ∧ ∃ t, read .naming true false ⟨none, none⟩
          "\x7b% if x %\x7d\x7b% elseif m.1 %\x7d\x7bm.0.7|type\x7d\x7bm.01\x7d\x7b% endif %\x7d" = .ok t
        ∧ (∀ visit ∈ t.visits [(.text "m", .list [.list [.int 7], .text "b"])], ∀ fault,
            ¬ visit.Limits ⟨[(.text "m", .list [.list [.int 7], .text "b"])], .naming⟩ (some t.ownSite) fault)
        ∧ ∃ visit ∈ t.visits [(.text "m", .list [.list [.int 7], .silent])], ∃ fault,
            visit.Limits ⟨[(.text "m", .list [.list [.int 7], .silent])], .naming⟩ (some t.ownSite) fault := by
  have runs : ((read .naming true false ⟨none, none⟩
      "\x7b% if x %\x7d\x7b% elseif m.1 %\x7d\x7bm.0.7|type\x7d\x7bm.01\x7d\x7b% endif %\x7d").toOption.map fun t =>
        ((t.render [(.text "m", .list [.list [.int 7], .text "b"])] []).1.toOption.isSome,
          (t.render [(.text "m", .list [.list [.int 7], .silent])] []).1.toOption.isSome)) = some (true, false) := by
    decide +kernel
  obtain ⟨t, parsed, ended⟩ := Option.map_eq_some_iff.1 runs
  obtain ⟨rendered, failed⟩ := Prod.mk.inj ended
  have parsed := eq_ok_of_toOption parsed
  refine ⟨FilterTable.total_naming, t, parsed, ?_, ?_⟩
  · obtain ⟨text, rendered⟩ := Option.isSome_iff_exists.1 rendered
    exact (exists_render_iff_of_total FilterTable.total_naming parsed _ []).1.1 ⟨text, eq_ok_of_toOption rendered⟩
  · cases result : (t.render [(.text "m", .list [.list [.int 7], .silent])] []).1 with
    | ok text =>
      rw [result] at failed
      cases failed
    | error failure =>
      obtain ⟨visit, mem, fault, site, limits, -⟩ :=
        (exists_render_iff_of_total FilterTable.total_naming parsed _ []).2 failure result
      exact ⟨visit, mem, fault, limits⟩

/-- A path in braces is a template. -/
theorem exists_read_path {chars : List Char} (isPath : IsPath chars) (filters : FilterTable) (escape : Bool) :
    ∃ t p text, (∃ source, read filters escape false ⟨none, none⟩ source = .ok t)
      ∧ t.nodes = [.output p (.path p (splitPath (String.ofList chars))) text escape] ∧ t.minify = false := by
  have isTag : Piece.IsTag (.output ('{' :: chars ++ [] ++ ['}']) chars []) := .output isPath .nil
  let item : Piece × Tag := (.output ('{' :: chars ++ [] ++ ['}']) chars [], .output (String.ofList chars) [])
  have cuts : Piece.Cuts ([item].map Prod.fst) := ⟨List.forall_mem_singleton.2 isTag.cut, .singleton _⟩
  obtain ⟨body, eof, tokenized, ends, made⟩ :=
    Token.exists_read ⟨none, none⟩ cuts (List.forall_mem_singleton.2 .output)
  obtain ⟨⟨_, text, p⟩, _, ⟨rfl, -⟩, others, rfl⟩ := List.forall₂_cons_left_iff.1 made
  obtain rfl := List.forall₂_nil_left_iff.1 others
  obtain ⟨_, text', q⟩ := eof
  obtain rfl := ends
  generalize String.ofList (([item].map Prod.fst).flatMap Piece.chars) = source at tokenized
  refine ⟨⟨_, filters, ⟨none, none⟩, source, false⟩, p, text, ⟨source, ?_⟩, rfl, rfl⟩
  rw [read, Node.read, tokenized]
  rfl

/-- A template that asks a list for a number of too many digits has no page for it. -/
theorem output_of_many_digits_breaks :
    FilterTable.naming.Total ∧ ∃ source t, read .naming true false ⟨none, none⟩ source = .ok t
      ∧ ∃ failure, (t.render [(.text "a", .list [.int 1])] []).1 = .error failure := by
  obtain ⟨t, p, text, ⟨source, parsed⟩, nodes, plain⟩ :=
    exists_read_path Value.isPath_pathOfManyDigits .naming true
  refine ⟨FilterTable.total_naming, source, t, parsed, ?_⟩
  rcases render_cases plain [(.text "a", .list [.int 1])] [] with ⟨-, each⟩ | ⟨_, -, fault, site, -, ended⟩
  · rw [visits, nodes, String.ofList_toList] at each
    obtain ⟨v, value⟩ := each _ List.mem_cons_self
    obtain ⟨w, found, -⟩ := bind_eq_ok_iff.1 value
    cases Value.resolve_pathOfManyDigits.symm.trans found
  · exact ⟨_, ended⟩

end Template

end Stencil
