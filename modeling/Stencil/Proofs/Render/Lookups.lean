import Stencil.Filter.Builtin
import Stencil.Proofs.Node.Marks
import Stencil.Proofs.Render.Origin

/-!
# What a rendering looks up

Templates reach data through names only, and through no other names than those that their paths begin with
(`Template.roots`). Data that have the same values under these names cannot be told apart: a rendering goes the
same way with both, through the same scopes, and gives the same page or the same fault
(`Template.render_eq_of_roots`). What else there is in the data does not matter, nor the order of the entries.

The argument is one on single steps. A step of the machine sees the data only when it evaluates an expression, and it
then finds the same value in whatever state it is, so with both data the steps are the same functions of the state
(`Node.render_eq_of_agree`). That the scopes of loops are the same in both runs need not be said.
-/

namespace Stencil

/-! ## The names that are looked up -/

/-- The root names of an expression: the first segments of its paths. -/
def Expr.roots : Expr → List String
  | .const _ _ => []
  | .path _ segments => segments.take 1
  | .filter _ operand _ => operand.roots
  | .not _ operand => operand.roots
  | .compare _ left _ right => left.roots ++ right.roots

/-- The root names of a tag: those of an output, of a condition, or of the collection of a loop. -/
def Mark.roots : Mark → List String
  | .output _ expr _ _ => expr.roots
  | .openIf _ test => test.roots
  | .elseIf test => test.roots
  | .openForeach _ collection _ => collection.take 1
  | _ => []

/-- The root names that occur in a template. -/
def Template.roots (t : Template) : List String :=
  (Node.marksOfAll t.nodes).flatMap Mark.roots

/-- Do two data have the same value, or none, under each of these names? -/
def Scope.AgreeOn (names : List String) (data data' : Scope) : Prop :=
  ∀ name ∈ names, Value.lookup? data (.text name) = Value.lookup? data' (.text name)

/-- Do two data have the same value, or none, under every name? -/
def Scope.Agree (data data' : Scope) : Prop :=
  ∀ name, Value.lookup? data (.text name) = Value.lookup? data' (.text name)

variable {data data' : Scope} {names more : List String}

theorem Scope.Agree.on (agree : Agree data data') (names : List String) : AgreeOn names data data' :=
  fun name _ => agree name

theorem Scope.agreeOn_append :
    AgreeOn (names ++ more) data data' ↔ AgreeOn names data data' ∧ AgreeOn more data data' :=
  List.forall_mem_append

theorem Template.agreeOn_roots {t : Template} :
    Scope.AgreeOn t.roots data data' ↔ ∀ mark ∈ Node.marksOfAll t.nodes, Scope.AgreeOn mark.roots data data' :=
  List.forall_mem_flatMap

/-! ## Evaluation -/

/-- A path finds the same: the scopes around come first, and then the data have the same value. -/
theorem Value.resolve_eq_of_agree {segments : List String} (agree : Scope.AgreeOn (segments.take 1) data data')
    (scopes : List Scope) : resolve data scopes segments = resolve data' scopes segments := by
  cases segments with
  | nil => rfl
  | cons name rest =>
    have same := agree name (by simp)
    rw [resolve, resolve, lookupName, lookupName, same]

theorem Expr.evaluate_eq_of_agree (filters : FilterTable) {e : Expr} (agree : Scope.AgreeOn e.roots data data')
    (scopes : List Scope) (site : Option Site) :
    e.evaluate ⟨data, filters⟩ scopes site = e.evaluate ⟨data', filters⟩ scopes site := by
  induction e with
  | const _ _ => rfl
  | path _ segments => exact Value.resolve_eq_of_agree agree scopes
  | filter position operand name ih =>
    rw [evaluate, evaluate, ih agree]
    rfl
  | not _ operand ih => rw [evaluate, evaluate, ih agree]
  | compare _ left equal right ihLeft ihRight =>
    obtain ⟨agreeLeft, agreeRight⟩ := Scope.agreeOn_append.1 agree
    rw [evaluate, evaluate, ihLeft agreeLeft, ihRight agreeRight]

theorem Render.evaluate_eq_of_agree (filters : FilterTable) {e : Expr} (agree : Scope.AgreeOn e.roots data data') :
    Render.evaluate ⟨data, filters⟩ e = Render.evaluate ⟨data', filters⟩ e := by
  unfold Render.evaluate
  simp only [Expr.evaluate_eq_of_agree filters agree]

/-! ## Nodes -/

mutual

/-- With both data, rendering a node is the same step of the machine. -/
theorem Node.render_eq_of_agree (filters : FilterTable) :
    ∀ node : Node, (∀ mark ∈ node.marks, Scope.AgreeOn mark.roots data data') →
      node.render ⟨data, filters⟩ = node.render ⟨data', filters⟩
  | .data _ _, _ => rfl
  | .output position expr source escape, agree => by
    have agreeHere : Scope.AgreeOn expr.roots data data' := agree (.output position expr source escape) (by simp [marks])
    unfold render
    simp only [Render.evaluate_eq_of_agree filters agreeHere]
  | .cond position branches otherwise, agree => by
    obtain ⟨agreeBranches, agreeLast⟩ := List.forall_mem_append.1 agree
    unfold render
    rw [renderAll_eq_of_agree filters otherwise fun mark mem => agreeLast mark (mem_lastPart mem),
      renderBranches_eq_of_agree filters position (.openIf position) (fun _ => rfl) branches agreeBranches]
  | .foreach position collection itemName body, agree => by
    have agreeHere : Scope.AgreeOn (Expr.path position collection).roots data data' :=
      agree (.openForeach position collection itemName) (by simp [marks])
    have agreeBody : ∀ mark ∈ marksOfAll body, Scope.AgreeOn mark.roots data data' :=
      fun mark mem => agree mark (by simp [marks, mem])
    unfold render
    simp only [Render.evaluate_eq_of_agree filters agreeHere, renderAll_eq_of_agree filters body agreeBody]
  | .count _ _ _ _ body, agree => by
    have agreeBody : ∀ mark ∈ marksOfAll body, Scope.AgreeOn mark.roots data data' :=
      fun mark mem => agree mark (by simp [marks, mem])
    unfold render
    rw [renderAll_eq_of_agree filters body agreeBody]

theorem Node.renderAll_eq_of_agree (filters : FilterTable) :
    ∀ nodes : List Node, (∀ mark ∈ marksOfAll nodes, Scope.AgreeOn mark.roots data data') →
      renderAll ⟨data, filters⟩ nodes = renderAll ⟨data', filters⟩ nodes
  | [], _ => rfl
  | node :: rest, agree => by
    obtain ⟨agreeNode, agreeRest⟩ := List.forall_mem_append.1 agree
    unfold renderAll
    rw [render_eq_of_agree filters node agreeNode, renderAll_eq_of_agree filters rest agreeRest]

/-- `mark` is that of the first test, as in `Node.marksOfBranches`. -/
theorem Node.renderBranches_eq_of_agree (filters : FilterTable) (position : Position) (mark : Expr → Mark)
    (tests : ∀ test, (mark test).roots = test.roots) :
    ∀ branches : List (Expr × List Node),
      (∀ m ∈ marksOfBranches mark branches, Scope.AgreeOn m.roots data data') → ∀ otherwise : Render Unit,
        renderBranches ⟨data, filters⟩ position branches otherwise
          = renderBranches ⟨data', filters⟩ position branches otherwise
  | [], _, _ => rfl
  | (test, body) :: rest, agree, otherwise => by
    obtain ⟨agreeFirst, agreeRest⟩ := List.forall_mem_append.1 agree
    obtain ⟨agreeTest, agreeBody⟩ := List.forall_mem_cons.1 agreeFirst
    rw [tests] at agreeTest
    unfold renderBranches
    simp only [Render.evaluate_eq_of_agree filters agreeTest, renderAll_eq_of_agree filters body agreeBody,
      renderBranches_eq_of_agree filters position .elseIf (fun _ => rfl) rest agreeRest otherwise]

end

/-! ## Templates -/

/-- The whole rendering depends on the data only through the names in its tags. -/
theorem Template.renderNodes_eq_of_agree (t : Template)
    (agree : ∀ mark ∈ Node.marksOfAll t.nodes, Scope.AgreeOn mark.roots data data') (sites : List Site) :
    t.renderNodes data sites = t.renderNodes data' sites := by
  unfold renderNodes Node.renderText
  rw [Node.renderAll_eq_of_agree t.filters t.nodes agree]

/-- Data that have the same values under all names give the same page. -/
theorem Template.page_eq_of_agree (t : Template) (agree : Scope.Agree data data') : t.page data = t.page data' := by
  unfold page render
  rw [t.renderNodes_eq_of_agree (fun mark _ => agree.on mark.roots)]

/-- Noninterference. Data that have the same value, or none, under each root name that occurs in a template give the
same text or the same fault, and leave the same sites. -/
theorem Template.render_eq_of_roots (t : Template) (agree : Scope.AgreeOn t.roots data data') (sites : List Site) :
    t.render data sites = t.render data' sites := by
  unfold render
  rw [t.renderNodes_eq_of_agree (agreeOn_roots.1 agree)]

/-- Data with a value that no template asks for. -/
def Scope.withSecret (secret : Value) : Scope :=
  [(.text "secret", secret), (.text "items", .list [.int 7, .text "a"]),
    (.text "user", .map [(.text "name", .text "Ada")])]

/-- A text is rounded in the second round of the loop. The failure tells as little of the secret as the text of the
first round would. -/
theorem Template.render_keeps_secret :
    ∃ t, Template.read .standard true false ⟨none, none⟩
        "\x7b% foreach items as x %\x7d\x7bloop.index\x7d\x7bx|round\x7d\x7b% endforeach %\x7d\x7buser.name\x7d" = .ok t
      ∧ Scope.AgreeOn t.roots (.withSecret (.text "<")) (.withSecret (.int 1))
      ∧ t.render (.withSecret (.text "<")) [] = t.render (.withSecret (.int 1)) [] := by
  have parses : (Template.read .standard true false ⟨none, none⟩
      "\x7b% foreach items as x %\x7d\x7bloop.index\x7d\x7bx|round\x7d\x7b% endforeach %\x7d\x7buser.name\x7d"
      ).toOption.map roots = some ["items", "loop", "x", "user"] := by
    decide +kernel
  obtain ⟨t, parsed, names⟩ := Option.map_eq_some_iff.1 parses
  have agree : Scope.AgreeOn t.roots (.withSecret (.text "<")) (.withSecret (.int 1)) := by
    rw [names]
    intro name mem
    simp only [List.mem_cons, List.not_mem_nil, or_false] at mem
    rcases mem with rfl | rfl | rfl | rfl
    · rfl
    · rfl
    · rfl
    · rfl
  exact ⟨t, eq_ok_of_toOption parsed, agree, t.render_eq_of_roots agree []⟩

end Stencil
