import Stencil.Engine
import Stencil.Proofs.Engine.Stages
import Stencil.Proofs.Node.Acceptance
import Stencil.Proofs.Number.Whole
import Stencil.Proofs.Render.Failures

/-!
# Rendering without data

Without data the only names that lead somewhere are those of counting loops: the integers that they count and the
states of their rounds. No path leads to a collection, so no other loop has a round, and what filters make of these
values is a text or an integer. All built-in filters take such values but `round` and `stars`, which refuse the
state of a loop and a text that writes no number, and an integer of more than 28 digits. Besides, an integer may have
too many digits to be written at all. `Engine.page_without_data` says that nothing else goes wrong, and how each of
these ends.
-/

namespace Stencil

/-! ## Values that templates have by themselves -/

namespace Value

/-- Is the value of a kind that there is without data: nothing, a truth value, an integer, a text, or the state of
a loop? -/
def isSelfMade : Value → Bool
  | undefined | bool _ | int _ | text _ | markup _ | loop _ => true
  | _ => false

theorem sequence?_of_isSelfMade {v : Value} (own : v.isSelfMade) : v.sequence? = none := by
  cases v with
  | list | tuple => cases own
  | _ => rfl

/-- Only the state of a loop has something below it, which is integers and truth values. -/
theorem passesDown_isSelfMade : PassesDown fun v => v.isSelfMade where
  nothing := rfl
  entries {v} entries own isMap := by
    cases v with
    | loop state =>
      obtain rfl := Option.some.inj isMap
      simp [LoopState.entries, isSelfMade]
    | map => cases own
    | _ => cases isMap
  items own isSequence := by
    rw [sequence?_of_isSelfMade own] at isSequence
    cases isSequence

end Value

theorem isSelfMade_of_mem_roundScope (name : String) {round : LoopState × Value} (own : round.2.isSelfMade) :
    ∀ entry ∈ roundScope name round, entry.2.isSelfMade := by
  have state : (Value.loop round.1).isSelfMade := rfl
  by_cases same : Render.loopName = name <;> simp [roundScope, Value.insert, same, own, state]

variable {table : FilterTable} {site : Option Site} {nodes : List Node} {fault : Fault}

/-- Without data a loop over a collection has no rounds, and the scopes of the others hold integers and states of
loops. -/
theorem keptInRounds_isSelfMade :
    KeptInRounds ⟨[], table⟩ fun scopes => ∀ scope ∈ scopes, ∀ entry ∈ scope, entry.2.isSelfMade where
  foreach own found round mem name := by
    have collection := Value.passesDown_isSelfMade.of_resolve (by simp) own found
    rw [Value.sequence?_of_isSelfMade collection] at mem
    cases mem
  count own round mem name := by
    refine List.forall_mem_cons.2 ⟨isSelfMade_of_mem_roundScope name ?_, own⟩
    obtain ⟨⟨item, index⟩, inside, rfl⟩ := List.mem_map.1 mem
    obtain ⟨i, -, rfl⟩ := List.mem_map.1 (List.fst_mem_of_mem_zipIdx inside)
    rfl

/-! ## Built-in filters -/

namespace Filter

/-- Is this the name of a filter that rounds? -/
def Rounds (name : String) : Prop :=
  name = "round" ∨ name = "stars"

/-- A built-in filter takes every value that has a text, or it shows the nearest whole number. -/
theorem takes_or_rounds {name : String} {f : Filter} (known : (name, f) ∈ builtins) :
    (∀ v, (∃ w, f v = .ok w ∧ w.isSelfMade) ∨ ∃ u, v.undisplayed? = some u ∧ f v = .error (.unwritten u))
      ∨ Rounds name ∧ ∃ shown : Int → Value, (∀ n, (shown n).isSelfMade)
        ∧ ∀ v, f v = (roundHalfAway name v).map shown := by
  by_cases isRound : name = "round"
  · subst isRound
    obtain rfl : f = round := by simpa [builtins] using known
    exact .inr ⟨.inl rfl, .int, fun _ => rfl, fun _ => rfl⟩
  by_cases isStars : name = "stars"
  · subst isStars
    obtain rfl : f = stars := by simpa [builtins] using known
    refine .inr ⟨.inr rfl, fun n => .text (starText (min (max n 0) (maxStars : Int)).toNat), ?_, ?_⟩
    · exact fun _ => rfl
    · exact fun _ => rfl
  · left
    have takes {made : String → Value} (own : ∀ s, (made s).isSelfMade) (v : Value) :
        (∃ w, v.print.map made = .ok w ∧ w.isSelfMade)
          ∨ ∃ u, v.undisplayed? = some u ∧ v.print.map made = .error (.unwritten u) := by
      cases printed : v.print with
      | ok s => exact .inl ⟨made s, rfl, own s⟩
      | error fault =>
        obtain ⟨u, obstacle, rfl⟩ := Value.exists_unwritten_of_print printed
        exact .inr ⟨u, obstacle, rfl⟩
    have counts (v : Value) : (∃ w, length v = .ok w ∧ w.isSelfMade)
        ∨ ∃ u, v.undisplayed? = some u ∧ length v = .error (.unwritten u) := by
      unfold length
      split
      · exact .inl ⟨_, rfl, rfl⟩
      · exact takes (fun _ => rfl) v
    simp only [builtins, List.mem_cons, Prod.mk.injEq, List.not_mem_nil, or_false, isRound, isStars, false_and,
      false_or] at known
    rcases known with ⟨-, rfl⟩ | ⟨-, rfl⟩ | ⟨-, rfl⟩ | ⟨-, rfl⟩ | ⟨-, rfl⟩ | ⟨-, rfl⟩ | ⟨-, rfl⟩ | ⟨-, rfl⟩
      | ⟨-, rfl⟩ | ⟨-, rfl⟩ | ⟨-, rfl⟩
    · exact counts
    · exact counts
    all_goals exact takes fun _ => rfl

end Filter

/-- A filter of the built-in ones gives a value of a kind that there is without data, or it is given one that has no
text, or it rounds and fails as rounding does. -/
theorem applyFilter_cases (builtin : table.entries = Filter.builtins) {name : String} (known : name ∈ table.names)
    {v : Value} (own : v.isSelfMade) :
    (∃ w, applyFilter table v name = .ok w ∧ w.isSelfMade)
      ∨ (∃ u, v.undisplayed? = some u ∧ applyFilter table v name = .error (.unwritten u))
      ∨ Filter.Rounds name ∧ v.isUndefined = false
        ∧ ∃ fault, Filter.roundHalfAway name v = .error fault ∧ applyFilter table v name = .error fault := by
  obtain ⟨f, found⟩ := FilterTable.exists_find? known
  obtain ⟨before, after, entries, -⟩ := List.lookup_eq_some_iff.1 found
  have inside : (name, f) ∈ Filter.builtins := by
    rw [← builtin, entries]
    simp
  unfold applyFilter FilterTable.find
  rw [found]
  split
  · exact .inl ⟨v, rfl, own⟩
  · next defined =>
    rcases Filter.takes_or_rounds inside with takes | ⟨rounds, shown, made, result⟩
    · exact (takes v).imp_right .inl
    · dsimp only
      rw [result]
      cases rounded : Filter.roundHalfAway name v with
      | ok n => exact .inl ⟨shown n, rfl, made n⟩
      | error fault => exact .inr (.inr ⟨rounds, by simpa using defined, fault, rfl, rfl⟩)

/-! ## What rounding refuses -/

/-- Is the value an integer, or the text of a number, that is rounded to one of more digits than rounding works with? -/
def Value.IsOverlong (v : Value) : Prop :=
  ∃ negative digits exponent, Numeral.read? v.display.toList = some (.finite negative digits exponent)
    ∧ Numeral.round? negative digits exponent = none

/-- Of the values that there are without data one that can be printed can be shown, too. -/
theorem Value.refusedBy_of_isSelfMade {v : Value} (own : v.isSelfMade) (displayed : v.undisplayed? = none)
    (name expected : String) : v.refusedBy name expected = .filterValue name v expected := by
  have shown : v.unshown? = none := by
    cases v with
    | undefined | bool | text | markup => simp only [unshown?]
    | int | loop => exact displayed
    | _ => cases own
  rw [refusedBy, shown]

namespace Filter

variable {name : String} {v : Value}

/-- Of the values that there are without data rounding fails on those that have no text, those that are overlong, and
states of loops and texts, which it refuses. -/
theorem roundHalfAway_eq_error (own : v.isSelfMade) (defined : v.isUndefined = false)
    (h : roundHalfAway name v = .error fault) :
    (∃ u, v.undisplayed? = some u ∧ fault = .unwritten u)
      ∨ (v.IsOverlong ∧ fault = .tooManyDigits)
      ∨ ((∃ state, v = .loop state) ∨ ∃ s, v.text? = some s) ∧ ∃ expected, fault = .filterValue name v expected := by
  cases obstacle : v.undisplayed? with
  | some u =>
    left
    unfold roundHalfAway Value.write at h
    cases v with
    | bool b => cases h
    | _ =>
      simp only [obstacle] at h
      exact ⟨u, rfl, (Except.error.inj h).symm⟩
  | none =>
    right
    have written := Value.write_of_undisplayed?_eq_none obstacle
    have refused (expected : String) := Value.refusedBy_of_isSelfMade own obstacle name expected
    have kinds (unread : ∀ negative digits exponent,
        Numeral.read? v.display.toList ≠ some (.finite negative digits exponent)) :
        (∃ state, v = .loop state) ∨ ∃ s, v.text? = some s := by
      cases v with
      | undefined => cases defined
      | bool b => cases h
      | int i =>
        rw [Value.undisplayed?_int, Value.unwrittenInteger?] at obstacle
        split at obstacle
        · next writable => exact absurd (Numeral.read?_toString writable) (unread _ _ _)
        · cases obstacle
      | text s | markup s => exact .inr ⟨s, rfl⟩
      | loop state => exact .inl ⟨state, rfl⟩
      | _ => cases own
    unfold roundHalfAway at h
    split at h
    · cases h
    · simp only [written, refused] at h
      split at h
      · next read => exact .inr ⟨kinds (by simp [read]), _, (Except.error.inj h).symm⟩
      · next read => exact .inr ⟨kinds (by simp [read]), _, (Except.error.inj h).symm⟩
      · next read => exact .inr ⟨kinds (by simp [read]), _, (Except.error.inj h).symm⟩
      · next read =>
        split at h
        · cases h
        · next overlong => exact .inl ⟨⟨_, _, _, read, overlong⟩, (Except.error.inj h).symm⟩

end Filter

/-! ## Pipelines -/

namespace Expr

variable {position around : Position} {operand expr : Expr} {name : String}

/-- A filter that a pipeline contains is given what the filters in front of it make. -/
theorem Contains.of_pipeline {names : List String}
    (h : Contains (.filter position operand name) (pipeline around expr names)) :
    (∃ front, operand = pipeline around expr front) ∨ Contains (.filter position operand name) expr := by
  induction names generalizing expr with
  | nil => exact .inr h
  | cons first rest ih =>
    rcases ih h with ⟨front, rfl⟩ | inside
    · exact .inl ⟨first :: front, rfl⟩
    · cases inside with
      | here => exact .inl ⟨[], rfl⟩
      | filter deeper => exact .inr deeper

/-- Is the expression a path with filters? -/
def IsPipeline (expr : Expr) : Prop :=
  ∃ position segments names, expr = pipeline position (.path position segments) names

theorem Contains.isPipeline {segments names : List String}
    (h : Contains (.filter position operand name) (pipeline around (.path around segments) names)) :
    operand.IsPipeline := by
  rcases h.of_pipeline with ⟨front, rfl⟩ | ⟨⟨⟩⟩
  exact ⟨around, segments, front, rfl⟩

end Expr

namespace Condition

variable {position around : Position} {operand : Expr} {name : String}

theorem Operand.isPipeline_of_contains {o : Operand} (h : Expr.Contains (.filter position operand name) (o.expr around)) :
    operand.IsPipeline := by
  cases o with
  | quoted | number | constant => cases h
  | path chars filters => exact h.isPipeline

theorem Comparison.isPipeline_of_contains {c : Comparison}
    (h : Expr.Contains (.filter position operand name) (c.expr around)) :
    operand.IsPipeline := by
  obtain ⟨left, right⟩ := c
  cases right with
  | none => exact Operand.isPipeline_of_contains h
  | some pair =>
    cases h with
    | left deeper => exact Operand.isPipeline_of_contains deeper
    | right deeper => exact Operand.isPipeline_of_contains deeper

theorem Phrase.isPipeline_of_contains {phrase : Phrase}
    (h : Expr.Contains (.filter position operand name) (phrase.expr around)) : operand.IsPipeline := by
  obtain ⟨c, negated⟩ := phrase
  cases negated with
  | false => exact Comparison.isPipeline_of_contains h
  | true =>
    cases h with
    | not deeper => exact Comparison.isPipeline_of_contains deeper

end Condition

/-- In what is read a filter is given a path, or what other filters make of one. -/
theorem Node.isPipeline_of_read {ctx : ReadContext} {source : String}
    (read : Node.read ctx source = .ok nodes) {mark : Mark} (mem : mark ∈ Node.marksOfAll nodes) {expr : Expr}
    (holds : mark.expr? = some expr) {position : Position} {operand : Expr} {name : String}
    (contains : Expr.Contains (.filter position operand name) expr) : operand.IsPipeline := by
  obtain ⟨_, -, t, -, -, -, of⟩ := exists_token_of_mark read mem
  cases mark with
  | output =>
    obtain rfl := Option.some.inj holds
    obtain ⟨path, filters, -, -, rfl, -⟩ := of
    exact contains.isPipeline
  | openIf =>
    obtain rfl := Option.some.inj holds
    obtain ⟨_, phrase, -, -, -, rfl⟩ := of
    exact Condition.Phrase.isPipeline_of_contains contains
  | elseIf =>
    obtain rfl := Option.some.inj holds
    obtain ⟨_, phrase, -, -, rfl⟩ := of
    exact Condition.Phrase.isPipeline_of_contains contains
  | openForeach =>
    obtain rfl := Option.some.inj holds
    cases contains
  | _ => cases holds

theorem Expr.applyTo_eq_ok_iff {input : RenderInput} {position : Position} {operand : Expr} {name : String}
    {v w : Value} :
    applyTo input site position operand name v = .ok w ↔ applyFilter input.filters v name = .ok w := by
  unfold applyTo
  split
  · next result => rw [result]
  · next failed => simp [failed]
  · next failed => simp [failed]

/-- What a pipeline makes of the integers and states of counting loops is of a kind that there is without data. -/
theorem Expr.isSelfMade_of_evaluate (builtin : table.entries = Filter.builtins) {scopes : List Scope}
    (own : ∀ scope ∈ scopes, ∀ entry ∈ scope, entry.2.isSelfMade) {expr : Expr} (isPipeline : expr.IsPipeline)
    (sound : expr.Sound table.names) {v : Value} (h : expr.evaluate ⟨[], table⟩ scopes site = .ok v) :
    v.isSelfMade := by
  obtain ⟨position, segments, names, rfl⟩ := isPipeline
  induction names using List.reverseRecOn generalizing v with
  | nil => exact Value.passesDown_isSelfMade.of_resolve (by simp) own h
  | append_singleton front last ih =>
    have split : pipeline position (.path position segments) (front ++ [last])
        = .filter position (pipeline position (.path position segments) front) last := by
      rw [pipeline, List.foldl_append]
      rfl
    rw [split] at sound h
    rw [evaluate_filter] at h
    obtain ⟨w, evaluated, applied⟩ := bind_eq_ok_iff.1 h
    have own := ih sound.1 evaluated
    have applied := applyTo_eq_ok_iff.1 applied
    rcases applyFilter_cases builtin sound.2 own with ⟨made, result, own⟩ | ⟨u, -, failed⟩ | ⟨-, -, fault, -, failed⟩
    · obtain rfl := Except.ok.inj (applied.symm.trans result)
      exact own
    · cases failed.symm.trans applied
    · cases failed.symm.trans applied

/-! ## Templates -/

/-- Why a filter of the built-in ones, applied at the position, does not take a value that there is without data, and the
fault that it ends with: a filter that rounds refuses the state of a loop or a text that writes no number, or the number
has too many digits for it; or the value has no text. -/
inductive Filter.Declines (site : Option Site) (position : Position) (operand : Expr) (name : String) (v : Value) :
    Fault → Prop
  | refused {expected : String} (rounds : Rounds name) (kind : (∃ state, v = .loop state) ∨ ∃ s, v.text? = some s)
    (refusal : roundHalfAway name v = .error (.filterValue name v expected)) :
    Declines site position operand name v
      (Expr.filterFailure site position operand name v (Fault.filterValue name v expected).message)
  | overlong (rounds : Rounds name) (long : v.IsOverlong) : Declines site position operand name v .tooManyDigits
  | unwritten {u : Unwritten} (obstacle : v.undisplayed? = some u) :
    Declines site position operand name v (.unwritten u)

/-- One of the visits ends with the fault: a filter does not take what it is given, or the visit comes to a limit. -/
inductive StopsWithoutData (input : RenderInput) (site : Option Site) (visits : List Visit) : Fault → Prop
  | filter {visit : Visit} {position : Position} {operand : Expr} {name : String} {v : Value} {fault : Fault}
    (mem : visit ∈ visits) (comes : visit.ComesTo input site position operand name v)
    (failed : Expr.applyTo input site position operand name v = .error fault)
    (declines : Filter.Declines site position operand name v fault) : StopsWithoutData input site visits fault
  | limit {visit : Visit} {fault : Fault} (mem : visit ∈ visits) (limits : visit.Limits input site fault) :
    StopsWithoutData input site visits fault

/-- Where rendering stops, a visit has no value. -/
theorem StopsWithoutData.exists_visit {input : RenderInput} {visits : List Visit}
    (stops : StopsWithoutData input site visits fault) : ∃ visit ∈ visits, ∀ v, visit.value input site ≠ .ok v := by
  cases stops with
  | @filter visit _ _ _ _ _ mem comes failed =>
    refine ⟨visit, mem, fun v evaluated => ?_⟩
    obtain ⟨w, value, -⟩ := bind_eq_ok_iff.1 evaluated
    obtain ⟨_, part⟩ := Expr.exists_evaluate_of_contains comes.contains value
    cases part.symm.trans (Expr.Breaks.filter comes.evaluated failed).evaluate_eq
  | limit mem limits => exact ⟨_, mem, limits.value_ne_ok⟩

/-- Without data and with the built-in filters, a visit that nodes read from a source lead to has a value, or rendering
stops there. -/
theorem stopsWithoutData_of_value (builtin : table.entries = Filter.builtins) {ctx : ReadContext}
    {source : String} (read : Node.read ctx source = .ok nodes) (known : ctx.filters = table.names) {visit : Visit}
    (mem : visit ∈ Node.visitsOfAll ⟨[], table⟩ site nodes [])
    (failed : visit.value ⟨[], table⟩ site = .error fault) :
    StopsWithoutData ⟨[], table⟩ site (Node.visitsOfAll ⟨[], table⟩ site nodes []) fault := by
  have sound : ∀ mark ∈ Node.marksOfAll nodes, mark.Sound table.names := known ▸ Node.sound_of_read read
  obtain ⟨⟨mark, inside, holds⟩, ownScopes⟩ :=
    Node.within_of_visitsOfAll keptInRounds_isSelfMade nodes (by simp) visit mem
  have exprSound := (sound mark inside).of_expr? holds
  rcases Visit.cases_of_failed exprSound failed with ⟨position, operand, name, v, comes, failed⟩ | limits
  · obtain ⟨operandSound, nameKnown⟩ := exprSound.of_contains comes.contains
    have own : v.isSelfMade := Expr.isSelfMade_of_evaluate builtin ownScopes
      (Node.isPipeline_of_read read inside holds comes.contains) operandSound comes.evaluated
    refine .filter mem comes failed ?_
    rcases applyFilter_cases builtin nameKnown own with
      ⟨w, result, -⟩ | ⟨u, obstacle, result⟩ | ⟨rounds, defined, fault', rounding, result⟩
    · cases failed.symm.trans (Expr.applyTo_eq_ok_iff.2 result)
    · rw [Expr.applyTo, result] at failed
      obtain rfl := Except.error.inj failed
      exact .unwritten obstacle
    · rw [Expr.applyTo, result] at failed
      rcases Filter.roundHalfAway_eq_error own defined rounding with
        ⟨u, obstacle, rfl⟩ | ⟨long, rfl⟩ | ⟨kind, expected, rfl⟩
      · obtain rfl := Except.error.inj failed
        exact .unwritten obstacle
      · obtain rfl := Except.error.inj failed
        exact .overlong rounds long
      · obtain rfl := Except.error.inj failed
        exact .refused rounds kind rounding
  · exact .limit mem limits

namespace Template

/-- What stops a rendering without data is reported as a failure of the rendering. -/
theorem exists_rendering_of_stops {t : Template} {input : RenderInput} {visits : List Visit}
    (stops : StopsWithoutData input (some t.ownSite) visits fault) (site : Option Site) :
    ∃ failure, t.explain site fault = .rendering failure := by
  have foreign (foreign : fault.isTemplateFault = false) : ∃ failure, t.explain site fault = .rendering failure := by
    unfold explain
    rw [foreign]
    exact ⟨_, rfl⟩
  cases stops with
  | filter _ _ _ declines =>
    cases declines with
    | refused => exact ⟨_, rfl⟩
    | overlong | unwritten => exact foreign rfl
  | limit _ limits => cases limits <;> exact foreign rfl

/-- A template that is read with the built-in filters has a page without data, unless it stops, and then it is reported
where. -/
theorem page_iff_not_stops {escape : Bool} {origin : Origin} {source : String} {t : Template}
    (parsed : Template.read .standard escape false origin source = .ok t) :
    ((∃ text, t.page [] = .ok text)
        ↔ ∀ fault, ¬ StopsWithoutData ⟨[], t.filters⟩ (some t.ownSite) (t.visits []) fault)
      ∧ ∀ failure, t.page [] = .error failure → ∃ fault site,
        StopsWithoutData ⟨[], t.filters⟩ (some t.ownSite) (t.visits []) fault ∧ failure = t.explain site fault := by
  obtain ⟨read, filters, plain⟩ := read_eq_ok parsed
  rcases render_cases plain [] [] with ⟨⟨text, page⟩, each⟩ | ⟨visit, mem, fault, site, failed, ended⟩
  · refine ⟨iff_of_true ⟨text, page⟩ fun fault stops => ?_, fun failure failed => ?_⟩
    · obtain ⟨visit, mem, none⟩ := stops.exists_visit
      obtain ⟨v, evaluated⟩ := each visit mem
      exact none v evaluated
    · cases page.symm.trans failed
  · have stops := stopsWithoutData_of_value (congrArg FilterTable.entries filters) read
      (congrArg FilterTable.names filters.symm) mem failed
    refine ⟨iff_of_false ?_ fun none => none fault stops, fun failure failed' => ?_⟩
    · rintro ⟨text, page⟩
      cases page.symm.trans ended
    · exact ⟨fault, site, stops, Except.error.inj (failed'.symm.trans ended)⟩

end Template

namespace Engine

theorem fromText_fst (source : String) (name : Option String) (e : Engine) (w : World) :
    (fromText source name (e, w)).1 = e.readTemplate name none source := by
  unfold fromText
  rw [WorkOn.state_bind_run]
  cases e.readTemplate name none source <;> rfl

/-- A source is refused, or it has a number with too many digits, or it is a template of a new engine. The template has
a page without data, unless something stops it: a filter that rounds is given the state of a loop, a text that writes no
number, or a number of more than 28 digits; or an integer has too many digits to be converted or to be written. Then the
rendering fails at this, and says so. -/
theorem page_without_data (source : String) (name : Option String) (w : World) :
    (∃ m, (fromText source name (fresh none .standard none, w)).1 = .error (.malformed m)
        ∧ (m.isReported ∨ ∃ digits, m.ReportsDigits digits))
      ∨ ∃ t, (fromText source name (fresh none .standard none, w)).1 = .ok t
        ∧ ((∃ text, (Template.ownArguments [] []).bind t.page = .ok text)
          ↔ ∀ fault, ¬ StopsWithoutData ⟨[], t.filters⟩ (some t.ownSite) (t.visits []) fault)
        ∧ ∀ failure, (Template.ownArguments [] []).bind t.page = .error failure → ∃ fault site,
          StopsWithoutData ⟨[], t.filters⟩ (some t.ownSite) (t.visits []) fault ∧ failure = t.explain site fault
            ∧ ∃ details, failure = .rendering details := by
  rw [fromText_fst]
  cases parsed : (fresh none .standard none).readTemplate name none source with
  | error fault =>
    obtain ⟨m, rfl, unread⟩ := Template.exists_malformed_of_read parsed
    exact .inl ⟨m, rfl, isReported_or_reportsDigits_of_read unread⟩
  | ok t =>
    obtain ⟨page, failing⟩ := Template.page_iff_not_stops parsed
    refine .inr ⟨t, rfl, page, fun failure failed => ?_⟩
    obtain ⟨fault, site, stops, rfl⟩ := failing failure failed
    exact ⟨fault, site, stops, rfl, Template.exists_rendering_of_stops stops site⟩

set_option maxRecDepth 100000 in
/-- Without any data there is the state of a loop, which is no number. -/
theorem state_of_a_loop_is_not_rounded :
    ((fromText "\x7b% for i in 1..1 %\x7d\x7bloop|round\x7d\x7b% endfor %\x7d" none
        (fresh none .standard none, ⟨⟨[], []⟩, .ofInt 0, .calm, 0, []⟩)).1.bind fun t =>
          (Template.ownArguments [] []).bind t.page).mapError (fun fault => (fault.kind, fault.code?.map Code.label))
      = .error ("TemplateRuntimeError", some "C-RUN-001") := by
  decide +kernel

end Engine

end Stencil
