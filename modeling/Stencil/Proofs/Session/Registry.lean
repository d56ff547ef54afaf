import Stencil.Proofs.Engine.Requests
import Stencil.Session

/-!
# What a change of the filters reaches

A change of the filters that is refused leaves the whole session as it was. One that succeeds gives the engine
another table, and no template that has been read is any different for it: a template carries the table that it
was read against, and the engine forgets what it has read against another one. So a template that is kept
renders at any later time as if the filters had never been changed (`Session.held_template_is_a_snapshot`).

The induction over a run is on `Session.Keeps`: what every command leaves as it is.
-/

namespace Stencil

/-- The change of the filters that the command asks for, if it asks for one. -/
def Command.filterChange? : Command → Option (FilterTable → Except Fault FilterTable)
  | .setFilter name candidate => some (·.set name candidate)
  | .eraseFilter name => some (·.erase name)
  | .updateFilters added named => some (·.update added named)
  | _ => none

/-- Is the command a change of the filters? -/
def Command.changesFilters (command : Command) : Bool :=
  command.filterChange?.isSome

/-- The identifier under which the command keeps a template. -/
def Command.keeps? : Command → Option String
  | .hold id _ | .inline id _ _ => some id
  | _ => none

/-! ## Changes that are refused -/

theorem FilterTable.checkAll_eq_error_iff {candidates : List (String × FilterCandidate)} :
    (∃ fault, checkAll candidates = .error fault) ↔ ∃ name v, (name, .value v) ∈ candidates := by
  induction candidates with
  | nil => simp [checkAll]
  | cons candidate rest ih =>
    obtain ⟨name, f | v⟩ := candidate
    · have same : checkAll ((name, .filter f) :: rest) = (checkAll rest).map ((name, f) :: ·) := rfl
      simp only [same, map_eq_error_iff, ih, List.mem_cons, Prod.mk.injEq, reduceCtorEq, and_false, false_or]
    · exact ⟨fun _ => ⟨name, v, List.mem_cons_self⟩, fun _ => ⟨_, rfl⟩⟩

/-- Several filters are refused exactly if one of them is none. -/
theorem FilterTable.update_eq_error_iff {t : FilterTable} {added named : List (String × FilterCandidate)} :
    (∃ fault, t.update added named = .error fault)
      ↔ ∃ name v, (name, .value v) ∈ Table.setAll added named := by
  rw [← checkAll_eq_error_iff]
  unfold FilterTable.update
  simp only [map_eq_error_iff]

namespace Engine

variable {e : Engine} {w : World} {f : FilterTable → Except Fault FilterTable}

theorem changeFilters_run : changeFilters f (e, w) = match f e.filters with
    | .ok filters => (.ok (), { e with filters := filters }, w)
    | .error fault => (.error fault, e, w) := by
  unfold changeFilters
  rw [WorkOn.state_bind_run]
  cases f e.filters <;> rfl

end Engine

/-! ## What commands leave as it is -/

/-- Whatever the engine remembers of a filter table that it still has, it goes on remembering. -/
def Engine.Retains (s s' : Engine × World) : Prop :=
  s.1.Recalls (fun _ _ => True) → s'.1.Recalls fun _ _ => True

instance : IsPreorder (Engine × World) Engine.Retains where
  refl _ := id
  trans _ _ _ h h' := h' ∘ h

namespace Engine

theorem moves_retains_of_leaves {α : Type} {x : EngineWork α} {request : Request}
    (leaves : ∀ {e w r s}, e.Recalls (fun _ _ => True) → x (e, w) = (r, s) →
      Leaves (fun _ _ => True) e w request s) :
    Moves Retains x := by
  intro s recalls
  exact (leaves recalls rfl).recalls.mono fun _ _ _ => trivial

theorem moves_fromText (source : String) (name : Option String) : Moves Retains (fromText source name) := by
  refine .bind (fun _ => id) fun e => ?_
  split
  · exact .pure _
  · exact .throw _

theorem moves_changeFilters {f : FilterTable → Except Fault FilterTable}
    (newer : ∀ t t', f t = .ok t' → t'.stamp = t.stamp + 1) : Moves Retains (changeFilters f) := by
  rintro ⟨e, w⟩ recalls
  rw [changeFilters_run]
  cases changed : f e.filters with
  | error fault => exact recalls
  | ok filters => exact recalls.of_newFilters (newer _ _ changed)

theorem moves_cacheInUse : Moves Retains cacheInUse :=
  moves_retains_of_leaves leaves_openCache

end Engine

namespace Session

/-- What is kept from one state of a session to a later one: its engine goes on recalling, and the templates
under these identifiers stay. -/
structure Keeps (ids : String → Prop) (s s' : Session × World) : Prop where
  retains : Engine.Retains (s.1.engine, s.2) (s'.1.engine, s'.2)
  held : ∀ id, ids id → s'.1.held.lookup id = s.1.held.lookup id

variable {α : Type} {ids : String → Prop} {s s' : Session} {w w' : World} {weather : Weather} {command : Command}

instance : IsPreorder (Session × World) (Keeps ids) where
  refl _ := ⟨id, fun _ _ => rfl⟩
  trans _ _ _ h h' := ⟨h'.retains ∘ h.retains, fun id kept => (h'.held id kept).trans (h.held id kept)⟩

theorem keeps_state : Moves (Keeps ids) (WorkOn.state : SessionWork Session) :=
  fun s => refl_of _ s

theorem keeps_ofWork (x : Work α) : Moves (Keeps ids) (WorkOn.ofWork x : SessionWork α) :=
  fun _ => ⟨id, fun _ _ => rfl⟩

theorem keeps_ofExcept (x : Except Fault α) : Moves (Keeps ids) (ofExcept x) := by
  cases x with
  | ok a => exact .pure a
  | error fault => exact .throw fault

/-- A change of the session that leaves the engine as it is but for its loader and its cache. -/
theorem keeps_update {f : Session → Session} (memo : ∀ s, (f s).engine.memo = s.engine.memo)
    (filters : ∀ s, (f s).engine.filters = s.engine.filters)
    (settings : ∀ s, (f s).engine.settings = s.engine.settings)
    (held : ∀ s id, ids id → (f s).held.lookup id = s.held.lookup id) : Moves (Keeps ids) (WorkOn.update f) :=
  fun s => ⟨fun recalls => recalls.of_same (memo s.1) (filters s.1) (settings s.1), held s.1⟩

theorem withEngine_run {x : EngineWork α} {r : Except Fault α} {e : Engine}
    (run : x (s.engine, w) = (r, e, w')) : withEngine x (s, w) = (r, putEngine e s, w') := by
  unfold withEngine
  rw [WorkOn.state_bind_run, WorkOn.onPart_run run]

theorem keeps_withEngine {x : EngineWork α} (h : Moves Engine.Retains x) : Moves (Keeps ids) (withEngine x) := by
  rintro ⟨s, w⟩
  have retains := h (s.engine, w)
  rcases run : x (s.engine, w) with ⟨r, e, w'⟩
  rw [run] at retains
  rw [withEngine_run run]
  exact ⟨retains, fun _ _ => rfl⟩

theorem keeps_withCache (x : CacheWork α) : Moves (Keeps ids) (withCache x) := by
  rintro ⟨s, w⟩
  unfold withCache
  rw [WorkOn.state_bind_run]
  cases s.cache with
  | none => exact refl_of _ _
  | some c =>
    rcases run : x (c, w) with ⟨r, c', w'⟩
    dsimp only
    rw [WorkOn.onPart_run run]
    refine ⟨fun recalls => ?_, fun _ _ => rfl⟩
    unfold putCache
    dsimp only
    split
    · exact recalls.of_same rfl rfl rfl
    · exact recalls

/-- A command keeps everything but the template that it puts under an identifier of its own. -/
theorem keeps_perform (command : Command) : Moves (Keeps fun id => command.keeps? ≠ some id) (perform command) := by
  cases command with
  | makeEngine fields shareCache =>
    refine .bind (keeps_ofExcept _) fun settings => .bind ?_ fun _ => .bind keeps_state fun s => .pure _
    exact fun s => ⟨fun _ => .of_forgotten rfl, fun _ _ => rfl⟩
  | setLoader loader =>
    exact .bind (keeps_update (fun _ => rfl) (fun _ => rfl) (fun _ => rfl) fun _ _ _ => rfl) fun _ => .pure _
  | render name args named =>
    refine .bind (keeps_withEngine ?_) fun page => .pure _
    exact Engine.moves_retains_of_leaves fun recalls run =>
      Engine.leaves_rendering recalls (Engine.rendering_run run)
  | template name =>
    refine .bind (keeps_withEngine ?_) fun r => .bind keeps_state fun s => .bind ?_ fun _ => .pure _
    · exact Engine.moves_retains_of_leaves Engine.leaves_template
    · exact keeps_update (fun _ => rfl) (fun _ => rfl) (fun _ => rfl) fun _ _ _ => rfl
  | hold id name =>
    refine .bind (keeps_withEngine ?_) fun r => .bind ?_ fun _ => .pure _
    · exact Engine.moves_retains_of_leaves Engine.leaves_template
    · refine keeps_update (fun _ => rfl) (fun _ => rfl) (fun _ => rfl) fun s other kept => ?_
      exact Table.lookup_set_other (fun same => kept (congrArg some same.symm)) _ _
  | inline id source name =>
    refine .bind (keeps_withEngine (Engine.moves_fromText source name)) fun t => .bind ?_ fun _ => .pure _
    refine keeps_update (fun _ => rfl) (fun _ => rfl) (fun _ => rfl) fun s other kept => ?_
    exact Table.lookup_set_other (fun same => kept (congrArg some same.symm)) _ _
  | renderHeld id args named =>
    refine .bind keeps_state fun s => ?_
    split
    · exact .throw _
    · exact .bind (keeps_ofExcept _) fun data => .bind (keeps_ofExcept _) fun page => .pure _
  | clearEngine =>
    refine .bind (keeps_withEngine ?_) fun done => .pure _
    exact Engine.moves_retains_of_leaves fun _ => Engine.leaves_clear
  | engineCache => exact .bind (keeps_withEngine Engine.moves_cacheInUse) fun cache => .pure _
  | engineStats =>
    refine .bind (keeps_withEngine Engine.moves_cacheInUse) fun cache => ?_
    split
    · exact .bind (keeps_ofWork _) fun stats => .pure _
    · exact .pure _
  | engineText | listFilters => exact .bind keeps_state fun s => .pure _
  | setFilter =>
    exact .bind (keeps_withEngine (Engine.moves_changeFilters fun _ _ => FilterTable.stamp_set)) fun _ => .pure _
  | eraseFilter =>
    exact .bind (keeps_withEngine (Engine.moves_changeFilters fun _ _ => FilterTable.stamp_erase)) fun _ => .pure _
  | updateFilters =>
    exact .bind (keeps_withEngine (Engine.moves_changeFilters fun _ _ => FilterTable.stamp_update)) fun _ => .pure _
  | applyFilter name value =>
    refine .bind keeps_state fun s => .bind (keeps_ofExcept _) fun f => ?_
    exact .bind (keeps_ofExcept _) fun result => .pure _
  | source name =>
    refine .bind keeps_state fun s => ?_
    split
    · exact .bind (keeps_ofWork _) fun source => .pure _
    · exact .throw _
  | listTemplates =>
    refine .bind keeps_state fun s => ?_
    dsimp only
    split
    · exact .bind (keeps_ofWork _) fun names => .pure _
    · exact .throw _
  | setText name text =>
    exact .bind (keeps_update (fun _ => rfl) (fun _ => rfl) (fun _ => rfl) fun _ _ _ => rfl) fun _ => .pure _
  | openCache fields =>
    refine .bind (keeps_ofExcept _) fun settings => .bind (keeps_ofWork _) fun c => .bind ?_ fun _ => .pure _
    exact keeps_update (fun _ => rfl) (fun _ => rfl) (fun _ => rfl) fun _ _ _ => rfl
  | store | get | hasValid | clearCache | cacheStats | pathFor =>
    exact .bind (keeps_withCache _) fun _ => .pure _
  | keyFor => exact .bind (keeps_ofExcept _) fun _ => .pure _
  | write | makeDirectory | delete | listNames | showFile | advance =>
    exact .bind (keeps_ofWork _) fun _ => .pure _
  | overwriteEntries path content =>
    refine .bind (keeps_ofWork _) fun w => ?_
    split
    · exact .pure _
    · exact .bind (keeps_ofWork _) fun _ => .pure _

/-! ## Runs -/

/-- The session and its world after a run of commands, each in its own weather. -/
def after (run : List (Weather × Command)) (s : Session × World) : Session × World :=
  run.foldl (fun s call => (step call.1 call.2 s.1 s.2).2.2) s

theorem keeps_step (weather : Weather) (command : Command) (s : Session × World) :
    Keeps (fun id => command.keeps? ≠ some id) s (step weather command s.1 s.2).2.2 := by
  obtain ⟨retains, held⟩ := keeps_perform command (s.1, { s.2 with weather := weather, log := [] })
  exact ⟨retains, held⟩

theorem keeps_after {run : List (Weather × Command)}
    (others : ∀ call ∈ run, ∀ id, ids id → call.2.keeps? ≠ some id) (s : Session × World) :
    Keeps ids s (after run s) := by
  induction run generalizing s with
  | nil => exact refl_of _ s
  | cons call rest ih =>
    obtain ⟨retains, held⟩ := keeps_step call.1 call.2 s
    have first : Keeps ids s (step call.1 call.2 s.1 s.2).2.2 :=
      ⟨retains, fun id kept => held id (others call List.mem_cons_self id kept)⟩
    exact trans_of _ first (ih (fun other mem => others other (List.mem_cons_of_mem _ mem)) _)

/-- At any time the engine of a session recalls what it has read. -/
theorem recalls_after (run : List (Weather × Command)) (loader : Option Loader) (settings : Settings) (w : World) :
    (after run (fresh loader settings, w)).1.engine.Recalls fun _ _ => True := by
  have kept : Keeps (fun _ => False) (fresh loader settings, w) (after run (fresh loader settings, w)) :=
    keeps_after (fun _ _ _ => False.elim) _
  exact kept.retains (.of_forgotten rfl)

/-! ## Templates that are kept -/

/-- The template was read against the filters that the session has. -/
def ReadBy (s : Session) (t : Template) : Prop :=
  ∃ origin source,
    Template.read s.engine.filters s.engine.settings.autoescape s.engine.settings.minify origin source = .ok t

theorem withEngine_eq {x : EngineWork α} {r : Except Fault α} (h : withEngine x (s, w) = (r, s', w')) :
    ∃ e, x (s.engine, w) = (r, e, w') ∧ s' = putEngine e s := by
  rcases run : x (s.engine, w) with ⟨r', e, w''⟩
  rw [withEngine_run run] at h
  obtain ⟨rfl, rest⟩ := Prod.mk.inj h
  obtain ⟨rfl, rfl⟩ := Prod.mk.inj rest
  exact ⟨e, rfl, rfl⟩

theorem readBy_of_template {name : String} {r : Remembered} {e : Engine}
    (recalls : s.engine.Recalls fun _ _ => True) (h : Engine.template name (s.engine, w) = (.ok r, e, w')) :
    s.ReadBy r.template := by
  obtain ⟨source, ⟨e₁, w₁⟩, loaded, rest⟩ | ⟨_, _, impossible⟩ := run_cases h
  · obtain ⟨same, -⟩ := Moves.of_run (Engine.looks_load name) loaded
    obtain rfl : s.engine = e₁ := same
    obtain ⟨-, -, origin, -, read⟩ := Engine.templateFor_run rest recalls
    exact ⟨_, _, read.symm⟩
  · cases impossible

theorem readBy_of_fromText {source : String} {name : Option String} {t : Template} {e : Engine}
    (h : Engine.fromText source name (s.engine, w) = (.ok t, e, w')) : s.ReadBy t := by
  unfold Engine.fromText at h
  rw [WorkOn.state_bind_run] at h
  cases read : s.engine.readTemplate name none source with
  | error fault =>
    rw [read] at h
    cases h
  | ok t' =>
    rw [read] at h
    obtain rfl := Except.ok.inj (Prod.mk.inj h).1
    exact ⟨_, _, read⟩

theorem step_eq (weather : Weather) (command : Command) (s : Session) (w : World) {r : Except Fault Reply}
    (run : perform command (s, { w with weather := weather, log := [] }) = (r, s', w')) :
    step weather command s w = (r, w'.log.reverse, s', { w' with weather := .calm, log := [] }) := by
  unfold step
  rw [run]

/-- A template that a command keeps was read against the filters of that moment, also if the engine had it in
mind already. -/
theorem held_of_step {id : String} {reply : Reply} (recalls : s.engine.Recalls fun _ _ => True)
    (keeps : command.keeps? = some id) (h : (step weather command s w).1 = .ok reply) :
    ∃ t, (step weather command s w).2.2.1.held.lookup id = some t ∧ s.ReadBy t := by
  rcases run : perform command (s, { w with weather := weather, log := [] }) with ⟨r, s', w'⟩
  rw [step_eq weather command s w run] at h ⊢
  obtain rfl : r = .ok reply := h
  cases command with
  | hold other name =>
    obtain rfl := Option.some.inj keeps
    obtain ⟨r, ⟨s₁, w₁⟩, first, rest⟩ | ⟨_, _, impossible⟩ := run_cases run
    · obtain ⟨e, read, rfl⟩ := withEngine_eq first
      obtain ⟨-, rest⟩ := Prod.mk.inj rest
      obtain ⟨rfl, -⟩ := Prod.mk.inj rest
      exact ⟨r.template, Table.lookup_set_self _ _ _, readBy_of_template recalls read⟩
    · cases impossible
  | inline other source name =>
    obtain rfl := Option.some.inj keeps
    obtain ⟨t, ⟨s₁, w₁⟩, first, rest⟩ | ⟨_, _, impossible⟩ := run_cases run
    · obtain ⟨e, read, rfl⟩ := withEngine_eq first
      obtain ⟨-, rest⟩ := Prod.mk.inj rest
      obtain ⟨rfl, -⟩ := Prod.mk.inj rest
      exact ⟨t, Table.lookup_set_self _ _ _, readBy_of_fromText read⟩
    · cases impossible
  | _ => cases keeps

theorem answer_renderHeld {id : String} {t : Template} (found : s.held.lookup id = some t) (args : List Value)
    (named : List (String × Value)) :
    (step weather (.renderHeld id args named) s w).1
      = ((Template.ownArguments args named).bind t.page).map .text := by
  have performed : ∀ w, (renderHeld id args named (s, w)).1
      = ((Template.ownArguments args named).bind t.page).map .text := by
    intro w
    unfold renderHeld
    rw [WorkOn.state_bind_run, found]
    dsimp only
    unfold Template.page
    cases merged : Template.ownArguments args named with
    | error fault => rfl
    | ok data =>
      change ((do return .text (← ofExcept (t.render data []).1) : SessionWork Reply) (s, w)).1
        = (t.render data []).1.map .text
      cases (t.render data []).1 with
      | error fault => rfl
      | ok page => rfl
  exact performed _

/-- The answer for a template that is kept, after a run in which no other one is kept in its place. -/
theorem renderHeld_after {id : String} {t : Template} {run : List (Weather × Command)} {s : Session × World}
    (found : s.1.held.lookup id = some t) (others : ∀ call ∈ run, call.2.keeps? ≠ some id) (weather : Weather)
    (args : List Value) (named : List (String × Value)) :
    (step weather (.renderHeld id args named) (after run s).1 (after run s).2).1
      = ((Template.ownArguments args named).bind t.page).map .text := by
  apply answer_renderHeld
  have kept : Keeps (fun other => other = id) s (after run s) := by
    refine keeps_after ?_ s
    rintro call mem _ rfl
    exact others call mem
  rw [kept.held id rfl, found]

theorem perform_filterChange {f : FilterTable → Except Fault FilterTable}
    (asks : command.filterChange? = some f) :
    perform command = (do withEngine (Engine.changeFilters f); pure .nothing) := by
  cases command <;> cases asks <;> rfl

/-- A change of the filters is made as a whole or not at all, and nothing else happens. -/
theorem step_filterChange {f : FilterTable → Except Fault FilterTable} (asks : command.filterChange? = some f) :
    step weather command s w = match f s.engine.filters with
      | .ok filters =>
        (.ok .nothing, [], putEngine { s.engine with filters := filters } s, { w with weather := .calm, log := [] })
      | .error fault =>
        (.error fault, [], putEngine s.engine s, { w with weather := .calm, log := [] }) := by
  have changed := Engine.changeFilters_run (e := s.engine) (w := { w with weather := weather, log := [] }) (f := f)
  cases result : f s.engine.filters with
  | ok filters =>
    rw [result] at changed
    have performed := run_ok (withEngine_run changed) fun _ => (pure .nothing : SessionWork Reply)
    rw [← perform_filterChange asks] at performed
    exact step_eq weather command s w performed
  | error fault =>
    rw [result] at changed
    have performed := run_error (withEngine_run changed) fun _ => (pure .nothing : SessionWork Reply)
    rw [← perform_filterChange asks] at performed
    exact step_eq weather command s w performed

/-- In every run of a session: a change of the filters that is refused leaves everything as it was, and one of
several filters is refused as a whole if one of them is none. A template that is kept was read against the filters of
that moment, and as long as no other one is kept in its place it answers for all data what it would answer if the
filters had not been changed since. -/
theorem held_template_is_a_snapshot (loader : Option Loader) (settings : Settings) (w₀ : World)
    (before : List (Weather × Command)) (weather : Weather) (command : Command) :
    let s := after before (fresh loader settings, w₀)
    let answered := step weather command s.1 s.2
    (∀ fault, command.changesFilters → answered.1 = .error fault →
      answered.2.2.1.engine = s.1.engine ∧ answered.2.2.1.held = s.1.held
        ∧ answered.2.2.2 = { s.2 with weather := .calm, log := [] })
    ∧ (∀ added named name v, command = .updateFilters added named → (name, .value v) ∈ Table.setAll added named →
      ∃ fault, answered.1 = .error fault)
    ∧ ∀ id reply, command.keeps? = some id → answered.1 = .ok reply → ∃ t, s.1.ReadBy t ∧
      ∀ later, (∀ call ∈ later, call.2.keeps? ≠ some id) → ∀ weather args named,
        let renders (run : List (Weather × Command)) :=
          (step weather (.renderHeld id args named) (after run answered.2.2).1 (after run answered.2.2).2).1
        renders later = renders (later.filter (!·.2.changesFilters))
          ∧ renders later = ((Template.ownArguments args named).bind t.page).map .text := by
  intro s answered
  refine ⟨?_, ?_, ?_⟩
  · intro fault changes refused
    obtain ⟨f, asks⟩ := Option.isSome_iff_exists.1 changes
    have stepped : answered = _ := step_filterChange asks
    cases changed : f s.1.engine.filters with
    | ok filters =>
      rw [stepped, changed] at refused
      cases refused
    | error other =>
      rw [stepped, changed]
      exact ⟨rfl, rfl, rfl⟩
  · rintro added named name v rfl mem
    obtain ⟨fault, refused⟩ := FilterTable.update_eq_error_iff (t := s.1.engine.filters) |>.2 ⟨name, v, mem⟩
    have stepped : answered = _ := step_filterChange rfl
    rw [stepped, refused]
    exact ⟨fault, rfl⟩
  · intro id reply keeps answer
    obtain ⟨t, found, read⟩ := held_of_step (recalls_after before loader settings w₀) keeps answer
    refine ⟨t, read, fun later others weather args named => ?_⟩
    have others' : ∀ call ∈ later.filter (!·.2.changesFilters), call.2.keeps? ≠ some id :=
      fun call mem => others call (List.mem_filter.1 mem).1
    have here := renderHeld_after (s := answered.2.2) found others weather args named
    have there := renderHeld_after (s := answered.2.2) found others' weather args named
    exact ⟨here.trans there.symm, here⟩

/-! ## A filter that is taken away from a template -/

/-- A session that knows one template, and its world. -/
def sample : Session × World :=
  (fresh (some (.table [("a", "\x7bx|loud\x7d")])) .standard, ⟨⟨["w"], []⟩, .ofInt 0, .calm, 0, []⟩)

/-- The filter of the template comes. -/
def arrival : List (Weather × Command) :=
  [(.calm, .setFilter "loud" (.filter (Filter.onOutput upper)))]

/-- The filter of the template goes, others are refused, and the template can not be read any more. -/
def departure : List (Weather × Command) :=
  [(.calm, .eraseFilter "loud"), (.calm, .updateFilters [("loud", .filter Filter.raw), ("soft", .value .null)] []),
    (.calm, .template "a")]

/-- The text of an answer. -/
def textOf? : Except Fault Reply → Option String
  | .ok (.text s) => some s
  | _ => none

set_option maxRecDepth 100000 in
theorem sample_answers :
    let s := after arrival sample
    let answered := step .calm (.hold "h" "a") s.1 s.2
    let later := after departure answered.2.2
    textOf? (answered.1.map fun _ => .text "") = some ""
      ∧ textOf? (step .calm (.renderHeld "h" [] [("x", .text "hi")]) later.1 later.2).1 = some "HI"
      ∧ (step .calm (.template "a") later.1 later.2).1.toOption.isNone := by
  decide +kernel

/-- The template that is kept goes on using the filter, while its source can not be read any more. -/
theorem held_template_outlives_its_filter :
    let s := after arrival sample
    let answered := step .calm (.hold "h" "a") s.1 s.2
    let renders (run : List (Weather × Command)) :=
      (step .calm (.renderHeld "h" [] [("x", .text "hi")]) (after run answered.2.2).1 (after run answered.2.2).2).1
    (∃ reply, answered.1 = .ok reply) ∧ textOf? (renders departure) = some "HI"
      ∧ (step .calm (.template "a") (after departure answered.2.2).1 (after departure answered.2.2).2).1.toOption.isNone
      ∧ ∃ t, s.1.ReadBy t ∧ renders departure = renders (departure.filter (!·.2.changesFilters))
        ∧ renders departure = ((Template.ownArguments [] [("x", .text "hi")]).bind t.page).map .text := by
  intro s answered renders
  obtain ⟨kept, shown, unread⟩ := sample_answers
  have answer : ∃ reply, answered.1 = .ok reply := by
    cases given : answered.1 with
    | ok reply => exact ⟨reply, rfl⟩
    | error fault =>
      have kept : textOf? (answered.1.map fun _ => .text "") = some "" := kept
      rw [given] at kept
      cases kept
  obtain ⟨reply, given⟩ := answer
  obtain ⟨-, -, snapshot⟩ := held_template_is_a_snapshot _ _ sample.2 arrival .calm (.hold "h" "a")
  obtain ⟨t, read, same⟩ := snapshot "h" reply rfl given
  refine ⟨⟨reply, given⟩, shown, unread, t, read, ?_⟩
  refine same departure ?_ .calm [] [("x", .text "hi")]
  simp [departure, Command.keeps?]

end Session

end Stencil
