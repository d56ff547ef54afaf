import Stencil.Proofs.Cache.Soundness
import Stencil.Proofs.Disk.Agreement
import Stencil.Proofs.Engine.Cluster

/-!
# The cache makes no difference

An engine that uses its cache answers as it would without one: the same page or the same fault, in every run of
renderings, readings and clearings (`Cluster.answer_eq_uncached`). What has to be taken for granted is said by
`Cluster.Undisturbed`, in terms of the run without the cache: the directory of the cache is there and the weather
is calm; names and times of files determine their texts; a key stands for one page, and is missing only for usual
reasons; and no page holds a carriage return, which would be read back as a line feed. Besides, the loader, of whatever
kind, may not look into the cache; what comes of that otherwise is shown by `Cluster.cache_makes_a_difference`, as is
what comes of pages without bytes and of data that have no key for another reason.

Both runs are compared with what the engine would come to by itself, `Engine.plainly`. Without a cache that is what
it answers, since a template that it remembers is that of the source. With a cache there are also the pages that
were kept, and these were made plainly in an earlier call.
-/

namespace Stencil

namespace Engine

variable {e e' : Engine} {w w' : World} {name : String} {args : List Value} {named : List (String × Value)}
  {held : String → TemplateSource → Prop} {request : Request} {s : Engine × World}

/-! ## Requests that leave the setup as it is -/

/-- The engine loads from where it did, with the same settings and filters. -/
def SameSetup (e e' : Engine) : Prop :=
  e'.loader = e.loader ∧ e'.settings = e.settings ∧ e'.filters = e.filters

theorem SameCore.setup (h : SameCore e e') : SameSetup e e' :=
  ⟨h.loader, h.settings, h.filters⟩

theorem SameSetup.trans {e'' : Engine} (h : SameSetup e e') (h' : SameSetup e' e'') : SameSetup e e'' :=
  ⟨h'.1.trans h.1, h'.2.1.trans h.2.1, h'.2.2.trans h.2.2⟩

/-- What is read from a source does not depend on what has been rendered before. -/
theorem SameSetup.reading (h : SameSetup e e') (name : String) (source : TemplateSource) :
    e'.reading name source = e.reading name source := by
  unfold Engine.reading readTemplate
  rw [h.2.1, h.2.2]

/-- Does the request leave the filters and the loader as they are? -/
def Request.isSteady : Request → Bool
  | .render _ _ _ | .template _ | .openCache | .clear => true
  | _ => false

theorem setup_perform {r : Except Fault Unit} (steady : request.isSteady = true) (recalls : Recalls e held)
    (h : perform request (e, w) = (r, s)) : SameSetup e s.1 := by
  cases request with
  | render name args named =>
    obtain ⟨_, run⟩ := run_of_ignored h
    cases rendering_run run with
    | refused => exact SameCore.rfl.setup
    | unloaded => exact SameCore.rfl.setup
    | unkeyed _ _ _ consulted | kept _ _ _ consulted => exact (onlyTended_of_consult consulted).core.setup
    | @renewed _ _ _ key s₁ _ _ _ _ _ consulted made =>
      have core := (onlyTended_of_consult consulted).core
      have plain : ∀ k, key = some k → '/' ∉ k.toList := by
        rintro k rfl
        exact slash_not_mem_keyOf (keyed_of_consult consulted).2
      obtain ⟨e₁, w₁⟩ := s₁
      exact core.setup.trans (renew_run plain (recalls.of_core core) made).2.1
  | template name =>
    obtain ⟨_, run⟩ := run_of_ignored h
    obtain ⟨source, ⟨e₁, w₁⟩, loaded, rest⟩ | ⟨fault, loaded, -⟩ := run_cases run
    · obtain rfl : e = e₁ := (Moves.of_run (looks_load name) loaded).1
      rw [(templateFor_run rest recalls).1]
      exact ⟨rfl, rfl, rfl⟩
    · rw [← (Moves.of_run (looks_load name) loaded).1]
      exact SameCore.rfl.setup
  | openCache =>
    obtain ⟨_, run⟩ := run_of_ignored h
    exact (cacheInUse_run run).1.core.setup
  | clear =>
    obtain ⟨_, run⟩ := run_of_ignored h
    exact (clear_run run).core.setup
  | setFilter | eraseFilter | updateFilters | setLoader => cases steady

/-! ## What a rendering comes to by itself -/

/-- The page that an engine gives for data if it has neither a cache nor anything in mind. -/
def plainly (e : Engine) (w : World) (name : String) (args : List Value) (named : List (String × Value)) :
    Except Fault String := do
  let data ← Template.mergeArguments args named
  let source ← (load name (e, w)).1
  let template ← e.reading name source
  template.page data

theorem plainly_of_loaded {data : Scope} {source : TemplateSource}
    (merged : Template.mergeArguments args named = .ok data) (loaded : (load name (e, w)).1 = .ok source) :
    plainly e w name args named = (e.reading name source).bind (·.page data) := by
  unfold plainly
  rw [merged, loaded]
  rfl

theorem keyOf_eq_some {source : TemplateSource} {data : Scope} {key : String}
    (h : keyOf e name source data = some key) :
    ∃ changed, source.changed = some changed
      ∧ Cache.key ((nonEmpty? source.filename).getD name) (.float changed) (.map data) e.settings.room = .ok key := by
  obtain ⟨changed, stamped, made⟩ := Option.bind_eq_some_iff.1 h
  exact ⟨changed, stamped, eq_ok_of_toOption made⟩

/-- The same text under another name gives the same page. -/
theorem page_of_same_text {source source' : TemplateSource} {name' page : String} {data : Scope}
    (text : source'.text = source.text) (made : (e.reading name source).bind (·.page data) = .ok page) :
    (e.reading name' source').bind (·.page data) = .ok page := by
  have same := Template.toOption_page_read e.filters e.settings.autoescape e.settings.minify
    ⟨some name, source.filename⟩ ⟨some name', source'.filename⟩ source.text data
  refine eq_ok_of_toOption ?_
  unfold reading readTemplate at made ⊢
  rw [text, ← same, made]
  rfl

theorem load_fst : (load name (e, w)).1 = match e.loader with
    | some loader => (loader.source name w).1
    | none => .error .noLoader := by
  unfold load
  rw [WorkOn.state_bind_run]
  cases e.loader <;> rfl

/-- An engine answers what it comes to by itself, unless it uses a cache: then it may also answer a kept page, or fail
over the key of the page. -/
theorem Answer.eq_plainly {kept : String → String → Prop} {r : Except Fault String}
    (answer : Answer held kept e w name args named r) (calm : w.weather = .calm)
    (determined : ∀ source origin, (load name (e, w)).1 = .ok source → held name origin →
      origin.changed = source.changed → source.changed.isSome → origin = source) :
    r = plainly e w name args named
      ∨ e.settings.cacheEnabled ∧ ∃ data source, Template.mergeArguments args named = .ok data
        ∧ (load name (e, w)).1 = .ok source
        ∧ ((∃ key page, keyOf e name source data = some key ∧ kept key page
            ∧ r = .ok (String.ofList (readNewlines page.toList)))
          ∨ ∃ fault, KeyFault e name source data fault) := by
  cases answer with
  | refused merged =>
    refine .inl ?_
    rw [plainly, merged]
    rfl
  | unloaded merged loaded =>
    refine .inl ?_
    rw [plainly, merged, loaded]
    rfl
  | @made data source origin merged loaded stands =>
    refine .inl ?_
    rw [plainly_of_loaded merged loaded]
    rcases stands with rfl | ⟨was, changed, timed⟩
    · rfl
    · rw [determined source origin loaded was changed timed]
  | unkeyed merged loaded failed =>
    have enabled : e.settings.cacheEnabled := by
      cases failed with
      | directory enabled | data enabled => exact enabled
    exact .inr ⟨enabled, _, _, merged, loaded, .inr ⟨_, failed⟩⟩
  | served merged loaded enabled keyed was =>
    exact .inr ⟨enabled, _, _, merged, loaded, .inl ⟨_, _, keyed, was, rfl⟩⟩
  | withheld _ _ _ _ unkept => exact absurd calm unkept.not_calm

end Engine

/-- The directory is there in these surroundings, on a disk with the given working directory, and can have its path. -/
def Surroundings.Offer (around : Surroundings) (working : List String) (directory : DiskPath) : Prop :=
  directory.hasNull = false
    ∧ ((⟨working, []⟩ : Disk).surroundedBy (directory.resolve working) around.nodes).isDirectory directory = .ok true

/-- The settings of an engine that is not to use a cache. -/
def Settings.uncached (s : Settings) : Settings :=
  { s with cacheEnabled := false }

namespace Cluster

open Engine

variable {ι : Type} [DecidableEq ι] {c c' : Cluster ι} {run front : List (Call ι)} {call : Call ι} {i : ι}

/-- What an engine answers when it renders after a run of calls. -/
def answer (c : Cluster ι) (front : List (Call ι)) (call : Call ι) (name : String) (args : List Value)
    (named : List (String × Value)) : Except Fault String :=
  (Engine.render name args named ((c.after front).engines call.engine, (c.after front).worldIn call.around)).1

/-- In the run a template is rendered from a file of the given path and time, for the data, with this answer. -/
def Renders (c : Cluster ι) (run : List (Call ι)) (path : String) (changed : Binary64) (data : Scope)
    (result : Except Fault String) : Prop :=
  ∃ front call name args named source, front ++ [call] <+: run ∧ call.request = .render name args named
    ∧ Template.mergeArguments args named = .ok data
    ∧ (load name ((c.after front).engines call.engine, (c.after front).worldIn call.around)).1 = .ok source
    ∧ source.changed = some changed ∧ (nonEmpty? source.filename).getD name = path
    ∧ result = c.answer front call name args named

/-- The run gives a cache no chance to make a difference. It is asked of the run without the cache. -/
structure Undisturbed (c : Cluster Unit) (run : List (Call Unit)) : Prop where
  /-- The filters and the loader stay what they are. -/
  steady : ∀ call ∈ run, call.request.isSteady = true
  /-- No operation on the disk fails for reasons outside of it, and all pages have bytes. -/
  calm : ∀ call ∈ run, call.around.weather = .calm
  /-- The directory of the cache is there. -/
  offer : ∀ call ∈ run, call.around.Offer c.world.disk.working c.directory
  /-- For each name, the time determines the file and the text. -/
  sources : ∀ i name source source', c.Told run i name source → c.Told run i name source' →
    source.changed.isSome → source.changed = source'.changed →
      source.filename = source'.filename ∧ source.text = source'.text
  /-- The path, or the name if there is none, and the time determine the text. -/
  texts : ∀ i name name' source source', c.Told run i name source → c.Told run i name' source' →
    source.changed.isSome → source.changed = source'.changed →
      (nonEmpty? source.filename).getD name = (nonEmpty? source'.filename).getD name' → source.text = source'.text
  /-- Different renderings that share a key have the same answer. -/
  keys : ∀ path changed data result path' changed' data' result' key, c.Renders run path changed data result →
    c.Renders run path' changed' data' result' → (path, changed, data) ≠ (path', changed', data') →
    Cache.key path (.float changed) (.map data) (c.engines ()).settings.room = .ok key →
    Cache.key path' (.float changed') (.map data') (c.engines ()).settings.room = .ok key → result = result'
  /-- A rendering has no key only because its data is too deep or has something without a text of a usual kind. -/
  keyless : ∀ path changed data result fault, c.Renders run path changed data result →
    Cache.key path (.float changed) (.map data) (c.engines ()).settings.room = .error fault → fault.isUsualOfData
  /-- No page holds a carriage return. -/
  returns : ∀ path changed data page, c.Renders run path changed data (.ok page) → '\r' ∉ page.toList

/-! ## What stays the same in a run -/

theorem flat_worldIn (sound : Sound c run) (flat : (c.after run).world.disk.IsFlat c.place) (around : Surroundings) :
    ((c.after run).worldIn around).disk.IsFlat c.place := by
  intro inner t inside here
  rw [worldIn, World.surroundedBy, sound.place, Disk.node?_surroundedBy_within inside] at here
  exact flat inner t inside here

section Fresh

variable {working : List String} {directory : DiskPath} {loader : ι → Option Loader} {settings : ι → Settings}
  {cache : ι → Option Cache}

theorem setup_after (steady : ∀ call ∈ run, call.request.isSteady = true) (i : ι) :
    SameSetup ((fresh working directory loader settings cache).engines i)
      (((fresh working directory loader settings cache).after run).engines i) := by
  induction run using List.reverseRecOn with
  | nil => exact SameCore.rfl.setup
  | append_singleton run call ih =>
    have before := ih fun other mem => steady other (List.mem_append_left _ mem)
    have recalls := recalls_after (c := fresh working directory loader settings cache) (i := call.engine) rfl run
    rcases performed : perform call.request
      (((fresh working directory loader settings cache).after run).engines call.engine,
        ((fresh working directory loader settings cache).after run).worldIn call.around) with ⟨r, s⟩
    rw [after_concat, ask, performed]
    dsimp only
    by_cases same : i = call.engine
    · subst same
      rw [Function.update_self]
      exact before.trans (setup_perform (steady call (by simp)) recalls performed)
    · rw [Function.update_of_ne same]
      exact before

/-- The directory of the caches is there in every call if the surroundings offer it. -/
theorem isDirectory_worldIn (run : List (Call ι)) {around : Surroundings} (offer : around.Offer working directory) :
    (((fresh working directory loader settings cache).after run).worldIn around).disk.isDirectory directory
      = .ok true := by
  have sound := sound_after working directory loader settings cache run
  obtain ⟨place, t, located, here⟩ := Disk.isDirectory_eq_ok_true_iff.1 offer.2
  have at_ : ((fresh working directory loader settings cache).after run).place = directory.resolve working :=
    sound.place
  have stay (p : List String) (t : Binary64)
      (there : ((⟨working, []⟩ : Disk).surroundedBy (directory.resolve working) around.nodes).node? p
        = some (.directory t)) :
      (((fresh working directory loader settings cache).after run).worldIn around).disk.node? p
        = some (.directory t) := by
    cases inside : Disk.isWithin (directory.resolve working) p with
    | true =>
      rw [Disk.node?_surroundedBy_within inside, Disk.node?, if_neg (Disk.ne_nil_of_isWithin inside)] at there
      cases there
    | false =>
      rw [← there]
      refine Disk.node?_of_besides ?_ inside
      rw [worldIn, World.surroundedBy, at_, Disk.besides_surroundedBy, Disk.besides_surroundedBy]
  refine Disk.isDirectory_eq_ok_true_iff.2 ⟨place, t, ?_, stay _ _ here⟩
  exact Disk.locate_of_directories (d := (⟨working, []⟩ : Disk).surroundedBy (directory.resolve working) around.nodes)
    sound.working (fun p t there => ⟨t, stay p t there⟩) located

/-- No directory is ever made in the directory of the caches. -/
theorem flat_after (plain : DiskPath.above ∉ working) (offer : ∀ call ∈ run, call.around.Offer working directory) :
    ((fresh working directory loader settings cache).after run).world.disk.IsFlat (directory.resolve working) := by
  induction run using List.reverseRecOn with
  | nil =>
    intro inner t inside here
    rw [Disk.node?, if_neg (Disk.ne_nil_of_isWithin inside)] at here
    cases here
  | append_singleton run call ih =>
    have sound := sound_after working directory loader settings cache run
    have before := ih fun other mem => offer other (List.mem_append_left _ mem)
    have recalls := recalls_after (c := fresh working directory loader settings cache) (i := call.engine) rfl run
    rcases performed : perform call.request
      (((fresh working directory loader settings cache).after run).engines call.engine,
        ((fresh working directory loader settings cache).after run).worldIn call.around) with ⟨r, s⟩
    have tended := (leaves_perform recalls performed).world.disk rfl
    rw [sound.home] at tended
    have there : (((fresh working directory loader settings cache).after run).worldIn call.around).disk.isDirectory
        directory = .ok true := isDirectory_worldIn run (offer call (by simp))
    have kept := (tended.outside (sound.working ▸ plain) there).2
    have at_ : (((fresh working directory loader settings cache).after run).worldIn call.around).disk.working
      = working := sound.working
    rw [at_] at kept
    rw [after_concat, ask, performed]
    exact kept (flat_worldIn sound before call.around)

end Fresh

/-! ## One engine, with a cache and without -/

/-- A single engine that has nothing in mind, on a disk that holds nothing. -/
abbrev alone (working : List String) (directory : DiskPath) (loader : Option Loader) (settings : Settings)
    (cache : Option Cache) : Cluster Unit :=
  fresh working directory (fun _ => loader) (fun _ => settings) fun _ => cache

section Alone

variable {working : List String} {directory : DiskPath} {loader : Option Loader} {settings settings' : Settings}
  {cache cache' : Option Cache} {run front : List (Call Unit)} {call : Call Unit} {name : String}
  {args : List Value} {named : List (String × Value)}

/-- The worlds of two engines differ by what is in the directory of the caches. -/
theorem alikeBut_worldIn (plain : DiskPath.above ∉ working) (offer : ∀ call ∈ run, call.around.Offer working directory)
    {around : Surroundings} (calm : around.weather = .calm) :
    World.AlikeBut (directory.resolve working)
      (((alone working directory loader settings cache).after run).worldIn around)
      (((alone working directory loader settings' cache').after run).worldIn around) := by
  have sound := sound_after working directory (fun _ => loader) (fun _ => settings) (fun _ => cache) run
  have sound' := sound_after working directory (fun _ => loader) (fun _ => settings') (fun _ => cache') run
  refine ⟨calm, calm, rfl, sound'.working.trans sound.working.symm, ?_, ?_, ?_⟩
  · have at_ : ((alone working directory loader settings cache).after run).place = directory.resolve working :=
      sound.place
    have at_' : ((alone working directory loader settings' cache').after run).place = directory.resolve working :=
      sound'.place
    rw [worldIn, worldIn, World.surroundedBy, World.surroundedBy, at_, at_', Disk.besides_surroundedBy,
      Disk.besides_surroundedBy]
  · exact flat_worldIn sound (flat_after plain offer) around
  · exact flat_worldIn sound' (flat_after plain offer) around

/-- The sources that they load are the same. -/
theorem load_eq (plain : DiskPath.above ∉ working)
    (overlooks : ∀ l ∈ loader, l.Overlooks (directory.resolve working) working)
    (steady : ∀ call ∈ run, call.request.isSteady = true)
    (offer : ∀ call ∈ run, call.around.Offer working directory) {around : Surroundings}
    (calm : around.weather = .calm) (name : String) :
    (load name (((alone working directory loader settings' cache').after run).engines (),
      ((alone working directory loader settings' cache').after run).worldIn around)).1
    = (load name (((alone working directory loader settings cache).after run).engines (),
      ((alone working directory loader settings cache).after run).worldIn around)).1 := by
  have same : (((alone working directory loader settings cache).after run).engines ()).loader = loader :=
    (setup_after steady ()).1
  have same' : (((alone working directory loader settings' cache').after run).engines ()).loader = loader :=
    (setup_after steady ()).1
  rw [load_fst, load_fst, same, same']
  cases loader with
  | none => rfl
  | some l =>
    have at_ : (((alone working directory (some l) settings cache).after run).worldIn around).disk.working = working :=
      (sound_after working directory (fun _ => some l) (fun _ => settings) (fun _ => cache) run).working
    exact overlooks l rfl name _ _ at_ (alikeBut_worldIn plain offer calm)

end Alone

section Compared

variable {working : List String} {directory : DiskPath} {loader : Option Loader} {settings : Settings}
  {cache : Option Cache} {run front : List (Call Unit)} {call : Call Unit} {name : String} {args : List Value}
  {named : List (String × Value)}

theorem Undisturbed.load_eq (h : Undisturbed (alone working directory loader settings.uncached cache) run)
    (plain : DiskPath.above ∉ working) (overlooks : ∀ l ∈ loader, l.Overlooks (directory.resolve working) working)
    (first : front ++ [call] <+: run) (name : String) :
    (load name (((alone working directory loader settings.uncached cache).after front).engines (),
      ((alone working directory loader settings.uncached cache).after front).worldIn call.around)).1
    = (load name (((alone working directory loader settings cache).after front).engines (),
      ((alone working directory loader settings cache).after front).worldIn call.around)).1 :=
  have earlier : front ⊆ run := ((List.prefix_append _ _).trans first).subset
  Cluster.load_eq plain overlooks (fun other mem => h.steady other (earlier mem))
    (fun other mem => h.offer other (earlier mem)) (h.calm call (first.subset (by simp))) name

/-- What the engine with the cache is told, the one without is told as well. -/
theorem Undisturbed.told (h : Undisturbed (alone working directory loader settings.uncached cache) run)
    (plain : DiskPath.above ∉ working) (overlooks : ∀ l ∈ loader, l.Overlooks (directory.resolve working) working)
    (first : front <+: run) {source : TemplateSource}
    (told : (alone working directory loader settings cache).Told front () name source) :
    (alone working directory loader settings.uncached cache).Told run () name source := by
  obtain ⟨front₀, call₀, first₀, -, asked, loaded⟩ := told
  exact ⟨front₀, call₀, first₀.trans first, rfl, asked, (h.load_eq plain overlooks (first₀.trans first) name).trans loaded⟩

/-- A source that was told before with the same time is the one that is loaded. -/
theorem Undisturbed.origin_eq (h : Undisturbed (alone working directory loader settings.uncached cache) run)
    {source origin : TemplateSource}
    (now : (alone working directory loader settings.uncached cache).Told run () name source)
    (before : (alone working directory loader settings.uncached cache).Told run () name origin)
    (changed : origin.changed = source.changed) (timed : source.changed.isSome) : origin = source := by
  obtain ⟨filename, text⟩ := h.sources () name source origin now before timed changed.symm
  cases origin
  cases source
  simp_all

/-- Without the cache the engine answers what it comes to by itself. -/
theorem Undisturbed.answer_uncached (h : Undisturbed (alone working directory loader settings.uncached cache) run)
    (first : front ++ [call] <+: run) (asked : call.request = .render name args named) :
    (alone working directory loader settings.uncached cache).answer front call name args named
      = plainly (((alone working directory loader settings.uncached cache).after front).engines ())
        (((alone working directory loader settings.uncached cache).after front).worldIn call.around) name args named := by
  have sound := sound_after working directory (fun _ => loader) (fun _ => settings.uncached) (fun _ => cache) front
  have answer := Engine.answer_of_entries name args named (recalls_after rfl front) (sound.entries_worldIn call.around ())
  have steady (other : Call Unit) (mem : other ∈ front) : other.request.isSteady = true :=
    h.steady other (((List.prefix_append _ _).trans first).subset mem)
  refine (answer.eq_plainly (h.calm call (first.subset (by simp))) ?_).resolve_right ?_
  · intro source origin loaded was changed timed
    refine h.origin_eq ⟨front, call, first, rfl, ?_, loaded⟩ ?_ changed timed
    · rw [asked]
      rfl
    · exact (told_of_lastRead was).mono ((List.prefix_append _ _).trans first)
  · rintro ⟨enabled, -⟩
    rw [(setup_after steady ()).2.1] at enabled
    cases enabled

/-- Both engines read the same template from a source. -/
theorem reading_eq (steady : ∀ call ∈ front, call.request.isSteady = true) (name : String) (source : TemplateSource) :
    (((alone working directory loader settings.uncached cache).after front).engines ()).reading name source
      = (((alone working directory loader settings cache).after front).engines ()).reading name source := by
  have cached : SameSetup ((alone working directory loader settings cache).engines ())
      (((alone working directory loader settings cache).after front).engines ()) := setup_after steady ()
  exact ((setup_after steady ()).reading name source).trans (cached.reading name source).symm

/-- By themselves both engines come to the same. -/
theorem Undisturbed.plainly_eq (h : Undisturbed (alone working directory loader settings.uncached cache) run)
    (plain : DiskPath.above ∉ working) (overlooks : ∀ l ∈ loader, l.Overlooks (directory.resolve working) working)
    (first : front ++ [call] <+: run) (name : String) (args : List Value) (named : List (String × Value)) :
    plainly (((alone working directory loader settings.uncached cache).after front).engines ())
        (((alone working directory loader settings.uncached cache).after front).worldIn call.around) name args named
      = plainly (((alone working directory loader settings cache).after front).engines ())
        (((alone working directory loader settings cache).after front).worldIn call.around) name args named := by
  have steady (other : Call Unit) (mem : other ∈ front) : other.request.isSteady = true :=
    h.steady other (((List.prefix_append _ _).trans first).subset mem)
  unfold plainly
  rw [h.load_eq plain overlooks first]
  simp only [reading_eq steady]

/-- A page that the engine with the cache has made is what the one without answered then. -/
theorem Undisturbed.renders_of_made (h : Undisturbed (alone working directory loader settings.uncached cache) run)
    (plain : DiskPath.above ∉ working) (overlooks : ∀ l ∈ loader, l.Overlooks (directory.resolve working) working)
    (earlier : front <+: run) {key page : String}
    (made : (alone working directory loader settings cache).Made front key page) :
    ∃ name data source changed, (alone working directory loader settings.uncached cache).Told run () name source
      ∧ source.changed = some changed
      ∧ Cache.key ((nonEmpty? source.filename).getD name) (.float changed) (.map data) settings.room = .ok key
      ∧ (((alone working directory loader settings cache).engines ()).reading name source).bind (·.page data) = .ok page
      ∧ (alone working directory loader settings.uncached cache).Renders run ((nonEmpty? source.filename).getD name)
          changed data (.ok page) := by
  obtain ⟨front₀, call₀, first₀, name, args, named, data, source, origin, asked, merged, loaded, keyed, stands, page_made⟩ :=
    made
  have first := first₀.trans earlier
  have steady (other : Call Unit) (mem : other ∈ front₀) : other.request.isSteady = true :=
    h.steady other (((List.prefix_append _ _).trans first).subset mem)
  have loaded' := (h.load_eq plain overlooks first name).trans loaded
  have told : (alone working directory loader settings.uncached cache).Told run () name source := by
    refine ⟨front₀, call₀, first, rfl, ?_, loaded'⟩
    rw [asked]
    rfl
  obtain ⟨changed, stamped, keyed⟩ := keyOf_eq_some keyed
  rw [(setup_after steady ()).2.1] at keyed
  have same : origin = source := by
    rcases stands with same | ⟨was, changed, timed⟩
    · exact same
    · have before := h.told plain overlooks ((List.prefix_append _ _).trans first) (told_of_lastRead was)
      exact h.origin_eq told before changed timed
  rw [same] at page_made
  have answered : (alone working directory loader settings.uncached cache).answer front₀ call₀ name args named
      = .ok page := by
    rw [h.answer_uncached first asked, h.plainly_eq plain overlooks first, plainly_of_loaded merged loaded]
    exact page_made
  refine ⟨name, data, source, changed, told, stamped, keyed, ?_, front₀, call₀, name, args, named, source, first, asked,
    merged, loaded', stamped, rfl, answered.symm⟩
  rw [← (setup_after steady ()).reading]
  exact page_made

/-- A single engine that uses its cache answers every rendering of a run as it would without the cache, if nothing
gives the cache a chance to make a difference and the loader overlooks the directory of the cache. -/
theorem answer_eq_uncached (plain : DiskPath.above ∉ working)
    (overlooks : ∀ l ∈ loader, l.Overlooks (directory.resolve working) working)
    (undisturbed : Undisturbed (alone working directory loader settings.uncached cache) run)
    (first : front ++ [call] <+: run) (asked : call.request = .render name args named) :
    (alone working directory loader settings cache).answer front call name args named
      = (alone working directory loader settings.uncached cache).answer front call name args named := by
  have earlier : front <+: run := (List.prefix_append _ _).trans first
  have told {source : TemplateSource}
      (loaded : (load name (((alone working directory loader settings cache).after front).engines (),
        ((alone working directory loader settings cache).after front).worldIn call.around)).1 = .ok source) :
      (alone working directory loader settings.uncached cache).Told run () name source := by
    refine ⟨front, call, first, rfl, ?_, (undisturbed.load_eq plain overlooks first name).trans loaded⟩
    rw [asked]
    rfl
  have sound := sound_after working directory (fun _ => loader) (fun _ => settings) (fun _ => cache) front
  have answer := Engine.answer_of_entries name args named (recalls_after rfl front) (sound.entries_worldIn call.around ())
  rcases answer.eq_plainly (undisturbed.calm call (first.subset (by simp))) (fun source origin loaded was changed timed =>
    undisturbed.origin_eq (told loaded) (undisturbed.told plain overlooks earlier (told_of_lastRead was)) changed timed) with
    itself | ⟨-, data, source, merged, loaded, ended⟩
  · rw [undisturbed.answer_uncached first asked]
    exact itself.trans (undisturbed.plainly_eq plain overlooks first name args named).symm
  have steady (other : Call Unit) (mem : other ∈ front) : other.request.isSteady = true :=
    undisturbed.steady other (earlier.subset mem)
  have same : (((alone working directory loader settings cache).after front).engines ()).settings
      = { settings with cacheDirectory := directory } := (setup_after steady ()).2.1
  have renders {changed : Binary64} (stamped : source.changed = some changed) :
      (alone working directory loader settings.uncached cache).Renders run
        ((nonEmpty? source.filename).getD name) changed data
        ((alone working directory loader settings.uncached cache).answer front call name args named) :=
    ⟨front, call, name, args, named, source, first, asked, merged,
      (undisturbed.load_eq plain overlooks first name).trans loaded, stamped, rfl, rfl⟩
  rcases ended with ⟨key, page, keyed, was, served⟩ | ⟨fault, failed⟩
  · obtain ⟨changed, stamped, keyed⟩ := keyOf_eq_some keyed
    rw [same] at keyed
    obtain ⟨name₀, data₀, source₀, changed₀, told₀, stamped₀, keyed₀, made₀, renders₀⟩ :=
      undisturbed.renders_of_made plain overlooks earlier was
    -- the kept page is the answer without the cache, because the key says so or because it is of the same rendering
    have uncached : (alone working directory loader settings.uncached cache).answer front call name args named
        = .ok page := by
      by_cases alike : ((nonEmpty? source.filename).getD name, changed, data)
        = ((nonEmpty? source₀.filename).getD name₀, changed₀, data₀)
      · obtain ⟨path, rest⟩ := Prod.mk.inj alike
        obtain ⟨rfl, rfl⟩ := Prod.mk.inj rest
        have text := undisturbed.texts () _ _ _ _ (told loaded) told₀ (by rw [stamped]; rfl)
          (stamped.trans stamped₀.symm) path
        rw [undisturbed.answer_uncached first asked, undisturbed.plainly_eq plain overlooks first,
          plainly_of_loaded merged loaded, (setup_after steady ()).reading]
        exact page_of_same_text text made₀
      · exact undisturbed.keys _ _ _ _ _ _ _ _ _ (renders stamped) renders₀ alike keyed keyed₀
    have kept : readNewlines page.toList = page.toList :=
      readNewlines_eq_self (undisturbed.returns _ _ _ _ renders₀)
    rw [uncached]
    refine Eq.trans served ?_
    rw [kept, String.ofList_toList]
  · exfalso
    cases failed with
    | directory _ _ null =>
      rw [same, show directory.hasNull = false from (undisturbed.offer call (first.subset (by simp))).1] at null
      cases null
    | data _ stamped failed unusual =>
      rw [same] at failed
      have usual := undisturbed.keyless _ _ _ _ _ (renders stamped) failed
      rw [unusual] at usual
      cases usual

end Compared

/-! ## A file that is rendered twice, and a search in the directory of the cache -/

/-- A run in which all renderings are of one file, of one time and for the same data. -/
theorem Undisturbed.of_one_file {c : Cluster Unit} {run : List (Call Unit)} {data : Scope} {file text : String}
    {changed : Binary64} (steady : ∀ call ∈ run, call.request.isSteady = true)
    (calm : ∀ call ∈ run, call.around.weather = .calm)
    (offer : ∀ call ∈ run, call.around.Offer c.world.disk.working c.directory) (named : file ≠ "")
    (told : ∀ i name source, c.Told run i name source → source = ⟨text, some file, some changed⟩)
    (merged : ∀ call ∈ run, ∀ name args extra, call.request = .render name args extra →
      Template.mergeArguments args extra = .ok data)
    (keyed : ∃ key, Cache.key file (.float changed) (.map data) (c.engines ()).settings.room = .ok key)
    (returns : ∀ path changed data page, c.Renders run path changed data (.ok page) → '\r' ∉ page.toList) :
    Undisturbed c run := by
  have only {path : String} {time : Binary64} {data' : Scope} {result : Except Fault String}
      (renders : c.Renders run path time data' result) : path = file ∧ time = changed ∧ data' = data := by
    obtain ⟨front, call, name, args, extra, source, first, asked, taken, loaded, stamped, rfl, -⟩ := renders
    have source_eq := told () name source ⟨front, call, first, rfl, by rw [asked]; rfl, loaded⟩
    rw [source_eq] at stamped ⊢
    obtain rfl := Option.some.inj stamped
    have taken' := merged call (first.subset (by simp)) name args extra asked
    obtain rfl := Except.ok.inj (taken.symm.trans taken')
    refine ⟨?_, rfl, rfl⟩
    rw [nonEmpty?]
    · rfl
    · intro empty
      exact named (Option.some.inj empty)
  refine ⟨steady, calm, offer, ?sources, ?texts, ?keys, ?keyless, returns⟩
  case sources =>
    intro i name source source' was was' _ _
    rw [told i name source was, told i name source' was']
    exact ⟨rfl, rfl⟩
  case texts =>
    intro i name name' source source' was was' _ _ _
    rw [told i name source was, told i name' source' was']
  case keys =>
    intro path time data' result path' time' data'' result' key renders renders' differ _ _
    obtain ⟨rfl, rfl, rfl⟩ := only renders
    obtain ⟨rfl, rfl, rfl⟩ := only renders'
    exact absurd rfl differ
  case keyless =>
    intro path time data' result fault renders failed
    obtain ⟨rfl, rfl, rfl⟩ := only renders
    obtain ⟨key, made⟩ := keyed
    cases made.symm.trans failed

/-- A call to render the template of a name. -/
def rendering (name : String) : Call Unit :=
  ⟨(), .render name [] [("x", .text "<")], sampleSurroundings⟩

/-- An engine that looks for templates in the given directories and keeps its pages in one of its own. -/
abbrev cachingEngine (roots : List DiskPath) (settings : Settings) : Cluster Unit :=
  alone ["w"] (.read "c") (some (.directories roots .utf8 "")) settings none

/-- After some calls the name of the rendering leads to the one file, if to any, and its page is the expected one. -/
def Expected (c : Cluster Unit) (front : List (Call Unit)) (name : String) : Prop :=
  ((load name ((c.after front).engines (), (c.after front).worldIn sampleSurroundings)).1.toOption.map
      fun source => (source.text, source.filename, source.changed))
    ∈ [none, some ("\x7bx\x7d", some "t/a", some (.ofInt 5))]
  ∧ (c.answer front (rendering name) name [] [("x", .text "<")]).toOption ∈ [none, some "&lt;"]

instance (c : Cluster Unit) (front : List (Call Unit)) (name : String) : Decidable (Expected c front name) :=
  inferInstanceAs (Decidable (_ ∧ _))

theorem offer_sampleSurroundings : sampleSurroundings.Offer ["w"] (.read "c") :=
  ⟨by decide +kernel, eq_ok_of_toOption (by decide +kernel)⟩

/-- The data of the renderings has a key. -/
theorem exists_key_cachingEngine (roots : List DiskPath) :
    ∃ key, Cache.key "t/a" (.float (.ofInt 5)) (.map [(.text "x", .text "<")])
      ((cachingEngine roots Settings.standard.uncached).engines ()).settings.room = .ok key :=
  ⟨_, Cache.key_eq_ok_iff.2 ⟨⟨show _ ≤ Value.usualDepth by decide +kernel,
    Value.unkeyed?_map (by decide +kernel) (by decide +kernel), by decide +kernel⟩, rfl⟩⟩

theorem undisturbed_pair {roots : List DiskPath} {name name' : String}
    (first : Expected (cachingEngine roots Settings.standard.uncached) [] name)
    (second : Expected (cachingEngine roots Settings.standard.uncached) [rendering name] name') :
    Undisturbed (cachingEngine roots Settings.standard.uncached) [rendering name, rendering name'] := by
  have each {front : List (Call Unit)} {call : Call Unit} (at_ : front ++ [call] <+: [rendering name, rendering name']) :
      ∃ n, call = rendering n ∧ Expected (cachingEngine roots Settings.standard.uncached) front n := by
    rcases prefix_pair at_ with ⟨rfl, rfl⟩ | ⟨rfl, rfl⟩
    · exact ⟨name, rfl, first⟩
    · exact ⟨name', rfl, second⟩
  have all {P : Call Unit → Prop} (one : ∀ n, P (rendering n)) : ∀ call ∈ [rendering name, rendering name'], P call := by
    intro call mem
    simp only [List.mem_cons, List.not_mem_nil, or_false] at mem
    rcases mem with rfl | rfl
    · exact one name
    · exact one name'
  have told : ∀ i n source,
      (cachingEngine roots Settings.standard.uncached).Told [rendering name, rendering name'] i n source →
        source = ⟨"\x7bx\x7d", some "t/a", some (.ofInt 5)⟩ := by
    rintro ⟨⟩ n source ⟨front, call, at_, -, asked, loaded⟩
    obtain ⟨n', rfl, loads, -⟩ := each at_
    obtain rfl := Option.some.inj asked
    have loaded : (load n' (((cachingEngine roots Settings.standard.uncached).after front).engines (),
      ((cachingEngine roots Settings.standard.uncached).after front).worldIn sampleSurroundings)).1 = .ok source := loaded
    rw [loaded] at loads
    obtain ⟨text, filename, changed⟩ := source
    simpa [Except.toOption] using loads
  have merged : ∀ call ∈ [rendering name, rendering name'], ∀ n args extra, call.request = .render n args extra →
      Template.mergeArguments args extra = .ok [(.text "x", .text "<")] := by
    refine all fun n => ?_
    rintro name args extra ⟨⟩
    rfl
  refine .of_one_file (all fun _ => rfl) (all fun _ => rfl) (all fun _ => offer_sampleSurroundings) (by decide) told merged
    (exists_key_cachingEngine roots) ?_
  · rintro path changed data page ⟨front, call, name, args, extra, source, at_, asked, -, -, -, -, answered⟩
    obtain ⟨n, rfl, -, pages⟩ := each at_
    cases asked
    rw [← answered] at pages
    have : page = "&lt;" := by simpa [Except.toOption] using pages
    rw [this]
    decide

set_option maxRecDepth 100000 in
/-- The second rendering is answered from the cache. -/
theorem kept_page_is_the_uncached_one :
    (cachingEngine [.read "t"] Settings.standard).answer [rendering "a"] (rendering "a") "a" [] [("x", .text "<")]
        = (cachingEngine [.read "t"] Settings.standard.uncached).answer [rendering "a"] (rendering "a") "a" []
          [("x", .text "<")]
      ∧ (((cachingEngine [.read "t"] Settings.standard).after [rendering "a", rendering "a"]).engines ()).cache.map (·.hits)
        = some 1 := by
  refine ⟨?_, by decide +kernel⟩
  refine answer_eq_uncached (by decide) ?_
    (undisturbed_pair (by decide +kernel) (by decide +kernel)) (List.prefix_refl [rendering "a", rendering "a"]) rfl
  rintro l ⟨⟩
  refine Loader.overlooks_of_isApart ⟨?_, by decide +kernel⟩
  exact List.forall_mem_singleton.2 (by decide +kernel)

/-- The name under which a loader that looks in the directory of the cache finds the page of the template. -/
def entryAsName : String :=
  "template_ea9cb1b76b5bd3ff9dbb8dac1b2293469c1431f92a13bb480aeee52d02e6d2a7.html"

/-- An engine that looks for templates in the directory of its cache, too. -/
abbrev selfReadingEngine (settings : Settings) : Cluster Unit :=
  cachingEngine [.read "t", .read "c"] settings

/-- A call for a page that has no bytes. -/
def unencodableRendering : Call Unit :=
  ⟨(), .render "a" [] [("x", .text "<")],
    { sampleSurroundings with weather := { Weather.calm with broken := fun _ => some "surrogates not allowed" } }⟩

set_option maxRecDepth 100000 in
/-- The cache makes a difference in each of these cases: a loader that looks in its directory takes a kept page for a
template, an object in the data refuses in an unusual way to be written for the key, and a page has no bytes. -/
theorem cache_makes_a_difference :
    (Undisturbed (selfReadingEngine Settings.standard.uncached) [rendering "a", rendering entryAsName]
      ∧ ((selfReadingEngine Settings.standard.uncached).answer [rendering "a"] (rendering entryAsName) entryAsName []
          [("x", .text "<")]).toOption = none
      ∧ ((selfReadingEngine Settings.standard).answer [rendering "a"] (rendering entryAsName) entryAsName []
          [("x", .text "<")]).toOption = some "&lt;")
    ∧ (((cachingEngine [.read "t"] Settings.standard.uncached).answer [] (rendering "a") "a" []
          [("x", keylessObject)]).toOption = some "x"
      ∧ ((cachingEngine [.read "t"] Settings.standard).answer [] (rendering "a") "a" []
          [("x", keylessObject)]).toOption = none)
    ∧ ((cachingEngine [.read "t"] Settings.standard.uncached).answer [] unencodableRendering "a" []
          [("x", .text "<")]).toOption = some "&lt;"
      ∧ ((cachingEngine [.read "t"] Settings.standard).answer [] unencodableRendering "a" []
          [("x", .text "<")]).toOption = none :=
  ⟨⟨undisturbed_pair (by decide +kernel) (by decide +kernel), by decide +kernel, by decide +kernel⟩,
    ⟨by decide +kernel, by decide +kernel⟩, by decide +kernel, by decide +kernel⟩

end Cluster

end Stencil
