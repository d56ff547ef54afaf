import Stencil.Proofs.Engine.Recall

/-!
# What engines are asked for

`Engine.Request` are the things that an engine is asked to do between two looks at it from outside, and
`Engine.perform` does them. `Engine.Rendering` says all that a rendering can come to, stage by stage; the
other requests are short.

What a request leaves behind is one structure (`Engine.Leaves`, shown by `Engine.leaves_perform`): what the engine
remembers, where it keeps its pages, and what it did to the disk. It adds an entry to the cache only for a page that
it made itself, which is what `Engine.Makes` says.
-/

namespace Stencil

namespace Engine

variable {working : List String} {new : String → List UInt8 → Prop} {e e' : Engine}
  {w w' : World} {name key : String} {source : TemplateSource} {data : Scope} {args : List Value}
  {named : List (String × Value)} {held : String → TemplateSource → Prop}

/-! ## Renderings -/

/-- What the cache has for the page that a source gives for data, and the key under which the page is to be
kept. -/
def consult (name : String) (source : TemplateSource) (data : Scope) :
    EngineWork (Option String × Option String) := do
  let key ← pageKey name source data
  let page ← cachedPage name key
  pure (page, key.map (·.2))

/-- Makes the page that a source gives for data and keeps it under the key, if there is one. -/
def renew (name : String) (source : TemplateSource) (data : Scope) (key : Option String) : EngineWork String := do
  let page ← renderSource name source data
  match key with
  | some key => keepPage page key
  | none => pure ()
  pure page

theorem render_eq (name : String) (args : List Value) (named : List (String × Value)) :
    render name args named = (match Template.mergeArguments args named with
      | .error fault => throw fault
      | .ok data => do
        let source ← load name
        let found ← consult name source data
        match found.1 with
        | some page => pure page
        | none => renew name source data found.2) := by
  unfold render consult renew
  cases Template.mergeArguments args named with
  | error fault => rfl
  | ok data =>
    simp only [bind_assoc, pure_bind]
    refine bind_congr fun source => bind_congr fun key => bind_congr fun page => ?_
    cases page with
    | some page => rfl
    | none =>
      refine bind_congr fun page => ?_
      cases key with
      | none => rfl
      | some found => rfl

/-- All that a rendering can come to: what it answers, and in which state it ends. -/
inductive Rendering (e : Engine) (w : World) (name : String) (args : List Value) (named : List (String × Value)) :
    Except Fault String → Engine × World → Prop
  /-- The arguments are refused. -/
  | refused {fault : Fault} (merged : Template.mergeArguments args named = .error fault) :
    Rendering e w name args named (.error fault) (e, w)
  /-- There is no source. -/
  | unloaded {fault : Fault} {data : Scope} {w₁ : World} (merged : Template.mergeArguments args named = .ok data)
    (loaded : load name (e, w) = (.error fault, e, w₁)) (looked : World.Next Eq w w₁) :
    Rendering e w name args named (.error fault) (e, w₁)
  /-- The search for the page in the cache fails. -/
  | unkeyed {fault : Fault} {data : Scope} {source : TemplateSource} {w₁ : World} {s : Engine × World}
    (merged : Template.mergeArguments args named = .ok data)
    (loaded : load name (e, w) = (.ok source, e, w₁)) (looked : World.Next Eq w w₁)
    (consulted : consult name source data (e, w₁) = (.error fault, s)) :
    Rendering e w name args named (.error fault) s
  /-- The page comes from the cache. -/
  | kept {data : Scope} {source : TemplateSource} {w₁ : World} {page : String} {key : Option String}
    {s : Engine × World} (merged : Template.mergeArguments args named = .ok data)
    (loaded : load name (e, w) = (.ok source, e, w₁)) (looked : World.Next Eq w w₁)
    (consulted : consult name source data (e, w₁) = (.ok (some page, key), s)) :
    Rendering e w name args named (.ok page) s
  /-- The page is made. -/
  | renewed {data : Scope} {source : TemplateSource} {w₁ : World} {key : Option String} {s s' : Engine × World}
    {r : Except Fault String} (merged : Template.mergeArguments args named = .ok data)
    (loaded : load name (e, w) = (.ok source, e, w₁)) (looked : World.Next Eq w w₁)
    (consulted : consult name source data (e, w₁) = (.ok (none, key), s))
    (made : renew name source data key s = (r, s')) :
    Rendering e w name args named r s'

/-- What is found in the cache under the key of the page is what the entry for it held when the cache was
consulted. Nothing fails but the search for the key. -/
theorem consult_run {r : Except Fault (Option String × Option String)} {s : Engine × World}
    (h : consult name source data (e, w) = (r, s)) :
    OnlyTended (e, w) s
      ∧ ((∃ found, r = .ok found
          ∧ (∀ key, found.2 = some key → e.settings.cacheEnabled ∧ keyOf e name source data = some key)
          ∧ (∀ page, found.1 = some page → e.settings.cacheEnabled ∧
            ∃ key bytes t chars, keyOf e name source data = some key
              ∧ w.disk.node? (Cache.entryPlace (e.home.resolve w.disk.working) key) = some (.file bytes t)
              ∧ Utf8.decode bytes = .ok chars ∧ page = String.ofList (readNewlines chars)))
        ∨ ∃ fault, r = .error fault ∧ KeyFault e name source data fault) := by
  obtain ⟨found, ⟨e₁, w₁⟩, keyed, rest⟩ | ⟨fault, keyed, rfl⟩ := run_cases h
  · obtain ⟨first, ⟨found', same, holds⟩ | ⟨_, failed, -⟩⟩ := pageKey_run keyed
    · obtain rfl := Except.ok.inj same
      cases found with
      | none =>
        obtain ⟨rfl, rfl⟩ := Prod.mk.inj rest
        exact ⟨first, .inl ⟨_, rfl, nofun, nofun⟩⟩
      | some found =>
        obtain ⟨c, key⟩ := found
        obtain ⟨enabled, cache, keyed'⟩ := holds c key rfl
        have plain := slash_not_mem_keyOf keyed'
        obtain ⟨page, s₂, cached, rest⟩ | ⟨fault, cached, -⟩ := run_cases rest
        · obtain ⟨second, page', same', held⟩ := cachedPage_run plain cache cached
          obtain rfl := Except.ok.inj same'
          obtain ⟨rfl, rfl⟩ := Prod.mk.inj rest
          refine ⟨IsTrans.trans _ _ _ first second, .inl ⟨_, rfl, fun key' same => ⟨enabled, ?_⟩,
            fun text same => ⟨enabled, ?_⟩⟩⟩
          · obtain rfl := Option.some.inj same
            exact keyed'
          · obtain ⟨bytes, chars, read, decoded, shown⟩ := held text same
            obtain ⟨place, t, located, here⟩ := Disk.read_eq_ok_iff.1 read
            have tended := (first w.disk.working fun _ _ => False).world.disk rfl
            obtain rfl : place = Cache.entryPlace (e.home.resolve w.disk.working) key := by
              rw [Disk.eq_resolve_of_locate located, Cache.resolve_pathFor plain, ← home_of_cache cache, first.home,
                tended.working]
            rcases tended.entries key bytes t here with ⟨t', before⟩ | impossible
            · exact ⟨key, bytes, t', chars, keyed', before, decoded, shown⟩
            · exact impossible.elim
        · cases (cachedPage_run plain cache cached).2.choose_spec.1
    · cases failed
  · obtain ⟨tended, ⟨_, done, -⟩ | ⟨fault', same, failed⟩⟩ := pageKey_run keyed
    · cases done
    · obtain rfl := Except.error.inj same
      exact ⟨tended, .inr ⟨fault, rfl, failed⟩⟩

section Consulted

variable {s : Engine × World}

theorem onlyTended_of_consult {r : Except Fault (Option String × Option String)}
    (h : consult name source data (e, w) = (r, s)) : OnlyTended (e, w) s :=
  (consult_run h).1

/-- Where a key is found there is to be a cache, and the key is that of the page. -/
theorem keyed_of_consult {page : Option String} (h : consult name source data (e, w) = (.ok (page, some key), s)) :
    e.settings.cacheEnabled ∧ keyOf e name source data = some key := by
  obtain ⟨-, ⟨_, same, keyed, -⟩ | ⟨_, failed, -⟩⟩ := consult_run h
  · obtain rfl := Except.ok.inj same
    exact keyed key rfl
  · cases failed

/-- A page that is found in the cache is what an entry holds. -/
theorem held_of_consult {page : String} {found : Option String}
    (h : consult name source data (e, w) = (.ok (some page, found), s)) :
    e.settings.cacheEnabled ∧ ∃ key bytes t chars, keyOf e name source data = some key
      ∧ w.disk.node? (Cache.entryPlace (e.home.resolve w.disk.working) key) = some (.file bytes t)
      ∧ Utf8.decode bytes = .ok chars ∧ page = String.ofList (readNewlines chars) := by
  obtain ⟨-, ⟨_, same, -, held⟩ | ⟨_, failed, -⟩⟩ := consult_run h
  · obtain rfl := Except.ok.inj same
    exact held page rfl
  · cases failed

theorem keyFault_of_consult {fault : Fault} (h : consult name source data (e, w) = (.error fault, s)) :
    KeyFault e name source data fault := by
  obtain ⟨-, ⟨_, done, -⟩ | ⟨_, same, failed⟩⟩ := consult_run h
  · cases done
  · obtain rfl := Except.error.inj same
    exact failed

end Consulted

theorem rendering_run {r : Except Fault String} {s : Engine × World} (h : render name args named (e, w) = (r, s)) :
    Rendering e w name args named r s := by
  rw [render_eq] at h
  cases merged : Template.mergeArguments args named with
  | error fault =>
    rw [merged] at h
    obtain ⟨rfl, rfl⟩ := Prod.mk.inj h
    exact .refused merged
  | ok data =>
    rw [merged] at h
    obtain ⟨source, ⟨e₁, w₁⟩, loaded, rest⟩ | ⟨fault, loaded, rfl⟩ := run_cases h
    · obtain ⟨same, looked⟩ := Moves.of_run (looks_load name) loaded
      obtain rfl : e = e₁ := same
      obtain ⟨found, s₂, consulted, rest⟩ | ⟨fault, consulted, rfl⟩ := run_cases rest
      · obtain ⟨page, key⟩ := found
        cases page with
        | some page =>
          obtain ⟨rfl, rfl⟩ := Prod.mk.inj rest
          exact .kept merged loaded looked consulted
        | none => exact .renewed merged loaded looked consulted rest
      · exact .unkeyed merged loaded looked consulted
    · obtain ⟨same, looked⟩ := Moves.of_run (looks_load name) loaded
      obtain ⟨e₁, w₁⟩ := s
      obtain rfl : e = e₁ := same
      exact .unloaded merged loaded looked

theorem heldAfterReading_eq_of_serial {e'' : Engine} (same : e''.serial = e'.serial) :
    heldAfterReading held name source e e'' = heldAfterReading held name source e e' := by
  unfold heldAfterReading
  rw [same]

/-- A page that is made anew is the one that the template of its source gives, read with the engine's filters
and settings: that source, or one that stands for it. Keeping it adds the entry for its key at most. -/
theorem renew_run {key : Option String} {r : Except Fault String} {s : Engine × World}
    (plain : ∀ k, key = some k → '/' ∉ k.toList) (recalls : Recalls e held)
    (h : renew name source data key (e, w) = (r, s)) :
    Recalls s.1 (heldAfterReading held name source e s.1)
      ∧ (s.1.loader = e.loader ∧ s.1.settings = e.settings ∧ s.1.filters = e.filters)
      ∧ ∃ origin, StandsFor held name origin source
        ∧ (r = (e.reading name origin).bind (·.page data)
          ∨ ∃ fault page, r = .error fault ∧ (e.reading name origin).bind (·.page data) = .ok page
            ∧ KeepFault e w page fault)
        ∧ s.1.home = e.home
        ∧ World.TendedFrom w.disk.working e.home
          (fun k bytes => ∃ page, key = some k ∧ (e.reading name origin).bind (·.page data) = .ok page
            ∧ bytes = Utf8.encode page.toList) w s.2 := by
  obtain ⟨page, ⟨e₁, w₁⟩, made, rest⟩ | ⟨fault, made, rfl⟩ := run_cases h
  · obtain ⟨same, recalls, origin, stands, result⟩ := renderSource_run made recalls
    obtain ⟨rest_same, rfl⟩ := Prod.mk.inj same
    have home : e₁.home = e.home := by
      rw [rest_same]
      rfl
    have setup : e₁.loader = e.loader ∧ e₁.settings = e.settings ∧ e₁.filters = e.filters := by
      rw [rest_same]
      exact ⟨rfl, rfl, rfl⟩
    cases key with
    | none =>
      obtain ⟨rfl, rfl⟩ := Prod.mk.inj rest
      exact ⟨recalls, setup, origin, stands, .inl result, home, refl_of _ _⟩
    | some key =>
      obtain ⟨r', ⟨e₂, w₂⟩, kept, outcome⟩ : ∃ r' s', keepPage page key (e₁, w₁) = (r', s')
          ∧ (r, s) = (r'.map fun _ => page, s') := by
        obtain ⟨⟨⟩, between, kept, rest⟩ | ⟨fault, kept, rfl⟩ := run_cases rest
        · exact ⟨_, _, kept, rest.symm⟩
        · exact ⟨_, _, kept, rfl⟩
      obtain ⟨rfl, rfl⟩ := Prod.mk.inj outcome
      obtain ⟨tended, fails⟩ := keepPage_run (plain key rfl) kept
      refine ⟨?_, ?_, origin, stands, ?_, tended.home.trans home, ?_⟩
      · rw [heldAfterReading_eq_of_serial tended.core.serial]
        exact recalls.of_core tended.core
      · exact ⟨tended.core.loader.trans setup.1, tended.core.settings.trans setup.2.1,
          tended.core.filters.trans setup.2.2⟩
      · cases r' with
        | ok _ => exact .inl result
        | error fault => exact .inr ⟨fault, page, rfl, result.symm, (fails fault rfl).of_same home.symm rfl rfl⟩
      · rw [← home]
        refine tended.world.mono fun d d' kept from_ => ?_
        refine (kept from_).mono fun k bytes asked => ?_
        obtain ⟨rfl, rfl⟩ := asked
        exact ⟨page, rfl, result.symm, rfl⟩
  · obtain ⟨same, recalls, origin, stands, result⟩ := renderSource_run made recalls
    obtain ⟨e₁, w₁⟩ := s
    obtain ⟨rest_same, rfl⟩ := Prod.mk.inj same
    refine ⟨recalls, ?_, origin, stands, .inl result, ?_, refl_of _ _⟩
    · dsimp only
      rw [rest_same]
      exact ⟨rfl, rfl, rfl⟩
    · dsimp only
      rw [rest_same]
      rfl

/-! ## Requests -/

/-- What an engine can be asked to do. -/
inductive Request where
  | render (name : String) (args : List Value) (named : List (String × Value))
  | template (name : String)
  | setFilter (name : String) (candidate : FilterCandidate)
  | eraseFilter (name : String)
  | updateFilters (added named : List (String × FilterCandidate))
  | setLoader (loader : Option Loader)
  | openCache
  | clear

/-- The template that a request is about. -/
def Request.name? : Request → Option String
  | render name _ _ | template name => some name
  | _ => none

/-- Does what it is asked to do. What comes of it is left to those who look. -/
def perform : Request → EngineWork Unit
  | .render name args named => do let _ ← Engine.render name args named
  | .template name => do let _ ← Engine.template name
  | .setFilter name candidate => changeFilters (·.set name candidate)
  | .eraseFilter name => changeFilters (·.erase name)
  | .updateFilters added named => changeFilters (·.update added named)
  | .setLoader loader => WorkOn.update fun e => { e with loader := loader }
  | .openCache => do let _ ← cacheInUse
  | .clear => do let _ ← Engine.clear

/-- The engine made a page anew for a request, to be kept under a key: from a source that it loaded, or from
one that stands for it. -/
def Makes (held : String → TemplateSource → Prop) (e : Engine) (w : World) (request : Request)
    (key page : String) : Prop :=
  ∃ name args named data source origin, request = .render name args named
    ∧ Template.mergeArguments args named = .ok data ∧ (load name (e, w)).1 = .ok source
    ∧ keyOf e name source data = some key ∧ StandsFor held name origin source
    ∧ (e.reading name origin).bind (·.page data) = .ok page

/-- What is held for the sources of the engine's templates when a request has made it another one: the source that it
has read anew for the request, and what was held before, unless it has forgotten its templates, has other filters now
or has read another source for the name. -/
def heldNext (held : String → TemplateSource → Prop) (e e' : Engine) (w : World) (request : Request) :
    String → TemplateSource → Prop :=
  fun name source => e'.filters = e.filters
    ∧ ((request.name? = some name ∧ (load name (e, w)).1 = .ok source ∧ e'.serial ≠ e.serial)
      ∨ (held name source ∧ request ≠ .clear ∧ ¬(request.name? = some name ∧ e'.serial ≠ e.serial)))

/-- What a request leaves behind: the engine recalls what is held, it keeps its pages where it did, and it added at
most the entry of a page that it made for the request. -/
structure Leaves (held : String → TemplateSource → Prop) (e : Engine) (w : World) (request : Request)
    (s : Engine × World) : Prop where
  recalls : s.1.Recalls (heldNext held e s.1 w request)
  home : s.1.home = e.home
  world : World.TendedFrom w.disk.working e.home
    (fun key bytes => ∃ page, Makes held e w request key page ∧ bytes = Utf8.encode page.toList) w s.2

variable {request : Request} {s : Engine × World}

/-- Where no template is read anew and nothing is forgotten, what was held still is. -/
theorem Recalls.of_unread (h : Recalls e' held) (remembers : request ≠ .clear) (filters : e'.filters = e.filters)
    (serial : e'.serial = e.serial) : Recalls e' (heldNext held e e' w request) :=
  h.mono fun _ _ was => ⟨filters, .inr ⟨was, remembers, fun anew => anew.2 serial⟩⟩

theorem Recalls.of_reading (h : Recalls e' (heldAfterReading held name source e e')) (remembers : request ≠ .clear)
    (asked : request.name? = some name) (loaded : (load name (e, w)).1 = .ok source)
    (filters : e'.filters = e.filters) : Recalls e' (heldNext held e e' w request) := by
  refine h.mono ?_
  rintro other origin (⟨rfl, rfl, anew⟩ | ⟨was, still⟩)
  · exact ⟨filters, .inl ⟨asked, loaded, anew⟩⟩
  · refine ⟨filters, .inr ⟨was, remembers, fun anew => still ⟨?_, anew.2⟩⟩⟩
    exact Option.some.inj (anew.1.symm.trans asked)

theorem Leaves.of_tended (recalls : Recalls e held) (remembers : request ≠ .clear) (tended : OnlyTended (e, w) s) :
    Leaves held e w request s where
  recalls := (recalls.of_core tended.core).of_unread remembers tended.core.filters tended.core.serial
  home := tended.home
  world := (tended _ _).world

/-- Nothing but what the engine is told to remember or to read with has changed. -/
theorem Leaves.of_setup (recalls : e'.Recalls (heldNext held e e' w request)) (looked : World.Next Eq w w')
    (settings : e'.settings = e.settings) (cache : e'.cache = e.cache) :
    Leaves held e w request (e', w') where
  recalls := recalls
  home := by
    unfold Engine.home
    rw [settings, cache]
  world := looked.mono fun d _ same => same ▸ refl_of _ d

theorem leaves_rendering {r : Except Fault String} (recalls : Recalls e held)
    (h : Rendering e w name args named r s) : Leaves held e w (.render name args named) s := by
  cases h with
  | refused merged => exact .of_tended recalls nofun (refl_of _ _)
  | unloaded merged loaded looked => exact .of_tended recalls nofun (onlyTended_of_looks looked)
  | unkeyed merged loaded looked consulted | kept merged loaded looked consulted =>
    exact .of_tended recalls nofun
      (IsTrans.trans _ _ _ (onlyTended_of_looks looked) (onlyTended_of_consult consulted))
  | @renewed data source w₁ key s₁ _ _ merged loaded looked consulted made =>
    have tended := onlyTended_of_consult consulted
    obtain ⟨e₁, w₂⟩ := s₁
    have plain : ∀ k, key = some k → '/' ∉ k.toList := by
      rintro k rfl
      exact slash_not_mem_keyOf (keyed_of_consult consulted).2
    have loaded_now : (load name (e, w)).1 = .ok source := congrArg Prod.fst loaded
    obtain ⟨recalls', ⟨-, -, filters⟩, origin, stands, -, home, last⟩ :=
      renew_run plain (recalls.of_core tended.core) made
    have read : e₁.reading name origin = e.reading name origin := by
      unfold reading readTemplate
      rw [tended.core.filters, tended.core.settings]
    have after_core : heldAfterReading held name source e₁ s.1 = heldAfterReading held name source e s.1 := by
      unfold heldAfterReading
      rw [show e₁.serial = e.serial from tended.core.serial]
    refine ⟨(after_core ▸ recalls').of_reading nofun rfl loaded_now (filters.trans tended.core.filters),
      home.trans tended.home, ?_⟩
    have first := (tended w.disk.working fun _ _ => False).world
    have working : w₂.disk.working = w.disk.working :=
      (first.disk (congrArg Disk.working looked.disk.symm)).working.trans (congrArg Disk.working looked.disk.symm)
    rw [working, tended.home] at last
    have before : World.TendedFrom w.disk.working e.home
        (fun key bytes => ∃ page, Makes held e w (.render name args named) key page
          ∧ bytes = Utf8.encode page.toList) w w₂ :=
      (looked.mono fun d _ same => same ▸ refl_of _ d).trans
        (first.mono fun _ _ kept from_ => (kept from_).mono fun _ _ => False.elim)
    refine before.trans (last.mono fun _ _ kept from_ => (kept from_).mono fun k bytes asked => ?_)
    obtain ⟨page, rfl, result, rfl⟩ := asked
    exact ⟨page, ⟨name, args, named, data, source, origin, rfl, merged, loaded_now, (keyed_of_consult consulted).2,
      stands, read ▸ result⟩, rfl⟩

theorem leaves_template {r : Except Fault Remembered} (recalls : Recalls e held)
    (h : template name (e, w) = (r, s)) : Leaves held e w (.template name) s := by
  obtain ⟨source, ⟨e₁, w₁⟩, loaded, rest⟩ | ⟨fault, loaded, -⟩ := run_cases h
  · obtain ⟨same, looked⟩ := Moves.of_run (looks_load name) loaded
    obtain rfl : e = e₁ := same
    have loaded_now : (load name (e, w)).1 = .ok source := congrArg Prod.fst loaded
    obtain ⟨same, recalls, -⟩ := templateFor_run rest recalls
    rw [same]
    exact .of_setup (Recalls.of_reading (same ▸ recalls) nofun rfl loaded_now rfl) looked rfl rfl
  · obtain ⟨same, looked⟩ := Moves.of_run (looks_load name) loaded
    obtain ⟨e₁, w₁⟩ := s
    obtain rfl : e = e₁ := same
    exact .of_tended recalls nofun (onlyTended_of_looks looked)

theorem leaves_changeFilters {f : FilterTable → Except Fault FilterTable} {r : Except Fault Unit}
    (newer : ∀ t t', f t = .ok t' → t'.stamp = t.stamp + 1) (recalls : Recalls e held) (remembers : request ≠ .clear)
    (h : changeFilters f (e, w) = (r, s)) : Leaves held e w request s := by
  unfold changeFilters at h
  rw [WorkOn.state_bind_run] at h
  cases changed : f e.filters with
  | ok filters =>
    rw [changed] at h
    obtain ⟨rfl, rfl⟩ := Prod.mk.inj h
    exact .of_setup (recalls.of_newFilters (newer _ _ changed)) (refl_of _ w) rfl rfl
  | error fault =>
    rw [changed] at h
    obtain ⟨rfl, rfl⟩ := Prod.mk.inj h
    exact .of_tended recalls remembers (refl_of _ _)

theorem leaves_openCache {r : Except Fault (Option Cache)} (recalls : Recalls e held)
    (h : cacheInUse (e, w) = (r, s)) : Leaves held e w .openCache s :=
  .of_tended recalls nofun (cacheInUse_run h).1

/-- Clearing makes the engine forget its templates, and then tends the disk. -/
theorem clear_run {r : Except Fault Bool} (h : clear (e, w) = (r, s)) :
    OnlyTended ({ e with memo := [] }, w) s := by
  obtain ⟨⟨⟩, s₁, emptied, rest⟩ | ⟨_, emptied, -⟩ := run_cases h
  · obtain ⟨-, rfl⟩ := Prod.mk.inj emptied
    obtain ⟨found, ⟨e₂, w₂⟩, used, ended⟩ | ⟨_, used, -⟩ := run_cases rest
    · obtain ⟨first, inUse | ⟨failed, -⟩⟩ := cacheInUse_run used
      swap
      · cases failed
      cases found with
      | none =>
        obtain ⟨-, rfl⟩ := Prod.mk.inj ended
        exact first
      | some c =>
        have cache : e₂.cache = some c := by
          split at inUse
          · exact (Except.ok.inj inUse).symm
          · cases inUse
        obtain ⟨e₃, w₃⟩ := s
        obtain ⟨ended, same⟩ := WorkOn.ofWork_eq ended
        have ended : c.clear w₂ = (r, w₃) := ended
        intro working new
        refine ⟨first.core.trans (same ▸ .rfl), same ▸ first.home, ?_⟩
        have last : World.TendedFrom working c.directory new w₂ w₃ := Moves.of_run (Cache.moves_clear c) ended
        rw [← home_of_cache cache, first.home] at last
        exact (first working new).world.trans last
    · exact (cacheInUse_run used).1
  · cases emptied

theorem leaves_clear {r : Except Fault Bool} (h : clear (e, w) = (r, s)) :
    Leaves held e w .clear s := by
  have tended := clear_run h
  exact ⟨.of_forgotten tended.core.memo, tended.home, (tended _ _).world⟩

/-- Work whose answer is left aside ends where it ends. -/
theorem run_of_ignored {α : Type} {x : EngineWork α} {r : Except Fault Unit} {s' : Engine × World}
    (h : (do let _ ← x : EngineWork Unit) s = (r, s')) : ∃ r', x s = (r', s') := by
  obtain ⟨a, s₁, first, rest⟩ | ⟨fault, first, -⟩ := run_cases h
  · obtain ⟨-, rfl⟩ := Prod.mk.inj rest
    exact ⟨_, first⟩
  · exact ⟨_, first⟩

theorem leaves_perform {r : Except Fault Unit} (recalls : Recalls e held) (h : perform request (e, w) = (r, s)) :
    Leaves held e w request s := by
  cases request with
  | render name args named =>
    obtain ⟨_, run⟩ := run_of_ignored h
    exact leaves_rendering recalls (rendering_run run)
  | template name =>
    obtain ⟨_, run⟩ := run_of_ignored h
    exact leaves_template recalls run
  | setFilter name candidate => exact leaves_changeFilters (fun _ _ => FilterTable.stamp_set) recalls nofun h
  | eraseFilter name => exact leaves_changeFilters (fun _ _ => FilterTable.stamp_erase) recalls nofun h
  | updateFilters added named => exact leaves_changeFilters (fun _ _ => FilterTable.stamp_update) recalls nofun h
  | setLoader loader =>
    obtain ⟨rfl, rfl⟩ := Prod.mk.inj h
    exact .of_setup ((recalls.of_same rfl rfl rfl).of_unread nofun rfl rfl) (refl_of _ w) rfl rfl
  | openCache =>
    obtain ⟨_, run⟩ := run_of_ignored h
    exact leaves_openCache recalls run
  | clear =>
    obtain ⟨_, run⟩ := run_of_ignored h
    exact leaves_clear run

end Engine

end Stencil
