import Stencil.Proofs.Engine.Caching

/-!
# Rendering in bad weather

An engine that renders consults its cache before it makes the page, and keeps the page afterwards. All operations on
the disk may fail meanwhile, and several of them, and the page is answered nevertheless, with one exception. A page
that could not be written leaves a temporary file behind, which is removed; if the weather strikes then, the
rendering ends with that fault, though the page was made. `Engine.render_of_uncached` says that nothing else of the disk
stands between a page and its answer (what else does is a page without bytes, and what keeps a page from having a key),
and `Engine.page_is_lost` is a rendering that ends so.
-/

namespace Stencil.Engine

variable {e e' : Engine} {w w' : World} {name page : String} {source : TemplateSource} {data : Scope}
  {args : List Value} {named : List (String × Value)} {key : Option String}

/-! ## The page of a source -/

theorem templateFor_eq (name : String) (source : TemplateSource) (e : Engine) (w : World) :
    templateFor name source (e, w) = match (e.memo.lookup name).filter (e.isCurrent source) with
      | some r => (.ok r, e, w)
      | none =>
        match e.readTemplate (some name) source.filename source.text with
        | .error fault => (.error fault, e, w)
        | .ok template =>
          (.ok ⟨source.changed, e.filters.stamp, template, e.serial⟩,
            { e with
              memo := Table.set e.memo name ⟨source.changed, e.filters.stamp, template, e.serial⟩
              serial := e.serial + 1 }, w) := by
  unfold templateFor
  rw [WorkOn.state_bind_run]
  cases (e.memo.lookup name).filter (e.isCurrent source) with
  | some r => rfl
  | none =>
    dsimp only
    cases e.readTemplate (some name) source.filename source.text <;> rfl

theorem renderSource_eq (name : String) (source : TemplateSource) (data : Scope) (s : Engine × World) :
    renderSource name source data s
      = ((templateFor name source s).1.bind fun r => (r.template.render data []).1,
        (templateFor name source s).2) := by
  unfold renderSource
  rw [bind_run]
  rcases templateFor name source s with ⟨fault | r, s'⟩
  · rfl
  · dsimp only [Except.bind]
    cases (r.template.render data []).1 <;> rfl

/-- Whether it comes from a remembered template or not, making a page changes nothing but what is remembered. -/
theorem renderSource_snd (name : String) (source : TemplateSource) (data : Scope) (e : Engine) (w : World) :
    (renderSource name source data (e, w)).2.1.home = e.home ∧ (renderSource name source data (e, w)).2.2 = w := by
  rw [renderSource_eq, templateFor_eq]
  split
  · exact ⟨rfl, rfl⟩
  · split
    · exact ⟨rfl, rfl⟩
    · exact ⟨rfl, rfl⟩

/-- The engines remember the same, and read with the same filters and settings. -/
structure ReadAlike (e e' : Engine) : Prop where
  memo : e'.memo = e.memo
  filters : e'.filters = e.filters
  serial : e'.serial = e.serial
  autoescape : e'.settings.autoescape = e.settings.autoescape
  minify : e'.settings.minify = e.settings.minify

theorem SameCore.readAlike (h : SameCore e e') : ReadAlike e e' :=
  ⟨h.memo, h.filters, h.serial, congrArg Settings.autoescape h.settings, congrArg Settings.minify h.settings⟩

/-- Nothing of the world decides about the page of a source. -/
theorem ReadAlike.renderSource_fst (alike : ReadAlike e e') (w w' : World) :
    (renderSource name source data (e', w')).1 = (renderSource name source data (e, w)).1 := by
  have current : e'.isCurrent source = e.isCurrent source := by
    funext r
    rw [isCurrent, isCurrent, alike.filters]
  have read : e'.readTemplate (some name) source.filename source.text
      = e.readTemplate (some name) source.filename source.text := by
    rw [readTemplate, readTemplate, alike.filters, alike.autoescape, alike.minify]
  rw [renderSource_eq, renderSource_eq, templateFor_eq, templateFor_eq, alike.memo, current, read, alike.filters,
    alike.serial]
  split
  · rfl
  · split
    · rfl
    · rfl

/-- A page that has been made is answered, unless keeping it fails. -/
theorem renew_cases {s s' : Engine × World} {r : Except Fault String} (h : renew name source data key s = (r, s')) :
    (r = (renderSource name source data s).1)
      ∨ ∃ page k fault, key = some k ∧ (renderSource name source data s).1 = .ok page
        ∧ (keepPage page k (renderSource name source data s).2).1 = .error fault ∧ r = .error fault := by
  obtain ⟨page, between, made, rest⟩ | ⟨fault, made, rfl⟩ := run_cases h
  · rw [made]
    cases key with
    | none => exact .inl (Prod.mk.inj rest).1.symm
    | some k =>
      obtain ⟨⟨⟩, _, -, ended⟩ | ⟨fault, failed, rfl⟩ := run_cases rest
      · exact .inl (Prod.mk.inj ended).1.symm
      · exact .inr ⟨page, k, fault, rfl, rfl, congrArg Prod.fst failed, rfl⟩
  · rw [made]
    exact .inl rfl

/-! ## Renderings -/

/-- Without a cache, the page that is answered is the one that the source gives. -/
theorem renderSource_of_uncached
    (uncached : (render name args named ({ e with settings := e.settings.uncached }, w)).1 = .ok page) :
    ∃ data source, Template.mergeArguments args named = .ok data ∧ (load name (e, w)).1 = .ok source
      ∧ (renderSource name source data (e, w)).1 = .ok page := by
  rcases run : render name args named ({ e with settings := e.settings.uncached }, w) with ⟨r, s⟩
  rw [run] at uncached
  obtain rfl : r = .ok page := uncached
  cases rendering_run run with
  | kept merged loaded looked consulted => cases (held_of_consult consulted).1
  | @renewed data source _ _ s₁ _ _ merged loaded looked consulted made =>
    obtain ⟨e₁, w₁⟩ := s₁
    have core := (onlyTended_of_consult consulted).core
    have settings : e₁.settings = e.settings.uncached := core.settings
    have alike : ReadAlike e e₁ := ⟨core.memo, core.filters, core.serial, settings ▸ rfl, settings ▸ rfl⟩
    refine ⟨data, source, merged, ?_, ?_⟩
    · have same := congrArg Prod.fst loaded
      rw [load_fst] at same ⊢
      exact same
    · rw [← alike.renderSource_fst w w₁]
      rcases renew_cases made with answered | ⟨_, _, _, _, _, _, failed⟩
      · exact answered.symm
      · cases failed

/-- A page that is made for want of one in the cache is what the source gives, unless it cannot be kept. -/
theorem renewed_cases {w₁ : World} {s s' : Engine × World} {r : Except Fault String}
    (looked : World.Next Eq w w₁) (consulted : consult name source data (e, w₁) = (.ok (none, key), s))
    (made : renew name source data key s = (r, s')) :
    r = (renderSource name source data (e, w)).1
      ∨ ∃ page fault, (renderSource name source data (e, w)).1 = .ok page ∧ KeepFault e w page fault
        ∧ r = .error fault := by
  have tended := onlyTended_of_consult consulted
  obtain ⟨e₁, w₂⟩ := s
  have same : (renderSource name source data (e₁, w₂)).1 = (renderSource name source data (e, w)).1 :=
    tended.core.readAlike.renderSource_fst w w₂
  rcases renew_cases made with answered | ⟨page, k, fault, rfl, page_made, failed, rfl⟩
  · exact .inl (answered.trans same)
  · obtain ⟨home, world⟩ := renderSource_snd name source data e₁ w₂
    have working : w₂.disk.working = w.disk.working := by
      rw [((tended w₁.disk.working fun _ _ => False).world.disk rfl).working, ← looked.disk]
    have weather : w₂.weather = w.weather := tended.weather.trans looked.weather
    rcases kept : keepPage page k (renderSource name source data (e₁, w₂)).2 with ⟨r', s''⟩
    rw [kept] at failed
    have unkept := (keepPage_run (slash_not_mem_keyOf (keyed_of_consult consulted).2) kept).2 fault failed
    refine .inr ⟨page, fault, same ▸ page_made, unkept.of_same ?_ ?_ ?_, rfl⟩
    · rw [home, tended.home]
    · rw [world, working]
    · rw [world, weather]

/-- Whatever text the entry for the page of a rendering holds, it is this page. -/
def Holds (e : Engine) (w : World) (name : String) (args : List Value) (named : List (String × Value))
    (page : String) : Prop :=
  ∀ data source key bytes t chars, Template.mergeArguments args named = .ok data →
    (load name (e, w)).1 = .ok source → keyOf e name source data = some key →
    w.disk.node? (Cache.entryPlace (e.home.resolve w.disk.working) key) = some (.file bytes t) →
    Utf8.decode bytes = .ok chars → String.ofList (readNewlines chars) = page

/-- In any weather, a page that an engine answers without its cache is what it answers with it, where the cache
holds no other page for it, unless the weather strikes when a temporary file of the cache is removed. Besides, the page
must have bytes, its data must not refuse in an unusual way to be written for its key, and the directory of the cache
must have a path that directories can have. -/
theorem render_of_uncached
    (uncached : (render name args named ({ e with settings := e.settings.uncached }, w)).1 = .ok page)
    (holds : e.Holds w name args named page) :
    (render name args named (e, w)).1 = .ok page
      ∨ ∃ fault, (render name args named (e, w)).1 = .error fault
        ∧ (KeepFault e w page fault
          ∨ ∃ data source, Template.mergeArguments args named = .ok data ∧ (load name (e, w)).1 = .ok source
            ∧ KeyFault e name source data fault) := by
  obtain ⟨data, source, merged, loaded, made⟩ := renderSource_of_uncached uncached
  rcases run : render name args named (e, w) with ⟨r, s⟩
  cases rendering_run run with
  | refused merged' => cases merged.symm.trans merged'
  | unloaded merged' loaded' =>
    rw [loaded'] at loaded
    cases loaded
  | unkeyed merged' loaded' looked consulted =>
    exact .inr ⟨_, rfl, .inr ⟨_, _, merged', congrArg Prod.fst loaded', keyFault_of_consult consulted⟩⟩
  | @kept data' source' w₁ found _ _ merged' loaded' looked consulted =>
    obtain ⟨-, key, bytes, t, chars, keyed, here, decoded, rfl⟩ := held_of_consult consulted
    rw [← looked.disk] at here
    have loads := congrArg Prod.fst loaded'
    exact .inl (congrArg _ (holds data' source' key bytes t chars merged' loads keyed here decoded))
  | @renewed data' source' w₁ key s₁ _ _ merged' loaded' looked consulted renewed =>
    obtain rfl := Except.ok.inj (merged.symm.trans merged')
    rw [loaded'] at loaded
    obtain rfl := Except.ok.inj loaded
    rcases renewed_cases looked consulted renewed with answered | ⟨page', fault, page_made, unkept, rfl⟩
    · exact .inl (answered.trans made)
    · obtain rfl := Except.ok.inj (made.symm.trans page_made)
      exact .inr ⟨fault, rfl, .inl unkept⟩

/-! ## A page that cannot be written -/

/-- A world with one template and an empty directory for the cache, in bad weather. -/
def stormyWorld (storms : List (Weather.Storm × String)) : World :=
  ⟨⟨["w"], Cluster.sampleSurroundings.nodes⟩, .ofInt 9, .ofStorms storms, 0, []⟩

/-- An engine that has not opened its cache yet. -/
def stormyEngine : Engine :=
  fresh (some (.directories [.read "t"] .utf8 "")) { Settings.standard with cacheDirectory := .read "c" } none

set_option maxRecDepth 100000 in
/-- The page has been made and written to a temporary file, which can neither be renamed nor removed. -/
theorem page_is_lost :
    (render "a" [] [("x", .text "<")] ({ stormyEngine with settings := stormyEngine.settings.uncached },
        stormyWorld [(.replacing, "boom"), (.removal, "nope")])).1.toOption = some "&lt;"
      ∧ (render "a" [] [("x", .text "<")]
          (stormyEngine, stormyWorld [(.replacing, "boom"), (.removal, "nope")])).1.mapError Fault.message
        = .error "nope" := by
  decide +kernel

/-- The directory of its cache holds nothing yet. -/
theorem holds_stormyEngine (storms : List (Weather.Storm × String)) (name : String) (args : List Value)
    (named : List (String × Value)) (page : String) :
    stormyEngine.Holds (stormyWorld storms) name args named page := by
  intro data source key bytes t chars _ _ _ here _
  have place : Cache.entryPlace (stormyEngine.home.resolve (stormyWorld storms).disk.working) key
      = ["w", "c", Cache.entryName key] := rfl
  rw [place] at here
  simp [Disk.node?, stormyWorld, Cluster.sampleSurroundings, List.lookup_cons] at here

set_option maxRecDepth 100000 in
/-- With such storms the page that is made is answered, or it cannot be kept or has no key. -/
theorem page_is_answered_or_lost :
    (render "a" [] [("x", .text "<")] ({ stormyEngine with settings := stormyEngine.settings.uncached },
        stormyWorld [(.listing, "gone"), (.replacing, "boom")])).1 = .ok "&lt;"
      ∧ stormyEngine.Holds (stormyWorld [(.listing, "gone"), (.replacing, "boom")]) "a" [] [("x", .text "<")] "&lt;"
      ∧ ((render "a" [] [("x", .text "<")]
          (stormyEngine, stormyWorld [(.listing, "gone"), (.replacing, "boom")])).1 = .ok "&lt;"
        ∨ ∃ fault, (render "a" [] [("x", .text "<")]
              (stormyEngine, stormyWorld [(.listing, "gone"), (.replacing, "boom")])).1 = .error fault
          ∧ (KeepFault stormyEngine (stormyWorld [(.listing, "gone"), (.replacing, "boom")]) "&lt;" fault
            ∨ ∃ data source, Template.mergeArguments [] [("x", .text "<")] = .ok data
              ∧ (load "a" (stormyEngine, stormyWorld [(.listing, "gone"), (.replacing, "boom")])).1 = .ok source
              ∧ KeyFault stormyEngine "a" source data fault)) := by
  have uncached : (render "a" [] [("x", .text "<")] ({ stormyEngine with settings := stormyEngine.settings.uncached },
      stormyWorld [(.listing, "gone"), (.replacing, "boom")])).1 = .ok "&lt;" :=
    eq_ok_of_toOption (by decide +kernel)
  exact ⟨uncached, holds_stormyEngine _ _ _ _ _, render_of_uncached uncached (holds_stormyEngine _ _ _ _ _)⟩

end Stencil.Engine
