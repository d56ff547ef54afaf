import Stencil.Proofs.Cache.Atomicity
import Stencil.Proofs.Engine.Storms

/-!
# Rendering a page twice

A page that was stored is found again as long as its entry is left alone and it is not as old as pages get. But
what is found is not always what was stored: the entry has the characters of the page as they are, and reading
makes every line end a line feed (`Cache.readBack`). So only a page without a carriage return is read back as it is
(`Cache.readBack_eq_self_iff`).

The second rendering of a page answers what is read back (`Engine.stored_pages_are_read_back`). That the first one
has stored the page can be told from the count of stored pages, for no stage before changes it.
-/

namespace Stencil

namespace Cache

variable {c c' : Cache} {key content : String} {w w' w₂ : World}

/-- Exactly the pages without carriage returns are read back as they are. -/
theorem readBack_eq_self_iff : readBack content = content ↔ '\r' ∉ content.toList := by
  unfold readBack
  constructor
  · intro same
    rw [← same, String.toList_ofList]
    exact not_mem_readNewlines _
  · intro plain
    rw [readNewlines_eq_self plain, String.ofList_toList]

/-- A page that was stored in any weather is found in calm weather, while it is fresh and its entry is left alone. -/
theorem get_of_stored (stored : store key content (c, w) = (.ok true, c', w')) (calm : w₂.weather = .calm)
    (left : w₂.disk.find (c'.pathFor key) = w'.disk.find (c'.pathFor key))
    (within : c'.ttl = 0 ∨ (w₂.clock.sub w.clock).isBelow c'.ttl = true) :
    ∃ w₃, get key (c', w₂) = (.ok (readBack content), { c' with hits := c'.hits + 1 }, w₃) := by
  obtain ⟨r, c'', w'', run, -, -, ending⟩ := store_run c key content w
  obtain ⟨rfl, rest⟩ := Prod.mk.inj (run.symm.trans stored)
  obtain ⟨rfl, rfl⟩ := Prod.mk.inj rest
  obtain ⟨-, rfl, found, -⟩ := ending.of_ok_true
  obtain ⟨w₃, got, -⟩ := get_of_fresh calm (left.trans found) (isFreshAt_iff.2 within)
  exact ⟨w₃, got⟩

/-! ## Pages that are counted -/

/-- No page is counted as stored. -/
def SameStores (c c' : Cache) : Prop :=
  c'.stores = c.stores

instance : IsPreorder Cache SameStores where
  refl _ := rfl
  trans _ _ _ h h' := Eq.trans h' h

end Cache

/-- The world goes on in any way. -/
def World.Anyhow (_ _ : World) : Prop :=
  True

instance : IsPreorder World World.Anyhow where
  refl _ := trivial
  trans _ _ _ _ _ := trivial

/-- Work on the world alone leaves the state as it was. -/
theorem WorkOn.moves_ofWork_anyhow {σ α : Type} {Q : σ → σ → Prop} [IsPreorder σ Q] {x : Work α} :
    Moves (Both Q World.Anyhow) (ofWork x) :=
  moves_ofWork fun _ => trivial

/-- Looking for a page does not count as storing it. -/
theorem Cache.sameStores_get (key : String) :
    Moves (WorkOn.Both Cache.SameStores World.Anyhow) (Cache.get key) := by
  have counted : Moves (WorkOn.Both Cache.SameStores World.Anyhow) Cache.countMiss :=
    WorkOn.moves_update fun _ => rfl
  refine .bind WorkOn.moves_state fun c => .bind WorkOn.moves_ofWork_anyhow fun valid => ?_
  split
  · refine .bind (WorkOn.moves_outcome WorkOn.moves_ofWork_anyhow) fun result => ?_
    split
    · exact .bind (WorkOn.moves_update fun _ => rfl) fun _ => .bind WorkOn.moves_ofWork_anyhow fun _ => .pure _
    · exact .bind WorkOn.moves_ofWork_anyhow fun _ =>
        .bind WorkOn.moves_ofWork_anyhow fun _ => .bind counted fun _ => .throw _
    · split
      · exact .bind counted fun _ => .throw _
      · exact .throw _
  · exact .bind counted fun _ => .bind WorkOn.moves_ofWork_anyhow fun _ => .throw _

namespace Engine

variable {e e' e₁ : Engine} {w w' w₁ w₂ : World} {name page key : String} {source source' : TemplateSource}
  {data : Scope} {args : List Value} {named : List (String × Value)}

/-- The number of pages that the engine has stored. -/
def pagesStored (e : Engine) : Nat :=
  (e.cache.map (·.stores)).getD 0

/-- No page is counted as stored. -/
def SameCount (e e' : Engine) : Prop :=
  e'.pagesStored = e.pagesStored

instance : IsPreorder Engine SameCount where
  refl _ := rfl
  trans _ _ _ h h' := Eq.trans h' h

theorem pagesStored_of_cache {c : Cache} (h : e.cache = some c) : e.pagesStored = c.stores := by
  rw [pagesStored, h]
  rfl

theorem sameCount_openCache : Moves (WorkOn.Both SameCount World.Anyhow) openCache := by
  intro ⟨e, w⟩
  refine ⟨?_, trivial⟩
  rcases run : openCache (e, w) with ⟨r, e', w'⟩
  unfold openCache at run
  rw [WorkOn.state_bind_run] at run
  split at run
  · next closed =>
    have none_yet : e.cache = none := by
      simp only [Bool.and_eq_true, Option.isNone_iff_eq_none] at closed
      exact closed.1
    obtain ⟨result, ⟨e₁, w₁⟩, opened, rest⟩ | ⟨_, opened, -⟩ := run_cases run
    · obtain ⟨made, rfl⟩ := WorkOn.ofWork_eq (WorkOn.outcome_eq_ok opened)
      cases result with
      | ok c =>
        obtain rfl := Cache.answersOnly_ofSettings.of_run made
        obtain ⟨-, same⟩ := Prod.mk.inj rest
        obtain ⟨rfl, -⟩ := Prod.mk.inj same
        rw [SameCount, pagesStored, pagesStored, none_yet]
        rfl
      | error fault =>
        rcases Cache.failsOnly_ofSettings.of_run made with ⟨message, cause, rfl⟩ | ⟨rfl, -⟩
        · refine (Moves.of_run (R := WorkOn.Both SameCount World.Anyhow) ?_ rest).1
          exact .bind WorkOn.moves_ofWork_anyhow fun _ => WorkOn.moves_update fun _ => rfl
        · obtain ⟨-, same⟩ := Prod.mk.inj rest
          obtain ⟨rfl, -⟩ := Prod.mk.inj same
          rfl
    · cases opened
  · obtain ⟨-, same⟩ := Prod.mk.inj run
    obtain ⟨rfl, -⟩ := Prod.mk.inj same
    rfl

theorem sameCount_pageKey : Moves (WorkOn.Both SameCount World.Anyhow) (pageKey name source data) := by
  have used : Moves (WorkOn.Both SameCount World.Anyhow) cacheInUse := by
    refine .bind WorkOn.moves_state fun e => ?_
    split
    · exact .bind sameCount_openCache fun _ => .bind WorkOn.moves_state fun _ => .pure _
    · exact .pure _
  unfold pageKey
  split
  · exact .pure _
  · refine .bind used fun found => ?_
    split
    · exact .pure _
    · refine .bind WorkOn.moves_state fun e => ?_
      split
      · exact .pure _
      · split
        · exact .bind WorkOn.moves_ofWork_anyhow fun _ => .pure _
        · exact .throw _

theorem sameCount_cachedPage {found : Option (Cache × String)} {r : Except Fault (Option String)}
    (cache : ∀ c key, found = some (c, key) → e.cache = some c)
    (h : cachedPage name found (e, w) = (r, e', w')) : SameCount e e' := by
  cases found with
  | none =>
    obtain ⟨-, same⟩ := Prod.mk.inj h
    obtain ⟨rfl, -⟩ := Prod.mk.inj same
    rfl
  | some found =>
    obtain ⟨c, key⟩ := found
    have cache := cache c key rfl
    unfold cachedPage at h
    obtain ⟨result, ⟨e₁, w₁⟩, got, rest⟩ | ⟨_, got, -⟩ := run_cases h
    · have got := WorkOn.outcome_eq_ok got
      rcases run : Cache.get key (c, w) with ⟨r', c', w''⟩
      obtain ⟨rfl, same⟩ := Prod.mk.inj (got.symm.trans (withCache_run run))
      obtain ⟨rfl, rfl⟩ := Prod.mk.inj same
      have counted : c'.stores = c.stores := (Moves.of_run (Cache.sameStores_get key) run).1
      have first : SameCount e { e with cache := some c' } := counted.trans (pagesStored_of_cache cache).symm
      have last : SameCount { e with cache := some c' } e' := by
        refine (Moves.of_run (R := WorkOn.Both SameCount World.Anyhow) ?_ rest).1
        split
        · exact .pure _
        · exact .pure _
        · split
          · exact .bind WorkOn.moves_ofWork_anyhow fun _ => .pure _
          · exact .throw _
      exact last.trans first
    · cases got

theorem sameCount_consult {r : Except Fault (Option String × Option String)}
    (h : consult name source data (e, w) = (r, e', w')) : SameCount e e' := by
  obtain ⟨found, ⟨e₁, w₁⟩, keyed, rest⟩ | ⟨_, keyed, -⟩ := run_cases h
  · have first : SameCount e e₁ := (Moves.of_run sameCount_pageKey keyed).1
    obtain ⟨-, ⟨found', same, holds⟩ | ⟨_, failed, -⟩⟩ := pageKey_run keyed
    case inr => cases failed
    have cache : ∀ c key, found = some (c, key) → e₁.cache = some c := by
      rintro c key rfl
      exact (holds c key (Except.ok.inj same).symm).2.1
    obtain ⟨page, ⟨e₂, w₂⟩, cached, ended⟩ | ⟨_, failed, -⟩ := run_cases rest
    · obtain ⟨-, same⟩ := Prod.mk.inj ended
      obtain ⟨rfl, -⟩ := Prod.mk.inj same
      exact (sameCount_cachedPage cache cached).trans first
    · exact (sameCount_cachedPage cache failed).trans first
  · exact (Moves.of_run sameCount_pageKey keyed).1

theorem renderSource_keeps (name : String) (source : TemplateSource) (data : Scope) (e : Engine) (w : World) :
    (renderSource name source data (e, w)).2.1.cache = e.cache
      ∧ (renderSource name source data (e, w)).2.1.settings = e.settings := by
  rw [renderSource_eq, templateFor_eq]
  split
  · exact ⟨rfl, rfl⟩
  · split
    · exact ⟨rfl, rfl⟩
    · exact ⟨rfl, rfl⟩

/-- A page is stored in the cache of the engine, or none is counted. -/
theorem keepPage_cases {r : Except Fault Unit} (h : keepPage page key (e, w) = (r, e', w')) :
    SameCount e e' ∨ ∃ c c', e.cache = some c ∧ Cache.store key page (c, w) = (.ok true, c', w')
      ∧ e' = { e with cache := some c' } := by
  unfold keepPage at h
  rw [WorkOn.state_bind_run] at h
  cases cache : e.cache with
  | none =>
    rw [cache] at h
    obtain ⟨-, same⟩ := Prod.mk.inj h
    obtain ⟨rfl, -⟩ := Prod.mk.inj same
    exact .inl rfl
  | some c =>
    rw [cache] at h
    obtain ⟨r', c', w'', run, -, -, ending⟩ := Cache.store_run c key page w
    have stored : withCache c (Cache.store key page) (e, w) = (r', { e with cache := some c' }, w'') :=
      withCache_run run
    have left : (e', w') = ({ e with cache := some c' }, w'') := by
      obtain ⟨_, _, done, ended⟩ | ⟨_, failed, -⟩ := run_cases h
      · rw [(Prod.mk.inj (stored.symm.trans done)).2]
        exact (Prod.mk.inj ended).2.symm
      · exact (Prod.mk.inj (failed.symm.trans stored)).2
    obtain ⟨rfl, rfl⟩ := Prod.mk.inj left
    have unchanged (same : c' = c) : SameCount e { e with cache := some c' } := by
      rw [same]
      exact (pagesStored_of_cache cache).symm
    cases r' with
    | error fault => exact .inl (unchanged ending.of_error.1)
    | ok counts =>
      cases counts with
      | false => exact .inl (unchanged ending.of_ok_false.2.1)
      | true => exact .inr ⟨c, c', rfl, run, rfl⟩

/-! ## The first rendering -/

/-- The rendering of a source from `e` and `w` to `e₁` and `w₁` has stored the page under its key. The cache was `c`
before, in the world `between`, and is `c₁` afterwards. -/
structure Stored (name : String) (args : List Value) (named : List (String × Value)) (source : TemplateSource)
    (page : String) (e : Engine) (w : World) (e₁ : Engine) (w₁ : World) (data : Scope) (key : String) (c c₁ : Cache)
    (between : World) : Prop where
  merged : Template.mergeArguments args named = .ok data
  keyed : keyOf e name source data = some key
  enabled : e.settings.cacheEnabled
  settings : e₁.settings = e.settings
  clock : between.clock = w.clock
  stored : Cache.store key page (c, between) = (.ok true, c₁, w₁)
  opened : e₁.cache = some c₁

/-- A rendering that counts a page as stored has stored the page that it answers, under the key of that page. -/
theorem stored_of_render (first : render name args named (e, w) = (.ok page, e₁, w₁))
    (more : e₁.pagesStored ≠ e.pagesStored) (loaded : (load name (e, w)).1 = .ok source) :
    ∃ data key c c₁ between, Stored name args named source page e w e₁ w₁ data key c c₁ between := by
  cases rendering_run first with
  | kept _ _ _ consulted => exact absurd (sameCount_consult consulted) more
  | @renewed data source' w₂ found s _ _ merged loaded' looked consulted made =>
    rw [loaded'] at loaded
    obtain rfl := Except.ok.inj loaded
    obtain ⟨e₂, w₃⟩ := s
    have count : SameCount e e₂ := sameCount_consult consulted
    have tended := (consult_run consulted).1
    obtain ⟨page', ⟨e₃, w₄⟩, rendered, rest⟩ | ⟨_, -, failed⟩ := run_cases made
    · obtain ⟨cache, settings⟩ := renderSource_keeps name source' data e₂ w₃
      obtain ⟨-, same⟩ := renderSource_snd name source' data e₂ w₃
      rw [rendered] at cache settings same
      dsimp only at cache settings same
      have count' : SameCount e e₃ := by
        refine Eq.trans ?_ count
        rw [pagesStored, pagesStored, cache]
      cases found with
      | none =>
        obtain ⟨-, same⟩ := Prod.mk.inj rest
        obtain ⟨rfl, -⟩ := Prod.mk.inj same
        exact absurd count' more
      | some key =>
        obtain ⟨enabled, keyed⟩ := keyed_of_consult consulted
        obtain ⟨⟨⟩, ⟨e₄, w₅⟩, kept, ended⟩ | ⟨_, -, failed⟩ := run_cases rest
        · obtain ⟨answered, same'⟩ := Prod.mk.inj ended
          obtain rfl := Except.ok.inj answered
          obtain ⟨rfl, rfl⟩ := Prod.mk.inj same'
          obtain same'' | ⟨c, c₁, opened, stored, rfl⟩ := keepPage_cases kept
          · exact absurd (same''.trans count') more
          · refine ⟨data, key, c, c₁, w₄, merged, keyed, enabled, settings.trans tended.core.settings, ?_,
              stored, rfl⟩
            have clock : w₃.clock = w₂.clock := (tended [] fun _ _ => False).world.clock
            rw [same, clock, looked.clock]
        · cases failed
    · cases failed

/-! ## The second rendering -/

/-- A page that the cache has is answered. -/
theorem render_of_cached {c c' : Cache} (merged : Template.mergeArguments args named = .ok data)
    (loaded : load name (e, w) = (.ok source, e, w₁)) (enabled : e.settings.cacheEnabled) (opened : e.cache = some c)
    (keyed : keyOf e name source data = some key) (got : Cache.get key (c, w₁) = (.ok page, c', w')) :
    render name args named (e, w) = (.ok page, { e with cache := some c' }, w') := by
  have inUse : cacheInUse (e, w₁) = (.ok (some c), e, w₁) := by
    have nothing : openCache (e, w₁) = (.ok (), e, w₁) := by
      unfold openCache
      rw [WorkOn.state_bind_run, opened]
      rfl
    unfold cacheInUse
    rw [WorkOn.state_bind_run, if_pos enabled, run_ok nothing, WorkOn.state_bind_run, opened]
    rfl
  have found : pageKey name source data (e, w₁) = (.ok (some (c, key)), e, w₁) := by
    obtain ⟨changed, stamped, made⟩ := Option.bind_eq_some_iff.1 keyed
    unfold pageKey
    rw [stamped]
    dsimp only
    rw [run_ok inUse]
    dsimp only
    rw [WorkOn.state_bind_run, eq_ok_of_toOption made]
    rfl
  have cached : cachedPage name (some (c, key)) (e, w₁) = (.ok (some page), { e with cache := some c' }, w') := by
    have fetched : withCache c (Cache.get key) (e, w₁) = (.ok page, { e with cache := some c' }, w') :=
      withCache_run got
    unfold cachedPage
    dsimp only
    rw [run_ok (WorkOn.outcome_run fetched)]
    rfl
  have consulted : consult name source data (e, w₁)
      = (.ok (some page, some key), { e with cache := some c' }, w') := by
    unfold consult
    rw [run_ok found, run_ok cached]
    rfl
  rw [render_eq, merged]
  dsimp only
  rw [run_ok loaded, run_ok consulted]
  rfl

theorem keyOf_congr (settings : e'.settings = e.settings) (filename : source'.filename = source.filename)
    (changed : source'.changed = source.changed) : keyOf e' name source' data = keyOf e name source data := by
  unfold keyOf
  rw [settings, filename, changed]

/-- A page that was stored for a key is read back, as long as its entry is left alone and is not as old as pages
get. So an engine that has stored a page answers what is read back when it renders the page a second time, from a
file that has not changed. What is read back is the page itself exactly if there is no carriage return in it. -/
theorem stored_pages_are_read_back (page : String) :
    (∀ (c c' : Cache) (key : String) (w w' w₂ : World),
      Cache.store key page (c, w) = (.ok true, c', w') → w₂.weather = .calm →
      w₂.disk.find (c'.pathFor key) = w'.disk.find (c'.pathFor key) →
      (c'.ttl = 0 ∨ (w₂.clock.sub w.clock).isBelow c'.ttl = true) →
      (Cache.get key (c', w₂)).1 = .ok (Cache.readBack page))
    ∧ (∀ (e e₁ : Engine) (w w₁ w₂ : World) (name : String) (args : List Value) (named : List (String × Value))
        (source source' : TemplateSource),
      render name args named (e, w) = (.ok page, e₁, w₁) → e₁.pagesStored ≠ e.pagesStored →
      (load name (e, w)).1 = .ok source → (load name (e₁, w₂)).1 = .ok source' →
      source'.filename = source.filename → source'.changed = source.changed →
      w₂.weather = .calm → w₂.disk = w₁.disk →
      (∀ c, e₁.cache = some c → c.ttl = 0 ∨ (w₂.clock.sub w.clock).isBelow c.ttl = true) →
      ∃ e₂ w₃, render name args named (e₁, w₂) = (.ok (Cache.readBack page), e₂, w₃)
        ∧ e₂.cache = e₁.cache.map fun c => { c with hits := c.hits + 1 })
    ∧ (Cache.readBack page = page ↔ '\r' ∉ page.toList) := by
  refine ⟨?_, ?_, Cache.readBack_eq_self_iff⟩
  · intro c c' key w w' w₂ stored calm left within
    obtain ⟨w₃, got⟩ := Cache.get_of_stored stored calm left within
    rw [got]
  · intro e e₁ w w₁ w₂ name args named source source' first more loaded again filename changed calm disk within
    obtain ⟨data, key, c, c₁, between, merged, keyed, enabled, settings, clock, stored, opened⟩ :=
      stored_of_render first more loaded
    rcases run : load name (e₁, w₂) with ⟨r, e₂, w₃⟩
    obtain ⟨same, looked⟩ := Moves.of_run (looks_load name) run
    obtain rfl : e₁ = e₂ := same
    rw [run] at again
    obtain rfl : r = .ok source' := again
    have calm' : w₃.weather = .calm := looked.weather.trans calm
    have left : w₃.disk.find (c₁.pathFor key) = w₁.disk.find (c₁.pathFor key) := by rw [← looked.disk, disk]
    have within' : c₁.ttl = 0 ∨ (w₃.clock.sub between.clock).isBelow c₁.ttl = true := by
      rw [looked.clock, clock]
      exact within c₁ opened
    obtain ⟨w₄, got⟩ := Cache.get_of_stored stored calm' left within'
    have keyed' : keyOf e₁ name source' data = some key := (keyOf_congr settings filename changed).trans keyed
    refine ⟨_, w₄, render_of_cached merged run (settings ▸ enabled) opened keyed' got, ?_⟩
    rw [opened]
    rfl

/-- An engine renders a page of two lines that end as in a letter, for the first time. -/
def firstLetter : Except Fault String × Engine × World :=
  render "a" [] [("x", .text "a\r\nb")] (stormyEngine, stormyWorld [])

set_option maxRecDepth 100000 in
/-- Stored or rendered once, the page has lost its carriage return. -/
theorem line_ends_are_lost :
    (Cache.store "k" "a\r\nb" (Cache.shortLived, Cache.emptyHouse)).1.toOption = some true
      ∧ (Cache.get "k" (Cache.store "k" "a\r\nb" (Cache.shortLived, Cache.emptyHouse)).2).1.toOption = some "a\nb"
      ∧ firstLetter.1.toOption = some "a\r\nb"
      ∧ (render "a" [] [("x", .text "a\r\nb")] firstLetter.2).1.toOption = some "a\nb" := by
  decide +kernel

set_option maxRecDepth 100000 in
theorem firstLetter_stores : firstLetter.1.toOption = some "a\r\nb" ∧ firstLetter.2.1.pagesStored = 1
    ∧ firstLetter.2.1.cache.map (·.ttl) = some 3600 := by
  decide +kernel

set_option maxRecDepth 100000 in
/-- A second later the template is where it was. -/
theorem load_firstLetter :
    ((load "a" (stormyEngine, stormyWorld [])).1.toOption.map fun s => (s.filename, s.changed))
        = some (some "t/a", some (.ofInt 5))
      ∧ ((load "a" (firstLetter.2.1, { firstLetter.2.2 with clock := .ofInt 10 })).1.toOption.map
        fun s => (s.filename, s.changed)) = some (some "t/a", some (.ofInt 5)) := by
  decide +kernel

/-- The page is given to a cache and asked for at once, and is made by an engine and asked for a second later. -/
theorem letter_is_read_back :
    (∃ c' w', Cache.store "k" "a\r\nb" (Cache.shortLived, Cache.emptyHouse) = (.ok true, c', w')
      ∧ w'.weather = .calm ∧ (w'.clock.sub Cache.emptyHouse.clock).isBelow c'.ttl = true
      ∧ (Cache.get "k" (c', w')).1 = .ok "a\nb")
    ∧ ∃ e₁ w₁ source source', render "a" [] [("x", .text "a\r\nb")] (stormyEngine, stormyWorld [])
        = (.ok "a\r\nb", e₁, w₁)
      ∧ e₁.pagesStored ≠ stormyEngine.pagesStored ∧ (load "a" (stormyEngine, stormyWorld [])).1 = .ok source
      ∧ (load "a" (e₁, { w₁ with clock := .ofInt 10 })).1 = .ok source'
      ∧ source'.filename = source.filename ∧ source'.changed = source.changed ∧ w₁.weather = .calm
      ∧ (∀ c, e₁.cache = some c → ((Binary64.ofInt 10).sub (stormyWorld []).clock).isBelow c.ttl = true)
      ∧ ∃ e₂ w₃, render "a" [] [("x", .text "a\r\nb")] (e₁, { w₁ with clock := .ofInt 10 })
        = (.ok "a\nb", e₂, w₃) := by
  constructor
  · obtain ⟨r, c', w', run, clock, weather, -⟩ := Cache.store_run Cache.shortLived "k" "a\r\nb" Cache.emptyHouse
    have facts : (Cache.store "k" "a\r\nb" (Cache.shortLived, Cache.emptyHouse)).1.toOption = some true
        ∧ (Cache.store "k" "a\r\nb" (Cache.shortLived, Cache.emptyHouse)).2.1.ttl = 5 := by decide +kernel
    rw [run] at facts
    obtain rfl := eq_ok_of_toOption facts.1
    have within : (w'.clock.sub Cache.emptyHouse.clock).isBelow c'.ttl = true := by
      rw [clock, show c'.ttl = 5 from facts.2]
      decide +kernel
    have got := (stored_pages_are_read_back "a\r\nb").1 _ _ _ _ _ _ run weather rfl (.inr within)
    exact ⟨c', w', run, weather, within, got⟩
  · obtain ⟨answered, counted, lifetime⟩ := firstLetter_stores
    obtain ⟨loads, loads'⟩ := load_firstLetter
    unfold firstLetter at answered counted lifetime loads'
    rcases first : render "a" [] [("x", .text "a\r\nb")] (stormyEngine, stormyWorld []) with ⟨r, e₁, w₁⟩
    rw [first] at answered counted lifetime loads'
    obtain rfl := eq_ok_of_toOption answered
    rcases loaded : (load "a" (stormyEngine, stormyWorld [])).1 with _ | source
    · rw [loaded] at loads
      cases loads
    rcases again : (load "a" (e₁, { w₁ with clock := .ofInt 10 })).1 with _ | source'
    · rw [again] at loads'
      cases loads'
    rw [loaded] at loads
    rw [again] at loads'
    obtain ⟨filename, changed⟩ := Prod.mk.inj (Option.some.inj (loads'.trans loads.symm))
    have more : e₁.pagesStored ≠ stormyEngine.pagesStored := by
      rw [show e₁.pagesStored = 1 from counted]
      decide
    have recalls : Recalls stormyEngine fun _ _ => False := .of_forgotten rfl
    have calm : w₁.weather = .calm := (leaves_rendering recalls (rendering_run first)).world.weather
    have within : ∀ c, e₁.cache = some c → ((Binary64.ofInt 10).sub (stormyWorld []).clock).isBelow c.ttl = true := by
      intro c opened
      dsimp only at lifetime
      rw [opened] at lifetime
      rw [show c.ttl = 3600 from Option.some.inj lifetime]
      decide +kernel
    obtain ⟨e₂, w₃, second, -⟩ := (stored_pages_are_read_back _).2.1 _ _ _ _ { w₁ with clock := .ofInt 10 } _ _ _ _ _
      first more loaded again filename changed calm rfl fun c opened => .inr (within c opened)
    exact ⟨e₁, w₁, source, source', rfl, more, rfl, again, filename, changed, calm, within, e₂, w₃, second⟩

end Engine

end Stencil
