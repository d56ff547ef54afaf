import Stencil.Engine
import Stencil.Proofs.Cache.Operations
import Stencil.Proofs.Disk.Loading

/-!
# The stages of a rendering

An engine loads the source of a template, looks for the page in its cache, makes the page if it is not
there, and keeps it. Here is what each of these stages does, in any weather and however it ends.

Whatever an engine does with its cache changes nothing else of the engine, and tends the disk as the cache
does: this is `Engine.Tended`. Looking for a page fails only over its key (`Engine.KeyFault`), and keeping it fails only
over the page or over its temporary file (`Engine.KeepFault`).
-/

namespace Stencil

open Cache (Storing)

/-- Nothing but the cache of the engine has changed. -/
structure Engine.SameCore (e e' : Engine) : Prop where
  loader : e'.loader = e.loader
  settings : e'.settings = e.settings
  filters : e'.filters = e.filters
  memo : e'.memo = e.memo
  serial : e'.serial = e.serial

/-- The directory of the engine's cache, or the one that it will be in when it is opened. -/
def Engine.home (e : Engine) : DiskPath :=
  match e.cache with
  | some c => c.directory
  | none => e.settings.cacheDirectory

/-- The engine has worked with its cache, on a disk with the given working directory. -/
structure Engine.Tended (working : List String) (new : String → List UInt8 → Prop)
    (s s' : Engine × World) : Prop where
  core : Engine.SameCore s.1 s'.1
  home : s'.1.home = s.1.home
  world : World.TendedFrom working s.1.home new s.2 s'.2

namespace Engine

variable {working : List String} {new : String → List UInt8 → Prop} {e e' : Engine}
  {w w' : World} {name key : String} {source : TemplateSource} {data : Scope}

theorem SameCore.rfl : SameCore e e :=
  ⟨Eq.refl _, Eq.refl _, Eq.refl _, Eq.refl _, Eq.refl _⟩

theorem SameCore.trans {e'' : Engine} (h : SameCore e e') (h' : SameCore e' e'') : SameCore e e'' :=
  ⟨h'.loader.trans h.loader, h'.settings.trans h.settings, h'.filters.trans h.filters, h'.memo.trans h.memo,
    h'.serial.trans h.serial⟩

instance : IsPreorder (Engine × World) (Tended working new) where
  refl s := ⟨.rfl, Eq.refl _, refl_of _ s.2⟩
  trans _ _ _ h h' := ⟨h.core.trans h'.core, h'.home.trans h.home, h.world.trans (h.home ▸ h'.world)⟩

/-- The engine has worked with its cache, on whatever disk, without storing anything. -/
def OnlyTended (s s' : Engine × World) : Prop :=
  ∀ working new, Tended working new s s'

instance : IsPreorder (Engine × World) OnlyTended where
  refl s _ _ := refl_of _ s
  trans _ _ _ h h' working new := IsTrans.trans _ _ _ (h working new) (h' working new)

theorem OnlyTended.core {s s' : Engine × World} (h : OnlyTended s s') : SameCore s.1 s'.1 :=
  (h [] fun _ _ => False).core

theorem OnlyTended.home {s s' : Engine × World} (h : OnlyTended s s') : s'.1.home = s.1.home :=
  (h [] fun _ _ => False).home

theorem OnlyTended.weather {s s' : Engine × World} (h : OnlyTended s s') : s'.2.weather = s.2.weather :=
  (h [] fun _ _ => False).world.weather

theorem home_of_cache {c : Cache} (h : e.cache = some c) : e.home = c.directory := by
  rw [home, h]

/-! ## Loading -/

/-- Loading changes neither the engine nor the disk. -/
theorem looks_load (name : String) : Moves (WorkOn.Both Eq (World.Next Eq)) (load name) := by
  refine .bind WorkOn.moves_state fun e => ?_
  split
  · exact WorkOn.moves_ofWork (Loader.looks_source _ _)
  · exact .throw _

/-! ## Finding a page in the cache -/

theorem onlyTended_of_looks (next : World.Next Eq w w') : OnlyTended (e, w) (e, w') :=
  fun _ _ => ⟨.rfl, Eq.refl _, next.mono fun d _ same => same ▸ refl_of _ d⟩

/-- What comes behind a line of the log finds the engine and the disk as they were. -/
theorem note_bind_run {α : Type} {level : LogLevel} {message : String} {f : Unit → EngineWork α} {r : Except Fault α}
    {s : Engine × World} (h : (WorkOn.ofWork (note level message) >>= f) (e, w) = (r, s)) :
    ∃ w', World.Next Eq w w' ∧ f () (e, w') = (r, s) := by
  obtain ⟨⟨⟩, ⟨e', w'⟩, noted, rest⟩ | ⟨_, noted, -⟩ := run_cases h
  · obtain ⟨written, rfl⟩ := WorkOn.ofWork_eq noted
    exact ⟨w', Moves.of_run (Work.looks_note _ _ _) written, rest⟩
  · cases noted

/-- The cache is opened or it is not; this fails only if no directory can have its path. -/
theorem openCache_run {r : Except Fault Unit} {s : Engine × World} (h : openCache (e, w) = (r, s)) :
    OnlyTended (e, w) s ∧ (r = .ok () ∨ r = .error .nullCharacter ∧ e.settings.cacheDirectory.hasNull) := by
  unfold openCache at h
  rw [WorkOn.state_bind_run] at h
  split at h
  · next closed =>
    have none_yet : e.cache = none := by
      simp only [Bool.and_eq_true, Option.isNone_iff_eq_none] at closed
      exact closed.1
    obtain ⟨result, ⟨e₁, w₁⟩, opened, h'⟩ | ⟨_, opened, -⟩ := run_cases h
    · obtain ⟨opened, rfl⟩ := WorkOn.ofWork_eq (WorkOn.outcome_eq_ok opened)
      have opened : Cache.ofSettings e₁.settings w = (result, w₁) := opened
      have at_home : e₁.home = e₁.settings.cacheDirectory := by rw [home, none_yet]
      have world working new : World.TendedFrom working e₁.home new w w₁ :=
        at_home ▸ Moves.of_run Cache.moves_ofSettings opened
      cases result with
      | ok c =>
        obtain ⟨rfl, rfl⟩ := Prod.mk.inj h'
        obtain rfl := Cache.answersOnly_ofSettings.of_run opened
        exact ⟨fun _ _ => ⟨⟨rfl, rfl, rfl, rfl, rfl⟩, at_home.symm, world _ _⟩, .inl rfl⟩
      | error fault =>
        rcases Cache.failsOnly_ofSettings.of_run opened with ⟨message, cause, rfl⟩ | ⟨rfl, null⟩
        · obtain ⟨w₂, next, ended⟩ := note_bind_run h'
          obtain ⟨rfl, rfl⟩ := Prod.mk.inj ended
          exact ⟨fun _ _ => ⟨⟨rfl, rfl, rfl, rfl, rfl⟩, rfl,
            (world _ _).trans (next.mono fun d _ same => same ▸ refl_of _ d)⟩, .inl rfl⟩
        · obtain ⟨rfl, rfl⟩ := Prod.mk.inj h'
          exact ⟨fun _ _ => ⟨.rfl, rfl, world _ _⟩, .inr ⟨rfl, null⟩⟩
    · cases opened
  · obtain ⟨rfl, rfl⟩ := Prod.mk.inj h
    exact ⟨refl_of _ _, .inl rfl⟩

/-- The cache in use is the engine's, unless there is to be none; or no directory can have its path. -/
theorem cacheInUse_run {r : Except Fault (Option Cache)} {s : Engine × World} (h : cacheInUse (e, w) = (r, s)) :
    OnlyTended (e, w) s ∧ (r = .ok (if e.settings.cacheEnabled then s.1.cache else none)
      ∨ r = .error .nullCharacter ∧ e.settings.cacheEnabled ∧ e.settings.cacheDirectory.hasNull) := by
  unfold cacheInUse at h
  rw [WorkOn.state_bind_run] at h
  split at h
  · next enabled =>
    rw [if_pos enabled]
    obtain ⟨⟨⟩, s₁, opened, h'⟩ | ⟨fault, opened, rfl⟩ := run_cases h
    · obtain ⟨rfl, rfl⟩ := Prod.mk.inj h'
      exact ⟨(openCache_run opened).1, .inl rfl⟩
    · obtain ⟨tended, done | ⟨failed, null⟩⟩ := openCache_run opened
      · cases done
      · exact ⟨tended, .inr ⟨congrArg _ (Except.error.inj failed), enabled, null⟩⟩
  · next disabled =>
    rw [if_neg disabled]
    obtain ⟨rfl, rfl⟩ := Prod.mk.inj h
    exact ⟨refl_of _ _, .inl rfl⟩

/-- The key of the page that a source gives for data. There is one if the source comes from a file and the
data is not nested too deeply and can be written. -/
def keyOf (e : Engine) (name : String) (source : TemplateSource) (data : Scope) : Option String :=
  source.changed.bind fun changed =>
    (Cache.key ((nonEmpty? source.filename).getD name) (.float changed) (.map data) e.settings.room).toOption

/-- With what the search for the key of a page may end: no directory can have the path of the cache, or something in the
data refuses to be written in an unusual way. -/
inductive KeyFault (e : Engine) (name : String) (source : TemplateSource) (data : Scope) : Fault → Prop
  | directory (enabled : e.settings.cacheEnabled) (stamped : source.changed.isSome)
    (null : e.settings.cacheDirectory.hasNull) : KeyFault e name source data .nullCharacter
  | data {changed : Binary64} {fault : Fault} (enabled : e.settings.cacheEnabled)
    (stamped : source.changed = some changed)
    (failed : Cache.key ((nonEmpty? source.filename).getD name) (.float changed) (.map data) e.settings.room
      = .error fault) (unusual : fault.isUsualOfData = false) : KeyFault e name source data fault

theorem slash_not_mem_keyOf (h : keyOf e name source data = some key) : '/' ∉ key.toList := by
  obtain ⟨changed, -, made⟩ := Option.bind_eq_some_iff.1 h
  exact Cache.slash_not_mem_key (eq_ok_of_toOption made)

/-- Where a key is given, it is that of the page, and the cache is the engine's. -/
theorem pageKey_run {r : Except Fault (Option (Cache × String))} {s : Engine × World}
    (h : pageKey name source data (e, w) = (r, s)) :
    OnlyTended (e, w) s
      ∧ ((∃ found, r = .ok found ∧ ∀ c key, found = some (c, key) →
          e.settings.cacheEnabled ∧ s.1.cache = some c ∧ keyOf e name source data = some key)
        ∨ ∃ fault, r = .error fault ∧ KeyFault e name source data fault) := by
  unfold pageKey at h
  cases stamped : source.changed with
  | none =>
    rw [stamped] at h
    obtain ⟨rfl, rfl⟩ := Prod.mk.inj h
    exact ⟨refl_of _ _, .inl ⟨none, rfl, nofun⟩⟩
  | some changed =>
    rw [stamped] at h
    obtain ⟨found, ⟨e₁, w₁⟩, used, h'⟩ | ⟨fault, used, rfl⟩ := run_cases h
    · obtain ⟨tended, inUse | ⟨failed, -⟩⟩ := cacheInUse_run used
      · cases found with
        | none =>
          obtain ⟨rfl, rfl⟩ := Prod.mk.inj h'
          exact ⟨tended, .inl ⟨none, rfl, nofun⟩⟩
        | some c =>
          have enabled : e.settings.cacheEnabled ∧ e₁.cache = some c := by
            split at inUse
            · next on => exact ⟨on, (Except.ok.inj inUse).symm⟩
            · cases inUse
          dsimp only at h'
          rw [WorkOn.state_bind_run, show e₁.settings = e.settings from tended.core.settings] at h'
          cases made : Cache.key ((nonEmpty? source.filename).getD name) (.float changed) (.map data) e.settings.room with
          | ok key =>
            rw [made] at h'
            obtain ⟨rfl, rfl⟩ := Prod.mk.inj h'
            refine ⟨tended, .inl ⟨_, rfl, fun c' key' same => ?_⟩⟩
            obtain ⟨rfl, rfl⟩ := Prod.mk.inj (Option.some.inj same)
            exact ⟨enabled.1, enabled.2, by rw [keyOf, stamped, Option.bind_some, made]; rfl⟩
          | error fault =>
            rw [made] at h'
            dsimp only at h'
            split at h'
            · obtain ⟨w₂, next, ended⟩ := note_bind_run h'
              obtain ⟨rfl, rfl⟩ := Prod.mk.inj ended
              exact ⟨IsTrans.trans _ _ _ tended (onlyTended_of_looks next), .inl ⟨none, rfl, nofun⟩⟩
            · next unusual =>
              obtain ⟨rfl, rfl⟩ := Prod.mk.inj h'
              exact ⟨tended, .inr ⟨fault, rfl, .data enabled.1 stamped made (Bool.not_eq_true _ ▸ unusual)⟩⟩
      · cases failed
    · obtain ⟨tended, done | ⟨failed, enabled, null⟩⟩ := cacheInUse_run used
      · cases done
      · refine ⟨tended, .inr ⟨fault, rfl, ?_⟩⟩
        obtain rfl := Except.error.inj failed
        exact .directory enabled (by rw [stamped]; rfl) null

/-- Work with the engine's cache ends as it does on the cache by itself. -/
theorem withCache_run {α : Type} {c c' : Cache} {x : CacheWork α} {r : Except Fault α}
    (run : x (c, w) = (r, c', w')) : withCache c x (e, w) = (r, { e with cache := some c' }, w') :=
  WorkOn.onPart_run run e

/-- What tends the cache by itself tends the engine. -/
theorem tended_withCache {c c' : Cache} (cache : e.cache = some c)
    (moved : WorkOn.Both Cache.SamePlace (World.TendedFrom working c.directory new) (c, w) (c', w')) :
    Tended working new (e, w) ({ e with cache := some c' }, w') where
  core := ⟨Eq.refl _, Eq.refl _, Eq.refl _, Eq.refl _, Eq.refl _⟩
  home := moved.1.trans (home_of_cache cache).symm
  world := by
    rw [home_of_cache cache]
    exact moved.2

/-- A page that is found in the cache is what the entry for its key holds. Nothing fails. -/
theorem cachedPage_run {c : Cache} {r : Except Fault (Option String)} {s : Engine × World}
    (plain : '/' ∉ key.toList) (cache : e.cache = some c)
    (h : cachedPage name (some (c, key)) (e, w) = (r, s)) :
    OnlyTended (e, w) s
      ∧ ∃ found, r = .ok found ∧ ∀ page, found = some page → ∃ bytes chars,
        w.disk.read (c.pathFor key) = .ok bytes ∧ Utf8.decode bytes = .ok chars
          ∧ page = String.ofList (readNewlines chars) := by
  unfold cachedPage at h
  obtain ⟨result, ⟨e₁, w₁⟩, got, h'⟩ | ⟨_, got, -⟩ := run_cases h
  · have got := WorkOn.outcome_eq_ok got
    rcases run : Cache.get key (c, w) with ⟨r', c', w'⟩
    obtain ⟨rfl, rest⟩ := Prod.mk.inj (got.symm.trans (withCache_run run))
    obtain ⟨rfl, rfl⟩ := Prod.mk.inj rest
    have tended : OnlyTended (e, w) ({ e with cache := some c' }, w₁) := by
      intro working new
      have moved := Cache.get_tended working new plain c w
      rw [run] at moved
      exact tended_withCache cache moved
    cases result with
    | ok page =>
      obtain ⟨rfl, rfl⟩ := Prod.mk.inj h'
      refine ⟨tended, some page, rfl, fun page' same => ?_⟩
      obtain rfl := Option.some.inj same
      exact Cache.get_eq_ok run
    | error fault =>
      rcases Cache.failsOnly_get.of_run run with disk | ⟨k, cause, rfl⟩
      · cases fault with
        | disk details =>
          obtain ⟨w₂, next, ended⟩ := note_bind_run h'
          obtain ⟨rfl, rfl⟩ := Prod.mk.inj ended
          exact ⟨IsTrans.trans _ _ _ tended (onlyTended_of_looks next), none, rfl, nofun⟩
        | _ => cases disk
      · obtain ⟨rfl, rfl⟩ := Prod.mk.inj h'
        exact ⟨tended, none, rfl, nofun⟩
  · cases got

/-! ## Keeping a page -/

/-- With what keeping a page may end: the weather strikes when a temporary file of the cache is removed, or the page has
no bytes. -/
inductive KeepFault (e : Engine) (w : World) (page : String) (fault : Fault) : Prop
  | removing {p : DiskPath} (temporary : Cache.IsTemporaryPath e.home w.disk.working p)
    (strikes : w.weather.Strikes .remove p fault)
  | encoding (refused : w.weather.Refuses page fault)

namespace KeepFault

variable {page : String} {fault : Fault}

theorem not_calm (h : KeepFault e w page fault) : w.weather ≠ .calm := by
  cases h with
  | removing _ strikes => exact strikes.not_calm
  | encoding refused => exact refused.not_calm

/-- Where the cache lies in the same place and the weather is the same, keeping a page ends alike. -/
theorem of_same (h : KeepFault e w page fault) (home : e'.home = e.home) (working : w'.disk.working = w.disk.working)
    (weather : w'.weather = w.weather) : KeepFault e' w' page fault := by
  cases h with
  | removing temporary strikes => exact .removing (home ▸ working ▸ temporary) (weather ▸ strikes)
  | encoding refused => exact .encoding (weather ▸ refused)

end KeepFault

/-- Keeping a page adds the entry for its key at most. -/
theorem keepPage_run {page : String} {r : Except Fault Unit} {s : Engine × World} (plain : '/' ∉ key.toList)
    (h : keepPage page key (e, w) = (r, s)) :
    Tended w.disk.working (Storing key page) (e, w) s
      ∧ ∀ fault, r = .error fault → KeepFault e w page fault := by
  unfold keepPage at h
  rw [WorkOn.state_bind_run] at h
  cases kept : e.cache with
  | none =>
    rw [kept] at h
    obtain ⟨rfl, rfl⟩ := Prod.mk.inj h
    exact ⟨refl_of _ _, fun _ failed => nomatch failed⟩
  | some c =>
    rw [kept] at h
    rcases run : Cache.store key page (c, w) with ⟨r', c', w'⟩
    obtain ⟨moved, fails⟩ := Cache.store_tended plain run
    have stored : withCache c (Cache.store key page) (e, w) = (r', { e with cache := some c' }, w') :=
      withCache_run run
    have tended := tended_withCache kept moved
    obtain ⟨b, s₁, done, ended⟩ | ⟨fault, failed, rfl⟩ := run_cases h
    · obtain ⟨-, rfl⟩ := Prod.mk.inj (stored.symm.trans done)
      obtain ⟨rfl, rfl⟩ := Prod.mk.inj ended
      refine ⟨tended, fun fault failed => ?_⟩
      cases failed
    · obtain ⟨rfl, rfl⟩ := Prod.mk.inj (stored.symm.trans failed)
      refine ⟨tended, fun failure same => ?_⟩
      rcases fails failure (congrArg _ (Except.error.inj same)) with strikes | refused
      · refine .removing ?_ strikes
        rw [home_of_cache kept]
        exact Cache.isTemporaryPath_temporaryPath c w.disk
      · exact .encoding refused

end Engine

end Stencil
