import Stencil.Proofs.Engine.Stages
import Stencil.Proofs.Render.Origin

/-!
# What an engine remembers

An engine remembers one template for a name, with the time of its file and the stamp of the filters that it
was read against. `Engine.Recalls e held` says what such a template is worth, where `held` are the sources that are
held to be those of its templates: as long as the filters have the same stamp it is what reading one of them gives
now, and has the time of that one. Every change of the filters raises their stamp, so a template that was read against
other filters is never taken for a current one.

The number of templates that an engine has read tells whether it reads one anew. Where it does, that is the only
source held for the name from then on (`Engine.heldAfterReading`).
-/

namespace Stencil

theorem FilterTable.stamp_set {t t' : FilterTable} {name : String} {c : FilterCandidate}
    (h : t.set name c = .ok t') : t'.stamp = t.stamp + 1 := by
  obtain ⟨f, -, rfl⟩ := map_eq_ok_iff.1 h
  rfl

theorem FilterTable.stamp_erase {t t' : FilterTable} {name : String} (h : t.erase name = .ok t') :
    t'.stamp = t.stamp + 1 := by
  unfold FilterTable.erase at h
  split at h
  · rw [← Except.ok.inj h]
  · cases h

theorem FilterTable.stamp_update {t t' : FilterTable} {added named : List (String × FilterCandidate)}
    (h : t.update added named = .ok t') : t'.stamp = t.stamp + 1 := by
  obtain ⟨checked, -, rfl⟩ := map_eq_ok_iff.1 h
  rfl

namespace Engine

variable {e e' : Engine} {w w' : World} {name : String} {source : TemplateSource} {data : Scope}
  {held held' : String → TemplateSource → Prop}

/-- The template that a source gives with the engine's filters and settings. -/
def reading (e : Engine) (name : String) (source : TemplateSource) : Except Fault Template :=
  e.readTemplate (some name) source.filename source.text

/-- What the engine remembers was read from what is held. -/
def Recalls (e : Engine) (held : String → TemplateSource → Prop) : Prop :=
  ∀ name r, e.memo.lookup name = some r →
    r.stamp ≤ e.filters.stamp ∧ (r.stamp = e.filters.stamp →
      ∃ source, held name source ∧ r.changed = source.changed ∧ e.reading name source = .ok r.template)

/-- A source stands for another one of the same name: it is that source, or it is held and has the same time. -/
def StandsFor (held : String → TemplateSource → Prop) (name : String) (origin source : TemplateSource) : Prop :=
  origin = source ∨ (held name origin ∧ origin.changed = source.changed ∧ source.changed.isSome)

/-- What is held when the engine has been asked for the template of a source: that source alone for its name, if the
template has been read anew, and what was held before. -/
def heldAfterReading (held : String → TemplateSource → Prop) (name : String) (source : TemplateSource)
    (e e' : Engine) : String → TemplateSource → Prop :=
  fun other origin => (other = name ∧ origin = source ∧ e'.serial ≠ e.serial)
    ∨ (held other origin ∧ ¬(other = name ∧ e'.serial ≠ e.serial))

namespace Recalls

theorem mono (h : Recalls e held) (imp : ∀ name source, held name source → held' name source) : Recalls e held' := by
  intro name r found
  obtain ⟨older, current⟩ := h name r found
  refine ⟨older, fun stamp => ?_⟩
  obtain ⟨source, was, same⟩ := current stamp
  exact ⟨source, imp _ _ was, same⟩

theorem of_forgotten (h : e.memo = []) : Recalls e held := by
  intro name r found
  rw [h] at found
  cases found

/-- Reading depends on the filters and the settings alone, and both are what they were. -/
theorem of_same (h : Recalls e held) (memo : e'.memo = e.memo) (filters : e'.filters = e.filters)
    (settings : e'.settings = e.settings) : Recalls e' held := by
  intro name r found
  rw [memo] at found
  rw [filters]
  obtain ⟨older, current⟩ := h name r found
  refine ⟨older, fun stamp => ?_⟩
  obtain ⟨source, was, same, read⟩ := current stamp
  refine ⟨source, was, same, ?_⟩
  unfold reading readTemplate at read ⊢
  rw [filters, settings]
  exact read

theorem of_core (h : Recalls e held) (core : SameCore e e') : Recalls e' held :=
  h.of_same core.memo core.filters core.settings

/-- With new filters nothing that is remembered is current. -/
theorem of_newFilters {filters : FilterTable} (h : Recalls e held) (newer : filters.stamp = e.filters.stamp + 1) :
    Recalls { e with filters := filters } held' := by
  intro name r found
  have older := (h name r found).1
  refine ⟨?_, fun stamp => ?_⟩
  · change r.stamp ≤ filters.stamp
    omega
  · have stamp : r.stamp = filters.stamp := stamp
    omega

end Recalls

/-! ## Reading a template -/

theorem templateFor_run {r : Except Fault Remembered} {s : Engine × World}
    (h : templateFor name source (e, w) = (r, s)) (recalls : Recalls e held) :
    s = ({ e with memo := s.1.memo, serial := s.1.serial }, w)
      ∧ Recalls s.1 (heldAfterReading held name source e s.1)
      ∧ ∃ origin, StandsFor held name origin source ∧ r.map (·.template) = e.reading name origin := by
  have kept : Recalls e (heldAfterReading held name source e e) :=
    recalls.mono fun _ _ was => .inr ⟨was, fun read => read.2 rfl⟩
  unfold templateFor at h
  rw [WorkOn.state_bind_run] at h
  cases current : (e.memo.lookup name).filter (e.isCurrent source) with
  | some remembered =>
    rw [current] at h
    obtain ⟨rfl, rfl⟩ := Prod.mk.inj h
    obtain ⟨found, is⟩ := Option.filter_eq_some_iff.1 current
    simp only [isCurrent, Bool.and_eq_true, decide_eq_true_eq] at is
    obtain ⟨⟨timed, changed⟩, stamp⟩ := is
    obtain ⟨origin, was, same, read⟩ := (recalls _ _ found).2 stamp
    exact ⟨rfl, kept, origin, .inr ⟨was, same.symm.trans changed, timed⟩, read.symm⟩
  | none =>
    rw [current] at h
    dsimp only at h
    cases read : e.readTemplate (some name) source.filename source.text with
    | error fault =>
      rw [read] at h
      obtain ⟨rfl, rfl⟩ := Prod.mk.inj h
      exact ⟨rfl, kept, source, .inl rfl, read.symm⟩
    | ok template =>
      rw [read] at h
      obtain ⟨rfl, rfl⟩ := Prod.mk.inj h
      refine ⟨rfl, ?_, source, .inl rfl, read.symm⟩
      intro other r found
      by_cases same : other = name
      · subst same
        dsimp only at found
        rw [Table.lookup_set_self] at found
        obtain rfl := Option.some.inj found
        exact ⟨Nat.le_refl _, fun _ => ⟨source, .inl ⟨rfl, rfl, Nat.succ_ne_self _⟩, rfl, read⟩⟩
      · dsimp only at found
        rw [Table.lookup_set_other same] at found
        obtain ⟨older, current⟩ := recalls _ _ found
        refine ⟨older, fun stamp => ?_⟩
        obtain ⟨origin, was, changed, read⟩ := current stamp
        exact ⟨origin, .inr ⟨was, fun anew => same anew.1⟩, changed, read⟩

/-- The page that the template of a source gives. -/
theorem renderSource_run {r : Except Fault String} {s : Engine × World}
    (h : renderSource name source data (e, w) = (r, s)) (recalls : Recalls e held) :
    s = ({ e with memo := s.1.memo, serial := s.1.serial }, w)
      ∧ Recalls s.1 (heldAfterReading held name source e s.1)
      ∧ ∃ origin, StandsFor held name origin source ∧ r = (e.reading name origin).bind (·.page data) := by
  obtain ⟨remembered, s₁, read, rest⟩ | ⟨fault, read, rfl⟩ := run_cases h
  · obtain ⟨same, recalls, origin, stands, template⟩ := templateFor_run read recalls
    have result : r = remembered.template.page data ∧ s = s₁ := by
      unfold Template.page
      cases page : (remembered.template.render data []).1 with
      | ok text =>
        rw [page] at rest
        exact ⟨(Prod.mk.inj rest).1.symm, (Prod.mk.inj rest).2.symm⟩
      | error fault =>
        rw [page] at rest
        exact ⟨(Prod.mk.inj rest).1.symm, (Prod.mk.inj rest).2.symm⟩
    obtain ⟨rfl, rfl⟩ := result
    refine ⟨same, recalls, origin, stands, ?_⟩
    rw [← template]
    rfl
  · obtain ⟨same, recalls, origin, stands, template⟩ := templateFor_run read recalls
    refine ⟨same, recalls, origin, stands, ?_⟩
    rw [← template]
    rfl

end Engine

end Stencil
