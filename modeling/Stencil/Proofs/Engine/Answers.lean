import Stencil.Proofs.Engine.Requests
import Stencil.Proofs.Text.Utf8

/-!
# What engines answer

The template that an engine answers for a name is read from the source that is loaded, or from one that stands
for it, with the filters and settings of the engine. A page is that of such a template, or it is what an
entry of the cache holds. `Engine.Answer` lists all that a rendering can come to.
-/

namespace Stencil.Engine

variable {e : Engine} {w : World} {name : String} {source : TemplateSource} {data : Scope} {args : List Value}
  {named : List (String × Value)} {held : String → TemplateSource → Prop} {key : Option String}

theorem template_standsFor (recalls : Recalls e held) (loaded : (load name (e, w)).1 = .ok source) :
    ∃ origin, StandsFor held name origin source
      ∧ (template name (e, w)).1.map (·.template) = e.reading name origin := by
  rcases run : template name (e, w) with ⟨r, s⟩
  obtain ⟨source', ⟨e₁, w₁⟩, first, rest⟩ | ⟨fault, first, -⟩ := run_cases run
  · rw [first] at loaded
    obtain rfl := Except.ok.inj loaded
    obtain rfl : e = e₁ := (Moves.of_run (looks_load name) first).1
    obtain ⟨-, -, origin, stands, read⟩ := templateFor_run rest recalls
    exact ⟨origin, stands, read⟩
  · rw [first] at loaded
    cases loaded

/-- A page that is not in the cache is that of the template which the engine would answer, unless it cannot be kept. -/
theorem renewed_standsFor {w₁ : World} {s s' : Engine × World} {r : Except Fault String} (recalls : Recalls e held)
    (looked : World.Next Eq w w₁) (consulted : consult name source data (e, w₁) = (.ok (none, key), s))
    (made : renew name source data key s = (r, s')) :
    ∃ origin, StandsFor held name origin source
      ∧ (r = (e.reading name origin).bind (·.page data)
        ∨ ∃ fault page, r = .error fault ∧ (e.reading name origin).bind (·.page data) = .ok page
          ∧ KeepFault e w page fault) := by
  obtain ⟨e₁, w₂⟩ := s
  have tended := onlyTended_of_consult consulted
  have plain : ∀ k, key = some k → '/' ∉ k.toList := by
    rintro k rfl
    exact slash_not_mem_keyOf (keyed_of_consult consulted).2
  obtain ⟨-, -, origin, stands, result, -⟩ := renew_run plain (recalls.of_core tended.core) made
  have read : e₁.reading name origin = e.reading name origin := by
    unfold reading readTemplate
    rw [tended.core.filters, tended.core.settings]
  rw [read] at result
  refine ⟨origin, stands, result.imp_right ?_⟩
  rintro ⟨fault, page, failed, page_made, unkept⟩
  have working : w.disk.working = w₂.disk.working := by
    rw [((tended w₁.disk.working fun _ _ => False).world.disk rfl).working, looked.disk]
  exact ⟨fault, page, failed, page_made,
    unkept.of_same tended.home.symm working (tended.weather.trans looked.weather).symm⟩

/-- All that a rendering can answer, where `kept` are the pages that the cache may have under their keys. -/
inductive Answer (held : String → TemplateSource → Prop) (kept : String → String → Prop) (e : Engine) (w : World)
    (name : String) (args : List Value) (named : List (String × Value)) : Except Fault String → Prop
  /-- The arguments are refused. -/
  | refused {fault : Fault} (merged : Template.mergeArguments args named = .error fault) :
    Answer held kept e w name args named (.error fault)
  /-- There is no source. -/
  | unloaded {fault : Fault} {data : Scope} (merged : Template.mergeArguments args named = .ok data)
    (loaded : (load name (e, w)).1 = .error fault) : Answer held kept e w name args named (.error fault)
  /-- The search for the page in the cache fails. -/
  | unkeyed {fault : Fault} {data : Scope} {source : TemplateSource}
    (merged : Template.mergeArguments args named = .ok data) (loaded : (load name (e, w)).1 = .ok source)
    (failed : KeyFault e name source data fault) : Answer held kept e w name args named (.error fault)
  /-- The page, or the fault, that the template gives. -/
  | made {data : Scope} {source origin : TemplateSource} (merged : Template.mergeArguments args named = .ok data)
    (loaded : (load name (e, w)).1 = .ok source) (stands : StandsFor held name origin source) :
    Answer held kept e w name args named ((e.reading name origin).bind (·.page data))
  /-- A page that was kept under the key, with its line ends read as line feeds. -/
  | served {data : Scope} {source : TemplateSource} {key page : String}
    (merged : Template.mergeArguments args named = .ok data) (loaded : (load name (e, w)).1 = .ok source)
    (enabled : e.settings.cacheEnabled) (keyed : keyOf e name source data = some key) (was : kept key page) :
    Answer held kept e w name args named (.ok (String.ofList (readNewlines page.toList)))
  /-- A page that was made cannot be kept. -/
  | withheld {fault : Fault} {data : Scope} {source origin : TemplateSource} {page : String}
    (merged : Template.mergeArguments args named = .ok data) (loaded : (load name (e, w)).1 = .ok source)
    (stands : StandsFor held name origin source) (made : (e.reading name origin).bind (·.page data) = .ok page)
    (unkept : KeepFault e w page fault) : Answer held kept e w name args named (.error fault)

variable (name args named) in
/-- Where the entries of the cache hold pages that may be kept, a rendering answers as it should. -/
theorem answer_of_entries {kept : String → String → Prop} (recalls : Recalls e held)
    (entries : ∀ key bytes t,
      w.disk.node? (Cache.entryPlace (e.home.resolve w.disk.working) key) = some (.file bytes t) →
        ∃ page, kept key page ∧ bytes = Utf8.encode page.toList) :
    Answer held kept e w name args named (render name args named (e, w)).1 := by
  rcases run : render name args named (e, w) with ⟨r, s⟩
  cases rendering_run run with
  | refused merged => exact .refused merged
  | unloaded merged loaded _ => exact .unloaded merged (congrArg Prod.fst loaded)
  | unkeyed merged loaded _ consulted =>
    exact .unkeyed merged (congrArg Prod.fst loaded) (keyFault_of_consult consulted)
  | kept merged loaded looked consulted =>
    obtain ⟨enabled, key, bytes, t, chars, keyed, here, decoded, shown⟩ := held_of_consult consulted
    rw [← looked.disk] at here
    obtain ⟨page, was, rfl⟩ := entries key bytes t here
    obtain rfl := Except.ok.inj ((Utf8.decode_encode _).symm.trans decoded)
    rw [shown]
    exact .served merged (congrArg Prod.fst loaded) enabled keyed was
  | renewed merged loaded looked consulted made =>
    obtain ⟨origin, stands, rfl | ⟨fault, page, rfl, page_made, unkept⟩⟩ :=
      renewed_standsFor recalls looked consulted made
    · exact .made merged (congrArg Prod.fst loaded) stands
    · exact .withheld merged (congrArg Prod.fst loaded) stands page_made unkept

end Stencil.Engine
