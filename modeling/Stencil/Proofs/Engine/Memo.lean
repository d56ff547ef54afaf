import Mathlib.Data.List.Induction
import Stencil.Proofs.Engine.Answers

/-!
# Templates over a run of requests

A run is a row of requests to one engine, each in a world of its own: between two of them the disk may change
in every way. `Engine.Told` are the sources that the engine has loaded in a run. `Engine.LastRead` is, for each name,
the one that it has read last, if it still has the same filters and was not made to forget its templates;
`Engine.recalls_after` says that it recalls these sources at any time.

So a template that an engine answers was read, with the filters of that moment, from the source that is loaded
now or from the one that it has read last for the same name, if that has the same time. If the name and the
time of a file determine its text, then the older source is that of another file.
-/

namespace Stencil.Engine

/-- The engine after a run of requests, each in a world of its own. -/
def after (e : Engine) (run : List (Request × World)) : Engine :=
  run.foldl (fun e (request, w) => (perform request (e, w)).2.1) e

/-- In the run the engine has loaded the source for the name. -/
def Told (e : Engine) (run : List (Request × World)) (name : String) (source : TemplateSource) : Prop :=
  ∃ front request w, front ++ [(request, w)] <+: run ∧ request.name? = some name
    ∧ (load name (e.after front, w)).1 = .ok source

/-- For the request the engine reads a template anew. -/
def ReadsAnew (e : Engine) (w : World) (request : Request) : Prop :=
  (perform request (e, w)).2.1.serial ≠ e.serial

/-- The source is the last one that the engine has read for the name in the run. It has the same filters as then, and it
has not been made to forget its templates since. -/
def LastRead (e : Engine) (run : List (Request × World)) (name : String) (source : TemplateSource) : Prop :=
  ∃ front request w back, run = front ++ (request, w) :: back
    ∧ request.name? = some name ∧ (load name (e.after front, w)).1 = .ok source ∧ (e.after front).ReadsAnew w request
    ∧ (e.after front).filters = (e.after run).filters
    ∧ ∀ middle later w' rest, back = middle ++ (later, w') :: rest → later ≠ .clear
      ∧ ¬(later.name? = some name ∧ (e.after (front ++ (request, w) :: middle)).ReadsAnew w' later)

variable {e : Engine} {run : List (Request × World)} {request : Request} {w : World} {name : String}
  {source : TemplateSource} {data : Scope} {args : List Value} {named : List (String × Value)}

theorem after_concat : e.after (run ++ [(request, w)]) = (perform request (e.after run, w)).2.1 := by
  unfold after
  rw [List.foldl_append]
  rfl

theorem told_in_longer {run' : List (Request × World)} (h : e.Told run name source) (longer : run <+: run') :
    e.Told run' name source := by
  obtain ⟨front, request, w, first, told⟩ := h
  exact ⟨front, request, w, first.trans longer, told⟩

theorem told_last (asked : request.name? = some name) (loaded : (load name (e.after run, w)).1 = .ok source) :
    e.Told (run ++ [(request, w)]) name source :=
  ⟨run, request, w, List.prefix_refl _, asked, loaded⟩

/-- What was read was loaded. -/
theorem told_of_lastRead (h : e.LastRead run name source) : e.Told run name source := by
  obtain ⟨front, request, w, back, rfl, asked, loaded, -⟩ := h
  exact ⟨front, request, w, ⟨back, by simp⟩, asked, loaded⟩

/-- What is held after one more request is what was read last. -/
theorem lastRead_concat
    (h : heldNext (e.LastRead run) (e.after run) (e.after (run ++ [(request, w)])) w request name source) :
    e.LastRead (run ++ [(request, w)]) name source := by
  obtain ⟨filters, ⟨asked, loaded, anew⟩ | ⟨⟨front, first, w₁, back, split, asked, loaded, anew, same, since⟩,
    remembers, still⟩⟩ := h
  · rw [after_concat] at anew
    refine ⟨run, request, w, [], rfl, asked, loaded, anew, filters.symm, ?_⟩
    rintro (_ | ⟨_, _⟩) later w' rest nothing <;> cases nothing
  · refine ⟨front, first, w₁, back ++ [(request, w)], ?_, asked, loaded, anew, same.trans filters.symm, ?_⟩
    · rw [split]
      simp
    · intro middle later w' rest last
      rcases List.eq_nil_or_concat' rest with rfl | ⟨rest', other, rfl⟩
      · obtain ⟨rfl, whole⟩ := List.append_inj' last rfl
        obtain ⟨rfl, rfl⟩ := Prod.mk.inj (List.singleton_inj.1 whole)
        rw [after_concat, split] at still
        exact ⟨remembers, still⟩
      · rw [← List.cons_append, ← List.append_assoc] at last
        exact since middle later w' rest' (List.append_inj' last rfl).1

/-- What an engine that starts with nothing in mind remembers is what it has read last in the run. -/
theorem recalls_after (nothing : e.memo = []) (run : List (Request × World)) :
    (e.after run).Recalls (e.LastRead run) := by
  induction run using List.reverseRecOn with
  | nil => exact .of_forgotten nothing
  | append_singleton run call ih =>
    obtain ⟨request, w⟩ := call
    rcases performed : perform request (e.after run, w) with ⟨r, s⟩
    have next : e.after (run ++ [(request, w)]) = s.1 := by rw [after_concat, performed]
    rw [next]
    exact (leaves_perform ih performed).recalls.mono fun _ _ was => lastRead_concat (next ▸ was)

/-! ## What a template was read from -/

/-- A page that is not found in the cache is made with the template that the engine would answer. -/
theorem render_standsFor {held : String → TemplateSource → Prop} {key : Option String} (recalls : Recalls e held)
    (merged : Template.mergeArguments args named = .ok data) (loaded : (load name (e, w)).1 = .ok source)
    (missed : ((do consult name (← load name) data : EngineWork (Option String × Option String)) (e, w)).1
      = .ok (none, key)) :
    ∃ origin, StandsFor held name origin source
      ∧ ((render name args named (e, w)).1 = (e.reading name origin).bind (·.page data)
        ∨ ∃ fault page, (render name args named (e, w)).1 = .error fault
          ∧ (e.reading name origin).bind (·.page data) = .ok page ∧ KeepFault e w page fault) := by
  have found {source' : TemplateSource} {w₁ : World} (loaded' : load name (e, w) = (.ok source', e, w₁)) :
      (consult name source' data (e, w₁)).1 = .ok (none, key) := by
    rwa [bind_run, loaded'] at missed
  rcases run : render name args named (e, w) with ⟨r, s⟩
  cases rendering_run run with
  | refused refused =>
    rw [merged] at refused
    cases refused
  | unloaded _ failed =>
    rw [failed] at loaded
    cases loaded
  | unkeyed merged' loaded' _ consulted | kept merged' loaded' _ consulted =>
    obtain rfl := Except.ok.inj (merged.symm.trans merged')
    have missed := found loaded'
    rw [consulted] at missed
    cases missed
  | renewed merged' loaded' looked consulted made =>
    obtain rfl := Except.ok.inj (merged.symm.trans merged')
    rw [loaded'] at loaded
    obtain rfl := Except.ok.inj loaded
    have missed := found loaded'
    rw [consulted] at missed
    exact renewed_standsFor recalls looked consulted made

/-- The texts of template files are determined by their names and their times, as far as the engine was told. -/
def TextsDetermined (told : String → TemplateSource → Prop) : Prop :=
  ∀ name source name' source', told name source → told name' source' → source.changed.isSome →
    source.filename = source'.filename → source.changed = source'.changed → source.text = source'.text

/-- The source that a template was read from: the one that is loaded, or the one that is held for the name, if that is
the text of another file with the same time. -/
def IsOrigin (held : String → TemplateSource → Prop) (name : String) (source origin : TemplateSource) : Prop :=
  origin = source
    ∨ (held name origin ∧ origin.changed = source.changed ∧ source.changed.isSome ∧ origin.filename ≠ source.filename)

theorem isOrigin_of_standsFor {origin : TemplateSource} (determined : TextsDetermined (e.Told (run ++ [(request, w)])))
    (asked : request.name? = some name) (loaded : (load name (e.after run, w)).1 = .ok source)
    (stands : StandsFor (e.LastRead run) name origin source) : IsOrigin (e.LastRead run) name source origin := by
  rcases stands with same | ⟨was, changed, timed⟩
  · exact .inl same
  · by_cases file : origin.filename = source.filename
    · refine .inl ?_
      have text := determined name origin name source (told_in_longer (told_of_lastRead was) (List.prefix_append _ _))
        (told_last asked loaded) (changed ▸ timed) file changed
      cases origin
      cases source
      simp_all
    · exact .inr ⟨was, changed, timed, file⟩

/-- In every run of an engine that starts with nothing in mind, where names and times of files determine their
texts, the template that is answered for a name is read with the filters of that moment, from the source
that is loaded for the name at that moment. Only if the source that it has read last for the name, with these filters
and without being cleared since, is the text of another file with the same time, it may be read from that. The page
that is made where the cache has none is that of a template with the same property; it is withheld at most because it
cannot be kept. -/
theorem template_read_from_origin (loader : Option Loader) (settings : Settings) (cache : Option Cache)
    (run : List (Request × World)) (request : Request) (w : World) (name : String) (source : TemplateSource)
    (asked : request.name? = some name)
    (loaded : (load name ((fresh loader settings cache).after run, w)).1 = .ok source)
    (determined : TextsDetermined ((fresh loader settings cache).Told (run ++ [(request, w)]))) :
    let e := (fresh loader settings cache).after run
    let held := (fresh loader settings cache).LastRead run
    (∃ origin, IsOrigin held name source origin
      ∧ (template name (e, w)).1.map (·.template) = e.reading name origin)
    ∧ ∀ args named data key, Template.mergeArguments args named = .ok data →
      ((do consult name (← load name) data : EngineWork (Option String × Option String)) (e, w)).1 = .ok (none, key) →
      ∃ origin, IsOrigin held name source origin
        ∧ ((render name args named (e, w)).1 = (e.reading name origin).bind (·.page data)
          ∨ ∃ fault page, (render name args named (e, w)).1 = .error fault
            ∧ (e.reading name origin).bind (·.page data) = .ok page ∧ KeepFault e w page fault) := by
  intro e held
  have recalls : e.Recalls held := recalls_after rfl run
  constructor
  · obtain ⟨origin, stands, read⟩ := template_standsFor recalls loaded
    exact ⟨origin, isOrigin_of_standsFor determined asked loaded stands, read⟩
  · intro args named data key merged missed
    obtain ⟨origin, stands, result⟩ := render_standsFor recalls merged loaded missed
    exact ⟨origin, isOrigin_of_standsFor determined asked loaded stands, result⟩

/-! ## Two directories that hold a file of the same name and time -/

/-- A disk with two directories of templates; the file in the second one is always there. -/
def sampleDisk (first : List (List String × DiskNode)) : Disk :=
  ⟨["w"], [(["w"], .directory (.ofInt 0)), (["w", "a"], .directory (.ofInt 0)), (["w", "b"], .directory (.ofInt 0)),
    (["w", "b", "t"], .file (Utf8.encode "old".toList) (.ofInt 5))] ++ first⟩

/-- A world with such a disk. -/
def sampleWorld (first : List (List String × DiskNode)) : World :=
  ⟨sampleDisk first, .ofInt 9, .calm, 0, []⟩

/-- An engine that looks in both directories and keeps no pages. -/
def sampleEngine : Engine :=
  fresh (some (.directories [.read "a", .read "b"] .utf8 "")) { Settings.standard with cacheEnabled := false } none

/-- The same template, from the other directory and of the same time. -/
def overriding : List (List String × DiskNode) :=
  [(["w", "a", "t"], .file (Utf8.encode "new".toList) (.ofInt 5))]

set_option maxRecDepth 100000 in
theorem older_file_is_answered :
    let e := sampleEngine.after [(.template "t", sampleWorld [])]
    ((load "t" (sampleEngine, sampleWorld [])).1.toOption.map fun s => (s.text, s.filename, s.changed))
        = some ("old", some "b/t", some (.ofInt 5))
      ∧ ((load "t" (e, sampleWorld overriding)).1.toOption.map fun s => (s.text, s.filename, s.changed))
        = some ("new", some "a/t", some (.ofInt 5))
      ∧ ((template "t" (e, sampleWorld overriding)).1.toOption.map (·.template.source)) = some "old" := by
  decide +kernel

theorem prefix_pair {α : Type} {front : List α} {last first second : α} (h : front ++ [last] <+: [first, second]) :
    (front = [] ∧ last = first) ∨ (front = [first] ∧ last = second) := by
  rcases front with _ | ⟨x, _ | ⟨y, rest⟩⟩
  · simpa using h
  · simpa using h
  · have short := h.length_le
    simp at short

set_option maxRecDepth 100000 in
theorem sample_loads :
    ((load "t" (sampleEngine, sampleWorld [])).1.toOption.map (·.text)) = some "old"
      ∧ ((load "t" (sampleEngine.after [(.template "t", sampleWorld [])], sampleWorld [])).1.toOption.map (·.text))
        = some "old" := by
  decide +kernel

theorem unchanged_file_is_answered :
    ∃ source, (load "t" (sampleEngine.after [(.template "t", sampleWorld [])], sampleWorld [])).1 = .ok source
      ∧ source.text = "old"
      ∧ ∃ origin, IsOrigin (sampleEngine.LastRead [(.template "t", sampleWorld [])]) "t" source origin
        ∧ (template "t" (sampleEngine.after [(.template "t", sampleWorld [])], sampleWorld [])).1.map (·.template)
          = (sampleEngine.after [(.template "t", sampleWorld [])]).reading "t" origin := by
  obtain ⟨first, second⟩ := sample_loads
  obtain ⟨source, loaded, text⟩ := Option.map_eq_some_iff.1 second
  have text_of {e : Engine} {s : TemplateSource} (h : (load "t" (e, sampleWorld [])).1 = .ok s)
      (known : ((load "t" (e, sampleWorld [])).1.toOption.map (·.text)) = some "old") : s.text = "old" := by
    rw [h] at known
    exact Option.some.inj known
  have texts (name : String) (s : TemplateSource)
      (told : sampleEngine.Told ([(.template "t", sampleWorld [])] ++ [(.template "t", sampleWorld [])]) name s) :
      s.text = "old" := by
    obtain ⟨front, request, w, at_, asked, loads⟩ := told
    rcases prefix_pair at_ with ⟨rfl, same⟩ | ⟨rfl, same⟩
    · obtain ⟨rfl, rfl⟩ := Prod.mk.inj same
      obtain rfl := Option.some.inj asked
      exact text_of loads first
    · obtain ⟨rfl, rfl⟩ := Prod.mk.inj same
      obtain rfl := Option.some.inj asked
      exact text_of loads second
  refine ⟨source, eq_ok_of_toOption loaded, text, ?_⟩
  exact (template_read_from_origin _ _ _ [(.template "t", sampleWorld [])] (.template "t") (sampleWorld []) "t" source rfl
    (eq_ok_of_toOption loaded) fun name s name' s' told told' _ _ _ =>
      (texts name s told).trans (texts name' s' told').symm).1

end Stencil.Engine
