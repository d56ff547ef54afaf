import Stencil.Proofs.Disk.Apart
import Stencil.Proofs.Disk.Loading

/-!
# What loaders answer in worlds that are alike

A loader overlooks the directory of a cache if it answers the same for a name whatever the files in the directory are
(`Loader.Overlooks`). In calm weather this is so of loaders whose directories have nothing to do with that one
(`Loader.overlooks_of_isApart`). It goes for the text of a template as well as for the fault that a template is not
found, which lists the names of those that there are.
-/

namespace Stencil

/-- The weather is calm in both worlds, it is the same time, and their disks differ at most by the files in one
directory. -/
structure World.AlikeBut (place : List String) (w w' : World) : Prop where
  calm : w.weather = .calm
  calm' : w'.weather = .calm
  clock : w'.clock = w.clock
  disk : Disk.AlikeBut place w.disk w'.disk

/-- The work answers the same in both worlds and leaves them alike. -/
def Work.AgreesAt {α : Type} (place : List String) (x : Work α) (w w' : World) : Prop :=
  (x w').1 = (x w).1 ∧ World.AlikeBut place (x w).2 (x w').2

variable {α β : Type} {place : List String} {w w' : World} {p : DiskPath}

namespace Work

theorem agreesAt_pure (alike : World.AlikeBut place w w') (a : α) : AgreesAt place (Pure.pure a) w w' :=
  ⟨rfl, alike⟩

theorem agreesAt_throw (alike : World.AlikeBut place w w') (fault : Fault) :
    AgreesAt place (throw fault : Work α) w w' :=
  ⟨rfl, alike⟩

theorem AgreesAt.bind {x : Work α} {f : α → Work β} (first : AgreesAt place x w w')
    (second : ∀ a between between', x w = (.ok a, between) → World.AlikeBut place between between' →
      AgreesAt place (f a) between between') :
    AgreesAt place (x >>= f) w w' := by
  obtain ⟨same, alike⟩ := first
  unfold AgreesAt
  rw [bind_run, bind_run]
  rcases run : x w with ⟨r, between⟩
  rcases run' : x w' with ⟨r', between'⟩
  rw [run, run'] at same alike
  obtain rfl : r' = r := same
  cases r' with
  | ok a => exact second a between between' run alike
  | error fault => exact ⟨rfl, alike⟩

theorem AgreesAt.outcome {x : Work α} (h : AgreesAt place x w w') : AgreesAt place (outcome x) w w' :=
  ⟨congrArg Except.ok h.1, h.2⟩

theorem agreesAt_ask {operation : Operation} {question : Disk → Except DiskFault α}
    (alike : World.AlikeBut place w w') (same : question w'.disk = question w.disk) :
    AgreesAt place (ask operation p question) w w' := by
  unfold AgreesAt ask
  rw [operate_calm alike.calm, operate_calm alike.calm', same]
  exact ⟨rfl, alike.calm, alike.calm', alike.clock, alike.disk⟩

theorem agreesAt_askPresence {question : Disk → Except DiskFault Bool} {otherwise : Bool}
    (alike : World.AlikeBut place w w') (same : question w'.disk = question w.disk) :
    AgreesAt place (askPresence p question otherwise) w w' := by
  refine (agreesAt_ask alike same).outcome.bind fun answer between between' _ alike => ?_
  split
  · exact agreesAt_pure alike _
  · split
    · exact agreesAt_pure alike _
    · exact agreesAt_throw alike _
  · exact agreesAt_throw alike _

theorem isFile_calm (calm : w.weather = .calm) : isFile p w = askPresence p (·.isFile p) false w := by
  unfold isFile
  rw [bind_run]
  change (if w.weather.ghost p = true then pure true else askPresence p (·.isFile p) false : Work Bool) w = _
  rw [calm]
  rfl

theorem agreesAt_isFile (alike : World.AlikeBut place w w')
    (outside : Disk.isWithin place (p.resolve w.disk.working) = false) : AgreesAt place (isFile p) w w' := by
  unfold AgreesAt
  rw [isFile_calm alike.calm, isFile_calm alike.calm']
  exact agreesAt_askPresence alike (alike.disk.isFile outside)

theorem agreesAt_isDirectory (alike : World.AlikeBut place w w')
    (outside : Disk.isWithin place (p.resolve w.disk.working) = false) : AgreesAt place (isDirectory p) w w' :=
  agreesAt_askPresence alike (alike.disk.isDirectory outside)

/-- Where a question to the presence of something is answered with yes, that is so. -/
theorem askPresence_eq_true {question : Disk → Except DiskFault Bool}
    (h : askPresence p question false w = (.ok true, w')) : question w.disk = .ok true := by
  obtain ⟨result, between, asked, h⟩ | ⟨fault, -, h⟩ := run_cases h
  · split at h
    · rw [ask_eq_ok (outcome_eq_ok asked), Except.ok.inj (Prod.mk.inj h).1]
    · split at h
      · cases h
      · cases h
    · cases h
  · cases h

theorem agreesAt_readText {encoding : Encoding} (alike : World.AlikeBut place w w')
    (same : w'.disk.read p = w.disk.read p) : AgreesAt place (readText encoding p) w w' := by
  refine (agreesAt_ask alike same).bind fun bytes between between' _ alike => ?_
  split
  · exact agreesAt_pure alike _
  · exact agreesAt_throw alike _

end Work

namespace Loader

/-- Does the suffix lead upwards, when the names of files are listed by it? -/
def leadsUp (suffix : String) : Bool :=
  (Pattern.read? ("*" ++ suffix)).any fun pattern => pattern.parts.contains (.name DiskPath.above)

/-- The directory at `root` has nothing to do with the one at `place`. -/
def RootApart (place working : List String) (root : DiskPath) : Prop :=
  DiskPath.isInside place (root.resolve working) = false ∧ DiskPath.isInside (root.resolve working) place = false

instance (place working : List String) (root : DiskPath) : Decidable (RootApart place working root) :=
  inferInstanceAs (Decidable (_ ∧ _))

/-- Worlds that are alike but for the files in one directory are answered the same. -/
def Ignores {α : Type} (place : List String) (answer : World → α) : Prop :=
  ∀ w w', World.AlikeBut place w w' → answer w' = answer w

mutual

/-- Does the loader keep away from the directory at a place? Then no directory that it looks in lies in that one or
around it, and no suffix leads upwards; loaders of the host do not notice the files in it. -/
def IsApart (place working : List String) : Loader → Prop
  | directories roots _ suffix => (∀ root ∈ roots, RootApart place working root) ∧ leadsUp suffix = false
  | table _ => True
  | choice loaders => AreApart place working loaders
  | bare inner => IsApart place working inner
  | custom _ answer listed => (∀ name, Ignores place (answer name)) ∧ ∀ names, listed = some names → Ignores place names

/-- Does this hold of all of the loaders? -/
def AreApart (place working : List String) : List Loader → Prop
  | [] => True
  | loader :: rest => IsApart place working loader ∧ AreApart place working rest

end

theorem down_of_leadsUp {suffix : String} {pattern : Pattern} (h : leadsUp suffix = false)
    (read : Pattern.read? ("*" ++ suffix) = some pattern) : .name DiskPath.above ∉ pattern.parts := by
  rw [leadsUp, read] at h
  simpa using h

theorem agreesAt_of_ignores {answer : World → Except Fault α} (alike : World.AlikeBut place w w')
    (ignores : Ignores place answer) : Work.AgreesAt place (fun w => (answer w, w) : Work α) w w' :=
  ⟨ignores w w' alike, alike⟩

section Directories

variable {roots : List DiskPath} {relative : DiskPath} {suffix : String}

theorem locate_cons_run (root : DiskPath) (w : World) :
    locate relative (root :: roots) w
      = if (root.join relative).hasNull then (.error .nullCharacter, w)
        else if DiskPath.isInside (root.resolve w.disk.working) ((root.join relative).resolve w.disk.working) then
          (do if ← Work.isFile (root.join relative) then pure (some (root.join relative))
              else locate relative roots : Work (Option DiskPath)) w
        else locate relative roots w := by
  rw [locate_cons]
  split
  · rfl
  · rw [bind_run]
    change (if DiskPath.isInside (root.resolve w.disk.working) ((root.join relative).resolve w.disk.working) = true then
      _ else _ : Work (Option DiskPath)) w = _
    split
    · rfl
    · rfl

theorem agreesAt_locate (alike : World.AlikeBut place w w')
    (apart : ∀ root ∈ roots, RootApart place w.disk.working root) :
    Work.AgreesAt place (locate relative roots) w w' := by
  induction roots generalizing w w' with
  | nil => exact Work.agreesAt_pure alike _
  | cons root rest ih =>
    obtain ⟨first, apart⟩ := List.forall_mem_cons.1 apart
    unfold Work.AgreesAt
    rw [locate_cons_run, locate_cons_run, alike.disk.working]
    split
    · exact ⟨rfl, alike⟩
    · split
      · next below =>
        have outside := Disk.not_isWithin_of_apart first.1 first.2 below
        refine (Work.agreesAt_isFile alike outside).bind fun there between between' ran alike => ?_
        split
        · exact Work.agreesAt_pure alike _
        · have same : w.disk = between.disk := (Moves.of_run (Work.looks_isFile _) ran).disk
          exact ih alike (same ▸ apart)
      · exact ih alike apart

/-- The file that is found for a name lies below one of the directories. -/
theorem locate_eq_some {between : World} {path : DiskPath} (calm : w.weather = .calm)
    (h : locate relative roots w = (.ok (some path), between)) :
    (∃ root ∈ roots, DiskPath.isInside (root.resolve w.disk.working) (path.resolve w.disk.working))
      ∧ w.disk.isFile path = .ok true := by
  induction roots generalizing w with
  | nil => cases h
  | cons root rest ih =>
    rw [locate_cons_run] at h
    split at h
    · cases h
    · split at h
      · next below =>
        obtain ⟨there, w₁, asked, h⟩ | ⟨fault, -, h⟩ := run_cases h
        · have next := Moves.of_run (Work.looks_isFile _) asked
          split at h
          · next yes =>
            subst yes
            obtain rfl := Option.some.inj (Except.ok.inj (Prod.mk.inj h).1)
            rw [Work.isFile_calm calm] at asked
            exact ⟨⟨root, List.mem_cons_self, below⟩, Work.askPresence_eq_true asked⟩
          · obtain ⟨⟨other, mem, below⟩, file⟩ := ih (next.weather.trans calm) h
            rw [← next.disk] at below file
            exact ⟨⟨other, List.mem_cons_of_mem _ mem, below⟩, file⟩
        · cases h
      · obtain ⟨⟨other, mem, below⟩, file⟩ := ih calm h
        exact ⟨⟨other, List.mem_cons_of_mem _ mem, below⟩, file⟩

theorem agreesAt_namesIn {root : DiskPath} (alike : World.AlikeBut place w w')
    (apart : RootApart place w.disk.working root) (down : leadsUp suffix = false) :
    Work.AgreesAt place (namesIn suffix root) w w' := by
  have outside : Disk.isWithin place (root.resolve w.disk.working) = false := by
    rw [Disk.isWithin, apart.1, Bool.false_and]
  refine (Work.agreesAt_isDirectory alike outside).bind fun there between between' asked alike => ?_
  split
  · have same : w.disk = between.disk := (Moves.of_run (Work.looks_isDirectory _) asked).disk
    rw [same] at apart
    split
    · exact Work.agreesAt_throw alike _
    · next read =>
      have selected := alike.disk.select apart.1 apart.2 (down_of_leadsUp down read)
      exact (Work.agreesAt_ask alike selected).bind fun files _ _ _ alike => Work.agreesAt_pure alike _
  · exact Work.agreesAt_pure alike _

theorem agreesAt_namesInAll (alike : World.AlikeBut place w w')
    (apart : ∀ root ∈ roots, RootApart place w.disk.working root) (down : leadsUp suffix = false) :
    Work.AgreesAt place (namesInAll suffix roots) w w' := by
  induction roots generalizing w w' with
  | nil => exact Work.agreesAt_pure alike _
  | cons root rest ih =>
    obtain ⟨first, apart⟩ := List.forall_mem_cons.1 apart
    refine (agreesAt_namesIn alike first down).bind fun names between between' ran alike => ?_
    have same : w.disk = between.disk := (Moves.of_run (looks_namesIn suffix root) ran).disk
    exact (ih alike (same ▸ apart)).bind fun others _ _ _ alike => Work.agreesAt_pure alike _

theorem agreesAt_readSource {encoding : Encoding} {path : DiskPath} (alike : World.AlikeBut place w w')
    (outside : Disk.isWithin place (path.resolve w.disk.working) = false) (file : w.disk.isFile path = .ok true) :
    Work.AgreesAt place (readSource encoding path) w w' := by
  obtain ⟨node, found⟩ := Disk.exists_find_of_isFile file
  have found' := alike.disk.find_of_ok outside found
  have read : w'.disk.read path = w.disk.read path := by rw [Disk.read, Disk.read, found, found']
  refine (Work.agreesAt_readText alike read).bind fun text between between' ran alike => ?_
  have same : w.disk = between.disk := (Moves.of_run (Work.looks_readText _ _) ran).disk
  rw [same] at outside found
  have found' : between'.disk.find path = between.disk.find path :=
    (alike.disk.find_of_ok outside found).trans found.symm
  exact (Work.agreesAt_ask alike found').bind fun node _ _ _ alike => Work.agreesAt_pure alike _

end Directories

mutual

theorem agreesAt_names {w w' : World} (alike : World.AlikeBut place w w') :
    (loader : Loader) → loader.IsApart place w.disk.working → Work.AgreesAt place loader.names w w'
  | .directories _ _ _, apart =>
    (agreesAt_namesInAll alike apart.1 apart.2).bind fun _ _ _ _ alike => Work.agreesAt_pure alike _
  | .table _, _ => Work.agreesAt_pure alike _
  | .choice loaders, apart =>
    (agreesAt_namesOfAll alike loaders apart).bind fun _ _ _ _ alike => Work.agreesAt_pure alike _
  | .bare _, _ => Work.agreesAt_pure alike _
  | .custom _ _ none, _ => Work.agreesAt_pure alike _
  | .custom _ _ (some _), apart => agreesAt_of_ignores alike (apart.2 _ rfl)

theorem agreesAt_namesOfAll {w w' : World} (alike : World.AlikeBut place w w') :
    (loaders : List Loader) → AreApart place w.disk.working loaders →
      Work.AgreesAt place (namesOfAll loaders) w w'
  | [], _ => Work.agreesAt_pure alike _
  | loader :: rest, apart => by
    obtain ⟨first, apart⟩ := apart
    refine (agreesAt_names alike loader first).bind fun names between between' ran alike => ?_
    have same : w.disk = between.disk := (Moves.of_run (looks_names loader) ran).disk
    exact (agreesAt_namesOfAll alike rest (same ▸ apart)).bind fun _ _ _ _ alike => Work.agreesAt_pure alike _

end

mutual

/-- A loader whose directories are apart from the one that the worlds differ in does not notice the difference. -/
theorem agreesAt_source (name : String) {w w' : World} (alike : World.AlikeBut place w w') :
    (loader : Loader) → loader.IsApart place w.disk.working → Work.AgreesAt place (loader.source name) w w'
  | .directories roots encoding suffix, apart => by
    obtain ⟨apart, down⟩ := apart
    refine (agreesAt_locate alike apart).bind fun found between between' ran alike' => ?_
    have same : w.disk = between.disk := (Moves.of_run (looks_locate _ _) ran).disk
    split
    · next path =>
      obtain ⟨⟨root, mem, below⟩, file⟩ := locate_eq_some alike.calm ran
      have outside := Disk.not_isWithin_of_apart (apart root mem).1 (apart root mem).2 below
      exact agreesAt_readSource alike' (same ▸ outside) (same ▸ file)
    · exact (agreesAt_namesInAll alike' (same ▸ apart) down).bind fun _ _ _ _ alike => Work.agreesAt_throw alike _
  | .table entries, _ => by
    unfold Loader.source
    split
    · exact Work.agreesAt_pure alike _
    · exact Work.agreesAt_throw alike _
  | .choice loaders, apart => by
    refine (agreesAt_firstSource name alike loaders apart).bind fun found between between' ran alike => ?_
    have same : w.disk = between.disk := (Moves.of_run (looks_firstSource name loaders) ran).disk
    split
    · exact Work.agreesAt_pure alike _
    · exact (agreesAt_namesOfAll alike loaders (same ▸ apart)).bind fun _ _ _ _ alike => Work.agreesAt_throw alike _
  | .bare inner, apart => agreesAt_source name alike inner apart
  | .custom _ _ _, apart => agreesAt_of_ignores alike (apart.1 name)

theorem agreesAt_firstSource (name : String) {w w' : World} (alike : World.AlikeBut place w w') :
    (loaders : List Loader) → AreApart place w.disk.working loaders →
      Work.AgreesAt place (firstSource name loaders) w w'
  | [], _ => Work.agreesAt_pure alike _
  | loader :: rest, apart => by
    obtain ⟨first, apart⟩ := apart
    refine (agreesAt_source name alike loader first).outcome.bind fun found between between' ran alike => ?_
    have same : w.disk = between.disk := (Moves.of_run (Work.moves_outcome (looks_source name loader)) ran).disk
    split
    · exact Work.agreesAt_pure alike _
    · split
      · exact agreesAt_firstSource name alike rest (same ▸ apart)
      · exact Work.agreesAt_throw alike _

end

/-- The loader answers the same for a name whatever the files in the directory at a place are, in calm weather and with
the given working directory. -/
def Overlooks (loader : Loader) (place working : List String) : Prop :=
  ∀ name w w', w.disk.working = working → World.AlikeBut place w w' →
    (loader.source name w').1 = (loader.source name w).1

/-- A loader that keeps away from a directory overlooks it. -/
theorem overlooks_of_isApart {loader : Loader} {working : List String} (apart : loader.IsApart place working) :
    loader.Overlooks place working := by
  rintro name w w' rfl alike
  exact (agreesAt_source name alike loader apart).1

end Loader

end Stencil
