import Stencil.Proofs.Cache.Operations
import Stencil.Proofs.Disk.Calm
import Stencil.Proofs.Text.Utf8

/-!
# What the operations of a cache do in calm weather

In calm weather an operation of a cache does what it is for, provided that the cache is housed: its directory is
there, and no path in it that the cache uses is too long. A page that is stored is what then stands at the
place of its entry, a stale entry that is looked at is gone, and so are all entries after clearing.

Only entries come and go (`Disk.Stirred`), so a cache that is housed stays so (`Cache.Housed.of_stirred`). In
particular the name of its temporary file is the same each time.
-/

namespace Stencil

open Cache (entryPlace IsKey isEntryName entryName temporaryName)
open Disk (ChangedAt Emptied)

variable {place : List String} {p : DiskPath} {d d' : Disk} {w w' : World}

/-- In the directory at a place entries have come and gone, and nothing else has changed. -/
structure Disk.Stirred (place : List String) (d d' : Disk) : Prop where
  working : d'.working = d.working
  directories : ∀ other t, d.node? other = some (.directory t) → d'.node? other = some (.directory t)
  others : ∀ name, isEntryName name = false → d'.node? (place ++ [name]) = d.node? (place ++ [name])
  new : ∀ name, d'.node? (place ++ [name]) ≠ none →
    d.node? (place ++ [name]) ≠ none ∨ ∃ key, IsKey key ∧ name = entryName key

theorem Disk.Stirred.locate {other : List String} (h : Stirred place d d') (located : d.locate p = .ok other) :
    d'.locate p = .ok other :=
  locate_of_directories h.working (fun q t there => ⟨t, h.directories q t there⟩) located

open Disk (Stirred)

namespace Cache

variable {c : Cache} {key : String}

/-- The cache has its directory, and no path in it that the cache uses is too long. -/
structure Housed (c : Cache) (d : Disk) : Prop where
  above : DiskPath.above ∉ d.working
  directory : d.isDirectory c.directory = .ok true
  room : c.directory.text.utf8ByteSize + 1 + entryNameSize ≤ Disk.greatestPath
  temporary : ∃ place, d.locate (c.temporaryPath d) = .ok place
  listed : ∀ name, isEntryName name = true → d.node? (c.directory.resolve d.working ++ [name]) ≠ none →
    ∃ place, d.locate (c.directory.child name) = .ok place

theorem isEntryName_entryName (key : String) : isEntryName (entryName key) = true := by
  rw [isEntryName, entryName_toList, List.append_assoc]
  exact List.isPrefixOf_iff_prefix.2 (List.prefix_append _ _)

theorem isEntryName_temporaryName (n : Nat) : isEntryName (temporaryName n) = false := by
  simp [isEntryName, entryBeginning, temporaryName, String.toList_append, List.isPrefixOf]

theorem isEntryName_freshName (taken : List String) : isEntryName (freshName taken) = false := by
  obtain ⟨n, named⟩ := freshName_eq taken
  rw [named, isEntryName_temporaryName]

/-- Nothing has the name of a temporary file yet. -/
theorem node?_freshName (d : Disk) (place : List String) : d.node? (place ++ [freshName (d.namesAt place)]) = none := by
  by_contra there
  exact freshName_not_mem _ (Disk.mem_namesAt_iff.2 there)

theorem ne_above_of_isEntryName {name : String} (h : isEntryName name = true) : name ≠ DiskPath.above := by
  rintro rfl
  exact absurd h (by decide)

namespace Housed

theorem locate_pathFor (h : Housed c d) (hex : IsKey key) :
    d.locate (c.pathFor key) = .ok (entryPlace (c.directory.resolve d.working) key) := by
  rw [pathFor_eq hex.slash_not_mem]
  have size := hex.size_entryName
  refine Disk.locate_child h.directory above_ne_entryName (size ▸ by decide) ?_
  have room := h.room
  have longest := DiskPath.size_text_child c.directory (entryName key)
  omega

theorem locate_temporaryPath (h : Housed c d) : d.locate (c.temporaryPath d)
    = .ok (c.directory.resolve d.working ++ [freshName (d.namesAt (c.directory.resolve d.working))]) := by
  obtain ⟨place, located⟩ := h.temporary
  rw [located, Disk.eq_resolve_of_locate located]
  unfold temporaryPath
  dsimp only
  rw [DiskPath.resolve_child (above_ne_freshName _),
    DiskPath.resolve_ofPlace (DiskPath.above_not_mem_resolve h.above)]

theorem locate_listed {name : String} (h : Housed c d) (named : isEntryName name = true)
    (there : d.node? (c.directory.resolve d.working ++ [name]) ≠ none) :
    d.locate (c.directory.child name) = .ok (c.directory.resolve d.working ++ [name]) := by
  obtain ⟨place, located⟩ := h.listed name named there
  rw [located, Disk.eq_resolve_of_locate located, DiskPath.resolve_child (ne_above_of_isEntryName named)]

theorem of_stirred (h : Housed c d) (stirred : Stirred (c.directory.resolve d.working) d d') : Housed c d' := by
  have temporary : c.temporaryPath d' = c.temporaryPath d := by
    unfold temporaryPath
    rw [stirred.working]
    dsimp only
    rw [freshName_congr fun n => ?_]
    rw [Disk.mem_namesAt_iff, Disk.mem_namesAt_iff, stirred.others _ (isEntryName_temporaryName n)]
  refine ⟨stirred.working ▸ h.above, ?_, h.room, ?_, fun name named there => ?_⟩
  · obtain ⟨place, t, located, here⟩ := Disk.isDirectory_eq_ok_true_iff.1 h.directory
    exact Disk.isDirectory_eq_ok_true_iff.2
      ⟨place, t, stirred.locate located, stirred.directories place t here⟩
  · obtain ⟨place, located⟩ := h.temporary
    exact ⟨place, temporary ▸ stirred.locate located⟩
  · rw [stirred.working] at there
    rcases stirred.new name there with before | ⟨key, hex, rfl⟩
    · obtain ⟨place, located⟩ := h.listed name named before
      exact ⟨place, stirred.locate located⟩
    · have located := h.locate_pathFor hex
      rw [pathFor_eq hex.slash_not_mem] at located
      exact ⟨_, stirred.locate located⟩

end Housed

theorem stirred_of_changedAt {node : Option DiskNode} (hex : IsKey key)
    (free : ∀ t, d.node? (entryPlace place key) ≠ some (.directory t))
    (changed : ChangedAt (entryPlace place key) node d d') : Stirred place d d' where
  working := changed.working
  directories _ _ there := changed.directory free there
  others name plain := by
    refine changed.others _ fun same => ?_
    rw [Disk.name_eq_of_place_eq same, isEntryName_entryName] at plain
    cases plain
  new name there := by
    by_cases same : name = entryName key
    · exact .inr ⟨key, hex, same⟩
    · refine .inl ?_
      rwa [changed.others _ fun here => same (Disk.name_eq_of_place_eq here)] at there

/-! ## Looking for an entry -/

section Looking

variable {content : List UInt8} {t : Binary64} {entry : DiskPath}

theorem isFresh_forever (forever : c.ttl = 0) : c.isFresh entry w = (.ok true, w) := by
  unfold isFresh
  rw [if_pos forever]
  rfl

theorem isFresh_mortal (entry : DiskPath) (calm : w.weather = .calm) (mortal : c.ttl ≠ 0) : c.isFresh entry w
    = (((w.disk.find entry).mapError .disk).map (isFreshAt c.ttl w.clock ·.changed), { w with tick := w.tick + 1 }) := by
  have looked := Work.inspect_calm (p := entry) calm
  unfold isFresh
  rw [if_neg mortal]
  cases found : w.disk.find entry with
  | ok node =>
    rw [found] at looked
    exact run_ok looked _
  | error details =>
    rw [found] at looked
    exact run_error looked _

theorem removeNoting_calm (what : String) (calm : w.weather = .calm) (located : w.disk.locate p = .ok place)
    (free : ∀ t, w.disk.node? place ≠ some (.directory t)) :
    ∃ w', removeNoting what p w = (.ok true, w') ∧ World.Next (ChangedAt place none) w w' := by
  obtain ⟨w', removed, next⟩ := Work.remove_calm calm located free
  refine ⟨w', ?_, next⟩
  unfold removeNoting
  rw [run_ok (Work.outcome_run removed)]
  rfl

theorem hasValid_forever (forever : c.ttl = 0) : c.hasValid key w = (.ok true, w) := by
  unfold hasValid
  rw [run_ok (Work.outcome_run (isFresh_forever forever))]
  rfl

theorem hasValid_of_fresh {node : DiskNode} (calm : w.weather = .calm) (found : w.disk.find (c.pathFor key) = .ok node)
    (fresh : isFreshAt c.ttl w.clock node.changed = true) :
    ∃ w', c.hasValid key w = (.ok true, w') ∧ World.Next Eq w w' := by
  by_cases forever : c.ttl = 0
  · exact ⟨w, hasValid_forever forever, ⟨rfl, rfl, rfl⟩⟩
  · have looked := isFresh_mortal (c.pathFor key) calm forever
    rw [found] at looked
    dsimp only [Except.mapError, Except.map] at looked
    rw [fresh] at looked
    refine ⟨{ w with tick := w.tick + 1 }, ?_, ⟨rfl, rfl, rfl⟩⟩
    unfold hasValid
    rw [run_ok (Work.outcome_run looked)]
    rfl

/-- An entry that is stale is to be removed, and does not count whether or not that succeeds. -/
theorem hasValid_of_stale {node : DiskNode} (calm : w.weather = .calm) (mortal : c.ttl ≠ 0)
    (found : w.disk.find (c.pathFor key) = .ok node) (stale : isFreshAt c.ttl w.clock node.changed = false) :
    ∃ w₁, World.Next Eq w w₁ ∧ ∀ removed w',
      removeNoting "Failed to delete stale cache file" (c.pathFor key) w₁ = (.ok removed, w') →
        c.hasValid key w = (.ok false, w') := by
  have looked := isFresh_mortal (c.pathFor key) calm mortal
  rw [found] at looked
  dsimp only [Except.mapError, Except.map] at looked
  rw [stale] at looked
  obtain ⟨w₁, noted, next⟩ := note_run .debug ("Removing stale cache entry " ++ (c.pathFor key).name)
    { w with tick := w.tick + 1 }
  refine ⟨w₁, ⟨next.clock, next.weather, next.disk⟩, fun removed w' done => ?_⟩
  unfold hasValid
  rw [run_ok (Work.outcome_run looked)]
  exact (run_ok noted _).trans ((run_ok done _).trans rfl)

theorem hasValid_of_stale_file (calm : w.weather = .calm) (mortal : c.ttl ≠ 0)
    (located : w.disk.locate (c.pathFor key) = .ok place) (here : w.disk.node? place = some (.file content t))
    (stale : isFreshAt c.ttl w.clock t = false) :
    ∃ w', c.hasValid key w = (.ok false, w') ∧ World.Next (ChangedAt place none) w w' := by
  obtain ⟨w₁, next, looked⟩ := hasValid_of_stale calm mortal (Disk.find_eq_ok_iff.2 ⟨place, located, here⟩) stale
  have same : w.disk = w₁.disk := next.disk
  obtain ⟨w', removed, next'⟩ := removeNoting_calm (p := c.pathFor key) (w := w₁)
    "Failed to delete stale cache file" (next.weather.trans calm) (same ▸ located)
    (Disk.not_directory_of_file (same ▸ here))
  exact ⟨w', looked _ _ removed, next.after_look next'⟩

/-- What cannot be looked at does not count if there is no such file, else that is a fault. -/
theorem hasValid_of_unfound {details : DiskFault} (calm : w.weather = .calm) (mortal : c.ttl ≠ 0)
    (failed : w.disk.find (c.pathFor key) = .error details) : c.hasValid key w
      = (if details.isMissing then .ok false else .error (.disk details), { w with tick := w.tick + 1 }) := by
  have looked := isFresh_mortal (c.pathFor key) calm mortal
  rw [failed] at looked
  unfold hasValid
  rw [run_ok (Work.outcome_run looked)]
  cases missing : details.isMissing <;> simp [Except.mapError, Except.map, Fault.isMissingFile, missing] <;> rfl

theorem hasValid_of_absent (calm : w.weather = .calm) (mortal : c.ttl ≠ 0)
    (located : w.disk.locate (c.pathFor key) = .ok place) (free : w.disk.node? place = none) :
    c.hasValid key w = (.ok false, { w with tick := w.tick + 1 }) :=
  hasValid_of_unfound calm mortal (Disk.find_of_absent located free)

end Looking

/-! ## Storing a page -/

section Storing

variable {temporary entry : DiskPath} {origin goal : List String}

/-- The page takes the place of the entry, with the time at which it was written. -/
theorem fill_calm (content : String) {t : Binary64} (calm : w.weather = .calm)
    (located : w.disk.locate temporary = .ok origin)
    (located' : w.disk.locate entry = .ok goal) (here : w.disk.node? origin = some (.file [] t))
    (free : ∀ t, w.disk.node? goal ≠ some (.directory t)) :
    ∃ w', fill temporary entry content w = (.ok (), w')
      ∧ World.Next (fun d d' => d' = ((d.put origin (.file (Utf8.encode content.toList) w.clock)).drop origin).put goal
        (.file (Utf8.encode content.toList) w.clock)) w w' := by
  have noDirectory := Disk.not_directory_of_file here
  have inside : origin ≠ [] := Disk.ne_nil_of_no_directory noDirectory
  have appended : Work.append temporary (Utf8.encode content.toList) w = (.ok (), _) :=
    Work.append_calm calm (Disk.append_of_file located here)
  rw [List.nil_append] at appended
  have stands : (w.disk.put origin (.file (Utf8.encode content.toList) w.clock)).node? origin
      = some (.file (Utf8.encode content.toList) w.clock) := Disk.node?_put_self inside
  have replaced := Work.replace_calm (w := { w with
      tick := w.tick + 1
      disk := w.disk.put origin (.file (Utf8.encode content.toList) w.clock) }) calm
    (Disk.replace_of_file (Disk.locate_put noDirectory located) (Disk.locate_put noDirectory located') stands
      fun t' there => by
        rw [Disk.node?_put _ _ _ inside] at there
        split at there
        · cases there
        · exact free t' there)
  have encodable : w.weather.broken content = none := by
    rw [calm]
    rfl
  exact ⟨_, (fill_of_encodable encodable).trans ((run_ok appended _).trans replaced), ⟨rfl, rfl, rfl⟩⟩

theorem store_calm (content : String) (calm : w.weather = .calm)
    (located : w.disk.locate (c.temporaryPath w.disk) = .ok origin)
    (unused : w.disk.node? origin = none) (located' : w.disk.locate (c.pathFor key) = .ok goal)
    (differs : goal ≠ origin) (free : ∀ t, w.disk.node? goal ≠ some (.directory t)) :
    ∃ w', store key content (c, w) = (.ok true, { c with stores := c.stores + 1 }, w')
      ∧ World.Next (ChangedAt goal (some (.file (Utf8.encode content.toList) w.clock))) w w' := by
  have noDirectory := Disk.not_directory_of_absent unused
  have inside : origin ≠ [] := Disk.ne_nil_of_no_directory noDirectory
  have inside' : goal ≠ [] := Disk.ne_nil_of_no_directory free
  have created := Work.createFile_calm calm (Disk.createFile_of_free located unused)
  obtain ⟨w', filled, next⟩ := fill_calm content (w := { w with
      tick := w.tick + 1
      disk := w.disk.put origin (.file [] w.clock) }) calm
    (Disk.locate_put noDirectory located) (Disk.locate_put noDirectory located') (Disk.node?_put_self inside)
    fun t there => free t (Disk.node?_put_other differs ▸ there)
  refine ⟨w', ?_, ⟨next.clock, next.weather, ?_⟩⟩
  · exact store_of_filled created filled
  · have disk := next.disk
    dsimp only at disk
    rw [disk]
    refine ⟨rfl, Disk.node?_put_self inside', fun other away => ?_⟩
    rw [Disk.node?_put_other away]
    by_cases same : other = origin
    · rw [same, Disk.node?_drop_self inside, unused]
    · rw [Disk.node?_drop_other same, Disk.node?_put_other same, Disk.node?_put_other same]

end Storing

/-! ## Clearing -/

theorem onlyFiles_calm {paths : List DiskPath} (calm : w.weather = .calm)
    (there : ∀ p ∈ paths, ∃ node, w.disk.find p = .ok node) :
    ∃ found w', onlyFiles paths w = (.ok found, w') ∧ World.Next Eq w w'
      ∧ ∀ p, p ∈ found ↔ p ∈ paths ∧ ∃ content t, w.disk.find p = .ok (.file content t) := by
  induction paths generalizing w with
  | nil => exact ⟨[], w, rfl, ⟨rfl, rfl, rfl⟩, by simp⟩
  | cons path rest ih =>
    obtain ⟨node, here⟩ := there path List.mem_cons_self
    have looked := Work.isFile_of_find calm here
    obtain ⟨found, w', others, next, among⟩ := ih (w := { w with tick := w.tick + 1 }) calm
      fun p mem => there p (List.mem_cons_of_mem _ mem)
    have next : World.Next Eq w w' := ⟨next.clock, next.weather, next.disk⟩
    unfold onlyFiles
    rw [run_ok looked]
    cases node with
    | file content t =>
      refine ⟨path :: found, w', (run_ok others _).trans rfl, next, fun p => ?_⟩
      rw [List.mem_cons, among, List.mem_cons]
      constructor
      · rintro (rfl | ⟨mem, file⟩)
        · exact ⟨.inl rfl, content, t, here⟩
        · exact ⟨.inr mem, file⟩
      · rintro ⟨rfl | mem, file⟩
        · exact .inl rfl
        · exact .inr ⟨mem, file⟩
    | directory t =>
      refine ⟨found, w', others, next, fun p => ?_⟩
      rw [among, List.mem_cons]
      constructor
      · rintro ⟨mem, file⟩
        exact ⟨.inr mem, file⟩
      · rintro ⟨rfl | mem, file⟩
        · obtain ⟨content, t', file⟩ := file
          rw [here] at file
          cases file
        · exact ⟨mem, file⟩

theorem removeAll_calm {paths : List DiskPath} (calm : w.weather = .calm)
    (each : ∀ p ∈ paths, ∃ place, w.disk.locate p = .ok place ∧ ∀ t, w.disk.node? place ≠ some (.directory t)) :
    ∃ w', removeAll paths w = (.ok true, w')
      ∧ World.Next (Emptied fun place => ∃ p ∈ paths, w.disk.locate p = .ok place) w w' := by
  induction paths generalizing w with
  | nil => exact ⟨w, rfl, ⟨rfl, rfl, ⟨rfl, by simp, fun _ _ => rfl⟩⟩⟩
  | cons path rest ih =>
    obtain ⟨place, located, free⟩ := each path List.mem_cons_self
    obtain ⟨w₁, removed, next⟩ := removeNoting_calm "Failed to delete cache file" calm located free
    have still {p : DiskPath} {other : List String} (goes : w.disk.locate p = .ok other) :
        w₁.disk.locate p = .ok other := next.disk.locate free goes
    obtain ⟨w', others, next'⟩ := ih (next.weather.trans calm) fun p mem => by
      obtain ⟨other, goes, free'⟩ := each p (List.mem_cons_of_mem _ mem)
      refine ⟨other, still goes, fun t here => ?_⟩
      by_cases same : other = place
      · rw [same, next.disk.here] at here
        cases here
      · rw [next.disk.others other same] at here
        exact free' t here
    refine ⟨w', ?_, next'.clock.trans next.clock, next'.weather.trans next.weather,
      next'.disk.working.trans next.disk.working, ?_, ?_⟩
    · unfold removeAll
      exact (run_ok removed _).trans ((run_ok others _).trans rfl)
    · rintro other ⟨p, mem, goes⟩
      by_cases later : ∃ p ∈ rest, w₁.disk.locate p = .ok other
      · exact next'.disk.gone other later
      · rw [next'.disk.others other later]
        rcases List.mem_cons.1 mem with rfl | mem
        · obtain rfl := Except.ok.inj (located.symm.trans goes)
          exact next.disk.here
        · exact absurd ⟨p, mem, still goes⟩ later
    · intro other kept
      have differs : other ≠ place := by
        rintro rfl
        exact kept ⟨path, List.mem_cons_self, located⟩
      have kept' : ¬∃ p ∈ rest, w₁.disk.locate p = .ok other := by
        rintro ⟨p, mem, goes⟩
        obtain ⟨other', goes', -⟩ := each p (List.mem_cons_of_mem _ mem)
        obtain rfl := Except.ok.inj (goes.symm.trans (still goes'))
        exact kept ⟨p, List.mem_cons_of_mem _ mem, goes'⟩
      rw [next'.disk.others other kept', next.disk.others other differs]

/-- A file in the cache's directory that looks like an entry. -/
def IsEntryFile (c : Cache) (d : Disk) (place : List String) : Prop :=
  ∃ name content t, isEntryName name = true ∧ place = c.directory.resolve d.working ++ [name]
    ∧ d.node? place = some (.file content t)

theorem names_calm (calm : w.weather = .calm) (housed : Housed c w.disk) :
    Work.names c.directory w
      = (.ok (w.disk.namesAt (c.directory.resolve w.disk.working)), { w with tick := w.tick + 1 }) := by
  obtain ⟨place, t, located, -⟩ := Disk.isDirectory_eq_ok_true_iff.1 housed.directory
  have names : w.disk.names c.directory = .ok (w.disk.namesAt (c.directory.resolve w.disk.working)) := by
    unfold Disk.names Disk.inDirectory
    rw [housed.directory, located, Disk.eq_resolve_of_locate located]
    rfl
  unfold Work.names
  rw [Work.ask_calm calm, names]
  rfl

theorem entries_calm (calm : w.weather = .calm) (housed : Housed c w.disk) :
    ∃ found w', c.entries w = (.ok found, w') ∧ World.Next Eq w w'
      ∧ ∀ p, p ∈ found ↔ ∃ name content t, p = c.directory.child name ∧ isEntryName name = true
        ∧ w.disk.node? (c.directory.resolve w.disk.working ++ [name]) = some (.file content t) := by
  have listed := names_calm calm housed
  have mem_iff (p : DiskPath) :
      p ∈ ((w.disk.namesAt (c.directory.resolve w.disk.working)).filter isEntryName).map c.directory.child
        ↔ ∃ name, isEntryName name = true ∧ p = c.directory.child name
          ∧ w.disk.node? (c.directory.resolve w.disk.working ++ [name]) ≠ none := by
    rw [List.mem_map]
    refine exists_congr fun name => ?_
    rw [List.mem_filter, Disk.mem_namesAt_iff]
    constructor
    · rintro ⟨⟨there, named⟩, rfl⟩
      exact ⟨named, rfl, there⟩
    · rintro ⟨named, rfl, there⟩
      exact ⟨⟨there, named⟩, rfl⟩
  obtain ⟨found, w', filtered, next, among⟩ := onlyFiles_calm (w := { w with tick := w.tick + 1 }) calm fun p mem => by
    obtain ⟨name, named, rfl, there⟩ := (mem_iff p).1 mem
    obtain ⟨node, here⟩ := Option.ne_none_iff_exists'.1 there
    exact ⟨node, Disk.find_eq_ok_iff.2 ⟨_, housed.locate_listed named there, here⟩⟩
  have found_run : c.listEntries w = (.ok found, w') := by
    unfold listEntries
    rw [run_ok listed]
    exact filtered
  refine ⟨found, w', ?_, ⟨next.clock, next.weather, next.disk⟩, fun p => ?_⟩
  · unfold entries
    rw [run_ok (Work.outcome_run found_run)]
    rfl
  · rw [among, mem_iff]
    constructor
    · rintro ⟨⟨name, named, rfl, there⟩, content, t, file⟩
      obtain ⟨place, located, here⟩ := Disk.find_eq_ok_iff.1 file
      obtain rfl := Except.ok.inj ((housed.locate_listed named there).symm.trans located)
      exact ⟨name, content, t, rfl, named, here⟩
    · rintro ⟨name, content, t, rfl, named, here⟩
      have there : w.disk.node? (c.directory.resolve w.disk.working ++ [name]) ≠ none := by
        rw [here]
        exact Option.some_ne_none _
      exact ⟨⟨name, named, rfl, there⟩, content, t,
        Disk.find_eq_ok_iff.2 ⟨_, housed.locate_listed named there, here⟩⟩

/-- Clearing removes the files that look like entries, and nothing else. -/
theorem clear_calm (calm : w.weather = .calm) (housed : Housed c w.disk) :
    ∃ w', c.clear w = (.ok true, w') ∧ World.Next (Emptied (IsEntryFile c w.disk)) w w' := by
  obtain ⟨found, w₁, listed, next, mem_iff⟩ := entries_calm calm housed
  have same : w.disk = w₁.disk := next.disk
  have goes {name : String} {content : List UInt8} {t : Binary64} (named : isEntryName name = true)
      (here : w.disk.node? (c.directory.resolve w.disk.working ++ [name]) = some (.file content t)) :
      w.disk.locate (c.directory.child name) = .ok (c.directory.resolve w.disk.working ++ [name]) := by
    refine housed.locate_listed named ?_
    rw [here]
    exact Option.some_ne_none _
  obtain ⟨w', removed, next'⟩ := removeAll_calm (w := w₁) (next.weather.trans calm) fun p mem => by
    obtain ⟨name, content, t, rfl, named, here⟩ := (mem_iff p).1 mem
    exact ⟨_, same ▸ goes named here, Disk.not_directory_of_file (same ▸ here)⟩
  have places : (fun place => ∃ p ∈ found, w₁.disk.locate p = .ok place) = IsEntryFile c w.disk := by
    funext place
    refine propext ⟨?_, ?_⟩
    · rintro ⟨p, mem, located⟩
      obtain ⟨name, content, t, rfl, named, here⟩ := (mem_iff p).1 mem
      rw [← same, goes named here] at located
      obtain rfl := Except.ok.inj located
      exact ⟨name, content, t, named, rfl, here⟩
    · rintro ⟨name, content, t, named, rfl, here⟩
      exact ⟨_, (mem_iff _).2 ⟨name, content, t, rfl, named, here⟩, same ▸ goes named here⟩
  rw [places] at next'
  refine ⟨w', ?_, next.after_look next'⟩
  unfold clear
  rw [run_ok listed]
  exact removed

theorem stirred_of_emptied (emptied : Emptied (IsEntryFile c d) d d') :
    Stirred (c.directory.resolve d.working) d d' where
  working := emptied.working
  directories other t here := by
    rw [emptied.others other ?_, here]
    rintro ⟨name, content, t', -, rfl, file⟩
    rw [here] at file
    cases file
  others name plain := by
    refine emptied.others _ ?_
    rintro ⟨name', content, t, named, same, -⟩
    rw [Disk.name_eq_of_place_eq same, named] at plain
    cases plain
  new name there := by
    refine .inl fun before => ?_
    by_cases file : IsEntryFile c d (c.directory.resolve d.working ++ [name])
    · exact there (emptied.gone _ file)
    · rw [emptied.others _ file] at there
      exact there before

end Cache

end Stencil
