import Mathlib.Data.List.Basic
import Stencil.Disk
import Stencil.Proofs.Success

/-!
# Where paths lead

A path is followed through directories only. So where it leads can be told from its names alone
(`Disk.eq_resolve_of_locate`), and it leads there as long as the directories on its way stay
(`Disk.locate_of_directories`). What a directory holds is reached by its name (`Disk.locate_child`).

`Disk.besides` is what a disk holds outside of one directory.
-/

namespace Stencil

namespace Disk

variable {d d' : Disk} {p : DiskPath} {start place : List String}

theorem isDirectory_of_walk_cons {name : String} {names : List String}
    (h : d.walk start (name :: names) = .ok place) :
    ∃ t, d.node? start = some (.directory t) ∧ d.walk (DiskPath.step start name) names = .ok place := by
  rw [walk] at h
  split at h
  · cases h
  · cases h
  · next t here =>
    refine ⟨t, here, ?_⟩
    unfold DiskPath.step
    split at h
    · next up => rwa [if_pos up]
    · next other =>
      split at h
      · cases h
      · rwa [if_neg other]

/-- Where names lead can be told from the names alone. -/
theorem eq_foldl_of_walk {names : List String} (h : d.walk start names = .ok place) :
    place = names.foldl DiskPath.step start := by
  induction names generalizing start with
  | nil => exact (Except.ok.inj h).symm
  | cons name rest ih =>
    obtain ⟨-, -, h⟩ := isDirectory_of_walk_cons h
    exact ih h

/-- Names that lead somewhere lead there as long as the directories stay. -/
theorem walk_of_directories {names : List String}
    (stay : ∀ place t, d.node? place = some (.directory t) → ∃ t', d'.node? place = some (.directory t'))
    (h : d.walk start names = .ok place) : d'.walk start names = .ok place := by
  induction names generalizing start with
  | nil => exact h
  | cons name rest ih =>
    obtain ⟨t, here, -⟩ := isDirectory_of_walk_cons h
    obtain ⟨t', there⟩ := stay _ _ here
    rw [walk, here] at h
    rw [walk, there]
    dsimp only at h ⊢
    split
    · next up =>
      rw [if_pos up] at h
      exact ih h
    · next other =>
      rw [if_neg other] at h
      split
      · next long =>
        rw [if_pos long] at h
        cases h
      · next short =>
        rw [if_neg short] at h
        exact ih h

theorem locate_eq_ok_iff : d.locate p = .ok place ↔ d.place p = .ok place := by
  unfold locate
  cases d.place p with
  | error reason => exact ⟨nofun, nofun⟩
  | ok found => exact ⟨fun h => by rw [Except.ok.inj h], fun h => by rw [Except.ok.inj h]; rfl⟩

theorem walk_of_place (h : d.place p = .ok place) :
    d.walk (if p.isAbsolute then [] else d.working) p.names = .ok place := by
  unfold Disk.place at h
  split at h
  · cases h
  · exact h

theorem eq_resolve_of_place (h : d.place p = .ok place) : place = p.resolve d.working :=
  eq_foldl_of_walk (walk_of_place h)

theorem eq_resolve_of_locate (h : d.locate p = .ok place) : place = p.resolve d.working :=
  eq_resolve_of_place (locate_eq_ok_iff.1 h)

theorem place_of_directories (sameWorking : d'.working = d.working)
    (stay : ∀ place t, d.node? place = some (.directory t) → ∃ t', d'.node? place = some (.directory t'))
    (h : d.place p = .ok place) : d'.place p = .ok place := by
  have walked := walk_of_directories stay (walk_of_place h)
  unfold Disk.place at h ⊢
  rw [sameWorking]
  split
  · next long =>
    rw [if_pos long] at h
    cases h
  · exact walked

theorem locate_of_directories (sameWorking : d'.working = d.working)
    (stay : ∀ place t, d.node? place = some (.directory t) → ∃ t', d'.node? place = some (.directory t'))
    (h : d.locate p = .ok place) : d'.locate p = .ok place :=
  locate_eq_ok_iff.2 (place_of_directories sameWorking stay (locate_eq_ok_iff.1 h))

theorem find_eq_ok_iff {node : DiskNode} :
    d.find p = .ok node ↔ ∃ place, d.locate p = .ok place ∧ d.node? place = some node := by
  unfold find
  rw [bind_eq_ok_iff]
  refine exists_congr fun place => and_congr_right fun _ => ?_
  cases d.node? place with
  | none => exact ⟨nofun, nofun⟩
  | some found => exact ⟨fun h => by rw [Except.ok.inj h], fun h => by rw [Option.some.inj h]⟩

theorem read_eq_ok_iff {bytes : List UInt8} :
    d.read p = .ok bytes ↔ ∃ place t, d.locate p = .ok place ∧ d.node? place = some (.file bytes t) := by
  unfold read
  rw [bind_eq_ok_iff]
  constructor
  · rintro ⟨node, found, h⟩
    obtain ⟨place, located, here⟩ := find_eq_ok_iff.1 found
    cases node with
    | file content t =>
      obtain rfl := Except.ok.inj h
      exact ⟨place, t, located, here⟩
    | directory t => cases h
  · rintro ⟨place, t, located, here⟩
    exact ⟨_, find_eq_ok_iff.2 ⟨place, located, here⟩, rfl⟩

theorem find?_eq_some_iff {node : DiskNode} : d.find? p = .ok (some node) ↔ d.find p = .ok node := by
  unfold find?
  constructor
  · intro found
    split at found
    · next node' there => rw [there, Option.some.inj (Except.ok.inj found)]
    · split at found
      · cases found
      · cases found
  · intro there
    rw [there]

theorem exists_find_of_isFile (h : d.isFile p = .ok true) : ∃ node, d.find p = .ok node := by
  obtain ⟨node, found, yes⟩ := map_eq_ok_iff.1 h
  cases node with
  | none => cases yes
  | some node => exact ⟨node, find?_eq_some_iff.1 found⟩

/-- Names lead nowhere for one of three reasons. -/
theorem reason_of_walk {names : List String} {reason : DiskReason} (h : d.walk start names = .error reason) :
    reason = .missing ∨ reason = .notDirectory ∨ reason = .nameTooLong := by
  induction names generalizing start with
  | nil => cases h
  | cons name rest ih =>
    rw [walk] at h
    split at h
    · exact .inl (Except.error.inj h).symm
    · exact .inr (.inl (Except.error.inj h).symm)
    · split at h
      · exact ih h
      · split at h
        · exact .inr (.inr (Except.error.inj h).symm)
        · exact ih h

theorem reason_of_place {reason : DiskReason} (h : d.place p = .error reason) :
    reason = .missing ∨ reason = .notDirectory ∨ reason = .nameTooLong := by
  unfold Disk.place at h
  split at h
  · exact .inr (.inr (Except.error.inj h).symm)
  · exact reason_of_walk h

/-- What a path denotes can be told unless the path or one of its names is too long. -/
theorem find?_eq_error_iff {fault : DiskFault} :
    d.find? p = .error fault ↔ d.place p = .error .nameTooLong ∧ fault = failure p .nameTooLong := by
  unfold find? find locate
  cases placed : d.place p with
  | ok place =>
    dsimp only [Except.mapError, bind, Except.bind]
    cases d.node? place <;> simp [failure, DiskFault.isAbsence]
  | error reason =>
    dsimp only [Except.mapError, bind, Except.bind]
    rcases reason_of_place placed with rfl | rfl | rfl <;> simp [failure, DiskFault.isAbsence, eq_comm]

theorem isFile_eq_error_iff {fault : DiskFault} :
    d.isFile p = .error fault ↔ d.place p = .error .nameTooLong ∧ fault = failure p .nameTooLong :=
  map_eq_error_iff.trans find?_eq_error_iff

theorem isDirectory_eq_error_iff {fault : DiskFault} :
    d.isDirectory p = .error fault ↔ d.place p = .error .nameTooLong ∧ fault = failure p .nameTooLong :=
  map_eq_error_iff.trans find?_eq_error_iff

theorem isFile_eq_ok_true_iff :
    d.isFile p = .ok true ↔ ∃ place content t, d.locate p = .ok place ∧ d.node? place = some (.file content t) := by
  unfold isFile
  rw [map_eq_ok_iff]
  constructor
  · rintro ⟨node, found, h⟩
    cases node with
    | none => cases h
    | some node =>
      obtain ⟨place, located, here⟩ := find_eq_ok_iff.1 (find?_eq_some_iff.1 found)
      cases node with
      | file content t => exact ⟨place, content, t, located, here⟩
      | directory t => cases h
  · rintro ⟨place, content, t, located, here⟩
    exact ⟨some (.file content t), find?_eq_some_iff.2 (find_eq_ok_iff.2 ⟨place, located, here⟩), rfl⟩

theorem isDirectory_eq_ok_true_iff :
    d.isDirectory p = .ok true ↔ ∃ place t, d.locate p = .ok place ∧ d.node? place = some (.directory t) := by
  unfold isDirectory
  rw [map_eq_ok_iff]
  constructor
  · rintro ⟨node, found, h⟩
    cases node with
    | none => cases h
    | some node =>
      obtain ⟨place, located, here⟩ := find_eq_ok_iff.1 (find?_eq_some_iff.1 found)
      cases node with
      | file content t => cases h
      | directory t => exact ⟨place, t, located, here⟩
  · rintro ⟨place, t, located, here⟩
    exact ⟨some (.directory t), find?_eq_some_iff.2 (find_eq_ok_iff.2 ⟨place, located, here⟩), rfl⟩

/-- What is listed for a directory can be told unless the path or one of its names is too long. -/
theorem inDirectory_eq_error_iff {α : Type} {list : List String → List α} {fault : DiskFault} :
    d.inDirectory p list = .error fault ↔ d.place p = .error .nameTooLong ∧ fault = failure p .nameTooLong := by
  rw [inDirectory, bind_eq_error_iff, isDirectory_eq_error_iff, or_iff_left_iff_imp]
  rintro ⟨there, is, failed⟩
  split at failed
  · next yes =>
    obtain ⟨place, _, located, -⟩ := isDirectory_eq_ok_true_iff.1 (yes ▸ is)
    rw [located] at failed
    cases failed
  · cases failed

theorem inDirectory_eq_ok_iff {α : Type} {list : List String → List α} {listed : List α} :
    d.inDirectory p list = .ok listed ↔ (d.isDirectory p = .ok false ∧ listed = [])
      ∨ ∃ place t, d.locate p = .ok place ∧ d.node? place = some (.directory t) ∧ listed = list place := by
  rw [inDirectory, bind_eq_ok_iff]
  constructor
  · rintro ⟨there, is, done⟩
    split at done
    · next yes =>
      obtain ⟨place, t, located, here⟩ := isDirectory_eq_ok_true_iff.1 (yes ▸ is)
      rw [located] at done
      exact .inr ⟨place, t, located, here, (Except.ok.inj done).symm⟩
    · next no => exact .inl ⟨Bool.eq_false_iff.2 no ▸ is, (Except.ok.inj done).symm⟩
  · rintro (⟨none, rfl⟩ | ⟨place, t, located, here, rfl⟩)
    · exact ⟨false, none, rfl⟩
    · refine ⟨true, isDirectory_eq_ok_true_iff.2 ⟨place, t, located, here⟩, ?_⟩
      rw [located]
      rfl

/-! ## Changes at one place -/

theorem node?_nil : d.node? [] = some (.directory (.zero false)) := rfl

theorem ne_nil_of_no_directory (h : ∀ t, d.node? place ≠ some (.directory t)) : place ≠ [] := by
  rintro rfl
  exact h _ node?_nil

theorem not_directory_of_file {content : List UInt8} {t : Binary64} (here : d.node? place = some (.file content t))
    (t' : Binary64) : d.node? place ≠ some (.directory t') := by
  rw [here]
  nofun

theorem not_directory_of_absent (free : d.node? place = none) (t : Binary64) :
    d.node? place ≠ some (.directory t) := by
  rw [free]
  nofun

theorem working_put (place : List String) (node : DiskNode) : (d.put place node).working = d.working := rfl

theorem working_drop (place : List String) : (d.drop place).working = d.working := rfl

theorem node?_put (place other : List String) (node : DiskNode) (inside : place ≠ []) :
    (d.put place node).node? other = if other = place then some node else d.node? other := by
  split
  · next same =>
    subst same
    exact node?_put_self inside
  · next differs => exact node?_put_other differs

section

variable {node : DiskNode} (free : ∀ t, d.node? place ≠ some (.directory t))
include free

theorem locate_put {other : List String} (located : d.locate p = .ok other) :
    (d.put place node).locate p = .ok other := by
  refine locate_of_directories (working_put _ _) (fun q t here => ⟨t, ?_⟩) located
  rw [node?_put_other ?_, here]
  rintro rfl
  exact free t here

/-- A file that is put somewhere opens no way that was not there. -/
theorem locate_put_file_iff {content : List UInt8} {t : Binary64} {other : List String} :
    (d.put place (.file content t)).locate p = .ok other ↔ d.locate p = .ok other := by
  refine ⟨locate_of_directories rfl fun q t' here => ⟨t', ?_⟩, locate_put free⟩
  rw [node?_put _ _ _ (ne_nil_of_no_directory free)] at here
  split at here
  · cases here
  · exact here

end

theorem put_put (node node' : DiskNode) : (d.put place node).put place node' = d.put place node' := by
  simp [put]

/-- What is put where nothing stood and dropped again leaves no trace. -/
theorem drop_put_of_absent (free : d.node? place = none) (node : DiskNode) : (d.put place node).drop place = d := by
  have absent : ∀ entry ∈ d.nodes, entry.1 ≠ place := by
    unfold node? at free
    split at free
    · cases free
    · intro entry mem same
      simpa [same] using List.lookup_eq_none_iff.1 free entry mem
  have whole : d.nodes.filter (·.1 ≠ place) = d.nodes :=
    List.filter_eq_self.2 fun entry mem => decide_eq_true (absent entry mem)
  unfold put drop
  dsimp only
  rw [whole, List.filter_cons_of_neg (by simp), whole]

theorem remove_of_file {content : List UInt8} {t : Binary64} (located : d.locate p = .ok place)
    (here : d.node? place = some (.file content t)) : d.remove p = .ok (d.drop place) := by
  unfold remove
  rw [located]
  dsimp only [bind, Except.bind]
  rw [here]

/-! ## The names in a directory -/

theorem name_eq_of_place_eq {name name' : String} (same : place ++ [name] = place ++ [name']) : name = name' :=
  List.singleton_inj.1 (List.append_cancel_left same)

theorem walk_append (names more : List String) :
    d.walk start (names ++ more) = (d.walk start names >>= fun place => d.walk place more) := by
  induction names generalizing start with
  | nil => rfl
  | cons name rest ih =>
    rw [List.cons_append, walk, walk]
    split
    · rfl
    · rfl
    · split
      · exact ih
      · split
        · rfl
        · exact ih

/-- Further names are followed from where the path leads. -/
theorem walk_of_locate (located : d.locate p = .ok place) (names : List String) :
    d.walk (if p.isAbsolute then [] else d.working) (p.names ++ names) = d.walk place names := by
  rw [walk_append, walk_of_place (locate_eq_ok_iff.1 located)]
  rfl

/-- What a directory holds is reached by its name, if the name and the path are not too long. -/
theorem locate_child {name : String} (there : d.isDirectory p = .ok true) (other : name ≠ DiskPath.above)
    (short : name.utf8ByteSize ≤ greatestName) (room : (p.child name).text.utf8ByteSize ≤ greatestPath) :
    d.locate (p.child name) = .ok (p.resolve d.working ++ [name]) := by
  obtain ⟨place, t, located, here⟩ := isDirectory_eq_ok_true_iff.1 there
  rw [locate_eq_ok_iff, Disk.place, if_neg (Nat.not_lt.2 room), ← eq_resolve_of_locate located]
  change d.walk (if p.isAbsolute then [] else d.working) (p.names ++ [name]) = _
  rw [walk_of_locate located, walk, here]
  dsimp only
  rw [if_neg other, if_neg (Nat.not_lt.2 short)]
  rfl

theorem mem_namesAt_iff {name : String} : name ∈ d.namesAt place ↔ d.node? (place ++ [name]) ≠ none := by
  have inside : place ++ [name] ≠ [] := List.append_ne_nil_of_right_ne_nil _ (List.cons_ne_nil _ _)
  rw [node?, if_neg inside, Ne, List.lookup_eq_none_iff]
  unfold namesAt
  rw [List.mem_mergeSort, List.mem_filterMap]
  constructor
  · rintro ⟨⟨q, node⟩, mem, named⟩ absent
    dsimp only at named
    split at named
    · next parent =>
      have whole := List.dropLast_append_getLast? name named
      rw [parent] at whole
      exact absurd (beq_iff_eq.2 whole) (by simpa using absent _ mem)
    · cases named
  · intro present
    push Not at present
    obtain ⟨⟨q, node⟩, mem, same⟩ := present
    obtain rfl : place ++ [name] = q := by simpa using same
    exact ⟨_, mem, by simp⟩

/-! ## Outside of a directory -/

/-- Does a place lie in the directory at `directory`, at any depth? -/
def isWithin (directory place : List String) : Bool :=
  DiskPath.isInside directory place && place ≠ directory

/-- What the disk holds outside of the directory at `directory`, and the directory itself. -/
def besides (d : Disk) (directory : List String) : List (List String × DiskNode) :=
  d.nodes.filter fun (place, _) => !isWithin directory place

theorem isWithin_append_singleton (directory : List String) (name : String) :
    isWithin directory (directory ++ [name]) = true := by
  simp [isWithin, DiskPath.isInside]

theorem ne_nil_of_isWithin {directory : List String} (h : isWithin directory place = true) : place ≠ [] := by
  rintro rfl
  cases directory <;> simp [isWithin, DiskPath.isInside] at h

theorem lookup_filter {α : Type} (p : List String → Bool) (nodes : List (List String × α)) (place : List String) :
    (nodes.filter fun node => p node.1).lookup place = if p place then nodes.lookup place else none := by
  induction nodes with
  | nil => simp
  | cons node rest ih =>
    obtain ⟨q, x⟩ := node
    by_cases same : place = q
    · subst same
      by_cases keep : p place
      · simp [keep]
      · simp [keep, ih]
    · have differs : (place == q) = false := beq_eq_false_iff_ne.2 same
      by_cases keep : p q
      · simp [keep, List.lookup_cons, differs, ih]
      · simp [keep, List.lookup_cons, differs, ih]

theorem filter_filter_ne {α : Type} {within : List String → Bool} {place : List String} (h : within place = true)
    (nodes : List (List String × α)) :
    (nodes.filter (·.1 ≠ place)).filter (fun node => !within node.1) = nodes.filter fun node => !within node.1 := by
  rw [List.filter_filter]
  refine List.filter_congr fun node _ => ?_
  by_cases same : node.1 = place
  · simp [same, h]
  · simp [same]

theorem besides_put {directory : List String} (h : isWithin directory place = true) (node : DiskNode) :
    (d.put place node).besides directory = d.besides directory := by
  unfold besides put
  rw [List.filter_cons_of_neg (by simp [h])]
  exact filter_filter_ne h d.nodes

theorem besides_drop {directory : List String} (h : isWithin directory place = true) :
    (d.drop place).besides directory = d.besides directory :=
  filter_filter_ne h d.nodes

end Disk

end Stencil
