import Stencil.Disk.Selection
import Stencil.Proofs.Cache.Upkeep
import Stencil.Proofs.Disk.Names

/-!
# Disks that differ within one directory

Two disks that hold the same outside of a directory, and no directories in it, answer every question about
paths that lead to places outside of it in the same way. A path may pass through the directory on its way: in both
disks it gets no further there than a file, so that it denotes nothing.
-/

namespace Stencil.Disk

/-- The disks differ at most by the files that lie in the directory at a place. -/
structure AlikeBut (place : List String) (d d' : Disk) : Prop where
  working : d'.working = d.working
  besides : d'.besides place = d.besides place
  flat : d.IsFlat place
  flat' : d'.IsFlat place

variable {d d' : Disk} {place other start : List String} {p : DiskPath}

theorem node?_of_besides (same : d'.besides place = d.besides place) (outside : isWithin place other = false) :
    d'.node? other = d.node? other := by
  have found (d : Disk) : d.nodes.lookup other = (d.besides place).lookup other := by
    rw [besides, lookup_filter (fun q => !isWithin place q), outside]
    rfl
  unfold node?
  rw [found d, found d', same]

/-- Whatever is gathered from nodes outside of a directory is the same if the disks agree outside of it. -/
theorem filterMap_of_besides {β : Type} {f : List String × DiskNode → Option β}
    (same : d'.besides place = d.besides place) (skips : ∀ entry, isWithin place entry.1 = true → f entry = none) :
    d'.nodes.filterMap f = d.nodes.filterMap f := by
  have common (nodes : List (List String × DiskNode)) :
      (nodes.filter fun entry => !isWithin place entry.1).filterMap f = nodes.filterMap f := by
    rw [List.filterMap_filter]
    refine List.filterMap_congr fun entry _ => ?_
    cases inside : isWithin place entry.1 with
    | true => exact (skips entry inside).symm
    | false => rfl
  unfold besides at same
  rw [← common d.nodes, ← common d'.nodes, same]

/-- In a directory that holds no directories, names lead nowhere. -/
theorem walk_within (flat : d.IsFlat place) (inside : isWithin place start = true) (name : String)
    (rest : List String) : ∃ reason, d.walk start (name :: rest) = .error reason ∧ (failure p reason).isAbsence := by
  cases here : d.node? start with
  | none => exact ⟨.missing, by rw [walk, here], rfl⟩
  | some node =>
    cases node with
    | file content t => exact ⟨.notDirectory, by rw [walk, here], rfl⟩
    | directory t => exact absurd here (flat start t inside)

/-! ## Steps of a selection -/

theorem gather_congr {search search' : List String → Except DiskFault (List (List String))} {starts : List (List String)}
    (same : ∀ names ∈ starts, search' names = search names) : gather search' starts = gather search starts := by
  induction starts with
  | nil => rfl
  | cons names rest ih =>
    obtain ⟨first, later⟩ := List.forall_mem_cons.1 same
    rw [gather, gather, first, ih later]

/-- A directory is found by names that lead downwards. -/
theorem mem_directoriesAt_iff {names : List String} : names ∈ d.directoriesAt place
    ↔ names = [] ∨ names ≠ [] ∧ DiskPath.above ∉ names ∧ ∃ t, (place ++ names, .directory t) ∈ d.nodes := by
  unfold directoriesAt
  rw [List.mem_cons, List.mem_filterMap]
  refine or_congr_right ⟨?_, ?_⟩
  · rintro ⟨⟨q, node⟩, mem, kept⟩
    dsimp only at kept
    split at kept
    · next counted =>
      obtain rfl := Option.some.inj kept
      obtain ⟨⟨⟨isDirectory, inside⟩, some⟩, plain⟩ :
          ((node.isFile = false ∧ place <+: q) ∧ q.drop place.length ≠ []) ∧ DiskPath.above ∉ q.drop place.length := by
        simpa [DiskPath.isInside] using counted
      obtain ⟨names, rfl⟩ := inside
      rw [List.drop_left] at some plain ⊢
      cases node with
      | directory t => exact ⟨some, plain, t, mem⟩
      | file content t => cases isDirectory
    · cases kept
  · rintro ⟨some, plain, t, mem⟩
    exact ⟨_, mem, by simp [DiskNode.isFile, DiskPath.isInside, some, plain]⟩

/-- What is picked out of a directory is one name each. -/
theorem mem_pickAt_iff {keep : String → DiskNode → Bool} {names : List String} : names ∈ d.pickAt keep place
    ↔ ∃ name node, names = [name] ∧ name ≠ DiskPath.above ∧ d.node? (place ++ [name]) = some node
      ∧ keep name node = true := by
  unfold pickAt
  rw [List.mem_map]
  constructor
  · rintro ⟨name, mem, rfl⟩
    obtain ⟨other, node, here, kept⟩ : name ≠ DiskPath.above ∧ ∃ node, d.node? (place ++ [name]) = some node
        ∧ keep name node = true := by
      simpa [Option.any_eq_true] using (List.mem_filter.1 mem).2
    exact ⟨name, node, rfl, other, here, kept⟩
  · rintro ⟨name, node, rfl, other, here, kept⟩
    refine ⟨name, List.mem_filter.2 ⟨mem_namesAt_iff.2 ?_, ?_⟩, rfl⟩
    · rw [here]
      exact Option.some_ne_none node
    · simp [other, here, kept]

theorem above_not_mem_of_mem_directories {names : List String} {found : List (List String)}
    (listed : d.inDirectory p d.directoriesAt = .ok found) (mem : names ∈ found) : DiskPath.above ∉ names := by
  rcases inDirectory_eq_ok_iff.1 listed with ⟨-, rfl⟩ | ⟨_, _, -, -, rfl⟩
  · cases mem
  · rcases mem_directoriesAt_iff.1 mem with rfl | ⟨-, plain, -⟩
    · exact List.not_mem_nil
    · exact plain

theorem above_not_mem_of_mem_picked {keep : String → DiskNode → Bool} {names : List String}
    {found : List (List String)} (listed : d.inDirectory p (d.pickAt keep) = .ok found) (mem : names ∈ found) :
    DiskPath.above ∉ names := by
  rcases inDirectory_eq_ok_iff.1 listed with ⟨-, rfl⟩ | ⟨_, _, -, -, rfl⟩
  · cases mem
  · obtain ⟨name, node, rfl, other, -⟩ := mem_pickAt_iff.1 mem
    rw [List.mem_singleton]
    exact Ne.symm other

/-! ## Two disks -/

/-- Nothing that lies below one of two directories lies in the other, if neither lies in the other. -/
theorem not_isWithin_of_apart {root : List String} (outside : DiskPath.isInside place root = false)
    (around : DiskPath.isInside root place = false) (below : DiskPath.isInside root other = true) :
    isWithin place other = false := by
  rw [Bool.eq_false_iff]
  intro inside
  have inside := (Bool.and_eq_true_iff.1 inside).1
  rcases List.prefix_or_prefix_of_prefix (List.isPrefixOf_iff_prefix.1 below)
    (List.isPrefixOf_iff_prefix.1 inside) with short | long
  · exact Bool.eq_false_iff.1 around (List.isPrefixOf_iff_prefix.2 short)
  · exact Bool.eq_false_iff.1 outside (List.isPrefixOf_iff_prefix.2 long)

namespace AlikeBut

/-- Names lead to the same place or fail for the same reason, or in both disks they lead past something that
is no directory. -/
theorem walk (h : AlikeBut place d d') (names : List String) :
    d'.walk start names = d.walk start names
      ∨ ∃ reason reason', d.walk start names = .error reason ∧ d'.walk start names = .error reason'
        ∧ (failure p reason).isAbsence ∧ (failure p reason').isAbsence := by
  induction names generalizing start with
  | nil => exact .inl rfl
  | cons name rest ih =>
    cases inside : isWithin place start with
    | true =>
      obtain ⟨reason, failed, absence⟩ := walk_within (p := p) h.flat inside name rest
      obtain ⟨reason', failed', absence'⟩ := walk_within (p := p) h.flat' inside name rest
      exact .inr ⟨reason, reason', failed, failed', absence, absence'⟩
    | false =>
      rw [Disk.walk, Disk.walk, node?_of_besides h.besides inside]
      split
      · exact .inl rfl
      · exact .inl rfl
      · split
        · exact ih
        · split
          · exact .inl rfl
          · exact ih

theorem leadsTo (h : AlikeBut place d d') (p : DiskPath) :
    d'.place p = d.place p
      ∨ ∃ reason reason', d.place p = .error reason ∧ d'.place p = .error reason'
        ∧ (failure p reason).isAbsence ∧ (failure p reason').isAbsence := by
  unfold Disk.place
  rw [h.working]
  split
  · exact .inl rfl
  · exact h.walk p.names

/-- A path that leads outside of the directory denotes the same, unless it denotes nothing in both disks. -/
theorem find (h : AlikeBut place d d') (outside : isWithin place (p.resolve d.working) = false) :
    d'.find p = d.find p
      ∨ ∃ fault fault', d.find p = .error fault ∧ d'.find p = .error fault' ∧ fault.isAbsence ∧ fault'.isAbsence := by
  rcases h.leadsTo p with same | ⟨reason, reason', failed, failed', absence, absence'⟩
  · refine .inl ?_
    have found_at : d'.locate p = d.locate p := congrArg (·.mapError (failure p)) same
    unfold Disk.find
    rw [found_at]
    refine bind_congr_of_ok fun found located => ?_
    rw [← eq_resolve_of_locate located] at outside
    rw [node?_of_besides h.besides outside]
  · refine .inr ⟨failure p reason, failure p reason', ?_, ?_, absence, absence'⟩
    · unfold Disk.find locate
      rw [failed]
      rfl
    · unfold Disk.find locate
      rw [failed']
      rfl

theorem find? (h : AlikeBut place d d') (outside : isWithin place (p.resolve d.working) = false) :
    d'.find? p = d.find? p := by
  unfold Disk.find?
  rcases h.find outside with same | ⟨fault, fault', failed, failed', absence, absence'⟩
  · rw [same]
  · rw [failed, failed']
    dsimp only
    rw [if_pos absence, if_pos absence']

theorem isFile (h : AlikeBut place d d') (outside : isWithin place (p.resolve d.working) = false) :
    d'.isFile p = d.isFile p := by
  rw [Disk.isFile, h.find? outside, Disk.isFile]

theorem isDirectory (h : AlikeBut place d d') (outside : isWithin place (p.resolve d.working) = false) :
    d'.isDirectory p = d.isDirectory p := by
  rw [Disk.isDirectory, h.find? outside, Disk.isDirectory]

/-- What a path denotes that denotes something. -/
theorem find_of_ok {node : DiskNode} (h : AlikeBut place d d')
    (outside : isWithin place (p.resolve d.working) = false) (found : d.find p = .ok node) :
    d'.find p = .ok node := by
  rcases h.find outside with same | ⟨fault, -, failed, -⟩
  · exact same.trans found
  · rw [found] at failed
    cases failed

/-- What is listed for a directory outside of the one that the disks differ in. -/
theorem inDirectory {α : Type} {list list' : List String → List α} (h : AlikeBut place d d')
    (outside : isWithin place (p.resolve d.working) = false)
    (same : list' (p.resolve d.working) = list (p.resolve d.working)) : d'.inDirectory p list' = d.inDirectory p list := by
  unfold Disk.inDirectory
  rw [h.isDirectory outside]
  refine bind_congr_of_ok fun there is => ?_
  split
  · next yes =>
    obtain ⟨found, t, located, -⟩ := isDirectory_eq_ok_true_iff.1 (yes ▸ is)
    have located' : d'.locate p = .ok found := by
      rcases h.leadsTo p with unchanged | ⟨reason, -, failed, -⟩
      · exact locate_eq_ok_iff.2 (unchanged.trans (locate_eq_ok_iff.1 located))
      · cases (locate_eq_ok_iff.1 located).symm.trans failed
    rw [located, located', eq_resolve_of_locate located]
    exact congrArg Except.ok same
  · rfl

/-! ### Files that are selected

Starting from a directory that has nothing to do with the one that the disks differ in, a search for the files that fit a
pattern does not get there, unless the pattern leads upwards. -/

section Selection

variable {root names : List String} (h : AlikeBut place d d') (outside : DiskPath.isInside place root = false)
  (around : DiskPath.isInside root place = false)
include outside around

theorem not_isWithin_append (names : List String) : isWithin place (root ++ names) = false :=
  not_isWithin_of_apart outside around (List.isPrefixOf_iff_prefix.2 (List.prefix_append _ _))

include h

theorem namesAt (names : List String) : d'.namesAt (root ++ names) = d.namesAt (root ++ names) := by
  unfold Disk.namesAt
  dsimp only
  rw [filterMap_of_besides h.besides fun entry inside => if_neg fun parent => ?_]
  cases last : entry.1.getLast? with
  | none =>
    rw [List.getLast?_eq_none_iff.1 last] at inside
    exact absurd rfl (ne_nil_of_isWithin inside)
  | some name =>
    have whole := List.dropLast_append_getLast? name last
    rw [parent, List.append_assoc] at whole
    rw [← whole, not_isWithin_append outside around] at inside
    cases inside

theorem pickAt (keep : String → DiskNode → Bool) (names : List String) :
    d'.pickAt keep (root ++ names) = d.pickAt keep (root ++ names) := by
  unfold Disk.pickAt
  rw [h.namesAt outside around, List.filter_congr fun name _ => ?_]
  rw [List.append_assoc, node?_of_besides h.besides (not_isWithin_append outside around _)]

theorem directoriesAt (names : List String) :
    d'.directoriesAt (root ++ names) = d.directoriesAt (root ++ names) := by
  unfold Disk.directoriesAt
  refine congrArg ([] :: ·) (filterMap_of_besides h.besides fun entry inside => if_neg fun counted => ?_)
  have below : DiskPath.isInside (root ++ names) entry.1 = true := by
    simp only [Bool.and_eq_true] at counted
    exact counted.1.1.2
  have below : DiskPath.isInside root entry.1 = true :=
    List.isPrefixOf_iff_prefix.2 ((List.prefix_append _ _).trans (List.isPrefixOf_iff_prefix.1 below))
  rw [not_isWithin_of_apart outside around below] at inside
  cases inside

end Selection

/-- From a directory that has nothing to do with the one that the disks differ in, the same files are selected. -/
theorem selectParts {root : DiskPath} (h : AlikeBut place d d')
    (outside : DiskPath.isInside place (root.resolve d.working) = false)
    (around : DiskPath.isInside (root.resolve d.working) place = false) (only : Bool) {parts : List PatternPart}
    {names : List String} (down : .name DiskPath.above ∉ parts) (plain : DiskPath.above ∉ names) :
    d'.selectParts root only parts names = d.selectParts root only parts names := by
  have apart {names : List String} (plain : DiskPath.above ∉ names) :
      isWithin place ((root.below names).resolve d.working) = false := by
    rw [DiskPath.resolve_below root plain]
    exact not_isWithin_append outside around names
  have later {names more : List String} (plain : DiskPath.above ∉ names) (plain' : DiskPath.above ∉ more) :
      DiskPath.above ∉ names ++ more := by
    rw [List.mem_append, not_or]
    exact ⟨plain, plain'⟩
  induction parts generalizing names with
  | nil => rw [Disk.selectParts, Disk.selectParts, h.isFile (apart plain)]
  | cons part parts ih =>
    obtain ⟨first, deeper⟩ := not_or.1 (mt List.mem_cons.2 down)
    cases part with
    | directories =>
      rw [Disk.selectParts, Disk.selectParts, h.inDirectory (apart plain)]
      · refine bind_congr_of_ok fun directories listed => gather_congr fun more mem => ?_
        have plain' := above_not_mem_of_mem_directories listed mem
        rw [ih deeper (later plain plain'), Disk.names, h.inDirectory (apart (later plain plain'))]
        · rfl
        · rw [DiskPath.resolve_below root (later plain plain')]
          exact h.namesAt outside around _
      · rw [DiskPath.resolve_below root plain]
        exact h.directoriesAt outside around names
    | names glyphs =>
      rw [Disk.selectParts, Disk.selectParts, h.inDirectory (apart plain)]
      · refine bind_congr_of_ok fun entries listed => gather_congr fun more mem => ?_
        rw [ih deeper (later plain (above_not_mem_of_mem_picked listed mem))]
      · rw [DiskPath.resolve_below root plain]
        exact h.pickAt outside around _ names
    | name name =>
      have plain' : DiskPath.above ∉ [name] := by
        rw [List.mem_singleton]
        rintro rfl
        exact first rfl
      rw [Disk.selectParts, Disk.selectParts, h.find? (apart (later plain plain')), ih deeper (later plain plain')]

theorem select {root : DiskPath} {pattern : Pattern} (h : AlikeBut place d d')
    (outside : DiskPath.isInside place (root.resolve d.working) = false)
    (around : DiskPath.isInside (root.resolve d.working) place = false) (down : .name DiskPath.above ∉ pattern.parts) :
    d'.select root pattern = d.select root pattern :=
  h.selectParts outside around _ (by simpa using down) (List.not_mem_nil)

end AlikeBut

end Stencil.Disk
