import Stencil.Proofs.Disk.Patterns
import Stencil.Proofs.Disk.Trees

/-!
# Files that are selected

A search for the files that fit a pattern goes down from a directory part by part. On a tree of files it finds those to
which names lead that the parts fit, and no others (`Disk.mem_select_iff`). It asks for paths on its way, and it comes to
no end only where one of these is too long (`Disk.exists_of_select_eq_error`).
-/

namespace Stencil.Disk

open DiskPath

variable {d : Disk} {root : DiskPath} {place names : List String} {parts : List PatternPart} {only : Bool}
  {fault : DiskFault} {found : List (List String)}

/-! ## Where a search ends -/

theorem exists_of_gather_eq_error {search : List String → Except DiskFault (List (List String))}
    {starts : List (List String)} (h : gather search starts = .error fault) :
    ∃ names ∈ starts, search names = .error fault := by
  induction starts with
  | nil => cases h
  | cons names rest ih =>
    rw [gather, bind_eq_error_iff] at h
    rcases h with first | ⟨_, -, h⟩
    · exact ⟨names, List.mem_cons_self, first⟩
    · rcases bind_eq_error_iff.1 h with later | ⟨_, -, h⟩
      · obtain ⟨names, mem, failed⟩ := ih later
        exact ⟨names, List.mem_cons_of_mem _ mem, failed⟩
      · cases h

/-- The path leads on from the one of a directory, and it is too long, or has too long a name, for the disk to say what is
there. -/
structure IsTooLongBelow (d : Disk) (root p : DiskPath) : Prop where
  below : ∃ names, p = root.below names
  long : d.place p = .error .nameTooLong

theorem exists_of_selectParts_eq_error (h : d.selectParts root only parts names = .error fault) :
    ∃ p, d.IsTooLongBelow root p ∧ fault = failure p .nameTooLong := by
  have tooLong {names : List String}
      (failed : d.place (root.below names) = .error .nameTooLong ∧ fault = failure (root.below names) .nameTooLong) :
      ∃ p, d.IsTooLongBelow root p ∧ fault = failure p .nameTooLong :=
    ⟨_, ⟨⟨names, rfl⟩, failed.1⟩, failed.2⟩
  induction parts generalizing names with
  | nil =>
    rcases bind_eq_error_iff.1 h with asked | ⟨there, -, h⟩
    · exact tooLong (isFile_eq_error_iff.1 asked)
    · split at h <;> cases h
  | cons part parts ih =>
    cases part with
    | directories =>
      rcases bind_eq_error_iff.1 h with listed | ⟨_, -, h⟩
      · exact tooLong (inDirectory_eq_error_iff.1 listed)
      · obtain ⟨more, -, h⟩ := exists_of_gather_eq_error h
        rcases bind_eq_error_iff.1 h with later | ⟨_, -, h⟩
        · exact ih later
        · rcases bind_eq_error_iff.1 h with listed | ⟨_, -, h⟩
          · exact tooLong (inDirectory_eq_error_iff.1 listed)
          · cases h
    | names glyphs =>
      rcases bind_eq_error_iff.1 h with listed | ⟨_, -, h⟩
      · exact tooLong (inDirectory_eq_error_iff.1 listed)
      · obtain ⟨more, -, h⟩ := exists_of_gather_eq_error h
        exact ih h
    | name name =>
      rcases bind_eq_error_iff.1 h with asked | ⟨_, -, h⟩
      · exact tooLong (find?_eq_error_iff.1 asked)
      · split at h
        · exact ih h
        · cases h

/-- A search fails only because of a path at or below its directory that is too long. -/
theorem exists_of_select_eq_error {pattern : Pattern} (h : d.select root pattern = .error fault) :
    ∃ p, d.IsTooLongBelow root p ∧ fault = failure p .nameTooLong :=
  exists_of_selectParts_eq_error h

/-! ## What a search finds -/

theorem mem_of_gather {search : List String → Except DiskFault (List (List String))} {starts : List (List String)}
    (h : gather search starts = .ok found) (file : List String) :
    file ∈ found ↔ ∃ names ∈ starts, ∃ more, search names = .ok more ∧ file ∈ more := by
  induction starts generalizing found with
  | nil =>
    obtain rfl := Except.ok.inj h
    simp
  | cons names rest ih =>
    obtain ⟨more, first, h⟩ := bind_eq_ok_iff.1 h
    obtain ⟨others, later, h⟩ := bind_eq_ok_iff.1 h
    obtain rfl := Except.ok.inj h
    rw [List.mem_append, ih later]
    simp [first]

theorem exists_of_gather {search : List String → Except DiskFault (List (List String))} {starts : List (List String)}
    (h : gather search starts = .ok found) {names : List String} (mem : names ∈ starts) :
    ∃ more, search names = .ok more := by
  induction starts generalizing found with
  | nil => cases mem
  | cons first rest ih =>
    obtain ⟨more, begun, h⟩ := bind_eq_ok_iff.1 h
    obtain ⟨others, later, -⟩ := bind_eq_ok_iff.1 h
    rcases List.mem_cons.1 mem with rfl | mem
    · exact ⟨more, begun⟩
    · exact ih later mem

/-- The names lead to a file from the place. -/
def IsFileAt (d : Disk) (place names : List String) : Prop :=
  ∃ content t, d.node? (place ++ names) = some (.file content t)

/-! ### Steps on a tree of files -/

namespace IsTree

variable {node : DiskNode} {more back : List String} {name : String} (tree : d.IsTree)
  (located : d.locate root = .ok place) (here : d.node? (place ++ names) = some node)
include tree

/-- What stands in the way of a node is a directory. -/
theorem isFile_eq_false {other : DiskNode} (here : d.node? (place ++ names) = some node)
    (there : d.node? (place ++ (names ++ more)) = some other) (below : more ≠ []) : node.isFile = false := by
  rw [← List.append_assoc] at there
  obtain ⟨t, directory⟩ := tree.directory_above there below
  obtain rfl := Option.some.inj (here.symm.trans directory)
  rfl

/-- Something stands on the way to a file. -/
theorem exists_above (file : d.IsFileAt place (names ++ name :: back)) :
    ∃ other, d.node? (place ++ (names ++ [name])) = some other := by
  obtain ⟨content, t, there⟩ := file
  rw [List.append_cons] at there
  by_cases last : back = []
  · rw [last, List.append_nil] at there
    exact ⟨_, there⟩
  · rw [← List.append_assoc] at there
    obtain ⟨t', directory⟩ := tree.directory_above there last
    exact ⟨_, directory⟩

include located here

/-- What is listed for a node below a directory is what is listed for its place, if it is a directory itself. -/
theorem mem_inDirectory_iff {α : Type} {list : List String → List α} {listed : List α}
    (h : d.inDirectory (root.below names) list = .ok listed) (x : α) :
    x ∈ listed ↔ node.isFile = false ∧ x ∈ list (place ++ names) := by
  have short : d.place (root.below names) ≠ .error .nameTooLong := by
    intro long
    cases (inDirectory_eq_error_iff.2 ⟨long, rfl⟩).symm.trans h
  have at_ := tree.locate_below located here short
  rcases inDirectory_eq_ok_iff.1 h with ⟨none, rfl⟩ | ⟨other, t, located', directory, rfl⟩
  · cases node with
    | file content t => simp [DiskNode.isFile]
    | directory t => cases none.symm.trans (isDirectory_eq_ok_true_iff.2 ⟨_, t, at_, here⟩)
  · obtain rfl := Except.ok.inj (at_.symm.trans located')
    obtain rfl := Option.some.inj (here.symm.trans directory)
    simp [DiskNode.isFile]

/-- Going down ends at the directories. -/
theorem mem_directories_iff {directories : List (List String)}
    (listed : d.inDirectory (root.below names) d.directoriesAt = .ok directories) :
    more ∈ directories ↔ ∃ t, d.node? (place ++ (names ++ more)) = some (.directory t) := by
  rw [tree.mem_inDirectory_iff located here listed, mem_directoriesAt_iff]
  constructor
  · rintro ⟨directory, rfl | ⟨-, -, t, mem⟩⟩
    · cases node with
      | file content t => cases directory
      | directory t => exact ⟨t, by rwa [List.append_nil]⟩
    · rw [← List.append_assoc]
      exact ⟨t, tree.once _ mem⟩
  · rintro ⟨t, there⟩
    by_cases still : more = []
    · subst still
      rw [List.append_nil] at there
      obtain rfl := Option.some.inj (here.symm.trans there)
      exact ⟨rfl, .inl rfl⟩
    · refine ⟨tree.isFile_eq_false here there still, .inr ⟨still, ?_, t, ?_⟩⟩
      · exact fun mem => tree.above_not_mem there (List.mem_append_right _ mem)
      · rw [← List.append_assoc] at there
        exact mem_nodes_of_node? there (by simp [still])

/-- Picking ends at the nodes that are picked. -/
theorem mem_picked_iff {keep : String → DiskNode → Bool} {picked : List (List String)}
    (listed : d.inDirectory (root.below names) (d.pickAt keep) = .ok picked) :
    more ∈ picked ↔ ∃ name other, more = [name] ∧ d.node? (place ++ (names ++ [name])) = some other
      ∧ keep name other = true := by
  rw [tree.mem_inDirectory_iff located here listed, mem_pickAt_iff]
  constructor
  · rintro ⟨-, name, other, rfl, -, there, kept⟩
    rw [List.append_assoc] at there
    exact ⟨name, other, rfl, there, kept⟩
  · rintro ⟨name, other, rfl, there, kept⟩
    refine ⟨tree.isFile_eq_false here there (List.cons_ne_nil _ _), name, other, rfl, ?_, ?_, kept⟩
    · rintro rfl
      exact tree.above_not_mem there (by simp)
    · rwa [List.append_assoc]

/-- Looking a name up ends at the node of that name. -/
theorem find?_below {answer : Option DiskNode} (other : name ≠ DiskPath.above)
    (asked : d.find? (root.below (names ++ [name])) = .ok answer) : answer = d.node? (place ++ (names ++ [name])) := by
  have plain : DiskPath.above ∉ names ++ [name] := by
    rw [List.mem_append, not_or, List.mem_singleton]
    exact ⟨tree.above_not_mem here, Ne.symm other⟩
  cases answer with
  | some found =>
    obtain ⟨other, located', there⟩ := find_eq_ok_iff.1 (find?_eq_some_iff.1 asked)
    rw [← eq_append_of_locate_below located plain located', there]
  | none =>
    cases there : d.node? (place ++ (names ++ [name])) with
    | none => rfl
    | some found =>
      have short : d.place (root.below (names ++ [name])) ≠ .error .nameTooLong := by
        intro long
        cases (find?_eq_error_iff.2 ⟨long, rfl⟩).symm.trans asked
      have at_ := tree.locate_below located there short
      cases asked.symm.trans (find?_eq_some_iff.2 (find_eq_ok_iff.2 ⟨_, at_, there⟩))

end IsTree

/-! ### Parts of a pattern -/

/-- From every node the parts find the files below it that they fit. -/
def Finds (d : Disk) (root : DiskPath) (place : List String) (parts : List PatternPart) : Prop :=
  ∀ ⦃names : List String⦄ ⦃node : DiskNode⦄ ⦃found : List (List String)⦄,
    d.node? (place ++ names) = some node → d.selectParts root false parts names = .ok found →
      ∀ file, file ∈ found ↔ ∃ back, file = names ++ back ∧ Pattern.Fits parts back ∧ d.IsFileAt place file

namespace Finds

open Pattern

variable {name : String} {glyphs : List Glyph}

/-- A part that leads to several nodes finds what the later parts find from each of them. -/
theorem mem_gathered_iff (later : d.Finds root place parts)
    {search : List String → Except DiskFault (List (List String))} {starts : List (List String)}
    (h : gather search starts = .ok found)
    (leads : ∀ more ∈ starts, ∃ node, d.node? (place ++ (names ++ more)) = some node)
    (same : ∀ more files, search more = .ok files → d.selectParts root false parts (names ++ more) = .ok files)
    (file : List String) :
    file ∈ found ↔ ∃ more ∈ starts, ∃ back, file = names ++ more ++ back ∧ Fits parts back ∧ d.IsFileAt place file := by
  rw [mem_of_gather h]
  refine exists_congr fun more => and_congr_right fun mem => ?_
  obtain ⟨files, found⟩ := exists_of_gather h mem
  obtain ⟨node, there⟩ := leads more mem
  rw [← later there (same more files found)]
  simp [found]

variable (tree : d.IsTree)
include tree

/-- A file is where no later part is to fit. -/
theorem not_leadsOn {other : DiskNode} {back : List String} (there : d.node? (place ++ (names ++ [name])) = some other)
    (fits : Fits parts back) (file : d.IsFileAt place (names ++ name :: back)) :
    !(decide (parts ≠ []) && other.isFile) := by
  cases parts with
  | nil => rfl
  | cons part parts =>
    obtain ⟨content, t, file⟩ := file
    rw [List.append_cons] at file
    simp [tree.isFile_eq_false there file fits.ne_nil]

variable (located : d.locate root = .ok place)
include located

/-- No part is left. -/
theorem of_none : d.Finds root place [] := by
  intro names node found here h file
  obtain ⟨there, asked, h⟩ := bind_eq_ok_iff.1 h
  have short : d.place (root.below names) ≠ .error .nameTooLong := by
    intro long
    cases (isFile_eq_error_iff.2 ⟨long, rfl⟩).symm.trans asked
  have at_ := tree.locate_below located here short
  have kind : there = true ↔ d.IsFileAt place names := by
    have whether : there = true ↔ d.isFile (root.below names) = .ok true := by
      rw [asked, Except.ok.injEq]
    rw [whether, isFile_eq_ok_true_iff, at_]
    simp [IsFileAt]
  split at h
  · next yes =>
    obtain rfl := Except.ok.inj h
    rw [List.mem_singleton]
    constructor
    · rintro rfl
      exact ⟨[], (List.append_nil _).symm, .nil, kind.1 yes⟩
    · rintro ⟨_, rfl, ⟨⟩, -⟩
      exact List.append_nil _
  · next no =>
    obtain rfl := Except.ok.inj h
    refine ⟨nofun, ?_⟩
    rintro ⟨_, rfl, ⟨⟩, is⟩
    rw [List.append_nil] at is
    exact absurd (kind.2 is) no

/-- Any number of directories, in front of more parts. -/
theorem of_directories (later : d.Finds root place parts) : d.Finds root place (.directories :: parts) := by
  intro names node found here h file
  obtain ⟨directories, listed, h⟩ := bind_eq_ok_iff.1 h
  have mem_iff {more : List String} :
      more ∈ directories ↔ ∃ t, d.node? (place ++ (names ++ more)) = some (.directory t) :=
    tree.mem_directories_iff located here listed
  have same (more : List String) (files : List (List String)) (done : (do
      let found ← d.selectParts root false parts (names ++ more)
      let _ ← d.names (root.below (names ++ more))
      .ok found) = .ok files) : d.selectParts root false parts (names ++ more) = .ok files := by
    obtain ⟨files', selected, done⟩ := bind_eq_ok_iff.1 done
    obtain ⟨_, -, done⟩ := bind_eq_ok_iff.1 done
    rw [selected, Except.ok.inj done]
  rw [later.mem_gathered_iff h (fun more mem => (mem_iff.1 mem).imp' _ fun _ there => there) same]
  constructor
  · rintro ⟨more, mem, back, rfl, fits, file⟩
    refine ⟨more ++ back, List.append_assoc _ _ _, ?_, file⟩
    cases parts with
    | cons part parts => exact .directories more fits
    | nil =>
      obtain ⟨t, there⟩ := mem_iff.1 mem
      obtain ⟨content, t', file⟩ := file
      cases fits
      rw [List.append_nil, there] at file
      cases file
  · rintro ⟨_, rfl, fits, content, t, file⟩
    cases fits with
    | directories front fits =>
      obtain ⟨t', there⟩ := tree.directory_above
        (show d.node? (place ++ (names ++ front) ++ _) = _ by simpa using file) fits.ne_nil
      exact ⟨front, mem_iff.2 ⟨t', there⟩, _, (List.append_assoc _ _ _).symm, fits, content, t, file⟩

/-- Signs for one name. -/
theorem of_names (later : d.Finds root place parts) : d.Finds root place (.names glyphs :: parts) := by
  intro names node found here h file
  obtain ⟨picked, listed, h⟩ := bind_eq_ok_iff.1 h
  have mem_iff {more : List String} : more ∈ picked ↔ _ := tree.mem_picked_iff located here listed
  have leads (more : List String) (mem : more ∈ picked) : ∃ node, d.node? (place ++ (names ++ more)) = some node := by
    obtain ⟨name, other, rfl, there, -⟩ := mem_iff.1 mem
    exact ⟨other, there⟩
  rw [later.mem_gathered_iff h leads fun _ _ done => done]
  constructor
  · rintro ⟨more, mem, back, rfl, fits, file⟩
    obtain ⟨name, other, rfl, -, kept⟩ := mem_iff.1 mem
    exact ⟨name :: back, List.append_assoc _ _ _, .names (Bool.and_eq_true_iff.1 kept).2 fits, file⟩
  · rintro ⟨_, rfl, fits, file⟩
    obtain ⟨name, back, rfl, accepted, fits⟩ := fits_names_iff.1 fits
    obtain ⟨other, there⟩ := tree.exists_above file
    refine ⟨[name], mem_iff.2 ⟨name, other, rfl, there, ?_⟩, back, by simp, fits, file⟩
    rw [Bool.or_false, not_leadsOn tree there fits file, accepted]
    rfl

/-- A name that stands for itself. -/
theorem of_name (later : d.Finds root place parts) (other : name ≠ DiskPath.above) :
    d.Finds root place (.name name :: parts) := by
  intro names node found here h file
  obtain ⟨answer, asked, h⟩ := bind_eq_ok_iff.1 h
  obtain rfl := tree.find?_below located here other asked
  split at h
  · next goesOn =>
    obtain ⟨node, there, -⟩ := Option.any_eq_true .. |>.1 goesOn
    rw [later there h]
    constructor
    · rintro ⟨back, rfl, fits, file⟩
      exact ⟨name :: back, List.append_assoc _ _ _, .name name fits, file⟩
    · rintro ⟨_, rfl, ⟨⟩, file⟩
      exact ⟨_, List.append_cons _ _ _, ‹_›, file⟩
  · next stops =>
    obtain rfl := Except.ok.inj h
    refine ⟨nofun, ?_⟩
    rintro ⟨_, rfl, fits, file⟩
    cases fits with
    | name _ fits =>
      obtain ⟨node, there⟩ := tree.exists_above file
      refine absurd (Option.any_eq_true .. |>.2 ⟨node, there, ?_⟩) stops
      rw [Bool.or_false, not_leadsOn tree there fits file]

end Finds

/-- On a tree of files all parts find what they fit, if none of them leads up. -/
theorem finds (tree : d.IsTree) (located : d.locate root = .ok place) (down : .name DiskPath.above ∉ parts) :
    d.Finds root place parts := by
  induction parts with
  | nil => exact Finds.of_none tree located
  | cons part parts ih =>
    obtain ⟨first, deeper⟩ := not_or.1 (mt List.mem_cons.2 down)
    have later := ih deeper
    cases part with
    | directories => exact later.of_directories tree located
    | names glyphs => exact later.of_names tree located
    | name name => exact later.of_name tree located fun same => first (same ▸ rfl)

/-- The files that fit a pattern are those to which names lead from the directory that the parts of the pattern fit. -/
theorem mem_select_iff {pattern : Pattern} {t : Binary64} (tree : d.IsTree) (located : d.locate root = .ok place)
    (here : d.node? place = some (.directory t)) (files : pattern.directory = false)
    (down : .name DiskPath.above ∉ pattern.parts) (h : d.select root pattern = .ok found) :
    names ∈ found ↔ Pattern.Fits (.directories :: pattern.parts) names ∧ d.IsFileAt place names := by
  rw [select, files] at h
  rw [finds tree located (by simpa using down) (by rwa [List.append_nil]) h]
  simp

end Stencil.Disk
