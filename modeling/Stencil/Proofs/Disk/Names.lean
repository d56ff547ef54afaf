import Mathlib.Data.List.Infix
import Stencil.Disk.Selection
import Stencil.Proofs.Cache.Entries
import Stencil.Proofs.Render.Progress

/-!
# Names between slashes

A path is written as its names with slashes between them. Names that files can have are read back from that
(`DiskPath.read_joined`), and they lead down from wherever they are followed (`DiskPath.resolve_join`). Where a text is
carried on by another one, the last name of the one and the first name of the other grow together
(`DiskPath.splitSlashes_append`).
-/

namespace Stencil.DiskPath

/-- Can a file or a directory have the name? -/
def IsFileName (name : String) : Prop :=
  name ≠ "" ∧ name ≠ "." ∧ name ≠ above ∧ '/' ∉ name.toList

instance (name : String) : Decidable (IsFileName name) :=
  inferInstanceAs (Decidable (_ ∧ _))

/-- A name that a file can have remains one if it goes on. -/
theorem IsFileName.append {name more : String} (h : IsFileName name) (plain : '/' ∉ more.toList) :
    IsFileName (name ++ more) := by
  obtain ⟨nonempty, notDot, notAbove, apart⟩ := h
  -- Both names that are left out begin two dots.
  have other : ¬(name ++ more).toList <+: ['.', '.'] := by
    intro dots
    rw [String.toList_append] at dots
    have short : name.toList ∈ ['.', '.'].inits := (List.mem_inits _ _).2 ((List.prefix_append _ _).trans dots)
    have : name.toList = "".toList ∨ name.toList = ".".toList ∨ name.toList = above.toList := by
      simpa [List.inits, above] using short
    simp only [String.toList_inj] at this
    rcases this with same | same | same
    · exact nonempty same
    · exact notDot same
    · exact notAbove same
  refine ⟨fun same => other ?_, fun same => other ?_, fun same => other ?_, ?_⟩
  · simp [same]
  · simp [same]
  · simp [same, above]
  · rw [String.toList_append, List.mem_append, not_or]
    exact ⟨apart, plain⟩

/-- The names with slashes between them. -/
def joined (names : List String) : String :=
  "/".intercalate names

variable {names front back : List String} {name last first : String}

theorem toList_joined (names : List String) : (joined names).toList = ['/'].intercalate (names.map String.toList) :=
  String.toList_intercalate

theorem joined_cons (name : String) (some : names ≠ []) : joined (name :: names) = name ++ "/" ++ joined names := by
  apply String.toList_inj.1
  rw [toList_joined, List.map_cons, List.intercalate_cons_of_ne_nil (by simpa using some), ← toList_joined]
  simp

theorem joined_singleton (name : String) : joined [name] = name := by
  apply String.toList_inj.1
  rw [toList_joined]
  simp

/-- Where two rows of names meet without a slash, the names between which they meet grow together. -/
theorem joined_append (front : List String) (last first : String) (back : List String) :
    joined (front ++ (last ++ first) :: back) = joined (front ++ [last]) ++ joined (first :: back) := by
  induction front with
  | nil =>
    rw [List.nil_append, List.nil_append, joined_singleton]
    by_cases alone : back = []
    · rw [alone, joined_singleton, joined_singleton]
    · rw [joined_cons _ alone, joined_cons _ alone]
      simp only [String.append_assoc]
  | cons name front ih =>
    rw [List.cons_append, List.cons_append, joined_cons _ (by simp), joined_cons _ (by simp), ih]
    simp only [String.append_assoc]

/-! ## Splitting -/

theorem joined_splitSlashes (s : String) : joined (splitSlashes s.toList) = s := by
  apply String.toList_inj.1
  have parts : (splitSlashes s.toList).map String.toList = s.toList.splitOn '/' := by
    unfold splitSlashes
    rw [List.map_map]
    exact List.map_id'' (fun _ => String.toList_ofList) _
  rw [toList_joined, parts]
  exact List.intercalate_splitOn '/'

theorem splitSlashes_joined (plain : ∀ name ∈ names, '/' ∉ name.toList) (some : names ≠ []) :
    splitSlashes (joined names).toList = names := by
  rw [splitSlashes, toList_joined, List.splitOn_intercalate '/' (List.forall_mem_map.2 plain) (by simpa using some),
    List.map_map]
  exact List.map_id'' (fun _ => String.ofList_toList) _

theorem splitSlashes_ne_nil (cs : List Char) : splitSlashes cs ≠ [] := by
  simp [splitSlashes]

theorem slash_not_mem_of_mem_splitSlashes {cs : List Char} (mem : name ∈ splitSlashes cs) : '/' ∉ name.toList := by
  obtain ⟨part, inside, rfl⟩ := List.mem_map.1 mem
  rw [String.toList_ofList]
  exact fun slash => (mem_of_mem_splitOn inside slash).2 rfl

theorem splitSlashes_append {s t : String} (hs : splitSlashes s.toList = front ++ [last])
    (ht : splitSlashes t.toList = first :: back) :
    splitSlashes (s ++ t).toList = front ++ (last ++ first) :: back := by
  have whole : s ++ t = joined (front ++ (last ++ first) :: back) := by
    rw [joined_append, ← hs, ← ht, joined_splitSlashes, joined_splitSlashes]
  rw [whole]
  refine splitSlashes_joined ?_ (by simp)
  have ofFirst : ∀ name ∈ front ++ [last], '/' ∉ name.toList := by
    intro name mem
    exact slash_not_mem_of_mem_splitSlashes (hs ▸ mem)
  have ofSecond : ∀ name ∈ first :: back, '/' ∉ name.toList := by
    intro name mem
    exact slash_not_mem_of_mem_splitSlashes (ht ▸ mem)
  intro name mem
  rcases List.mem_append.1 mem with early | late
  · exact ofFirst name (List.mem_append_left _ early)
  · rcases List.mem_cons.1 late with rfl | late
    · rw [String.toList_append, List.mem_append, not_or]
      exact ⟨ofFirst last (by simp), ofSecond first (by simp)⟩
    · exact ofSecond name (List.mem_cons_of_mem _ late)

/-! ## Reading -/

theorem readStart_of_ne_slash {cs : List Char} (other : cs.head? ≠ some '/') : readStart cs = .working := by
  unfold readStart
  cases cs with
  | nil => rfl
  | cons c rest =>
    have differs : c ≠ '/' := fun same => other (congrArg some same)
    simp [differs]

theorem slash_not_mem (named : ∀ name ∈ names, IsFileName name) : ∀ name ∈ names, '/' ∉ name.toList :=
  fun name mem => (named name mem).2.2.2

theorem above_not_mem (named : ∀ name ∈ names, IsFileName name) : above ∉ names :=
  fun mem => (named above mem).2.2.1 rfl

/-- A path of names that files can have does not begin with a slash. -/
theorem head?_joined_ne_slash (named : ∀ name ∈ names, IsFileName name) : (joined names).toList.head? ≠ some '/' := by
  cases names with
  | nil => simp [joined]
  | cons first rest =>
    obtain ⟨nonempty, -, -, plain⟩ := named first List.mem_cons_self
    obtain ⟨c, tail, chars⟩ := List.exists_cons_of_ne_nil (mt String.toList_eq_nil_iff.1 nonempty)
    have begins : (joined (first :: rest)).toList.head? = some c := by
      by_cases alone : rest = []
      · rw [alone, joined_singleton, chars]
        rfl
      · rw [joined_cons _ alone, String.toList_append, String.toList_append, chars]
        rfl
    rw [begins]
    rintro ⟨⟩
    exact plain (by simp [chars])

/-- Names that files can have, with slashes between them, are read as they are. -/
theorem read_joined (named : ∀ name ∈ names, IsFileName name) (some : names ≠ []) :
    read (joined names) = ⟨.working, names⟩ := by
  have split := splitSlashes_joined (slash_not_mem named) some
  have kept : readNames (joined names).toList = names := by
    rw [readNames, split, List.filter_eq_self]
    intro name mem
    exact decide_eq_true ⟨(named name mem).1, (named name mem).2.1⟩
  rw [read, kept, readStart_of_ne_slash (head?_joined_ne_slash named)]

variable {working : List String}

/-- Names that files can have lead down from where they are followed. -/
theorem resolve_join (root : DiskPath) (plain : above ∉ names) :
    (root.join ⟨.working, names⟩).resolve working = root.resolve working ++ names := by
  change (root.names ++ names).foldl step _ = _
  rw [List.foldl_append, foldl_step_eq_append plain]
  rfl

theorem resolve_below (root : DiskPath) (plain : above ∉ names) :
    (root.below names).resolve working = root.resolve working ++ names :=
  resolve_join root plain

theorem isInside_join (root : DiskPath) (plain : above ∉ names) :
    isInside (root.resolve working) ((root.join ⟨.working, names⟩).resolve working) = true := by
  rw [resolve_join root plain]
  simp [isInside]

end Stencil.DiskPath
