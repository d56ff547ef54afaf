import Mathlib.Data.List.Nodup
import Mathlib.Data.List.Perm.Subperm
import Stencil.Cache
import Stencil.Proofs.Disk.Places

/-!
# The entries of a cache on its disk

An entry is a file in the cache's directory whose name is made from a key. `Cache.resolve_pathFor` says where
it lies, and `Cache.resolve_temporaryPath` where the temporary file does from which it is made. The name of that
is the first one that is free (`Cache.freshName_spec`). Keys have 64 hexadecimal digits (`Cache.isKey_of_key`).
-/

namespace Stencil

/-- Is the character a hexadecimal digit? -/
def isHexDigit (c : Char) : Bool :=
  c.isDigit || ('a' ≤ c && c ≤ 'f') || ('A' ≤ c && c ≤ 'F')

theorem toNat_lt_of_isHexDigit {c : Char} (h : isHexDigit c = true) : c.toNat < 0x80 := by
  unfold isHexDigit at h
  rw [Bool.or_eq_true, Bool.or_eq_true, Bool.and_eq_true, Bool.and_eq_true, decide_eq_true_iff,
    decide_eq_true_iff, decide_eq_true_iff, decide_eq_true_iff] at h
  rcases h with (digit | ⟨-, low⟩) | ⟨-, low⟩
  · exact Nat.lt_of_le_of_lt (Char.isDigit_iff_toNat.1 digit).2 (by decide)
  · exact Nat.lt_of_le_of_lt (show c.toNat ≤ 'f'.toNat from low) (by decide)
  · exact Nat.lt_of_le_of_lt (show c.toNat ≤ 'F'.toNat from low) (by decide)

theorem isHexDigit_of_mem_hexDigits {width n : Nat} {c : Char} (h : c ∈ hexDigits width n) :
    isHexDigit c = true := by
  induction width generalizing n with
  | zero => exact absurd h List.not_mem_nil
  | succ width ih =>
    have digits : ∀ d < 16, isHexDigit (Nat.digitChar d) = true := by decide
    rw [hexDigits, List.mem_append, List.mem_singleton] at h
    rcases h with front | rfl
    · exact ih front
    · exact digits _ (Nat.mod_lt _ (by omega))

namespace DiskPath

variable {working place : List String} {p : DiskPath} {name : String}

theorem read_name (plain : '/' ∉ name.toList) (some : name ≠ "") (other : name ≠ ".") :
    DiskPath.read name = ⟨.working, [name]⟩ := by
  have start : readStart name.toList = .working := by
    unfold readStart
    cases chars : name.toList with
    | nil => rfl
    | cons c rest =>
      have differs : c ≠ '/' := by
        rintro rfl
        exact plain (by simp [chars])
      simp [differs]
  have one : splitSlashes name.toList = [name] := by
    unfold splitSlashes
    rw [List.splitOn_eq_singleton plain, List.map_singleton, String.ofList_toList]
  unfold DiskPath.read readNames
  rw [start, one]
  simp [some, other]

/-- The last part of a text between slashes takes in what is added to the text without a slash. -/
theorem exists_splitOn_append (front : List Char) {back : List Char} (plain : '/' ∉ back) :
    ∃ before last, (front ++ back).splitOn '/' = before ++ [last ++ back] := by
  induction front with
  | nil => exact ⟨[], [], List.splitOn_eq_singleton plain⟩
  | cons c front ih =>
    obtain ⟨before, last, same⟩ := ih
    rw [List.cons_append, List.splitOn_cons_eq_if_modifyHead, same]
    split
    · exact ⟨[] :: before, last, rfl⟩
    · cases before with
      | nil => exact ⟨[], c :: last, rfl⟩
      | cons first before => exact ⟨(c :: first) :: before, last, rfl⟩

theorem resolve_child (other : name ≠ above) : (p.child name).resolve working = p.resolve working ++ [name] := by
  unfold resolve child
  dsimp only
  rw [List.foldl_append]
  change step _ name = _
  rw [step, if_neg other]
  rfl

theorem foldl_step_eq_append {start names : List String} (plain : above ∉ names) :
    names.foldl step start = start ++ names := by
  induction names generalizing start with
  | nil => simp
  | cons first rest ih =>
    rw [List.mem_cons, not_or] at plain
    rw [List.foldl_cons, step, if_neg (Ne.symm plain.1), ih plain.2, List.append_assoc, List.singleton_append]

theorem resolve_ofPlace (plain : above ∉ place) : (ofPlace working place).resolve working = place := by
  unfold ofPlace
  split
  · next below =>
    obtain ⟨rest, rfl⟩ := List.isPrefixOf_iff_prefix.1 below
    rw [List.drop_left]
    exact foldl_step_eq_append fun mem => plain (List.mem_append_right _ mem)
  · exact (foldl_step_eq_append plain).trans (List.nil_append _)

theorem size_text_child (p : DiskPath) (name : String) :
    (p.child name).text.utf8ByteSize ≤ p.text.utf8ByteSize + 1 + name.utf8ByteSize := by
  have named : ¬((p.child name).start = .working ∧ (p.child name).names = []) := by simp [child]
  unfold text
  rw [if_neg named]
  change (startText p.start ++ "/".intercalate (p.names ++ [name])).utf8ByteSize ≤ _
  by_cases empty : p.names = []
  · rw [empty, List.nil_append, String.intercalate_singleton, String.utf8ByteSize_append]
    cases p.start <;> simp [startText, String.intercalate_nil]
  · rw [if_neg fun here => empty here.2, String.intercalate_append_of_ne_nil empty (by simp),
      String.intercalate_singleton, String.utf8ByteSize_append, String.utf8ByteSize_append,
      String.utf8ByteSize_append, String.utf8ByteSize_append]
    have slash : "/".utf8ByteSize = 1 := rfl
    omega

end DiskPath

namespace Cache

/-- The name of the entry for a key. -/
def entryName (key : String) : String :=
  entryBeginning ++ key ++ entryEnding

/-- The place of the entry for a key, in the directory at the given place. -/
def entryPlace (place : List String) (key : String) : List String :=
  place ++ [entryName key]

variable {c : Cache} {key : String} {place : List String}

theorem entryName_toList (key : String) :
    (entryName key).toList = entryBeginning.toList ++ key.toList ++ entryEnding.toList := by
  simp [entryName, String.toList_append]

theorem entryName_injective : Function.Injective entryName := by
  intro key key' same
  have chars := congrArg String.toList same
  rw [entryName_toList, entryName_toList, List.append_assoc, List.append_assoc] at chars
  have tails := List.append_cancel_left chars
  exact String.toList_injective (List.append_cancel_right tails)

theorem head?_entryName (key : String) : (entryName key).toList.head? = some 't' := by
  rw [entryName_toList]
  rfl

theorem ne_entryName {name : String} (first : name.toList.head? ≠ some 't') : name ≠ entryName key := by
  rintro rfl
  exact first (head?_entryName key)

theorem above_ne_entryName : entryName key ≠ DiskPath.above :=
  (ne_entryName (by decide)).symm

theorem pathFor_eq (plain : '/' ∉ key.toList) : c.pathFor key = c.directory.child (entryName key) := by
  have slashless : '/' ∉ (entryName key).toList := by
    rw [entryName_toList, List.mem_append, List.mem_append]
    rintro ((front | middle) | back)
    · exact absurd front (by decide)
    · exact plain middle
    · exact absurd back (by decide)
  have read := DiskPath.read_name slashless (ne_entryName (by decide)).symm (ne_entryName (by decide)).symm
  unfold pathFor
  rw [← entryName, read]
  rfl

theorem resolve_pathFor {working : List String} (plain : '/' ∉ key.toList) :
    (c.pathFor key).resolve working = entryPlace (c.directory.resolve working) key := by
  rw [pathFor_eq plain, DiskPath.resolve_child above_ne_entryName, entryPlace]

theorem ne_of_getLast? {s t : String} {c : Char} (last : s.toList.getLast? = some c)
    (other : t.toList.getLast? ≠ some c) : s ≠ t := by
  rintro rfl
  exact other last

theorem getLast?_entryEnding (stem : String) : (stem ++ entryEnding).toList.getLast? = some 'l' := by
  rw [String.toList_append, List.getLast?_append_of_ne_nil _ (by decide)]
  rfl

/-- A key as the engine makes them: 64 hexadecimal digits. -/
structure IsKey (key : String) : Prop where
  length : key.toList.length = 64
  digits : ∀ c ∈ key.toList, isHexDigit c = true

theorem isKey_ofList {cs : List Char} (length : cs.length = 64) (digits : ∀ c ∈ cs, isHexDigit c = true) :
    IsKey (String.ofList cs) := by
  rw [← String.toList_ofList (l := cs)] at length digits
  exact ⟨length, digits⟩

theorem isKey_ofText (s : String) : IsKey (Sha256.ofText s) := by
  refine isKey_ofList ?_ fun c mem => ?_
  · simp [length_hexDigits]
  · obtain ⟨w, -, mem⟩ := List.mem_flatMap.1 mem
    exact isHexDigit_of_mem_hexDigits mem

theorem isKey_of_key {path : String} {changed data : Value} {room : Nat}
    (h : Cache.key path changed data room = .ok key) : IsKey key := by
  unfold Cache.key at h
  split at h
  · cases h
  · split at h
    · cases h
    · rw [← Except.ok.inj h]
      exact isKey_ofText _

theorem IsKey.slash_not_mem (h : IsKey key) : '/' ∉ key.toList :=
  fun mem => absurd (h.digits _ mem) (by decide)

theorem slash_not_mem_key {path : String} {changed data : Value} {room : Nat}
    (h : Cache.key path changed data room = .ok key) : '/' ∉ key.toList :=
  (isKey_of_key h).slash_not_mem

theorem size_of_isHexDigit {cs : List Char} (digits : ∀ c ∈ cs, isHexDigit c = true) :
    (String.ofList cs).utf8ByteSize = cs.length := by
  induction cs with
  | nil => rfl
  | cons c rest ih =>
    have one : c.utf8Size = 1 := Char.utf8Size_eq_one_iff.2
      (UInt32.le_iff_toNat_le.2 (Nat.le_of_lt_succ (toNat_lt_of_isHexDigit (digits c List.mem_cons_self))))
    rw [String.ofList_cons, String.utf8ByteSize_append, String.utf8ByteSize_singleton, one,
      ih fun d mem => digits d (List.mem_cons_of_mem _ mem), List.length_cons, Nat.add_comm]

/-- The number of bytes of the name of an entry. -/
def entryNameSize : Nat := 78

theorem IsKey.size_entryName (h : IsKey key) : (entryName key).utf8ByteSize = entryNameSize := by
  have size := size_of_isHexDigit h.digits
  rw [String.ofList_toList, h.length] at size
  rw [entryName, String.utf8ByteSize_append, String.utf8ByteSize_append, size]
  rfl

theorem temporaryName_injective : Function.Injective temporaryName := by
  intro m n same
  have chars := congrArg String.toList same
  simp only [temporaryName, String.toList_append, List.append_assoc] at chars
  have numbers : m.repr.toList = n.repr.toList := List.append_cancel_right (List.append_cancel_left chars)
  rw [Nat.toList_repr, Nat.toList_repr] at numbers
  calc m = Nat.ofDigitChars 10 (Nat.toDigits 10 m) 0 := Nat.ofDigitChars_ten_toDigits.symm
    _ = Nat.ofDigitChars 10 (Nat.toDigits 10 n) 0 := by rw [numbers]
    _ = n := Nat.ofDigitChars_ten_toDigits

theorem getLast?_temporaryName (n : Nat) : (temporaryName n).toList.getLast? = some 'p' := by
  rw [temporaryName, String.toList_append, List.getLast?_append_of_ne_nil _ (by decide)]
  rfl

/-- The name for a temporary file is the first one that is not taken. -/
theorem freshName_spec (taken : List String) :
    ∃ n, freshName taken = temporaryName n ∧ temporaryName n ∉ taken ∧ ∀ m < n, temporaryName m ∈ taken := by
  unfold freshName
  rw [List.find?_map]
  cases found : (List.range (taken.length + 1)).find? ((!taken.contains ·) ∘ temporaryName) with
  | none =>
    -- there are more names than are taken
    have all : (List.range (taken.length + 1)).map temporaryName ⊆ taken := by
      intro name mem
      obtain ⟨n, low, rfl⟩ := List.mem_map.1 mem
      simpa using List.find?_eq_none.1 found n low
    have distinct : ((List.range (taken.length + 1)).map temporaryName).Nodup :=
      List.nodup_range.map temporaryName_injective
    have many := (List.subperm_of_subset distinct all).length_le
    rw [List.length_map, List.length_range] at many
    exact absurd many (by omega)
  | some n =>
    obtain ⟨free, -, before⟩ := List.find?_range_eq_some.1 found
    refine ⟨n, rfl, by simpa using free, fun m less => ?_⟩
    simpa using before m less

theorem freshName_eq (taken : List String) : ∃ n, freshName taken = temporaryName n := by
  obtain ⟨n, named, -⟩ := freshName_spec taken
  exact ⟨n, named⟩

theorem freshName_not_mem (taken : List String) : freshName taken ∉ taken := by
  obtain ⟨n, named, free, -⟩ := freshName_spec taken
  rwa [named]

theorem freshName_congr {taken taken' : List String}
    (same : ∀ n, temporaryName n ∈ taken ↔ temporaryName n ∈ taken') : freshName taken = freshName taken' := by
  obtain ⟨n, named, free, before⟩ := freshName_spec taken
  obtain ⟨n', named', free', before'⟩ := freshName_spec taken'
  rcases Nat.lt_trichotomy n n' with less | rfl | less
  · exact absurd ((same n).2 (before' n less)) free
  · rw [named, named']
  · exact absurd ((same n').1 (before n' less)) free'

theorem head?_freshName (taken : List String) : (freshName taken).toList.head? = some '.' := by
  obtain ⟨n, named⟩ := freshName_eq taken
  rw [named]
  simp [temporaryName, String.toList_append]

theorem above_ne_freshName (taken : List String) : freshName taken ≠ DiskPath.above := by
  obtain ⟨n, named⟩ := freshName_eq taken
  rw [named]
  intro same
  have chars := congrArg String.toList same
  simp [temporaryName, String.toList_append, DiskPath.above] at chars

/-- A path of a temporary file of a cache in the given directory. -/
def IsTemporaryPath (directory : DiskPath) (working : List String) (p : DiskPath) : Prop :=
  ∃ n, p = (DiskPath.ofPlace working (directory.resolve working)).child (temporaryName n)

theorem isTemporaryPath_temporaryPath (c : Cache) (d : Disk) :
    IsTemporaryPath c.directory d.working (c.temporaryPath d) := by
  obtain ⟨n, named⟩ := freshName_eq (d.namesAt (c.directory.resolve d.working))
  refine ⟨n, ?_⟩
  unfold temporaryPath
  dsimp only
  rw [named]

/-- A temporary file lies in the cache's directory. -/
theorem resolve_temporaryPath {d : Disk} (plain : DiskPath.above ∉ d.working) :
    ∃ name, (c.temporaryPath d).resolve d.working = c.directory.resolve d.working ++ [name] := by
  refine ⟨freshName (d.namesAt (c.directory.resolve d.working)), ?_⟩
  unfold temporaryPath
  dsimp only
  rw [DiskPath.resolve_child (above_ne_freshName _), DiskPath.resolve_ofPlace (DiskPath.above_not_mem_resolve plain)]

/-- Whatever the key, the path of an entry ends with a name that has the ending of entries. -/
theorem exists_pathFor_eq (c : Cache) (key : String) :
    ∃ (p : DiskPath) (stem : String), c.pathFor key = p.child (stem ++ entryEnding) := by
  obtain ⟨before, last, split⟩ := DiskPath.exists_splitOn_append (entryBeginning ++ key).toList
    (show '/' ∉ entryEnding.toList by decide)
  have named : String.ofList last ++ entryEnding ≠ "" ∧ String.ofList last ++ entryEnding ≠ "." :=
    ⟨ne_of_getLast? (getLast?_entryEnding _) (by decide), ne_of_getLast? (getLast?_entryEnding _) (by decide)⟩
  have start : DiskPath.readStart (entryBeginning ++ key ++ entryEnding).toList = .working := by
    simp [DiskPath.readStart, entryBeginning, String.toList_append]
  have names : DiskPath.readNames (entryBeginning ++ key ++ entryEnding).toList
      = ((before.map String.ofList).filter fun name => name ≠ "" ∧ name ≠ ".")
        ++ [String.ofList last ++ entryEnding] := by
    unfold DiskPath.readNames DiskPath.splitSlashes
    rw [String.toList_append, split, List.map_append, List.filter_append]
    congr 1
    simp [named]
  refine ⟨⟨c.directory.start, c.directory.names
    ++ (before.map String.ofList).filter fun name => name ≠ "" ∧ name ≠ "."⟩, String.ofList last, ?_⟩
  unfold pathFor DiskPath.join DiskPath.child DiskPath.read
  rw [names, start]
  simp [DiskPath.isAbsolute]

/-- An entry is no temporary file, whatever its key. -/
theorem resolve_pathFor_ne_temporaryPath (working : List String) (key : String) (d : Disk) :
    (c.pathFor key).resolve working ≠ (c.temporaryPath d).resolve working := by
  obtain ⟨p, stem, path⟩ := exists_pathFor_eq c key
  obtain ⟨n, named⟩ := freshName_eq (d.namesAt (c.directory.resolve d.working))
  unfold temporaryPath
  dsimp only
  rw [path, DiskPath.resolve_child (ne_of_getLast? (getLast?_entryEnding stem) (by decide)),
    DiskPath.resolve_child (above_ne_freshName _), named]
  intro same
  refine ne_of_getLast? (getLast?_entryEnding stem) ?_ (List.append_inj_right' same rfl |> List.singleton_inj.1)
  rw [getLast?_temporaryName]
  decide

/-- A temporary file is no entry. -/
theorem resolve_temporaryPath_ne (d : Disk) (key : String) :
    (c.temporaryPath d).resolve d.working ≠ entryPlace place key := by
  unfold temporaryPath entryPlace
  dsimp only
  rw [DiskPath.resolve_child (above_ne_freshName _)]
  intro same
  refine ne_entryName ?_ (List.append_inj_right' same rfl |> List.singleton_inj.1)
  rw [head?_freshName]
  decide

end Cache

end Stencil
