import Stencil.Proofs.Disk.Patterns
import Stencil.Proofs.Disk.Trees
import Stencil.Proofs.Loader.Searching

/-!
# Names that are listed and names that are accepted

A loader lists the names of the files in its directories by a pattern, and finds the file of a name by a path. On a
tree of files, and with a suffix whose characters all stand for themselves in a pattern, the one undoes the other
(`Loader.listing_agrees_with_loading`). What the two have in common is the row of names that leads from a directory down
to the file.
-/

namespace Stencil

open DiskPath

/-- Do the names lead down from a directory to a file? -/
def Disk.LeadsToFile (d : Disk) (root : DiskPath) (names : List String) : Prop :=
  names ≠ [] ∧ ∃ place t content changed, d.locate root = .ok place ∧ d.node? place = some (.directory t)
    ∧ d.node? (place ++ names) = some (.file content changed)

namespace Disk

variable {d : Disk} {root : DiskPath} {names : List String}

theorem LeadsToFile.isFileName (tree : d.IsTree) (leads : d.LeadsToFile root names) :
    ∀ name ∈ names, IsFileName name := by
  obtain ⟨-, place, t, content, changed, -, -, here⟩ := leads
  exact fun name mem => (tree.isNodeName here name (List.mem_append_right _ mem)).isFileName

/-- Names that lead to a file hold no character that no path can hold, whatever they are put behind. -/
theorem LeadsToFile.hasNull_join (tree : d.IsTree) (leads : d.LeadsToFile root names) (other : DiskPath) :
    (other.join ⟨.working, names⟩).hasNull = other.hasNull := by
  obtain ⟨-, place, t, content, changed, -, -, here⟩ := leads
  have plain : (names.any (·.toList.contains '\x00')) = false := by
    rw [List.any_eq_false]
    intro name mem
    simpa using (tree.isNodeName here name (List.mem_append_right _ mem)).noNull
  change ((other.names ++ names).any (·.toList.contains '\x00')) = _
  rw [List.any_append, plain, Bool.or_false]
  rfl

/-- A directory offers the file that names lead to from there, if the path to it is not too long. -/
theorem LeadsToFile.offers (tree : d.IsTree) (leads : d.LeadsToFile root names)
    (short : d.place (root.join ⟨.working, names⟩) ≠ .error .nameTooLong) : d.Offers root ⟨.working, names⟩ := by
  refine ⟨isInside_join root (above_not_mem (leads.isFileName tree)), isFile_eq_ok_true_iff.2 ?_⟩
  obtain ⟨-, place, t, content, changed, located, -, here⟩ := leads
  refine ⟨place ++ names, content, changed, locate_of_short short ?_, here⟩
  change d.walk (if root.isAbsolute then [] else d.working) (root.names ++ names) = _
  rw [walk_of_locate located, tree.walk_eq here]

/-- From a directory that offers the file of some names, the names lead there. -/
theorem Offers.leadsToFile (named : ∀ name ∈ names, IsFileName name) (some : names ≠ [])
    (short : d.place root ≠ .error .nameTooLong) (offers : d.Offers root ⟨.working, names⟩) :
    d.LeadsToFile root names := by
  obtain ⟨place, content, changed, located, here⟩ := isFile_eq_ok_true_iff.1 offers.2
  have walked : d.walk (if root.isAbsolute then [] else d.working) (root.names ++ names) = .ok place :=
    walk_of_place (locate_eq_ok_iff.1 located)
  rw [walk_append, bind_eq_ok_iff] at walked
  obtain ⟨middle, first, second⟩ := walked
  obtain rfl : place = middle ++ names := by
    rw [eq_foldl_of_walk second, foldl_step_eq_append (above_not_mem named)]
  obtain ⟨name, rest, rfl⟩ := List.exists_cons_of_ne_nil some
  obtain ⟨t, directory, -⟩ := isDirectory_of_walk_cons second
  exact ⟨some, middle, t, content, changed, locate_of_short short first, directory, here⟩

end Disk

namespace Loader

variable {d : Disk} {w : World} {root : DiskPath} {roots : List DiskPath} {encoding : Encoding}
  {name suffix : String} {names : List String}

/-! ## The name of a file -/

/-- Cutting the suffix off takes back that it was put there. -/
theorem nameOf_eq (whole : joined names = name ++ suffix) : nameOf suffix names = name := by
  have chars : ("/".intercalate names).toList = name.toList ++ suffix.toList := by
    rw [← String.toList_append, ← whole]
    rfl
  have stop : ((name.toList ++ suffix.toList).length : Int) - suffix.length = name.toList.length := by
    rw [List.length_append, ← String.length_toList]
    omega
  unfold nameOf Snippet.slice
  dsimp only
  rw [chars, stop, if_neg (by omega), Int.toNat_natCast, List.take_left, List.drop_zero, String.ofList_toList]

/-! ## What is listed -/

/-- The names that are listed in a directory are those of the files that fit: some names lead down to the file, and
with the suffix the name is the path of these. -/
theorem mem_listing_iff {listed : List String} (tree : d.IsTree) (plain : Pattern.IsPlain suffix)
    (listing : Listing d suffix root (.ok listed)) :
    name ∈ listed ↔ ∃ names, d.LeadsToFile root names ∧ joined names = name ++ suffix := by
  obtain ⟨_, readable, files, down, fits⟩ := Pattern.exists_read?_of_isPlain plain
  cases listing with
  | absent none =>
    refine ⟨nofun, ?_⟩
    rintro ⟨names, ⟨-, place, t, _, _, located, directory, -⟩, -⟩
    rw [Disk.isDirectory_eq_ok_true_iff.2 ⟨place, t, located, directory⟩] at none
    cases none
  | files there read selected =>
    obtain rfl := Option.some.inj (readable.symm.trans read)
    obtain ⟨place, t, located, directory⟩ := Disk.isDirectory_eq_ok_true_iff.1 there
    have mem_iff {names : List String} : names ∈ _ ↔ _ :=
      Disk.mem_select_iff tree located directory files down selected
    rw [List.mem_map]
    constructor
    · rintro ⟨names, mem, rfl⟩
      obtain ⟨fit, content, changed, here⟩ := mem_iff.1 mem
      have some : names ≠ [] := by
        rintro rfl
        rw [List.append_nil, directory] at here
        cases here
      have leads : d.LeadsToFile root names := ⟨some, place, t, content, changed, located, directory, here⟩
      have apart := slash_not_mem (leads.isFileName tree)
      obtain ⟨stem, whole⟩ := (fits names some apart).1 fit
      exact ⟨names, leads, by rw [nameOf_eq whole, whole]⟩
    · rintro ⟨names, leads, whole⟩
      have apart := slash_not_mem (leads.isFileName tree)
      obtain ⟨some, place', _, content, changed, located', -, here⟩ := leads
      obtain rfl := Except.ok.inj (located'.symm.trans located)
      exact ⟨names, mem_iff.2 ⟨(fits names some apart).2 ⟨name, whole⟩, content, changed, here⟩, nameOf_eq whole⟩

theorem mem_sorted_iff {listed : List String} : name ∈ sorted listed ↔ name ∈ listed := by
  rw [sorted, List.mem_mergeSort, List.mem_eraseDups]

theorem short_of_listing {listed : List String} (listing : Listing d suffix root (.ok listed)) :
    d.place root ≠ .error .nameTooLong := by
  intro long
  have failing := Disk.isDirectory_eq_error_iff.2 ⟨long, rfl⟩
  cases listing with
  | absent none => cases failing.symm.trans none
  | files there _ _ => cases failing.symm.trans there

theorem short_of_listings {lists : List (List String)}
    (listings : List.Forall₂ (fun root listed => Listing d suffix root (.ok listed)) roots lists) :
    ∀ root ∈ roots, d.place root ≠ .error .nameTooLong := by
  induction listings with
  | nil => simp
  | cons listing _ ih => exact List.forall_mem_cons.2 ⟨short_of_listing listing, ih⟩

theorem mem_flatten_iff {lists : List (List String)} (tree : d.IsTree) (plain : Pattern.IsPlain suffix)
    (listings : List.Forall₂ (fun root listed => Listing d suffix root (.ok listed)) roots lists) :
    name ∈ lists.flatten ↔ ∃ root ∈ roots, ∃ names, d.LeadsToFile root names ∧ joined names = name ++ suffix := by
  induction listings with
  | nil => simp
  | cons listing _ ih =>
    rw [List.flatten_cons, List.mem_append, mem_listing_iff tree plain listing, ih]
    simp

theorem names_run (roots : List DiskPath) (encoding : Encoding) (suffix : String) (w : World) :
    (Loader.names (.directories roots encoding suffix) w).1 = (namesInAll suffix roots w).1.map sorted := by
  rw [Loader.names, bind_run]
  rcases namesInAll suffix roots w with ⟨_ | _, _⟩
  · rfl
  · rfl

/-- The names that are listed in several directories are those that are listed in one of them. A path at or below a
directory that is too long may keep all of them from being listed. -/
theorem names_cases (roots : List DiskPath) (encoding : Encoding) (calm : w.weather = .calm) (tree : w.disk.IsTree)
    (plain : Pattern.IsPlain suffix) :
    (∃ root ∈ roots, ∃ p, w.disk.IsTooLongBelow root p
      ∧ (Loader.names (.directories roots encoding suffix) w).1 = .error (.disk (Disk.failure p .nameTooLong)))
    ∨ (∀ root ∈ roots, w.disk.place root ≠ .error .nameTooLong)
      ∧ ∃ listed, (Loader.names (.directories roots encoding suffix) w).1 = .ok listed
        ∧ ∀ name, name ∈ listed ↔ ∃ root ∈ roots, ∃ names, w.disk.LeadsToFile root names
          ∧ joined names = name ++ suffix := by
  rw [names_run]
  rcases namesInAll_cases suffix roots calm with ⟨root, mem, fault, failing, failed⟩ | ⟨lists, listings, done⟩
  · rw [failed]
    rcases exists_of_listing_error failing with ⟨p, long, rfl⟩ | ⟨unreadable, -⟩
    · exact .inl ⟨root, mem, p, long, rfl⟩
    · exact absurd unreadable (Pattern.read?_ne_none plain)
  · rw [done]
    refine .inr ⟨short_of_listings listings, _, rfl, fun name => ?_⟩
    exact mem_sorted_iff.trans (mem_flatten_iff tree plain listings)

/-! ## Both ways -/

/-- A name whose parts files can have makes, with a suffix that has no other parts, a row of names that files can
have. -/
theorem exists_names (plain : Pattern.IsPlain suffix)
    (named : ∀ part ∈ splitSlashes (slashed name).toList, IsFileName part) :
    ∃ names, names ≠ [] ∧ (∀ part ∈ names, IsFileName part) ∧ joined names = slashed name ++ suffix := by
  obtain ⟨first, back, split⟩ := List.exists_cons_of_ne_nil (splitSlashes_ne_nil suffix.toList)
  have later := plain.parts
  rw [split] at later
  obtain ⟨front, last, parts⟩ := (List.eq_nil_or_concat _).resolve_left (splitSlashes_ne_nil (slashed name).toList)
  have whole := splitSlashes_append (parts.trans List.concat_eq_append) split
  refine ⟨front ++ (last ++ first) :: back, by simp, ?_, by rw [← whole, joined_splitSlashes]⟩
  intro part mem
  rcases List.mem_append.1 mem with early | late
  · exact named part (by rw [parts, List.concat_eq_append]; exact List.mem_append_left _ early)
  · rcases List.mem_cons.1 late with rfl | late
    · have apart : '/' ∉ first.toList := slash_not_mem_of_mem_splitSlashes (split ▸ List.mem_cons_self)
      exact (named last (by rw [parts, List.concat_eq_append]; simp)).append apart
    · exact later part late

/-- What may keep a file from being read although a directory offers it: in one of the directories the path is too long,
or the path of a directory holds a character that no path can hold. -/
inductive Hindrance (d : Disk) (roots : List DiskPath) (relative : DiskPath) : Fault → Prop
  | long {root : DiskPath} : root ∈ roots → d.IsTooLong root relative →
      Hindrance d roots relative (.disk (Disk.failure (root.join relative) .nameTooLong))
  | null {root : DiskPath} : root ∈ roots → root.hasNull → Hindrance d roots relative .nullCharacter

/-- Where names lead from one of the directories to a file, the text for the name that they make with the suffix is that
of the file in the first directory that offers one, unless something is in the way. -/
theorem source_of_leadsToFile (encoding : Encoding) (calm : w.weather = .calm) (tree : w.disk.IsTree)
    (mem : root ∈ roots) (leads : w.disk.LeadsToFile root names) (whole : joined names = slashed name ++ suffix) :
    (∃ path content changed, Serves w.disk roots (relativePath name suffix) path content changed
      ∧ (source name (.directories roots encoding suffix) w).1 = sourceOf encoding path content changed)
    ∨ ∃ fault, Hindrance w.disk roots (relativePath name suffix) fault
      ∧ (source name (.directories roots encoding suffix) w).1 = .error fault := by
  have named := leads.isFileName tree
  have path := relativePath_eq named leads.1 whole
  have not_passed (passed : ∀ root ∈ roots, w.disk.PassesOver root (relativePath name suffix)) : False := by
    obtain ⟨-, notOffered, notTooLong⟩ := passed root mem
    rw [path] at notOffered notTooLong
    exact notOffered (leads.offers tree fun long => notTooLong ⟨isInside_join root (above_not_mem named), long⟩)
  have outcome := outcome_source name roots encoding suffix calm
  generalize (source name (.directories roots encoding suffix) w).1 = r at outcome
  cases outcome with
  | read serves => exact .inl ⟨_, _, _, serves, rfl⟩
  | broken other long => exact .inr ⟨_, .long other long, rfl⟩
  | refused other null =>
    rw [path, leads.hasNull_join tree] at null
    exact .inr ⟨_, .null other null, rfl⟩
  | unlisted passed | missing _ passed => exact (not_passed passed).elim

/-- **Listing and loading undo each other.** On a tree of files, in calm weather and with a suffix that stands for
itself in a pattern: the names are listed, unless a path at or below one of the directories is too long. Each that has no
backslash is the path, without the suffix, that the loader follows for it, and the text for it is that of the file which
is there in the first directory that offers one, unless something is in the way of that. And if the loader answers a text
for a name whose parts are names that files can have, then the name is listed, with slashes for its backslashes. -/
theorem listing_agrees_with_loading (roots : List DiskPath) (encoding : Encoding) (calm : w.weather = .calm)
    (tree : w.disk.IsTree) (plain : Pattern.IsPlain suffix) :
    (∃ root ∈ roots, ∃ p, w.disk.IsTooLongBelow root p
      ∧ (Loader.names (.directories roots encoding suffix) w).1 = .error (.disk (Disk.failure p .nameTooLong)))
    ∨ ∃ listed, (Loader.names (.directories roots encoding suffix) w).1 = .ok listed
      ∧ (∀ name ∈ listed, '\\' ∉ name.toList →
        (relativePath name suffix).text = name ++ suffix
        ∧ ((∃ path content changed, Serves w.disk roots (relativePath name suffix) path content changed
            ∧ (source name (.directories roots encoding suffix) w).1 = sourceOf encoding path content changed)
          ∨ ∃ fault, Hindrance w.disk roots (relativePath name suffix) fault
            ∧ (source name (.directories roots encoding suffix) w).1 = .error fault))
      ∧ ∀ name found, (∀ part ∈ splitSlashes (slashed name).toList, IsFileName part) →
        (source name (.directories roots encoding suffix) w).1 = .ok found → slashed name ∈ listed := by
  rcases names_cases roots encoding calm tree plain with long | ⟨short, listed, lists, mem_iff⟩
  · exact .inl long
  refine .inr ⟨listed, lists, fun name mem apart => ?_, fun name found named loaded => ?_⟩
  · obtain ⟨root, isRoot, names, leads, whole⟩ := (mem_iff name).1 mem
    rw [← slashed_eq_self apart] at whole
    refine ⟨?_, source_of_leadsToFile encoding calm tree isRoot leads whole⟩
    rw [relativePath_eq (leads.isFileName tree) leads.1 whole, DiskPath.text, if_neg fun none => leads.1 none.2]
    rw [slashed_eq_self apart] at whole
    exact (String.empty_append).trans whole
  · obtain ⟨names, some, isNamed, whole⟩ := exists_names plain named
    have path := relativePath_eq isNamed some whole
    rw [mem_iff]
    obtain ⟨_, _, _, serves, -⟩ := serves_of_source calm loaded
    obtain ⟨front, root, back, rfl, -, offers, -⟩ := serves.first
    rw [path] at offers
    exact ⟨root, by simp, names, offers.leadsToFile isNamed some (short root (by simp)), whole⟩

/-! ## A file in two directories, and names that one of the two does not know -/

/-- The same name in two directories. -/
def pages : List (List String × String) :=
  [(["w", "t", "p.x"], "one"), (["w", "tx", "d", "p.x"], "two")]

theorem isTree_pages : (shelf pages).IsTree where
  named := by decide +kernel
  once := by decide +kernel
  housed := by
    have parents : ∀ entry ∈ (shelf pages).nodes,
        (shelf pages).node? entry.1.dropLast = some (.directory (.zero false)) := by
      decide +kernel
    exact fun entry mem => ⟨_, parents entry mem⟩

theorem isPlain_ending : Pattern.IsPlain ".x" where
  literal := by
    intro c mem
    have : c = '.' ∨ c = 'x' := by simpa using mem
    rcases this with rfl | rfl
    · decide
    · decide
  parts := by decide +kernel

set_option maxRecDepth 100000 in
/-- The name that both directories have is listed, and it is answered from the first one. -/
theorem page_is_listed_and_read :
    (shelf pages).IsTree ∧ Pattern.IsPlain ".x"
      ∧ ∃ listed, (Loader.names (.directories [.read "t", .read "tx/d"] .utf8 ".x") (shelfWorld pages)).1 = .ok listed
        ∧ "p" ∈ listed ∧ (relativePath "p" ".x").text = "p.x"
        ∧ ∃ path content changed,
          Serves (shelf pages) [.read "t", .read "tx/d"] (relativePath "p" ".x") path content changed
            ∧ (source "p" (.directories [.read "t", .read "tx/d"] .utf8 ".x") (shelfWorld pages)).1
              = sourceOf .utf8 path content changed := by
  have free : ∀ root ∈ [DiskPath.read "t", .read "tx/d"], root.hasNull = false
      ∧ ¬(shelf pages).IsTooLong root (relativePath "p" ".x") := by
    decide +kernel
  have known : (Loader.names (.directories [.read "t", .read "tx/d"] .utf8 ".x") (shelfWorld pages)).1.toOption
      = some ["p"] := by
    decide +kernel
  have answered : ((source "p" (.directories [.read "t", .read "tx/d"] .utf8 ".x") (shelfWorld pages)).1.toOption.map
      (·.text)) = some "one" := by
    decide +kernel
  obtain ⟨found, loaded, -⟩ := Option.map_eq_some_iff.1 answered
  have calm : (shelfWorld pages).weather = .calm := rfl
  have tree : (shelfWorld pages).disk.IsTree := isTree_pages
  rcases listing_agrees_with_loading [.read "t", .read "tx/d"] .utf8 calm tree isPlain_ending with
    ⟨_, -, _, -, failed⟩ | ⟨listed, lists, accepted, complete⟩
  · cases (eq_ok_of_toOption known).symm.trans failed
  · have mem : "p" ∈ listed := complete "p" found (by decide +kernel) (eq_ok_of_toOption loaded)
    obtain ⟨text, served | ⟨_, ⟨mem', long⟩ | ⟨mem', null⟩, -⟩⟩ := accepted "p" mem (by decide)
    · exact ⟨isTree_pages, isPlain_ending, listed, lists, mem, text, served⟩
    · exact absurd long (free _ mem').2
    · exact absurd null (by rw [(free _ mem').1]; decide)

/-- A file whose name holds signs of patterns. -/
def bracketed : List (List String × String) :=
  [(["w", "t", "a.[x]"], "hi")]

/-- A file whose name holds a backslash. -/
def backslashed : List (List String × String) :=
  [(["w", "t", "b\\c"], "ho")]

set_option maxRecDepth 100000 in
/-- With signs of patterns as the suffix a file is answered that is not listed, and a file with a backslash is listed
under a name for which it is not found. -/
theorem listing_and_loading_part :
    (((source "a" (.directories [.read "t"] .utf8 ".[x]") (shelfWorld bracketed)).1.toOption.map (·.text)) = some "hi"
      ∧ ∃ listed, (Loader.names (.directories [.read "t"] .utf8 ".[x]") (shelfWorld bracketed)).1 = .ok listed
        ∧ "a" ∉ listed)
    ∧ (∃ listed, (Loader.names (.directories [.read "t"] .utf8 "") (shelfWorld backslashed)).1 = .ok listed
        ∧ "b\\c" ∈ listed)
      ∧ ((source "b\\c" (.directories [.read "t"] .utf8 "") (shelfWorld backslashed)).1.map (·.text)).mapError
        Fault.isNotFound = .error true := by
  have unlisted : (Loader.names (.directories [.read "t"] .utf8 ".[x]") (shelfWorld bracketed)).1.toOption
      = some [] := by
    decide +kernel
  have listed : (Loader.names (.directories [.read "t"] .utf8 "") (shelfWorld backslashed)).1.toOption
      = some ["b\\c"] := by
    decide +kernel
  exact ⟨⟨by decide +kernel, _, eq_ok_of_toOption unlisted, List.not_mem_nil⟩,
    ⟨_, eq_ok_of_toOption listed, List.mem_singleton.2 rfl⟩, by decide +kernel⟩

end Loader

end Stencil
