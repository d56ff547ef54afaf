import Stencil.Proofs.Disk.Selection

/-!
# Files found in directories

A loader looks for the file of a name in one directory after the other. Where the name leads out of a directory by its
names alone the directory is passed over; the first one that offers the file has it read. So whatever the name
is, the file that is read lies in one of the directories (`Loader.source_is_inside`).

In calm weather the search ends in one of four ways (`Loader.Search`): a file is found, no directory offers one, a
path is too long for the disk to say what is there, or it holds a character that no path can hold. The last two of these
are not taken for absence.
-/

namespace Stencil

/-- Does a directory offer the file of a relative path? By its names the path has to stay in the directory, and it
has to lead to a file. -/
def Disk.Offers (d : Disk) (root relative : DiskPath) : Prop :=
  DiskPath.isInside (root.resolve d.working) ((root.join relative).resolve d.working) = true
    ∧ d.isFile (root.join relative) = .ok true

instance (d : Disk) (root relative : DiskPath) : Decidable (d.Offers root relative) :=
  inferInstanceAs (Decidable (_ ∧ _))

/-- Does the relative path stay in a directory by its names, but make a path that is too long, or has too long a
name? -/
def Disk.IsTooLong (d : Disk) (root relative : DiskPath) : Prop :=
  DiskPath.isInside (root.resolve d.working) ((root.join relative).resolve d.working) = true
    ∧ d.place (root.join relative) = .error .nameTooLong

instance (d : Disk) (root relative : DiskPath) : Decidable (d.IsTooLong root relative) :=
  inferInstanceAs (Decidable (_ ∧ _))

/-- Does the search for a relative path go on behind a directory? -/
structure Disk.PassesOver (d : Disk) (root relative : DiskPath) : Prop where
  noNull : (root.join relative).hasNull = false
  notOffered : ¬d.Offers root relative
  notTooLong : ¬d.IsTooLong root relative

/-- Where the first name of a path has too many bytes for a file's name, nothing is said about the path. -/
theorem Disk.isTooLong_of_long {d : Disk} {root : DiskPath} {first : String} {rest : List String}
    (there : d.isDirectory root = .ok true) (plain : DiskPath.above ∉ first :: rest)
    (long : greatestName < first.utf8ByteSize) : d.IsTooLong root ⟨.working, first :: rest⟩ := by
  obtain ⟨place, t, located, here⟩ := isDirectory_eq_ok_true_iff.1 there
  have other : first ≠ DiskPath.above := by
    rintro rfl
    exact plain List.mem_cons_self
  refine ⟨DiskPath.isInside_join root plain, ?_⟩
  rw [Disk.place]
  split
  · rfl
  · change d.walk (if root.isAbsolute then [] else d.working) (root.names ++ first :: rest) = _
    rw [walk_of_locate located, walk, here]
    dsimp only
    rw [if_neg other, if_pos long]

namespace Loader

open DiskPath

variable {d : Disk} {w : World} {root relative path : DiskPath} {roots front back : List DiskPath}
  {encoding : Encoding} {name suffix : String}

/-! ## The path of a name -/

/-- The name with slashes for backslashes. -/
def slashed (name : String) : String :=
  String.ofList (name.toList.map fun c => if c = '\\' then '/' else c)

theorem slashed_eq_self (plain : '\\' ∉ name.toList) : slashed name = name := by
  rw [← String.toList_inj, slashed, String.toList_ofList]
  have kept : ∀ c ∈ name.toList, (if c = '\\' then '/' else c) = id c := by
    intro c mem
    rw [if_neg, id]
    rintro rfl
    exact plain mem
  rw [List.map_congr_left kept, List.map_id]

/-- The path for a name that, with the suffix, is a row of names that files can have. -/
theorem relativePath_eq {names : List String} (named : ∀ name ∈ names, IsFileName name) (some : names ≠ [])
    (whole : joined names = slashed name ++ suffix) : relativePath name suffix = ⟨.working, names⟩ := by
  have start : (slashed name).toList.dropWhile (· = '/') = (slashed name).toList := by
    have other := head?_joined_ne_slash named
    rw [whole, String.toList_append] at other
    cases chars : (slashed name).toList with
    | nil => rfl
    | cons c rest =>
      rw [chars] at other
      exact List.dropWhile_cons_of_neg (by simpa using other)
  unfold relativePath
  change read (String.ofList ((name.toList.map fun c => if c = '\\' then '/' else c).dropWhile _) ++ suffix) = _
  rw [slashed, String.toList_ofList] at start
  rw [start]
  change read (slashed name ++ suffix) = _
  rw [← whole, read_joined named some]


/-! ## Looking in one directory after the other -/

/-- How the search for a relative path ends: at the first directory that offers it, at the first one where it is too
long or holds a character that no path can hold, or behind the last one. -/
inductive Search (d : Disk) (relative : DiskPath) (roots : List DiskPath) : Except Fault (Option DiskPath) → Prop
  | found {front back : List DiskPath} {root : DiskPath} : roots = front ++ root :: back →
      (∀ other ∈ front, d.PassesOver other relative) → d.Offers root relative →
      Search d relative roots (.ok (some (root.join relative)))
  | broken {front back : List DiskPath} {root : DiskPath} : roots = front ++ root :: back →
      (∀ other ∈ front, d.PassesOver other relative) → d.IsTooLong root relative →
      Search d relative roots (.error (.disk (Disk.failure (root.join relative) .nameTooLong)))
  | refused {front back : List DiskPath} {root : DiskPath} : roots = front ++ root :: back →
      (∀ other ∈ front, d.PassesOver other relative) → (root.join relative).hasNull →
      Search d relative roots (.error .nullCharacter)
  | nowhere : (∀ root ∈ roots, d.PassesOver root relative) → Search d relative roots (.ok none)

/-- A directory that is passed over does not change how the search ends. -/
theorem Search.cons {r : Except Fault (Option DiskPath)} (passed : d.PassesOver root relative)
    (search : Search d relative roots r) : Search d relative (root :: roots) r := by
  cases search with
  | found split others offers =>
    exact .found (congrArg (root :: ·) split) (List.forall_mem_cons.2 ⟨passed, others⟩) offers
  | broken split others long =>
    exact .broken (congrArg (root :: ·) split) (List.forall_mem_cons.2 ⟨passed, others⟩) long
  | refused split others null =>
    exact .refused (congrArg (root :: ·) split) (List.forall_mem_cons.2 ⟨passed, others⟩) null
  | nowhere others => exact .nowhere (List.forall_mem_cons.2 ⟨passed, others⟩)

theorem search_locate (relative : DiskPath) (roots : List DiskPath) (calm : w.weather = .calm) :
    Search w.disk relative roots (locate relative roots w).1 := by
  induction roots generalizing w with
  | nil => exact .nowhere (by simp)
  | cons root rest ih =>
    rw [locate_cons_run]
    split
    · next null => exact .refused (List.nil_append _).symm (by simp) null
    · next noNull =>
      have noNull := Bool.eq_false_iff.2 noNull
      split
      · next inside =>
        rw [bind_run, Work.isFile_run calm]
        cases answered : w.disk.isFile (root.join relative) with
        | error fault =>
          obtain ⟨long, rfl⟩ := Disk.isFile_eq_error_iff.1 answered
          exact .broken (List.nil_append _).symm (by simp) ⟨inside, long⟩
        | ok there =>
          cases there with
          | true => exact .found (List.nil_append _).symm (by simp) ⟨inside, answered⟩
          | false =>
            refine .cons ⟨noNull, fun offers => ?_, fun long => ?_⟩ (ih (w := { w with tick := w.tick + 1 }) calm)
            · simp [offers.2] at answered
            · simp [Disk.isFile_eq_error_iff.2 ⟨long.2, rfl⟩] at answered
      · next outside =>
        exact .cons ⟨noNull, fun offers => outside offers.1, fun long => outside long.1⟩ (ih calm)

/-! ## Reading what is found -/

/-- What a file gives as the text of a template: its content in the encoding of the loader, or the fault that it is
not written in that. -/
def sourceOf (encoding : Encoding) (path : DiskPath) (content : List UInt8) (changed : Binary64) :
    Except Fault TemplateSource :=
  match encoding.decode content with
  | .ok chars => .ok ⟨String.ofList (readNewlines chars), some path.text, some changed⟩
  | .error fault => .error (.undecodable (fault.message encoding.name))

theorem readSource_run {place : List String} {content : List UInt8} {changed : Binary64} (calm : w.weather = .calm)
    (located : w.disk.locate path = .ok place) (here : w.disk.node? place = some (.file content changed)) :
    (readSource encoding path w).1 = sourceOf encoding path content changed := by
  have found : w.disk.find path = .ok (.file content changed) := Disk.find_eq_ok_iff.2 ⟨place, located, here⟩
  have read := Work.readText_run encoding calm (Disk.read_eq_ok_iff.2 ⟨place, changed, located, here⟩)
  unfold readSource sourceOf
  rw [bind_run, read]
  cases encoding.decode content with
  | error fault => rfl
  | ok chars =>
    dsimp only
    rw [bind_run, Work.inspect_calm (w := { w with tick := w.tick + 1 }) calm, found]
    rfl

/-- The file at the path is the one that is to be read for a relative path: its directory is the first one that offers
it, the path leads into that directory, and there stands a file of the content and the time. -/
structure Serves (d : Disk) (roots : List DiskPath) (relative path : DiskPath) (content : List UInt8)
    (changed : Binary64) : Prop where
  first : ∃ front root back, roots = front ++ root :: back ∧ (∀ other ∈ front, ¬d.Offers other relative)
    ∧ d.Offers root relative ∧ path = root.join relative
      ∧ isInside (root.resolve d.working) (path.resolve d.working) = true
  located : d.locate path = .ok (path.resolve d.working)
  here : d.node? (path.resolve d.working) = some (.file content changed)

theorem exists_serves (split : roots = front ++ root :: back) (passed : ∀ other ∈ front, ¬d.Offers other relative)
    (offers : d.Offers root relative) :
    ∃ content changed, Serves d roots relative (root.join relative) content changed := by
  obtain ⟨place, content, changed, located, here⟩ := Disk.isFile_eq_ok_true_iff.1 offers.2
  obtain rfl := Disk.eq_resolve_of_locate located
  exact ⟨content, changed, ⟨front, root, back, split, passed, offers, rfl, offers.1⟩, located, here⟩

/-! ## The names in one directory -/

/-- How asking for the names of the files in one directory ends: there are none if it is no directory, else those of the
files that fit. It may not be known whether it is a directory, the suffix may make no pattern, and a path below the
directory may be too long. -/
inductive Listing (d : Disk) (suffix : String) (root : DiskPath) : Except Fault (List String) → Prop
  | unknown {fault : DiskFault} : d.isDirectory root = .error fault → Listing d suffix root (.error (.disk fault))
  | absent : d.isDirectory root = .ok false → Listing d suffix root (.ok [])
  | unreadable : d.isDirectory root = .ok true → Pattern.read? ("*" ++ suffix) = none →
      Listing d suffix root (.error (.badSetting "Invalid pattern: '**' can only be an entire path component"))
  | broken {pattern : Pattern} {fault : DiskFault} : d.isDirectory root = .ok true →
      Pattern.read? ("*" ++ suffix) = some pattern → d.select root pattern = .error fault →
      Listing d suffix root (.error (.disk fault))
  | files {pattern : Pattern} {files : List (List String)} : d.isDirectory root = .ok true →
      Pattern.read? ("*" ++ suffix) = some pattern → d.select root pattern = .ok files →
      Listing d suffix root (.ok (files.map (nameOf suffix)))

theorem Listing.unique {r r' : Except Fault (List String)} (h : Listing d suffix root r)
    (h' : Listing d suffix root r') : r = r' := by
  cases h <;> cases h' <;> simp_all

theorem listing_namesIn (suffix : String) (root : DiskPath) (calm : w.weather = .calm) :
    Listing w.disk suffix root (namesIn suffix root w).1 := by
  unfold namesIn
  rw [bind_run, Work.isDirectory_run calm]
  cases answered : w.disk.isDirectory root with
  | error fault => exact .unknown answered
  | ok there =>
    cases there with
    | false => exact .absent answered
    | true =>
      dsimp only [Except.mapError]
      rw [if_pos rfl]
      cases read : Pattern.read? ("*" ++ suffix) with
      | none => exact .unreadable answered read
      | some pattern =>
        dsimp only
        rw [bind_run, Work.ask_calm (w := { w with tick := w.tick + 1 }) calm]
        cases selected : w.disk.select root pattern with
        | error fault => exact .broken answered read selected
        | ok files => exact .files answered read selected

/-- The names in several directories are those in each of them, one directory after the other, up to the first one
whose names cannot be listed. -/
theorem namesInAll_cases (suffix : String) (roots : List DiskPath) (calm : w.weather = .calm) :
    (∃ root ∈ roots, ∃ fault, Listing w.disk suffix root (.error fault)
      ∧ (namesInAll suffix roots w).1 = .error fault)
    ∨ ∃ lists, List.Forall₂ (fun root listed => Listing w.disk suffix root (.ok listed)) roots lists
      ∧ (namesInAll suffix roots w).1 = .ok lists.flatten := by
  induction roots generalizing w with
  | nil => exact .inr ⟨[], .nil, rfl⟩
  | cons root rest ih =>
    have listing := listing_namesIn suffix root calm
    rcases run : namesIn suffix root w with ⟨fault | listed, between⟩
    · rw [run] at listing
      refine .inl ⟨root, List.mem_cons_self, fault, listing, ?_⟩
      rw [namesInAll, run_error run]
    · rw [run] at listing
      have next := Moves.of_run (looks_namesIn suffix root) run
      have later := ih (w := between) (next.weather.trans calm)
      rw [← next.disk] at later
      rw [namesInAll, run_ok run, bind_run]
      generalize namesInAll suffix rest between = ran at later ⊢
      obtain ⟨r, last⟩ := ran
      rcases later with ⟨other, mem, fault, failing, ⟨⟩⟩ | ⟨lists, each, ⟨⟩⟩
      · exact .inl ⟨other, List.mem_cons_of_mem _ mem, fault, failing, rfl⟩
      · exact .inr ⟨listed :: lists, .cons listing each, rfl⟩

/-- What may keep a loader from saying that no directory has the file: where the file might be, or a directory or
something below it, has too long a path; a path holds a character that no path can hold; or the suffix makes no pattern
for the names that the answer lists. -/
inductive Obstacle (d : Disk) (roots : List DiskPath) (suffix : String) (relative : DiskPath) : Fault → Prop
  | candidate {root : DiskPath} : root ∈ roots → d.IsTooLong root relative →
      Obstacle d roots suffix relative (.disk (Disk.failure (root.join relative) .nameTooLong))
  | null {root : DiskPath} : root ∈ roots → (root.join relative).hasNull →
      Obstacle d roots suffix relative .nullCharacter
  | listing {root p : DiskPath} : root ∈ roots → d.IsTooLongBelow root p →
      Obstacle d roots suffix relative (.disk (Disk.failure p .nameTooLong))
  | pattern : Pattern.read? ("*" ++ suffix) = none → Obstacle d roots suffix relative
      (.badSetting "Invalid pattern: '**' can only be an entire path component")

/-- A listing fails because a path is too long, or because the suffix makes no pattern. -/
theorem exists_of_listing_error {fault : Fault} (listing : Listing d suffix root (.error fault)) :
    (∃ p, d.IsTooLongBelow root p ∧ fault = .disk (Disk.failure p .nameTooLong))
      ∨ Pattern.read? ("*" ++ suffix) = none
        ∧ fault = .badSetting "Invalid pattern: '**' can only be an entire path component" := by
  cases listing with
  | unknown failed =>
    obtain ⟨long, rfl⟩ := Disk.isDirectory_eq_error_iff.1 failed
    exact .inl ⟨root, ⟨⟨[], (root.below_nil).symm⟩, long⟩, rfl⟩
  | unreadable _ unreadable => exact .inr ⟨unreadable, rfl⟩
  | broken _ _ failed =>
    obtain ⟨p, long, rfl⟩ := Disk.exists_of_select_eq_error failed
    exact .inl ⟨p, long, rfl⟩

/-- Only an obstacle keeps the names in the directories from being listed. -/
theorem obstacle_of_listing {fault : Fault} (mem : root ∈ roots) (listing : Listing d suffix root (.error fault)) :
    Obstacle d roots suffix relative fault := by
  rcases exists_of_listing_error listing with ⟨p, long, rfl⟩ | ⟨unreadable, rfl⟩
  · exact .listing mem long
  · exact .pattern unreadable

/-! ## The text for a name -/

/-- How asking for the text of a name ends: a file is read, something is in the way where the file might be, or no
directory offers one. In the last case the names that there are may not be listed. -/
inductive Outcome (d : Disk) (roots : List DiskPath) (encoding : Encoding) (suffix name : String) :
    Except Fault TemplateSource → Prop
  | read {path : DiskPath} {content : List UInt8} {changed : Binary64} :
      Serves d roots (relativePath name suffix) path content changed →
      Outcome d roots encoding suffix name (sourceOf encoding path content changed)
  | broken {root : DiskPath} : root ∈ roots → d.IsTooLong root (relativePath name suffix) →
      Outcome d roots encoding suffix name
        (.error (.disk (Disk.failure (root.join (relativePath name suffix)) .nameTooLong)))
  | refused {root : DiskPath} : root ∈ roots → (root.join (relativePath name suffix)).hasNull →
      Outcome d roots encoding suffix name (.error .nullCharacter)
  | unlisted {root : DiskPath} {fault : Fault} : (∀ root ∈ roots, d.PassesOver root (relativePath name suffix)) →
      root ∈ roots → Listing d suffix root (.error fault) → Outcome d roots encoding suffix name (.error fault)
  | missing (known : List String) : (∀ root ∈ roots, d.PassesOver root (relativePath name suffix)) →
      Outcome d roots encoding suffix name (.error (notFound name known (", ".intercalate (roots.map (·.text)))))

theorem outcome_source (name : String) (roots : List DiskPath) (encoding : Encoding) (suffix : String)
    (calm : w.weather = .calm) :
    Outcome w.disk roots encoding suffix name (source name (.directories roots encoding suffix) w).1 := by
  have search := search_locate (relativePath name suffix) roots calm
  rcases located : locate (relativePath name suffix) roots w with ⟨r, between⟩
  rw [located] at search
  have next := Moves.of_run (looks_locate _ _) located
  have calm' := next.weather.trans calm
  cases search with
  | found split passed offers =>
    obtain ⟨content, changed, serves⟩ := exists_serves split (fun other mem => (passed other mem).notOffered) offers
    rw [source, run_ok located]
    dsimp only
    rw [readSource_run calm' (next.disk ▸ serves.located) (next.disk ▸ serves.here)]
    exact .read serves
  | broken split _ long =>
    rw [source, run_error located]
    exact .broken (split ▸ by simp) long
  | refused split _ null =>
    rw [source, run_error located]
    exact .refused (split ▸ by simp) null
  | nowhere passed =>
    rw [source, run_ok located]
    dsimp only
    have listing := namesInAll_cases suffix roots calm'
    rw [← next.disk] at listing
    rw [bind_run]
    generalize namesInAll suffix roots between = ran at listing ⊢
    obtain ⟨r, last⟩ := ran
    rcases listing with ⟨root, mem, fault, failing, ⟨⟩⟩ | ⟨lists, -, ⟨⟩⟩
    · exact .unlisted passed mem failing
    · exact .missing lists.flatten passed

/-- Where the path is too long in the first directory the search is at its end. -/
theorem source_of_isTooLong (calm : w.weather = .calm) (noNull : (root.join (relativePath name suffix)).hasNull = false)
    (long : w.disk.IsTooLong root (relativePath name suffix)) :
    (source name (.directories (root :: roots) encoding suffix) w).1
      = .error (.disk (Disk.failure (root.join (relativePath name suffix)) .nameTooLong)) := by
  rw [source, bind_run, locate_cons_run, noNull, if_neg Bool.false_ne_true, if_pos long.1, bind_run,
    Work.isFile_run calm, Disk.isFile_eq_error_iff.2 ⟨long.2, rfl⟩]
  rfl

theorem serves_of_source {found : TemplateSource} (calm : w.weather = .calm)
    (loaded : (source name (.directories roots encoding suffix) w).1 = .ok found) :
    ∃ path content changed, Serves w.disk roots (relativePath name suffix) path content changed
      ∧ sourceOf encoding path content changed = .ok found := by
  have outcome := outcome_source name roots encoding suffix calm
  generalize (source name (.directories roots encoding suffix) w).1 = r at outcome loaded
  cases outcome with
  | read serves => exact ⟨_, _, _, serves, loaded⟩
  | broken | refused | unlisted | missing => cases loaded

/-- **A file that is read for a name lies in one of the directories.** In calm weather, whatever the name: if the text
for it is answered then it is that of a file to which the path of the name leads in the first directory that offers
it, and this file lies in that directory. If no directory offers one then the template is not found, unless
something is in the way of saying so. -/
theorem source_is_inside (name : String) (roots : List DiskPath) (encoding : Encoding) (suffix : String)
    (calm : w.weather = .calm) :
    (∀ found, (source name (.directories roots encoding suffix) w).1 = .ok found →
      ∃ path content changed, Serves w.disk roots (relativePath name suffix) path content changed
        ∧ sourceOf encoding path content changed = .ok found)
    ∧ ((∀ root ∈ roots, ¬w.disk.Offers root (relativePath name suffix)) →
      ∃ fault, (source name (.directories roots encoding suffix) w).1 = .error fault
        ∧ ((∃ known, fault = notFound name known (", ".intercalate (roots.map (·.text))))
          ∨ Obstacle w.disk roots suffix (relativePath name suffix) fault)) := by
  refine ⟨fun found => serves_of_source calm, fun nowhere => ?_⟩
  have outcome := outcome_source name roots encoding suffix calm
  generalize (source name (.directories roots encoding suffix) w).1 = r at outcome
  cases outcome with
  | read serves =>
    obtain ⟨front, root, back, rfl, -, offers, -⟩ := serves.first
    exact absurd offers (nowhere root (by simp))
  | broken mem long => exact ⟨_, rfl, .inr (.candidate mem long)⟩
  | refused mem null => exact ⟨_, rfl, .inr (.null mem null)⟩
  | unlisted _ mem failing => exact ⟨_, rfl, .inr (obstacle_of_listing mem failing)⟩
  | missing known _ => exact ⟨_, rfl, .inl ⟨known, rfl⟩⟩

/-! ## A directory beside another one, and a name that is too long -/

/-- A disk with a directory of templates and one beside it whose name begins alike, and with files that hold the given
texts. -/
def shelf (files : List (List String × String)) : Disk :=
  ⟨["w"], [["w"], ["w", "t"], ["w", "tx"], ["w", "tx", "d"]].map (·, .directory (.zero false))
    ++ files.map fun (place, text) => (place, .file (Utf8.encode text.toList) (.ofInt 5))⟩

/-- Calm weather over such a disk. -/
def shelfWorld (files : List (List String × String)) : World :=
  ⟨shelf files, .ofInt 9, .calm, 0, []⟩

/-- A name of one character more than a file's name may have. -/
@[irreducible] def longName : String :=
  String.ofList (List.replicate (Disk.greatestName + 1) 'a')

theorem toList_longName : longName.toList = List.replicate (Disk.greatestName + 1) 'a' := by
  unfold longName
  exact String.toList_ofList

theorem not_mem_longName {c : Char} (other : c ≠ 'a') : c ∉ longName.toList := by
  rw [toList_longName]
  exact fun mem => other (List.eq_of_mem_replicate mem)

theorem greatestName_lt_longName : Disk.greatestName < longName.utf8ByteSize := by
  have digits : ∀ c ∈ longName.toList, isHexDigit c = true := by
    intro c mem
    rw [toList_longName] at mem
    rw [List.eq_of_mem_replicate mem]
    rfl
  rw [← String.ofList_toList (s := longName), Cache.size_of_isHexDigit digits, toList_longName, List.length_replicate]
  omega

theorem isFileName_longName : IsFileName longName := by
  have other {s : String} (short : s.utf8ByteSize ≤ Disk.greatestName) : longName ≠ s := by
    rintro rfl
    exact absurd greatestName_lt_longName (Nat.not_lt.2 short)
  exact ⟨other (by decide), other (by decide), other (by decide), not_mem_longName (by decide)⟩

theorem relativePath_longName : relativePath longName "" = ⟨.working, [longName]⟩ := by
  have named : ∀ name ∈ [longName], IsFileName name := List.forall_mem_singleton.2 isFileName_longName
  refine relativePath_eq named (List.cons_ne_nil _ _) ?_
  rw [slashed_eq_self (not_mem_longName (by decide)), joined_singleton, String.append_empty]

theorem hasNull_longName : ((DiskPath.read "t").join (relativePath longName "")).hasNull = false := by
  have plain : longName.toList.contains '\x00' = false := by
    simpa using not_mem_longName (c := '\x00') (by decide)
  rw [relativePath_longName]
  change (["t", longName].any (·.toList.contains '\x00')) = false
  rw [List.any_cons, List.any_cons, plain]
  rfl

theorem isTooLong_longName : (shelf []).IsTooLong (.read "t") (relativePath longName "") := by
  have named : ∀ name ∈ [longName], IsFileName name := List.forall_mem_singleton.2 isFileName_longName
  rw [relativePath_longName]
  exact Disk.isTooLong_of_long (by decide +kernel) (above_not_mem named) greatestName_lt_longName

/-- No directory offers a file of that name, but this is not what the loader says. -/
theorem long_name_breaks :
    (∀ root ∈ [DiskPath.read "t"], ¬(shelf []).Offers root (relativePath longName ""))
      ∧ ∃ fault, (source longName (.directories [.read "t"] .utf8 "") (shelfWorld [])).1 = .error fault
        ∧ fault.isNotFound = false := by
  refine ⟨fun root mem offers => ?_, _, source_of_isTooLong rfl hasNull_longName isTooLong_longName, rfl⟩
  rw [List.mem_singleton.1 mem] at offers
  cases (Disk.isFile_eq_error_iff.2 ⟨isTooLong_longName.2, rfl⟩).symm.trans offers.2

/-- A file in the directory of templates, and one in the directory beside it. -/
def neighbours : List (List String × String) :=
  [(["w", "t", "a"], "hi"), (["w", "tx", "s"], "key")]

set_option maxRecDepth 100000 in
/-- A name that leaves the directory and comes back is answered with the file in it; one that leads into the other
directory is not found. -/
theorem neighbour_is_out_of_reach :
    (∃ found path content changed,
      (source "../tx/../t\\./a" (.directories [.read "t"] .utf8 "") (shelfWorld neighbours)).1 = .ok found
        ∧ found.text = "hi"
        ∧ Serves (shelf neighbours) [.read "t"] (relativePath "../tx/../t\\./a" "") path content changed
        ∧ sourceOf .utf8 path content changed = .ok found)
    ∧ ∃ fault, (source "../tx/s" (.directories [.read "t"] .utf8 "") (shelfWorld neighbours)).1 = .error fault
      ∧ fault.isNotFound = true
      ∧ ((∃ known, fault = notFound "../tx/s" known (", ".intercalate ["t"]))
        ∨ Obstacle (shelf neighbours) [.read "t"] "" (relativePath "../tx/s" "") fault) := by
  have answered : ((source "../tx/../t\\./a" (.directories [.read "t"] .utf8 "")
      (shelfWorld neighbours)).1.toOption.map (·.text)) = some "hi" := by
    decide +kernel
  have refused : ((source "../tx/s" (.directories [.read "t"] .utf8 "") (shelfWorld neighbours)).1.map
      (·.text)).mapError Fault.isNotFound = .error true := by
    decide +kernel
  have outside : ∀ root ∈ [DiskPath.read "t"], ¬(shelf neighbours).Offers root (relativePath "../tx/s" "") := by
    decide +kernel
  obtain ⟨found, loaded, text⟩ := Option.map_eq_some_iff.1 answered
  have calm : (shelfWorld neighbours).weather = .calm := rfl
  obtain ⟨path, content, changed, serves, read⟩ := (source_is_inside _ _ _ _ calm).1 found (eq_ok_of_toOption loaded)
  obtain ⟨fault, failed, kind⟩ := (source_is_inside _ _ .utf8 _ calm).2 outside
  refine ⟨⟨found, path, content, changed, eq_ok_of_toOption loaded, text, serves, read⟩, fault, failed, ?_, kind⟩
  rw [failed] at refused
  exact Except.error.inj refused

end Loader

end Stencil
