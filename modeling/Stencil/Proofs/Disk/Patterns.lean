import Mathlib.Data.List.Basic
import Stencil.Disk.Pattern
import Stencil.Proofs.Disk.Names

/-!
# Patterns of plain characters

Which paths a pattern fits is said by `Pattern.Fits`, part by part. A pattern that is a star with plain characters
behind it fits the files whose path ends in these characters, and no others: the star stands for whatever is in front of
them (`Pattern.exists_read?_of_isPlain`). For this the characters may be no signs of patterns, and where they hold slashes
there have to be names that files can have between these.
-/

namespace Stencil

namespace Glyph

/-- Does the character stand for itself in a pattern? -/
def IsPlain (c : Char) : Prop :=
  c ≠ '*' ∧ c ≠ '?' ∧ c ≠ '['

instance (c : Char) : Decidable (IsPlain c) :=
  inferInstanceAs (Decidable (_ ∧ _))

variable {count : Nat} {cs ds : List Char}

theorem readAll_plain (plain : ∀ c ∈ cs, IsPlain c) (enough : cs.length ≤ count) :
    readAll count cs = cs.map literal := by
  induction cs generalizing count with
  | nil => cases count <;> rfl
  | cons c cs ih =>
    obtain ⟨⟨noStar, noMark, noBracket⟩, plain⟩ := List.forall_mem_cons.1 plain
    obtain ⟨count, rfl⟩ := Nat.exists_eq_add_of_le' (Nat.lt_of_lt_of_le (Nat.succ_pos _) enough)
    rw [readAll, ih plain (Nat.le_of_succ_le_succ enough), List.map_cons]
    · exact noStar
    · exact noMark
    · exact noBracket

theorem acceptAll_literals_iff : acceptAll (cs.map literal) ds = true ↔ ds = cs := by
  induction cs generalizing ds with
  | nil => simp [acceptAll]
  | cons c cs ih =>
    cases ds with
    | nil => simp [acceptAll]
    | cons d ds => simp [acceptAll, accepts, ih]

/-- A star stands for any characters. -/
theorem acceptAll_any_iff {glyphs : List Glyph} :
    acceptAll (any :: glyphs) ds = true ↔ ∃ back, back <:+ ds ∧ acceptAll glyphs back = true := by
  rw [acceptAll, List.any_eq_true]
  constructor
  · rintro ⟨n, -, accepted⟩
    exact ⟨ds.drop n, List.drop_suffix n ds, accepted⟩
  · rintro ⟨back, behind, accepted⟩
    rw [List.suffix_iff_eq_drop.1 behind] at accepted
    exact ⟨_, List.mem_range.2 (Nat.lt_succ_of_le (Nat.sub_le _ _)), accepted⟩

end Glyph

namespace Pattern

open DiskPath

/-- The parts fit a row of names that leads to a file: a part `**` fits any directories on the way, and each other part
fits one name. -/
inductive Fits : List PatternPart → List String → Prop
  | nil : Fits [] []
  | directories {part : PatternPart} {parts : List PatternPart} {names : List String} (front : List String) :
      Fits (part :: parts) names → Fits (.directories :: part :: parts) (front ++ names)
  | names {glyphs : List Glyph} {name : String} {parts : List PatternPart} {names : List String} :
      Glyph.acceptAll glyphs name.toList = true → Fits parts names → Fits (.names glyphs :: parts) (name :: names)
  | name {parts : List PatternPart} {names : List String} (name : String) :
      Fits parts names → Fits (.name name :: parts) (name :: names)

variable {names : List String} {suffix first : String} {parts back : List String}

/-- Something is in the way of a pattern to the file. -/
theorem Fits.ne_nil {part : PatternPart} {rest : List PatternPart} (h : Fits (part :: rest) names) : names ≠ [] := by
  generalize same : part :: rest = parts at h
  induction h generalizing part rest with
  | nil => cases same
  | directories front _ ih => exact fun none => ih rfl (List.append_eq_nil_iff.1 none).2
  | names => exact List.cons_ne_nil _ _
  | name => exact List.cons_ne_nil _ _

theorem fits_name_iff : Fits (parts.map .name) names ↔ names = parts := by
  constructor
  · intro h
    generalize same : parts.map PatternPart.name = all at h
    induction h generalizing parts with
    | nil => exact (List.map_eq_nil_iff.1 same).symm
    | directories =>
      obtain ⟨_, _, _, differs, _⟩ := List.map_eq_cons_iff.1 same
      cases differs
    | names =>
      obtain ⟨_, _, _, differs, _⟩ := List.map_eq_cons_iff.1 same
      cases differs
    | name name _ ih =>
      obtain ⟨_, _, rfl, ⟨⟩, rest⟩ := List.map_eq_cons_iff.1 same
      rw [ih rest]
  · rintro rfl
    induction names with
    | nil => exact .nil
    | cons name _ ih => exact .name name ih

theorem fits_directories_iff {part : PatternPart} {rest : List PatternPart} :
    Fits (.directories :: part :: rest) names ↔ ∃ back, back <:+ names ∧ Fits (part :: rest) back := by
  constructor
  · rintro ⟨⟩
    next back front h => exact ⟨back, List.suffix_append _ _, h⟩
  · rintro ⟨back, ⟨front, rfl⟩, h⟩
    exact .directories front h

theorem fits_names_iff {glyphs : List Glyph} {rest : List PatternPart} :
    Fits (.names glyphs :: rest) names
      ↔ ∃ name back, names = name :: back ∧ Glyph.acceptAll glyphs name.toList = true ∧ Fits rest back := by
  constructor
  · rintro ⟨⟩
    next accepted h => exact ⟨_, _, rfl, accepted, h⟩
  · rintro ⟨name, back, rfl, accepted, h⟩
    exact .names accepted h

/-! ## A star in front of plain characters -/

/-- Can the text stand behind a star, so that all of it stands for itself? None of its characters is a sign of
patterns, and behind its first slash, if it has one, there are names that files can have. -/
structure IsPlain (suffix : String) : Prop where
  literal : ∀ c ∈ suffix.toList, Glyph.IsPlain c
  parts : ∀ part ∈ (splitSlashes suffix.toList).tail, IsFileName part

theorem hasTwoStars_of_plain {cs : List Char} (plain : ∀ c ∈ cs, Glyph.IsPlain c) : hasTwoStars cs = false := by
  induction cs with
  | nil => rfl
  | cons c cs ih =>
    obtain ⟨⟨noStar, -, -⟩, plain⟩ := List.forall_mem_cons.1 plain
    unfold hasTwoStars
    split
    · next same => exact absurd (List.cons.inj same).1 noStar
    · next same =>
      obtain ⟨rfl, rfl⟩ := List.cons.inj same
      exact ih plain
    · rfl

theorem readPart?_plain {part : String} (plain : ∀ c ∈ part.toList, Glyph.IsPlain c) :
    readPart? part = some (.name part) := by
  have single : part ≠ "**" := by
    rintro rfl
    exact (plain '*' (by simp)).1 rfl
  have unsigned : part.toList.any isSign = false := by
    rw [List.any_eq_false]
    intro c mem
    simpa [isSign, Glyph.IsPlain, and_assoc] using plain c mem
  rw [readPart?, if_neg single, hasTwoStars_of_plain plain, unsigned]
  rfl

theorem mapM_readPart?_plain (plain : ∀ part ∈ parts, ∀ c ∈ part.toList, Glyph.IsPlain c) :
    parts.mapM readPart? = some (parts.map .name) := by
  induction parts with
  | nil => rfl
  | cons part parts ih =>
    obtain ⟨first, rest⟩ := List.forall_mem_cons.1 plain
    rw [List.mapM_cons, readPart?_plain first, ih rest]
    rfl

theorem readPart?_star {part : String} (plain : ∀ c ∈ part.toList, Glyph.IsPlain c) :
    readPart? ("*" ++ part) = some (.names (.any :: part.toList.map .literal)) := by
  have chars : ("*" ++ part).toList = '*' :: part.toList := by simp
  have single : "*" ++ part ≠ "**" := by
    intro same
    have second : part.toList = ['*'] := by
      rw [← String.toList_inj, chars] at same
      exact (List.cons.inj same).2
    exact (plain '*' (by simp [second])).1 rfl
  have one : hasTwoStars ('*' :: part.toList) = false := by
    unfold hasTwoStars
    split
    · next same => exact absurd rfl (plain '*' (by rw [(List.cons.inj same).2]; simp)).1
    · next same =>
      obtain ⟨-, rfl⟩ := List.cons.inj same
      exact hasTwoStars_of_plain plain
    · rfl
  have length : ("*" ++ part).length = part.toList.length + 1 := by
    rw [← String.length_toList, chars, List.length_cons]
  rw [readPart?, if_neg single, chars, one, length, Glyph.readAll, Glyph.readAll_plain plain le_rfl]
  simp [isSign]

/-- A text with names that files can have behind its first slash does not end in a slash. -/
theorem getLast?_ne_slash {s : String} (named : ∀ part ∈ (splitSlashes s.toList).tail, IsFileName part) :
    s.toList.getLast? ≠ some '/' := by
  intro ends
  obtain ⟨cs, chars⟩ := List.getLast?_eq_some_iff.1 ends
  have whole : s = String.ofList cs ++ "/" := by
    rw [← String.toList_inj, chars]
    simp
  obtain ⟨front, last, split⟩ := (List.eq_nil_or_concat _).resolve_left (splitSlashes_ne_nil (String.ofList cs).toList)
  have parts : splitSlashes s.toList = front ++ (last ++ "") :: [""] := by
    rw [whole]
    exact splitSlashes_append (split.trans List.concat_eq_append) (by decide)
  rw [parts] at named
  exact (named "" (by cases front <;> simp)).1 rfl

/-- A star with plain characters behind it is a pattern. -/
theorem read?_star (plain : IsPlain suffix) (split : splitSlashes suffix.toList = first :: back) :
    read? ("*" ++ suffix)
      = some ⟨.names (.any :: first.toList.map .literal) :: back.map .name, false⟩ := by
  have literal (part : String) (mem : part ∈ splitSlashes suffix.toList) : ∀ c ∈ part.toList, Glyph.IsPlain c := by
    obtain ⟨cs, inside, rfl⟩ := List.mem_map.1 mem
    intro c here
    rw [String.toList_ofList] at here
    exact plain.literal c (mem_of_mem_splitOn inside here).1
  have named : ∀ part ∈ back, IsFileName part := by
    have := plain.parts
    rwa [split] at this
  have whole : splitSlashes ("*" ++ suffix).toList = ("*" ++ first) :: back :=
    splitSlashes_append (show splitSlashes "*".toList = [] ++ ["*"] by decide) split
  have kept : readNames ("*" ++ suffix).toList = ("*" ++ first) :: back := by
    rw [readNames, whole, List.filter_eq_self]
    intro part mem
    apply decide_eq_true
    rcases List.mem_cons.1 mem with rfl | mem
    · have begins : ("*" ++ first).toList.head? = some '*' := by simp
      constructor
      · intro same
        simp [same] at begins
      · intro same
        simp [same] at begins
    · exact ⟨(named part mem).1, (named part mem).2.1⟩
  have ends : ("*" ++ suffix).toList.getLast? ≠ some '/' := by
    apply getLast?_ne_slash
    rwa [whole]
  have read : back.mapM readPart? = some (back.map .name) :=
    mapM_readPart?_plain fun part mem => literal part (split ▸ List.mem_cons_of_mem _ mem)
  have readFirst := readPart?_star (literal first (split ▸ List.mem_cons_self))
  rw [read?, kept, List.mapM_cons, readFirst, read, decide_eq_false ends]
  rfl

/-- A star with plain characters behind it fits the files whose path ends in these characters. None of its parts leads
to the directory above. -/
theorem exists_read?_of_isPlain (plain : IsPlain suffix) :
    ∃ pattern, read? ("*" ++ suffix) = some pattern ∧ pattern.directory = false ∧ .name above ∉ pattern.parts
      ∧ ∀ names, names ≠ [] → (∀ name ∈ names, '/' ∉ name.toList) →
        (Fits (.directories :: pattern.parts) names ↔ ∃ stem, joined names = stem ++ suffix) := by
  obtain ⟨first, back, split⟩ := List.exists_cons_of_ne_nil (splitSlashes_ne_nil suffix.toList)
  refine ⟨_, read?_star plain split, rfl, ?_, fun names some apart => ?_⟩
  · have named := plain.parts
    rw [split] at named
    simpa using fun mem => (named above mem).2.2.1 rfl
  rw [fits_directories_iff]
  constructor
  · rintro ⟨rest, ⟨front, rfl⟩, fitting⟩
    obtain ⟨name, rest, rfl, accepted, fitting⟩ := fits_names_iff.1 fitting
    obtain rfl := fits_name_iff.1 fitting
    obtain ⟨_, ⟨stem, whole⟩, ending⟩ := Glyph.acceptAll_any_iff.1 accepted
    obtain rfl := Glyph.acceptAll_literals_iff.1 ending
    have named : name = String.ofList stem ++ first := by
      rw [← String.toList_inj, ← whole]
      simp
    refine ⟨joined (front ++ [String.ofList stem]), ?_⟩
    rw [named, joined_append, ← split, joined_splitSlashes]
  · rintro ⟨stem, whole⟩
    obtain ⟨front, last, splitStem⟩ := (List.eq_nil_or_concat _).resolve_left (splitSlashes_ne_nil stem.toList)
    have same : names = front ++ (last ++ first) :: back := by
      rw [← splitSlashes_joined apart some, whole]
      exact splitSlashes_append (splitStem.trans List.concat_eq_append) split
    refine ⟨(last ++ first) :: back, ⟨front, same.symm⟩, fits_names_iff.2 ⟨_, _, rfl, ?_, fits_name_iff.2 rfl⟩⟩
    exact Glyph.acceptAll_any_iff.2 ⟨first.toList, ⟨last.toList, by simp⟩, Glyph.acceptAll_literals_iff.2 rfl⟩

theorem read?_ne_none (plain : IsPlain suffix) : read? ("*" ++ suffix) ≠ none := by
  obtain ⟨pattern, read, -⟩ := exists_read?_of_isPlain plain
  rw [read]
  exact Option.some_ne_none pattern

end Pattern

end Stencil
