import Stencil.Proofs.Text.Runs
import Stencil.Token.Piece

/-!
# Names, paths and filters

How names, dotted paths and rows of filters are spelled, and that their readers take exactly what is spelled
so, as much of it as there is. What follows a path must not carry it on: no letter, digit or underscore, and
no point with such a character behind it.
-/

namespace Stencil

/-- A name: a letter or an underscore, and then letters, digits and underscores. -/
def IsName (cs : List Char) : Prop :=
  beginsWith isNameStart cs = true ∧ ∀ c ∈ cs, isNameChar c

/-- Any number of segments, each with a point in front. -/
inductive IsDotted : List Char → Prop where
  | nil : IsDotted []
  | cons {segment rest : List Char} : segment ≠ [] → (∀ c ∈ segment, isNameChar c) → IsDotted rest →
      IsDotted ('.' :: segment ++ rest)

/-- A dotted path: a name and any number of segments. -/
def IsPath (cs : List Char) : Prop :=
  ∃ name segments, cs = name ++ segments ∧ IsName name ∧ IsDotted segments

/-- Would the text carry on a path that stands in front of it? -/
def extendsPath : List Char → Bool
  | '.' :: rest => beginsWith isNameChar rest
  | cs => beginsWith isNameChar cs

/-- Filters with the bars in front of them and blanks around the bars. -/
inductive SpellsFilters : List Char → List (List Char) → Prop where
  | nil : SpellsFilters [] []
  | cons {before after name rest : List Char} {names : List (List Char)} :
      (∀ c ∈ before, isSpace c) → (∀ c ∈ after, isSpace c) → IsName name → SpellsFilters rest names →
      SpellsFilters (before ++ '|' :: after ++ name ++ rest) (name :: names)

theorem isNameChar_of_isNameStart {c : Char} (h : isNameStart c) : isNameChar c := by
  simp only [isNameStart, isNameChar, Char.isAlphanum, Bool.or_eq_true] at h ⊢
  rcases h with h | h <;> simp [h]

theorem isName_of_all {cs : List Char} (all : (beginsWith isNameStart cs && cs.all isNameChar) = true) :
    IsName cs := by
  rw [Bool.and_eq_true] at all
  exact ⟨all.1, List.all_eq_true.1 all.2⟩

theorem IsName.ne_nil {cs : List Char} (h : IsName cs) : cs ≠ [] := by
  rintro rfl
  exact absurd h.1 (by decide)

theorem IsPath.ne_nil {cs : List Char} (h : IsPath cs) : cs ≠ [] := by
  obtain ⟨name, segments, rfl, named, -⟩ := h
  exact List.append_ne_nil_of_left_ne_nil named.ne_nil segments

theorem IsName.isPath {cs : List Char} (h : IsName cs) : IsPath cs :=
  ⟨cs, [], (List.append_nil cs).symm, h, .nil⟩

theorem IsPath.beginsWith_isNameStart {cs : List Char} (h : IsPath cs) : beginsWith isNameStart cs = true := by
  obtain ⟨name, segments, rfl, named, -⟩ := h
  rw [beginsWith_append named.ne_nil]
  exact named.1

/-- Nothing but name characters and points stands in a path. -/
theorem IsPath.mem {cs : List Char} (h : IsPath cs) {c : Char} (mem : c ∈ cs) : isNameChar c ∨ c = '.' := by
  obtain ⟨name, segments, rfl, named, dotted⟩ := h
  rcases List.mem_append.1 mem with mem | mem
  · exact .inl (named.2 c mem)
  · induction dotted with
    | nil => simp at mem
    | cons _ inside _ ih =>
      simp only [List.cons_append, List.mem_cons, List.mem_append] at mem
      rcases mem with rfl | mem | mem
      · exact .inr rfl
      · exact .inl (inside c mem)
      · exact ih (List.mem_append_right _ mem) mem

theorem not_beginsWith_of_not_extendsPath {cs : List Char} (h : extendsPath cs = false) :
    beginsWith isNameChar cs = false := by
  unfold extendsPath at h
  split at h
  · rfl
  · exact h

/-! ## Readers -/

theorem readName?_eq_some_iff {cs name rest : List Char} :
    readName? cs = some (name, rest)
      ↔ cs = name ++ rest ∧ IsName name ∧ beginsWith isNameChar rest = false := by
  constructor
  · intro h
    cases cs with
    | nil => simp [readName?] at h
    | cons c tail =>
      simp only [readName?] at h
      split at h
      · next starts =>
        obtain ⟨named, left⟩ := Prod.mk.inj (Option.some.inj h)
        obtain ⟨same, inside, stop⟩ := takeWhile_dropWhile_iff.1 ⟨named, left⟩
        refine ⟨same, ⟨?_, inside⟩, stop⟩
        rw [← named, List.takeWhile_cons, if_pos (isNameChar_of_isNameStart starts)]
        exact starts
      · cases h
  · rintro ⟨rfl, ⟨starts, inside⟩, stop⟩
    cases name with
    | nil => cases starts
    | cons c tail =>
      rw [List.cons_append, readName?, if_pos (show isNameStart c from starts), ← List.cons_append,
        takeWhile_append_of_stop inside stop, dropWhile_append_of_stop inside stop]

theorem IsDotted.readSegments {segments rest : List Char} (dotted : IsDotted segments)
    (stop : extendsPath rest = false) : readSegments (segments ++ rest) = (segments, rest) := by
  induction dotted with
  | nil =>
    rw [List.nil_append, Stencil.readSegments.eq_def]
    split
    · next tail =>
      have none : tail.takeWhile isNameChar = [] := by
        cases tail with
        | nil => rfl
        | cons c _ =>
          have : isNameChar c = false := stop
          simp [this]
      rw [none]
    · rfl
  | @cons segment more nonempty inside dotted ih =>
    have stops : beginsWith isNameChar (more ++ rest) = false := by
      cases dotted with
      | nil => exact not_beginsWith_of_not_extendsPath stop
      | cons => rfl
    have tail : '.' :: segment ++ more ++ rest = '.' :: (segment ++ (more ++ rest)) := by simp
    rw [tail, Stencil.readSegments.eq_def]
    simp only [takeWhile_append_of_stop inside stops, dropWhile_append_of_stop inside stops, ih]

theorem readSegments_spec (cs : List Char) (stop : beginsWith isNameChar cs = false) :
    cs = (readSegments cs).1 ++ (readSegments cs).2 ∧ IsDotted (readSegments cs).1
      ∧ extendsPath (readSegments cs).2 = false := by
  fun_induction readSegments cs with
  | case1 tail none =>
    refine ⟨rfl, .nil, ?_⟩
    cases tail with
    | nil => rfl
    | cons c _ =>
      rw [List.takeWhile_cons] at none
      split at none
      · cases none
      · next h => simpa [extendsPath] using h
  | case2 tail segments rest again nonempty ih =>
    obtain ⟨same, inside, stops⟩ := takeWhile_dropWhile_spec isNameChar tail
    rw [again] at ih
    obtain ⟨split, dotted, ends⟩ := ih stops
    refine ⟨?_, .cons nonempty inside dotted, ends⟩
    rw [List.append_assoc, ← split, List.cons_append, ← same]
  | case3 cs other =>
    refine ⟨rfl, .nil, ?_⟩
    unfold extendsPath
    split
    · next same => exact (other _ same).elim
    · exact stop

theorem readPath?_eq_some_iff {cs path rest : List Char} :
    readPath? cs = some (path, rest) ↔ cs = path ++ rest ∧ IsPath path ∧ extendsPath rest = false := by
  constructor
  · intro h
    obtain ⟨⟨name, afterName⟩, named, same⟩ := Option.map_eq_some_iff.1 h
    obtain ⟨rfl, isName, stop⟩ := readName?_eq_some_iff.1 named
    obtain ⟨split, dotted, ends⟩ := readSegments_spec afterName stop
    obtain ⟨rfl, rfl⟩ := Prod.mk.inj same
    refine ⟨?_, ⟨name, _, rfl, isName, dotted⟩, ends⟩
    rw [List.append_assoc, ← split]
  · rintro ⟨rfl, ⟨name, segments, rfl, isName, dotted⟩, ends⟩
    have stop : beginsWith isNameChar (segments ++ rest) = false := by
      cases dotted with
      | nil => exact not_beginsWith_of_not_extendsPath ends
      | cons => rfl
    rw [readPath?, List.append_assoc, readName?_eq_some_iff.2 ⟨rfl, isName, stop⟩, Option.map_some]
    dsimp only
    rw [dotted.readSegments ends]

/-! ## Filters -/

theorem isNameChar_of_isSpace {c : Char} (h : isSpace c) : isNameChar c = false := by
  simp only [isSpace, Bool.or_eq_true, decide_eq_true_eq] at h
  rcases h with rfl | rfl <;> decide

theorem readFilters_spec (cs : List Char) :
    ∃ spelled, cs = spelled ++ (readFilters cs).2 ∧ SpellsFilters spelled (readFilters cs).1 := by
  fun_induction readFilters cs with
  | case1 cs tail found name rest named names rest' again ih =>
    obtain ⟨before, blank, -⟩ := takeWhile_dropWhile_spec isSpace cs
    obtain ⟨after, blank', -⟩ := takeWhile_dropWhile_spec isSpace tail
    rw [found] at before
    obtain ⟨split, isName, -⟩ := readName?_eq_some_iff.1 named
    obtain ⟨spelled, same, spells⟩ := ih
    rw [again] at same spells
    refine ⟨_, ?_, .cons blank blank' isName spells⟩
    calc cs = cs.takeWhile isSpace ++ '|' :: tail := before
      _ = cs.takeWhile isSpace ++ '|' :: (tail.takeWhile isSpace ++ (name ++ (spelled ++ rest'))) := by
        rw [← show rest = spelled ++ rest' from same, ← split, ← after]
      _ = _ := by simp
  | case2 cs => exact ⟨[], rfl, .nil⟩
  | case3 cs => exact ⟨[], rfl, .nil⟩

/-- A row of filters does not carry on a path or a name in front of it. -/
theorem SpellsFilters.not_extendsPath {spelled rest : List Char} {names : List (List Char)}
    (spells : SpellsFilters spelled names) (stop : extendsPath rest = false) :
    extendsPath (spelled ++ rest) = false := by
  cases spells with
  | nil => exact stop
  | @cons before after name more names blank =>
    cases before with
    | nil => rfl
    | cons c before =>
      have space := blank c List.mem_cons_self
      have notDot : c ≠ '.' := by rintro rfl; revert space; decide
      simp [extendsPath, notDot, isNameChar_of_isSpace space]

theorem SpellsFilters.readFilters {spelled rest : List Char} {names : List (List Char)}
    (spells : SpellsFilters spelled names) :
    readFilters (spelled ++ '}' :: rest) = (names, '}' :: rest) := by
  induction spells with
  | nil =>
    rw [Stencil.readFilters.eq_def]
    rfl
  | @cons before after name more names blank blank' named spells ih =>
    have stop : beginsWith isNameChar (more ++ '}' :: rest) = false :=
      not_beginsWith_of_not_extendsPath (spells.not_extendsPath rfl)
    have starts : beginsWith isSpace (name ++ (more ++ '}' :: rest)) = false := by
      rw [beginsWith_append named.ne_nil]
      cases name with
      | nil => rfl
      | cons c _ =>
        by_contra space
        have := isNameChar_of_isSpace (by simpa using space)
        rw [named.2 c List.mem_cons_self] at this
        cases this
    have split : before ++ '|' :: after ++ name ++ more ++ '}' :: rest
        = before ++ '|' :: (after ++ (name ++ (more ++ '}' :: rest))) := by simp
    have bar : (before ++ '|' :: (after ++ (name ++ (more ++ '}' :: rest)))).dropWhile isSpace
        = '|' :: (after ++ (name ++ (more ++ '}' :: rest))) := dropWhile_append_of_stop blank rfl
    have word : readName? ((after ++ (name ++ (more ++ '}' :: rest))).dropWhile isSpace)
        = some (name, more ++ '}' :: rest) := by
      rw [dropWhile_append_of_stop blank' starts]
      exact readName?_eq_some_iff.2 ⟨rfl, named, stop⟩
    rw [split, Stencil.readFilters.eq_def]
    split
    · next tail found =>
      obtain ⟨-, rfl⟩ := List.cons.inj (bar.symm.trans found)
      split
      · next name' rest' named' =>
        obtain ⟨rfl, rfl⟩ := Prod.mk.inj (Option.some.inj (word.symm.trans named'))
        rw [ih]
      · next none =>
        rw [word] at none
        cases none
    · next other => exact (other _ bar).elim

theorem SpellsFilters.isName {spelled : List Char} {names : List (List Char)}
    (spells : SpellsFilters spelled names) : ∀ name ∈ names, IsName name := by
  induction spells with
  | nil => simp
  | cons _ _ named _ ih =>
    intro name mem
    rcases List.mem_cons.1 mem with rfl | mem
    · exact named
    · exact ih name mem

/-- Filters may be written without blanks. -/
theorem spellsFilters_flatMap {names : List (List Char)} (named : ∀ name ∈ names, IsName name) :
    SpellsFilters (names.flatMap ('|' :: ·)) names := by
  induction names with
  | nil => exact .nil
  | cons name rest ih =>
    have tail := ih fun other mem => named other (List.mem_cons_of_mem _ mem)
    have spells : SpellsFilters ([] ++ '|' :: [] ++ name ++ rest.flatMap ('|' :: ·)) (name :: rest) :=
      .cons (by simp) (by simp) (named name List.mem_cons_self) tail
    simpa using spells

end Stencil
