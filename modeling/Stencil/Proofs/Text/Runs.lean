import Mathlib.Data.List.TakeWhile
import Stencil.Text.Blank

/-!
# Where runs end

A reader that takes the longest run of a class of characters stops in front of the first one that is not of
the class. `takeWhile_dropWhile_iff` says so of a text that is given in two parts, and is what the laws of all
readers rest on. A text that neither begins nor ends with a blank is what `strip` leaves of it between blanks.
-/

namespace Stencil

/-- Does the text begin with a character of the class `p`? -/
def beginsWith (p : Char → Bool) (cs : List Char) : Bool :=
  cs.head?.any p

@[simp] theorem beginsWith_nil (p : Char → Bool) : beginsWith p [] = false := rfl

@[simp] theorem beginsWith_cons (p : Char → Bool) (c : Char) (cs : List Char) :
    beginsWith p (c :: cs) = p c := rfl

theorem beginsWith_append {p : Char → Bool} {cs ds : List Char} (h : cs ≠ []) :
    beginsWith p (cs ++ ds) = beginsWith p cs := by
  cases cs with
  | nil => exact absurd rfl h
  | cons c rest => rfl

theorem beginsWith_of_forall {p : Char → Bool} {cs : List Char} (nonempty : cs ≠ []) (inside : ∀ c ∈ cs, p c) :
    beginsWith p cs := by
  obtain ⟨c, rest, rfl⟩ := List.exists_cons_of_ne_nil nonempty
  exact inside c List.mem_cons_self

theorem takeWhile_append_of_stop {p : Char → Bool} {run rest : List Char} (inside : ∀ c ∈ run, p c)
    (stop : beginsWith p rest = false) : (run ++ rest).takeWhile p = run := by
  rw [List.takeWhile_append_of_pos inside]
  cases rest with
  | nil => simp
  | cons c tail =>
    rw [beginsWith_cons] at stop
    simp [stop]

theorem dropWhile_append_of_stop {p : Char → Bool} {run rest : List Char} (inside : ∀ c ∈ run, p c)
    (stop : beginsWith p rest = false) : (run ++ rest).dropWhile p = rest := by
  rw [List.dropWhile_append_of_pos inside]
  cases rest with
  | nil => rfl
  | cons c tail =>
    rw [beginsWith_cons] at stop
    simp [stop]

theorem beginsWith_dropWhile (p : Char → Bool) (cs : List Char) : beginsWith p (cs.dropWhile p) = false := by
  induction cs with
  | nil => rfl
  | cons c rest ih =>
    rw [List.dropWhile_cons]
    split
    · exact ih
    · next h => simpa using h

/-- The run of a class at the start of a text, and what follows it. -/
theorem takeWhile_dropWhile_iff {p : Char → Bool} {cs run rest : List Char} :
    (cs.takeWhile p = run ∧ cs.dropWhile p = rest)
      ↔ cs = run ++ rest ∧ (∀ c ∈ run, p c) ∧ beginsWith p rest = false := by
  constructor
  · rintro ⟨rfl, rfl⟩
    exact ⟨List.takeWhile_append_dropWhile.symm,
      fun c h => List.all_eq_true.1 List.all_takeWhile c h, beginsWith_dropWhile p cs⟩
  · rintro ⟨rfl, inside, stop⟩
    exact ⟨takeWhile_append_of_stop inside stop, dropWhile_append_of_stop inside stop⟩

/-- A text is the run of a class at its start and the rest, which does not carry on the run. -/
theorem takeWhile_dropWhile_spec (p : Char → Bool) (cs : List Char) :
    cs = cs.takeWhile p ++ cs.dropWhile p ∧ (∀ c ∈ cs.takeWhile p, p c) ∧ beginsWith p (cs.dropWhile p) = false :=
  takeWhile_dropWhile_iff.1 ⟨rfl, rfl⟩

theorem dropWhile_eq_iff {p : Char → Bool} {cs rest : List Char} :
    cs.dropWhile p = rest ↔ ∃ run, cs = run ++ rest ∧ (∀ c ∈ run, p c) ∧ beginsWith p rest = false := by
  constructor
  · intro h
    exact ⟨_, takeWhile_dropWhile_iff.1 ⟨rfl, h⟩⟩
  · rintro ⟨run, split⟩
    exact (takeWhile_dropWhile_iff.2 split).2

/-! ## Blanks -/

/-- The blank characters. -/
def blankChars : List Char :=
  blankRanges.flatMap fun (low, high) => (List.range' low (high + 1 - low)).map Char.ofNat

theorem mem_blankChars {c : Char} (h : isBlank c) : c ∈ blankChars := by
  obtain ⟨range, mem, within⟩ := Ranges.exists_of_has h
  refine List.mem_flatMap.2 ⟨range, mem, List.mem_map.2 ⟨c.toNat, ?_, by simp⟩⟩
  rw [List.mem_range'_1]
  omega

/-- What holds of none of the blanks holds of no blank. -/
theorem not_of_isBlank {p : Char → Bool} (none : blankChars.all (fun c => !p c)) {c : Char} (h : isBlank c) :
    p c = false := by
  simpa using List.all_eq_true.1 none c (mem_blankChars h)

/-- Does the text neither begin nor end with a blank? -/
def isTrimmed (cs : List Char) : Bool :=
  !beginsWith isBlank cs && !beginsWith isBlank cs.reverse

theorem isTrimmed_of_forall {cs : List Char} (none : ∀ c ∈ cs, isBlank c = false) : isTrimmed cs := by
  have first : ∀ ds : List Char, (∀ c ∈ ds, c ∈ cs) → beginsWith isBlank ds = false := by
    intro ds sub
    cases ds with
    | nil => rfl
    | cons c rest => exact none c (sub c List.mem_cons_self)
  rw [isTrimmed, first cs fun c mem => mem, first cs.reverse fun c mem => List.mem_reverse.1 mem]
  rfl

theorem isTrimmed_append {xs ys : List Char} (hx : isTrimmed xs) (hy : isTrimmed ys) (first : xs ≠ [])
    (last : ys ≠ []) (between : List Char) : isTrimmed (xs ++ between ++ ys) := by
  simp only [isTrimmed, Bool.and_eq_true, Bool.not_eq_true'] at hx hy ⊢
  constructor
  · rw [List.append_assoc, beginsWith_append first]
    exact hx.1
  · rw [List.reverse_append, beginsWith_append (by simpa using last)]
    exact hy.2

theorem stripEnd_append_blanks {cs blanks : List Char} (blank : ∀ c ∈ blanks, isBlank c)
    (trimmed : beginsWith isBlank cs.reverse = false) : stripEnd (cs ++ blanks) = cs := by
  have reversed : ∀ c ∈ blanks.reverse, isBlank c := fun c h => blank c (List.mem_reverse.1 h)
  rw [stripEnd, List.reverse_append, dropWhile_append_of_stop reversed trimmed, List.reverse_reverse]

/-- At the end, a blank is stripped if nothing is left behind it. -/
theorem stripEnd_cons (c : Char) (cs : List Char) :
    stripEnd (c :: cs) = if isBlank c ∧ stripEnd cs = [] then [] else c :: stripEnd cs := by
  unfold stripEnd
  rw [List.reverse_cons, List.dropWhile_append]
  cases later : cs.reverse.dropWhile isBlank with
  | nil => cases blank : isBlank c <;> simp [blank]
  | cons d ds => simp

/-- What stands in front of a character that is no blank, and the character itself, are left. -/
theorem stripEnd_append_cons {c : Char} (solid : isBlank c = false) (front rest : List Char) :
    stripEnd (front ++ c :: rest) = front ++ c :: stripEnd rest := by
  induction front with
  | nil => rw [List.nil_append, stripEnd_cons, if_neg (by simp [solid])]; rfl
  | cons d front ih =>
    rw [List.cons_append, stripEnd_cons, ih, if_neg (by simp)]
    rfl

theorem stripEnd_eq_self {cs : List Char} (trimmed : isTrimmed cs) : stripEnd cs = cs := by
  simp only [isTrimmed, Bool.and_eq_true, Bool.not_eq_true'] at trimmed
  have same : stripEnd (cs ++ []) = cs := stripEnd_append_blanks (by simp) trimmed.2
  rwa [List.append_nil] at same

theorem isPrefix_stripEnd (cs : List Char) : stripEnd cs <+: cs := by
  rw [stripEnd, ← List.reverse_suffix, List.reverse_reverse]
  exact List.dropWhile_suffix _

theorem isInfix_strip (cs : List Char) : strip cs <:+: cs := by
  have start : stripStart cs <:+ cs := List.dropWhile_suffix _
  exact (isPrefix_stripEnd (stripStart cs)).isInfix.trans start.isInfix

/-- Between blanks, a text that is trimmed is what `strip` leaves. -/
theorem strip_padded {before cs after : List Char} (blankBefore : ∀ c ∈ before, isBlank c)
    (blankAfter : ∀ c ∈ after, isBlank c) (trimmed : isTrimmed cs) :
    strip (before ++ cs ++ after) = cs := by
  simp only [isTrimmed, Bool.and_eq_true, Bool.not_eq_true'] at trimmed
  cases cs with
  | nil =>
    have blank : ∀ c ∈ before ++ after, isBlank c := by
      intro c h
      exact (List.mem_append.1 h).elim (blankBefore c) (blankAfter c)
    have nothing : stripStart (before ++ [] ++ after) = [] := by
      rw [List.append_nil, stripStart, List.dropWhile_eq_nil_iff]
      exact blank
    rw [strip, nothing]
    rfl
  | cons c rest =>
    have start : stripStart (before ++ (c :: rest) ++ after) = c :: rest ++ after := by
      rw [List.append_assoc, stripStart, dropWhile_append_of_stop blankBefore]
      exact trimmed.1
    rw [strip, start, stripEnd_append_blanks blankAfter trimmed.2]

/-- A text is what `stripEnd` leaves of it, which does not end in a blank, and blanks. -/
theorem exists_blanks_behind (cs : List Char) :
    ∃ blanks, cs = stripEnd cs ++ blanks ∧ (∀ c ∈ blanks, isBlank c)
      ∧ beginsWith isBlank (stripEnd cs).reverse = false := by
  obtain ⟨split, blank, last⟩ := takeWhile_dropWhile_spec isBlank cs.reverse
  refine ⟨(cs.reverse.takeWhile isBlank).reverse, ?_, fun c mem => blank c (List.mem_reverse.1 mem), ?_⟩
  · have reversed := congrArg List.reverse split
    rwa [List.reverse_reverse, List.reverse_append] at reversed
  · rwa [stripEnd, List.reverse_reverse]

/-- A text is blanks around what `strip` leaves of it, which is trimmed. -/
theorem exists_padding (cs : List Char) :
    ∃ before after, cs = before ++ strip cs ++ after ∧ (∀ c ∈ before, isBlank c) ∧ (∀ c ∈ after, isBlank c)
      ∧ isTrimmed (strip cs) := by
  obtain ⟨split, blankBefore, first⟩ := takeWhile_dropWhile_spec isBlank cs
  obtain ⟨after, core, blankAfter, last⟩ := exists_blanks_behind (stripStart cs)
  have begins : beginsWith isBlank (strip cs) = false := by
    cases nonempty : strip cs with
    | nil => rfl
    | cons c rest =>
      rw [show cs.dropWhile isBlank = strip cs ++ after from core, nonempty] at first
      exact first
  refine ⟨_, after, ?_, blankBefore, blankAfter, ?_⟩
  · calc cs = cs.takeWhile isBlank ++ stripStart cs := split
      _ = cs.takeWhile isBlank ++ strip cs ++ after := by rw [core, ← List.append_assoc]; rfl
  · rw [isTrimmed, begins, strip, last]
    rfl

end Stencil
