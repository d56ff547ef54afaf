import Mathlib.Data.List.Chain
import Stencil.Proofs.Text.Runs
import Stencil.Token.Directive

/-!
# Delimiters in texts

Tags are delimited by pairs of characters. A text avoids a pair if the second character never follows the
first one in it. A block tag ends at its first `%}`, so its inside avoids that pair, and a `{%` outside of a
tag, or inside of one, is a tag that was never closed.
-/

namespace Stencil

/-- The character `b` never stands right behind `a`. -/
def Avoids (a b : Char) (cs : List Char) : Prop :=
  cs.IsChain fun x y => ¬ (x = a ∧ y = b)

variable {a b : Char}

theorem avoids_nil : Avoids a b [] := .nil

theorem avoids_cons {c : Char} {cs : List Char} :
    Avoids a b (c :: cs) ↔ ¬ (c = a ∧ cs.head? = some b) ∧ Avoids a b cs := by
  unfold Avoids
  rw [List.isChain_cons]
  cases cs <;> simp

theorem avoids_append {xs ys : List Char} :
    Avoids a b (xs ++ ys)
      ↔ Avoids a b xs ∧ Avoids a b ys ∧ ¬ (xs.getLast? = some a ∧ ys.head? = some b) := by
  unfold Avoids
  rw [List.isChain_append]
  simp only [Option.mem_def]
  constructor
  · rintro ⟨hx, hy, border⟩
    exact ⟨hx, hy, fun h => border a h.1 b h.2 ⟨rfl, rfl⟩⟩
  · rintro ⟨hx, hy, border⟩
    refine ⟨hx, hy, ?_⟩
    rintro x hl y hh ⟨rfl, rfl⟩
    exact border ⟨hl, hh⟩

theorem Avoids.within {xs ys : List Char} (h : Avoids a b ys) (part : xs <:+: ys) : Avoids a b xs := by
  obtain ⟨before, after, rfl⟩ := part
  exact (avoids_append.1 (avoids_append.1 h).1).2.1

theorem avoids_of_first_not_mem {cs : List Char} (h : a ∉ cs) : Avoids a b cs := by
  induction cs with
  | nil => exact avoids_nil
  | cons c rest ih =>
    rw [List.mem_cons, not_or] at h
    exact avoids_cons.2 ⟨fun pair => h.1 pair.1.symm, ih h.2⟩

/-- Blanks around a text are no part of a delimiter. -/
theorem avoids_padded {before cs after : List Char} (solid : isBlank a = false ∧ isBlank b = false)
    (blankBefore : ∀ c ∈ before, isBlank c) (blankAfter : ∀ c ∈ after, isBlank c) (avoids : Avoids a b cs) :
    Avoids a b (before ++ cs ++ after) := by
  have absent : ∀ {blanks : List Char}, (∀ c ∈ blanks, isBlank c) → a ∉ blanks ∧ b ∉ blanks := fun blank =>
    ⟨fun mem => by simpa [solid.1] using blank a mem, fun mem => by simpa [solid.2] using blank b mem⟩
  refine avoids_append.2 ⟨avoids_append.2 ⟨?_, avoids, ?_⟩, ?_, ?_⟩
  · exact avoids_of_first_not_mem (absent blankBefore).1
  · exact fun border => (absent blankBefore).1 (List.mem_of_getLast? border.1)
  · exact avoids_of_first_not_mem (absent blankAfter).1
  · exact fun border => (absent blankAfter).2 (List.mem_of_head? border.2)

theorem not_avoids_pair (before after : List Char) : ¬ Avoids a b (before ++ a :: b :: after) := by
  intro h
  exact (avoids_cons.1 (avoids_append.1 h).2.1).1 ⟨rfl, rfl⟩

/-- The inside of a block tag is what stands in front of the first `%}`. -/
theorem readBlock?_eq_some_iff {cs inner rest : List Char} :
    readBlock? cs = some (inner, rest) ↔ cs = inner ++ '%' :: '}' :: rest ∧ Avoids '%' '}' inner := by
  fun_induction readBlock? cs generalizing inner with
  | case1 => simp
  | case2 tail =>
    constructor
    · rintro ⟨⟩
      exact ⟨rfl, avoids_nil⟩
    · rintro ⟨same, avoids⟩
      cases inner with
      | nil => simp_all
      | cons c inner =>
        exfalso
        simp only [List.cons_append, List.cons.injEq] at same
        obtain ⟨rfl, same⟩ := same
        cases inner with
        | nil => simp at same
        | cons d inner =>
          simp only [List.cons_append, List.cons.injEq] at same
          exact (avoids_cons.1 avoids).1 ⟨rfl, by rw [← same.1]; rfl⟩
  | case3 c tail open' ih =>
    constructor
    · intro h
      obtain ⟨⟨inner', rest'⟩, found, same⟩ := Option.map_eq_some_iff.1 h
      obtain ⟨rfl, rfl⟩ := Prod.mk.inj same
      obtain ⟨rfl, avoids⟩ := ih.1 found
      refine ⟨rfl, avoids_cons.2 ⟨?_, avoids⟩⟩
      rintro ⟨rfl, head⟩
      cases inner' with
      | nil => simp at head
      | cons d inner =>
        obtain rfl : d = '}' := Option.some.inj head
        exact open' _ rfl rfl
    · rintro ⟨same, avoids⟩
      cases inner with
      | nil =>
        simp only [List.nil_append, List.cons.injEq] at same
        exact absurd same.2 (fun h => open' rest same.1 h)
      | cons d inner =>
        simp only [List.cons_append, List.cons.injEq] at same
        obtain ⟨rfl, rfl⟩ := same
        rw [ih.2 ⟨rfl, (avoids_cons.1 avoids).2⟩]
        rfl

theorem splitAtOpening?_eq_none_iff {cs : List Char} :
    Directive.splitAtOpening? cs = none ↔ Avoids '{' '%' cs := by
  fun_induction Directive.splitAtOpening? cs with
  | case1 => exact ⟨fun _ => avoids_nil, fun _ => rfl⟩
  | case2 rest =>
    refine ⟨fun h => ?_, fun h => ?_⟩
    · cases h
    · exact absurd h (not_avoids_pair [] rest)
  | case3 c rest closed ih =>
    rw [Option.map_eq_none_iff, ih, avoids_cons]
    refine ⟨fun h => ⟨?_, h⟩, fun h => h.2⟩
    rintro ⟨rfl, head⟩
    cases rest with
    | nil => simp at head
    | cons d rest =>
      obtain rfl : d = '%' := Option.some.inj head
      exact closed _ rfl rfl

/-! ## Texts that form no delimiter with their neighbours -/

/-- Does a delimiter of a block tag consist of such characters? -/
def isDelimiter (c : Char) : Bool :=
  c = '{' || c = '%' || c = '}'

/-- No delimiter of a block tag stands in the text, and none can arise where it meets another such text. -/
structure Quiet (cs : List Char) : Prop where
  closes : Avoids '%' '}' cs
  opens : Avoids '{' '%' cs
  begins : beginsWith isDelimiter cs = false
  ends : beginsWith isDelimiter cs.reverse = false

theorem isDelimiter_of_getLast? {cs : List Char} {c : Char} (last : cs.getLast? = some c) :
    beginsWith isDelimiter cs.reverse = isDelimiter c := by
  rw [beginsWith, List.head?_reverse, last]
  rfl

theorem Quiet.append {xs ys : List Char} (hx : Quiet xs) (hy : Quiet ys) : Quiet (xs ++ ys) := by
  -- the last character of the first text is no part of a delimiter
  have border : ∀ a b, isDelimiter a → ¬ (xs.getLast? = some a ∧ ys.head? = some b) := by
    rintro a b delimits ⟨last, -⟩
    have := hx.ends
    rw [isDelimiter_of_getLast? last, delimits] at this
    cases this
  refine ⟨?_, ?_, ?_, ?_⟩
  · exact avoids_append.2 ⟨hx.closes, hy.closes, border _ _ (by decide)⟩
  · exact avoids_append.2 ⟨hx.opens, hy.opens, border _ _ (by decide)⟩
  · cases xs with
    | nil => exact hy.begins
    | cons c rest => exact hx.begins
  · rw [List.reverse_append]
    cases reversed : ys.reverse with
    | nil => exact hx.ends
    | cons c rest =>
      have := hy.ends
      rw [reversed] at this
      exact this

/-- A text without any of the characters is quiet. -/
theorem quiet_of_all {cs : List Char} (all : cs.all (!isDelimiter ·)) : Quiet cs := by
  have none : ∀ c ∈ cs, isDelimiter c = false := by simpa using all
  have absent : ∀ a, isDelimiter a → a ∉ cs := by
    intro a delimits mem
    rw [none a mem] at delimits
    cases delimits
  have first : ∀ ds : List Char, (∀ c ∈ ds, c ∈ cs) → beginsWith isDelimiter ds = false := by
    intro ds sub
    cases ds with
    | nil => rfl
    | cons c rest => exact none c (sub c List.mem_cons_self)
  refine ⟨avoids_of_first_not_mem (absent _ (by decide)), avoids_of_first_not_mem (absent _ (by decide)), ?_, ?_⟩
  · exact first cs fun c mem => mem
  · exact first cs.reverse fun c mem => List.mem_reverse.1 mem

/-- Is `c` neither a blank nor part of a delimiter? -/
def isSolid (c : Char) : Bool :=
  !isBlank c && !isDelimiter c

theorem quiet_of_solid {cs : List Char} (solid : ∀ c ∈ cs, isSolid c) : Quiet cs := by
  apply quiet_of_all
  rw [List.all_eq_true]
  intro c mem
  have here := solid c mem
  rw [isSolid, Bool.and_eq_true] at here
  exact here.2

theorem isTrimmed_of_solid {cs : List Char} (solid : ∀ c ∈ cs, isSolid c) : isTrimmed cs := by
  apply isTrimmed_of_forall
  intro c mem
  have here := solid c mem
  rw [isSolid, Bool.and_eq_true, Bool.not_eq_true'] at here
  exact here.1

end Stencil
