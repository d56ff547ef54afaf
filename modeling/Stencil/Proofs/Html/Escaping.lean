import Stencil.Html.Escape

/-!
# Escaped text

Escaped text cannot open or close a tag, nor leave an attribute between quotes: it holds none of the four
characters that could, and every ampersand in it begins one of the five entities that escaping writes.
-/

namespace Stencil.Html

/-- The characters by which a text could become markup. -/
def markupChars : List Char := ['<', '>', '"', '\'']

/-- The entities that stand for the special characters. -/
def entities : List (List Char) :=
  ["&amp;", "&lt;", "&gt;", "&quot;", "&#x27;"].map String.toList

/-- The text holds no markup, and every ampersand in it begins an entity. -/
structure IsEscaped (cs : List Char) : Prop where
  noMarkup : ∀ c ∈ cs, c ∉ markupChars
  ampersand : ∀ rest, '&' :: rest <:+ cs → ∃ entity ∈ entities, entity <+: '&' :: rest

theorem isEscaped_nil : IsEscaped [] := by
  constructor
  · intro c mem
    cases mem
  · intro rest suffix
    cases List.suffix_nil.1 suffix

/-- A character that is not special may stand in front of escaped text. -/
theorem IsEscaped.cons {c : Char} {cs : List Char} (h : IsEscaped cs) (plain : c ∉ '&' :: markupChars) :
    IsEscaped (c :: cs) := by
  rw [List.mem_cons, not_or] at plain
  constructor
  · intro d mem
    rcases List.mem_cons.1 mem with rfl | mem
    · exact plain.2
    · exact h.noMarkup d mem
  · intro rest suffix
    rcases List.suffix_cons_iff.1 suffix with same | suffix
    · exact absurd (List.cons.inj same).1.symm plain.1
    · exact h.ampersand rest suffix

/-- An entity may stand in front of escaped text. -/
theorem IsEscaped.entity {body cs : List Char} (h : IsEscaped cs) (known : '&' :: body ∈ entities)
    (plain : ∀ c ∈ body, c ∉ '&' :: markupChars) : IsEscaped ('&' :: body ++ cs) := by
  have behind : IsEscaped (body ++ cs) := by
    clear known
    induction body with
    | nil => exact h
    | cons c body ih =>
      exact (ih fun d mem => plain d (List.mem_cons_of_mem _ mem)).cons (plain c List.mem_cons_self)
  constructor
  · intro c mem
    rcases List.mem_cons.1 mem with rfl | mem
    · decide
    · exact behind.noMarkup c mem
  · intro rest suffix
    rcases List.suffix_cons_iff.1 suffix with same | suffix
    · exact ⟨_, known, by rw [same]; exact List.prefix_append _ _⟩
    · exact behind.ampersand rest suffix

theorem isEscaped_flatMap (cs : List Char) : IsEscaped (cs.flatMap escapeChar) := by
  induction cs with
  | nil => exact isEscaped_nil
  | cons c rest ih =>
    rw [List.flatMap_cons]
    unfold escapeChar
    split
    · exact ih.entity (by decide) (by simp [markupChars])
    · exact ih.entity (by decide) (by simp [markupChars])
    · exact ih.entity (by decide) (by simp [markupChars])
    · exact ih.entity (by decide) (by simp [markupChars])
    · exact ih.entity (by decide) (by simp [markupChars])
    · next ampersand less greater double single =>
      refine ih.cons ?_
      simp only [markupChars, List.mem_cons, List.not_mem_nil, or_false, not_or]
      exact ⟨ampersand, less, greater, double, single⟩

theorem isEscaped_escape (s : String) : IsEscaped (escape s).toList := by
  rw [escape, String.toList_ofList]
  exact isEscaped_flatMap s.toList

end Stencil.Html
