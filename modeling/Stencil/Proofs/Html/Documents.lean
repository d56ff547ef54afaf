import Mathlib.Data.List.Forall2
import Stencil.Proofs.Html.Escaping
import Stencil.Proofs.Html.Gaps

/-!
# Documents

A document is made of tags and of runs of text between them. A value between quotes may hold a `>` and a `<`, and a run
may hold a `>`; minification, which looks for gaps and not for tags, removes blanks there too. So of a document, a
document of the same shape is left, with the same names and labels (`exists_document_of_tightens`): a value keeps all
but some of its gaps, and a run all but blanks at its end that lie behind a `>`. Values without gaps, and runs of text
that begin none, stay as they are (`minify_document`).
-/

namespace Stencil.Html

/-! ## Documents and their parts -/

/-- A value between quotes: any characters but the quote. -/
@[ext]
structure Quoted where
  quote : Char
  chars : List Char
  isQuote : quote = '"' ∨ quote = '\''
  apart : quote ∉ chars

/-- An attribute: all that stands in front of its value, with the blanks, the name and the `=`, and the value, if there
is one between quotes. -/
structure Attribute where
  label : List Char
  value? : Option Quoted
  plain : ∀ c ∈ label, c ∉ markupChars

/-- A tag. The names of closing tags begin with a slash. -/
structure Tag where
  name : List Char
  attributes : List Attribute
  plain : ∀ c ∈ name, c ∉ markupChars

/-- A run of text. -/
@[ext]
structure Run where
  chars : List Char
  plain : '<' ∉ chars

/-- Runs of text with a tag between each two; a run may be empty. -/
inductive Document where
  | last (run : Run)
  | cons (run : Run) (tag : Tag) (rest : Document)

def Quoted.written (v : Quoted) : List Char :=
  v.quote :: (v.chars ++ [v.quote])

def Attribute.written (a : Attribute) : List Char :=
  a.label ++ a.value?.elim [] Quoted.written

def Tag.written (t : Tag) : List Char :=
  '<' :: (t.name ++ t.attributes.flatMap Attribute.written ++ ['>'])

def Document.written : Document → List Char
  | .last run => run.chars
  | .cons run tag rest => run.chars ++ tag.written ++ rest.written

/-- The values of all attributes. -/
def Document.values : Document → List Quoted
  | .last _ => []
  | .cons _ tag rest => tag.attributes.filterMap Attribute.value? ++ rest.values

def Document.runs : Document → List Run
  | .last run => [run]
  | .cons run _ rest => run :: rest.runs

/-- Without the blanks at its start. -/
def Run.trimStart (r : Run) : Run :=
  ⟨stripStart r.chars, fun mem => r.plain ((List.dropWhile_sublist _).subset mem)⟩

/-- Without the blanks at its end. -/
def Run.trimEnd (r : Run) : Run :=
  ⟨stripEnd r.chars, fun mem =>
    r.plain (List.mem_reverse.1 ((List.dropWhile_sublist _).subset (List.mem_reverse.1 mem)))⟩

def Document.trimStart : Document → Document
  | .last run => .last run.trimStart
  | .cons run tag rest => .cons run.trimStart tag rest

def Document.trimEnd : Document → Document
  | .last run => .last run.trimEnd
  | .cons run tag rest => .cons run tag rest.trimEnd

/-- The document without the blanks at both ends. -/
def Document.trimmed (d : Document) : Document :=
  d.trimStart.trimEnd

theorem Run.stripStart_append (r : Run) (rest : List Char) :
    stripStart (r.chars ++ '<' :: rest) = r.trimStart.chars ++ '<' :: rest := by
  rw [stripStart, List.dropWhile_append]
  split
  · next empty =>
    have none : r.trimStart.chars = [] := List.isEmpty_iff.1 empty
    rw [none, List.dropWhile_cons_of_neg (by decide)]
    rfl
  · rfl

theorem Tag.stripEnd_append (t : Tag) (front rest : List Char) :
    stripEnd (front ++ t.written ++ rest) = front ++ t.written ++ stripEnd rest := by
  have apart (back : List Char) : front ++ t.written ++ back
      = front ++ '<' :: (t.name ++ t.attributes.flatMap Attribute.written) ++ '>' :: back := by
    simp [Tag.written]
  rw [apart, stripEnd_append_cons (by decide), ← apart]

theorem Document.written_trimStart (d : Document) : d.trimStart.written = stripStart d.written := by
  cases d with
  | last run => rfl
  | cons run tag rest =>
    change run.trimStart.chars ++ tag.written ++ rest.written = stripStart (run.chars ++ tag.written ++ rest.written)
    rw [List.append_assoc, List.append_assoc]
    exact (run.stripStart_append _).symm

theorem Document.written_trimEnd (d : Document) : d.trimEnd.written = stripEnd d.written := by
  induction d with
  | last run => rfl
  | cons run tag rest ih =>
    change run.chars ++ tag.written ++ rest.trimEnd.written = stripEnd (run.chars ++ tag.written ++ rest.written)
    rw [ih, tag.stripEnd_append]

theorem Document.written_trimmed (d : Document) : d.trimmed.written = strip d.written := by
  rw [trimmed, written_trimEnd, written_trimStart, strip]

theorem Document.values_trimEnd (d : Document) : d.trimEnd.values = d.values := by
  induction d with
  | last run => rfl
  | cons run tag rest ih => exact congrArg (tag.attributes.filterMap Attribute.value? ++ ·) ih

theorem Document.values_trimmed (d : Document) : d.trimmed.values = d.values := by
  rw [trimmed, values_trimEnd]
  cases d <;> rfl

/-! ## What may be left -/

/-- Some gaps of the value are gone. -/
def Quoted.Shrinks (v w : Quoted) : Prop :=
  w.quote = v.quote ∧ Tightens false v.chars w.chars

def Attribute.Shrinks (a b : Attribute) : Prop :=
  b.label = a.label ∧ Option.Rel Quoted.Shrinks a.value? b.value?

def Tag.Shrinks (t u : Tag) : Prop :=
  u.name = t.name ∧ List.Forall₂ Attribute.Shrinks t.attributes u.attributes

/-- Blanks at the end of the run are gone, which are behind a `>`: of the run, or of the tag in front, if there is
one. -/
def Run.Shrinks (behindTag : Bool) (r s : Run) : Prop :=
  ∃ blanks, r.chars = s.chars ++ blanks ∧ (∀ c ∈ blanks, isBlank c)
    ∧ (blanks = [] ∨ s.chars.getLast? = some '>' ∨ (behindTag ∧ s.chars = []))

/-- The documents have the same shape, and the last run is the same. -/
inductive Document.Shrinks : (behindTag : Bool) → Document → Document → Prop
  | last {behindTag : Bool} {r : Run} : Shrinks behindTag (.last r) (.last r)
  | cons {behindTag : Bool} {r s : Run} {t u : Tag} {d e : Document} : r.Shrinks behindTag s → t.Shrinks u →
    Shrinks true d e → Shrinks behindTag (.cons r t d) (.cons s u e)

variable {closed : Bool} {rest out : List Char}

/-! ## What is left -/

theorem Quoted.exists_of_tightens {v : Quoted} (h : Tightens false (v.written ++ rest) out) :
    ∃ w rest', out = Quoted.written w ++ rest' ∧ v.Shrinks w ∧ Tightens false rest rest' := by
  obtain ⟨quote, chars, isQuote, apart⟩ := v
  obtain ⟨solid, no, noClosing⟩ : isBlank quote = false ∧ quote ≠ '<' ∧ quote ≠ '>' := by
    rcases isQuote with rfl | rfl <;> decide
  have assoc : Quoted.written ⟨quote, chars, isQuote, apart⟩ ++ rest = [quote] ++ (chars ++ quote :: rest) := by
    simp [Quoted.written]
  rw [assoc] at h
  obtain ⟨later, rfl, opened⟩ := h.exists_of_append (by simpa using noClosing.symm)
  obtain ⟨chars', rest', rfl, inside, behind⟩ := opened.exists_of_append_cons solid no
  rw [beq_eq_false_iff_ne.2 noClosing] at behind
  refine ⟨⟨quote, chars', isQuote, fun mem => apart (inside.subset mem)⟩, rest', ?_, ⟨rfl, inside⟩, behind⟩
  simp [Quoted.written]

theorem not_mem_of_plain {cs : List Char} (plain : ∀ c ∈ cs, c ∉ markupChars) : '>' ∉ cs :=
  fun mem => plain _ mem (by decide)

theorem Attribute.exists_of_tightens {a : Attribute} (h : Tightens false (a.written ++ rest) out) :
    ∃ b rest', out = Attribute.written b ++ rest' ∧ a.Shrinks b ∧ Tightens false rest rest' := by
  obtain ⟨label, value?, plain⟩ := a
  rw [Attribute.written, List.append_assoc] at h
  obtain ⟨later, rfl, labelled⟩ := h.exists_of_append (not_mem_of_plain plain)
  cases value? with
  | none => exact ⟨⟨label, none, plain⟩, later, by simp [Attribute.written], ⟨rfl, .none⟩, labelled⟩
  | some v =>
    obtain ⟨w, rest', rfl, less, behind⟩ := Quoted.exists_of_tightens labelled
    exact ⟨⟨label, some w, plain⟩, rest', by simp [Attribute.written], ⟨rfl, .some less⟩, behind⟩

theorem exists_attributes_of_tightens {attributes : List Attribute}
    (h : Tightens false (attributes.flatMap Attribute.written ++ rest) out) :
    ∃ attributes' rest', out = attributes'.flatMap Attribute.written ++ rest'
      ∧ List.Forall₂ Attribute.Shrinks attributes attributes' ∧ Tightens false rest rest' := by
  induction attributes generalizing out with
  | nil => exact ⟨[], out, rfl, .nil, h⟩
  | cons a attributes ih =>
    rw [List.flatMap_cons, List.append_assoc] at h
    obtain ⟨b, later, rfl, less, first⟩ := Attribute.exists_of_tightens h
    obtain ⟨attributes', rest', rfl, lessBehind, behind⟩ := ih first
    exact ⟨b :: attributes', rest', by simp, .cons less lessBehind, behind⟩

theorem Tag.exists_of_tightens {t : Tag} (h : Tightens closed (t.written ++ rest) out) :
    ∃ u rest', out = Tag.written u ++ rest' ∧ t.Shrinks u ∧ Tightens true rest rest' := by
  obtain ⟨name, attributes, plain⟩ := t
  have assoc : Tag.written ⟨name, attributes, plain⟩ ++ rest
      = '<' :: (name ++ (attributes.flatMap Attribute.written ++ (['>'] ++ rest))) := by
    simp [Tag.written]
  rw [assoc] at h
  cases h with
  | drops blank => exact absurd blank (by decide)
  | keeps opened =>
    obtain ⟨later, rfl, named⟩ := Tightens.exists_of_append opened (not_mem_of_plain plain)
    obtain ⟨attributes', later, rfl, less, filled⟩ := exists_attributes_of_tightens named
    cases filled with
    | keeps behind =>
      exact ⟨⟨name, attributes', plain⟩, _, by simp [Tag.written], ⟨rfl, less⟩, behind⟩

theorem Run.exists_of_tightens {r : Run} (h : Tightens closed (r.chars ++ rest) out) :
    ∃ s rest' closed', out = Run.chars s ++ rest' ∧ r.Shrinks closed s ∧ Tightens closed' rest rest' := by
  obtain ⟨chars', blanks, rest', closed', split, rfl, behind, blank, shape⟩ := h.exists_of_run r.plain
  refine ⟨⟨chars', fun mem => r.plain ?_⟩, rest', closed', rfl, ⟨blanks, split, blank, shape⟩, behind⟩
  rw [split]
  exact List.mem_append_left _ mem

/-- Of a document, a document of the same shape is left. -/
theorem exists_document_of_tightens {d : Document} (h : Tightens closed d.written out) :
    ∃ e : Document, out = e.written ∧ d.Shrinks closed e := by
  induction d generalizing closed out with
  | last run => exact ⟨.last run, h.eq_of_not_mem run.plain, .last⟩
  | cons run tag rest ih =>
    rw [Document.written, List.append_assoc] at h
    obtain ⟨s, later, _, rfl, lessText, behindText⟩ := Run.exists_of_tightens h
    obtain ⟨u, later, rfl, lessTag, behindTag⟩ := Tag.exists_of_tightens behindText
    obtain ⟨e, rfl, less⟩ := ih behindTag
    exact ⟨.cons s u e, by simp [Document.written], .cons lessText lessTag less⟩

/-! ## What is kept -/

/-- A value without gaps stays as it is. -/
theorem Quoted.Shrinks.eq {v w : Quoted} (h : v.Shrinks w) (none : hasGap v.chars = false) : w = v :=
  Quoted.ext h.1 (h.2.eq_of_not_hasGap none (fun closed => nomatch closed))

theorem hasGap_of_split {blanks : List Char} (blank : ∀ c ∈ blanks, isBlank c) (some : blanks ≠ [])
    (front rest : List Char) : hasGap (front ++ '>' :: (blanks ++ '<' :: rest)) := by
  induction front with
  | nil =>
    have behind : (blanks ++ '<' :: rest).dropWhile isBlank = '<' :: rest := by
      rw [List.dropWhile_append_of_pos blank, List.dropWhile_cons_of_neg (by decide)]
    obtain ⟨c, blanks, rfl⟩ := List.exists_cons_of_ne_nil some
    rw [List.nil_append, hasGap, behind]
    simp [beginsWith, blank c]
  | cons c front ih =>
    rw [List.cons_append, hasGap, ih, Bool.or_true]

/-- A run of text that begins no gap stays as it is; if it is blank it may go. -/
theorem Run.Shrinks.eq_or_blank {behindTag : Bool} {r s : Run} (h : r.Shrinks behindTag s)
    (none : hasGap (r.chars ++ ['<']) = false) : s = r ∨ s.chars = [] ∧ ∀ c ∈ r.chars, isBlank c := by
  obtain ⟨blanks, split, blank, shape⟩ := h
  rcases shape with rfl | last | ⟨-, empty⟩
  · exact .inl (Run.ext (by rw [split, List.append_nil]))
  · refine .inl (Run.ext ?_)
    by_cases some : blanks = []
    · rw [split, some, List.append_nil]
    · obtain ⟨front, begins⟩ := List.getLast?_eq_some_iff.1 last
      have gap := hasGap_of_split blank some front []
      simp only [split, begins, List.append_assoc, List.singleton_append] at none
      exact absurd gap (Bool.eq_false_iff.1 none)
  · rw [empty, List.nil_append] at split
    exact .inr ⟨empty, split ▸ blank⟩

theorem Tag.Shrinks.values {t u : Tag} (h : t.Shrinks u) :
    List.Forall₂ Quoted.Shrinks (t.attributes.filterMap Attribute.value?) (u.attributes.filterMap Attribute.value?) :=
  List.rel_filterMap (fun _ _ less => less.2) h.2

theorem Document.Shrinks.values {behindTag : Bool} {d e : Document} (h : d.Shrinks behindTag e) :
    List.Forall₂ Quoted.Shrinks d.values e.values := by
  induction h with
  | last => exact .nil
  | cons _ less _ ih => exact List.rel_append less.values ih

theorem Document.Shrinks.runs {behindTag : Bool} {d e : Document} (h : d.Shrinks behindTag e) :
    List.Forall₂ (fun r s => ∃ behindTag, Run.Shrinks behindTag r s) d.runs e.runs := by
  induction h with
  | @last behindTag r => exact .cons ⟨behindTag, [], by simp⟩ .nil
  | cons less _ _ ih => exact .cons ⟨_, less⟩ ih

/-- **Minification keeps tags, and text but for gaps.** Of a document without the blanks at its ends, minification
leaves a document of the same shape, with the same names and labels. Each value keeps all but some of its gaps, and each
run all but blanks at its end behind a `>`; the last run is the same. So a value without a gap is untouched, and so is a
run that is not blank if it begins no gap, one that the next tag closes. -/
theorem minify_document (d : Document) (free : IsFree d.written) :
    ∃ e, minify (String.ofList d.written) = .ok (String.ofList e.written)
      ∧ d.trimmed.Shrinks false e
      ∧ List.Forall₂ (fun v w => hasGap v.chars = false → w = v) d.values e.values
      ∧ List.Forall₂ (fun r s => hasGap (r.chars ++ ['<']) = false → (∃ c ∈ r.chars, isBlank c = false) → s = r)
          d.trimmed.runs e.runs := by
  have freeText : IsFree (String.ofList d.written).toList := by rwa [String.toList_ofList]
  obtain ⟨out, minified, tightened⟩ := exists_tightens freeText
  rw [String.toList_ofList, ← d.written_trimmed] at tightened
  obtain ⟨e, rfl, less⟩ := exists_document_of_tightens tightened
  refine ⟨e, minified, less, ?_, ?_⟩
  · rw [← d.values_trimmed]
    exact less.values.imp fun _ _ less none => less.eq none
  · refine less.runs.imp fun r s ⟨_, less⟩ none ⟨c, mem, solid⟩ => ?_
    rcases less.eq_or_blank none with same | ⟨-, blank⟩
    · exact same
    · rw [blank c mem] at solid
      cases solid

/-- The document ` 1 > 0 <b hint="a > b"> x`. -/
def solidPage : Document :=
  .cons ⟨[' ', '1', ' ', '>', ' ', '0', ' '], by decide⟩
    ⟨['b'], [⟨[' ', 'h', 'i', 'n', 't', '='], some ⟨'"', ['a', ' ', '>', ' ', 'b'], .inl rfl, by decide⟩,
      by simp [markupChars]⟩], by simp [markupChars]⟩
    (.last ⟨[' ', 'x'], by decide⟩)

theorem minify_solidPage :
    IsFree solidPage.written
      ∧ ∃ e : Document, minify (String.ofList solidPage.written) = .ok (String.ofList e.written)
        ∧ e.values = solidPage.values ∧ e.runs = solidPage.trimmed.runs := by
  have free : IsFree solidPage.written := isFree_of_not_mem (by decide)
  obtain ⟨e, minified, -, values, runs⟩ := minify_document solidPage free
  refine ⟨free, e, minified, ?_, ?_⟩
  · obtain ⟨v, more, kept, none, split⟩ := List.forall₂_cons_left_iff.1 values
    rw [split, kept (by decide), List.forall₂_nil_left_iff.1 none]
    rfl
  · obtain ⟨front, more, keptFront, behind, split⟩ := List.forall₂_cons_left_iff.1 runs
    obtain ⟨back, more, keptBack, none, rfl⟩ := List.forall₂_cons_left_iff.1 behind
    have sameFront := keptFront (by decide) ⟨'1', by decide, by decide⟩
    have sameBack := keptBack (by decide) ⟨'x', by decide, by decide⟩
    rw [split, sameFront, sameBack, List.forall₂_nil_left_iff.1 none]
    rfl

/-- The document `<p>1 > <b hint="> <">x`. -/
def gappedPage : Document :=
  .cons ⟨[], by decide⟩ ⟨['p'], [], by simp [markupChars]⟩
    (.cons ⟨['1', ' ', '>', ' '], by decide⟩
      ⟨['b'], [⟨[' ', 'h', 'i', 'n', 't', '='], some ⟨'"', ['>', ' ', '<'], .inl rfl, by decide⟩,
        by simp [markupChars]⟩], by simp [markupChars]⟩
      (.last ⟨['x'], by decide⟩))

/-- A value that holds a gap is not in the page any more, and a run of text that ends in the front of one is not. -/
theorem minify_gappedPage :
    ∃ out, minify (String.ofList gappedPage.written) = .ok out
      ∧ (∃ v ∈ gappedPage.values, ¬ v.chars <:+: out.toList)
      ∧ ∃ r ∈ gappedPage.trimmed.runs, (∃ c ∈ r.chars, isBlank c = false) ∧ ¬ r.chars <:+: out.toList := by
  refine ⟨"<p>1 ><b hint=\"><\">x", eq_ok_of_toOption (by decide +kernel), ?_, ?_⟩
  · exact ⟨⟨'"', ['>', ' ', '<'], .inl rfl, by decide⟩, .head _, by decide +kernel⟩
  · exact ⟨⟨['1', ' ', '>', ' '], by decide⟩, .tail _ (.head _), ⟨'1', by decide, by decide⟩, by decide +kernel⟩

end Stencil.Html
