import Stencil.Proofs.Text.Pairs
import Stencil.Proofs.Token.Names

/-!
# How a source is cut

A tag is known by its own text alone: `Piece.tag?_eq_some_iff` says that a tag stands at the start of a text
exactly if the text begins with something that is spelled as one, whatever follows it. Hence `split` cuts a
source in the only possible way. Its tags are spelled as tags, and no text between them is empty or has a tag
in it (`Piece.cuts_split`); and every row of pieces of that kind, put together, is cut into these pieces again
(`Piece.split_chars`).
-/

namespace Stencil.Piece

/-- The spelling of tags. -/
inductive IsTag : Piece → Prop where
  | block {inner : List Char} : Avoids '%' '}' inner → IsTag (block inner)
  | output {path spelled : List Char} {filters : List (List Char)} :
      IsPath path → SpellsFilters spelled filters →
      IsTag (output ('{' :: path ++ spelled ++ ['}']) path filters)

/-- A text in which no tag stands. -/
def Tagless (cs : List Char) : Prop :=
  ∀ tag, IsTag tag → ¬ tag.chars <:+: cs

/-- The piece is a tag, or text that is not empty and has no tag in it. -/
def Cut : Piece → Prop
  | text chars => chars ≠ [] ∧ Tagless chars
  | tag => IsTag tag

/-- Is the piece text between tags? -/
def isText : Piece → Bool
  | text _ => true
  | _ => false

/-- Pieces as a source is cut into. -/
structure Cuts (pieces : List Piece) : Prop where
  cut : ∀ piece ∈ pieces, piece.Cut
  apart : pieces.IsChain fun p q => ¬ (p.isText ∧ q.isText)

theorem IsTag.chars_eq_cons {tag : Piece} (h : IsTag tag) : ∃ rest, tag.chars = '{' :: rest := by
  cases h with
  | block => exact ⟨_, rfl⟩
  | output => exact ⟨_, rfl⟩

theorem IsTag.isText {tag : Piece} (h : IsTag tag) : tag.isText = false := by
  cases h <;> rfl

theorem exists_eq_text {piece : Piece} (isText : piece.isText) : ∃ cs, piece = text cs := by
  cases piece with
  | text cs => exact ⟨cs, rfl⟩
  | block | output => cases isText

theorem IsTag.cut {tag : Piece} (h : IsTag tag) : tag.Cut := by
  cases h with
  | block avoids => exact .block avoids
  | output path filters => exact .output path filters

theorem not_isNameStart_percent : isNameStart '%' = false := by decide

/-- The tag at the start of a text, and what follows it. -/
theorem tag?_eq_some_iff {cs rest : List Char} {tag : Piece} :
    tag? cs = some (tag, rest) ↔ cs = tag.chars ++ rest ∧ IsTag tag := by
  constructor
  · intro h
    unfold tag? at h
    split at h
    · next tail =>
      obtain ⟨⟨inner, rest'⟩, found, same⟩ := Option.map_eq_some_iff.1 h
      obtain ⟨rfl, rfl⟩ := Prod.mk.inj same
      obtain ⟨rfl, avoids⟩ := readBlock?_eq_some_iff.1 found
      exact ⟨by simp [chars], .block avoids⟩
    · next tail _ =>
      obtain ⟨⟨path, afterPath⟩, found, h⟩ := Option.bind_eq_some_iff.1 h
      obtain ⟨rfl, isPath, -⟩ := readPath?_eq_some_iff.1 found
      obtain ⟨spelled, same, spells⟩ := readFilters_spec afterPath
      dsimp only at h
      split at h
      · next filters rest' again =>
        rw [again] at same spells
        obtain ⟨rfl, rfl⟩ := Prod.mk.inj (Option.some.inj h)
        have written : '{' :: (path ++ afterPath) = ('{' :: path ++ spelled ++ ['}']) ++ rest' := by
          rw [show afterPath = spelled ++ '}' :: rest' from same]
          simp
        have taken : ('{' :: (path ++ afterPath)).take (('{' :: (path ++ afterPath)).length - rest'.length)
            = '{' :: path ++ spelled ++ ['}'] := by
          rw [written, List.length_append, Nat.add_sub_cancel]
          exact List.take_left
        rw [taken]
        exact ⟨written, .output isPath spells⟩
      · cases h
    · cases h
  · rintro ⟨rfl, isTag⟩
    cases isTag with
    | @block inner avoids =>
      have split : chars (block inner) ++ rest = '{' :: '%' :: (inner ++ '%' :: '}' :: rest) := by
        simp [chars]
      rw [split, tag?, readBlock?_eq_some_iff.2 ⟨rfl, avoids⟩]
      rfl
    | @output path spelled filters isPath spells =>
      have split : ('{' :: path ++ spelled ++ ['}']) ++ rest = '{' :: (path ++ (spelled ++ '}' :: rest)) := by
        simp
      have ends : extendsPath (spelled ++ '}' :: rest) = false := spells.not_extendsPath rfl
      rw [chars, split, tag?]
      · rw [readPath?_eq_some_iff.2 ⟨rfl, isPath, ends⟩, Option.bind_some]
        dsimp only
        rw [spells.readFilters]
        change some (output (List.take (_ - rest.length) _) path filters, rest) = _
        rw [← split, List.length_append, Nat.add_sub_cancel, List.take_left]
      · intro tail same
        have starts := isPath.beginsWith_isNameStart
        rw [← beginsWith_append isPath.ne_nil, same, beginsWith_cons, not_isNameStart_percent] at starts
        cases starts

/-- Behind the brace that opens an output tag, no other one stands in it. -/
theorem not_mem_of_output {path spelled : List Char} {filters : List (List Char)} (isPath : IsPath path)
    (spells : SpellsFilters spelled filters) : '{' ∉ path ++ spelled ++ ['}'] := by
  have inName : ∀ c, isNameChar c → c ≠ '{' := by
    rintro c h rfl
    exact absurd h (by decide)
  have inSpace : ∀ c, isSpace c → c ≠ '{' := by
    rintro c h rfl
    exact absurd h (by decide)
  have inSpelled : '{' ∉ spelled := by
    induction spells with
    | nil => simp
    | cons blank blank' named _ ih =>
      intro mem
      simp only [List.cons_append, List.append_assoc, List.mem_append, List.mem_cons] at mem
      rcases mem with mem | mem | mem | mem | mem
      · exact inSpace _ (blank _ mem) rfl
      · exact absurd mem (by decide)
      · exact inSpace _ (blank' _ mem) rfl
      · exact inName _ (named.2 _ mem) rfl
      · exact ih mem
  intro mem
  simp only [List.mem_append, List.mem_singleton] at mem
  rcases mem with (mem | mem) | mem
  · rcases isPath.mem mem with h | h
    · exact inName _ h rfl
    · exact absurd h (by decide)
  · exact inSpelled mem
  · exact absurd mem (by decide)

/-- Text without tags and without `{%` stays so in front of a tag: no tag begins in it. -/
theorem tag?_eq_none_of_tagless {cs rest : List Char} (tagless : Tagless cs) (opens : Avoids '{' '%' cs)
    (nonempty : cs ≠ []) (behind : ∀ c tail, rest = c :: tail → c = '{') : tag? (cs ++ rest) = none := by
  rw [Option.eq_none_iff_forall_ne_some]
  rintro ⟨tag, left⟩ found
  obtain ⟨same, isTag⟩ := tag?_eq_some_iff.1 found
  rcases List.append_eq_append_iff.1 same with ⟨middle, longer, split⟩ | ⟨middle, inside, -⟩
  · cases middle with
    | nil => exact tagless tag isTag ⟨[], [], by rw [longer]; simp⟩
    | cons c middle =>
      obtain rfl := behind c _ split
      obtain ⟨d, cs, rfl⟩ := List.exists_cons_of_ne_nil nonempty
      cases isTag with
      | block =>
        simp only [chars, List.cons_append, List.cons.injEq] at longer
        obtain ⟨rfl, longer⟩ := longer
        cases cs with
        | nil => exact absurd (List.cons.inj longer).1 (by decide)
        | cons e cs =>
          obtain ⟨rfl, -⟩ := List.cons.inj longer
          exact not_avoids_pair [] cs opens
      | output isPath spells =>
        simp only [chars, List.cons_append, List.cons.injEq] at longer
        apply not_mem_of_output isPath spells
        rw [longer.2]
        simp
  · exact tagless tag isTag ⟨[], middle, inside.symm⟩

/-! ## Splitting -/

theorem chars_pending (before : List Char) : (pending before).flatMap chars = before.reverse := by
  unfold pending
  cases before <;> simp [chars]

theorem chars_splitFrom (before cs : List Char) :
    (splitFrom before cs).flatMap chars = before.reverse ++ cs := by
  fun_induction splitFrom before cs with
  | case1 before cs tag rest found ih =>
    obtain ⟨rfl, -⟩ := tag?_eq_some_iff.1 found
    rw [List.flatMap_append, chars_pending, List.flatMap_cons, ih]
    simp
  | case2 before => rw [chars_pending, List.append_nil]
  | case3 before c rest _ ih => rw [ih]; simp

/-- The pieces of a source put together are the source. -/
theorem chars_split (cs : List Char) : (split cs).flatMap chars = cs :=
  chars_splitFrom [] cs

/-- A tag inside of the text so far would have been found where it begins. -/
theorem cut_of_mem_pending {before cs : List Char} {piece : Piece}
    (quiet : ∀ part, part <:+ before.reverse → part ≠ [] → tag? (part ++ cs) = none)
    (mem : piece ∈ pending before) : piece.Cut := by
  unfold pending at mem
  split at mem
  · cases mem
  · next nonempty =>
    obtain rfl := List.mem_singleton.1 mem
    refine ⟨by simpa using nonempty, ?_⟩
    rintro tag isTag ⟨front, back, same⟩
    have nowhere := quiet (tag.chars ++ back) ⟨front, by rw [← same]; simp⟩
      (List.append_ne_nil_of_left_ne_nil (by obtain ⟨rest, h⟩ := isTag.chars_eq_cons; simp [h]) back)
    rw [List.append_assoc, tag?_eq_some_iff.2 ⟨rfl, isTag⟩] at nowhere
    cases nowhere

/-- The text so far and a tag may stand in front of pieces that are cut apart. -/
theorem Cuts.pending_append {before : List Char} {tag : Piece} {pieces : List Piece}
    (texts : ∀ piece ∈ pending before, piece.Cut) (isTag : IsTag tag) (later : Cuts pieces) :
    Cuts (pending before ++ tag :: pieces) := by
  have fromTag : (tag :: pieces).IsChain fun p q => ¬ (p.isText ∧ q.isText) := by
    rw [List.isChain_cons]
    exact ⟨fun q _ => by simp [isTag.isText], later.apart⟩
  constructor
  · intro piece mem
    rcases List.mem_append.1 mem with mem | mem
    · exact texts piece mem
    · rcases List.mem_cons.1 mem with rfl | mem
      · exact isTag.cut
      · exact later.cut piece mem
  · unfold pending
    split
    · exact fromTag
    · rw [List.singleton_append, List.isChain_cons]
      refine ⟨?_, fromTag⟩
      rintro q ⟨⟩
      simp [isTag.isText]

theorem cuts_splitFrom (before cs : List Char)
    (quiet : ∀ part, part <:+ before.reverse → part ≠ [] → tag? (part ++ cs) = none) :
    Cuts (splitFrom before cs) := by
  fun_induction splitFrom before cs with
  | case1 before cs tag rest found ih =>
    obtain ⟨-, isTag⟩ := tag?_eq_some_iff.1 found
    exact .pending_append (fun _ => cut_of_mem_pending quiet) isTag (ih (by simp))
  | case2 before none =>
    refine ⟨fun _ => cut_of_mem_pending quiet, ?_⟩
    unfold pending
    split
    · exact .nil
    · exact .singleton _
  | case3 before c rest none ih =>
    apply ih
    intro part suffix nonempty
    rw [List.reverse_cons, List.suffix_concat_iff] at suffix
    rcases suffix with rfl | ⟨shorter, rfl, suffix⟩
    · exact absurd rfl nonempty
    · rw [List.append_assoc, List.singleton_append]
      cases shorter with
      | nil => exact none
      | cons d shorter => exact quiet _ suffix (by simp)

/-- A source is cut into tags and texts without tags. -/
theorem cuts_split (cs : List Char) : Cuts (split cs) :=
  cuts_splitFrom [] cs (by simp)

theorem splitFrom_quiet (before : List Char) {cs rest : List Char}
    (quiet : ∀ part, part <:+ cs → part ≠ [] → tag? (part ++ rest) = none) :
    splitFrom before (cs ++ rest) = splitFrom (cs.reverse ++ before) rest := by
  induction cs generalizing before with
  | nil => rfl
  | cons c cs ih =>
    have here := quiet (c :: cs) (List.suffix_refl _) (by simp)
    have later := ih (c :: before) fun part suffix nonempty =>
      quiet part (suffix.trans (List.suffix_cons c cs)) nonempty
    rw [splitFrom.eq_def]
    split
    · next tag rest' found =>
      rw [here] at found
      cases found
    · change splitFrom (c :: before) (cs ++ rest) = _
      rw [later, List.reverse_cons, List.append_assoc, List.singleton_append]

theorem splitFrom_tag (before : List Char) {tag : Piece} (isTag : IsTag tag) (rest : List Char) :
    splitFrom before (tag.chars ++ rest) = pending before ++ tag :: splitFrom [] rest := by
  have found : tag? (tag.chars ++ rest) = some (tag, rest) := tag?_eq_some_iff.2 ⟨rfl, isTag⟩
  rw [splitFrom.eq_def]
  split
  · next tag' rest' found' =>
    obtain ⟨rfl, rfl⟩ := Prod.mk.inj (Option.some.inj (found.symm.trans found'))
    rfl
  · next none =>
    rw [found] at none
    cases none

theorem splitFrom_nil (before : List Char) : splitFrom before [] = pending before := by
  rw [splitFrom.eq_def]
  rfl

/-- Pieces of the kind that a source is cut into, with no `{%` in the texts, are what their source is cut
into. -/
theorem split_chars {pieces : List Piece} (cuts : Cuts pieces)
    (closed : ∀ chars, text chars ∈ pieces → Avoids '{' '%' chars) :
    split (pieces.flatMap chars) = pieces := by
  unfold split
  induction pieces with
  | nil => exact splitFrom_nil []
  | cons piece rest ih =>
    have later := ih ⟨fun p mem => cuts.cut p (List.mem_cons_of_mem _ mem), (List.isChain_cons.1 cuts.apart).2⟩
      fun chars mem => closed chars (List.mem_cons_of_mem _ mem)
    have here := cuts.cut piece List.mem_cons_self
    rw [List.flatMap_cons]
    cases piece with
    | block | output => rw [splitFrom_tag [] here, later]; rfl
    | text cs =>
      obtain ⟨nonempty, tagless⟩ := here
      have shown : pending (text cs).chars.reverse = [text cs] := by simp [pending, chars, nonempty]
      have opens := closed cs List.mem_cons_self
      -- behind the text stands nothing or a tag
      cases rest with
      | nil =>
        rw [List.flatMap_nil, splitFrom_quiet, List.append_nil, splitFrom_nil, shown]
        intro part suffix nonempty
        exact tag?_eq_none_of_tagless (fun tag isTag inside => tagless tag isTag (inside.trans suffix.isInfix))
          (opens.within suffix.isInfix) nonempty (by simp)
      | cons next rest =>
        have isTag : IsTag next := by
          have border := (List.isChain_cons.1 cuts.apart).1 next rfl
          have sound := cuts.cut next (List.mem_cons_of_mem _ List.mem_cons_self)
          cases next with
          | text => exact absurd ⟨rfl, rfl⟩ border
          | block | output => exact sound
        obtain ⟨tail, begins⟩ := isTag.chars_eq_cons
        rw [List.flatMap_cons] at later ⊢
        rw [splitFrom_tag [] isTag] at later
        have after : splitFrom [] (rest.flatMap chars) = rest := (List.cons.inj later).2
        rw [splitFrom_quiet, List.append_nil, splitFrom_tag _ isTag, shown, after]
        · rfl
        · intro part suffix nonempty
          apply tag?_eq_none_of_tagless (fun tag isTag inside => tagless tag isTag (inside.trans suffix.isInfix))
            (opens.within suffix.isInfix) nonempty
          intro c more same
          rw [begins] at same
          exact (List.cons.inj same).1.symm

end Stencil.Piece
