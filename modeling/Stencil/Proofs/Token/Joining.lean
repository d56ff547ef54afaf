import Mathlib.Data.List.DropRight
import Stencil.Proofs.Token.Lexing

/-!
# Sources put together

Two sources that have tokens are put together to one that has tokens, unless a `{` stands behind the last tag of the
first. The tags of both are the tags of the whole, in order, and where the sources meet, the text behind the last tag of
the one and the text in front of the first tag of the other become one text (`Token.exists_joined`). That no tag arises
there is due to tags: each begins with a `{`, and whatever begins with one of the second source was a tag before.
-/

namespace Stencil

namespace Piece

variable {pieces front back : List Piece} {x y : List Char}

/-- The text as a piece, if there is any. -/
def ofText (cs : List Char) : List Piece :=
  if cs = [] then [] else [text cs]

/-- What stands behind the last tag of a source, and the whole of a source without tags. -/
def textBehind (source : List Char) : List Char :=
  ((split source).rtakeWhile isText).flatMap chars

theorem ofText_nil : ofText [] = [] := if_pos rfl

theorem ofText_of_ne (nonempty : x ≠ []) : ofText x = [text x] := if_neg nonempty

theorem mem_ofText {piece : Piece} : piece ∈ ofText x ↔ x ≠ [] ∧ piece = text x := by
  unfold ofText
  split <;> simp_all

theorem chars_ofText (x : List Char) : (ofText x).flatMap chars = x := by
  by_cases empty : x = []
  · rw [empty, ofText_nil, List.flatMap_nil]
  · rw [ofText_of_ne empty, List.flatMap_singleton, chars]

/-- Pieces as a source is cut into end in at most one text. -/
theorem Cuts.exists_front (cuts : Cuts pieces) :
    ∃ front, pieces = front ++ ofText ((pieces.rtakeWhile isText).flatMap chars)
      ∧ ∀ p ∈ front.getLast?, p.isText = false := by
  rcases List.eq_nil_or_concat pieces with rfl | ⟨front, last, rfl⟩
  · exact ⟨[], rfl, by simp⟩
  · rw [List.concat_eq_append] at cuts ⊢
    obtain ⟨-, -, border⟩ := List.isChain_append.1 cuts.apart
    cases lastIsText : last.isText with
    | false =>
      refine ⟨front ++ [last], ?_, by simpa using lastIsText⟩
      rw [List.rtakeWhile_concat_neg _ _ _ (by simp [lastIsText]), List.flatMap_nil, ofText_nil, List.append_nil]
    | true =>
      have tagBefore : ∀ p ∈ front.getLast?, p.isText = false := by
        intro p mem
        have other := border p mem last rfl
        simpa [lastIsText] using other
      have none : front.rtakeWhile isText = [] := by
        rw [List.rtakeWhile_eq_nil_iff]
        intro nonempty isText
        rw [tagBefore _ (List.getLast?_eq_some_getLast nonempty)] at isText
        cases isText
      obtain ⟨cs, rfl⟩ := exists_eq_text lastIsText
      have cut := cuts.cut (text cs) (by simp)
      refine ⟨front, ?_, tagBefore⟩
      rw [List.rtakeWhile_concat_pos _ _ _ rfl, none, List.nil_append, List.flatMap_singleton, chars,
        ofText_of_ne cut.1]

/-- Pieces as a source is cut into begin with at most one text. -/
theorem Cuts.exists_back (cuts : Cuts pieces) :
    ∃ y back, pieces = ofText y ++ back ∧ ∀ p ∈ back.head?, p.isText = false := by
  cases pieces with
  | nil => exact ⟨[], [], rfl, by simp⟩
  | cons first back =>
    have border := (List.isChain_cons.1 cuts.apart).1
    cases firstIsText : first.isText with
    | false => exact ⟨[], first :: back, by rw [ofText_nil, List.nil_append], by simpa using firstIsText⟩
    | true =>
      obtain ⟨cs, rfl⟩ := exists_eq_text firstIsText
      have cut := cuts.cut (text cs) List.mem_cons_self
      refine ⟨cs, back, by rw [ofText_of_ne cut.1, List.singleton_append], ?_⟩
      intro p mem
      have other := border p mem
      simpa [firstIsText] using other

/-- A text without `{` in front of a text without tags brings no tag about. -/
theorem Tagless.append (noBrace : '{' ∉ x) (tagless : Tagless y) : Tagless (x ++ y) := by
  rintro tag isTag ⟨before, after, same⟩
  rw [List.append_assoc] at same
  rcases List.append_eq_append_iff.1 same with ⟨middle, early, split⟩ | ⟨middle, late, split⟩
  · cases middle with
    | nil => exact tagless tag isTag ⟨[], after, split⟩
    | cons c middle =>
      -- the tag would begin in the first text
      obtain ⟨rest, first⟩ := isTag.chars_eq_cons
      rw [first] at split
      obtain rfl := (List.cons.inj split).1
      apply noBrace
      rw [early]
      simp
  · exact tagless tag isTag ⟨middle, after, by rw [split, List.append_assoc]⟩

theorem avoids_seam (noBrace : '{' ∉ x) (opens : Avoids '{' '%' x) (opens' : Avoids '{' '%' y) :
    Avoids '{' '%' (x ++ y) := by
  refine avoids_append.2 ⟨opens, opens', ?_⟩
  rintro ⟨last, -⟩
  exact noBrace (List.mem_of_getLast? last)

theorem tagless_nil : Tagless [] := by
  intro tag isTag inside
  obtain ⟨rest, begins⟩ := isTag.chars_eq_cons
  rw [begins] at inside
  cases List.infix_nil.1 inside

theorem tagless_of_cuts (cut : ∀ piece ∈ ofText y, piece.Cut) : Tagless y := by
  by_cases empty : y = []
  · rw [empty]
    exact tagless_nil
  · exact (cut (text y) (mem_ofText.2 ⟨empty, rfl⟩)).2

/-- Pieces of two sources are those of both put together, with one text where they meet. -/
theorem cuts_joined (cuts : Cuts (front ++ ofText x)) (cuts' : Cuts (ofText y ++ back))
    (ends : ∀ p ∈ front.getLast?, p.isText = false) (begins : ∀ p ∈ back.head?, p.isText = false)
    (noBrace : '{' ∉ x) : Cuts (front ++ ofText (x ++ y) ++ back) := by
  obtain ⟨cutFront, -⟩ := List.forall_mem_append.1 cuts.cut
  obtain ⟨cutText, cutBack⟩ := List.forall_mem_append.1 cuts'.cut
  obtain ⟨apartFront, -, -⟩ := List.isChain_append.1 cuts.apart
  obtain ⟨-, apartBack, -⟩ := List.isChain_append.1 cuts'.apart
  constructor
  · refine List.forall_mem_append.2 ⟨List.forall_mem_append.2 ⟨cutFront, ?_⟩, cutBack⟩
    intro piece mem
    obtain ⟨nonempty, rfl⟩ := mem_ofText.1 mem
    exact ⟨nonempty, (tagless_of_cuts cutText).append noBrace⟩
  · have apartText : (ofText (x ++ y)).IsChain fun p q => ¬ (p.isText ∧ q.isText) := by
      unfold ofText
      split
      · exact .nil
      · exact .singleton _
    refine List.isChain_append.2 ⟨List.isChain_append.2 ⟨apartFront, apartText, ?_⟩, apartBack, ?_⟩
    · rintro p last q - ⟨isText, -⟩
      rw [ends p last] at isText
      cases isText
    · rintro p - q first ⟨-, isText⟩
      rw [begins q first] at isText
      cases isText

theorem avoids_of_each (each : ∀ piece ∈ ofText x, ∃ tag, piece.Says tag) : Avoids '{' '%' x := by
  by_cases empty : x = []
  · rw [empty]
    exact avoids_nil
  · obtain ⟨tag, means⟩ := each _ (mem_ofText.2 ⟨empty, rfl⟩)
    cases means with
    | text avoids => exact avoids

/-- Where pieces of two sources say something, so do those of both put together. -/
theorem says_joined (each : ∀ piece ∈ front ++ ofText x, ∃ tag, piece.Says tag)
    (each' : ∀ piece ∈ ofText y ++ back, ∃ tag, piece.Says tag) (noBrace : '{' ∉ x) :
    ∀ piece ∈ front ++ ofText (x ++ y) ++ back, ∃ tag, piece.Says tag := by
  obtain ⟨eachFront, eachText⟩ := List.forall_mem_append.1 each
  obtain ⟨eachText', eachBack⟩ := List.forall_mem_append.1 each'
  refine List.forall_mem_append.2 ⟨List.forall_mem_append.2 ⟨eachFront, ?_⟩, eachBack⟩
  intro piece mem
  obtain ⟨-, rfl⟩ := mem_ofText.1 mem
  exact ⟨.data, .text (avoids_seam noBrace (avoids_of_each eachText) (avoids_of_each eachText'))⟩

theorem Says.unique {piece : Piece} {tag tag' : Tag} (means : piece.Says tag) (means' : piece.Says tag') :
    tag = tag' := by
  cases means with
  | text =>
    cases means'
    rfl
  | output =>
    cases means'
    rfl
  | block found =>
    cases means' with
    | block found' => exact Except.ok.inj (found.symm.trans found')

end Piece

namespace Token

/-- Two tokens say the same and are written alike, wherever they stand. -/
def Alike (t u : Token) : Prop :=
  t.tag = u.tag ∧ t.text = u.text

/-- The tokens are texts, which are written as the given one. -/
structure Spell (tokens : List Token) (text : String) : Prop where
  data : ∀ t ∈ tokens, t.tag = .data
  spelled : String.join (tokens.map Token.text) = text

/-- The tokens of two sources are, at other places, those of the third, with one text where the sources meet. -/
inductive Joined : List Token → List Token → List Token → Prop
  | seam {front front' end₁ end₂ between back back' : List Token} {x y : String} : List.Forall₂ Alike front' front →
      Spell end₁ x → Spell end₂ y → Spell between (x ++ y) → List.Forall₂ Alike back' back →
      Joined (front ++ end₁) (end₂ ++ back) (front' ++ between ++ back')

theorem alike_of_common {pieces : List Piece} {tokens others : List Token} (each : List.Forall₂ Of tokens pieces)
    (each' : List.Forall₂ Of others pieces) : List.Forall₂ Alike others tokens := by
  have back : List.Forall₂ (flip Of) pieces tokens := List.Forall₂.flip each
  have back' : List.Forall₂ (flip Of) pieces others := List.Forall₂.flip each'
  refine forall₂_of_common back back' ?_
  rintro piece t u ⟨means, text⟩ ⟨means', text'⟩
  exact ⟨means'.unique means, text'.trans text.symm⟩

theorem spell_of_ofText {tokens : List Token} {x : List Char} (each : List.Forall₂ Of tokens (Piece.ofText x)) :
    Spell tokens (String.ofList x) := by
  by_cases empty : x = []
  · subst empty
    rw [Piece.ofText_nil] at each
    obtain rfl := List.forall₂_nil_right_iff.1 each
    exact ⟨by simp, rfl⟩
  · rw [Piece.ofText_of_ne empty] at each
    obtain ⟨t, none, ⟨means, text⟩, later, rfl⟩ := List.forall₂_cons_right_iff.1 each
    obtain rfl := List.forall₂_nil_right_iff.1 later
    refine ⟨List.forall_mem_singleton.2 (means.unique ?_), ?_⟩
    · generalize t.tag = tag at means
      cases means with
      | text opens => exact .text opens
    · rw [List.map_singleton, text]
      simp [Piece.chars]

/-- Tokens of the pieces of two sources, and of those of both put together, stand in this relation. -/
theorem joined_of_common {front back : List Piece} {x y : List Char} {tokens₁ tokens₂ tokens : List Token}
    (each₁ : List.Forall₂ Of tokens₁ (front ++ Piece.ofText x)) (each₂ : List.Forall₂ Of tokens₂ (Piece.ofText y ++ back))
    (each : List.Forall₂ Of tokens (front ++ Piece.ofText (x ++ y) ++ back)) : Joined tokens₁ tokens₂ tokens := by
  obtain ⟨front₁, end₁, rfl, eachFront₁, eachEnd₁⟩ := exists_of_forall₂_append each₁
  obtain ⟨end₂, back₂, rfl, eachEnd₂, eachBack₂⟩ := exists_of_forall₂_append each₂
  obtain ⟨first, back', rfl, eachFirst, eachBack⟩ := exists_of_forall₂_append each
  obtain ⟨front', between, rfl, eachFront, eachBetween⟩ := exists_of_forall₂_append eachFirst
  have seam := spell_of_ofText eachBetween
  rw [String.ofList_append] at seam
  exact .seam (alike_of_common eachFront₁ eachFront) (spell_of_ofText eachEnd₁) (spell_of_ofText eachEnd₂) seam
    (alike_of_common eachBack₂ eachBack)

/-- **Sources with tokens are put together to one with tokens**, if no `{` stands behind the last tag of the first. -/
theorem exists_joined {origin₁ origin₂ : Origin} {source₁ source₂ : String} {tokens₁ tokens₂ : List Token}
    (read₁ : read origin₁ source₁ = .ok tokens₁) (read₂ : read origin₂ source₂ = .ok tokens₂)
    (noBrace : '{' ∉ Piece.textBehind source₁.toList) (origin : Origin) :
    ∃ body₁ body₂ body eof₁ eof₂ eof, tokens₁ = body₁ ++ [eof₁] ∧ tokens₂ = body₂ ++ [eof₂]
      ∧ read origin (source₁ ++ source₂) = .ok (body ++ [eof]) ∧ eof₁.tag = .finish ∧ eof₂.tag = .finish
      ∧ eof.tag = .finish ∧ Joined body₁ body₂ body := by
  have lexed₁ := read_eq_ok_iff.1 read₁
  have lexed₂ := read_eq_ok_iff.1 read₂
  have cuts₁ := Piece.cuts_split source₁.toList
  have cuts₂ := Piece.cuts_split source₂.toList
  have whole : (Piece.split source₁.toList).flatMap Piece.chars ++ (Piece.split source₂.toList).flatMap Piece.chars
      = (source₁ ++ source₂).toList := by
    rw [Piece.chars_split, Piece.chars_split, String.toList_append]
  obtain ⟨front, split₁, ends⟩ := cuts₁.exists_front
  obtain ⟨y, back, split₂, begins⟩ := cuts₂.exists_back
  change '{' ∉ ((Piece.split source₁.toList).rtakeWhile Piece.isText).flatMap Piece.chars at noBrace
  generalize ((Piece.split source₁.toList).rtakeWhile Piece.isText).flatMap Piece.chars = x at split₁ noBrace
  rw [split₁] at lexed₁ cuts₁ whole
  rw [split₂] at lexed₂ cuts₂ whole
  have cuts := Piece.cuts_joined cuts₁ cuts₂ ends begins noBrace
  have meant := Piece.says_joined lexed₁.exists_tag lexed₂.exists_tag noBrace
  obtain ⟨tokens, lexed⟩ := exists_lexed_of_says meant .start
  have tokenized := lexed.read cuts origin
  have same : (front ++ Piece.ofText (x ++ y) ++ back).flatMap Piece.chars = (source₁ ++ source₂).toList := by
    rw [← whole]
    simp [Piece.chars_ofText]
  rw [same, String.ofList_toList] at tokenized
  obtain ⟨body₁, _, rfl, each₁⟩ := lexed₁.exists_body
  obtain ⟨body₂, _, rfl, each₂⟩ := lexed₂.exists_body
  obtain ⟨body, _, rfl, each⟩ := lexed.exists_body
  exact ⟨_, _, _, _, _, _, rfl, rfl, tokenized, rfl, rfl, rfl, joined_of_common each₁ each₂ each⟩

end Token

end Stencil
