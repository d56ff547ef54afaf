import Stencil.Proofs.Rows
import Stencil.Proofs.Success
import Stencil.Proofs.Token.Cutting
import Stencil.Proofs.Token.Directives
import Stencil.Token.Reading

/-!
# What tokens are made of

A source has tokens exactly if every piece that it is cut into says something, and then each piece gives one
token, with the text of the piece and the place where it begins. `Token.exists_body_of_read` collects what
the later readers may rely on: the tokens end in the only one that says `finish`, each of the others is
proper, that is its names, paths and bounds are spelled as such, and no two texts stand side by side.
`Token.exists_read` goes the other way: pieces that are cut apart and say something are the source of exactly
these tokens.
-/

namespace Stencil

/-- What a piece of a source says. -/
inductive Piece.Says : Piece → Tag → Prop where
  | text {chars : List Char} : Avoids '{' '%' chars → Says (.text chars) .data
  | output {chars path : List Char} {filters : List (List Char)} :
      Says (.output chars path filters) (.output (String.ofList path) (filters.map String.ofList))
  | block {inner : List Char} {tag : Tag} : Directive.read inner = .ok tag → Says (.block inner) tag

namespace Token

/-- The tokens of pieces that begin at a place. -/
inductive Lexed : Position → List Piece → List Token → Prop where
  | finish {p : Position} : Lexed p [] [⟨.finish, "", p⟩]
  | piece {p : Position} {piece : Piece} {rest : List Piece} {tag : Tag} {tokens : List Token} :
      piece.Says tag → Lexed (p.after piece.chars) rest tokens →
      Lexed p (piece :: rest) (⟨tag, String.ofList piece.chars, p⟩ :: tokens)

theorem ofPiece_eq_ok_iff {origin : Origin} {source : String} {p : Position} {piece : Piece} {t : Token} :
    ofPiece origin source p piece = .ok t
      ↔ ∃ tag, piece.Says tag ∧ t = ⟨tag, String.ofList piece.chars, p⟩ := by
  cases piece with
  | text chars =>
    rw [ofPiece]
    split
    · next before opening found =>
      have opens : ¬ Avoids '{' '%' chars := by
        rw [← splitAtOpening?_eq_none_iff, found]
        simp
      constructor
      · intro h
        cases h
      · rintro ⟨tag, ⟨avoids⟩, -⟩
        exact absurd avoids opens
    · next none =>
      have avoids := splitAtOpening?_eq_none_iff.1 none
      constructor
      · rintro ⟨⟩
        exact ⟨.data, .text avoids, rfl⟩
      · rintro ⟨tag, ⟨-⟩, rfl⟩
        rfl
  | output chars path filters =>
    rw [ofPiece]
    constructor
    · rintro ⟨⟩
      exact ⟨_, .output, rfl⟩
    · rintro ⟨tag, ⟨⟩, rfl⟩
      rfl
  | block inner =>
    rw [ofPiece]
    split
    · next tag found =>
      constructor
      · rintro ⟨⟩
        exact ⟨tag, .block found, rfl⟩
      · rintro ⟨tag', means, rfl⟩
        cases means with
        | block found' =>
          obtain rfl := Except.ok.inj (found.symm.trans found')
          rfl
    · next fault failed =>
      constructor
      · intro h
        cases h
      · rintro ⟨tag, means, -⟩
        cases means with
        | block found => cases failed.symm.trans found

theorem ofPieces_eq_ok_iff {origin : Origin} {source : String} {p : Position} {pieces : List Piece}
    {tokens : List Token} : ofPieces origin source p pieces = .ok tokens ↔ Lexed p pieces tokens := by
  induction pieces generalizing p tokens with
  | nil =>
    rw [ofPieces]
    constructor
    · rintro ⟨⟩
      exact .finish
    · rintro ⟨⟩
      rfl
  | cons piece rest ih =>
    constructor
    · intro h
      rw [ofPieces] at h
      split at h
      · cases h
      · next t found =>
        obtain ⟨tag, means, rfl⟩ := ofPiece_eq_ok_iff.1 found
        obtain ⟨tail, later, rfl⟩ := map_eq_ok_iff.1 h
        exact .piece means (ih.1 later)
    · intro lexed
      cases lexed with
      | @piece _ _ _ tag tail means lexed =>
        rw [ofPieces, ofPiece_eq_ok_iff.2 ⟨tag, means, rfl⟩]
        dsimp only
        rw [ih.2 lexed]
        rfl

theorem read_eq_ok_iff {origin : Origin} {source : String} {tokens : List Token} :
    read origin source = .ok tokens ↔ Lexed .start (Piece.split source.toList) tokens :=
  ofPieces_eq_ok_iff

/-- The names, paths and bounds in a token are spelled as such, and texts and conditions hold no delimiter of
a block tag. -/
def Proper (t : Token) : Prop :=
  match t.tag with
  | .data => t.text.toList ≠ [] ∧ Piece.Tagless t.text.toList ∧ Avoids '{' '%' t.text.toList
  | .output path filters => IsPath path.toList ∧ ∀ name ∈ filters, IsName name.toList
  | .openIf condition | .elseIf condition =>
    Avoids '%' '}' condition.toList ∧ Avoids '{' '%' condition.toList
  | .openForeach collection itemName => IsPath collection.toList ∧ IsName itemName.toList
  | .openFor name start stop => IsName name.toList ∧ IsBound start.toList ∧ IsBound stop.toList
  | .finish => False
  | _ => True

theorem Proper.unfinished {t : Token} (proper : t.Proper) : t.tag ≠ .finish := by
  intro finish
  simp [Proper, finish] at proper

/-- What a token owes to its piece. -/
def Of (t : Token) (piece : Piece) : Prop :=
  piece.Says t.tag ∧ t.text = String.ofList piece.chars

theorem Lexed.exists_body {p : Position} {pieces : List Piece} {tokens : List Token}
    (lexed : Lexed p pieces tokens) :
    ∃ body q, tokens = body ++ [⟨.finish, "", q⟩] ∧ List.Forall₂ Of body pieces := by
  induction lexed with
  | finish => exact ⟨[], _, rfl, .nil⟩
  | piece means _ ih =>
    obtain ⟨body, q, rfl, each⟩ := ih
    exact ⟨_ :: body, q, rfl, .cons ⟨means, rfl⟩ each⟩

theorem proper_of_cut {t : Token} {piece : Piece} (cut : piece.Cut) (of : t.Of piece) : t.Proper := by
  obtain ⟨tag, text, p⟩ := t
  obtain ⟨means, rfl⟩ := of
  cases means with
  | @text chars avoids =>
    obtain ⟨nonempty, tagless⟩ := cut
    simpa [Proper, Piece.chars] using And.intro nonempty ⟨tagless, avoids⟩
  | output =>
    cases cut with
    | output isPath spells =>
      refine ⟨by simpa using isPath, ?_⟩
      intro name mem
      obtain ⟨chars, inside, rfl⟩ := List.mem_map.1 mem
      simpa using spells.isName chars inside
  | @block inner tag found =>
    obtain ⟨opens, form⟩ := Directive.read_eq_ok_iff.1 found
    have closes : Avoids '%' '}' inner := by
      cases cut with
      | block avoids => exact avoids
    -- the arguments are a part of the inside of the tag
    have part : strip ((strip inner).dropWhile fun c => !isBlank c) <:+: strip inner :=
      (isInfix_strip _).trans (List.dropWhile_suffix _).isInfix
    have closes' := closes.within (part.trans (isInfix_strip inner))
    have opens' := opens.within part
    generalize strip ((strip inner).dropWhile fun c => !isBlank c) = args at form closes' opens'
    generalize String.ofList _ = keyword at form
    cases form with
    | openIf | elseIf => simpa [Proper] using And.intro closes' opens'
    | otherwise | closeIf | closeForeach | closeFor => trivial
    | openForeach form =>
      obtain ⟨before, after, -, isPath, -, -, isName⟩ := form
      simpa [Proper] using And.intro isPath isName
    | openFor form =>
      obtain ⟨before, after, left, right, -, isName, -, -, isStart, -, -, isStop⟩ := form
      simpa [Proper] using And.intro isName ⟨isStart, isStop⟩

theorem Of.isText {t : Token} {piece : Piece} (of : t.Of piece) (isData : t.tag = .data) : piece.isText := by
  obtain ⟨means, -⟩ := of
  rw [isData] at means
  generalize same : Tag.data = tag at means
  cases means with
  | text => rfl
  | output => cases same
  | block found =>
    obtain ⟨-, form⟩ := Directive.read_eq_ok_iff.1 found
    subst same
    generalize String.ofList _ = keyword at form
    generalize strip _ = args at form
    cases form

/-- No two texts stand side by side. -/
def Apart (tokens : List Token) : Prop :=
  tokens.IsChain fun t u => ¬ (t.tag = .data ∧ u.tag = .data)

/-- What the readers of tokens may rely on. -/
theorem exists_body_of_read {origin : Origin} {source : String} {tokens : List Token}
    (h : read origin source = .ok tokens) :
    ∃ body eof, tokens = body ++ [eof] ∧ eof.tag = .finish ∧ (∀ t ∈ body, t.Proper) ∧ Apart body := by
  obtain ⟨body, _, rfl, each⟩ := (read_eq_ok_iff.1 h).exists_body
  have cuts := Piece.cuts_split source.toList
  have apart : Apart body := isChain_of_forall₂ each
    (fun of of' border data => border ⟨of.isText data.1, of'.isText data.2⟩) cuts.apart
  refine ⟨body, _, rfl, rfl, fun t mem => ?_, apart⟩
  have back : List.Forall₂ (flip Of) (Piece.split source.toList) body := List.Forall₂.flip each
  obtain ⟨piece, mem, of⟩ := exists_of_forall₂ back mem
  exact proper_of_cut (cuts.cut piece mem) of

/-- Only the last token of a source finishes it. -/
theorem unfinished_of_read {origin : Origin} {source : String} {body : List Token} {eof : Token}
    (tokenized : read origin source = .ok (body ++ [eof])) : ∀ t ∈ body, t.tag ≠ .finish := by
  obtain ⟨body', eof', same, -, proper, -⟩ := exists_body_of_read tokenized
  obtain ⟨rfl, -⟩ := List.append_inj' same rfl
  exact fun t mem => (proper t mem).unfinished

theorem exists_lexed_of_says {pieces : List Piece} (each : ∀ piece ∈ pieces, ∃ tag, piece.Says tag) (p : Position) :
    ∃ tokens, Lexed p pieces tokens := by
  induction pieces generalizing p with
  | nil => exact ⟨_, .finish⟩
  | cons piece rest ih =>
    obtain ⟨⟨tag, means⟩, later⟩ := List.forall_mem_cons.1 each
    obtain ⟨tokens, lexed⟩ := ih later (p.after piece.chars)
    exact ⟨_, .piece means lexed⟩

theorem exists_lexed {items : List (Piece × Tag)} (each : ∀ item ∈ items, item.1.Says item.2) (p : Position) :
    ∃ body eof, Lexed p (items.map Prod.fst) (body ++ [eof]) ∧ eof.tag = .finish
      ∧ List.Forall₂ (fun item t => t.tag = item.2 ∧ t.text = String.ofList item.1.chars) items body := by
  induction items generalizing p with
  | nil => exact ⟨[], _, .finish, rfl, .nil⟩
  | cons item rest ih =>
    obtain ⟨body, eof, lexed, ends, made⟩ :=
      ih (fun other mem => each other (List.mem_cons_of_mem _ mem)) (p.after item.1.chars)
    exact ⟨_ :: body, eof, .piece (each item List.mem_cons_self) lexed, ends, .cons ⟨rfl, rfl⟩ made⟩

theorem Lexed.exists_tag {p : Position} {pieces : List Piece} {tokens : List Token} (lexed : Lexed p pieces tokens) :
    ∀ piece ∈ pieces, ∃ tag, piece.Says tag := by
  induction lexed with
  | finish => simp
  | piece means _ ih =>
    intro piece mem
    rcases List.mem_cons.1 mem with rfl | mem
    · exact ⟨_, means⟩
    · exact ih piece mem

/-- Pieces that are cut apart are the source of their tokens. -/
theorem Lexed.read {pieces : List Piece} {tokens : List Token} (lexed : Lexed .start pieces tokens)
    (cuts : Piece.Cuts pieces) (origin : Origin) :
    Token.read origin (String.ofList (pieces.flatMap Piece.chars)) = .ok tokens := by
  have closed : ∀ chars, Piece.text chars ∈ pieces → Avoids '{' '%' chars := by
    intro chars mem
    obtain ⟨tag, means⟩ := lexed.exists_tag _ mem
    cases means with
    | text avoids => exact avoids
  rw [read_eq_ok_iff, String.toList_ofList, Piece.split_chars cuts closed]
  exact lexed

/-- Pieces that are cut apart and say something are the source of the tokens that say so. -/
theorem exists_read (origin : Origin) {items : List (Piece × Tag)} (cuts : Piece.Cuts (items.map Prod.fst))
    (each : ∀ item ∈ items, item.1.Says item.2) :
    ∃ body eof, read origin (String.ofList ((items.map Prod.fst).flatMap Piece.chars)) = .ok (body ++ [eof])
      ∧ eof.tag = .finish
      ∧ List.Forall₂ (fun item t => t.tag = item.2 ∧ t.text = String.ofList item.1.chars) items body := by
  obtain ⟨body, eof, lexed, ends, made⟩ := exists_lexed each .start
  exact ⟨body, eof, lexed.read cuts origin, ends, made⟩

/-- Two block tags, one behind the other, are a source of two tokens. -/
theorem exists_read_blocks (origin : Origin) {inner inner' : List Char} {tag tag' : Tag}
    (means : Directive.read inner = .ok tag) (means' : Directive.read inner' = .ok tag')
    (closes : Avoids '%' '}' inner) (closes' : Avoids '%' '}' inner') :
    ∃ source text text' p p' eof, read origin source = .ok [⟨tag, text, p⟩, ⟨tag', text', p'⟩, eof]
      ∧ text' ≠ "" ∧ eof.tag = .finish := by
  have cuts : Piece.Cuts ([(Piece.block inner, tag), (.block inner', tag')].map Prod.fst) :=
    ⟨List.forall_mem_cons.2 ⟨.block closes, List.forall_mem_singleton.2 (.block closes')⟩, by simp [Piece.isText]⟩
  have each : ∀ item ∈ [(Piece.block inner, tag), (.block inner', tag')], item.1.Says item.2 :=
    List.forall_mem_cons.2 ⟨.block means, List.forall_mem_singleton.2 (.block means')⟩
  obtain ⟨body, eof, tokenized, ends, made⟩ := exists_read origin cuts each
  obtain ⟨⟨_, text, p⟩, _, ⟨rfl, -⟩, later, rfl⟩ := List.forall₂_cons_left_iff.1 made
  obtain ⟨⟨_, text', p'⟩, _, ⟨rfl, same⟩, none, rfl⟩ := List.forall₂_cons_left_iff.1 later
  obtain rfl := List.forall₂_nil_left_iff.1 none
  refine ⟨_, text, text', p, p', eof, tokenized, ?_, ends⟩
  rintro rfl
  simp [Piece.chars] at same

end Token

end Stencil
