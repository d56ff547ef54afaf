import Stencil.Proofs.Token.Lexing

/-!
# What tokens look like

A source is read into tokens exactly if it is a row of texts, output expressions and directives, of which no two
texts stand side by side; and then the tokens are that row (`Token.read_eq_ok_iff_shaped`). The shapes of the three
kinds are told without a reader: a text has no `{%` and no output expression in it, an output expression is a path with
filters in braces, and a directive is a keyword with arguments of its form between `{%` and the first `%}`.
-/

namespace Stencil.Token

/-- An output expression: a path and a row of filters, in braces. -/
def IsOutput (text path : List Char) (filters : List (List Char)) : Prop :=
  ∃ spelled, text = '{' :: path ++ spelled ++ ['}'] ∧ IsPath path ∧ SpellsFilters spelled filters

/-- How a token that says `tag` is written. -/
inductive Shaped : Tag → List Char → Prop
  | data {text : List Char} : text ≠ [] → Avoids '{' '%' text →
      (∀ part path filters, IsOutput part path filters → ¬ part <:+: text) → Shaped .data text
  | output {text path : List Char} {filters : List (List Char)} : IsOutput text path filters →
      Shaped (.output (String.ofList path) (filters.map String.ofList)) text
  | directive {inner keyword args : List Char} {tag : Tag} : Directive.IsWritten inner keyword args →
      Directive.Says (String.ofList keyword) args tag → Avoids '%' '}' inner → Avoids '{' '%' inner →
      Shaped tag ('{' :: '%' :: inner ++ ['%', '}'])

/-- A row of tokens that a source may consist of, each with what it says and its text. -/
structure Row (items : List (Tag × List Char)) : Prop where
  shaped : ∀ item ∈ items, Shaped item.1 item.2
  apart : items.IsChain fun i j => ¬ (i.1 = .data ∧ j.1 = .data)

/-- The tokens of a row that begins at a place. -/
def laid : Position → List (Tag × List Char) → List Token
  | p, [] => [⟨.finish, "", p⟩]
  | p, (tag, text) :: rest => ⟨tag, String.ofList text, p⟩ :: laid (p.after text) rest

/-! ## Shapes and pieces -/

theorem isTag_output_iff {text path : List Char} {filters : List (List Char)} :
    (Piece.output text path filters).IsTag ↔ IsOutput text path filters := by
  constructor
  · rintro ⟨⟩
    exact ⟨_, rfl, ‹_›, ‹_›⟩
  · rintro ⟨spelled, rfl, isPath, spells⟩
    exact .output isPath spells

/-- In a text without `{%`, tags are output expressions. -/
theorem tagless_iff {text : List Char} (opens : Avoids '{' '%' text) :
    Piece.Tagless text ↔ ∀ part path filters, IsOutput part path filters → ¬ part <:+: text := by
  constructor
  · intro tagless part path filters isOutput
    exact tagless _ (isTag_output_iff.2 isOutput)
  · intro none tag isTag inside
    cases isTag with
    | block =>
      obtain ⟨before, after, rfl⟩ := inside
      exact not_avoids_pair before _ (by simpa [Piece.chars] using opens)
    | output isPath spells => exact none _ _ _ ⟨_, rfl, isPath, spells⟩ inside

theorem shaped_iff {tag : Tag} {text : List Char} :
    Shaped tag text ↔ ∃ piece : Piece, piece.Cut ∧ piece.Says tag ∧ piece.chars = text := by
  constructor
  · intro shaped
    cases shaped with
    | data nonempty opens none => exact ⟨.text text, ⟨nonempty, (tagless_iff opens).2 none⟩, .text opens, rfl⟩
    | output isOutput => exact ⟨.output text _ _, isTag_output_iff.2 isOutput, .output, rfl⟩
    | @directive inner keyword args _ written meant closes opens =>
      have means := Directive.read_eq_ok_iff_isWritten.2 ⟨opens, keyword, args, written, meant⟩
      exact ⟨.block inner, .block closes, .block means, rfl⟩
  · rintro ⟨piece, cut, meaning, rfl⟩
    cases meaning with
    | text opens => exact .data cut.1 opens ((tagless_iff opens).1 cut.2)
    | output => exact .output (isTag_output_iff.1 cut)
    | block means =>
      obtain ⟨opens, keyword, args, written, meant⟩ := Directive.read_eq_ok_iff_isWritten.1 means
      cases cut with
      | block closes => exact .directive written meant closes opens

/-- What a piece gives for a row: what it says, and its text. -/
def Gives (piece : Piece) (item : Tag × List Char) : Prop :=
  piece.Says item.1 ∧ piece.chars = item.2

theorem Gives.isText_iff {piece : Piece} {item : Tag × List Char} (gives : Gives piece item) :
    piece.isText ↔ item.1 = .data := by
  constructor
  · intro isText
    obtain ⟨tag, text⟩ := item
    obtain ⟨means, -⟩ := gives
    cases means with
    | text => rfl
    | output | block => cases isText
  · exact fun data => Of.isText (t := ⟨item.1, String.ofList piece.chars, .start⟩) ⟨gives.1, rfl⟩ data

theorem lexed_iff_laid {p : Position} {pieces : List Piece} {tokens : List Token} :
    Lexed p pieces tokens ↔ ∃ items, List.Forall₂ Gives pieces items ∧ tokens = laid p items := by
  constructor
  · intro lexed
    induction lexed with
    | finish => exact ⟨[], .nil, rfl⟩
    | @piece p piece rest tag tokens means _ ih =>
      obtain ⟨items, each, rfl⟩ := ih
      exact ⟨(tag, piece.chars) :: items, .cons ⟨means, rfl⟩ each, rfl⟩
  · rintro ⟨items, each, rfl⟩
    induction each generalizing p with
    | nil => exact .finish
    | cons gives _ ih =>
      obtain ⟨means, text⟩ := gives
      rw [laid, ← text]
      exact .piece means ih

theorem flatMap_of_gives {pieces : List Piece} {items : List (Tag × List Char)}
    (each : List.Forall₂ Gives pieces items) : items.flatMap Prod.snd = pieces.flatMap Piece.chars := by
  induction each with
  | nil => rfl
  | cons gives _ ih => rw [List.flatMap_cons, List.flatMap_cons, ih, gives.2]

/-- Pieces as a source is cut into give a row. -/
theorem row_of_cuts {pieces : List Piece} {items : List (Tag × List Char)} (each : List.Forall₂ Gives pieces items)
    (cuts : Piece.Cuts pieces) : Row items where
  shaped item mem := by
    obtain ⟨piece, mem, gives⟩ := exists_of_forall₂ each mem
    exact shaped_iff.2 ⟨piece, cuts.cut piece mem, gives⟩
  apart := by
    have back : List.Forall₂ (flip Gives) items pieces := List.Forall₂.flip each
    exact isChain_of_forall₂ back
      (fun gives gives' border data => border ⟨gives.isText_iff.2 data.1, gives'.isText_iff.2 data.2⟩) cuts.apart

/-- A row is given by pieces as a source is cut into. -/
theorem Row.exists_cuts {items : List (Tag × List Char)} (row : Row items) :
    ∃ pieces, List.Forall₂ Gives pieces items ∧ Piece.Cuts pieces := by
  obtain ⟨pieces, each⟩ := exists_forall₂ fun item mem => shaped_iff.1 (row.shaped item mem)
  have gives : List.Forall₂ Gives pieces items := each.imp fun _ _ h => h.2
  refine ⟨pieces, gives, fun piece mem => ?_, ?_⟩
  · obtain ⟨item, -, cut, -⟩ := exists_of_forall₂ (List.Forall₂.flip each) mem
    exact cut
  · exact isChain_of_forall₂ gives
      (fun gives gives' border texts => border ⟨gives.isText_iff.1 texts.1, gives'.isText_iff.1 texts.2⟩) row.apart

/-! ## Sources -/

/-- The tokens of a source are those of a row that it consists of. -/
theorem exists_row_of_read {origin : Origin} {source : String} {tokens : List Token}
    (tokenized : read origin source = .ok tokens) :
    ∃ items, Row items ∧ source.toList = items.flatMap Prod.snd ∧ tokens = laid .start items := by
  obtain ⟨items, each, rfl⟩ := lexed_iff_laid.1 (read_eq_ok_iff.1 tokenized)
  refine ⟨items, row_of_cuts each (Piece.cuts_split _), ?_, rfl⟩
  rw [flatMap_of_gives each, Piece.chars_split]

/-- **A source is read into tokens exactly if it is a row of texts, output expressions and directives, and then into
the tokens of that row.** -/
theorem read_eq_ok_iff_shaped {origin : Origin} {source : String} {tokens : List Token} :
    read origin source = .ok tokens
      ↔ ∃ items, Row items ∧ source.toList = items.flatMap Prod.snd ∧ tokens = laid .start items := by
  refine ⟨exists_row_of_read, ?_⟩
  rintro ⟨items, row, same, rfl⟩
  rw [read_eq_ok_iff]
  obtain ⟨pieces, each, cuts⟩ := row.exists_cuts
  have closed : ∀ chars, Piece.text chars ∈ pieces → Avoids '{' '%' chars := by
    intro chars mem
    obtain ⟨item, -, means, -⟩ := exists_of_forall₂ (List.Forall₂.flip each) mem
    generalize item.1 = tag at means
    cases means with
    | text avoids => exact avoids
  rw [same, flatMap_of_gives each, Piece.split_chars cuts closed]
  exact lexed_iff_laid.2 ⟨items, each, rfl⟩

end Stencil.Token
