import Stencil.Proofs.Text.Lines
import Stencil.Proofs.Token.Places

/-!
# Where reading tokens fails

A source that has no tokens has one fault, and that is its first: the line and the column of the fault denote a place
in the source at which a block tag is opened, what is shown of the tag stands there, and what stands in front of it has
tokens (`Token.exists_firstFault`).
-/

namespace Stencil

/-- The number of characters up to the given line feed, counted from one, and with it. -/
def lengthToFeed : Nat → List Char → Nat
  | 0, _ => 0
  | _ + 1, [] => 0
  | feeds + 1, c :: rest => 1 + lengthToFeed (if c = '\n' then feeds else feeds + 1) rest

/-- The offset that a place denotes in a source: the characters of the lines in front of it, and the column. -/
def Position.offsetIn (source : List Char) (p : Position) : Nat :=
  lengthToFeed (p.line - 1) source + p.column

theorem Position.lengthToFeed_after (p : Position) (before rest : List Char) :
    lengthToFeed ((p.after before).line - p.line) (before ++ rest) + (p.after before).column
      = before.length + if (p.after before).line = p.line then p.column else 0 := by
  induction before generalizing p with
  | nil => simp [after, lengthToFeed]
  | cons c before ih =>
    have later := ih (p.next c)
    have lines := line_after (p.next c) before
    rw [show p.after (c :: before) = (p.next c).after before from rfl]
    generalize (p.next c).after before = q at later lines ⊢
    by_cases feed : c = '\n'
    · simp only [next, if_pos feed] at later lines
      have further : q.line - p.line = (q.line - (p.line + 1)) + 1 := by omega
      rw [further, List.cons_append, lengthToFeed, if_pos feed, if_neg (by omega)]
      simp only [ite_self, List.length_cons] at later ⊢
      omega
    · simp only [next, if_neg feed] at later lines
      cases further : q.line - p.line with
      | zero =>
        have same : q.line = p.line := by omega
        simp only [further, if_pos same, lengthToFeed, List.length_cons] at later ⊢
        omega
      | succ feeds =>
        have other : q.line ≠ p.line := by omega
        rw [further, if_neg other] at later
        rw [List.cons_append, lengthToFeed, if_neg feed, if_neg other, List.length_cons]
        omega

/-- The place behind a text that a source begins with denotes the length of the text. -/
theorem Position.offsetIn_after (before rest : List Char) :
    (start.after before).offsetIn (before ++ rest) = before.length := by
  have counted := lengthToFeed_after start before rest
  have leftmost : (if (start.after before).line = start.line then start.column else 0) = 0 := ite_self 0
  rwa [leftmost] at counted

/-- The offset in a source that the line and the column of a fault denote. -/
def Malformed.offset? (m : Malformed) (source : List Char) : Option Nat := do
  let line ← m.line
  let column ← m.column
  some (Position.offsetIn source ⟨line.toNat, column.toNat⟩)

/-! ## Pieces without a token -/

namespace Directive

theorem avoids_of_splitAtOpening? {cs before opening : List Char} (h : splitAtOpening? cs = some (before, opening)) :
    cs = before ++ opening ∧ Avoids '{' '%' before ∧ ∃ more, opening = '{' :: '%' :: more := by
  fun_induction splitAtOpening? cs generalizing before with
  | case1 => cases h
  | case2 rest =>
    obtain ⟨rfl, rfl⟩ := Prod.mk.inj (Option.some.inj h)
    exact ⟨rfl, avoids_nil, rest, rfl⟩
  | case3 c rest other ih =>
    obtain ⟨⟨before', opening'⟩, found, same⟩ := Option.map_eq_some_iff.1 h
    obtain ⟨rfl, rfl⟩ := Prod.mk.inj same
    obtain ⟨rfl, avoids, more, rfl⟩ := ih found
    refine ⟨rfl, avoids_cons.2 ⟨?_, avoids⟩, more, rfl⟩
    rintro ⟨rfl, second⟩
    obtain ⟨tail, rfl⟩ := List.head?_eq_some_iff.1 second
    exact other _ rfl rfl

end Directive

namespace Token

/-- What is shown of a tag that is never closed is its start. -/
theorem exists_unclosedFragment (more : List Char) :
    ∃ p, p <+: more ∧ unclosedFragment ('{' :: '%' :: more) = '{' :: '%' :: p := by
  obtain ⟨p, isPrefix, first⟩ := exists_prefix_of_splitLinesFrom (.inl (by simp : ['%', '{'] ≠ []))
  refine ⟨p, isPrefix.trans (List.take_prefix (unclosedWidth - 2) more), ?_⟩
  have cut : splitLines (('{' :: '%' :: more).take unclosedWidth)
      = splitLinesFrom ['%', '{'] (more.take (unclosedWidth - 2)) := rfl
  rw [unclosedFragment, cut, first]
  rfl

/-- A piece without a token is shown from its first opening of a block tag on. -/
theorem exists_of_ofPiece {origin : Origin} {source : String} {p : Position} {piece : Piece} {m : Malformed}
    (h : ofPiece origin source p piece = .error m) :
    ∃ before fragment rest fault, piece.chars = before ++ ('{' :: '%' :: fragment) ++ rest ∧ Avoids '{' '%' before
      ∧ m = malformed origin source (p.after before) ('{' :: '%' :: fragment) fault := by
  cases piece with
  | text chars =>
    rw [ofPiece] at h
    split at h
    · next before opening found =>
      obtain ⟨rfl, avoids, more, rfl⟩ := Directive.avoids_of_splitAtOpening? found
      obtain ⟨fragment, ⟨rest, rfl⟩, shown⟩ := exists_unclosedFragment more
      refine ⟨before, fragment, rest, Directive.unclosed, by simp [Piece.chars], avoids, ?_⟩
      rw [← Except.error.inj h, shown]
    · cases h
  | output chars path filters => cases h
  | block inner =>
    rw [ofPiece] at h
    split at h
    · cases h
    · next fault failed =>
      exact ⟨[], inner ++ ['%', '}'], [], fault, by simp [Piece.chars], avoids_nil, (Except.error.inj h).symm⟩

theorem ofPieces_eq_error {origin : Origin} {source : String} {p : Position} {pieces : List Piece} {m : Malformed}
    (h : ofPieces origin source p pieces = .error m) :
    ∃ front piece back, pieces = front ++ piece :: back ∧ (∀ earlier ∈ front, ∃ tag, earlier.Says tag)
      ∧ ofPiece origin source (p.after (front.flatMap Piece.chars)) piece = .error m := by
  induction pieces generalizing p with
  | nil => cases h
  | cons piece pieces ih =>
    rw [ofPieces] at h
    split at h
    · next fault failed =>
      obtain rfl := Except.error.inj h
      exact ⟨[], piece, pieces, rfl, by simp, failed⟩
    · next token taken =>
      obtain ⟨tag, means, -⟩ := ofPiece_eq_ok_iff.1 taken
      obtain ⟨front, failing, back, rfl, earlier, failed⟩ := ih (map_eq_error_iff.1 h)
      refine ⟨piece :: front, failing, back, rfl, List.forall_mem_cons.2 ⟨⟨tag, means⟩, earlier⟩, ?_⟩
      rwa [List.flatMap_cons, Position.after_append]

/-! ## The first fault -/

/-- The fault `m` is the first one of a source: it stands at the offset `o`, where a block tag is opened and where the
fragment that is shown begins, and the source in front of it has tokens. -/
structure FirstFault (origin : Origin) (source : List Char) (m : Malformed) (o : Nat) (fragment : String) : Prop where
  placed : m.offset? source = some o
  shown : m.fragment = some fragment
  opens : ['{', '%'] <+: source.drop o
  begins : fragment.toList <+: source.drop o
  readable : ∃ tokens, read origin (String.ofList (source.take o)) = .ok tokens

/-- What stands in a piece in front of the opening of a block tag is text, if it is there. -/
theorem isText_of_opening {piece : Piece} {before rest : List Char} (cut : piece.Cut)
    (split : piece.chars = before ++ '{' :: '%' :: rest) (first : Avoids '{' '%' before) (nonempty : before ≠ []) :
    piece.isText := by
  obtain ⟨c, before, rfl⟩ := List.exists_cons_of_ne_nil nonempty
  cases piece with
  | text => rfl
  | block inner =>
    obtain ⟨rfl, behind⟩ := List.cons.inj split
    cases before with
    | nil => exact absurd (List.cons.inj behind).1 (by decide)
    | cons d before =>
      obtain rfl := (List.cons.inj behind).1
      exact absurd first (not_avoids_pair [] before)
  | output chars path filters =>
    cases cut with
    | output isPath spells =>
      apply absurd _ (Piece.not_mem_of_output isPath spells)
      rw [show _ ++ _ ++ ['}'] = before ++ '{' :: '%' :: rest from (List.cons.inj split).2]
      exact List.mem_append_right _ List.mem_cons_self

/-- The pieces in front of a piece, and the text in it in front of the opening of a block tag, have tokens. -/
theorem exists_read_of_front {front back : List Piece} {piece : Piece} {before rest : List Char}
    (cuts : Piece.Cuts (front ++ piece :: back)) (earlier : ∀ p ∈ front, ∃ tag, p.Says tag)
    (split : piece.chars = before ++ '{' :: '%' :: rest) (first : Avoids '{' '%' before) (origin : Origin) :
    ∃ tokens, read origin (String.ofList (front.flatMap Piece.chars ++ before)) = .ok tokens := by
  have cut : ∀ p ∈ front, p.Cut := fun p mem => cuts.cut p (List.mem_append_left _ mem)
  have here := cuts.cut piece (List.mem_append_right _ List.mem_cons_self)
  obtain ⟨apart, -, border⟩ := List.isChain_append.1 cuts.apart
  by_cases nothing : before = []
  · obtain ⟨tokens, lexed⟩ := exists_lexed_of_says earlier .start
    rw [nothing, List.append_nil]
    exact ⟨tokens, lexed.read ⟨cut, apart⟩ origin⟩
  · have isText := isText_of_opening here split first nothing
    obtain ⟨chars, rfl⟩ := Piece.exists_eq_text isText
    -- no tag stands in a part of a text without tags
    have tagless : Piece.Tagless before := fun tag isTag inside =>
      here.2 tag isTag (inside.trans ⟨[], '{' :: '%' :: rest, split.symm⟩)
    have cuts' : Piece.Cuts (front ++ [.text before]) := by
      constructor
      · exact List.forall_mem_append.2 ⟨cut, List.forall_mem_singleton.2 ⟨nothing, tagless⟩⟩
      · refine List.isChain_append.2 ⟨apart, .singleton _, ?_⟩
        rintro p last q ⟨⟩
        exact border p last (.text chars) rfl
    have each : ∀ p ∈ front ++ [.text before], ∃ tag, p.Says tag :=
      List.forall_mem_append.2 ⟨earlier, List.forall_mem_singleton.2 ⟨.data, .text first⟩⟩
    obtain ⟨tokens, lexed⟩ := exists_lexed_of_says each .start
    refine ⟨tokens, ?_⟩
    have tokenized := lexed.read cuts' origin
    simpa [Piece.chars] using tokenized

/-- **The fault of a source without tokens is the first one.** -/
theorem exists_firstFault {origin : Origin} {source : String} {m : Malformed} (failed : read origin source = .error m) :
    m.kindName = "LexerError" ∧ ∃ o fragment, FirstFault origin source.toList m o fragment := by
  obtain ⟨front, piece, back, split, earlier, failed⟩ := ofPieces_eq_error failed
  obtain ⟨before, fragment, rest, fault, chars, first, rfl⟩ := exists_of_ofPiece failed
  have whole : source.toList
      = front.flatMap Piece.chars ++ before ++ ('{' :: '%' :: fragment ++ (rest ++ back.flatMap Piece.chars)) := by
    rw [← Piece.chars_split source.toList, split]
    simp [chars]
  refine ⟨rfl, (front.flatMap Piece.chars ++ before).length, String.ofList ('{' :: '%' :: fragment), ?_, rfl, ?_, ?_, ?_⟩
  · rw [whole, ← Position.after_append]
    exact congrArg some (Position.offsetIn_after _ _)
  · rw [whole, List.drop_left]
    exact ⟨fragment ++ (rest ++ back.flatMap Piece.chars), rfl⟩
  · rw [whole, List.drop_left, String.toList_ofList]
    exact List.prefix_append _ _
  · rw [whole, List.take_left]
    have cuts := Piece.cuts_split source.toList
    rw [split] at cuts
    exact exists_read_of_front cuts earlier (by simpa using chars) first origin

/-- A text with a brace of no tag in it, then a tag, and then one that is never closed. -/
theorem exists_firstFault_behind_tag :
    ∃ m, read ⟨none, none⟩ "\x7b\n\x7bb\x7d a\x7b% if\x7b%" = .error m ∧ m.kindName = "LexerError"
      ∧ ∃ o fragment, FirstFault ⟨none, none⟩ "\x7b\n\x7bb\x7d a\x7b% if\x7b%".toList m o fragment := by
  have untokenized : (read ⟨none, none⟩ "\x7b\n\x7bb\x7d a\x7b% if\x7b%").toOption = none := by decide +kernel
  cases failed : read ⟨none, none⟩ "\x7b\n\x7bb\x7d a\x7b% if\x7b%" with
  | ok tokens =>
    rw [failed] at untokenized
    cases untokenized
  | error m => exact ⟨m, rfl, exists_firstFault failed⟩

end Token

end Stencil
