import Stencil.Text.Span

/-!
# Pieces of a source

A source is cut into pieces, from left to right: block tags `{% … %}`, which end at the first `%}`,
output tags `{path|filter|…}`, and the text between them. A pair of braces that holds anything but a
dotted path with filters is text, and so is a `{%` that is never closed. The pieces put together are
the source again.
-/

namespace Stencil

/-- May a name begin with `c`? -/
def isNameStart (c : Char) : Bool :=
  c.isAlpha || c = '_'

/-- May `c` stand in a name, or in a segment of a path? -/
def isNameChar (c : Char) : Bool :=
  c.isAlphanum || c = '_'

/-- Is `c` a blank that may stand around the bar of a filter? -/
def isSpace (c : Char) : Bool :=
  c = ' ' || c = '\t'

/-- The name at the start of a text and what follows it. -/
def readName? (cs : List Char) : Option (List Char × List Char) :=
  match cs with
  | c :: _ => if isNameStart c then some (cs.takeWhile isNameChar, cs.dropWhile isNameChar) else none
  | [] => none

theorem length_lt_of_readName? {cs name rest : List Char} (h : readName? cs = some (name, rest)) :
    rest.length < cs.length := by
  cases cs with
  | nil => simp [readName?] at h
  | cons c tail =>
    simp only [readName?] at h
    split at h
    · next starts =>
      have inName : isNameChar c := by
        simp only [isNameStart, isNameChar, Char.isAlphanum, Bool.or_eq_true] at starts ⊢
        rcases starts with h | h <;> simp [h]
      simp only [Option.some.injEq, Prod.mk.injEq, List.dropWhile_cons, inName, if_true] at h
      have := length_dropWhile_le isNameChar tail
      simp only [List.length_cons, ← h.2]
      omega
    · simp at h

/-- The segments `.segment.segment…` at the start of a text and what follows them. -/
def readSegments (cs : List Char) : List Char × List Char :=
  match cs with
  | '.' :: tail =>
    match tail.takeWhile isNameChar with
    | [] => ([], cs)
    | segment =>
      let (segments, rest) := readSegments (tail.dropWhile isNameChar)
      ('.' :: segment ++ segments, rest)
  | _ => ([], cs)
termination_by cs.length
decreasing_by
  have := length_dropWhile_le isNameChar tail
  simp only [List.length_cons]; omega

/-- The dotted path at the start of a text, as long as possible, and what follows it. -/
def readPath? (cs : List Char) : Option (List Char × List Char) :=
  (readName? cs).map fun (name, rest) =>
    let (segments, rest) := readSegments rest
    (name ++ segments, rest)

/-- The filters `|name|name…` at the start of a text, with blanks around the bars, and what follows
them. -/
def readFilters (cs : List Char) : List (List Char) × List Char :=
  match _found : cs.dropWhile isSpace with
  | '|' :: tail =>
    match _named : readName? (tail.dropWhile isSpace) with
    | some (name, rest) =>
      let (names, rest) := readFilters rest
      (name :: names, rest)
    | none => ([], cs)
  | _ => ([], cs)
termination_by cs.length
decreasing_by
  have h1 := length_dropWhile_le isSpace cs
  have h2 := length_dropWhile_le isSpace tail
  have h3 := length_lt_of_readName? _named
  simp only [_found, List.length_cons] at h1
  omega

/-- The text up to the first `%}`, and what follows that. -/
def readBlock? : List Char → Option (List Char × List Char)
  | [] => none
  | '%' :: '}' :: rest => some ([], rest)
  | c :: tail => (readBlock? tail).map fun (inner, rest) => (c :: inner, rest)

/-- A piece of a source. -/
inductive Piece where
  /-- Text outside of tags. -/
  | text (chars : List Char)
  /-- An output tag as it is written, its path and its filters. -/
  | output (chars : List Char) (path : List Char) (filters : List (List Char))
  /-- A block tag, without its delimiters. -/
  | block (inner : List Char)
  deriving DecidableEq

namespace Piece

/-- The source text of a piece. -/
def chars : Piece → List Char
  | text chars => chars
  | output chars _ _ => chars
  | block inner => '{' :: '%' :: inner ++ ['%', '}']

/-- The tag that begins with the first character, and what follows it. -/
def tag? (cs : List Char) : Option (Piece × List Char) :=
  match cs with
  | '{' :: '%' :: tail => (readBlock? tail).map fun (inner, rest) => (block inner, rest)
  | '{' :: tail =>
    (readPath? tail).bind fun (path, rest) =>
      match readFilters rest with
      | (filters, '}' :: rest) => some (output (cs.take (cs.length - rest.length)) path filters, rest)
      | _ => none
  | _ => none

theorem length_lt_of_readBlock? {cs inner rest : List Char} (h : readBlock? cs = some (inner, rest)) :
    rest.length < cs.length := by
  fun_induction readBlock? cs generalizing inner with
  | case1 => simp at h
  | case2 =>
    simp only [Option.some.injEq, Prod.mk.injEq] at h
    have := congrArg List.length h.2
    simp only [List.length_cons]
    omega
  | case3 c tail _ ih =>
    obtain ⟨⟨inner', rest'⟩, found, same⟩ := Option.map_eq_some_iff.1 h
    simp only [Prod.mk.injEq] at same
    have := ih (same.2 ▸ found)
    simp only [List.length_cons]; omega

theorem length_readSegments_le (cs : List Char) : (readSegments cs).2.length ≤ cs.length := by
  fun_induction readSegments cs with
  | case1 => simp
  | case2 tail segments rest again _ ih =>
    rw [again] at ih
    have := length_dropWhile_le isNameChar tail
    simp only [List.length_cons] at ih ⊢
    omega
  | case3 => simp

theorem length_readFilters_le (cs : List Char) : (readFilters cs).2.length ≤ cs.length := by
  fun_induction readFilters cs with
  | case1 cs tail found name rest named names rest' again ih =>
    rw [again] at ih
    have h1 := length_dropWhile_le isSpace cs
    have h2 := length_dropWhile_le isSpace tail
    have h3 := length_lt_of_readName? named
    simp only [found, List.length_cons] at h1 ih ⊢
    omega
  | case2 => simp
  | case3 => simp

theorem length_lt_of_tag? {cs rest : List Char} {p : Piece} (h : tag? cs = some (p, rest)) :
    rest.length < cs.length := by
  unfold tag? at h
  split at h
  · next tail =>
    obtain ⟨⟨inner, rest'⟩, found, same⟩ := Option.map_eq_some_iff.1 h
    have := length_lt_of_readBlock? found
    simp only [Prod.mk.injEq] at same
    simp only [List.length_cons, ← same.2]; omega
  · next tail _ =>
    obtain ⟨⟨path, after⟩, found, h⟩ := Option.bind_eq_some_iff.1 h
    dsimp only at h
    split at h
    · next filters rest' again =>
      simp only [Option.some.injEq, Prod.mk.injEq] at h
      obtain ⟨⟨name, afterName⟩, named, same⟩ := Option.map_eq_some_iff.1 found
      have h1 := length_lt_of_readName? named
      have h2 := length_readSegments_le afterName
      have h3 := length_readFilters_le after
      simp only [Prod.mk.injEq] at same
      rw [again] at h3
      rw [same.2] at h2
      simp only [List.length_cons, ← h.2] at h3 ⊢
      omega
    · simp at h
  · simp at h

/-- The text read so far, last character first, as a piece, if there is any. -/
def pending (before : List Char) : List Piece :=
  if before.isEmpty then [] else [text before.reverse]

/-- The pieces of a text, after the characters `before` (last first) that belong to its first one. -/
def splitFrom (before : List Char) (cs : List Char) : List Piece :=
  match _found : tag? cs with
  | some (tag, rest) => pending before ++ tag :: splitFrom [] rest
  | none =>
    match cs with
    | [] => pending before
    | c :: rest => splitFrom (c :: before) rest
termination_by cs.length
decreasing_by
  · exact length_lt_of_tag? _found
  · simp

/-- The pieces of a source. -/
def split (source : List Char) : List Piece :=
  splitFrom [] source

end Piece

end Stencil
