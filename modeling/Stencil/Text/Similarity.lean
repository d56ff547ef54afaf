/-!
# Similar names

A misspelt name is answered with the most similar known one. Two texts are compared by what they
share: the longest run of equal characters is matched first (of several the one that ends first),
then what lies to its left and to its right in the same way. The similarity is twice the number of
matched characters over the sum of both lengths; `3/5` is close enough for a hint.

In a long searched text (200 characters or more) characters that make up over one percent of it do
not start a run; a run found without them still grows over them at both ends.
-/

namespace Stencil

/-- Does `c` occur in `word` so often that it says little? -/
def isCommonIn (word : List Char) (c : Char) : Bool :=
  200 ≤ word.length && word.length / 100 + 1 < word.count c

/-- A run of `size` equal characters that starts at `left` in one text and at `right` in another. -/
structure SharedRun where
  left : Nat
  right : Nat
  size : Nat

/-- The length of the common start of two texts, up to the first character that `skips`. -/
def commonStart (skips : Char → Bool) : List Char → List Char → Nat
  | a :: as, b :: bs => if a = b && !skips b then commonStart skips as bs + 1 else 0
  | _, _ => 0

/-- The better of two runs: the longer one, and the earlier found if they are equally long. -/
def SharedRun.better (found next : SharedRun) : SharedRun :=
  if found.size < next.size then next else found

/-- The longest shared run of `as` and `bs`, the first one in order of its place in `as`, then in
`bs`, before it has grown over skipped characters. -/
def longestRun (skips : Char → Bool) (as bs : List Char) : SharedRun :=
  let starts := (List.range as.length).flatMap fun i => (List.range bs.length).map fun j => (i, j)
  starts.foldl (fun found (i, j) => found.better ⟨i, j, commonStart skips (as.drop i) (bs.drop j)⟩)
    ⟨0, 0, 0⟩

/-- The run grown to both sides over equal characters of any kind. -/
def SharedRun.grown (r : SharedRun) (as bs : List Char) : SharedRun :=
  let back := commonStart (fun _ => false) (as.take r.left).reverse (bs.take r.right).reverse
  let ahead := commonStart (fun _ => false) (as.drop (r.left + r.size)) (bs.drop (r.right + r.size))
  ⟨r.left - back, r.right - back, r.size + back + ahead⟩

/-- The number of characters of `as` that are matched with one of `bs`; `depth` bounds the number
of divisions and is the length of `as` at first. -/
def matched (skips : Char → Bool) : (depth : Nat) → List Char → List Char → Nat
  | 0, _, _ => 0
  | depth + 1, as, bs =>
    let run := longestRun skips as bs
    let run := run.grown as bs
    if run.size = 0 then 0
    else
      run.size + matched skips depth (as.take run.left) (bs.take run.right)
        + matched skips depth (as.drop (run.left + run.size)) (bs.drop (run.right + run.size))

/-- How similar a known name is to a searched one: `shared` of `total` characters, both texts
counted. -/
structure Similarity where
  shared : Nat
  total : Nat

/-- The similarity of the known name `known` to the searched name `word`. -/
def similarity (known word : List Char) : Similarity :=
  ⟨2 * matched (isCommonIn word) known.length known word, known.length + word.length⟩

/-- Is the similarity at least three fifths? Two empty texts are alike. -/
def Similarity.isClose (s : Similarity) : Bool :=
  s.total = 0 || 3 * s.total ≤ 5 * s.shared

/-- Is the first similarity below the second? -/
def Similarity.below (s t : Similarity) : Bool :=
  if t.total = 0 then s.total ≠ 0 && s.shared ≠ s.total
  else if s.total = 0 then false
  else s.shared * t.total < t.shared * s.total

/-- The better of two candidates: the more similar one, and the greater text among equals. -/
def betterCandidate (a b : Similarity × String) : Similarity × String :=
  if a.1.below b.1 || (!b.1.below a.1 && a.2 < b.2) then b else a

/-- The known name closest to `word`, if one is close enough for a hint. -/
def closest? (word : String) (known : List String) : Option String :=
  let scored := known.map fun k => (similarity k.toList word.toList, k)
  match scored.filter (·.1.isClose) with
  | [] => none
  | first :: rest => some (rest.foldl betterCandidate first).2

end Stencil
