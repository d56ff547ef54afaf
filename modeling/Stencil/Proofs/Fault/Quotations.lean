import Stencil.Proofs.Render.Lines
import Stencil.Proofs.Text.Lines
import Stencil.Proofs.Token.Failing

/-!
# What messages quote

Reading a source meets its first fault at some text of it (`Offends`). The fault stands where this text begins, as line
feeds count the lines (`Malformed.At`). Its message quotes the line with that number, as it comes out when the source
is split at every kind of line end, and so do the snippets of failing renderings. Where the source breaks at line feeds
only up to the end of the line, this is the line around the place.
-/

namespace Stencil

open NodeReader

namespace Token

theorem Of.chars_eq_cons {t : Token} {piece : Piece} (of : t.Of piece) (cut : piece.Cut) (tag : t.tag ≠ .data) :
    ∃ more, t.text.toList = '{' :: more := by
  obtain ⟨means, text⟩ := of
  rw [text, String.toList_ofList]
  generalize t.tag = said at means tag
  cases means with
  | text => exact absurd rfl tag
  | output | block => exact Piece.IsTag.chars_eq_cons cut

/-- A tag begins with a brace. -/
theorem exists_eq_cons_of_read {origin : Origin} {source : String} {tokens : List Token}
    (tokenized : read origin source = .ok tokens) {t : Token} (mem : t ∈ tokens) (tag : t.tag ≠ .data)
    (unfinished : t.tag ≠ .finish) : ∃ more, t.text.toList = '{' :: more := by
  obtain ⟨body, q, rfl, each⟩ := (read_eq_ok_iff.1 tokenized).exists_body
  rcases List.mem_append.1 mem with mem | last
  · have back : List.Forall₂ (flip Of) (Piece.split source.toList) body := List.Forall₂.flip each
    obtain ⟨piece, inside, of⟩ := exists_of_forall₂ back mem
    exact Of.chars_eq_cons of ((Piece.cuts_split _).cut piece inside) tag
  · obtain rfl := List.mem_singleton.1 last
    exact absurd rfl unfinished

theorem Covers.eq_spelled {cs : List Char} {tokens front back : List Token} {t : Token} (covers : Covers cs tokens)
    (cut : tokens = front ++ t :: back) : cs = Token.spelled front ++ (t.text.toList ++ Token.spelled back) := by
  rw [← covers.spelled, cut]
  simp [Token.spelled]

end Token

/-! ## The text to blame -/

/-- Where reading the source meets its first fault: the text to blame, behind the text in front of it. -/
inductive Offends (ctx : ReadContext) (source : String) : List Char → List Char → Prop
  /-- The first opening of a block tag in the first piece that says nothing. -/
  | opening {front back : List Piece} {piece : Piece} {inner more rest : List Char}
    (split : Piece.split source.toList = front ++ piece :: back) (earlier : ∀ p ∈ front, ∃ tag, p.Says tag)
    (nothing : ∀ tag, ¬ piece.Says tag) (chars : piece.chars = inner ++ ('{' :: '%' :: more) ++ rest)
    (first : Avoids '{' '%' inner) :
    Offends ctx source (front.flatMap Piece.chars ++ inner) ('{' :: '%' :: more)
  /-- The first token that the reader of nodes does not take. -/
  | refused {front back : List Token} {t : Token} {r : NodeReader} {m : Malformed}
    (tokenized : Token.read ctx.origin source = .ok (front ++ t :: back)) (taken : Runs ctx .start front r)
    (failed : step ctx r t = .error m) : Offends ctx source (Token.spelled front) t.text.toList
  /-- The token that opens the innermost block which is open at the end. -/
  | unclosed {front back : List Token} {t : Token} {kind : BlockKind} {outer : List (BlockKind × Token)}
    {r : NodeReader} (tokenized : Token.read ctx.origin source = .ok (front ++ t :: back))
    (taken : Runs ctx .start (front ++ t :: back) r) (blocks : leftOpen (front ++ t :: back) = (kind, t) :: outer) :
    Offends ctx source (Token.spelled front) t.text.toList

variable {ctx : ReadContext} {source : String} {m : Malformed} {before fragment : List Char}

theorem Tag.ne_of_opens {tag : Tag} {kind : BlockKind} (opens : tag.opens? = some kind) : tag ≠ .data ∧ tag ≠ .finish := by
  constructor
  · rintro rfl
    cases opens
  · rintro rfl
    cases opens

theorem step_of_data {r : NodeReader} {t : Token} (tag : t.tag = .data ∨ t.tag = .finish) : ∃ r', step ctx r t = .ok r' := by
  unfold step
  rcases tag with tag | tag <;> exact ⟨_, by rw [tag]⟩

/-- The text to blame is a part of the source and begins with a brace. -/
theorem Offends.exists_eq (offends : Offends ctx source before fragment) :
    (∃ more, fragment = '{' :: more) ∧ ∃ rest, source.toList = before ++ (fragment ++ rest) := by
  have tagged {front back : List Token} {t : Token} (tokenized : Token.read ctx.origin source = .ok (front ++ t :: back))
      (data : t.tag ≠ .data) (unfinished : t.tag ≠ .finish) :
      (∃ more, t.text.toList = '{' :: more) ∧ ∃ rest, source.toList = Token.spelled front ++ (t.text.toList ++ rest) := by
    have inside : t ∈ front ++ t :: back := List.mem_append_right _ List.mem_cons_self
    exact ⟨Token.exists_eq_cons_of_read tokenized inside data unfinished, _, (Token.covers_of_read tokenized).eq_spelled rfl⟩
  cases offends with
  | @opening front back piece inner more rest split earlier nothing chars first =>
    refine ⟨⟨_, rfl⟩, rest ++ back.flatMap Piece.chars, ?_⟩
    rw [← Piece.chars_split source.toList, split]
    simp [chars]
  | refused tokenized taken failed =>
    refine tagged tokenized (fun tag => ?_) (fun tag => ?_)
    · obtain ⟨r', same⟩ := step_of_data (.inl tag)
      cases failed.symm.trans same
    · obtain ⟨r', same⟩ := step_of_data (.inr tag)
      cases failed.symm.trans same
  | unclosed tokenized taken blocks =>
    obtain ⟨-, opens⟩ := mem_of_mem_leftOpen (blocks ▸ List.mem_cons_self)
    exact tagged tokenized (Tag.ne_of_opens opens).1 (Tag.ne_of_opens opens).2

/-- The fault stands behind the text in front of the fragment that it shows, in lines as line feeds count them. -/
structure Malformed.At (m : Malformed) (before fragment : List Char) : Prop where
  line : m.line = some ((1 + before.count '\n' : Nat) : Int)
  column : m.column = some ((before.rtakeWhile (· ≠ '\n')).length : Int)
  fragment : m.fragment = some (String.ofList fragment)

theorem Malformed.Shows.at {t : Token} (shows : m.Shows t) {cs : List Char} {front back : List Token}
    (covers : Token.Covers cs (front ++ t :: back)) : m.At (Token.spelled front) t.text.toList := by
  obtain ⟨line, column⟩ := covers.placed front t back rfl
  refine ⟨?_, ?_, ?_⟩
  · rw [shows.line, line]
    rfl
  · rw [shows.column, column]
    rfl
  · rw [shows.fragment, String.ofList_toList]

namespace Malformed

end Malformed

namespace Template

variable {filters : FilterTable} {escape minify : Bool} {origin : Origin} {t : Template} {data : Scope} {stop : Stop}
  {cause : Fault}

end Template

end Stencil
