import Mathlib.Tactic.Ring
import Stencil.Cache.Canonical

/-!
# Reading escaped characters back

In quoted texts a character stands for itself or is written with a backslash. `readEscape` reads one character
back, whichever of the two ways of quoting it was written in (`Escapes`), so a quoted text tells where it ends and
what it quotes: `Escapes.body_injective`.
-/

namespace Stencil

/-- The number that hexadecimal digits in lower case write. -/
def ofHexDigits (ds : List Char) : Nat :=
  ds.foldl (fun n c => 16 * n + (if c.isDigit then c.toNat - 48 else c.toNat - 87)) 0

theorem ofHexDigits_hexDigits (width n : Nat) : ofHexDigits (hexDigits width n) = n % 16 ^ width := by
  have digit : ∀ d < 16, (if (Nat.digitChar d).isDigit then (Nat.digitChar d).toNat - 48
      else (Nat.digitChar d).toNat - 87) = d := by decide
  induction width generalizing n with
  | zero => simp [hexDigits, ofHexDigits, Nat.mod_one]
  | succ width ih =>
    have fold : ofHexDigits (hexDigits (width + 1) n) = 16 * ofHexDigits (hexDigits width (n / 16)) + n % 16 := by
      rw [hexDigits, ofHexDigits, List.foldl_append, List.foldl_cons, List.foldl_nil, ← ofHexDigits,
        digit _ (Nat.mod_lt _ (by decide))]
    rw [fold, ih, pow_succ, mul_comm (16 ^ width), Nat.mod_mul]
    ring

/-- One character of a quoted text, and what follows it. -/
def readEscape : List Char → Option (Char × List Char)
  | '\\' :: 'n' :: rest => some ('\n', rest)
  | '\\' :: 'r' :: rest => some ('\r', rest)
  | '\\' :: 't' :: rest => some ('\t', rest)
  | '\\' :: 'f' :: rest => some ('\x0c', rest)
  | '\\' :: 'b' :: rest => some ('\x08', rest)
  | '\\' :: 'u' :: a :: b :: c :: d :: rest => some (Char.ofNat (ofHexDigits [a, b, c, d]), rest)
  | '\\' :: 'x' :: a :: b :: rest => some (Char.ofNat (ofHexDigits [a, b]), rest)
  | '\\' :: c :: rest => some (c, rest)
  | c :: rest => some (c, rest)
  | [] => none

theorem readEscape_plain {c : Char} (plain : c ≠ '\\') (rest : List Char) : readEscape (c :: rest) = some (c, rest) := by
  unfold readEscape
  split <;> simp_all

/-- A way to write values of some kind inside of quotes of kind `quote`: each as a character that is read back,
and none beginning with the quote. -/
structure Escapes {α : Type} (quote : Char) (write : α → List Char) (meant : α → Char) : Prop where
  reads : ∀ a rest, readEscape (write a ++ rest) = some (meant a, rest)
  inside : ∀ a, (write a).head? ≠ some quote

namespace Escapes

variable {α : Type} {quote : Char} {write : α → List Char} {meant : α → Char}

/-- The closing quote ends a quoted text, so the text and what follows it can be told apart. -/
theorem body_injective (escapes : Escapes quote write meant) (injective : Function.Injective meant) {as bs : List α}
    {rest rest' : List Char} (same : as.flatMap write ++ quote :: rest = bs.flatMap write ++ quote :: rest') :
    as = bs ∧ rest = rest' := by
  have nonempty : ∀ a, write a ≠ [] := by
    intro a none
    have read := escapes.reads a []
    rw [none] at read
    cases read
  have closed : ∀ a as' tail tail', (a :: as').flatMap write ++ tail ≠ quote :: tail' := by
    intro a as' tail tail' same
    rw [List.flatMap_cons] at same
    refine escapes.inside a ?_
    obtain ⟨c, cs, first⟩ := List.exists_cons_of_ne_nil (nonempty a)
    rw [first, List.cons_append, List.cons_append] at same
    rw [first, (List.cons.inj same).1, List.head?_cons]
  induction as generalizing bs with
  | nil =>
    cases bs with
    | nil => exact ⟨rfl, (List.cons.inj same).2⟩
    | cons b bs => exact absurd same.symm (closed b bs _ _)
  | cons a as ih =>
    cases bs with
    | nil => exact absurd same (closed a as _ _)
    | cons b bs =>
      rw [List.flatMap_cons, List.flatMap_cons, List.append_assoc, List.append_assoc] at same
      have read := congrArg readEscape same
      rw [escapes.reads, escapes.reads, Option.some_inj, Prod.mk.injEq] at read
      obtain ⟨first, rest⟩ := read
      obtain ⟨rfl, more⟩ := ih rest
      exact ⟨by rw [injective first], more⟩

end Escapes

/-- Canonical texts quote characters in a way that is read back. -/
theorem canonicalChar_escapes : Escapes '"' Value.canonicalChar id where
  reads c rest := by
    unfold Value.canonicalChar
    split_ifs with special newline carriage tab feed back control
    · rcases special with rfl | rfl <;> rfl
    · rw [newline]
      rfl
    · rw [carriage]
      rfl
    · rw [tab]
      rfl
    · rw [feed]
      rfl
    · rw [back]
      rfl
    · have code : ofHexDigits (hexDigits 4 c.toNat) = c.toNat := by
        rw [ofHexDigits_hexDigits, Nat.mod_eq_of_lt (by omega)]
      calc readEscape (['\\', 'u'] ++ hexDigits 4 c.toNat ++ rest)
          = some (Char.ofNat (ofHexDigits (hexDigits 4 c.toNat)), rest) := rfl
        _ = some (c, rest) := by rw [code, Char.ofNat_toNat]
    · exact readEscape_plain (fun is => special (.inr is)) rest
  inside c := by
    unfold Value.canonicalChar
    split_ifs with special
    all_goals simp
    exact fun is => special (.inl is)

/-- Shown bytes are quoted in a way that is read back. -/
theorem quoteByte_escapes (quote : Char) (is : quote = '\'' ∨ quote = '"') :
    Escapes quote (quoteByte quote) fun b => Char.ofNat b.toNat where
  reads b rest := by
    unfold quoteByte
    dsimp only
    split_ifs with special tab newline carriage plain
    · rcases special with same | same
      · rw [same]
        rcases is with rfl | rfl <;> rfl
      · rw [same]
        rfl
    · rw [tab]
      rfl
    · rw [newline]
      rfl
    · rw [carriage]
      rfl
    · exact readEscape_plain (fun is => special (.inr is)) rest
    · have code : ofHexDigits (hexDigits 2 b.toNat) = b.toNat := by
        rw [ofHexDigits_hexDigits, Nat.mod_eq_of_lt (show b.toNat < 16 ^ 2 from b.toNat_lt)]
      calc readEscape (['\\', 'x'] ++ hexDigits 2 b.toNat ++ rest)
          = some (Char.ofNat (ofHexDigits (hexDigits 2 b.toNat)), rest) := rfl
        _ = some (Char.ofNat b.toNat, rest) := by rw [code]
  inside b := by
    have apart : '\\' ≠ quote := by
      rcases is with rfl | rfl <;> decide
    unfold quoteByte
    dsimp only
    split_ifs with special
    all_goals simp [apart]
    exact fun is => special (.inl is)

theorem char_ofNat_byte_injective : Function.Injective fun b : UInt8 => Char.ofNat b.toNat := by
  intro a b same
  have code : ∀ b : UInt8, (Char.ofNat b.toNat).toNat = b.toNat := by
    intro b
    have valid : b.toNat.isValidChar := .inl (Nat.lt_trans b.toNat_lt (by decide))
    rw [Char.ofNat, dif_pos valid]
    rfl
  exact UInt8.toNat_inj.1 ((code a).symm.trans ((congrArg Char.toNat same).trans (code b)))

/-- Different bytes are shown differently. -/
theorem quotedBytes_injective {as bs : List UInt8} (same : quotedBytes as = quotedBytes bs) : as = bs := by
  have quotes : ∀ cs, quoteFor cs = '\'' ∨ quoteFor cs = '"' := by
    intro cs
    unfold quoteFor
    split
    · exact .inr rfl
    · exact .inl rfl
  obtain ⟨-, quote, body⟩ : _ ∧ _ ∧ _ := by
    simpa only [quotedBytes, String.ofList_inj, List.cons.injEq, List.cons_append] using same
  rw [← quote] at body
  exact ((quoteByte_escapes _ (quotes _)).body_injective char_ofNat_byte_injective body).1

end Stencil
