import Mathlib.Tactic.FinCases
import Stencil.Proofs.Number.Integers
import Stencil.Proofs.Number.Layout
import Stencil.Proofs.Text.Escapes

/-!
# Forms of data

What the canonical text of data says is a form: an atom, a text, an array or an object. A form in writing tells
where it ends, because behind it stands a comma or a closing bracket, and it tells which form it is
(`Form.write_injective`).
-/

namespace Stencil

/-- A form that is neither a text nor made of other forms. -/
inductive Atom where
  | null
  | bool (b : Bool)
  | int (i : Int)
  | float (x : Binary64)
  | notANumber
  deriving DecidableEq

/-- What a canonical text says. -/
inductive Form where
  | atom (a : Atom)
  | text (s : String)
  | array (items : List Form)
  | object (members : List (String × Form))

/-- The text of an atom. -/
def Atom.write : Atom → String
  | null => "null"
  | bool b => if b then "true" else "false"
  | int i => toString i
  | float x => Layout.canonical.text x
  | notANumber => Layout.canonical.notANumber

namespace Form

mutual

/-- The text of a form. -/
def write : Form → String
  | atom a => a.write
  | text s => Value.canonicalText s
  | array items => Value.canonicalArray (writeItems items)
  | object members => Value.braced (",".intercalate (writeMembers members))

/-- The texts of forms. -/
def writeItems : List Form → List String
  | [] => []
  | f :: rest => write f :: writeItems rest

/-- The texts of the members of an object. -/
def writeMembers : List (String × Form) → List String
  | [] => []
  | (name, f) :: rest => (Value.canonicalText name ++ ":" ++ write f) :: writeMembers rest

end

theorem writeItems_eq_map (items : List Form) : writeItems items = items.map write := by
  induction items with
  | nil => rfl
  | cons f rest ih => rw [writeItems, ih, List.map_cons]

theorem writeMembers_eq_map (members : List (String × Form)) :
    writeMembers members = members.map fun m => Value.canonicalText m.1 ++ ":" ++ m.2.write := by
  induction members with
  | nil => rfl
  | cons m rest ih => rw [writeMembers, ih, List.map_cons]

end Form

/-! ## Atoms -/

/-- The characters of atoms. -/
def isAtomic (c : Char) : Bool :=
  c.isAlphanum || c ∈ ['.', '-', '+']

namespace Atom

theorem mem_write_int {i : Int} {c : Char} (mem : c ∈ (write (int i)).toList) : c.isDigit ∨ c = '-' := by
  have digit : ∀ {n : Nat}, c ∈ Nat.toDigits 10 n → c.isDigit = true := fun mem =>
    Nat.isDigit_of_mem_toDigits (by decide) (by decide) mem
  rw [write, Integer.toList_toString] at mem
  split at mem
  · exact .inl (digit mem)
  · rcases List.mem_cons.1 mem with rfl | mem
    · exact .inr rfl
    · exact .inl (digit mem)

theorem mem_write_float {x : Binary64} {c : Char} (mem : c ∈ (write (float x)).toList) :
    c.isDigit ∨ c ∈ ['.', 'e', '-', '+'] ∨ c ∈ "Infinity".toList := by
  rw [write, Layout.toList_text] at mem
  rcases List.mem_append.1 mem with mem | mem
  · split at mem
    · rw [List.mem_singleton.1 mem]
      simp
    · cases mem
  · cases x with
    | finite negative m => exact (Layout.canonical.mem_magnitude mem).imp_right .inl
    | infinite negative => exact .inr (.inr mem)

/-- Floating-point numbers are written with a character that is in no integer. -/
theorem exists_mem_write_float (x : Binary64) : ∃ c ∈ (write (float x)).toList, c ∈ ['.', 'e', 'y'] := by
  rw [write, Layout.toList_text]
  cases x with
  | finite negative m =>
    rcases Layout.canonical.exists_mark_mem_magnitude rfl m with mem | mem
    · exact ⟨'.', List.mem_append_right _ mem, by simp⟩
    · exact ⟨'e', List.mem_append_right _ mem, by simp⟩
  | infinite negative => exact ⟨'y', List.mem_append_right _ (show 'y' ∈ "Infinity".toList by decide), by simp⟩

theorem isAtomic_of_isDigit {c : Char} (digit : c.isDigit = true) : isAtomic c = true := by
  simp [isAtomic, Char.isAlphanum, digit]

theorem isAtomic_of_mem_write {a : Atom} {c : Char} (mem : c ∈ a.write.toList) : isAtomic c = true := by
  have closed : ∀ cs : List Char, cs.all isAtomic = true → c ∈ cs → isAtomic c = true := fun cs all =>
    List.all_eq_true.1 all c
  cases a with
  | null => exact closed _ (by decide) mem
  | bool b => cases b <;> exact closed _ (by decide) mem
  | notANumber => exact closed _ (by decide) mem
  | int i =>
    rcases mem_write_int mem with digit | rfl
    · exact isAtomic_of_isDigit digit
    · decide
  | float x =>
    rcases mem_write_float mem with digit | mark | word
    · exact isAtomic_of_isDigit digit
    · exact closed _ (by decide) mark
    · exact closed _ (by decide) word

/-- Is the atom written as a word? -/
def isWord : Atom → Bool
  | null | bool _ | notANumber => true
  | int _ | float _ => false

/-- Words are written with a character that is in no number. -/
theorem isWord_iff (a : Atom) : a.isWord = true ↔ ∃ c ∈ a.write.toList, c ∈ ['u', 's', 'a'] := by
  cases a with
  | null => exact iff_of_true rfl ⟨'u', by decide, by decide⟩
  | bool b => cases b with
    | false => exact iff_of_true rfl ⟨'s', by decide, by decide⟩
    | true => exact iff_of_true rfl ⟨'u', by decide, by decide⟩
  | notANumber => exact iff_of_true rfl ⟨'a', by decide, by decide⟩
  | int i =>
    refine iff_of_false Bool.false_ne_true ?_
    rintro ⟨c, mem, letter⟩
    rcases mem_write_int mem with digit | rfl
    · fin_cases letter <;> cases digit
    · revert letter
      decide
  | float x =>
    refine iff_of_false Bool.false_ne_true ?_
    rintro ⟨c, mem, letter⟩
    rcases mem_write_float mem with digit | mark | word
    · fin_cases letter <;> cases digit
    · fin_cases mark <;> (revert letter; decide)
    · fin_cases letter <;> (revert word; decide)

theorem write_int_ne_write_float (i : Int) (x : Binary64) : write (int i) ≠ write (float x) := by
  intro same
  obtain ⟨c, mem, mark⟩ := exists_mem_write_float x
  rw [← same] at mem
  rcases mem_write_int mem with digit | rfl
  · fin_cases mark <;> cases digit
  · revert mark
    decide

/-- Infinity is written as a word. -/
theorem infinity_isWord : ∀ c ∈ Layout.canonical.infinity.toList.head?, c ≠ '-' ∧ c.isDigit = false := by
  intro c first
  have first : some 'I' = some c := first
  obtain rfl := Option.some.inj first
  decide

theorem write_injective {a b : Atom} (same : a.write = b.write) : a = b := by
  have word : a.isWord = b.isWord := by rw [Bool.eq_iff_iff, isWord_iff, isWord_iff, same]
  cases a with
  | int i => cases b with
    | int j =>
      have read := congrArg (fun s : String => Integer.read? s.toList) same
      simp only [write, Integer.read?_toString, Option.some_inj] at read
      rw [read]
    | float y => exact absurd same (write_int_ne_write_float i y)
    | null | bool _ | notANumber => cases word
  | float x => cases b with
    | float y => rw [Layout.canonical.text_injective infinity_isWord same]
    | int j => exact absurd same.symm (write_int_ne_write_float j x)
    | null | bool _ | notANumber => cases word
  | null => cases b with
    | null => rfl
    | bool b => cases b <;> (revert same; decide)
    | notANumber => revert same; decide
    | int _ | float _ => cases word
  | bool a => cases b with
    | null => cases a <;> (revert same; decide)
    | bool b => cases a <;> cases b <;> (revert same; decide)
    | notANumber => cases a <;> (revert same; decide)
    | int _ | float _ => cases word
  | notANumber => cases b with
    | null => revert same; decide
    | bool b => cases b <;> (revert same; decide)
    | notANumber => rfl
    | int _ | float _ => cases word

theorem write_ne_nil (a : Atom) : a.write.toList ≠ [] := by
  cases a with
  | null => decide
  | bool b => cases b <;> decide
  | notANumber => decide
  | int i =>
    rw [write, Integer.toList_toString]
    split
    · exact Nat.toDigits_ne_nil
    · exact List.cons_ne_nil _ _
  | float x =>
    obtain ⟨c, mem, -⟩ := exists_mem_write_float x
    exact List.ne_nil_of_mem mem

end Atom

/-! ## Where a form ends -/

/-- Does the text end, or go on with a character that may stand behind a form? -/
def Stops (rest : List Char) : Prop :=
  ∀ c ∈ rest.head?, c ∈ [',', ']', '}']

theorem stops_cons {c : Char} {rest : List Char} (stop : c ∈ [',', ']', '}']) : Stops (c :: rest) := by
  rintro d ⟨⟩
  exact stop

theorem stops_nil : Stops [] := by
  rintro c ⟨⟩

theorem not_isAtomic_of_stop {c : Char} (stop : c ∈ [',', ']', '}']) : isAtomic c = false := by
  fin_cases stop <;> decide

/-- A row of characters that ends where the first one of another kind stands. -/
theorem append_injective_of_class {isInside : Char → Bool} {as bs u t : List Char} (inside : ∀ c ∈ as, isInside c = true)
    (inside' : ∀ c ∈ bs, isInside c = true) (after : ∀ c ∈ u.head?, isInside c = false)
    (after' : ∀ c ∈ t.head?, isInside c = false) (same : as ++ u = bs ++ t) : as = bs ∧ u = t := by
  have taken : ∀ {cs v : List Char}, (∀ c ∈ cs, isInside c = true) → (∀ c ∈ v.head?, isInside c = false) →
      (cs ++ v).takeWhile isInside = cs := by
    intro cs v inside after
    rw [List.takeWhile_append_of_pos inside]
    cases v with
    | nil => simp
    | cons c v => simp [after c rfl]
  obtain rfl : as = bs := by rw [← taken inside after, same, taken inside' after']
  exact ⟨rfl, List.append_cancel_left same⟩

/-- A thing in writing tells where it ends and what it is. -/
def Separable {α : Type} (write : α → List Char) (a : α) : Prop :=
  ∀ b u t, Stops u → Stops t → write a ++ u = write b ++ t → a = b ∧ u = t

/-- Things in writing with commas between them, and the character that closes the row. -/
def listed {α : Type} (write : α → List Char) (close : Char) : List α → List Char
  | [] => [close]
  | a :: rest => write a ++ rest.flatMap (fun b => ',' :: write b) ++ [close]

section Listed

variable {α : Type} {write : α → List Char} {close : Char}

theorem stops_rest (stop : close ∈ [']', '}']) (as : List α) (rest : List Char) :
    Stops (as.flatMap (fun a => ',' :: write a) ++ close :: rest) := by
  cases as with
  | nil => exact stops_cons (List.mem_cons_of_mem _ stop)
  | cons a as => exact stops_cons (by simp)

theorem flatMap_injective_of_separable (stop : close ∈ [']', '}']) {as bs : List α} {u t : List Char}
    (each : ∀ a ∈ as, Separable write a)
    (same : as.flatMap (fun b => ',' :: write b) ++ close :: u = bs.flatMap (fun b => ',' :: write b) ++ close :: t) :
    as = bs ∧ u = t := by
  have other : close ≠ ',' := by fin_cases stop <;> decide
  induction as generalizing bs with
  | nil =>
    cases bs with
    | nil => exact ⟨rfl, (List.cons.inj same).2⟩
    | cons b bs => exact absurd (List.cons.inj same).1 other
  | cons a as ih =>
    cases bs with
    | nil => exact absurd (List.cons.inj same).1.symm other
    | cons b bs =>
      rw [List.flatMap_cons, List.flatMap_cons, List.append_assoc, List.append_assoc] at same
      obtain ⟨rfl, rest⟩ := each a List.mem_cons_self b _ _ (stops_rest stop _ _) (stops_rest stop _ _) (List.cons.inj same).2
      obtain ⟨rfl, last⟩ := ih (fun c mem => each c (List.mem_cons_of_mem _ mem)) rest
      exact ⟨rfl, last⟩

theorem listed_injective (stop : close ∈ [']', '}']) (opens : ∀ a, ∃ c cs, write a = c :: cs ∧ c ≠ close)
    {as bs : List α} {u t : List Char} (each : ∀ a ∈ as, Separable write a)
    (same : listed write close as ++ u = listed write close bs ++ t) : as = bs ∧ u = t := by
  have closed : ∀ a cs v w, listed write close (a :: cs) ++ v ≠ close :: w := by
    intro a cs v w same
    obtain ⟨c, rest, text, other⟩ := opens a
    rw [listed, text] at same
    exact other (List.cons.inj same).1
  cases as with
  | nil =>
    cases bs with
    | nil => exact ⟨rfl, (List.cons.inj same).2⟩
    | cons b bs => exact absurd same.symm (closed b bs t u)
  | cons a as =>
    cases bs with
    | nil => exact absurd same (closed a as u t)
    | cons b bs =>
      have moved : ∀ c cs v, listed write close (c :: cs) ++ v =
          write c ++ (cs.flatMap (fun b => ',' :: write b) ++ close :: v) := by
        intro c cs v
        simp [listed]
      rw [moved, moved] at same
      obtain ⟨rfl, rest⟩ := each a List.mem_cons_self b _ _ (stops_rest stop _ _) (stops_rest stop _ _) same
      obtain ⟨rfl, last⟩ := flatMap_injective_of_separable stop (fun c mem => each c (List.mem_cons_of_mem _ mem)) rest
      exact ⟨rfl, last⟩

end Listed

/-- Texts with commas between them. -/
theorem toList_intercalate_comma {α : Type} (write : α → String) (close : Char) (as : List α) :
    (",".intercalate (as.map write)).toList ++ [close] = listed (fun a => (write a).toList) close as := by
  cases as with
  | nil => rfl
  | cons a as =>
    rw [listed, List.map_cons]
    congr 1
    induction as generalizing a with
    | nil => simp
    | cons b as ih =>
      rw [List.map_cons, String.intercalate_cons_cons, String.toList_append, ih b]
      simp

namespace Form

/-- The characters of a form. -/
def chars (f : Form) : List Char :=
  f.write.toList

/-- The characters of a member of an object. -/
def memberChars (m : String × Form) : List Char :=
  (Value.canonicalText m.1 ++ ":" ++ m.2.write).toList

theorem toList_canonicalText (s : String) :
    (Value.canonicalText s).toList = '"' :: (s.toList.flatMap Value.canonicalChar ++ ['"']) := by
  simp [Value.canonicalText]

theorem chars_text (s : String) : chars (text s) = '"' :: (s.toList.flatMap Value.canonicalChar ++ ['"']) :=
  toList_canonicalText s

theorem chars_array (items : List Form) : chars (array items) = '[' :: listed chars ']' items := by
  unfold chars
  rw [← toList_intercalate_comma, write, writeItems_eq_map, Value.canonicalArray]
  simp

theorem chars_object (members : List (String × Form)) :
    chars (object members) = '\x7b' :: listed memberChars '\x7d' members := by
  unfold chars memberChars
  rw [← toList_intercalate_comma, write, writeMembers_eq_map, Value.braced]
  simp

theorem memberChars_eq (name : String) (f : Form) :
    memberChars (name, f) = '"' :: (name.toList.flatMap Value.canonicalChar ++ '"' :: ':' :: f.chars) := by
  unfold memberChars chars
  rw [String.toList_append, String.toList_append, toList_canonicalText]
  simp

/-- Can a form of this kind begin with the character? -/
def OpensWith : Form → Char → Prop
  | atom _, c => isAtomic c = true
  | text _, c => c = '"'
  | array _, c => c = '['
  | object _, c => c = '\x7b'

theorem exists_opensWith (f : Form) : ∃ c cs, f.chars = c :: cs ∧ f.OpensWith c := by
  cases f with
  | atom a =>
    obtain ⟨c, cs, text⟩ := List.exists_cons_of_ne_nil a.write_ne_nil
    exact ⟨c, cs, text, Atom.isAtomic_of_mem_write (text ▸ List.mem_cons_self)⟩
  | text s => exact ⟨_, _, chars_text s, rfl⟩
  | array items => exact ⟨_, _, chars_array items, rfl⟩
  | object members => exact ⟨_, _, chars_object members, rfl⟩

/-- Forms that are written alike are of one kind, as far as the first character tells. -/
theorem exists_opensWith_both {f g : Form} {u t : List Char} (same : f.chars ++ u = g.chars ++ t) :
    ∃ c, f.OpensWith c ∧ g.OpensWith c := by
  obtain ⟨c, cs, text, first⟩ := f.exists_opensWith
  obtain ⟨d, ds, text', first'⟩ := g.exists_opensWith
  rw [text, text'] at same
  exact ⟨c, first, (List.cons.inj same).1 ▸ first'⟩

theorem chars_opens (f : Form) : ∃ c cs, f.chars = c :: cs ∧ c ≠ ']' := by
  obtain ⟨c, cs, text, first⟩ := f.exists_opensWith
  refine ⟨c, cs, text, ?_⟩
  rintro rfl
  cases f <;> cases first

theorem memberChars_opens (m : String × Form) : ∃ c cs, memberChars m = c :: cs ∧ c ≠ '\x7d' :=
  ⟨'"', _, memberChars_eq m.1 m.2, by decide⟩

theorem separable_atom (a : Atom) : Separable chars (atom a) := by
  intro g u t stops stops' same
  obtain ⟨c, first, first'⟩ := exists_opensWith_both same
  cases g with
  | atom b =>
    have plain : ∀ {v : List Char}, Stops v → ∀ c ∈ v.head?, isAtomic c = false := fun stops c mem =>
      not_isAtomic_of_stop (stops c mem)
    obtain ⟨texts, rest⟩ := append_injective_of_class (fun c mem => Atom.isAtomic_of_mem_write mem)
      (fun c mem => Atom.isAtomic_of_mem_write mem) (plain stops) (plain stops') same
    rw [Atom.write_injective (String.toList_inj.1 texts)]
    exact ⟨rfl, rest⟩
  | text _ | array _ | object _ =>
    cases first'
    cases first

theorem separable_text (s : String) : Separable chars (text s) := by
  intro g u t stops stops' same
  obtain ⟨c, first, first'⟩ := exists_opensWith_both same
  cases g with
  | text s' =>
    rw [chars_text, chars_text, List.cons_append, List.cons_append, List.append_assoc, List.append_assoc] at same
    obtain ⟨texts, rest⟩ := canonicalChar_escapes.body_injective Function.injective_id (List.cons.inj same).2
    rw [String.toList_inj.1 texts]
    exact ⟨rfl, rest⟩
  | atom _ | array _ | object _ =>
    cases first
    cases first'

theorem separable_array {items : List Form} (each : ∀ f ∈ items, Separable chars f) :
    Separable chars (array items) := by
  intro g u t stops stops' same
  obtain ⟨c, first, first'⟩ := exists_opensWith_both same
  cases g with
  | array others =>
    rw [chars_array, chars_array] at same
    obtain ⟨rfl, rest⟩ := listed_injective (by simp) chars_opens each (List.cons.inj same).2
    exact ⟨rfl, rest⟩
  | atom _ | text _ | object _ =>
    cases first
    cases first'

theorem separable_member {m : String × Form} (value : Separable chars m.2) : Separable memberChars m := by
  obtain ⟨name, f⟩ := m
  rintro ⟨name', g⟩ u t stops stops' same
  rw [memberChars_eq, memberChars_eq, List.cons_append, List.cons_append, List.append_assoc, List.append_assoc] at same
  obtain ⟨names, values⟩ := canonicalChar_escapes.body_injective Function.injective_id (List.cons.inj same).2
  obtain ⟨rfl, rest⟩ := value g u t stops stops' (List.cons.inj values).2
  rw [String.toList_inj.1 names]
  exact ⟨rfl, rest⟩

theorem separable_object {members : List (String × Form)} (each : ∀ m ∈ members, Separable chars m.2) :
    Separable chars (object members) := by
  intro g u t stops stops' same
  obtain ⟨c, first, first'⟩ := exists_opensWith_both same
  cases g with
  | object others =>
    rw [chars_object, chars_object] at same
    obtain ⟨rfl, rest⟩ := listed_injective (by simp) memberChars_opens
      (fun m mem => separable_member (each m mem)) (List.cons.inj same).2
    exact ⟨rfl, rest⟩
  | atom _ | text _ | array _ =>
    cases first
    cases first'

mutual

theorem separable : ∀ f : Form, Separable chars f
  | atom a => separable_atom a
  | text s => separable_text s
  | array items => separable_array (separable_items items)
  | object members => separable_object (separable_members members)

theorem separable_items : ∀ items : List Form, ∀ f ∈ items, Separable chars f
  | [] => fun _ mem => nomatch mem
  | f :: rest => List.forall_mem_cons.2 ⟨separable f, separable_items rest⟩

theorem separable_members : ∀ members : List (String × Form), ∀ m ∈ members, Separable chars m.2
  | [] => fun _ mem => nomatch mem
  | (_, f) :: rest => List.forall_mem_cons.2 ⟨separable f, separable_members rest⟩

end

/-- The text of a form tells the form. -/
theorem write_injective {f g : Form} (same : f.write = g.write) : f = g := by
  have chars : f.chars ++ [] = g.chars ++ [] := by rw [chars, chars, same]
  exact (separable f g [] [] stops_nil stops_nil chars).1

end Form

end Stencil
