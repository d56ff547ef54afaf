import Stencil.Proofs.Text.Classes
import Stencil.Proofs.Text.Pairs
import Stencil.Proofs.Token.Names

/-!
# What directives say

The grammar of the inside of a block tag: a keyword and its arguments, and of which form the arguments of each
keyword are. `Directive.read_eq_ok_iff` says that the reader of directives accepts exactly that, and only if
no second `{%` stands in it.
-/

namespace Stencil

/-- A bound of a counting loop: decimal digits of any script, with an optional minus sign. -/
def IsBound (cs : List Char) : Prop :=
  ∃ sign digits, cs = sign ++ digits ∧ (sign = [] ∨ sign = ['-']) ∧ digits ≠ []
    ∧ ∀ c ∈ digits, isDecimalDigit c

/-- At least one blank, and nothing else. -/
def IsGap (cs : List Char) : Prop :=
  cs ≠ [] ∧ ∀ c ∈ cs, isBlank c

namespace Directive

/-- The arguments `path as name` of a loop over a collection. -/
def IsForeach (args path name : List Char) : Prop :=
  ∃ before after, args = path ++ before ++ ['a', 's'] ++ after ++ name ∧ IsPath path ∧ IsGap before
    ∧ IsGap after ∧ IsName name

/-- The arguments `name in start..stop` of a counting loop. -/
def IsFor (args name start stop : List Char) : Prop :=
  ∃ before after left right, args = name ++ before ++ ['i', 'n'] ++ after ++ start ++ left ++ ['.', '.']
      ++ right ++ stop
    ∧ IsName name ∧ IsGap before ∧ IsGap after ∧ IsBound start ∧ (∀ c ∈ left, isBlank c)
    ∧ (∀ c ∈ right, isBlank c) ∧ IsBound stop

/-- The inside of a block tag: a keyword that is no blank, and its arguments, with blanks around and between them. -/
def IsWritten (inner keyword args : List Char) : Prop :=
  ∃ before between after, inner = before ++ keyword ++ between ++ args ++ after ∧ (∀ c ∈ before, isBlank c)
    ∧ (∀ c ∈ between, isBlank c) ∧ (∀ c ∈ after, isBlank c) ∧ (args ≠ [] → between ≠ [])
    ∧ keyword ≠ [] ∧ (∀ c ∈ keyword, isBlank c = false) ∧ isTrimmed args

/-- What a keyword with its arguments says. -/
inductive Says : String → List Char → Tag → Prop where
  | openIf {condition : List Char} : condition ≠ [] → Says "if" condition (.openIf (String.ofList condition))
  | elseIf {condition : List Char} :
      condition ≠ [] → Says "elseif" condition (.elseIf (String.ofList condition))
  | otherwise : Says "else" [] .otherwise
  | closeIf : Says "endif" [] .closeIf
  | openForeach {args path name : List Char} : IsForeach args path name →
      Says "foreach" args (.openForeach (String.ofList path) (String.ofList name))
  | closeForeach : Says "endforeach" [] .closeForeach
  | openFor {args name start stop : List Char} : IsFor args name start stop →
      Says "for" args (.openFor (String.ofList name) (String.ofList start) (String.ofList stop))
  | closeFor : Says "endfor" [] .closeFor

end Directive

/-! ## Gaps and bounds -/

theorem not_extendsPath_of_isGap {gap : List Char} (h : IsGap gap) (rest : List Char) :
    extendsPath (gap ++ rest) = false := by
  obtain ⟨nonempty, blank⟩ := h
  obtain ⟨c, tail, rfl⟩ := List.exists_cons_of_ne_nil nonempty
  have first := blank c List.mem_cons_self
  rw [List.cons_append, extendsPath]
  · simpa using isNameChar_of_isBlank first
  · rintro _ ⟨⟩
    exact not_dot_of_isBlank first rfl

theorem not_beginsWith_isBlank_of_isName {name : List Char} (h : IsName name) (rest : List Char) :
    beginsWith isBlank (name ++ rest) = false := by
  rw [beginsWith_append h.ne_nil]
  obtain ⟨c, tail, rfl⟩ := List.exists_cons_of_ne_nil h.ne_nil
  rw [beginsWith_cons]
  by_contra blank
  have := isNameChar_of_isBlank (by simpa using blank)
  rw [h.2 c List.mem_cons_self] at this
  cases this

theorem IsBound.ne_nil {cs : List Char} (h : IsBound cs) : cs ≠ [] := by
  obtain ⟨sign, digits, rfl, -, nonempty, -⟩ := h
  exact List.append_ne_nil_of_right_ne_nil sign nonempty

theorem not_beginsWith_isBlank_of_isBound {bound : List Char} (h : IsBound bound) (rest : List Char) :
    beginsWith isBlank (bound ++ rest) = false := by
  rw [beginsWith_append h.ne_nil]
  obtain ⟨sign, digits, rfl, rfl | rfl, nonempty, inside⟩ := h
  · obtain ⟨c, tail, rfl⟩ := List.exists_cons_of_ne_nil nonempty
    rw [List.nil_append, beginsWith_cons]
    by_contra blank
    have := isDecimalDigit_of_isBlank (by simpa using blank)
    rw [inside c List.mem_cons_self] at this
    cases this
  · rw [List.singleton_append, beginsWith_cons]
    decide

namespace Directive

theorem skipBlanks?_eq_some_iff {cs rest : List Char} :
    skipBlanks? cs = some rest ↔ ∃ gap, cs = gap ++ rest ∧ IsGap gap ∧ beginsWith isBlank rest = false := by
  constructor
  · intro h
    cases cs with
    | nil => cases h
    | cons c tail =>
      simp only [skipBlanks?] at h
      split at h
      · next blank =>
        obtain ⟨same, inside, stop⟩ := takeWhile_dropWhile_iff.1 ⟨rfl, Option.some.inj h⟩
        refine ⟨_, same, ⟨?_, inside⟩, stop⟩
        rw [List.takeWhile_cons, if_pos blank]
        simp
      · cases h
  · rintro ⟨gap, rfl, ⟨nonempty, blank⟩, stop⟩
    obtain ⟨c, tail, rfl⟩ := List.exists_cons_of_ne_nil nonempty
    rw [List.cons_append, skipBlanks?, if_pos (blank c List.mem_cons_self), ← List.cons_append,
      dropWhile_append_of_stop blank stop]

theorem skipWord?_eq_some_iff {word cs rest : List Char} (nonempty : word ≠ [])
    (begins : beginsWith isBlank word = false) :
    skipWord? word cs = some rest ↔ ∃ before after, cs = before ++ word ++ after ++ rest ∧ IsGap before
      ∧ IsGap after ∧ beginsWith isBlank rest = false := by
  constructor
  · intro h
    obtain ⟨middle, skipped, behind⟩ := Option.bind_eq_some_iff.1 h
    obtain ⟨before, same, gap, -⟩ := skipBlanks?_eq_some_iff.1 skipped
    split at behind
    · next written =>
      obtain ⟨tail, rfl⟩ := List.isPrefixOf_iff_prefix.1 written
      rw [List.drop_left] at behind
      obtain ⟨after, rfl, gap', stop⟩ := skipBlanks?_eq_some_iff.1 behind
      exact ⟨before, after, by simp [same], gap, gap', stop⟩
    · cases behind
  · rintro ⟨before, after, rfl, gap, gap', stop⟩
    have split : before ++ word ++ after ++ rest = before ++ (word ++ (after ++ rest)) := by simp
    have begins' : beginsWith isBlank (word ++ (after ++ rest)) = false := by
      rwa [beginsWith_append nonempty]
    rw [skipWord?, split, skipBlanks?_eq_some_iff.2 ⟨before, rfl, gap, begins'⟩, Option.bind_some,
      if_pos (List.isPrefixOf_iff_prefix.2 (List.prefix_append _ _)), List.drop_left]
    exact skipBlanks?_eq_some_iff.2 ⟨after, rfl, gap', stop⟩

/-- The bound that a run of digits behind a sign forms. -/
theorem signedRun_iff {sign digits bound rest : List Char} :
    (match digits.takeWhile isDecimalDigit with
      | [] => none
      | number => some (sign ++ number, digits.dropWhile isDecimalDigit)) = some (bound, rest)
      ↔ ∃ number, bound = sign ++ number ∧ digits = number ++ rest ∧ number ≠ []
        ∧ (∀ c ∈ number, isDecimalDigit c) ∧ beginsWith isDecimalDigit rest = false := by
  constructor
  · intro h
    split at h
    · cases h
    · next nonempty =>
      obtain ⟨rfl, left⟩ := Prod.mk.inj (Option.some.inj h)
      obtain ⟨same, inside, stop⟩ := takeWhile_dropWhile_iff.1 ⟨rfl, left⟩
      exact ⟨_, rfl, same, nonempty, inside, stop⟩
  · rintro ⟨number, rfl, rfl, nonempty, inside, stop⟩
    rw [takeWhile_append_of_stop inside stop, dropWhile_append_of_stop inside stop]
    obtain ⟨c, tail, rfl⟩ := List.exists_cons_of_ne_nil nonempty
    rfl

theorem readBound?_minus (digits : List Char) :
    readBound? ('-' :: digits) = match digits.takeWhile isDecimalDigit with
      | [] => none
      | number => some (['-'] ++ number, digits.dropWhile isDecimalDigit) := rfl

theorem readBound?_of_not_minus {cs : List Char} (unsigned : cs.head? ≠ some '-') :
    readBound? cs = match cs.takeWhile isDecimalDigit with
      | [] => none
      | number => some ([] ++ number, cs.dropWhile isDecimalDigit) := by
  cases cs with
  | nil => rfl
  | cons c tail =>
    have other : c ≠ '-' := fun same => unsigned (congrArg some same)
    unfold readBound?
    split
    next sign digits same =>
    split at same
    · next h => exact absurd (List.cons.inj h).1 other
    · obtain ⟨rfl, rfl⟩ := Prod.mk.inj same
      rfl

theorem readBound?_eq_some_iff {cs bound rest : List Char} :
    readBound? cs = some (bound, rest)
      ↔ cs = bound ++ rest ∧ IsBound bound ∧ beginsWith isDecimalDigit rest = false := by
  constructor
  · intro h
    by_cases minus : cs.head? = some '-'
    · obtain ⟨digits, rfl⟩ := List.head?_eq_some_iff.1 minus
      rw [readBound?_minus, signedRun_iff] at h
      obtain ⟨number, rfl, rfl, nonempty, inside, stop⟩ := h
      exact ⟨by simp, ⟨_, number, rfl, .inr rfl, nonempty, inside⟩, stop⟩
    · rw [readBound?_of_not_minus minus, signedRun_iff] at h
      obtain ⟨number, rfl, rfl, nonempty, inside, stop⟩ := h
      exact ⟨by simp, ⟨_, _, rfl, .inl rfl, nonempty, inside⟩, stop⟩
  · rintro ⟨rfl, ⟨sign, digits, rfl, signed, nonempty, inside⟩, stop⟩
    rcases signed with rfl | rfl
    · have unsigned : ([] ++ digits ++ rest).head? ≠ some '-' := by
        obtain ⟨c, tail, rfl⟩ := List.exists_cons_of_ne_nil nonempty
        rintro ⟨⟩
        have digit := inside '-' List.mem_cons_self
        rw [isDecimalDigit_minus] at digit
        cases digit
      rw [readBound?_of_not_minus unsigned, signedRun_iff]
      exact ⟨digits, rfl, rfl, nonempty, inside, stop⟩
    · rw [List.append_assoc, List.singleton_append, readBound?_minus, signedRun_iff]
      exact ⟨digits, rfl, rfl, nonempty, inside, stop⟩

theorem readForeach?_eq_some_iff {args path name : List Char} :
    readForeach? args = some (path, name) ↔ IsForeach args path name := by
  constructor
  · intro h
    obtain ⟨⟨path', rest⟩, found, h⟩ := Option.bind_eq_some_iff.1 h
    obtain ⟨rest', skipped, h⟩ := Option.bind_eq_some_iff.1 h
    obtain ⟨⟨name', left⟩, named, h⟩ := Option.bind_eq_some_iff.1 h
    cases left with
    | cons => cases h
    | nil =>
      obtain ⟨rfl, rfl⟩ := Prod.mk.inj (Option.some.inj h)
      obtain ⟨rfl, isPath, -⟩ := readPath?_eq_some_iff.1 found
      obtain ⟨before, after, rfl, gap, gap', -⟩ := (skipWord?_eq_some_iff (by decide) (by decide)).1 skipped
      obtain ⟨rfl, isName, -⟩ := readName?_eq_some_iff.1 named
      exact ⟨before, after, by simp, isPath, gap, gap', isName⟩
  · rintro ⟨before, after, rfl, isPath, gap, gap', isName⟩
    have split : path ++ before ++ ['a', 's'] ++ after ++ name
        = path ++ (before ++ ['a', 's'] ++ after ++ name) := by simp
    have behind : extendsPath (before ++ ['a', 's'] ++ after ++ name) = false := by
      simpa using not_extendsPath_of_isGap gap (['a', 's'] ++ after ++ name)
    have starts : beginsWith isBlank name = false := by
      simpa using not_beginsWith_isBlank_of_isName isName []
    rw [readForeach?, split, readPath?_eq_some_iff.2 ⟨rfl, isPath, behind⟩]
    change (skipWord? _ _).bind _ = _
    rw [(skipWord?_eq_some_iff (by decide) (by decide)).2 ⟨before, after, rfl, gap, gap', starts⟩]
    change (readName? _).bind _ = _
    rw [readName?_eq_some_iff.2 ⟨(List.append_nil name).symm, isName, rfl⟩]
    rfl

theorem not_beginsWith_isDecimalDigit_of_blanks {gap rest : List Char} (blank : ∀ c ∈ gap, isBlank c) :
    beginsWith isDecimalDigit (gap ++ '.' :: rest) = false := by
  cases gap with
  | nil =>
    rw [List.nil_append, beginsWith_cons]
    decide +kernel
  | cons c tail => exact isDecimalDigit_of_isBlank (blank c List.mem_cons_self)

theorem readFor?_eq_some_iff {args name start stop : List Char} :
    readFor? args = some (name, start, stop) ↔ IsFor args name start stop := by
  constructor
  · intro h
    obtain ⟨⟨name', rest⟩, named, h⟩ := Option.bind_eq_some_iff.1 h
    obtain ⟨rest', skipped, h⟩ := Option.bind_eq_some_iff.1 h
    obtain ⟨⟨start', rest''⟩, started, h⟩ := Option.bind_eq_some_iff.1 h
    obtain ⟨split, isName, -⟩ := readName?_eq_some_iff.1 named
    obtain ⟨before, after, split', gap, gap', -⟩ := (skipWord?_eq_some_iff (by decide) (by decide)).1 skipped
    obtain ⟨split'', isStart, -⟩ := readBound?_eq_some_iff.1 started
    dsimp only at h
    split at h
    · next tail dots =>
      obtain ⟨⟨stop', end'⟩, stopped, h⟩ := Option.bind_eq_some_iff.1 h
      cases end' with
      | cons => cases h
      | nil =>
        obtain ⟨rfl, same⟩ := Prod.mk.inj (Option.some.inj h)
        obtain ⟨rfl, rfl⟩ := Prod.mk.inj same
        obtain ⟨left, rfl, blank, -⟩ := dropWhile_eq_iff.1 dots
        obtain ⟨ends, isStop, -⟩ := readBound?_eq_some_iff.1 stopped
        obtain ⟨right, rfl, blank', -⟩ := dropWhile_eq_iff.1 ends
        refine ⟨before, after, left, right, ?_, isName, gap, gap', isStart, blank, blank', isStop⟩
        rw [split, split', split'']
        simp
    · cases h
  · rintro ⟨before, after, left, right, rfl, isName, gap, gap', isStart, blank, blank', isStop⟩
    have split : name ++ before ++ ['i', 'n'] ++ after ++ start ++ left ++ ['.', '.'] ++ right ++ stop
        = name ++ (before ++ ['i', 'n'] ++ after ++ (start ++ (left ++ '.' :: '.' :: (right ++ stop)))) := by
      simp
    have behind : beginsWith isNameChar
        (before ++ ['i', 'n'] ++ after ++ (start ++ (left ++ '.' :: '.' :: (right ++ stop)))) = false := by
      apply not_beginsWith_of_not_extendsPath
      simpa using not_extendsPath_of_isGap gap
        (['i', 'n'] ++ after ++ (start ++ (left ++ '.' :: '.' :: (right ++ stop))))
    have starts := not_beginsWith_isBlank_of_isBound isStart (left ++ '.' :: '.' :: (right ++ stop))
    have ends : beginsWith isBlank stop = false := by
      simpa using not_beginsWith_isBlank_of_isBound isStop []
    rw [readFor?, split, readName?_eq_some_iff.2 ⟨rfl, isName, behind⟩]
    change (skipWord? _ _).bind _ = _
    rw [(skipWord?_eq_some_iff (by decide) (by decide)).2 ⟨before, after, rfl, gap, gap', starts⟩]
    change (readBound? _).bind _ = _
    rw [readBound?_eq_some_iff.2 ⟨rfl, isStart, not_beginsWith_isDecimalDigit_of_blanks blank⟩]
    have dots : (left ++ '.' :: '.' :: (right ++ stop)).dropWhile isBlank = '.' :: '.' :: (right ++ stop) :=
      dropWhile_append_of_stop blank (by rw [beginsWith_cons]; decide)
    rw [Option.bind_eq_bind, Option.bind_some]
    dsimp only
    rw [dots]
    change (readBound? _).bind _ = _
    rw [dropWhile_append_of_stop blank' ends,
      readBound?_eq_some_iff.2 ⟨(List.append_nil stop).symm, isStop, rfl⟩]
    rfl

theorem foreach_eq_ok_iff {args : List Char} {tag : Tag} :
    foreach args = .ok tag ↔ ∃ path name, IsForeach args path name
      ∧ tag = .openForeach (String.ofList path) (String.ofList name) := by
  constructor
  · intro h
    unfold foreach at h
    split at h
    · next path name found => exact ⟨path, name, readForeach?_eq_some_iff.1 found, (Except.ok.inj h).symm⟩
    · cases h
  · rintro ⟨path, name, form, rfl⟩
    rw [foreach, readForeach?_eq_some_iff.2 form]

theorem counting_eq_ok_iff {args : List Char} {tag : Tag} :
    counting args = .ok tag ↔ ∃ name start stop, IsFor args name start stop
      ∧ tag = .openFor (String.ofList name) (String.ofList start) (String.ofList stop) := by
  constructor
  · intro h
    unfold counting at h
    split at h
    · next name start stop found =>
      exact ⟨name, start, stop, readFor?_eq_some_iff.1 found, (Except.ok.inj h).symm⟩
    · cases h
  · rintro ⟨name, start, stop, form, rfl⟩
    rw [counting, readFor?_eq_some_iff.2 form]

theorem condition_eq_ok_iff {keyword : String} {make : String → Tag} {args : List Char} {tag : Tag} :
    condition keyword make args = .ok tag ↔ args ≠ [] ∧ tag = make (String.ofList args) := by
  unfold condition
  split
  · next none =>
    rw [List.isEmpty_iff] at none
    simp [none]
  · next some =>
    rw [List.isEmpty_iff] at some
    constructor
    · rintro ⟨⟩
      exact ⟨some, rfl⟩
    · rintro ⟨-, rfl⟩
      rfl

theorem bare_eq_ok_iff {keyword : String} {meant tag : Tag} {args : List Char} :
    bare keyword meant args = .ok tag ↔ args = [] ∧ tag = meant := by
  unfold bare
  split
  · next none =>
    rw [List.isEmpty_iff] at none
    simp [none, eq_comm]
  · next some =>
    rw [List.isEmpty_iff] at some
    simp [some]

/-- The reader accepts a keyword with arguments of its form, and nothing else. -/
theorem ofKeyword_eq_ok_iff {keyword : String} {args : List Char} {tag : Tag} :
    ofKeyword keyword args = .ok tag ↔ Says keyword args tag := by
  constructor
  · intro h
    unfold ofKeyword at h
    split at h
    · obtain ⟨nonempty, rfl⟩ := condition_eq_ok_iff.1 h
      exact .openIf nonempty
    · obtain ⟨nonempty, rfl⟩ := condition_eq_ok_iff.1 h
      exact .elseIf nonempty
    · obtain ⟨rfl, rfl⟩ := bare_eq_ok_iff.1 h
      exact .otherwise
    · obtain ⟨rfl, rfl⟩ := bare_eq_ok_iff.1 h
      exact .closeIf
    · obtain ⟨path, name, form, rfl⟩ := foreach_eq_ok_iff.1 h
      exact .openForeach form
    · obtain ⟨rfl, rfl⟩ := bare_eq_ok_iff.1 h
      exact .closeForeach
    · obtain ⟨name, start, stop, form, rfl⟩ := counting_eq_ok_iff.1 h
      exact .openFor form
    · obtain ⟨rfl, rfl⟩ := bare_eq_ok_iff.1 h
      exact .closeFor
    · cases h
  · intro meant
    cases meant with
    | openIf nonempty => exact condition_eq_ok_iff.2 ⟨nonempty, rfl⟩
    | elseIf nonempty => exact condition_eq_ok_iff.2 ⟨nonempty, rfl⟩
    | otherwise | closeIf | closeForeach | closeFor => rfl
    | openForeach form => exact foreach_eq_ok_iff.2 ⟨_, _, form, rfl⟩
    | openFor form => exact counting_eq_ok_iff.2 ⟨_, _, _, form, rfl⟩

/-- A directive is a keyword with arguments of its form, in which no second tag is opened. -/
theorem read_eq_ok_iff {inner : List Char} {tag : Tag} :
    read inner = .ok tag ↔ Avoids '{' '%' (strip inner)
      ∧ Says (String.ofList ((strip inner).takeWhile fun c => !isBlank c))
        (strip ((strip inner).dropWhile fun c => !isBlank c)) tag := by
  rw [← splitAtOpening?_eq_none_iff, ← ofKeyword_eq_ok_iff, read]
  cases splitAtOpening? (strip inner) with
  | some => simp
  | none =>
    simp only [Option.isSome_none, Bool.false_eq_true, if_false, true_and]
    cases (strip inner).takeWhile fun c => !isBlank c with
    | nil =>
      constructor
      · intro h
        cases h
      · intro h
        cases h
    | cons => rfl

/-- What is left of the inside of a block tag without the blanks around it: the keyword and what follows it. -/
theorem IsWritten.strip_eq {inner keyword args : List Char} (written : IsWritten inner keyword args) :
    ∃ behind, strip inner = keyword ++ behind ∧ beginsWith (fun c => !isBlank c) behind = false
      ∧ strip behind = args := by
  obtain ⟨before, between, after, rfl, blankBefore, blankBetween, blankAfter, gap, nonempty, word, trimmed⟩ := written
  by_cases argued : args = []
  · subst argued
    refine ⟨[], ?_, rfl, rfl⟩
    have blank : ∀ c ∈ between ++ after, isBlank c := fun c mem =>
      (List.mem_append.1 mem).elim (blankBetween c) (blankAfter c)
    rw [List.append_nil, List.append_nil, List.append_assoc _ between after]
    exact strip_padded blankBefore blank (isTrimmed_of_forall word)
  · refine ⟨between ++ args, ?_, ?_, ?_⟩
    · have whole := isTrimmed_append (isTrimmed_of_forall word) trimmed nonempty argued between
      rw [← List.append_assoc, ← strip_padded blankBefore blankAfter whole]
      simp
    · obtain ⟨c, rest, rfl⟩ := List.exists_cons_of_ne_nil (gap argued)
      simp [blankBetween c List.mem_cons_self]
    · have padded : strip (between ++ args ++ []) = args := strip_padded blankBetween (by simp) trimmed
      rwa [List.append_nil] at padded

/-- The inside of a block tag is written with a keyword, unless it is blank. -/
theorem isWritten_of_strip {inner keyword rest : List Char} (word : (strip inner).takeWhile (!isBlank ·) = keyword)
    (behind : (strip inner).dropWhile (!isBlank ·) = rest) (nonempty : keyword ≠ []) :
    IsWritten inner keyword (strip rest) := by
  obtain ⟨content, inside, stop⟩ := takeWhile_dropWhile_iff.1 ⟨word, behind⟩
  obtain ⟨before, after, split, blankBefore, blankAfter, -⟩ := exists_padding inner
  obtain ⟨between, last, split', blankBetween, blankLast, trimmed⟩ := exists_padding rest
  refine ⟨before, between, last ++ after, ?_, blankBefore, blankBetween, ?_, ?_, nonempty, ?_, trimmed⟩
  · calc inner = before ++ (keyword ++ (between ++ strip rest ++ last)) ++ after := by rw [← split', ← content, ← split]
      _ = before ++ keyword ++ between ++ strip rest ++ (last ++ after) := by simp
  · exact fun c mem => (List.mem_append.1 mem).elim (blankLast c) (blankAfter c)
  · rintro argued rfl
    -- the first character behind the keyword is a blank, but arguments that are trimmed begin with none
    obtain ⟨c, tail, starts⟩ := List.exists_cons_of_ne_nil argued
    rw [split', starts] at stop
    rw [starts, isTrimmed, Bool.and_eq_true, Bool.not_eq_true', beginsWith_cons] at trimmed
    simp [trimmed.1] at stop
  · exact fun c mem => by simpa using inside c mem

theorem Says.keyword_ne {keyword : String} {args : List Char} {tag : Tag} (meant : Says keyword args tag) :
    keyword ≠ "" := by
  cases meant <;> decide

/-- A directive is a keyword with arguments of its form, in which no second tag is opened. -/
theorem read_eq_ok_iff_isWritten {inner : List Char} {tag : Tag} :
    read inner = .ok tag ↔ Avoids '{' '%' inner
      ∧ ∃ keyword args, IsWritten inner keyword args ∧ Says (String.ofList keyword) args tag := by
  rw [read_eq_ok_iff]
  constructor
  · rintro ⟨opens, meant⟩
    refine ⟨?_, _, _, isWritten_of_strip rfl rfl fun none => ?_, meant⟩
    · obtain ⟨before, after, split, blankBefore, blankAfter, -⟩ := exists_padding inner
      rw [split]
      exact avoids_padded (by decide) blankBefore blankAfter opens
    · exact meant.keyword_ne (by rw [none])
  · rintro ⟨opens, keyword, args, written, meant⟩
    obtain ⟨behind, content, stop, argued⟩ := written.strip_eq
    obtain ⟨-, -, -, -, -, -, -, -, -, word, -⟩ := written
    have inside : ∀ c ∈ keyword, (!isBlank c) = true := fun c mem => by rw [word c mem]; rfl
    refine ⟨opens.within (isInfix_strip inner), ?_⟩
    rwa [content, takeWhile_append_of_stop inside stop, dropWhile_append_of_stop inside stop, argued]

/-- A keyword and its arguments with a space around each are read as what they say. -/
theorem read_spaced {keyword args : List Char} {tag : Tag} (word : ∀ c ∈ keyword, isBlank c = false)
    (nonempty : keyword ≠ []) (trimmed : isTrimmed args)
    (opens : Avoids '{' '%' (keyword ++ ' ' :: args)) (meant : Says (String.ofList keyword) args tag) :
    read (' ' :: (keyword ++ ' ' :: args) ++ [' ']) = .ok tag := by
  have space : ∀ c ∈ [' '], isBlank c := List.all_eq_true.1 (by decide)
  refine read_eq_ok_iff_isWritten.2 ⟨avoids_padded (by decide) space space opens, keyword, args, ?_, meant⟩
  exact ⟨[' '], [' '], [' '], by simp, space, space, space, fun _ => by simp, nonempty, word, trimmed⟩

end Directive

end Stencil
