import Stencil.Proofs.Node.Rereading
import Stencil.Proofs.Render.Trust

/-!
# What is read can be evaluated

Much could go wrong when a template is rendered: a segment that looks like a number may be none, and a filter
may be missing. The reader rules both out, for every expression at any depth (`Node.sound_of_read`). Paths have
segments of name characters, and of these only decimal digits look like digits; and a filter that the table does not
have is refused. What is left of a path is that a number among its segments may have too many digits
(`Value.resolve_cases`).
-/

namespace Stencil

/-! ## Segments -/

/-- Do only characters of names stand in the segment? -/
def IsSegment (segment : String) : Prop :=
  ∀ c ∈ segment.toList, isNameChar c

theorem isNameStart_or_isDigit {c : Char} (h : isNameChar c) : isNameStart c ∨ c.isDigit := by
  simp only [isNameChar, isNameStart, Char.isAlphanum, Bool.or_eq_true] at h ⊢
  tauto

theorem toNat_lt_of_isNameChar {c : Char} (h : isNameChar c) : c.toNat < 128 := by
  rcases isNameStart_or_isDigit h with starts | digit
  · exact toNat_lt_of_isNameStart starts
  · have bounds : 48 ≤ c.toNat ∧ c.toNat ≤ 57 := by
      simpa [Char.isDigit, UInt32.le_iff_toNat_le] using digit
    omega

/-- Among the characters of names only decimal digits look like digits. -/
theorem isDecimalDigit_of_isDigitLike {c : Char} (inName : isNameChar c) (like : isDigitLike c) :
    isDecimalDigit c := by
  rcases Bool.or_eq_true_iff.1 like with digit | odd
  · exact digit
  · obtain ⟨range, mem, low, -⟩ := Ranges.exists_of_has odd
    have beyond : ∀ range ∈ digitLikeRanges, 128 ≤ range.1 := by decide
    have small := toNat_lt_of_isNameChar inName
    have large := beyond range mem
    omega

/-- The parts between delimiters hold nothing else than what is split, and no delimiter. -/
theorem mem_of_mem_splitOn {delimiter c : Char} {cs part : List Char} (inside : part ∈ cs.splitOn delimiter)
    (mem : c ∈ part) : c ∈ cs ∧ c ≠ delimiter := by
  induction cs generalizing part with
  | nil =>
    obtain rfl : part = [] := by simpa using inside
    cases mem
  | cons d rest ih =>
    rw [List.splitOn_cons_eq_if_modifyHead] at inside
    split at inside
    · rcases List.mem_cons.1 inside with rfl | inside
      · cases mem
      · obtain ⟨mem, other⟩ := ih inside mem
        exact ⟨List.mem_cons_of_mem d mem, other⟩
    · next other =>
      obtain ⟨first, others, parts⟩ := List.exists_cons_of_ne_nil (List.splitOn_ne_nil delimiter rest)
      rw [parts] at inside ih
      rcases List.mem_cons.1 inside with rfl | inside
      · rcases List.mem_cons.1 mem with rfl | mem
        · exact ⟨List.mem_cons_self, by simpa using other⟩
        · obtain ⟨mem, other⟩ := ih List.mem_cons_self mem
          exact ⟨List.mem_cons_of_mem d mem, other⟩
      · obtain ⟨mem, other⟩ := ih (List.mem_cons_of_mem first inside) mem
        exact ⟨List.mem_cons_of_mem d mem, other⟩

theorem isSegment_of_isPath {path : String} (isPath : IsPath path.toList) :
    ∀ segment ∈ splitPath path, IsSegment segment := by
  intro segment mem
  obtain ⟨chars, inside, rfl⟩ := List.mem_map.1 mem
  intro c here
  rw [String.toList_ofList] at here
  obtain ⟨inPath, noPoint⟩ := mem_of_mem_splitOn inside here
  exact (isPath.mem inPath).resolve_right noPoint

/-- What looks like a digit in a segment is one of the ten ASCII digits. -/
theorem isDigitLike_iff {c : Char} (inName : isNameChar c) : isDigitLike c ↔ c.isDigit := by
  constructor
  · intro like
    rcases isNameStart_or_isDigit inName with starts | ascii
    · have digit := isDecimalDigit_of_isDigitLike inName like
      rw [isDecimalDigit_of_isNameStart starts] at digit
      cases digit
    · exact ascii
  · intro ascii
    have digit : isDecimalDigit c := by
      rw [isDecimalDigit, isDecimalDigit_of_isDigit ascii]
      rfl
    exact Bool.or_eq_true_iff.2 (.inl digit)

/-- Is the segment a number with too many digits? -/
structure IsOverlong (segment : String) : Prop where
  digits : ∀ c ∈ segment.toList, c.isDigit
  many : Integer.greatestLength < segment.toList.length

theorem IsOverlong.nonempty {segment : String} (overlong : IsOverlong segment) : segment.toList ≠ [] := by
  intro empty
  have many := overlong.many
  rw [empty] at many
  exact absurd many (Nat.not_lt_zero _)

namespace Value

/-- The fault of a segment with too many digits. -/
def overlongFault (segment : String) : Fault :=
  .unconverted (quoted segment) (.tooLong segment.toList.length)

/-- Has the segment characters that look like digits and no other ones? -/
def looksNumeric (segment : String) : Bool :=
  !segment.isEmpty && segment.toList.all isDigitLike

theorem looksNumeric_iff {segment : String} (h : IsSegment segment) :
    looksNumeric segment ↔ segment.toList ≠ [] ∧ ∀ c ∈ segment.toList, c.isDigit := by
  rw [looksNumeric, Bool.and_eq_true, List.all_eq_true]
  refine and_congr (by simp) (forall₂_congr fun c mem => isDigitLike_iff (h c mem))

/-- A segment that looks like a number is the number of its decimal digits, unless they are too many. -/
theorem segmentNumber?_eq {segment : String} (h : IsSegment segment) :
    segmentNumber? segment = if looksNumeric segment then
        if Integer.greatestLength < segment.toList.length then .error (overlongFault segment)
        else .ok (some (Lexeme.digitsValue segment.toList : Int))
      else .ok none := by
  have other : (segment.isEmpty || !segment.toList.all isDigitLike) = !looksNumeric segment := by simp [looksNumeric]
  rw [segmentNumber?, other]
  cases numeric : looksNumeric segment with
  | false => rfl
  | true =>
    obtain ⟨nonempty, ascii⟩ := (looksNumeric_iff h).1 numeric
    have inside : ∀ c ∈ segment.toList, isDecimalDigit c := fun c mem =>
      isDecimalDigit_of_isDigitLike (h c mem) ((isDigitLike_iff (h c mem)).2 (ascii c mem))
    rw [Integer.read_digits nonempty inside]
    by_cases long : Integer.greatestLength < segment.toList.length
    · simp only [if_pos long]; rfl
    · simp only [if_neg long]; rfl

theorem segmentNumber?_of_isOverlong {segment : String} (h : IsSegment segment) (overlong : IsOverlong segment) :
    segmentNumber? segment = .error (overlongFault segment) := by
  rw [segmentNumber?_eq h, if_pos ((looksNumeric_iff h).2 ⟨overlong.nonempty, overlong.digits⟩),
    if_pos overlong.many]

/-- A segment has a number or none, or it is one with too many digits. -/
theorem segmentNumber?_cases {segment : String} (h : IsSegment segment) :
    (∃ n, segmentNumber? segment = .ok n)
      ∨ IsOverlong segment ∧ segmentNumber? segment = .error (overlongFault segment) := by
  rw [segmentNumber?_eq h]
  split
  · next numeric =>
    obtain ⟨-, ascii⟩ := (looksNumeric_iff h).1 numeric
    split
    · next many => exact .inr ⟨⟨ascii, many⟩, rfl⟩
    · exact .inl ⟨_, rfl⟩
  · exact .inl ⟨_, rfl⟩

/-- A segment leads from a value to another one, unless it is a number with too many digits. -/
theorem descend_cases {segment : String} (h : IsSegment segment) (v : Value) :
    (∃ w, descend v segment = .ok w) ∨ IsOverlong segment ∧ descend v segment = .error (overlongFault segment) := by
  have carried (f : Option Int → Value) :
      (∃ w, (segmentNumber? segment).map f = .ok w)
        ∨ IsOverlong segment ∧ (segmentNumber? segment).map f = .error (overlongFault segment) := by
    rcases segmentNumber?_cases h with ⟨n, number⟩ | ⟨overlong, failed⟩
    · exact .inl ⟨f n, by rw [number]; rfl⟩
    · exact .inr ⟨overlong, by rw [failed]; rfl⟩
  unfold descend
  split
  · split
    · exact .inl ⟨_, rfl⟩
    · exact carried _
  · split
    · exact carried _
    · exact .inl ⟨_, rfl⟩

theorem descendAll_cases {segments : List String} (each : ∀ segment ∈ segments, IsSegment segment) (v : Value) :
    (∃ w, descendAll v segments = .ok w)
      ∨ ∃ segment ∈ segments, IsOverlong segment ∧ descendAll v segments = .error (overlongFault segment) := by
  induction segments generalizing v with
  | nil => exact .inl ⟨v, rfl⟩
  | cons segment rest ih =>
    obtain ⟨here, later⟩ := List.forall_mem_cons.1 each
    rw [descendAll]
    split
    · exact .inl ⟨_, rfl⟩
    · rcases descend_cases here v with ⟨w, found⟩ | ⟨overlong, failed⟩
      · rw [found]
        refine (ih later w).imp_right ?_
        rintro ⟨long, mem, rest⟩
        exact ⟨long, List.mem_cons_of_mem segment mem, rest⟩
      · rw [failed]
        exact .inr ⟨segment, List.mem_cons_self, overlong, rfl⟩

/-- A path leads somewhere in any data and scopes, if only to nothing, unless one of its segments is a number with too
many digits. -/
theorem resolve_cases {segments : List String} (each : ∀ segment ∈ segments, IsSegment segment)
    (data : Scope) (scopes : List Scope) :
    (∃ v, resolve data scopes segments = .ok v)
      ∨ ∃ segment ∈ segments, IsOverlong segment ∧ resolve data scopes segments = .error (overlongFault segment) := by
  cases segments with
  | nil => exact .inl ⟨_, rfl⟩
  | cons name rest =>
    refine (descendAll_cases (List.forall_mem_cons.1 each).2 _).imp_right ?_
    rintro ⟨segment, mem, failed⟩
    exact ⟨segment, List.mem_cons_of_mem name mem, failed⟩

end Value

/-! ## Filters -/

namespace FilterTable

/-- Do the filters of the table return a value, whatever they are given? -/
def Total (table : FilterTable) : Prop :=
  ∀ name f, table.find? name = some f → ∀ v, ∃ w, f v = .ok w

theorem exists_find? {table : FilterTable} {name : String} (known : name ∈ table.names) :
    ∃ f, table.find? name = some f := by
  obtain ⟨entry, mem, rfl⟩ := List.mem_map.1 known
  cases missing : table.find? entry.1 with
  | some f => exact ⟨f, rfl⟩
  | none =>
    have other := List.lookup_eq_none_iff.1 missing entry mem
    simp at other

end FilterTable

theorem exists_applyFilter {table : FilterTable} (total : table.Total) {name : String}
    (known : name ∈ table.names) (v : Value) : ∃ w, applyFilter table v name = .ok w := by
  obtain ⟨f, found⟩ := FilterTable.exists_find? known
  unfold applyFilter FilterTable.find
  rw [found]
  split
  · exact ⟨v, rfl⟩
  · exact total name f found v

/-! ## Expressions -/

namespace Expr

/-- Can nothing but a filter keep the expression from having a value? Its paths have segments of name
characters, and its filters are known. -/
def Sound (known : List String) : Expr → Prop
  | const _ _ => True
  | path _ segments => ∀ segment ∈ segments, IsSegment segment
  | filter _ operand name => operand.Sound known ∧ name ∈ known
  | not _ operand => operand.Sound known
  | compare _ left _ right => left.Sound known ∧ right.Sound known

theorem sound_path {known : List String} {path : String} (isPath : IsPath path.toList) (position : Position) :
    (Expr.path position (splitPath path)).Sound known :=
  isSegment_of_isPath isPath

theorem sound_pipeline {known : List String} {operand : Expr} (sound : operand.Sound known) (position : Position)
    {names : List String} (each : ∀ name ∈ names, name ∈ known) :
    (pipeline position operand names).Sound known := by
  induction names generalizing operand with
  | nil => exact sound
  | cons name rest ih =>
    obtain ⟨here, later⟩ := List.forall_mem_cons.1 each
    exact ih ⟨sound, here⟩ later

end Expr

/-! ## What the reader makes -/

/-- Is what the mark holds sound? -/
def Mark.Sound (known : List String) : Mark → Prop
  | .output _ expr _ _ => expr.Sound known
  | .openIf _ test | .elseIf test => test.Sound known
  | .openForeach _ collection _ => ∀ segment ∈ collection, IsSegment segment
  | _ => True

namespace Condition

variable {position : Position} {known : List String}

theorem Operand.sound {operand : Operand} (spelled : ∀ l ∈ operand.lexemes, l.IsSpelled)
    (each : ∀ name ∈ operand.filters, name ∈ known) : (operand.expr position).Sound known := by
  cases operand with
  | quoted | number | constant => exact trivial
  | path chars filters =>
    have isPath : IsPath chars := spelled (.name chars) List.mem_cons_self
    refine Expr.sound_pipeline (Expr.sound_path ?_ position) position each
    rwa [String.toList_ofList]

theorem Comparison.sound {c : Comparison} (spelled : ∀ l ∈ c.lexemes, l.IsSpelled)
    (each : ∀ name ∈ c.filters, name ∈ known) : (c.expr position).Sound known := by
  obtain ⟨left, right⟩ := c
  cases right with
  | none =>
    refine Operand.sound spelled fun name mem => each name ?_
    exact List.mem_append_left _ mem
  | some pair =>
    obtain ⟨equal, right⟩ := pair
    obtain ⟨spelled, spelled'⟩ := List.forall_mem_append.1 spelled
    refine ⟨Operand.sound spelled fun name mem => each name ?_,
      Operand.sound (List.forall_mem_cons.1 spelled').2 fun name mem => each name ?_⟩
    · exact List.mem_append_left _ mem
    · exact List.mem_append_right _ mem

theorem isSpelled_of_spelled {cs : List Char} {lexemes : List Lexeme} (h : Lexeme.Spelled cs lexemes) :
    ∀ l ∈ lexemes, l.IsSpelled := by
  induction h with
  | nil => simp
  | cons _ isSpelled _ _ ih => exact List.forall_mem_cons.2 ⟨isSpelled, ih⟩

theorem Phrase.sound {phrase : Phrase} {text : String} (writes : phrase.Writes text)
    (each : ∀ name ∈ phrase.filters, name ∈ known) : (phrase.expr position).Sound known := by
  obtain ⟨c, negated⟩ := phrase
  have spelled := isSpelled_of_spelled writes.2
  cases negated with
  | false => exact Comparison.sound spelled each
  | true => exact Comparison.sound (List.forall_mem_cons.1 spelled).2 each

end Condition

variable {ctx : ReadContext}

theorem Mark.Of.sound {t : Token} {mark : Mark} (of : mark.Of ctx t) (proper : t.Proper)
    (readable : t.Readable ctx) : mark.Sound ctx.filters := by
  cases mark with
  | output position expr source escape =>
    obtain ⟨path, filters, tag, -, rfl, -, -⟩ := of
    simp only [Token.Proper, Token.Readable, tag] at proper readable
    exact Expr.sound_pipeline (Expr.sound_path proper.1 t.position) t.position readable
  | openIf position test =>
    obtain ⟨condition, phrase, tag, -, writes, rfl⟩ := of
    simp only [Token.Readable, tag] at readable
    obtain ⟨other, writes', known, -⟩ := readable
    exact Condition.Phrase.sound writes (writes.filters_eq writes' ▸ known)
  | elseIf test =>
    obtain ⟨condition, phrase, tag, writes, rfl⟩ := of
    simp only [Token.Readable, tag] at readable
    obtain ⟨other, writes', known, -⟩ := readable
    exact Condition.Phrase.sound writes (writes.filters_eq writes' ▸ known)
  | openForeach position collection itemName =>
    obtain ⟨path, tag, -, rfl⟩ := of
    simp only [Token.Proper, tag] at proper
    exact isSegment_of_isPath proper.1
  | _ => exact trivial

/-- What is read from a source is sound, at any depth. -/
theorem Node.sound_of_read {source : String} {nodes : List Node} (read : Node.read ctx source = .ok nodes) :
    ∀ mark ∈ Node.marksOfAll nodes, mark.Sound ctx.filters := by
  intro mark mem
  obtain ⟨_, -, t, -, proper, readable, of⟩ := exists_token_of_mark read mem
  exact of.sound proper readable

end Stencil
