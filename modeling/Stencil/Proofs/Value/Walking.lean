import Stencil.Proofs.Number.Integers
import Stencil.Proofs.Render.Progress
import Stencil.Proofs.Value.Keys

/-!
# Where paths lead

A path is a walk through the data, from left to right. Its first segment finds the value of a name, in the innermost
scope that has it or else in the data (`Value.Finds`). Each further segment selects an entry or an item of the value
before it (`Value.Selects`), and once nothing is found, nothing is found any more (`Value.Walk`).
`Value.resolve_leads` says that every path that can be written leads to exactly one value, which is what the path
denotes: of the characters of a segment only decimal digits look like digits, so that a segment that looks like a number
is one. Only where a value is asked for the number of a segment that has too many digits does the path denote nothing
but a fault (`Value.Overruns`).
-/

namespace Stencil.Value

/-- The first entry with a key of the kind has this value. The keys of a mapping are pairwise different, so that there
is no other one. -/
def HasEntry (entries : Scope) (kind : Value → Prop) (v : Value) : Prop :=
  ∃ before key after, entries = before ++ (key, v) :: after ∧ kind key ∧ ∀ e ∈ before, ¬ kind e.1

/-- No entry has a key of the kind. -/
def LacksEntry (entries : Scope) (kind : Value → Prop) : Prop :=
  ∀ e ∈ entries, ¬ kind e.1

/-- The key is the name as a text, trusted or not. -/
def IsNamed (name : String) (key : Value) : Prop :=
  key.text? = some name

/-- The segment is a numeral of `n`: digits, which may begin with zeros. -/
structure IsNumeral (segment : String) (n : Nat) : Prop where
  nonempty : segment.toList ≠ []
  digits : ∀ c ∈ segment.toList, c.isDigit
  value : Nat.ofDigitChars 10 segment.toList 0 = n

/-- The value of a name: in the innermost scope that has it, which comes first, else in the data, else nothing. -/
inductive Finds (data : Scope) (scopes : List Scope) (name : String) : Value → Prop
  | inScope {inner outer : List Scope} {scope : Scope} {v : Value} : scopes = inner ++ scope :: outer →
      (∀ closer ∈ inner, LacksEntry closer (IsNamed name)) → HasEntry scope (IsNamed name) v → Finds data scopes name v
  | inData {v : Value} : (∀ scope ∈ scopes, LacksEntry scope (IsNamed name)) → HasEntry data (IsNamed name) v →
      Finds data scopes name v
  | nowhere : (∀ scope ∈ scopes, LacksEntry scope (IsNamed name)) → LacksEntry data (IsNamed name) →
      Finds data scopes name undefined

/-- What a segment selects in a value: the entry of that name in a mapping, else the entry whose key is the number that
it writes; the item of that index in a sequence; and nothing in all other cases. -/
inductive Selects (v : Value) (segment : String) : Value → Prop
  | named {entries : Scope} {w : Value} : v.entries? = some entries → HasEntry entries (IsNamed segment) w →
      Selects v segment w
  | numbered {entries : Scope} {n : Nat} {w : Value} : v.entries? = some entries →
      LacksEntry entries (IsNamed segment) → IsNumeral segment n → HasEntry entries (IsInteger n) w →
      Selects v segment w
  | item {items : List Value} {n : Nat} {w : Value} : v.sequence? = some items → IsNumeral segment n →
      items[n]? = some w → Selects v segment w
  | noEntry {entries : Scope} : v.entries? = some entries → LacksEntry entries (IsNamed segment) →
      (∀ n : Nat, IsNumeral segment n → LacksEntry entries (IsInteger n)) → Selects v segment undefined
  | noItem {items : List Value} : v.sequence? = some items → (∀ n, IsNumeral segment n → items.length ≤ n) →
      Selects v segment undefined
  | noContainer : v.entries? = none → v.sequence? = none → Selects v segment undefined

/-- The way from a value along segments. -/
inductive Walk : Value → List String → Value → Prop
  | arrived {v : Value} : Walk v [] v
  | lost {segments : List String} : Walk undefined segments undefined
  | step {v w u : Value} {segment : String} {rest : List String} : v ≠ undefined → Selects v segment w → Walk w rest u →
      Walk v (segment :: rest) u

/-- The way of a whole path. -/
inductive Leads (data : Scope) (scopes : List Scope) : List String → Value → Prop
  | path {name : String} {rest : List String} {v w : Value} : Finds data scopes name v → Walk v rest w →
      Leads data scopes (name :: rest) w

/-- Is the value asked for the number of the segment? A mapping is where it has no entry of that name, and a sequence
is always. -/
inductive AsksNumber (v : Value) (segment : String) : Prop
  | entry {entries : Scope} : v.entries? = some entries → LacksEntry entries (IsNamed segment) → AsksNumber v segment
  | item {items : List Value} : v.sequence? = some items → AsksNumber v segment

/-- On the way from a value along segments, the given segment is the first one with too many digits whose number a value
is asked for. -/
inductive Overruns : Value → List String → String → Prop
  | here {v : Value} {segment : String} {rest : List String} : AsksNumber v segment → IsOverlong segment →
      Overruns v (segment :: rest) segment
  | later {v w : Value} {segment long : String} {rest : List String} : ¬ (AsksNumber v segment ∧ IsOverlong segment) →
      Selects v segment w → Overruns w rest long → Overruns v (segment :: rest) long

/-- On the way of a whole path, the given segment is the first one with too many digits whose number a value is asked
for. -/
inductive Strands (data : Scope) (scopes : List Scope) : List String → String → Prop
  | path {name long : String} {rest : List String} {v : Value} : Finds data scopes name v → Overruns v rest long →
      Strands data scopes (name :: rest) long

/-! ## Entries -/

theorem lookup?_eq_some_iff {entries : Scope} {key v : Value} :
    lookup? entries key = some v ↔ HasEntry entries (fun k => same k key = true) v := by
  rw [lookup?, Option.map_eq_some_iff]
  constructor
  · rintro ⟨⟨k, w⟩, found, rfl⟩
    obtain ⟨matched, before, after, rfl, none⟩ := List.find?_eq_some_iff_append.1 found
    exact ⟨before, k, after, rfl, matched, fun e mem => by simpa using none e mem⟩
  · rintro ⟨before, k, after, rfl, matched, none⟩
    exact ⟨(k, v), List.find?_eq_some_iff_append.2 ⟨matched, before, after, rfl, fun e mem => by simpa using none e mem⟩, rfl⟩

theorem lookup?_eq_none_iff {entries : Scope} {key : Value} :
    lookup? entries key = none ↔ LacksEntry entries (fun k => same k key = true) := by
  rw [lookup?, Option.map_eq_none_iff, List.find?_eq_none]
  rfl

theorem hasEntry_iff_of_kind {entries : Scope} {kind kind' : Value → Prop} (same : ∀ k, kind k ↔ kind' k) {v : Value} :
    HasEntry entries kind v ↔ HasEntry entries kind' v := by
  rw [show kind = kind' from funext fun k => propext (same k)]

variable {entries : Scope} {name segment : String} {v w : Value} {n : Nat}

theorem hasEntry_isNamed_iff : HasEntry entries (IsNamed name) v ↔ lookup? entries (text name) = some v := by
  rw [lookup?_eq_some_iff]
  exact hasEntry_iff_of_kind fun _ => same_text_iff.symm

theorem lacksEntry_isNamed_iff : LacksEntry entries (IsNamed name) ↔ lookup? entries (text name) = none := by
  rw [lookup?_eq_none_iff]
  exact forall₂_congr fun _ _ => not_congr same_text_iff.symm

theorem hasEntry_isInteger_iff {i : Int} : HasEntry entries (IsInteger i) v ↔ lookup? entries (int i) = some v := by
  rw [lookup?_eq_some_iff]
  exact hasEntry_iff_of_kind fun _ => same_int_iff.symm

theorem lacksEntry_isInteger_iff {i : Int} : LacksEntry entries (IsInteger i) ↔ lookup? entries (int i) = none := by
  rw [lookup?_eq_none_iff]
  exact forall₂_congr fun _ _ => not_congr same_int_iff.symm

/-! ## Numerals -/

/-- The number that a segment writes with ASCII digits, if it does. -/
def numeral? (segment : String) : Option Nat :=
  if !segment.toList.isEmpty && segment.toList.all Char.isDigit then some (Nat.ofDigitChars 10 segment.toList 0)
  else none

theorem digits_iff : (!segment.toList.isEmpty && segment.toList.all Char.isDigit) = true
    ↔ segment.toList ≠ [] ∧ ∀ c ∈ segment.toList, c.isDigit := by
  rw [Bool.and_eq_true, Bool.not_eq_true', List.isEmpty_eq_false_iff, List.all_eq_true]

theorem numeral?_eq_some_iff : numeral? segment = some n ↔ IsNumeral segment n := by
  unfold numeral?
  split
  · next digits =>
    obtain ⟨nonempty, inside⟩ := digits_iff.1 digits
    rw [Option.some_inj]
    exact ⟨fun value => ⟨nonempty, inside, value⟩, fun numeral => numeral.value⟩
  · next other => exact ⟨nofun, fun numeral => absurd (digits_iff.2 ⟨numeral.nonempty, numeral.digits⟩) other⟩

/-- A segment that is not overlong has a number if it is a numeral, and otherwise none. -/
theorem segmentNumber?_of_not_isOverlong (isSegment : IsSegment segment) (short : ¬ IsOverlong segment) :
    segmentNumber? segment = .ok ((numeral? segment).map Int.ofNat) := by
  rw [segmentNumber?_eq isSegment, numeral?]
  by_cases numeric : looksNumeric segment
  · have digits := (looksNumeric_iff isSegment).1 numeric
    rw [if_pos numeric, if_pos (digits_iff.2 digits), if_neg fun many => short ⟨digits.2, many⟩,
      Integer.digitsValue_eq_ofDigitChars digits.2]
    rfl
  · rw [if_neg numeric, if_neg fun digits => numeric ((looksNumeric_iff isSegment).2 (digits_iff.1 digits))]
    rfl

/-! ## Steps -/

theorem entries?_eq_none_of_sequence? {items : List Value} (isSequence : v.sequence? = some items) :
    v.entries? = none := by
  cases v with
  | map | loop => cases isSequence
  | _ => rfl

/-- What a segment selects in a value, as a function. -/
def selected (v : Value) (segment : String) : Value :=
  match v.entries? with
  | some entries =>
    ((lookup? entries (text segment)).or ((numeral? segment).bind fun n => lookup? entries (int n))).getD undefined
  | none =>
    match v.sequence? with
    | some items => ((numeral? segment).bind fun n => items[n]?).getD undefined
    | none => undefined

theorem Selects.eq_selected (h : Selects v segment w) : w = selected v segment := by
  unfold selected
  cases h with
  | named isMapping found => simp [isMapping, hasEntry_isNamed_iff.1 found]
  | numbered isMapping missing numeral found =>
    simp [isMapping, lacksEntry_isNamed_iff.1 missing, numeral?_eq_some_iff.2 numeral, hasEntry_isInteger_iff.1 found]
  | item isSequence numeral found =>
    simp [entries?_eq_none_of_sequence? isSequence, isSequence, numeral?_eq_some_iff.2 numeral, found]
  | noEntry isMapping missing missing' =>
    cases numeral : numeral? segment with
    | none => simp [isMapping, lacksEntry_isNamed_iff.1 missing]
    | some n =>
      have none := lacksEntry_isInteger_iff.1 (missing' n (numeral?_eq_some_iff.1 numeral))
      simp [isMapping, lacksEntry_isNamed_iff.1 missing, none]
  | noItem isSequence beyond =>
    cases numeral : numeral? segment with
    | none => simp [entries?_eq_none_of_sequence? isSequence, isSequence]
    | some n =>
      have none := List.getElem?_eq_none (beyond n (numeral?_eq_some_iff.1 numeral))
      simp [entries?_eq_none_of_sequence? isSequence, isSequence, none]
  | noContainer noMapping noSequence => simp [noMapping, noSequence]

/-- A segment selects exactly one value. -/
theorem selects_iff : Selects v segment w ↔ w = selected v segment := by
  refine ⟨Selects.eq_selected, ?_⟩
  rintro rfl
  unfold selected
  cases isMapping : v.entries? with
  | some entries =>
    dsimp only
    cases named : lookup? entries (text segment) with
    | some w => exact .named isMapping (hasEntry_isNamed_iff.2 named)
    | none =>
      have lacks := lacksEntry_isNamed_iff.2 named
      rw [Option.none_or]
      cases found : (numeral? segment).bind fun n => lookup? entries (int n) with
      | some w =>
        obtain ⟨n, numeral, found⟩ := Option.bind_eq_some_iff.1 found
        exact .numbered isMapping lacks (numeral?_eq_some_iff.1 numeral) (hasEntry_isInteger_iff.2 found)
      | none =>
        refine .noEntry isMapping lacks fun n numeral => lacksEntry_isInteger_iff.2 ?_
        exact Option.bind_eq_none_iff.1 found n (numeral?_eq_some_iff.2 numeral)
  | none =>
    dsimp only
    cases isSequence : v.sequence? with
    | some items =>
      dsimp only
      cases found : (numeral? segment).bind fun n => items[n]? with
      | some w =>
        obtain ⟨n, numeral, found⟩ := Option.bind_eq_some_iff.1 found
        exact .item isSequence (numeral?_eq_some_iff.1 numeral) found
      | none =>
        refine .noItem isSequence fun n numeral => List.getElem?_eq_none_iff.1 ?_
        exact Option.bind_eq_none_iff.1 found n (numeral?_eq_some_iff.2 numeral)
    | none => exact .noContainer isMapping isSequence

/-- What a segment selects is where it leads to, unless it has too many digits and the value is asked for its number. -/
theorem descend_eq_selected (isSegment : IsSegment segment) (short : ¬ (AsksNumber v segment ∧ IsOverlong segment)) :
    descend v segment = .ok (selected v segment) := by
  unfold descend selected
  cases isMapping : v.entries? with
  | some entries =>
    dsimp only
    cases named : lookup? entries (text segment) with
    | some w => rfl
    | none =>
      have asks : AsksNumber v segment := .entry isMapping (lacksEntry_isNamed_iff.2 named)
      rw [segmentNumber?_of_not_isOverlong isSegment fun long => short ⟨asks, long⟩]
      cases numeral? segment <;> rfl
  | none =>
    dsimp only
    cases isSequence : v.sequence? with
    | some items =>
      dsimp only
      rw [segmentNumber?_of_not_isOverlong isSegment fun long => short ⟨.item isSequence, long⟩]
      cases numeral? segment <;> rfl
    | none => rfl

/-- A value that is asked for the number of a segment with too many digits answers with a fault. -/
theorem AsksNumber.descend_eq (isSegment : IsSegment segment) (long : IsOverlong segment) (asks : AsksNumber v segment) :
    descend v segment = .error (overlongFault segment) := by
  unfold descend
  cases asks with
  | entry isMapping missing =>
    simp only [isMapping, lacksEntry_isNamed_iff.1 missing, segmentNumber?_of_isOverlong isSegment long]
    rfl
  | item isSequence =>
    simp only [entries?_eq_none_of_sequence? isSequence, isSequence, segmentNumber?_of_isOverlong isSegment long]
    rfl

/-- Nothing is asked for no number. -/
theorem not_asksNumber_undefined : ¬ AsksNumber undefined segment := by
  rintro (⟨isMapping, -⟩ | isSequence)
  · cases isMapping
  · cases isSequence

/-! ## Ways -/

theorem walk_undefined_iff {segments : List String} : Walk undefined segments w ↔ w = undefined := by
  constructor
  · intro walk
    cases walk with
    | arrived | lost => rfl
    | step found => exact absurd rfl found
  · rintro rfl
    exact .lost

theorem exists_walk (v : Value) (segments : List String) : ∃ w, Walk v segments w := by
  induction segments generalizing v with
  | nil => exact ⟨v, .arrived⟩
  | cons segment rest ih =>
    by_cases lost : v = undefined
    · exact lost ▸ ⟨undefined, .lost⟩
    · obtain ⟨w, walk⟩ := ih (selected v segment)
      exact ⟨w, .step lost (selects_iff.2 rfl) walk⟩

theorem Walk.unique {u : Value} {segments : List String} (walk : Walk v segments w) (walk' : Walk v segments u) :
    u = w := by
  induction walk with
  | arrived =>
    cases walk' with
    | arrived | lost => rfl
  | lost => exact walk_undefined_iff.1 walk'
  | step found selects _ ih =>
    cases walk' with
    | lost => exact absurd rfl found
    | step _ selects' walk' =>
      obtain rfl := (selects_iff.1 selects').trans (selects_iff.1 selects).symm
      exact ih walk'

theorem not_overruns_undefined {segments : List String} {long : String} : ¬ Overruns undefined segments long := by
  intro overruns
  generalize same : undefined = v at overruns
  induction overruns with
  | here asks =>
    subst same
    exact not_asksNumber_undefined asks
  | later _ selects _ ih =>
    subst same
    exact ih (selects_iff.1 selects).symm

theorem overruns_cons_of_asks {rest : List String} {long : String} (asks : AsksNumber v segment)
    (isLong : IsOverlong segment) : Overruns v (segment :: rest) long ↔ long = segment := by
  constructor
  · intro overruns
    cases overruns with
    | here => rfl
    | later short => exact absurd ⟨asks, isLong⟩ short
  · rintro rfl
    exact .here asks isLong

theorem overruns_cons_of_not_asks {rest : List String} {long : String}
    (short : ¬ (AsksNumber v segment ∧ IsOverlong segment)) :
    Overruns v (segment :: rest) long ↔ Overruns (selected v segment) rest long := by
  constructor
  · intro overruns
    cases overruns with
    | here asks isLong => exact absurd ⟨asks, isLong⟩ short
    | later _ selects overruns => exact selects_iff.1 selects ▸ overruns
  · exact .later short (selects_iff.2 rfl)

/-- A way ends where the segments lead to, unless one of them has too many digits and a value is asked for its
number. -/
theorem Walk.descendAll_cases {segments : List String} (walk : Walk v segments w)
    (each : ∀ segment ∈ segments, IsSegment segment) :
    ((∀ long, ¬ Overruns v segments long) ∧ descendAll v segments = .ok w)
      ∨ ∃ long, (∀ other, Overruns v segments other ↔ other = long)
        ∧ descendAll v segments = .error (overlongFault long) := by
  induction walk with
  | arrived => exact .inl ⟨nofun, rfl⟩
  | @lost segments => exact .inl ⟨fun _ => not_overruns_undefined, by cases segments <;> rfl⟩
  | @step v w u segment rest found selects walk ih =>
    obtain ⟨here, later⟩ := List.forall_mem_cons.1 each
    obtain rfl := selects_iff.1 selects
    have isFound : v.isUndefined = false := by
      cases v with
      | undefined => exact absurd rfl found
      | _ => rfl
    rw [descendAll, isFound, if_neg Bool.false_ne_true]
    by_cases asks : AsksNumber v segment ∧ IsOverlong segment
    · rw [asks.1.descend_eq here asks.2]
      exact .inr ⟨segment, fun other => overruns_cons_of_asks asks.1 asks.2, rfl⟩
    · rw [descend_eq_selected here asks]
      simp only [overruns_cons_of_not_asks asks]
      exact ih later

/-- The name has exactly one value. -/
theorem lookupName_eq_iff {data : Scope} {scopes : List Scope} :
    lookupName data scopes name = v ↔ Finds data scopes name v := by
  have sound : Finds data scopes name (lookupName data scopes name) := by
    unfold lookupName
    cases inScopes : scopes.findSome? (lookup? · (text name)) with
    | some w =>
      obtain ⟨inner, scope, outer, split, found, missing⟩ := List.findSome?_eq_some_iff.1 inScopes
      exact .inScope split (fun closer mem => lacksEntry_isNamed_iff.2 (missing closer mem))
        (hasEntry_isNamed_iff.2 found)
    | none =>
      have missing : ∀ scope ∈ scopes, LacksEntry scope (IsNamed name) := fun scope mem =>
        lacksEntry_isNamed_iff.2 (List.findSome?_eq_none_iff.1 inScopes scope mem)
      cases given : lookup? data (text name) with
      | some w => exact .inData missing (hasEntry_isNamed_iff.2 given)
      | none => exact .nowhere missing (lacksEntry_isNamed_iff.2 given)
  constructor
  · rintro rfl
    exact sound
  · intro finds
    unfold lookupName
    cases finds with
    | inScope split missing found =>
      rw [List.findSome?_eq_some_iff.2 ⟨_, _, _, split, hasEntry_isNamed_iff.1 found,
        fun closer mem => lacksEntry_isNamed_iff.1 (missing closer mem)⟩]
      rfl
    | inData missing found =>
      rw [List.findSome?_eq_none_iff.2 fun scope mem => lacksEntry_isNamed_iff.1 (missing scope mem),
        hasEntry_isNamed_iff.1 found]
      rfl
    | nowhere missing lacks =>
      rw [List.findSome?_eq_none_iff.2 fun scope mem => lacksEntry_isNamed_iff.1 (missing scope mem),
        lacksEntry_isNamed_iff.1 lacks]
      rfl

theorem leads_cons_iff {data : Scope} {scopes : List Scope} {rest : List String} :
    Leads data scopes (name :: rest) w ↔ Walk (lookupName data scopes name) rest w := by
  constructor
  · rintro ⟨finds, walk⟩
    rwa [lookupName_eq_iff.2 finds]
  · exact .path (lookupName_eq_iff.1 rfl)

theorem strands_cons_iff {data : Scope} {scopes : List Scope} {rest : List String} {long : String} :
    Strands data scopes (name :: rest) long ↔ Overruns (lookupName data scopes name) rest long := by
  constructor
  · rintro ⟨finds, overruns⟩
    rwa [lookupName_eq_iff.2 finds]
  · exact .path (lookupName_eq_iff.1 rfl)

/-- **Every path that can be written leads to exactly one value, which is what the path denotes**, unless on the way a
value is asked for the number of a segment that has too many digits. Then the path denotes nothing, and the fault is
that of the first such segment. -/
theorem resolve_leads {path : String} (isPath : IsPath path.toList) (data : Scope) (scopes : List Scope) :
    ∃ v, (∀ w, Leads data scopes (splitPath path) w ↔ w = v)
      ∧ (((∀ long, ¬ Strands data scopes (splitPath path) long) ∧ resolve data scopes (splitPath path) = .ok v)
        ∨ ∃ long, (∀ other, Strands data scopes (splitPath path) other ↔ other = long)
          ∧ resolve data scopes (splitPath path) = .error (overlongFault long)) := by
  have each := isSegment_of_isPath isPath
  have nonempty : splitPath path ≠ [] := by simp [splitPath, List.splitOn_ne_nil]
  obtain ⟨name, rest, segments⟩ := List.exists_cons_of_ne_nil nonempty
  rw [segments] at each ⊢
  obtain ⟨v, walk⟩ := exists_walk (lookupName data scopes name) rest
  simp only [leads_cons_iff, strands_cons_iff]
  refine ⟨v, fun w => ⟨fun walk' => walk.unique walk', ?_⟩, walk.descendAll_cases (List.forall_mem_cons.1 each).2⟩
  rintro rfl
  exact walk

/-- Through a scope that hides the data, to an entry whose key is a truth value, to an item. -/
theorem resolve_leads_through_truth_value :
    IsPath "a.01.1".toList
      ∧ ∀ w, Leads [(text "a", null)] [[(text "a", map [(bool true, list [text "x", text "y"])])]]
          (splitPath "a.01.1") w ↔ w = text "y" := by
  have isPath : IsPath "a.01.1".toList := by
    have last : IsDotted ('.' :: ['1'] ++ []) := .cons (by simp) (List.all_eq_true.1 (by decide)) .nil
    have segments : IsDotted ('.' :: ['0', '1'] ++ ('.' :: ['1'] ++ [])) :=
      .cons (by simp) (List.all_eq_true.1 (by decide)) last
    exact ⟨['a'], _, rfl, isName_of_all (by decide), segments⟩
  have resolved : resolve [(text "a", null)] [[(text "a", map [(bool true, list [text "x", text "y"])])]]
      (splitPath "a.01.1") = .ok (text "y") := by
    rfl
  obtain ⟨v, only, ended⟩ := resolve_leads isPath [(text "a", null)]
    [[(text "a", map [(bool true, list [text "x", text "y"])])]]
  rcases ended with ⟨-, resolved'⟩ | ⟨long, -, failed⟩
  · obtain rfl := Except.ok.inj (resolved.symm.trans resolved')
    exact ⟨isPath, only⟩
  · cases resolved.symm.trans failed

/-! ## A path that denotes nothing -/

open Integer

/-- The item of a list with a number of too many digits. -/
def pathOfManyDigits : String :=
  String.ofList ('a' :: '.' :: manyDigits)

theorem isPath_pathOfManyDigits : IsPath pathOfManyDigits.toList := by
  rw [pathOfManyDigits, String.toList_ofList]
  refine ⟨['a'], '.' :: manyDigits, rfl, isName_of_all (by decide), ?_⟩
  rw [← List.append_nil manyDigits]
  refine .cons manyDigits_ne_nil (fun c mem => ?_) .nil
  obtain rfl := eq_of_mem_manyDigits mem
  decide

/-- The segment has no number, so a list has no answer to it. -/
theorem resolve_pathOfManyDigits :
    resolve [(text "a", list [int 1])] [] (splitPath pathOfManyDigits)
      = .error (overlongFault (String.ofList manyDigits)) := by
  have split : splitPath pathOfManyDigits = ["a", String.ofList manyDigits] := by
    have parts : (['.'].intercalate [['a'], manyDigits]).splitOn '.' = [['a'], manyDigits] := by
      refine List.splitOn_intercalate '.' (fun part mem => ?_) (by simp)
      rcases List.mem_pair.1 mem with rfl | rfl
      · decide
      · exact not_mem_manyDigits (by decide)
    have joined : ['.'].intercalate [['a'], manyDigits] = 'a' :: '.' :: manyDigits := by simp [List.intercalate]
    rw [splitPath, pathOfManyDigits, String.toList_ofList, ← joined, parts]
    rfl
  have long : IsOverlong (String.ofList manyDigits) := by
    refine ⟨fun c mem => ?_, ?_⟩
    · rw [String.toList_ofList] at mem
      obtain rfl := eq_of_mem_manyDigits mem
      decide
    · rw [String.toList_ofList, length_manyDigits]
      exact Nat.lt_succ_self _
  have isSegment : IsSegment (String.ofList manyDigits) :=
    isSegment_of_isPath isPath_pathOfManyDigits _ (split ▸ by simp)
  have asks : AsksNumber (list [int 1]) (String.ofList manyDigits) := .item rfl
  have found : lookupName [(text "a", list [int 1])] [] "a" = list [int 1] := rfl
  rw [split, resolve, found, descendAll, asks.descend_eq isSegment long]
  rfl

/-- In a list the path is a fault, though it can be written. -/
theorem path_of_many_digits_strands :
    IsPath pathOfManyDigits.toList
      ∧ resolve [(text "a", list [int 1])] [] (splitPath pathOfManyDigits)
        = .error (overlongFault (String.ofList manyDigits)) :=
  ⟨isPath_pathOfManyDigits, resolve_pathOfManyDigits⟩

end Stencil.Value
