import Stencil.Filter.Builtin
import Stencil.Proofs.Html.Escaping
import Stencil.Proofs.Node.Marks
import Stencil.Proofs.Render.Meaning
import Stencil.Template

/-!
# What may be written unescaped

What prints trusted markup, which is markup itself or an object whose own text is markup, is the one thing that an
escaping output writes as it is. Every part of an output is traced to the node that makes it, so it is literal text
of the template, trusted markup that leaves its pipeline, or escaped text. The built-in filters but `raw` and `safe`
make no markup, and what paths find in data without markup is none, also inside of loops. For them markup is written
only where a template or its data asks for it. That there is no markup in the data is not enough for this: an object
may be printed as markup (`Template.text_of_object_is_not_escaped`).
-/

namespace Stencil

/-! ## What paths lead to -/

namespace Value

/-- Does the property of a value pass on to all that paths find below it? -/
structure PassesDown (P : Value → Prop) : Prop where
  nothing : P undefined
  entries : ∀ {v : Value} {entries : List (Value × Value)}, P v → v.entries? = some entries →
    ∀ entry ∈ entries, P entry.2
  items : ∀ {v : Value} {items : List Value}, P v → v.sequence? = some items → ∀ item ∈ items, P item

namespace PassesDown

variable {P : Value → Prop} (down : PassesDown P)

theorem of_lookup? {entries : List (Value × Value)} (each : ∀ entry ∈ entries, P entry.2) {key v : Value}
    (found : lookup? entries key = some v) : P v := by
  obtain ⟨entry, first, rfl⟩ := Option.map_eq_some_iff.1 found
  exact each entry (List.mem_of_find?_eq_some first)

include down

theorem getD_lookup? {entries : List (Value × Value)} (each : ∀ entry ∈ entries, P entry.2) (key : Value) :
    P ((lookup? entries key).getD undefined) := by
  cases found : lookup? entries key with
  | none => exact down.nothing
  | some v => exact of_lookup? each found

/-- One segment down. -/
theorem of_descend {v w : Value} (holds : P v) {segment : String} (h : descend v segment = .ok w) : P w := by
  unfold descend at h
  split at h
  · next entries isMap =>
    have each := down.entries holds isMap
    split at h
    · next found =>
      obtain rfl := Except.ok.inj h
      exact of_lookup? each found
    · obtain ⟨number, -, rfl⟩ := map_eq_ok_iff.1 h
      cases number with
      | none => exact down.nothing
      | some n => exact down.getD_lookup? each (.int n)
  · split at h
    · next items isSequence =>
      have each := down.items holds isSequence
      obtain ⟨number, -, rfl⟩ := map_eq_ok_iff.1 h
      cases number with
      | none => exact down.nothing
      | some n =>
        cases found : items[n.toNat]? with
        | none => simpa [found] using down.nothing
        | some item => simpa [found] using each item (List.mem_of_getElem? found)
    · obtain rfl := Except.ok.inj h
      exact down.nothing

theorem of_descendAll {v w : Value} (holds : P v) {segments : List String} (h : descendAll v segments = .ok w) :
    P w := by
  induction segments generalizing v with
  | nil =>
    obtain rfl := Except.ok.inj h
    exact holds
  | cons segment rest ih =>
    rw [descendAll] at h
    split at h
    · obtain rfl := Except.ok.inj h
      exact down.nothing
    · split at h
      · next found => exact ih (down.of_descend holds found) h
      · cases h

/-- What a path finds has the property if the values in the data and in the scopes have it. -/
theorem of_resolve {data : Scope} {scopes : List Scope} (inData : ∀ entry ∈ data, P entry.2)
    (inScopes : ∀ scope ∈ scopes, ∀ entry ∈ scope, P entry.2) {segments : List String} {v : Value}
    (h : resolve data scopes segments = .ok v) : P v := by
  cases segments with
  | nil =>
    obtain rfl := Except.ok.inj h
    exact down.nothing
  | cons name rest =>
    refine down.of_descendAll ?_ h
    unfold lookupName
    cases inner : scopes.findSome? (lookup? · (text name)) with
    | none => exact down.getD_lookup? inData (text name)
    | some v =>
      obtain ⟨scope, mem, found⟩ := List.exists_of_findSome?_eq_some inner
      exact of_lookup? (inScopes scope mem) found

end PassesDown

end Value

/-! ## Values without markup -/

mutual

/-- Is there no markup in the value, at any depth, nor an object whose text is markup? The keys of a map are not asked,
as no path leads to them. -/
def Value.isPlain : Value → Bool
  | .markup _ => false
  | .foreign _ _ portrait => !portrait.trusted
  | .list items | .tuple items | .set _ items => Value.allPlain items
  | .map entries => Value.entriesPlain entries
  | _ => true

/-- Is there no markup in any of the values? -/
def Value.allPlain : List Value → Bool
  | [] => true
  | v :: rest => v.isPlain && Value.allPlain rest

/-- Is there no markup in the values of any of the entries? -/
def Value.entriesPlain : List (Value × Value) → Bool
  | [] => true
  | (_, v) :: rest => v.isPlain && Value.entriesPlain rest

end

namespace Value

theorem allPlain_iff {items : List Value} : allPlain items ↔ ∀ v ∈ items, v.isPlain := by
  induction items with
  | nil => simp [allPlain]
  | cons v rest ih => simp [allPlain, ih]

theorem entriesPlain_iff {entries : List (Value × Value)} :
    entriesPlain entries ↔ ∀ entry ∈ entries, entry.2.isPlain := by
  induction entries with
  | nil => simp [entriesPlain]
  | cons entry rest ih => simp [entriesPlain, ih]

theorem entriesPlain_insert {entries : List (Value × Value)} (plain : entriesPlain entries) (key : Value)
    {v : Value} (isPlain : v.isPlain) : entriesPlain (insert entries key v) := by
  induction entries with
  | nil => simp [insert, entriesPlain, isPlain]
  | cons entry rest ih =>
    simp only [entriesPlain, Bool.and_eq_true] at plain
    rw [insert]
    split
    · simp [entriesPlain, isPlain, plain.2]
    · simp [entriesPlain, plain.1, ih plain.2]

theorem entriesPlain_of_entries? {v : Value} (plain : v.isPlain) {entries : List (Value × Value)}
    (h : v.entries? = some entries) : entriesPlain entries := by
  cases v with
  | map => cases h; exact plain
  | loop state => cases h; rfl
  | _ => cases h

theorem allPlain_of_sequence? {v : Value} (plain : v.isPlain) {items : List Value}
    (h : v.sequence? = some items) : allPlain items := by
  cases v with
  | list | tuple => cases h; exact plain
  | _ => cases h

theorem passesDown_isPlain : PassesDown fun v => v.isPlain where
  nothing := rfl
  entries plain isMap := entriesPlain_iff.1 (entriesPlain_of_entries? plain isMap)
  items plain isSequence := allPlain_iff.1 (allPlain_of_sequence? plain isSequence)

/-- What a path finds in data and scopes without markup is none. -/
theorem isPlain_of_resolve {data : Scope} {scopes : List Scope} (plain : entriesPlain data)
    (plainScopes : ∀ scope ∈ scopes, entriesPlain scope) {segments : List String} {v : Value}
    (h : resolve data scopes segments = .ok v) : v.isPlain :=
  passesDown_isPlain.of_resolve (entriesPlain_iff.1 plain)
    (fun scope mem => entriesPlain_iff.1 (plainScopes scope mem)) h

theorem printsMarkup_eq_false_of_isPlain {v : Value} (plain : v.isPlain) : v.printsMarkup = false := by
  cases v with
  | markup => cases plain
  | foreign => simpa [isPlain, printsMarkup] using plain
  | _ => rfl

end Value

/-! ## Filters that make markup -/

/-- The last filter of an expression, if it ends in one. -/
def Expr.lastFilter? : Expr → Option String
  | .filter _ _ name => some name
  | _ => none

namespace Filter

/-- Does the filter make nothing that prints markup, whatever it is given? -/
def Distrusts (f : Filter) : Prop :=
  ∀ v w, f v = .ok w → w.printsMarkup = false

theorem distrusts_onOutput (g : List Char → List Char) : Distrusts (onOutput g) := by
  intro v w h
  obtain ⟨s, -, rfl⟩ := map_eq_ok_iff.1 h
  rfl

theorem distrusts_length : Distrusts length := by
  intro v w h
  unfold length at h
  split at h
  · obtain rfl := Except.ok.inj h
    rfl
  · obtain ⟨s, -, rfl⟩ := map_eq_ok_iff.1 h
    rfl

theorem distrusts_round : Distrusts round := by
  intro v w h
  obtain ⟨n, -, rfl⟩ := map_eq_ok_iff.1 h
  rfl

theorem distrusts_stars : Distrusts stars := by
  intro v w h
  obtain ⟨n, -, rfl⟩ := map_eq_ok_iff.1 h
  rfl

/-- A built-in filter other than `raw` and `safe` makes no markup. -/
theorem distrusts_of_builtin {name : String} {f : Filter} (known : (name, f) ∈ builtins) (notRaw : name ≠ "raw")
    (notSafe : name ≠ "safe") : Distrusts f := by
  simp only [builtins, List.mem_cons, Prod.mk.injEq, List.not_mem_nil, or_false] at known
  rcases known with ⟨-, rfl⟩ | ⟨-, rfl⟩ | ⟨-, rfl⟩ | ⟨-, rfl⟩ | ⟨-, rfl⟩ | ⟨-, rfl⟩ | ⟨-, rfl⟩ | ⟨-, rfl⟩ | ⟨-, rfl⟩
    | ⟨-, rfl⟩ | ⟨-, rfl⟩ | ⟨rfl, -⟩ | ⟨rfl, -⟩
  · exact distrusts_length
  · exact distrusts_length
  · exact distrusts_onOutput _
  · exact distrusts_onOutput _
  · exact distrusts_onOutput _
  · exact distrusts_onOutput _
  · exact distrusts_onOutput _
  · exact distrusts_onOutput _
  · exact distrusts_onOutput _
  · exact distrusts_round
  · exact distrusts_stars
  · exact absurd rfl notRaw
  · exact absurd rfl notSafe

end Filter

theorem printsMarkup_of_applyFilter {table : FilterTable} (builtin : table.entries = Filter.builtins) {name : String}
    (notRaw : name ≠ "raw") (notSafe : name ≠ "safe") {v w : Value} (h : applyFilter table v name = .ok w) :
    w.printsMarkup = false := by
  unfold applyFilter at h
  split at h
  · next absent =>
    obtain rfl := Except.ok.inj h
    cases v with
    | markup | foreign => cases absent
    | _ => rfl
  · cases found : table.entries.lookup name with
    | none => simp [FilterTable.find, FilterTable.find?, found] at h
    | some f =>
      simp only [FilterTable.find, FilterTable.find?, found] at h
      obtain ⟨before, after, entries, -⟩ := List.lookup_eq_some_iff.1 found
      have known : (name, f) ∈ Filter.builtins := by
        rw [← builtin, entries]
        simp
      exact Filter.distrusts_of_builtin known notRaw notSafe v w h

/-- With the built-in filters, an output prints markup only if its last filter says so, or if it has no filter and
its path leads to what does. -/
theorem Expr.lastFilter?_of_markup {input : RenderInput} (builtin : input.filters.entries = Filter.builtins)
    {scopes : List Scope} {site : Option Site} {position : Position} {segments names : List String} {v : Value}
    (trusted : v.printsMarkup)
    (h : (pipeline position (.path position segments) names).evaluate input scopes site = .ok v) :
    (pipeline position (.path position segments) names).lastFilter? = some "raw"
      ∨ (pipeline position (.path position segments) names).lastFilter? = some "safe"
      ∨ names = [] ∧ Value.resolve input.data scopes segments = .ok v := by
  rcases List.eq_nil_or_concat names with rfl | ⟨init, last, rfl⟩
  · exact .inr (.inr ⟨rfl, h⟩)
  · have split : pipeline position (.path position segments) (init ++ [last])
        = .filter position (pipeline position (.path position segments) init) last := by
      rw [pipeline, List.foldl_append]
      rfl
    rw [List.concat_eq_append] at *
    rw [split] at h ⊢
    by_cases notRaw : last = "raw"
    · exact .inl (congrArg some notRaw)
    by_cases notSafe : last = "safe"
    · exact .inr (.inl (congrArg some notSafe))
    exfalso
    rw [evaluate] at h
    split at h
    · unfold applyTo at h
      split at h
      · next applied =>
        obtain rfl := Except.ok.inj h
        rw [printsMarkup_of_applyFilter builtin notRaw notSafe applied] at trusted
        cases trusted
      · cases h
      · cases h
    · cases h

/-! ## Parts and the nodes that make them -/

/-- The scopes are plain if the data is. -/
def PlainScopes (input : RenderInput) (scopes : List Scope) : Prop :=
  Value.entriesPlain input.data → ∀ scope ∈ scopes, Value.entriesPlain scope

/-- The part is made by a node that left one of the marks, in scopes that are as plain as the data. -/
def Part.Traced (input : RenderInput) (site : Option Site) (marks : List Mark) : Part → Prop
  | .literal text => ∃ position, Mark.data position text ∈ marks
  | .value expr escape scopes v =>
    (∃ position source, Mark.output position expr source escape ∈ marks)
      ∧ expr.evaluate input scopes site = .ok v ∧ PlainScopes input scopes

variable {input : RenderInput} {site : Option Site}

theorem Part.Traced.mono {marks others : List Mark} (sub : ∀ mark ∈ marks, mark ∈ others) {part : Part}
    (h : part.Traced input site marks) : part.Traced input site others := by
  cases part with
  | literal text =>
    obtain ⟨position, mem⟩ := h
    exact ⟨position, sub _ mem⟩
  | value expr escape scopes v =>
    obtain ⟨⟨position, source, mem⟩, rest⟩ := h
    exact ⟨⟨position, source, sub _ mem⟩, rest⟩

theorem exists_of_inOrder {α β : Type} {f : α → Except Fault (List β)} {xs : List α} {ys : List β}
    (h : inOrder (xs.map f) = .ok ys) : ∀ y ∈ ys, ∃ x ∈ xs, ∃ zs, f x = .ok zs ∧ y ∈ zs := by
  induction xs generalizing ys with
  | nil =>
    obtain rfl := Except.ok.inj h
    simp
  | cons x rest ih =>
    obtain ⟨zs, first, h⟩ := bind_eq_ok_iff.1 h
    obtain ⟨later, second, h⟩ := bind_eq_ok_iff.1 h
    obtain rfl := Except.ok.inj h
    intro y mem
    rcases List.mem_append.1 mem with mem | mem
    · exact ⟨x, List.mem_cons_self, zs, first, mem⟩
    · obtain ⟨x', inside, found⟩ := ih second y mem
      exact ⟨x', List.mem_cons_of_mem _ inside, found⟩

/-- The scope of a round over plain items is plain. -/
theorem entriesPlain_roundScope {items : List Value} (plain : ∀ item ∈ items, item.isPlain) (name : String)
    {round : LoopState × Value} (mem : round ∈ loopRounds items) : Value.entriesPlain (roundScope name round) := by
  obtain ⟨⟨item, index⟩, inside, rfl⟩ := List.mem_map.1 mem
  have isPlain := plain item (List.fst_mem_of_mem_zipIdx inside)
  exact Value.entriesPlain_insert rfl _ isPlain

theorem PlainScopes.cons {scopes : List Scope} (plain : PlainScopes input scopes) {scope : Scope}
    (isPlain : Value.entriesPlain input.data → Value.entriesPlain scope) : PlainScopes input (scope :: scopes) := by
  intro plainData other mem
  rcases List.mem_cons.1 mem with rfl | mem
  · exact isPlain plainData
  · exact plain plainData other mem

mutual

/-- Every part of a node is traced to it or a node inside of it. -/
theorem Node.traced (node : Node) {scopes : List Scope} (plain : PlainScopes input scopes) {parts : List Part}
    (h : Node.parts input site node scopes = .ok parts) :
    ∀ part ∈ parts, part.Traced input site (Node.marks node) := by
  cases node with
  | data position text =>
    obtain rfl := Except.ok.inj h
    intro part mem
    obtain rfl := List.mem_singleton.1 mem
    exact ⟨position, List.mem_singleton_self _⟩
  | output position expr source escape =>
    obtain ⟨v, evaluated, h⟩ := bind_eq_ok_iff.1 h
    obtain ⟨_, -, rfl⟩ := map_eq_ok_iff.1 h
    intro part mem
    obtain rfl := List.mem_singleton.1 mem
    exact ⟨⟨position, source, List.mem_singleton_self _⟩, evaluated, plain⟩
  | cond position branches otherwise =>
    refine Node.tracedBranches (.openIf position) branches plain h fun last made part mem => ?_
    exact (Node.tracedAll otherwise plain made part mem).mono fun mark => mem_lastPart
  | foreach position collection name body =>
    obtain ⟨v, resolved, h⟩ := bind_eq_ok_iff.1 h
    intro part mem
    obtain ⟨round, inside, parts, made, mem⟩ := exists_of_inOrder h part mem
    have plainRound : PlainScopes input (roundScope name round :: scopes) := by
      refine plain.cons fun plainData => ?_
      have isPlain := Value.isPlain_of_resolve plainData (plain plainData) resolved
      refine entriesPlain_roundScope ?_ name inside
      cases items : v.sequence? with
      | none => simp
      | some items => exact Value.allPlain_iff.1 (Value.allPlain_of_sequence? isPlain items)
    refine (Node.tracedAll body plainRound made part mem).mono fun mark mem => ?_
    simp [Node.marks, mem]
  | count position name start stop body =>
    intro part mem
    obtain ⟨round, inside, parts, made, mem⟩ := exists_of_inOrder h part mem
    have plainRound : PlainScopes input (roundScope name round :: scopes) := by
      refine plain.cons fun _ => entriesPlain_roundScope ?_ name inside
      intro item mem
      obtain ⟨i, -, rfl⟩ := List.mem_map.1 mem
      rfl
    refine (Node.tracedAll body plainRound made part mem).mono fun mark mem => ?_
    simp [Node.marks, mem]

theorem Node.tracedAll (nodes : List Node) {scopes : List Scope} (plain : PlainScopes input scopes)
    {parts : List Part} (h : Node.partsOfAll input site nodes scopes = .ok parts) :
    ∀ part ∈ parts, part.Traced input site (Node.marksOfAll nodes) := by
  cases nodes with
  | nil =>
    obtain rfl := Except.ok.inj h
    simp
  | cons node rest =>
    obtain ⟨first, made, h⟩ := bind_eq_ok_iff.1 h
    obtain ⟨later, made', h⟩ := bind_eq_ok_iff.1 h
    obtain rfl := Except.ok.inj h
    intro part mem
    rcases List.mem_append.1 mem with mem | mem
    · exact (Node.traced node plain made part mem).mono fun mark => List.mem_append_left _
    · exact (Node.tracedAll rest plain made' part mem).mono fun mark => List.mem_append_right _

theorem Node.tracedBranches (mark : Expr → Mark) (branches : List (Expr × List Node)) {scopes : List Scope}
    (plain : PlainScopes input scopes) {otherwise : Except Fault (List Part)} {parts : List Part}
    (h : Node.partsOfBranches input site branches scopes otherwise = .ok parts) {marks : List Mark}
    (last : ∀ made, otherwise = .ok made → ∀ part ∈ made, part.Traced input site marks) :
    ∀ part ∈ parts, part.Traced input site (Node.marksOfBranches mark branches ++ marks) := by
  cases branches with
  | nil => exact last parts h
  | cons branch rest =>
    obtain ⟨test, body⟩ := branch
    obtain ⟨v, -, h⟩ := bind_eq_ok_iff.1 h
    split at h
    · intro part mem
      refine (Node.tracedAll body plain h part mem).mono fun mark mem => ?_
      simp [Node.marksOfBranches, mem]
    · intro part mem
      refine (Node.tracedBranches .elseIf rest plain h last part mem).mono fun mark mem => ?_
      rw [Node.marksOfBranches, List.append_assoc]
      exact List.mem_append_right _ mem

end

/-! ## Parts of a source -/

/-- The part is text of a data node. -/
def Part.IsVerbatim (nodes : List Node) (part : Part) : Prop :=
  ∃ position text, Mark.data position text ∈ Node.marksOfAll nodes ∧ part.text = text

/-- The part is the text of an output whose value prints trusted markup when it leaves its pipeline. -/
def Part.IsTrusted (input : RenderInput) (site : Option Site) (nodes : List Node) (part : Part) : Prop :=
  ∃ position expr source scopes v, Mark.output position expr source true ∈ Node.marksOfAll nodes
    ∧ part = .value expr true scopes v ∧ v.printsMarkup
    ∧ expr.evaluate input scopes site = .ok v
    ∧ part.text = v.output

theorem text_of_printsMarkup {v : Value} (trusted : v.printsMarkup) (expr : Expr) (scopes : List Scope) :
    (Part.value expr true scopes v).text = v.output := by
  simp only [Part.text, Value.stringified, trusted, if_true]
  rfl

theorem isEscaped_of_not_printsMarkup {v : Value} (plain : v.printsMarkup = false) (expr : Expr)
    (scopes : List Scope) : Html.IsEscaped (Part.value expr true scopes v).text.toList := by
  have escaped : (Part.value expr true scopes v).text = Html.escape v.output := by
    simp only [Part.text, Value.stringified, plain, if_true]
    rfl
  rw [escaped]
  exact Html.isEscaped_escape v.output

/-- An output of a source is a path with filters, and is escaped if all outputs are. -/
theorem exists_pipeline_of_read {ctx : ReadContext} {source : String} {nodes : List Node}
    (read : Node.read ctx source = .ok nodes) {position : Position} {expr : Expr} {shown : String} {escape : Bool}
    (mem : Mark.output position expr shown escape ∈ Node.marksOfAll nodes) :
    escape = ctx.escape ∧ ∃ position segments names,
      expr = Expr.pipeline position (.path position segments) names := by
  obtain ⟨_, -, t, -, -, -, of⟩ := exists_token_of_mark read mem
  obtain ⟨path, filters, -, -, rfl, -, same⟩ := of
  exact ⟨same, _, _, _, rfl⟩

section Source

variable {ctx : ReadContext} {source : String} {nodes : List Node} {part : Part}

/-- A part of a source that is read with escaping is literal text or the value of an output that escapes. -/
theorem Part.Traced.verbatim_or_value (trace : part.Traced input site (Node.marksOfAll nodes))
    (read : Node.read ctx source = .ok nodes) (escapes : ctx.escape = true) :
    part.IsVerbatim nodes ∨ ∃ position expr shown scopes v, part = .value expr true scopes v
      ∧ Mark.output position expr shown true ∈ Node.marksOfAll nodes
      ∧ expr.evaluate input scopes site = .ok v ∧ PlainScopes input scopes := by
  cases part with
  | literal text =>
    obtain ⟨position, mark⟩ := trace
    exact .inl ⟨position, text, mark, rfl⟩
  | value expr escape scopes v =>
    obtain ⟨⟨position, shown, mark⟩, evaluated, plain⟩ := trace
    obtain ⟨same, -⟩ := exists_pipeline_of_read read mark
    obtain rfl : escape = true := same.trans escapes
    exact .inr ⟨position, expr, shown, scopes, v, rfl, mark, evaluated, plain⟩

theorem Part.Traced.verbatim_or_trusted_or_escaped (trace : part.Traced input site (Node.marksOfAll nodes))
    (read : Node.read ctx source = .ok nodes) (escapes : ctx.escape = true) :
    part.IsVerbatim nodes ∨ part.IsTrusted input site nodes ∨ Html.IsEscaped part.text.toList := by
  rcases trace.verbatim_or_value read escapes with
    verbatim | ⟨position, expr, shown, scopes, v, rfl, mark, evaluated, -⟩
  · exact .inl verbatim
  · cases trusted : v.printsMarkup with
    | false => exact .inr (.inr (isEscaped_of_not_printsMarkup trusted expr scopes))
    | true =>
      exact .inr (.inl ⟨position, expr, shown, scopes, v, mark, rfl, trusted, evaluated,
        text_of_printsMarkup trusted expr scopes⟩)

/-- With the built-in filters, markup comes from `raw`, from `safe` or from a path alone. -/
theorem Part.Traced.asked {expr : Expr} {escape : Bool} {scopes : List Scope} {v : Value} (trusted : v.printsMarkup)
    (trace : (Part.value expr escape scopes v).Traced input site (Node.marksOfAll nodes))
    (read : Node.read ctx source = .ok nodes) (builtin : input.filters.entries = Filter.builtins) :
    expr.lastFilter? = some "raw" ∨ expr.lastFilter? = some "safe"
      ∨ ∃ position segments, expr = .path position segments
        ∧ Value.resolve input.data scopes segments = .ok v := by
  obtain ⟨⟨_, _, mark⟩, evaluated, -⟩ := trace
  obtain ⟨-, position, segments, names, rfl⟩ := exists_pipeline_of_read read mark
  rcases Expr.lastFilter?_of_markup builtin trusted evaluated with raw | safe | ⟨rfl, resolved⟩
  · exact .inl raw
  · exact .inr (.inl safe)
  · exact .inr (.inr ⟨position, segments, rfl, resolved⟩)

/-- Where no output asks for it and the data holds none, no part is markup. -/
theorem Part.Traced.verbatim_or_escaped (trace : part.Traced input site (Node.marksOfAll nodes))
    (read : Node.read ctx source = .ok nodes) (escapes : ctx.escape = true)
    (builtin : input.filters.entries = Filter.builtins)
    (unasked : ∀ position expr shown escape, Mark.output position expr shown escape ∈ Node.marksOfAll nodes →
      expr.lastFilter? ≠ some "raw" ∧ expr.lastFilter? ≠ some "safe")
    (plainData : Value.entriesPlain input.data) :
    part.IsVerbatim nodes ∨ Html.IsEscaped part.text.toList := by
  rcases trace.verbatim_or_value read escapes with
    verbatim | ⟨position, expr, shown, scopes, v, rfl, mark, -, plain⟩
  · exact .inl verbatim
  · refine .inr (isEscaped_of_not_printsMarkup ?_ expr scopes)
    by_contra trusted
    rcases trace.asked (by simpa using trusted) read builtin with raw | safe | ⟨_, segments, -, resolved⟩
    · exact absurd raw (unasked _ _ _ _ mark).1
    · exact absurd safe (unasked _ _ _ _ mark).2
    · have isPlain := Value.isPlain_of_resolve plainData (plain plainData) resolved
      exact trusted (Value.printsMarkup_eq_false_of_isPlain isPlain)

end Source

/-! ## Templates -/

theorem Node.exists_parts_of_renderText {nodes : List Node} {sites : List Site} {output : String}
    (h : (Node.renderText input nodes [] sites).1 = .ok output) :
    ∃ parts, Node.partsOfAll input sites.head? nodes [] = .ok parts ∧ output = Part.joined parts := by
  cases made : Node.partsOfAll input sites.head? nodes [] with
  | error fault =>
    rw [Node.renderText_of_fault made] at h
    cases h
  | ok parts =>
    rw [Node.renderText_of_parts made] at h
    exact ⟨parts, rfl, (Except.ok.inj h).symm⟩

theorem Template.renderText_of_render (t : Template) (plain : t.minify = false) {data : Scope}
    {sites remaining : List Site} {output : String} (h : t.render data sites = (.ok output, remaining)) :
    (Node.renderText ⟨data, t.filters⟩ t.nodes []
      (Site.fresh t.origin.name t.origin.filename (some t.source) :: sites)).1 = .ok output := by
  unfold Template.render at h
  split at h
  · next text left ran =>
    rw [plain] at h
    obtain rfl : text = output := Except.ok.inj (Prod.mk.inj h).1
    have result : Except.mapError _ (Node.renderText _ _ _ _).1 = .ok text := congrArg Prod.fst ran
    cases written : (Node.renderText ⟨data, t.filters⟩ t.nodes []
        (Site.fresh t.origin.name t.origin.filename (some t.source) :: sites)).1 with
    | error fault =>
      rw [written] at result
      cases result
    | ok written' =>
      rw [written] at result
      exact result
  · next other => exact (other output remaining h).elim

/-- The output of a template that escapes is literal text, trusted markup that leaves a pipeline, and escaped text, in
the order of the nodes that make them. With the built-in filters there is markup only behind `raw` and `safe`
and where a path without filters leads to what prints it, so there is none without these filters and with plain
data. -/
theorem Template.render_verbatim_or_trusted_or_escaped {filters : FilterTable} {origin : Origin}
    {source output : String} {t : Template} {data : Scope} {sites remaining : List Site}
    (parsed : Template.read filters true false origin source = .ok t)
    (rendered : t.render data sites = (.ok output, remaining)) :
    ∃ site parts, Node.partsOfAll ⟨data, filters⟩ site t.nodes [] = .ok parts ∧ output = Part.joined parts
      ∧ (∀ part ∈ parts, part.IsVerbatim t.nodes ∨ part.IsTrusted ⟨data, filters⟩ site t.nodes
          ∨ Html.IsEscaped part.text.toList)
      ∧ (filters.entries = Filter.builtins →
          (∀ expr scopes v, v.printsMarkup → Part.value expr true scopes v ∈ parts →
            expr.lastFilter? = some "raw" ∨ expr.lastFilter? = some "safe"
              ∨ ∃ position segments, expr = .path position segments
                ∧ Value.resolve data scopes segments = .ok v)
          ∧ ((∀ position expr shown escape, Mark.output position expr shown escape ∈ Node.marksOfAll t.nodes →
                expr.lastFilter? ≠ some "raw" ∧ expr.lastFilter? ≠ some "safe") →
              Value.entriesPlain data →
              ∀ part ∈ parts, part.IsVerbatim t.nodes ∨ Html.IsEscaped part.text.toList)) := by
  have nodesRead : Node.read ⟨origin, some source, filters.names, true⟩ source = .ok t.nodes
      ∧ t.filters = filters ∧ t.minify = false := by
    unfold Template.read at parsed
    split at parsed
    · next nodes read =>
      obtain rfl := Except.ok.inj parsed
      exact ⟨read, rfl, rfl⟩
    · cases parsed
  obtain ⟨read, rfl, plain⟩ := nodesRead
  obtain ⟨parts, made, rfl⟩ := Node.exists_parts_of_renderText (t.renderText_of_render plain rendered)
  have plainScopes : PlainScopes ⟨data, t.filters⟩ [] := by
    intro _ scope mem
    cases mem
  have traced := Node.tracedAll t.nodes plainScopes made
  refine ⟨_, parts, made, rfl, ?_, fun builtin => ⟨?_, ?_⟩⟩
  · intro part mem
    exact (traced part mem).verbatim_or_trusted_or_escaped read rfl
  · intro expr scopes v trusted mem
    exact (traced _ mem).asked trusted read builtin
  · intro unasked plainData part mem
    exact (traced part mem).verbatim_or_escaped read rfl builtin unasked plainData

/-- Of two outputs the one that is marked as `raw` is shown as it is, and the other one is escaped. -/
theorem Template.render_raw_and_escaped :
    ∃ t parts, Template.read .standard true false ⟨none, none⟩ "a\x7bx|raw\x7d\x7by\x7d" = .ok t
      ∧ (t.render [(.text "x", .text "<b>"), (.text "y", .text "<i>")] []).1 = .ok "a<b>&lt;i&gt;"
      ∧ "a<b>&lt;i&gt;" = Part.joined parts
      ∧ ∃ site, ∀ part ∈ parts, part.IsVerbatim t.nodes
        ∨ part.IsTrusted ⟨[(.text "x", .text "<b>"), (.text "y", .text "<i>")], .standard⟩ site t.nodes
        ∨ Html.IsEscaped part.text.toList := by
  have tokenized : Token.read ⟨none, none⟩ "a\x7bx|raw\x7d\x7by\x7d"
      = .ok [⟨.data, "a", ⟨1, 0⟩⟩, ⟨.output "x" ["raw"], "\x7bx|raw\x7d", ⟨1, 1⟩⟩,
        ⟨.output "y" [], "\x7by\x7d", ⟨1, 8⟩⟩, ⟨.finish, "", ⟨1, 11⟩⟩] :=
    eq_ok_of_toOption (by decide +kernel)
  have read : Node.read ⟨⟨none, none⟩, some "a\x7bx|raw\x7d\x7by\x7d", FilterTable.standard.names, true⟩
      "a\x7bx|raw\x7d\x7by\x7d"
      = .ok [.data ⟨1, 0⟩ "a", .output ⟨1, 1⟩ (.filter ⟨1, 1⟩ (.path ⟨1, 1⟩ ["x"]) "raw") "\x7bx|raw\x7d" true,
        .output ⟨1, 8⟩ (.path ⟨1, 8⟩ ["y"]) "\x7by\x7d" true] := by
    rw [Node.read, tokenized]
    rfl
  have parsed : Template.read .standard true false ⟨none, none⟩ "a\x7bx|raw\x7d\x7by\x7d"
      = .ok ⟨[.data ⟨1, 0⟩ "a", .output ⟨1, 1⟩ (.filter ⟨1, 1⟩ (.path ⟨1, 1⟩ ["x"]) "raw") "\x7bx|raw\x7d" true,
        .output ⟨1, 8⟩ (.path ⟨1, 8⟩ ["y"]) "\x7by\x7d" true], .standard, ⟨none, none⟩,
        "a\x7bx|raw\x7d\x7by\x7d", false⟩ := by
    rw [Template.read, read]
  have rendered : (Template.render ⟨[.data ⟨1, 0⟩ "a",
        .output ⟨1, 1⟩ (.filter ⟨1, 1⟩ (.path ⟨1, 1⟩ ["x"]) "raw") "\x7bx|raw\x7d" true,
        .output ⟨1, 8⟩ (.path ⟨1, 8⟩ ["y"]) "\x7by\x7d" true], .standard, ⟨none, none⟩,
        "a\x7bx|raw\x7d\x7by\x7d", false⟩ [(.text "x", .text "<b>"), (.text "y", .text "<i>")] []).1
      = .ok "a<b>&lt;i&gt;" := by
    rfl
  obtain ⟨site, parts, -, joined, each, -⟩ :=
    Template.render_verbatim_or_trusted_or_escaped parsed (Prod.ext rendered rfl)
  exact ⟨_, parts, parsed, rendered, joined, site, each⟩

/-- An object that is printed as trusted markup, though it is none itself. -/
def Value.selfTrusting : Value :=
  .foreign 0 false ⟨.ok "<b>", true, .ok "object"⟩

/-- Without any markup in the data and without filters, what an object prints may still be neither literal text of the
template nor escaped, however the output is taken apart. -/
theorem Template.text_of_object_is_not_escaped :
    ∃ t output, Template.read .standard true false ⟨none, none⟩ "\x7bx\x7d" = .ok t
      ∧ (∀ position expr shown escape, Mark.output position expr shown escape ∈ Node.marksOfAll t.nodes →
          expr.lastFilter? = none)
      ∧ (∀ s, Value.selfTrusting ≠ .markup s)
      ∧ (t.render [(.text "x", .selfTrusting)] []).1 = .ok output
      ∧ ∀ chunks : List (List Char), output.toList = chunks.flatten → ∃ chunk ∈ chunks, ¬ Html.IsEscaped chunk
        ∧ ∀ position text, Mark.data position text ∈ Node.marksOfAll t.nodes → chunk ≠ text.toList := by
  have tokenized : Token.read ⟨none, none⟩ "\x7bx\x7d"
      = .ok [⟨.output "x" [], "\x7bx\x7d", ⟨1, 0⟩⟩, ⟨.finish, "", ⟨1, 3⟩⟩] :=
    eq_ok_of_toOption (by decide +kernel)
  have read : Node.read ⟨⟨none, none⟩, some "\x7bx\x7d", FilterTable.standard.names, true⟩ "\x7bx\x7d"
      = .ok [.output ⟨1, 0⟩ (.path ⟨1, 0⟩ ["x"]) "\x7bx\x7d" true] := by
    rw [Node.read, tokenized]
    rfl
  have marks : Node.marksOfAll [.output ⟨1, 0⟩ (.path ⟨1, 0⟩ ["x"]) "\x7bx\x7d" true]
      = [.output ⟨1, 0⟩ (.path ⟨1, 0⟩ ["x"]) "\x7bx\x7d" true] := rfl
  refine ⟨⟨_, .standard, ⟨none, none⟩, "\x7bx\x7d", false⟩, "<b>", by rw [Template.read, read], ?_, nofun, rfl, ?_⟩
  · intro position expr shown escape mem
    rw [marks, List.mem_singleton] at mem
    cases mem
    rfl
  · intro chunks taken
    have less : '<' ∈ chunks.flatten := taken ▸ List.mem_cons_self
    obtain ⟨chunk, mem, inside⟩ := List.mem_flatten.1 less
    refine ⟨chunk, mem, fun escaped => escaped.noMarkup '<' inside (by decide), ?_⟩
    intro position text literal
    rw [marks, List.mem_singleton] at literal
    cases literal

end Stencil
