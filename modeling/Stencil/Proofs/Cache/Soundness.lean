import Stencil.Cache.Key
import Stencil.Filter.Builtin
import Stencil.Proofs.Cache.Canonical
import Stencil.Proofs.Render.Lookups
import Stencil.Proofs.Value.Keys

/-!
# What the key of a page decides

The key of a page is a digest of the canonical text of the data, which does not tell everything about the data. It
does tell all that a template can see of data of the same shapes: `Template.page_eq_of_key`. At the top the order
of the entries does not matter, because templates reach data by name; that the shapes matter everywhere else is
shown by `Cache.pages_of_one_key`.
-/

namespace Stencil

/-! ## Names of keys -/

namespace Value

theorem colon_not_mem_typeName (v : Value) : ':' ∉ v.typeName.toList := by
  cases v with
  | set frozen _ => cases frozen <;> simp [typeName]
  | foreign _ html _ => cases html <;> simp [typeName]
  | _ => simp [typeName]

/-- The name of a key tells its type and its text. -/
theorem typeName_eq_of_keyName_eq {k l : Value} (same : keyName k = keyName l) :
    k.typeName = l.typeName ∧ k.display = l.display := by
  have split : ∀ v : Value, (keyName v).toList = v.typeName.toList ++ ':' :: v.display.toList := by
    intro v
    simp [keyName]
  have inside : ∀ v : Value, ∀ c ∈ v.typeName.toList, (c != ':') = true := by
    intro v c mem
    rw [bne_iff_ne]
    rintro rfl
    exact colon_not_mem_typeName v mem
  have chars : k.typeName.toList ++ ':' :: k.display.toList = l.typeName.toList ++ ':' :: l.display.toList := by
    rw [← split, ← split, same]
  obtain ⟨type, rest⟩ := append_injective_of_class (inside k) (inside l) (by simp) (by simp) chars
  exact ⟨String.toList_inj.1 type, String.toList_inj.1 (List.cons.inj rest).2⟩

theorem eq_text_of_typeName {v : Value} (type : v.typeName = "str") : v = text v.display := by
  cases v with
  | text s => rfl
  | set frozen _ => cases frozen <;> simp [typeName] at type
  | foreign _ html _ => cases html <;> simp [typeName] at type
  | _ => simp [typeName] at type

theorem eq_markup_of_typeName {v : Value} (type : v.typeName = "Markup") : v = markup v.display := by
  cases v with
  | markup s => rfl
  | set frozen _ => cases frozen <;> simp [typeName] at type
  | foreign _ html _ => cases html <;> simp [typeName] at type
  | _ => simp [typeName] at type

/-- No other key has the name of a text, trusted or not. -/
theorem eq_of_keyName_eq {k l : Value} {s : String} (isText : k.text? = some s) (same : keyName l = keyName k) :
    l = k := by
  obtain ⟨type, shown⟩ := typeName_eq_of_keyName_eq same
  cases k with
  | text _ => rw [eq_text_of_typeName type, shown, display]
  | markup _ => rw [eq_markup_of_typeName type, shown, display]
  | _ => cases isText

end Value

/-! ## Data -/

/-- No two keys of the data are the same. -/
def Scope.Distinct (data : Scope) : Prop :=
  data.Pairwise fun e e' => Value.same e.1 e'.1 = false

namespace Value

theorem mem_insert {entries : Scope} {key value : Value} {e : Value × Value} (mem : e ∈ insert entries key value) :
    e.1 = key ∨ ∃ e' ∈ entries, e'.1 = e.1 := by
  fun_induction insert entries key value with
  | case1 =>
    rw [List.mem_singleton.1 mem]
    exact .inl rfl
  | case2 k v rest found =>
    rcases List.mem_cons.1 mem with rfl | mem
    · exact .inr ⟨(k, v), List.mem_cons_self, rfl⟩
    · exact .inr ⟨e, List.mem_cons_of_mem _ mem, rfl⟩
  | case3 k v rest other ih =>
    rcases List.mem_cons.1 mem with rfl | mem
    · exact .inr ⟨(k, v), List.mem_cons_self, rfl⟩
    · refine (ih mem).imp_right ?_
      rintro ⟨e', inside, keys⟩
      exact ⟨e', List.mem_cons_of_mem _ inside, keys⟩

/-- Setting an entry keeps the keys apart. -/
theorem distinct_insert {entries : Scope} (distinct : Scope.Distinct entries) (key value : Value) :
    Scope.Distinct (insert entries key value) := by
  fun_induction insert entries key value with
  | case1 => exact List.pairwise_singleton _ _
  | case2 k v rest found =>
    obtain ⟨first, more⟩ := List.pairwise_cons.1 distinct
    exact List.pairwise_cons.2 ⟨first, more⟩
  | case3 k v rest other ih =>
    obtain ⟨first, more⟩ := List.pairwise_cons.1 distinct
    refine List.pairwise_cons.2 ⟨fun e mem => ?_, ih more⟩
    rcases mem_insert mem with keyed | ⟨e', inside, keyed⟩
    · rw [keyed]
      exact Bool.eq_false_iff.2 other
    · rw [← keyed]
      exact first e' inside

theorem distinct_foldl_insert {α : Type} (key value : α → Value) (additions : List α) {entries : Scope}
    (distinct : Scope.Distinct entries) :
    Scope.Distinct (additions.foldl (fun entries a => insert entries (key a) (value a)) entries) := by
  induction additions generalizing entries with
  | nil => exact distinct
  | cons a rest ih => exact ih (distinct_insert distinct _ _)

end Value

/-- The keys of the data that a rendering is asked for are apart. -/
theorem Template.distinct_of_mergeArguments {args : List Value} {named : List (String × Value)} {data : Scope}
    (merged : Template.mergeArguments args named = .ok data) : data.Distinct := by
  unfold Template.mergeArguments at merged
  split at merged
  · cases merged
    exact Value.distinct_foldl_insert (fun a : String × Value => .text a.1) (·.2) named .nil
  · split at merged
    · cases merged
      exact Value.distinct_foldl_insert (fun a : String × Value => .text a.1) (·.2) named
        (Value.distinct_foldl_insert (fun a : Value × Value => a.1) (·.2) _ .nil)
    · cases merged
  · cases merged

namespace Scope

variable {data data' : Scope}

/-- Of distinct data each entry is found whose key is the text of the name. -/
theorem Distinct.lookup?_eq_some_iff (distinct : data.Distinct) {name : String} {v : Value} :
    Value.lookup? data (.text name) = some v ↔ ∃ k, (k, v) ∈ data ∧ k.text? = some name := by
  induction data with
  | nil => simp [Value.lookup?]
  | cons e rest ih =>
    obtain ⟨key, value⟩ := e
    obtain ⟨first, more⟩ := List.pairwise_cons.1 distinct
    by_cases found : Value.same key (.text name) = true
    · have here : Value.lookup? ((key, value) :: rest) (.text name) = some value := by
        simp [Value.lookup?, found]
      rw [here, Option.some_inj]
      constructor
      · rintro rfl
        exact ⟨key, List.mem_cons_self, Value.same_text_iff.1 found⟩
      · rintro ⟨k, mem, isName⟩
        rcases List.mem_cons.1 mem with same | mem
        · exact (Prod.mk.inj same).2.symm
        · have alike := Value.same_of_text? (Value.same_text_iff.1 found) isName
          rw [first (k, v) mem] at alike
          cases alike
    · have there : Value.lookup? ((key, value) :: rest) (.text name) = Value.lookup? rest (.text name) := by
        simp [Value.lookup?, found]
      rw [there, ih more]
      constructor
      · rintro ⟨k, mem, isName⟩
        exact ⟨k, List.mem_cons_of_mem _ mem, isName⟩
      · rintro ⟨k, mem, isName⟩
        rcases List.mem_cons.1 mem with same | mem
        · rw [(Prod.mk.inj same).1] at isName
          exact absurd (Value.same_text_iff.2 isName) found
        · exact ⟨k, mem, isName⟩

/-- What a name finds in data has its form in all data of the same canonical text. -/
theorem exists_lookup?_of_canonical_eq (distinct : data.Distinct) (distinct' : data'.Distinct)
    (same : (Value.map data).canonical = (Value.map data').canonical) {name : String} {v : Value}
    (found : Value.lookup? data (.text name) = some v) :
    ∃ w, Value.lookup? data' (.text name) = some w ∧ v.form = w.form := by
  obtain ⟨k, mem, isName⟩ := distinct.lookup?_eq_some_iff.1 found
  have forms : Form.ofMembers (Value.formEntries data) = Form.ofMembers (Value.formEntries data') :=
    Value.canonical_eq_iff.1 same
  rw [Value.formEntries_eq_map, Value.formEntries_eq_map] at forms
  have only : ∀ g, (k.keyName, g) ∈ data.map (fun e => (e.1.keyName, e.2.form)) → g = v.form := by
    intro g mem'
    obtain ⟨⟨l, w⟩, inside, member⟩ := List.mem_map.1 mem'
    obtain ⟨names, rfl⟩ := Prod.mk.inj member
    obtain rfl := Value.eq_of_keyName_eq isName names
    have again := distinct.lookup?_eq_some_iff.2 ⟨_, inside, isName⟩
    rw [found, Option.some_inj] at again
    rw [again]
  have there := Form.mem_of_ofMembers_eq forms (List.mem_map.2 ⟨(k, v), mem, rfl⟩) only
  obtain ⟨⟨l, w⟩, inside, member⟩ := List.mem_map.1 there
  obtain ⟨names, form⟩ := Prod.mk.inj member
  obtain rfl := Value.eq_of_keyName_eq isName names
  exact ⟨w, distinct'.lookup?_eq_some_iff.2 ⟨_, inside, isName⟩, form.symm⟩

/-- Are the values that two data have under the same names of the same shapes? -/
def SameShapes (data data' : Scope) : Prop :=
  ∀ name v w, Value.lookup? data (.text name) = some v → Value.lookup? data' (.text name) = some w →
    Value.SameShape v w

/-- Data of the same shapes and the same canonical text have the same values under all names. -/
theorem agree_of_canonical_eq (distinct : data.Distinct) (distinct' : data'.Distinct)
    (same : (Value.map data).canonical = (Value.map data').canonical) (shapes : SameShapes data data') :
    Agree data data' := by
  intro name
  cases found : Value.lookup? data (.text name) with
  | some v =>
    obtain ⟨w, found', forms⟩ := exists_lookup?_of_canonical_eq distinct distinct' same found
    rw [found', Value.eq_of_form_eq (shapes name v w found found') forms]
  | none =>
    cases found' : Value.lookup? data' (.text name) with
    | none => rfl
    | some w =>
      obtain ⟨v, found'', -⟩ := exists_lookup?_of_canonical_eq distinct' distinct same.symm found'
      rw [found] at found''
      cases found''

end Scope

/-! ## Keys -/

/-- SHA-256 tells two texts apart. -/
def Sha256.TellsApart (s t : String) : Prop :=
  Sha256.ofText s = Sha256.ofText t → s = t

namespace Cache

variable {path key : String} {changed : Value} {room room' : Nat}

/-- What the key of a page is a digest of. -/
theorem key_eq_ok_iff {data : Value} :
    Cache.key path changed data room = .ok key ↔
      (data.depth ≤ room ∧ data.unkeyed? = none ∧ changed.unshown? = none)
        ∧ key = Sha256.ofText (keyMaterial path changed (Sha256.ofText data.canonical)) := by
  unfold Cache.key
  split
  · next deep => exact ⟨nofun, fun made => absurd made.1.1 (not_le.2 deep)⟩
  · next flat =>
    split
    · next u unwritten =>
      refine ⟨nofun, fun made => ?_⟩
      rw [made.1.2.1, made.1.2.2] at unwritten
      cases unwritten
    · next written =>
      obtain ⟨keyed, shown⟩ := Option.or_eq_none_iff.1 written
      rw [Except.ok.injEq]
      exact ⟨fun same => ⟨⟨not_lt.1 flat, keyed, shown⟩, same.symm⟩, fun same => same.2.symm⟩

theorem keyMaterial_injective {digest digest' : String}
    (same : keyMaterial path changed digest = keyMaterial path changed digest') : digest = digest' := by
  unfold keyMaterial at same
  exact String.append_right_inj _ |>.1 same

/-- One key is made from one canonical text, as far as SHA-256 tells the texts that it is made from apart. -/
theorem canonical_eq_of_key_eq {data data' : Value} (is : Cache.key path changed data room = .ok key)
    (is' : Cache.key path changed data' room' = .ok key) (apart : Sha256.TellsApart data.canonical data'.canonical)
    (apart' : Sha256.TellsApart (keyMaterial path changed (Sha256.ofText data.canonical))
      (keyMaterial path changed (Sha256.ofText data'.canonical))) : data.canonical = data'.canonical :=
  apart (keyMaterial_injective (apart' ((key_eq_ok_iff.1 is).2.symm.trans (key_eq_ok_iff.1 is').2)))

end Cache

/-- Data of the same shapes that have the same key give the same page, whatever the template, as far as SHA-256
tells the texts that the keys are made from apart. -/
theorem Template.page_eq_of_key {path key : String} {changed : Value} {room room' : Nat} {args args' : List Value}
    {named named' : List (String × Value)} {data data' : Scope}
    (merged : Template.mergeArguments args named = .ok data)
    (merged' : Template.mergeArguments args' named' = .ok data')
    (is : Cache.key path changed (.map data) room = .ok key) (is' : Cache.key path changed (.map data') room' = .ok key)
    (apart : Sha256.TellsApart (Value.map data).canonical (Value.map data').canonical)
    (apart' : Sha256.TellsApart (Cache.keyMaterial path changed (Sha256.ofText (Value.map data).canonical))
      (Cache.keyMaterial path changed (Sha256.ofText (Value.map data').canonical)))
    (shapes : Scope.SameShapes data data') (t : Template) : t.page data = t.page data' :=
  t.page_eq_of_agree (Scope.agree_of_canonical_eq (distinct_of_mergeArguments merged)
    (distinct_of_mergeArguments merged') (Cache.canonical_eq_of_key_eq is is' apart apart') shapes)

/-- A template of two outputs. -/
def twoOutputs : Template :=
  ⟨[.output .start (.path .start ["s"]) "{s}" true, .output ⟨1, 3⟩ (.path ⟨1, 3⟩ ["m"]) "{m}" true],
    FilterTable.standard, ⟨some "page", none⟩, "{s}{m}", false⟩

/-- A set. -/
def sampleSet : Value :=
  .set false [.int 2, .markup "<"]

/-- A map with entries of several kinds. -/
def sampleMap : Value :=
  .map [(.text "b", .list [.undefined, .bytes [120], .foreign 0 false "<x>"]), (.int 1, .tuple [.null, .bool true])]

theorem sameShape_sampleSet : Value.SameShape sampleSet sampleSet := by
  simp [sampleSet, Value.SameShape, Value.SameShapeItems]

theorem sameShape_sampleMap : Value.SameShape sampleMap sampleMap := by
  have names : (Value.keyNames [(.text "b", .list [.undefined, .bytes [120], .foreign 0 false "<x>"]),
    (.int 1, .tuple [.null, .bool true])]).Nodup := by decide
  simp [sampleMap, Value.SameShape, Value.SameShapeItems, Value.SameShapeEntries, names]

theorem uncanonical?_sampleSet : sampleSet.uncanonical? = none := by
  decide +kernel

theorem uncanonical?_sampleMap : sampleMap.uncanonical? = none :=
  Value.uncanonical?_map (by decide +kernel)

theorem lookup?_pair (a b name : String) (v w : Value) :
    Value.lookup? [(.text a, v), (.text b, w)] (.text name) =
      if a = name then some v else if b = name then some w else none := by
  simp only [Value.lookup?, List.find?_cons, Value.same_text, List.find?_nil]
  split_ifs <;> simp_all

/-- The order of the entries at the top does not matter. -/
theorem Template.page_eq_of_key_of_reordered :
    Template.mergeArguments [] [("s", sampleSet), ("m", sampleMap)] = .ok [(.text "s", sampleSet), (.text "m", sampleMap)]
      ∧ Template.mergeArguments [] [("m", sampleMap), ("s", sampleSet)]
        = .ok [(.text "m", sampleMap), (.text "s", sampleSet)]
      ∧ twoOutputs.page [(.text "s", sampleSet), (.text "m", sampleMap)]
        = twoOutputs.page [(.text "m", sampleMap), (.text "s", sampleSet)] := by
  have merged : Template.mergeArguments [] [("s", sampleSet), ("m", sampleMap)]
      = .ok [(.text "s", sampleSet), (.text "m", sampleMap)] := rfl
  have merged' : Template.mergeArguments [] [("m", sampleMap), ("s", sampleSet)]
      = .ok [(.text "m", sampleMap), (.text "s", sampleSet)] := rfl
  have texts : (Value.map [(.text "s", sampleSet), (.text "m", sampleMap)]).canonical
      = (Value.map [(.text "m", sampleMap), (.text "s", sampleSet)]).canonical :=
    Value.canonical_eq_iff.2 (Form.ofMembers_eq_of_perm (.swap _ _ _) (by decide))
  have written : ∀ e ∈ [(Value.text "s", sampleSet), (.text "m", sampleMap)], e.2.uncanonical? = none := by
    simpa using ⟨uncanonical?_sampleSet, uncanonical?_sampleMap⟩
  have key : Cache.key "page" (.int 1) (.map [(.text "s", sampleSet), (.text "m", sampleMap)]) = .ok _ :=
    Cache.key_eq_ok_iff.2 ⟨⟨by decide, Value.unkeyed?_map (by decide +kernel) written, by decide +kernel⟩, rfl⟩
  have key' : Cache.key "page" (.int 1) (.map [(.text "m", sampleMap), (.text "s", sampleSet)]) = .ok _ :=
    Cache.key_eq_ok_iff.2 ⟨⟨by decide, Value.unkeyed?_map (by decide +kernel) fun e mem => written e (by
      simpa [or_comm] using mem), by decide +kernel⟩, rfl⟩
  rw [← texts] at key'
  refine ⟨merged, merged', Template.page_eq_of_key merged merged' key key' (fun _ => texts) (fun _ => by rw [texts]) ?_
    twoOutputs⟩
  intro name v w found found'
  rw [lookup?_pair] at found found'
  by_cases s : "s" = name
  · subst s
    cases found
    cases found'
    exact sameShape_sampleSet
  · by_cases m : "m" = name
    · subst m
      cases found
      cases found'
      exact sameShape_sampleMap
    · rw [if_neg s, if_neg m] at found
      cases found

namespace Cache

/-- The key of a page for named values. -/
def keyFor (named : List (String × Value)) : Option String :=
  ((Template.mergeArguments [] named).bind fun data => Cache.key "page" (.int 1) (.map data)).toOption

/-- The page that a text, read as a template, gives for named values. -/
def pageFor (source : String) (named : List (String × Value)) : Option String :=
  ((Template.read FilterTable.standard true false ⟨some "page", none⟩ source).bind fun t =>
    (Template.mergeArguments [] named).bind t.page).toOption

/-- Two data have one key, and the pages that a template gives for them differ. -/
def OneKeyTwoPages (source : String) (named named' : List (String × Value)) : Prop :=
  ∃ key page page', keyFor named = some key ∧ keyFor named' = some key ∧
    pageFor source named = some page ∧ pageFor source named' = some page' ∧ page ≠ page'

section Pages

variable {source : String} {named named' : List (String × Value)}

/-- Data that are not too deep, have canonical texts and have one form have one key. -/
theorem oneKeyTwoPages_of_form_eq {data data' : Scope} (merged : Template.mergeArguments [] named = .ok data)
    (merged' : Template.mergeArguments [] named' = .ok data')
    (flat : (Value.map data).depth ≤ Value.usualDepth ∧ (Value.map data).unkeyed? = none)
    (flat' : (Value.map data').depth ≤ Value.usualDepth ∧ (Value.map data').unkeyed? = none)
    (forms : (Value.map data).form = (Value.map data').form)
    (pages : (pageFor source named).isSome ∧ (pageFor source named').isSome
      ∧ pageFor source named ≠ pageFor source named') : OneKeyTwoPages source named named' := by
  have found : ∀ {named : List (String × Value)} {data : Scope}, Template.mergeArguments [] named = .ok data →
      (Value.map data).depth ≤ Value.usualDepth ∧ (Value.map data).unkeyed? = none → keyFor named =
        some (Sha256.ofText (keyMaterial "page" (.int 1) (Sha256.ofText (Value.map data).canonical))) := by
    intro named data merged flat
    rw [keyFor, merged]
    exact congrArg Except.toOption (key_eq_ok_iff.2 ⟨⟨flat.1, flat.2, by decide +kernel⟩, rfl⟩)
  obtain ⟨made, made', differ⟩ := pages
  obtain ⟨page, is⟩ := Option.isSome_iff_exists.1 made
  obtain ⟨page', is'⟩ := Option.isSome_iff_exists.1 made'
  refine ⟨_, page, page', found merged flat, ?_, is, is', fun same => differ (by rw [is, is', same])⟩
  rw [found merged' flat', Value.canonical_eq_iff.2 forms]

/-- The value may stand by itself in data that has a key. -/
def IsKeyed (v : Value) : Prop :=
  v.depth < Value.usualDepth ∧ v.unordered? = none ∧ v.uncanonical? = none

instance (v : Value) : Decidable (IsKeyed v) :=
  inferInstanceAs (Decidable (_ ∧ _))

/-- A map whose values have canonical texts is one of these. -/
theorem isKeyed_map {entries : List (Value × Value)} (flat : (Value.map entries).depth < Value.usualDepth)
    (ordered : (Value.map entries).unordered? = none) (all : ∀ e ∈ entries, e.2.uncanonical? = none) :
    IsKeyed (.map entries) :=
  ⟨flat, ordered, Value.uncanonical?_map all⟩

/-- The same for data with a single value. -/
theorem oneKeyTwoPages_of_value {v w : Value} (keyed : IsKeyed v) (keyed' : IsKeyed w)
    (form : v.form = w.form) (pages : (pageFor source [("m", v)]).isSome ∧ (pageFor source [("m", w)]).isSome
      ∧ pageFor source [("m", v)] ≠ pageFor source [("m", w)]) : OneKeyTwoPages source [("m", v)] [("m", w)] := by
  have merged : ∀ v : Value, Template.mergeArguments [] [("m", v)] = .ok [(.text "m", v)] := fun _ => rfl
  have single {v : Value} (keyed : IsKeyed v) :
      (Value.map [(.text "m", v)]).depth ≤ Value.usualDepth ∧ (Value.map [(.text "m", v)]).unkeyed? = none := by
    obtain ⟨flat, ordered, written⟩ := keyed
    refine ⟨by simpa [Value.depth, Value.depthEntries] using Nat.succ_le_of_lt flat, Value.unkeyed?_map ?_ ?_⟩
    · rw [Value.unordered?, Value.unorderedMember?_eq_none_iff]
      simpa [Value.undisplayed?, Value.unshown?] using ordered
    · simpa using written
  refine oneKeyTwoPages_of_form_eq (merged v) (merged w) (single keyed) (single keyed') ?_ pages
  simp only [Value.form, Value.formEntries, form]

end Pages

/-- Of two members of one name the last one counts. -/
theorem ofMembers_pair (name : String) (f g : Form) :
    Form.ofMembers [(name, f), (name, g)] = .object [(name, g)] := by
  rw [Form.ofMembers, Value.objectMembers, List.mergeSort_of_pairwise (by simp)]
  exact congrArg Form.object (if_pos rfl)

set_option maxRecDepth 100000 in
/-- One key stands for different pages: the data differ in the order of the entries of an inner map or of the items
of a set, in the value of a key that another is shown like, in the kind of a text, of a sequence or of a value that
is shown as a text, or in which objects are the same. -/
theorem pages_of_one_key :
    OneKeyTwoPages "\x7bm\x7d" [("m", .map [(.text "a", .int 1), (.text "b", .int 2)])]
        [("m", .map [(.text "b", .int 2), (.text "a", .int 1)])]
      ∧ OneKeyTwoPages "\x7bm\x7d" [("m", .set false [.int 1, .int 2])] [("m", .set false [.int 2, .int 1])]
      ∧ OneKeyTwoPages "\x7bm\x7d" [("m", .map [(.foreign 0 false "x", .int 1), (.foreign 1 false "x", .int 2)])]
        [("m", .map [(.foreign 0 false "x", .int 3), (.foreign 1 false "x", .int 2)])]
      ∧ OneKeyTwoPages "\x7bm\x7d" [("m", .markup "<")] [("m", .text "<")]
      ∧ OneKeyTwoPages "\x7bm\x7d" [("m", .tuple [.int 1])] [("m", .list [.int 1])]
      ∧ OneKeyTwoPages "\x7bm\x7d" [("m", .set false [.int 1])] [("m", .list [.int 1])]
      ∧ OneKeyTwoPages "\x7bm\x7d" [("m", .set false [.int 1])] [("m", .set true [.int 1])]
      ∧ OneKeyTwoPages "\x7bm\x7d" [("m", .undefined)] [("m", .text "UNDEFINED")]
      ∧ OneKeyTwoPages "\x7bm\x7d" [("m", .loop ⟨0, 1⟩)]
        [("m", .map ((LoopState.entries ⟨0, 1⟩).map fun (k, v) => (.text k, v)))]
      ∧ OneKeyTwoPages "\x7b% if m == \"b'x'\" %\x7dyes\x7b% endif %\x7d" [("m", .bytes [120])] [("m", .text "b'x'")]
      ∧ OneKeyTwoPages "\x7b% if m == 'x' %\x7dyes\x7b% endif %\x7d" [("m", .foreign 0 false "x")] [("m", .text "x")]
      ∧ OneKeyTwoPages "\x7b% if m == n %\x7dyes\x7b% endif %\x7d" [("m", .foreign 0 false "x"), ("n", .foreign 0 false "x")]
        [("m", .foreign 0 false "x"), ("n", .foreign 1 false "x")]
      ∧ OneKeyTwoPages "\x7b% if m == n %\x7dyes\x7b% endif %\x7d" [("m", .list [.notANumber 0]), ("n", .list [.notANumber 0])]
        [("m", .list [.notANumber 0]), ("n", .list [.notANumber 1])] := by
  refine ⟨?entries, ?items, ?name, ?trusted, ?tuple, ?set, ?frozen, ?absent, ?loop, ?bytes, ?shown, ?objects, ?numbers⟩
  case entries =>
    exact oneKeyTwoPages_of_value (isKeyed_map (by decide) (by decide +kernel) (by decide +kernel))
      (isKeyed_map (by decide) (by decide +kernel) (by decide +kernel))
      (Form.ofMembers_eq_of_perm (.swap _ _ _) (by decide)) (by decide +kernel)
  case items =>
    exact oneKeyTwoPages_of_value (by decide +kernel) (by decide +kernel)
      (congrArg Form.array (Form.mergeSort_eq_of_perm Form.write (.swap _ _ _)
        fun _ _ _ _ same => Form.write_injective same)) (by decide +kernel)
  case name =>
    exact oneKeyTwoPages_of_value (isKeyed_map (by decide) (by decide +kernel) (by decide +kernel))
      (isKeyed_map (by decide) (by decide +kernel) (by decide +kernel))
      ((ofMembers_pair _ _ _).trans (ofMembers_pair _ _ _).symm) (by decide +kernel)
  case set =>
    exact oneKeyTwoPages_of_value (by decide +kernel) (by decide +kernel)
      (congrArg Form.array (List.mergeSort_singleton _)) (by decide +kernel)
  case loop =>
    exact oneKeyTwoPages_of_value (by decide +kernel)
      (isKeyed_map (by decide) (by decide +kernel) (by decide +kernel)) rfl (by decide +kernel)
  case objects | numbers =>
    exact oneKeyTwoPages_of_form_eq rfl rfl ⟨by decide, Value.unkeyed?_map (by decide +kernel) (by decide +kernel)⟩
      ⟨by decide, Value.unkeyed?_map (by decide +kernel) (by decide +kernel)⟩ rfl (by decide +kernel)
  all_goals exact oneKeyTwoPages_of_value (by decide +kernel) (by decide +kernel) rfl (by decide +kernel)

end Cache

end Stencil
