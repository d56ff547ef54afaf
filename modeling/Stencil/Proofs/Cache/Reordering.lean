import Stencil.Proofs.Cache.Entries
import Stencil.Proofs.Cache.Soundness

/-!
# Keys and the order of entries

`Value.Reordered` relates values that differ only in the order of the entries of maps and of the items of sets, at
any depth and inside one another. A key of the cache does not depend on that order (`Cache.key_eq_of_reordered`),
and for data as JSON has it the order is all that a key does not tell (`Cache.key_eq_iff`).
-/

namespace Stencil

namespace Value

mutual

/-- The values differ at most in the order of the entries of maps and of the items of sets; the keys of maps are
not looked into. -/
inductive Reordered : Value → Value → Prop
  | refl (v : Value) : Reordered v v
  | list {items others : List Value} (each : ReorderedItems items others) : Reordered (.list items) (.list others)
  | tuple {items others : List Value} (each : ReorderedItems items others) : Reordered (.tuple items) (.tuple others)
  | set {frozen : Bool} {items between others : List Value} (each : ReorderedItems items between)
    (perm : between.Perm others) : Reordered (.set frozen items) (.set frozen others)
  | map {entries between others : List (Value × Value)} (each : ReorderedEntries entries between)
    (perm : between.Perm others) : Reordered (.map entries) (.map others)

/-- The items at each place differ at most in the order inside of them. -/
inductive ReorderedItems : List Value → List Value → Prop
  | nil : ReorderedItems [] []
  | cons {v w : Value} {rest others : List Value} (first : Reordered v w) (more : ReorderedItems rest others) :
    ReorderedItems (v :: rest) (w :: others)

/-- The entries at each place have the same key, and their values differ at most in the order inside of them. -/
inductive ReorderedEntries : List (Value × Value) → List (Value × Value) → Prop
  | nil : ReorderedEntries [] []
  | cons {k v w : Value} {rest others : List (Value × Value)} (first : Reordered v w)
    (more : ReorderedEntries rest others) : ReorderedEntries ((k, v) :: rest) ((k, w) :: others)

end

mutual

/-- Have the keys of each map in the value names of their own? The keys themselves are not looked into. -/
def keysApart : Value → Bool
  | list items | tuple items | set _ items => keysApartItems items
  | map entries => (keyNames entries).Nodup && keysApartEntries entries
  | _ => true

/-- Have the keys of each map in the items names of their own? -/
def keysApartItems : List Value → Bool
  | [] => true
  | v :: rest => keysApart v && keysApartItems rest

/-- Have the keys of each map in the values of the entries names of their own? -/
def keysApartEntries : List (Value × Value) → Bool
  | [] => true
  | (_, v) :: rest => keysApart v && keysApartEntries rest

end

/-- Is the value a plain text? -/
def isText : Value → Bool
  | text _ => true
  | _ => false

mutual

/-- Is the value data as JSON has it: a scalar, a text, a list, or a map whose keys are different texts? -/
def isJson : Value → Bool
  | null | bool _ | int _ | float (.finite _ _) | text _ => true
  | list items => isJsonItems items
  | map entries => (keyNames entries).Nodup && isJsonEntries entries
  | _ => false

/-- Are the items data as JSON has it? -/
def isJsonItems : List Value → Bool
  | [] => true
  | v :: rest => isJson v && isJsonItems rest

/-- Are the keys of the entries texts and their values data as JSON has it? -/
def isJsonEntries : List (Value × Value) → Bool
  | [] => true
  | (k, v) :: rest => isText k && isJson v && isJsonEntries rest

end

theorem formItems_eq_map (items : List Value) : formItems items = items.map form := by
  induction items with
  | nil => rfl
  | cons v rest ih => rw [formItems, ih, List.map_cons]

/-! ## What the order does not change -/

mutual

/-- Values that differ in order only have the same form, if keys have names of their own. -/
theorem form_eq_of_reordered : ∀ {v w : Value}, Reordered v w → v.keysApart → v.form = w.form
  | _, _, .refl v, _ => rfl
  | _, _, .list each, apart | _, _, .tuple each, apart => congrArg Form.array (formItems_eq_of_reordered each apart)
  | _, _, .set each perm, apart => by
    have forms := perm.map form
    rw [← formItems_eq_map, ← formItems_eq_map] at forms
    rw [form, form, formItems_eq_of_reordered each apart,
      Form.mergeSort_eq_of_perm Form.write forms fun _ _ _ _ same => Form.write_injective same]
  | _, _, .map each perm, apart => by
    obtain ⟨nodup, apart⟩ := (Bool.and_eq_true _ _).mp apart
    have forms := perm.map fun (k, v) => (keyName k, form v)
    rw [← formEntries_eq_map, ← formEntries_eq_map] at forms
    have same := formEntries_eq_of_reordered each apart
    rw [form, form, same]
    refine Form.ofMembers_eq_of_perm forms ?_
    rw [← same, map_fst_formEntries]
    exact of_decide_eq_true nodup

theorem formItems_eq_of_reordered :
    ∀ {items others : List Value}, ReorderedItems items others → keysApartItems items →
      formItems items = formItems others
  | _, _, .nil, _ => rfl
  | _, _, .cons first more, apart => by
    obtain ⟨apart, apart'⟩ := (Bool.and_eq_true _ _).mp apart
    rw [formItems, formItems, form_eq_of_reordered first apart, formItems_eq_of_reordered more apart']

theorem formEntries_eq_of_reordered :
    ∀ {entries others : List (Value × Value)}, ReorderedEntries entries others → keysApartEntries entries →
      formEntries entries = formEntries others
  | _, _, .nil, _ => rfl
  | _, _, .cons first more, apart => by
    obtain ⟨apart, apart'⟩ := (Bool.and_eq_true _ _).mp apart
    rw [formEntries, formEntries, form_eq_of_reordered first apart, formEntries_eq_of_reordered more apart']

end

theorem depthItems_eq_of_perm {items others : List Value} (perm : items.Perm others) :
    depthItems items = depthItems others := by
  induction perm with
  | nil => rfl
  | cons v _ ih => rw [depthItems, depthItems, ih]
  | swap v w rest => exact Nat.max_left_comm _ _ _
  | trans _ _ ih ih' => exact ih.trans ih'

theorem depthEntries_eq_depthItems (entries : List (Value × Value)) :
    depthEntries entries = depthItems (entries.map (·.2)) := by
  induction entries with
  | nil => rfl
  | cons e rest ih => rw [depthEntries, ih, List.map_cons, depthItems]

mutual

/-- Values that differ in order only are nested equally deep. -/
theorem depth_eq_of_reordered : ∀ {v w : Value}, Reordered v w → v.depth = w.depth
  | _, _, .refl v => rfl
  | _, _, .list each | _, _, .tuple each => congrArg Nat.succ (depthItems_eq_of_reordered each)
  | _, _, .set each perm =>
    congrArg Nat.succ ((depthItems_eq_of_reordered each).trans (depthItems_eq_of_perm perm))
  | _, _, .map each perm => by
    rw [depth, depth, depthEntries_eq_of_reordered each, depthEntries_eq_depthItems, depthEntries_eq_depthItems,
      depthItems_eq_of_perm (perm.map _)]

theorem depthItems_eq_of_reordered :
    ∀ {items others : List Value}, ReorderedItems items others → depthItems items = depthItems others
  | _, _, .nil => rfl
  | _, _, .cons first more => by
    rw [depthItems, depthItems, depth_eq_of_reordered first, depthItems_eq_of_reordered more]

theorem depthEntries_eq_of_reordered :
    ∀ {entries others : List (Value × Value)}, ReorderedEntries entries others →
      depthEntries entries = depthEntries others
  | _, _, .nil => rfl
  | _, _, .cons first more => by
    rw [depthEntries, depthEntries, depth_eq_of_reordered first, depthEntries_eq_of_reordered more]

end

theorem keyNames_eq_of_reordered :
    ∀ {entries others : List (Value × Value)}, ReorderedEntries entries others → keyNames entries = keyNames others
  | _, _, .nil => rfl
  | _, _, .cons _ more => congrArg (List.cons _) (keyNames_eq_of_reordered more)

mutual

/-- Of values that differ in order only both have canonical texts or neither, if keys have names of their own. -/
theorem uncanonical?_eq_none_iff_of_reordered :
    ∀ {v w : Value}, Reordered v w → v.keysApart → (v.uncanonical? = none ↔ w.uncanonical? = none)
  | _, _, .refl v, _ => Iff.rfl
  | _, _, .list each, apart | _, _, .tuple each, apart => by
    rw [uncanonical?, uncanonical?]
    exact uncanonicalItem?_eq_none_iff_of_reordered each apart
  | _, _, .set each perm, apart => by
    rw [uncanonical?, uncanonical?, uncanonicalItem?_eq_none_iff_of_reordered each apart, uncanonicalItem?_eq_none_iff,
      uncanonicalItem?_eq_none_iff]
    exact forall_congr' fun v => imp_congr_left perm.mem_iff
  | _, _, .map each perm, apart => by
    obtain ⟨nodup, apart⟩ := (Bool.and_eq_true _ _).mp apart
    replace nodup := of_decide_eq_true nodup
    have nodup' := nodup
    rw [keyNames_eq_of_reordered each] at nodup'
    rw [uncanonical?_map_eq_none_iff nodup, uncanonical?_map_eq_none_iff ((perm.map _).nodup_iff.1 nodup'),
      uncanonicalEntries_eq_none_iff_of_reordered each apart]
    exact forall_congr' fun e => imp_congr_left perm.mem_iff

theorem uncanonicalItem?_eq_none_iff_of_reordered :
    ∀ {items others : List Value}, ReorderedItems items others → keysApartItems items →
      (uncanonicalItem? items = none ↔ uncanonicalItem? others = none)
  | _, _, .nil, _ => Iff.rfl
  | _, _, .cons first more, apart => by
    obtain ⟨apart, apart'⟩ := (Bool.and_eq_true _ _).mp apart
    rw [uncanonicalItem?, uncanonicalItem?, Option.or_eq_none_iff, Option.or_eq_none_iff,
      uncanonical?_eq_none_iff_of_reordered first apart, uncanonicalItem?_eq_none_iff_of_reordered more apart']

theorem uncanonicalEntries_eq_none_iff_of_reordered :
    ∀ {entries others : List (Value × Value)}, ReorderedEntries entries others → keysApartEntries entries →
      ((∀ e ∈ entries, e.2.uncanonical? = none) ↔ ∀ e ∈ others, e.2.uncanonical? = none)
  | _, _, .nil, _ => Iff.rfl
  | _, _, .cons first more, apart => by
    obtain ⟨apart, apart'⟩ := (Bool.and_eq_true _ _).mp apart
    rw [List.forall_mem_cons, List.forall_mem_cons, uncanonical?_eq_none_iff_of_reordered first apart,
      uncanonicalEntries_eq_none_iff_of_reordered more apart']

end

mutual

/-- Of values that differ in order only both can be brought into the canonical order or neither. -/
theorem unordered?_eq_none_iff_of_reordered :
    ∀ {v w : Value}, Reordered v w → v.keysApart → (v.unordered? = none ↔ w.unordered? = none)
  | _, _, .refl v, _ => Iff.rfl
  | _, _, .list each, apart | _, _, .tuple each, apart => by
    rw [unordered?, unordered?]
    exact unorderedItem?_eq_none_iff_of_reordered each apart
  | _, _, .set each perm, apart => by
    rw [unordered?, unordered?, Option.or_eq_none_iff, Option.or_eq_none_iff,
      unorderedItem?_eq_none_iff_of_reordered each apart, uncanonicalItem?_eq_none_iff_of_reordered each apart,
      unorderedItem?_eq_none_iff, unorderedItem?_eq_none_iff, uncanonicalItem?_eq_none_iff,
      uncanonicalItem?_eq_none_iff]
    exact and_congr (forall_congr' fun v => imp_congr_left perm.mem_iff)
      (forall_congr' fun v => imp_congr_left perm.mem_iff)
  | _, _, .map each perm, apart => by
    obtain ⟨-, apart⟩ := (Bool.and_eq_true _ _).mp apart
    rw [unordered?, unordered?, unorderedMember?_eq_none_iff_of_reordered each apart, unorderedMember?_eq_none_iff,
      unorderedMember?_eq_none_iff]
    exact forall_congr' fun e => imp_congr_left perm.mem_iff

theorem unorderedItem?_eq_none_iff_of_reordered :
    ∀ {items others : List Value}, ReorderedItems items others → keysApartItems items →
      (unorderedItem? items = none ↔ unorderedItem? others = none)
  | _, _, .nil, _ => Iff.rfl
  | _, _, .cons first more, apart => by
    obtain ⟨apart, apart'⟩ := (Bool.and_eq_true _ _).mp apart
    rw [unorderedItem?, unorderedItem?, Option.or_eq_none_iff, Option.or_eq_none_iff,
      unordered?_eq_none_iff_of_reordered first apart, unorderedItem?_eq_none_iff_of_reordered more apart']

theorem unorderedMember?_eq_none_iff_of_reordered :
    ∀ {entries others : List (Value × Value)}, ReorderedEntries entries others → keysApartEntries entries →
      (unorderedMember? entries = none ↔ unorderedMember? others = none)
  | _, _, .nil, _ => Iff.rfl
  | _, _, .cons first more, apart => by
    obtain ⟨apart, apart'⟩ := (Bool.and_eq_true _ _).mp apart
    rw [unorderedMember?, unorderedMember?, Option.or_eq_none_iff, Option.or_eq_none_iff, Option.or_eq_none_iff,
      Option.or_eq_none_iff, unordered?_eq_none_iff_of_reordered first apart,
      unorderedMember?_eq_none_iff_of_reordered more apart']

end

/-- Of values that differ in order only something keeps both from having a canonical text or neither. -/
theorem unkeyed?_eq_none_iff_of_reordered {v w : Value} (moved : Reordered v w) (apart : v.keysApart) :
    v.unkeyed? = none ↔ w.unkeyed? = none := by
  rw [unkeyed?, unkeyed?, Option.or_eq_none_iff, Option.or_eq_none_iff, unordered?_eq_none_iff_of_reordered moved apart,
    uncanonical?_eq_none_iff_of_reordered moved apart]

/-! ## What only the order changes -/

theorem isJsonEntries_cons {k v : Value} {rest : List (Value × Value)} :
    isJsonEntries ((k, v) :: rest) ↔ (k.isText ∧ v.isJson) ∧ isJsonEntries rest := by
  rw [isJsonEntries, Bool.and_eq_true, Bool.and_eq_true]

theorem isJson_of_mem {entries : List (Value × Value)} (json : isJsonEntries entries) {e : Value × Value}
    (mem : e ∈ entries) : e.2.isJson := by
  induction entries with
  | nil => cases mem
  | cons first rest ih =>
    obtain ⟨⟨-, json⟩, more⟩ := isJsonEntries_cons.1 json
    rcases List.mem_cons.1 mem with rfl | mem
    · exact json
    · exact ih more mem

/-- No other key has the name of a plain text. -/
theorem eq_of_isText {k l : Value} (isText : k.isText) (same : keyName l = keyName k) : l = k := by
  cases k with
  | text s => exact eq_of_keyName_eq rfl same
  | _ => cases isText

/-- Lists of entries with names of their own are the same, up to the order, if they have the same names and one holds
the entries of the other. -/
theorem perm_of_keyNames {entries others : List (Value × Value)} (nodup : (keyNames entries).Nodup)
    (nodup' : (keyNames others).Nodup) (names : ∀ name ∈ keyNames others, name ∈ keyNames entries)
    (sub : ∀ e ∈ entries, e ∈ others) : entries.Perm others := by
  refine (List.perm_ext_iff_of_nodup (List.Nodup.of_map _ nodup) (List.Nodup.of_map _ nodup')).2 fun e => ?_
  refine ⟨sub e, fun mem => ?_⟩
  obtain ⟨e', inside, name⟩ := List.mem_map.1 (names _ (List.mem_map_of_mem mem))
  rwa [← List.inj_on_of_nodup_map nodup' (sub e' inside) mem name]

/-- The value whose form is an atom. -/
def ofAtom : Atom → Value
  | .null => null
  | .bool b => bool b
  | .int i => int i
  | .float x => float x
  | .notANumber => notANumber 0

theorem eq_ofAtom_of_form_eq {v : Value} {a : Atom} (json : v.isJson) (same : v.form = .atom a) : v = ofAtom a := by
  cases v with
  | null | bool _ | int _ | float _ =>
    cases same
    rfl
  | text _ | list _ | map _ => cases same
  | _ => cases json

theorem eq_text_of_form_eq {v : Value} {s : String} (json : v.isJson) (same : v.form = .text s) : v = text s := by
  cases v with
  | text _ =>
    cases same
    rfl
  | null | bool _ | int _ | float _ | list _ | map _ => cases same
  | _ => cases json

mutual

/-- JSON data of the same form differs in the order of entries only. -/
theorem reordered_of_form_eq : ∀ {v w : Value}, v.isJson → w.isJson → v.form = w.form → Reordered v w
  | null, w, _, json, same | bool _, w, _, json, same | int _, w, _, json, same | float _, w, _, json, same => by
    rw [eq_ofAtom_of_form_eq json same.symm]
    exact .refl _
  | text _, w, _, json, same => by
    rw [eq_text_of_form_eq json same.symm]
    exact .refl _
  | list items, w, json, json', same => by
    cases w with
    | list others => exact .list (reorderedItems_of_form_eq json json' (Form.array.inj same))
    | null | bool _ | int _ | float _ | text _ | map _ => cases same
    | _ => cases json'
  | map entries, w, json, json', same => by
    cases w with
    | map others =>
      obtain ⟨nodup, json⟩ := (Bool.and_eq_true _ _).mp json
      obtain ⟨nodup', json'⟩ := (Bool.and_eq_true _ _).mp json'
      replace nodup := of_decide_eq_true nodup
      replace nodup' := of_decide_eq_true nodup'
      obtain ⟨between, each, sub⟩ := exists_reorderedEntries json json' (keyNames_subset nodup same).1
      refine .map each (perm_of_keyNames ?_ nodup' (fun name mem => ?_) sub)
      · rwa [← keyNames_eq_of_reordered each]
      · rw [← keyNames_eq_of_reordered each]
        exact (keyNames_subset nodup' same.symm).2 name mem
    | null | bool _ | int _ | float _ | text _ | list _ => cases same
    | _ => cases json'
  | undefined, _, json, _, _ | notANumber _, _, json, _, _ | markup _, _, json, _, _ | bytes _, _, json, _, _
  | tuple _, _, json, _, _ | set _ _, _, json, _, _ | loop _, _, json, _, _ | foreign _ _ _, _, json, _, _ => by
    cases json

theorem reorderedItems_of_form_eq :
    ∀ {items others : List Value}, isJsonItems items → isJsonItems others → formItems items = formItems others →
      ReorderedItems items others
  | [], [], _, _, _ => .nil
  | [], _ :: _, _, _, same | _ :: _, [], _, _, same => by cases same
  | v :: rest, w :: others, json, json', same => by
    obtain ⟨json, more⟩ := (Bool.and_eq_true _ _).mp json
    obtain ⟨json', more'⟩ := (Bool.and_eq_true _ _).mp json'
    obtain ⟨first, rest⟩ := List.cons.inj same
    exact .cons (reordered_of_form_eq json json' first) (reorderedItems_of_form_eq more more' rest)

/-- The entries that others have under the same names, in the order of the names. -/
theorem exists_reorderedEntries :
    ∀ {entries others : List (Value × Value)}, isJsonEntries entries → isJsonEntries others →
      (∀ m ∈ formEntries entries, m ∈ formEntries others) →
      ∃ between, ReorderedEntries entries between ∧ ∀ e ∈ between, e ∈ others
  | [], _, _, _, _ => ⟨[], .nil, nofun⟩
  | (k, v) :: rest, others, json, json', sub => by
    obtain ⟨⟨isText, first⟩, more⟩ := isJsonEntries_cons.1 json
    obtain ⟨between, each, inside⟩ :=
      exists_reorderedEntries more json' fun m mem => sub m (List.mem_cons_of_mem _ mem)
    have found := sub (keyName k, v.form) List.mem_cons_self
    rw [formEntries_eq_map] at found
    obtain ⟨⟨l, w⟩, mem, member⟩ := List.mem_map.1 found
    obtain ⟨name, form⟩ := Prod.mk.inj member
    obtain rfl := eq_of_isText isText name
    exact ⟨(l, w) :: between, .cons (reordered_of_form_eq first (isJson_of_mem json' mem) form.symm) each,
      List.forall_mem_cons.2 ⟨mem, inside⟩⟩

end

mutual

theorem keysApart_of_isJson : ∀ {v : Value}, v.isJson → v.keysApart
  | null, _ | bool _, _ | int _, _ | float _, _ | text _, _ => rfl
  | list items, json => show keysApartItems items from keysApartItems_of_isJson json
  | map entries, json => by
    obtain ⟨nodup, json⟩ := (Bool.and_eq_true _ _).mp json
    exact (Bool.and_eq_true _ _).mpr ⟨nodup, keysApartEntries_of_isJson json⟩

theorem keysApartItems_of_isJson : ∀ {items : List Value}, isJsonItems items → keysApartItems items
  | [], _ => rfl
  | v :: rest, json => by
    obtain ⟨json, more⟩ := (Bool.and_eq_true _ _).mp json
    exact (Bool.and_eq_true _ _).mpr ⟨keysApart_of_isJson json, keysApartItems_of_isJson more⟩

theorem keysApartEntries_of_isJson :
    ∀ {entries : List (Value × Value)}, isJsonEntries entries → keysApartEntries entries
  | [], _ => rfl
  | (k, v) :: rest, json => by
    obtain ⟨⟨-, json⟩, more⟩ := isJsonEntries_cons.1 json
    exact (Bool.and_eq_true _ _).mpr ⟨keysApart_of_isJson json, keysApartEntries_of_isJson more⟩

end

/-- JSON data has the same canonical text exactly if it differs in the order of entries only. -/
theorem canonical_eq_iff_reordered {v w : Value} (json : v.isJson) (json' : w.isJson) :
    v.canonical = w.canonical ↔ Reordered v w :=
  canonical_eq_iff.trans ⟨reordered_of_form_eq json json',
    fun moved => form_eq_of_reordered moved (keysApart_of_isJson json)⟩

/-- Can the value be the time that a template was last changed: a floating-point number or nothing? -/
def isTime : Value → Bool
  | null | float _ | notANumber _ => true
  | _ => false

theorem nul_not_mem_inspect {v : Value} (time : v.isTime) : '\x00' ∉ v.inspect.toList := by
  cases v with
  | null => decide
  | notANumber _ => exact show '\x00' ∉ "nan".toList by decide
  | float x =>
    rw [inspect, Layout.toList_text, List.mem_append, not_or]
    constructor
    · split <;> decide
    · cases x with
      | finite negative m =>
        intro mem
        rcases Layout.mem_magnitude _ mem with digit | mark
        · exact absurd digit (by decide)
        · exact absurd mark (by decide)
      | infinite negative => exact show '\x00' ∉ "inf".toList by decide
  | _ => cases time

end Value

/-! ## Keys -/

namespace Cache

/-- What stands on the two sides of the last separator of a text. -/
theorem append_injective_of_last {α : Type} {separator : α} {as bs as' bs' : List α} (last : separator ∉ bs)
    (last' : separator ∉ bs') (same : as ++ separator :: bs = as' ++ separator :: bs') : as = as' ∧ bs = bs' := by
  rcases List.append_eq_append_iff.1 same with ⟨rest, rfl, behind⟩ | ⟨rest, rfl, behind⟩
  · cases rest with
    | nil => exact ⟨(List.append_nil _).symm, (List.cons.inj behind).2⟩
    | cons c rest =>
      rw [List.cons_append, List.cons.injEq] at behind
      exact absurd (behind.2 ▸ List.mem_append_right _ List.mem_cons_self) last
  · cases rest with
    | nil => exact ⟨List.append_nil _, (List.cons.inj behind).2.symm⟩
    | cons c rest =>
      rw [List.cons_append, List.cons.injEq] at behind
      exact absurd (behind.2 ▸ List.mem_append_right _ List.mem_cons_self) last'

theorem toList_keyMaterial (path : String) (changed : Value) (digest : String) :
    (keyMaterial path changed digest).toList
      = (path.toList ++ '\x00' :: changed.inspect.toList) ++ '\x00' :: digest.toList := by
  simp [keyMaterial]

/-- What a key is a digest of tells its three parts, also where the path holds the separator. -/
theorem keyMaterial_eq_iff {path path' digest digest' : String} {changed changed' : Value} (time : changed.isTime)
    (time' : changed'.isTime) (plain : IsKey digest) (plain' : IsKey digest') :
    keyMaterial path changed digest = keyMaterial path' changed' digest' ↔
      path = path' ∧ changed.inspect = changed'.inspect ∧ digest = digest' := by
  have nulless : ∀ {digest : String}, IsKey digest → '\x00' ∉ digest.toList := fun plain mem =>
    absurd (plain.digits _ mem) (by decide)
  constructor
  · intro same
    rw [← String.toList_inj, toList_keyMaterial, toList_keyMaterial] at same
    obtain ⟨front, digests⟩ := append_injective_of_last (nulless plain) (nulless plain') same
    obtain ⟨paths, times⟩ :=
      append_injective_of_last (Value.nul_not_mem_inspect time) (Value.nul_not_mem_inspect time') front
    exact ⟨String.toList_inj.1 paths, String.toList_inj.1 times, String.toList_inj.1 digests⟩
  · rintro ⟨rfl, times, rfl⟩
    rw [keyMaterial, keyMaterial, times]

variable {path path' key key' : String} {changed changed' data data' : Value} {room room' : Nat}

/-- The keys of two JSON data are the same exactly if path, time and data are the same, the data up to the order of
entries at any depth, as far as SHA-256 tells the texts that the keys are made from apart. -/
theorem key_eq_iff (is : Cache.key path changed data room = .ok key)
    (is' : Cache.key path' changed' data' room' = .ok key')
    (time : changed.isTime) (time' : changed'.isTime) (json : data.isJson) (json' : data'.isJson)
    (apart : Sha256.TellsApart data.canonical data'.canonical)
    (apart' : Sha256.TellsApart (keyMaterial path changed (Sha256.ofText data.canonical))
      (keyMaterial path' changed' (Sha256.ofText data'.canonical))) :
    key = key' ↔ path = path' ∧ changed.inspect = changed'.inspect ∧ Value.Reordered data data' := by
  have digests : Sha256.ofText data.canonical = Sha256.ofText data'.canonical ↔ Value.Reordered data data' := by
    rw [← Value.canonical_eq_iff_reordered json json']
    exact ⟨apart, congrArg _⟩
  rw [(key_eq_ok_iff.1 is).2, (key_eq_ok_iff.1 is').2, ← digests,
    ← keyMaterial_eq_iff time time' (isKey_ofText _) (isKey_ofText _)]
  exact ⟨apart', congrArg _⟩

/-- Data as JSON has it. -/
def jsonSample : Value :=
  .map [(.text "a", .list [.int 1, .map [(.text "x", .null), (.text "y", .text "\x00")]]), (.text "b", .bool true)]

/-- The same data with its entries in another order. -/
def jsonReordered : Value :=
  .map [(.text "b", .bool true), (.text "a", .list [.int 1, .map [(.text "y", .text "\x00"), (.text "x", .null)]])]

theorem reordered_jsonReordered : Value.Reordered jsonSample jsonReordered :=
  .map (.cons (.list (.cons (.refl _) (.cons (.map (.cons (.refl _) (.cons (.refl _) .nil)) (.swap _ _ _)) .nil)))
    (.cons (.refl _) .nil)) (.swap _ _ _)

theorem unkeyed?_jsonSample : jsonSample.unkeyed? = none := by
  have inner : (Value.map [(.text "x", .null), (.text "y", .text "\x00")]).uncanonical? = none :=
    Value.uncanonical?_map (by decide +kernel)
  refine Value.unkeyed?_map (by decide +kernel) (List.forall_mem_cons.2 ⟨?_, by simp [Value.uncanonical?]⟩)
  have one : (Value.int 1).uncanonical? = none := by decide +kernel
  exact Value.uncanonicalItem?_eq_none_iff.2 (List.forall_mem_cons.2 ⟨one, List.forall_mem_singleton.2 inner⟩)

set_option maxRecDepth 100000 in
/-- Another order gives the same key, also under a path that holds the separator, and a value of another type gives
another key. -/
theorem key_eq_of_reordered_ne_of_retyped :
    jsonSample.isJson ∧ jsonReordered.isJson ∧ (∃ key key', Cache.key "a\x00b" .null jsonSample = .ok key
        ∧ Cache.key "a\x00b" .null jsonReordered = .ok key' ∧ key = key')
      ∧ ∃ key key', Cache.key "a\x00b" .null (.map [(.text "a", .int 1)]) = .ok key
        ∧ Cache.key "a\x00b" .null (.map [(.text "a", .bool true)]) = .ok key' ∧ key ≠ key' := by
  have json : jsonSample.isJson := by decide
  have json' : jsonReordered.isJson := by decide
  have made : ∀ {data : Value}, data.depth ≤ Value.usualDepth → data.unkeyed? = none →
      Cache.key "a\x00b" .null data = .ok _ := fun flat keyed => key_eq_ok_iff.2 ⟨⟨flat, keyed, rfl⟩, rfl⟩
  have texts := (Value.canonical_eq_iff_reordered json json').2 reordered_jsonReordered
  have keyed := made (by decide) unkeyed?_jsonSample
  have keyed' := made (by decide) ((Value.unkeyed?_eq_none_iff_of_reordered reordered_jsonReordered
    (Value.keysApart_of_isJson json)).1 unkeyed?_jsonSample)
  have single : ∀ v : Value, v.unordered? = none → v.uncanonical? = none →
      (Value.map [(.text "a", v)]).unkeyed? = none := fun v ordered written =>
    Value.unkeyed?_map (Value.unorderedMember?_eq_none_iff.2 (by simpa [Value.undisplayed?, Value.unshown?] using ordered))
      (by simpa using written)
  have int := made (by decide) (single (.int 1) rfl (by decide +kernel))
  have bool := made (by decide) (single (.bool true) rfl rfl)
  refine ⟨json, json', ⟨_, _, keyed, keyed', ?same⟩, _, _, int, bool, fun keys => ?other⟩
  case same =>
    exact (key_eq_iff keyed keyed' rfl rfl json json' (fun _ => texts) (fun _ => by rw [texts])).2
      ⟨rfl, rfl, reordered_jsonReordered⟩
  case other =>
    obtain ⟨-, -, moved⟩ := (key_eq_iff int bool rfl rfl (by decide) (by decide)
      (fun digests => absurd digests (by decide +kernel)) (fun digests => absurd digests (by decide +kernel))).1 keys
    have texts := (Value.canonical_eq_iff_reordered (by decide) (by decide)).2 moved
    exact absurd texts (by decide +kernel)

/-- The key does not depend on the order of the entries of maps and of the items of sets, at any depth and inside
one another, where the keys of each map have names of their own. Of data without a key the order only decides which of
the things that cannot be written is come by first. -/
theorem key_eq_of_reordered (moved : Value.Reordered data data') (apart : data.keysApart) :
    Cache.key path changed data room = Cache.key path changed data' room
      ∨ ∃ u u', Cache.key path changed data room = .error (.unwritten u)
        ∧ Cache.key path changed data' room = .error (.unwritten u') := by
  unfold Cache.key
  rw [← Value.depth_eq_of_reordered moved, ← Value.canonical_eq_iff.2 (Value.form_eq_of_reordered moved apart)]
  have alike := Value.unkeyed?_eq_none_iff_of_reordered moved apart
  split
  · exact .inl rfl
  · cases keyed : data.unkeyed? with
    | none =>
      rw [alike.1 keyed]
      exact .inl rfl
    | some u =>
      obtain ⟨u', keyed'⟩ := Option.ne_none_iff_exists'.1 fun none => Option.some_ne_none u (keyed.symm.trans (alike.2 none))
      rw [keyed']
      exact .inr ⟨u, u', rfl, rfl⟩

/-- Data in which maps and sets stand inside one another, under keys of several types. -/
def nestedSample : Value :=
  .map [(.text "s", .set false [.set true [.int 1, .int 2], .tuple [.set true [.text "1", .int 1]]]),
    (.int 1, .map [(.bool true, .null), (.text "1", .list [.set true [.text "a", .text "b"]])])]

/-- The same data with everything in another order. -/
def nestedReordered : Value :=
  .map [(.int 1, .map [(.text "1", .list [.set true [.text "b", .text "a"]]), (.bool true, .null)]),
    (.text "s", .set false [.tuple [.set true [.int 1, .text "1"]], .set true [.int 2, .int 1]])]

theorem reordered_nestedReordered : Value.Reordered nestedSample nestedReordered := by
  have pair : ∀ v w : Value, Value.Reordered (.set true [v, w]) (.set true [w, v]) := fun v w =>
    .set (.cons (.refl v) (.cons (.refl w) .nil)) (.swap _ _ _)
  have inner := Value.Reordered.map (.cons (k := .bool true) (.refl .null)
    (.cons (k := .text "1") (.list (.cons (pair (.text "a") (.text "b")) .nil)) .nil)) (.swap _ _ _)
  have items : Value.Reordered (.set false _) _ := .set (.cons (pair (.int 1) (.int 2))
    (.cons (.tuple (.cons (pair (.text "1") (.int 1)) .nil)) .nil)) (.swap _ _ _)
  exact .map (.cons items (.cons inner .nil)) (.swap _ _ _)

theorem unkeyed?_nestedSample : nestedSample.unkeyed? = none := by
  have inner : (Value.map [(.bool true, .null), (.text "1", .list [.set true [.text "a", .text "b"]])]).uncanonical?
      = none := Value.uncanonical?_map (by decide +kernel)
  refine Value.unkeyed?_map (by decide +kernel) (List.forall_mem_cons.2 ⟨by decide +kernel, ?_⟩)
  exact List.forall_mem_singleton.2 inner

theorem key_eq_of_reordered_nested :
    Value.Reordered nestedSample nestedReordered ∧ nestedSample.keysApart ∧
      ∃ key, Cache.key "page" .null nestedSample = .ok key ∧ Cache.key "page" .null nestedReordered = .ok key := by
  have apart : nestedSample.keysApart := by decide
  have made : Cache.key "page" .null nestedSample = .ok _ :=
    key_eq_ok_iff.2 ⟨⟨by decide, unkeyed?_nestedSample, rfl⟩, rfl⟩
  refine ⟨reordered_nestedReordered, apart, _, made, ?_⟩
  rcases key_eq_of_reordered reordered_nestedReordered apart with same | ⟨u, u', failed, -⟩
  · rw [← same, made]
  · rw [made] at failed
    cases failed

end Cache

end Stencil
