import Stencil.Proofs.Cache.Forms

/-!
# What canonical texts tell

The canonical text of a value is the text of its form (`Value.canonical_eq_write`), so values have the same
canonical text exactly if they have the same form (`Value.canonical_eq_iff`).

A form does not tell a trusted text from a plain one, a list from a tuple or a set, one order of entries from
another, or a value without a form of its own from the text it is shown as. `Value.SameShape` says of two values
that they differ in none of these ways; values of the same shape that have the same canonical text are the same
(`Value.eq_of_sameShape`).
-/

namespace Stencil

namespace Value

variable {α β : Type} {members : List (String × α)} {m : String × α}

theorem lastOfEach_map (f : α → β) (members : List (String × α)) :
    lastOfEach (members.map fun m => (m.1, f m.2)) = (lastOfEach members).map fun m => (m.1, f m.2) := by
  fun_induction lastOfEach members with
  | case1 f' m g rest ih =>
    rw [← ih]
    exact if_pos rfl
  | case2 n f' m g rest other ih =>
    rw [List.map_cons (l := lastOfEach _), ← ih]
    exact if_neg other
  | case3 members short =>
    cases members with
    | nil => rfl
    | cons m rest =>
      cases rest with
      | nil => rfl
      | cons m' rest => exact absurd rfl (short _ _ _ _ _)

theorem objectMembers_map (f : α → β) (members : List (String × α)) :
    objectMembers (members.map fun m => (m.1, f m.2)) = (objectMembers members).map fun m => (m.1, f m.2) := by
  have sorted : (members.map fun m => (m.1, f m.2)).mergeSort (fun a b => a.1 ≤ b.1)
      = (members.mergeSort fun a b => a.1 ≤ b.1).map fun m => (m.1, f m.2) := by
    refine (List.map_mergeSort ?_).symm
    exact fun _ _ _ _ => rfl
  rw [objectMembers, sorted, lastOfEach_map, objectMembers]

theorem mem_of_mem_lastOfEach (mem : m ∈ lastOfEach members) : m ∈ members := by
  fun_induction lastOfEach members with
  | case1 f m g rest ih => exact List.mem_cons_of_mem _ (ih mem)
  | case2 n f m g rest other ih =>
    rcases List.mem_cons.1 mem with rfl | mem
    · exact List.mem_cons_self
    · exact List.mem_cons_of_mem _ (ih mem)
  | case3 members short => exact mem

/-- A member stays if no other of its name differs from it. -/
theorem mem_lastOfEach {name : String} {a : α} (mem : (name, a) ∈ members)
    (only : ∀ b, (name, b) ∈ members → b = a) : (name, a) ∈ lastOfEach members := by
  fun_induction lastOfEach members with
  | case1 f' m g rest ih =>
    refine ih ?_ fun g' mem' => only g' (List.mem_cons_of_mem _ mem')
    rcases List.mem_cons.1 mem with same | mem
    · obtain ⟨rfl, rfl⟩ := same
      rw [only g (by simp)]
      exact List.mem_cons_self
    · exact mem
  | case2 n f' m g rest other ih =>
    rcases List.mem_cons.1 mem with same | mem
    · rw [same]
      exact List.mem_cons_self
    · exact List.mem_cons_of_mem _ (ih mem fun g' mem' => only g' (List.mem_cons_of_mem _ mem'))
  | case3 members short => exact mem

theorem mem_of_mem_objectMembers (mem : m ∈ objectMembers members) : m ∈ members :=
  List.mem_mergeSort.1 (mem_of_mem_lastOfEach mem)

theorem mem_objectMembers {name : String} {a : α} (mem : (name, a) ∈ members)
    (only : ∀ b, (name, b) ∈ members → b = a) : (name, a) ∈ objectMembers members :=
  mem_lastOfEach (List.mem_mergeSort.2 mem) fun b mem' => only b (List.mem_mergeSort.1 mem')

end Value

namespace Form

/-- The object with the given members, of which the last one of each name counts. -/
def ofMembers (members : List (String × Form)) : Form :=
  object (Value.objectMembers members)

/-- Sorting by names brings lists of the same things into the same order if each thing has a name of its own. -/
theorem mergeSort_eq_of_perm {α : Type} (name : α → String) {as bs : List α} (perm : as.Perm bs)
    (apart : ∀ a ∈ as, ∀ b ∈ as, name a = name b → a = b) :
    (as.mergeSort fun a b => name a ≤ name b) = bs.mergeSort fun a b => name a ≤ name b := by
  have sorted : ∀ cs : List α, (cs.mergeSort fun a b => name a ≤ name b).Pairwise fun a b => name a ≤ name b := by
    intro cs
    simpa only [decide_eq_true_eq] using @List.pairwise_mergeSort _ (fun a b => decide (name a ≤ name b))
      (fun a b c lower upper => decide_eq_true (String.le_trans (of_decide_eq_true lower) (of_decide_eq_true upper)))
      (fun a b => by simpa using String.le_total (name a) (name b)) cs
  refine List.Perm.eq_of_pairwise ?_ (sorted as) (sorted bs) ?_
  · intro a b mem mem' lower upper
    exact apart a (List.mem_mergeSort.1 mem) b (perm.mem_iff.2 (List.mem_mergeSort.1 mem'))
      (String.le_antisymm lower upper)
  · exact (List.mergeSort_perm _ _).trans (perm.trans (List.mergeSort_perm _ _).symm)

/-- The order of the members of an object does not matter if each has a name of its own. -/
theorem ofMembers_eq_of_perm {members others : List (String × Form)} (perm : members.Perm others)
    (nodup : (members.map (·.1)).Nodup) : ofMembers members = ofMembers others := by
  unfold ofMembers Value.objectMembers
  rw [mergeSort_eq_of_perm (·.1) perm fun a mem b mem' => List.inj_on_of_nodup_map nodup mem mem']

/-- A member in writing. -/
def writeMember (m : String × Form) : String × String :=
  (m.1, m.2.write)

theorem canonicalObject_map_writeMember (members : List (String × Form)) :
    Value.canonicalObject (members.map writeMember) = (ofMembers members).write := by
  have written : Value.objectMembers (members.map writeMember) = (Value.objectMembers members).map writeMember :=
    Value.objectMembers_map write members
  unfold Value.canonicalObject
  rw [written, ofMembers, write, writeMembers_eq_map, List.map_map]
  rfl

/-- A member that an object has by a name of its own is a member of every list that makes the same object. -/
theorem mem_of_ofMembers_eq {members others : List (String × Form)} {name : String} {f : Form}
    (same : ofMembers members = ofMembers others) (mem : (name, f) ∈ members)
    (only : ∀ g, (name, g) ∈ members → g = f) : (name, f) ∈ others := by
  have kept := Value.mem_objectMembers mem only
  rw [Form.object.inj same] at kept
  exact Value.mem_of_mem_objectMembers kept

end Form

namespace Value

/-- The form of a number, a truth value or the absent value. -/
def atom : Value → Atom
  | bool b => .bool b
  | int i => .int i
  | float x => .float x
  | notANumber _ => .notANumber
  | _ => .null

/-- The members of the form of a loop. -/
def loopMembers (s : LoopState) : List (String × Form) :=
  s.entries.map fun (name, v) => (keyName (text name), .atom v.atom)

mutual

/-- The form of a value. -/
def form : Value → Form
  | null => .atom .null
  | bool b => .atom (.bool b)
  | int i => .atom (.int i)
  | float x => .atom (.float x)
  | notANumber _ => .atom .notANumber
  | text s | markup s => .text s
  | list items | tuple items => .array (formItems items)
  | set _ items => .array ((formItems items).mergeSort fun f g => f.write ≤ g.write)
  | map entries => .ofMembers (formEntries entries)
  | loop s => .ofMembers (loopMembers s)
  | undefined => .text undefined.inspect
  | bytes bs => .text (bytes bs).inspect
  | foreign mark html portrait => .text (foreign mark html portrait).inspect

/-- The forms of items. -/
def formItems : List Value → List Form
  | [] => []
  | v :: rest => form v :: formItems rest

/-- The names of the keys and the forms of the values of entries. -/
def formEntries : List (Value × Value) → List (String × Form)
  | [] => []
  | (k, v) :: rest => (keyName k, form v) :: formEntries rest

end

theorem formEntries_eq_map (entries : List (Value × Value)) :
    formEntries entries = entries.map fun e => (keyName e.1, e.2.form) := by
  induction entries with
  | nil => rfl
  | cons e rest ih => rw [formEntries, ih, List.map_cons]

mutual

/-- The canonical text of a value is its form in writing. -/
theorem canonical_eq_write : ∀ v : Value, v.canonical = v.form.write
  | null | bool _ | int _ | float _ | notANumber _ | text _ | markup _ | undefined | bytes _ | foreign _ _ _ => by
    simp only [canonical, form, Form.write, Atom.write]
  | list items | tuple items => by
    rw [canonical, form, Form.write, canonicalItems_eq_write, Form.writeItems_eq_map]
  | set _ items => by
    have sorted : ((formItems items).mergeSort fun f g => f.write ≤ g.write).map Form.write
        = ((formItems items).map Form.write).mergeSort (· ≤ ·) := by
      refine List.map_mergeSort ?_
      exact fun _ _ _ _ => rfl
    rw [canonical, form, Form.write, canonicalItems_eq_write, Form.writeItems_eq_map, sorted]
  | map entries => by
    rw [canonical, form, canonicalEntries_eq_write, Form.canonicalObject_map_writeMember]
  | loop s => by
    rw [canonical, form, ← Form.canonicalObject_map_writeMember, loopMembers, List.map_map]
    congr 1

theorem canonicalItems_eq_write : ∀ items : List Value, canonicalItems items = (formItems items).map Form.write
  | [] => rfl
  | v :: rest => by
    rw [canonicalItems, formItems, List.map_cons, canonical_eq_write v, canonicalItems_eq_write rest]

theorem canonicalEntries_eq_write :
    ∀ entries : List (Value × Value), canonicalEntries entries = (formEntries entries).map Form.writeMember
  | [] => rfl
  | (k, v) :: rest => by
    rw [canonicalEntries, formEntries, List.map_cons, canonical_eq_write v, canonicalEntries_eq_write rest,
      Form.writeMember]

end

/-- Two values have the same canonical text exactly if they have the same form. -/
theorem canonical_eq_iff {v w : Value} : v.canonical = w.canonical ↔ v.form = w.form := by
  rw [canonical_eq_write, canonical_eq_write]
  exact ⟨Form.write_injective, congrArg Form.write⟩

/-! ## Values with a canonical text -/

theorem uncanonicalItem?_eq_none_iff {items : List Value} :
    uncanonicalItem? items = none ↔ ∀ v ∈ items, v.uncanonical? = none := by
  induction items with
  | nil => simp [uncanonicalItem?]
  | cons v rest ih => rw [uncanonicalItem?, Option.or_eq_none_iff, ih, List.forall_mem_cons]

theorem unorderedItem?_eq_none_iff {items : List Value} :
    unorderedItem? items = none ↔ ∀ v ∈ items, v.unordered? = none := by
  induction items with
  | nil => simp [unorderedItem?]
  | cons v rest ih => rw [unorderedItem?, Option.or_eq_none_iff, ih, List.forall_mem_cons]

theorem unorderedMember?_eq_none_iff {entries : List (Value × Value)} :
    unorderedMember? entries = none ↔ ∀ e ∈ entries, e.1.undisplayed? = none ∧ e.2.unordered? = none := by
  induction entries with
  | nil => simp [unorderedMember?]
  | cons e rest ih =>
    rw [unorderedMember?, Option.or_eq_none_iff, Option.or_eq_none_iff, ih, List.forall_mem_cons]

theorem uncanonicalEntries_eq_map (entries : List (Value × Value)) :
    uncanonicalEntries entries = entries.map fun e => (keyName e.1, e.2.uncanonical?) := by
  induction entries with
  | nil => rfl
  | cons e rest ih => rw [uncanonicalEntries, ih, List.map_cons]

/-- Entries are written if their values are. -/
theorem uncanonical?_map {entries : List (Value × Value)} (all : ∀ e ∈ entries, e.2.uncanonical? = none) :
    (map entries).uncanonical? = none := by
  rw [uncanonical?, List.findSome?_eq_none_iff]
  intro m mem
  have mem := mem_of_mem_objectMembers mem
  rw [uncanonicalEntries_eq_map] at mem
  obtain ⟨e, inside, rfl⟩ := List.mem_map.1 mem
  exact all e inside

/-- Data has a canonical text if nothing is in the way of its order and its values are written. -/
theorem unkeyed?_map {entries : List (Value × Value)} (ordered : (map entries).unordered? = none)
    (all : ∀ e ∈ entries, e.2.uncanonical? = none) : (map entries).unkeyed? = none := by
  rw [unkeyed?, ordered, uncanonical?_map all]
  rfl

/-- Where each key has a name of its own all values are written. -/
theorem uncanonical?_map_eq_none_iff {entries : List (Value × Value)}
    (nodup : (entries.map fun e => keyName e.1).Nodup) :
    (map entries).uncanonical? = none ↔ ∀ e ∈ entries, e.2.uncanonical? = none := by
  refine ⟨fun none e mem => ?_, uncanonical?_map⟩
  rw [uncanonical?, List.findSome?_eq_none_iff] at none
  refine none _ (mem_objectMembers (?_ : (keyName e.1, e.2.uncanonical?) ∈ _) ?_)
  · rw [uncanonicalEntries_eq_map]
    exact List.mem_map_of_mem (f := fun e => (keyName e.1, e.2.uncanonical?)) mem
  · intro u mem'
    rw [uncanonicalEntries_eq_map] at mem'
    obtain ⟨e', inside, same⟩ := List.mem_map.1 mem'
    obtain ⟨name, rfl⟩ := Prod.mk.inj same
    rw [List.inj_on_of_nodup_map nodup inside mem name]

/-! ## Values of the same shape -/

/-- The names of the keys of entries. -/
def keyNames (entries : List (Value × Value)) : List String :=
  entries.map fun e => keyName e.1

mutual

/-- Values of the same shape are of the same kinds at corresponding places. The items of sets stand in the same
order if they are the same, and so do the keys of maps, whose names tell them apart; objects that are shown alike
are the same object. -/
def SameShape : Value → Value → Prop
  | null, null | undefined, undefined => True
  | bool _, bool _ | int _, int _ | float _, float _ => True
  | text _, text _ | markup _, markup _ | bytes _, bytes _ | loop _, loop _ => True
  | notANumber mark, notANumber mark' => mark = mark'
  | foreign mark html portrait, foreign mark' html' portrait' =>
    (foreign mark html portrait).inspect = (foreign mark' html' portrait').inspect →
      mark = mark' ∧ html = html' ∧ portrait = portrait'
  | list items, list others | tuple items, tuple others => SameShapeItems items others
  | set frozen items, set frozen' others =>
    frozen = frozen' ∧
      ((canonicalItems items).Perm (canonicalItems others) → canonicalItems items = canonicalItems others) ∧
      SameShapeItems items others
  | map entries, map others =>
    (keyNames entries).Nodup ∧ (keyNames others).Nodup ∧
      ((∀ name, name ∈ keyNames entries ↔ name ∈ keyNames others) → entries.map (·.1) = others.map (·.1)) ∧
      SameShapeEntries entries others
  | _, _ => False
termination_by structural v => v

/-- Are the items of the same shapes, as far as both lists go? -/
def SameShapeItems : List Value → List Value → Prop
  | v :: rest, w :: others => SameShape v w ∧ SameShapeItems rest others
  | _, _ => True
termination_by structural items => items

/-- Are the values of the same shapes, as far as both lists of entries go? -/
def SameShapeEntries : List (Value × Value) → List (Value × Value) → Prop
  | (_, v) :: rest, (_, w) :: others => SameShape v w ∧ SameShapeEntries rest others
  | _, _ => True
termination_by structural entries => entries

end

theorem map_fst_formEntries (entries : List (Value × Value)) : (formEntries entries).map (·.1) = keyNames entries := by
  rw [formEntries_eq_map, List.map_map]
  rfl

/-- Lists of members with the same names in the same order are the same if one holds the members of the other. -/
theorem members_ext {members others : List (String × Form)} (names : members.map (·.1) = others.map (·.1))
    (nodup : (others.map (·.1)).Nodup) (sub : ∀ m ∈ members, m ∈ others) : members = others := by
  induction members generalizing others with
  | nil => exact (List.map_eq_nil_iff.1 names.symm).symm
  | cons m rest ih =>
    cases others with
    | nil => cases names
    | cons m' rest' =>
      rw [List.map_cons, List.map_cons, List.cons.injEq] at names
      rw [List.map_cons, List.nodup_cons] at nodup
      have first : m = m' := by
        refine (List.mem_cons.1 (sub m List.mem_cons_self)).resolve_right fun mem => nodup.1 ?_
        rw [← names.1]
        exact List.mem_map_of_mem mem
      rw [first, ih names.2 nodup.2 fun n mem => ?_]
      refine (List.mem_cons.1 (sub n (List.mem_cons_of_mem _ mem))).resolve_left ?_
      rintro rfl
      exact nodup.1 (names.2 ▸ List.mem_map_of_mem mem)

theorem only_of_nodup {members : List (String × Form)} (nodup : (members.map (·.1)).Nodup) {name : String} {f : Form}
    (mem : (name, f) ∈ members) (g : Form) (mem' : (name, g) ∈ members) : g = f := by
  have := List.inj_on_of_nodup_map nodup mem' mem rfl
  exact (Prod.mk.inj this).2

/-- Maps whose keys have names of their own are of the same form only if they have the same names. -/
theorem keyNames_subset {entries others : List (Value × Value)} (nodup : (keyNames entries).Nodup)
    (same : Form.ofMembers (formEntries entries) = Form.ofMembers (formEntries others)) :
    (∀ m ∈ formEntries entries, m ∈ formEntries others) ∧ ∀ name ∈ keyNames entries, name ∈ keyNames others := by
  rw [← map_fst_formEntries] at nodup
  have sub : ∀ m ∈ formEntries entries, m ∈ formEntries others := fun m mem =>
    Form.mem_of_ofMembers_eq same mem (only_of_nodup nodup mem)
  refine ⟨sub, fun name mem => ?_⟩
  rw [← map_fst_formEntries] at mem ⊢
  obtain ⟨m, inside, rfl⟩ := List.mem_map.1 mem
  exact List.mem_map_of_mem (sub m inside)

theorem formEntries_eq_of_ofMembers_eq {entries others : List (Value × Value)} (nodup : (keyNames entries).Nodup)
    (nodup' : (keyNames others).Nodup)
    (order : (∀ name, name ∈ keyNames entries ↔ name ∈ keyNames others) → entries.map (·.1) = others.map (·.1))
    (same : Form.ofMembers (formEntries entries) = Form.ofMembers (formEntries others)) :
    entries.map (·.1) = others.map (·.1) ∧ formEntries entries = formEntries others := by
  obtain ⟨sub, names⟩ := keyNames_subset nodup same
  have keys := order fun name => ⟨names name, (keyNames_subset nodup' same.symm).2 name⟩
  refine ⟨keys, members_ext ?_ ?_ sub⟩
  · rw [map_fst_formEntries, map_fst_formEntries]
    have names := congrArg (List.map keyName) keys
    rwa [List.map_map, List.map_map] at names
  · rwa [map_fst_formEntries]

theorem formItems_eq_of_sorted_eq {items others : List Value}
    (order : (canonicalItems items).Perm (canonicalItems others) → canonicalItems items = canonicalItems others)
    (same : ((formItems items).mergeSort fun f g => f.write ≤ g.write)
      = (formItems others).mergeSort fun f g => f.write ≤ g.write) : formItems items = formItems others := by
  have perm : (formItems items).Perm (formItems others) := by
    refine (List.mergeSort_perm _ fun f g => decide (f.write ≤ g.write)).symm.trans ?_
    rw [same]
    exact List.mergeSort_perm _ _
  have texts : (formItems items).map Form.write = (formItems others).map Form.write := by
    rw [← canonicalItems_eq_write, ← canonicalItems_eq_write]
    refine order ?_
    rw [canonicalItems_eq_write, canonicalItems_eq_write]
    exact perm.map _
  exact List.map_injective_iff.2 (fun _ _ same => Form.write_injective same) texts

theorem mem_loopMembers_index {s : LoopState} {f : Form} :
    ("str:index0", f) ∈ loopMembers s ↔ f = .atom (.int s.index) := by
  simp [loopMembers, LoopState.entries, keyName, typeName, display, atom]

theorem mem_loopMembers_length {s : LoopState} {f : Form} :
    ("str:length", f) ∈ loopMembers s ↔ f = .atom (.int s.length) := by
  simp [loopMembers, LoopState.entries, keyName, typeName, display, atom]

/-- The form of a loop tells which of how many rounds is running. -/
theorem loop_eq_of_form_eq {s t : LoopState} (same : (loop s).form = (loop t).form) : s = t := by
  obtain ⟨index, length⟩ := s
  obtain ⟨index', length'⟩ := t
  have members : Form.ofMembers (loopMembers ⟨index, length⟩) = Form.ofMembers (loopMembers ⟨index', length'⟩) := same
  have sameIndex := mem_loopMembers_index.1 (Form.mem_of_ofMembers_eq members (mem_loopMembers_index.2 rfl)
    fun g mem => mem_loopMembers_index.1 mem)
  have sameLength := mem_loopMembers_length.1 (Form.mem_of_ofMembers_eq members (mem_loopMembers_length.2 rfl)
    fun g mem => mem_loopMembers_length.1 mem)
  cases sameIndex
  cases sameLength
  rfl

mutual

/-- Values of the same shape and the same form are the same. -/
theorem eq_of_form_eq : ∀ {v w : Value}, SameShape v w → v.form = w.form → v = w
  | null, w, shape, _ => by
    cases w with
    | null => rfl
    | _ => exact shape.elim
  | undefined, w, shape, _ => by
    cases w with
    | undefined => rfl
    | _ => exact shape.elim
  | bool b, w, shape, same => by
    cases w with
    | bool b' =>
      cases same
      rfl
    | _ => exact shape.elim
  | int i, w, shape, same => by
    cases w with
    | int j =>
      cases same
      rfl
    | _ => exact shape.elim
  | float x, w, shape, same => by
    cases w with
    | float y =>
      cases same
      rfl
    | _ => exact shape.elim
  | notANumber mark, w, shape, _ => by
    cases w with
    | notANumber mark' => exact congrArg notANumber shape
    | _ => exact shape.elim
  | text s, w, shape, same => by
    cases w with
    | text s' =>
      cases same
      rfl
    | _ => exact shape.elim
  | markup s, w, shape, same => by
    cases w with
    | markup s' =>
      cases same
      rfl
    | _ => exact shape.elim
  | bytes bs, w, shape, same => by
    cases w with
    | bytes bs' => rw [quotedBytes_injective (Form.text.inj same)]
    | _ => exact shape.elim
  | foreign mark html portrait, w, shape, same => by
    cases w with
    | foreign mark' html' portrait' =>
      obtain ⟨rfl, rfl, rfl⟩ := shape (Form.text.inj same)
      rfl
    | _ => exact shape.elim
  | loop s, w, shape, same => by
    cases w with
    | loop t => rw [loop_eq_of_form_eq same]
    | _ => exact shape.elim
  | list items, w, shape, same => by
    cases w with
    | list others => rw [items_eq_of_form_eq shape (Form.array.inj same)]
    | _ => exact shape.elim
  | tuple items, w, shape, same => by
    cases w with
    | tuple others => rw [items_eq_of_form_eq shape (Form.array.inj same)]
    | _ => exact shape.elim
  | set frozen items, w, shape, same => by
    cases w with
    | set frozen' others =>
      obtain ⟨rfl, order, shapes⟩ := shape
      rw [items_eq_of_form_eq shapes (formItems_eq_of_sorted_eq order (Form.array.inj same))]
    | _ => exact shape.elim
  | map entries, w, shape, same => by
    cases w with
    | map others =>
      obtain ⟨nodup, nodup', order, shapes⟩ := shape
      obtain ⟨keys, forms⟩ := formEntries_eq_of_ofMembers_eq nodup nodup' order same
      rw [entries_eq_of_form_eq shapes keys forms]
    | _ => exact shape.elim

theorem items_eq_of_form_eq :
    ∀ {items others : List Value}, SameShapeItems items others → formItems items = formItems others → items = others
  | [], [], _, _ => rfl
  | [], _ :: _, _, same => nomatch same
  | _ :: _, [], _, same => nomatch same
  | v :: rest, w :: others, shapes, same => by
    obtain ⟨first, more⟩ := List.cons.inj same
    rw [eq_of_form_eq shapes.1 first, items_eq_of_form_eq shapes.2 more]

theorem entries_eq_of_form_eq :
    ∀ {entries others : List (Value × Value)}, SameShapeEntries entries others →
      entries.map (·.1) = others.map (·.1) → formEntries entries = formEntries others → entries = others
  | [], [], _, _, _ => rfl
  | [], _ :: _, _, _, same => nomatch same
  | _ :: _, [], _, _, same => nomatch same
  | (k, v) :: rest, (l, w) :: others, shapes, keys, same => by
    obtain ⟨key, moreKeys⟩ := List.cons.inj keys
    obtain ⟨first, more⟩ := List.cons.inj same
    rw [show k = l from key, eq_of_form_eq shapes.1 (Prod.mk.inj first).2,
      entries_eq_of_form_eq shapes.2 moreKeys more]

end

/-- Values of the same shape that have the same canonical text are the same. -/
theorem eq_of_sameShape {v w : Value} (shape : SameShape v w) (same : v.canonical = w.canonical) : v = w :=
  eq_of_form_eq shape (canonical_eq_iff.1 same)

end Value

end Stencil
