import Stencil.Proofs.Cache.Calm
import Stencil.Proofs.Number.Order

/-!
# The shelf that a cache keeps

A cache keeps a shelf: a page for some of the keys, each with the time at which it was put there. Pages are put
on the shelf and the shelf is cleared, and that is all. What the disk holds is not quite the same: a page that has
become stale stays on the shelf, while its file is removed at some time by a look at it. The relation
`Cache.Stands` between the two allows for that, and since the clock never goes back such a page is not missed
(`Cache.Stands.later`).

`Cache.Keeps` is the relation between a shelf and the whole world, and each operation of a cache in calm weather
keeps it (`Cache.Keeps.store`, `Cache.Keeps.hasValid`, `Cache.Keeps.get`, `Cache.Keeps.clear`).
-/

namespace Stencil

open Disk (ChangedAt)

/-- The pages on a shelf, each with the time at which it was put there, and the time. -/
structure Shelf where
  pages : String → Option (String × Binary64)
  clock : Binary64

namespace Shelf

/-- The shelf with a page put there now. -/
def put (shelf : Shelf) (key content : String) : Shelf :=
  { shelf with pages := Function.update shelf.pages key (some (content, shelf.clock)) }

/-- The shelf without its pages. -/
def cleared (shelf : Shelf) : Shelf :=
  { shelf with pages := fun _ => none }

/-- The page for a key, if it is on the shelf and its age is below the lifetime of pages. -/
def fresh? (shelf : Shelf) (ttl : Nat) (key : String) : Option String :=
  ((shelf.pages key).filter fun (_, t) => Cache.isFreshAt ttl shelf.clock t).map (·.1)

theorem fresh?_eq_some_iff {shelf : Shelf} {ttl : Nat} {key content : String} :
    shelf.fresh? ttl key = some content
      ↔ ∃ t, shelf.pages key = some (content, t) ∧ Cache.isFreshAt ttl shelf.clock t = true := by
  unfold fresh?
  rw [Option.map_eq_some_iff]
  constructor
  · rintro ⟨⟨_, t⟩, found, rfl⟩
    obtain ⟨here, fresh⟩ := Option.filter_eq_some_iff.1 found
    exact ⟨t, here, fresh⟩
  · rintro ⟨t, here, fresh⟩
    exact ⟨(content, t), Option.filter_eq_some_iff.2 ⟨here, fresh⟩, rfl⟩

theorem fresh?_of_fresh {shelf : Shelf} {ttl : Nat} {key content : String} {t : Binary64}
    (page : shelf.pages key = some (content, t)) (fresh : Cache.isFreshAt ttl shelf.clock t = true) :
    shelf.fresh? ttl key = some content :=
  fresh?_eq_some_iff.2 ⟨t, page, fresh⟩

theorem fresh?_of_stale {shelf : Shelf} {ttl : Nat} {key content : String} {t : Binary64}
    (page : shelf.pages key = some (content, t)) (stale : Cache.isFreshAt ttl shelf.clock t = false) :
    shelf.fresh? ttl key = none := by
  unfold fresh?
  rw [page, Option.filter_some_neg (by simp [stale]), Option.map_none]

theorem fresh?_of_none {shelf : Shelf} {key : String} (ttl : Nat) (page : shelf.pages key = none) :
    shelf.fresh? ttl key = none := by
  unfold fresh?
  rw [page]
  rfl

theorem put_self (shelf : Shelf) (key content : String) :
    (shelf.put key content).pages key = some (content, shelf.clock) :=
  Function.update_self ..

theorem put_other {shelf : Shelf} {key other : String} (differs : other ≠ key) (content : String) :
    (shelf.put key content).pages other = shelf.pages other :=
  Function.update_of_ne differs ..

end Shelf

namespace Cache

variable {c : Cache} {key content : String} {shelf shelf' : Shelf} {w w' : World} {place : List String} {ttl : Nat}

/-- A page that is read back has every line end as a line feed. -/
def readBack (content : String) : String :=
  String.ofList (readNewlines content.toList)

/-- A page that was stored is found as long as it is fresh, and its line ends are line feeds then. -/
theorem get_of_fresh {t : Binary64} (calm : w.weather = .calm)
    (found : w.disk.find (c.pathFor key) = .ok (.file (Utf8.encode content.toList) t))
    (fresh : isFreshAt c.ttl w.clock t = true) :
    ∃ w', get key (c, w) = (.ok (readBack content), { c with hits := c.hits + 1 }, w') ∧ World.Next Eq w w' := by
  obtain ⟨w₁, valid, next⟩ := hasValid_of_fresh calm found fresh
  have held : w₁.disk.read (c.pathFor key) = .ok (Utf8.encode content.toList) := by
    rw [← next.disk, Disk.read, found]
    rfl
  have read := Work.readText_calm (next.weather.trans calm) held (Utf8.decode_encode _)
  obtain ⟨w', noted, next'⟩ := note_run .debug ("Cache hit " ++ shortKey key) { w₁ with tick := w₁.tick + 1 }
  refine ⟨w', ?_, next.after_look ⟨next'.clock, next'.weather, next'.disk⟩⟩
  unfold get
  rw [WorkOn.state_bind_run]
  exact (run_ok (WorkOn.ofWork_run valid c) _).trans
    ((run_ok (WorkOn.outcome_run (WorkOn.ofWork_run read c)) _).trans
      ((run_ok (WorkOn.update_run _ c _) _).trans ((run_ok (WorkOn.ofWork_run noted _) _).trans rfl)))

theorem isFreshAt_forever (forever : ttl = 0) (now t : Binary64) : isFreshAt ttl now t = true := by
  rw [isFreshAt, decide_eq_true forever, Bool.true_or]

/-- A page that has become stale stays stale. -/
theorem isFreshAt_of_later {now later t : Binary64} (le : now ≤ later) (fresh : isFreshAt ttl later t = true) :
    isFreshAt ttl now t = true := by
  unfold isFreshAt at fresh ⊢
  rw [Bool.or_eq_true] at fresh ⊢
  exact fresh.imp_right (Binary64.isBelow_of_le (Binary64.sub_mono_left le t))

/-- What the disk holds at the place of an entry, given the page that is on the shelf. -/
inductive Stands (ttl : Nat) (now : Binary64) : Option (String × Binary64) → Option DiskNode → Prop where
  | absent : Stands ttl now none none
  | present (content : String) (t : Binary64) :
    Stands ttl now (some (content, t)) (some (.file (Utf8.encode content.toList) t))
  | stale (content : String) (t : Binary64) (stale : isFreshAt ttl now t = false) :
    Stands ttl now (some (content, t)) none

namespace Stands

variable {now now' : Binary64} {page : Option (String × Binary64)} {node : Option DiskNode}

/-- The page is there with the time at which it was stored. -/
theorem of_page (page : Option (String × Binary64)) :
    Stands ttl now page (page.map fun (content, t) => .file (Utf8.encode content.toList) t) := by
  cases page with
  | none => exact .absent
  | some page => exact .present page.1 page.2

theorem not_directory (h : Stands ttl now page node) (t : Binary64) : node ≠ some (.directory t) := by
  rintro rfl
  cases h

theorem later (h : Stands ttl now page node) (le : now ≤ now') : Stands ttl now' page node := by
  cases h with
  | absent => exact .absent
  | present content t => exact .present content t
  | stale content t stale =>
    refine .stale content t ?_
    by_contra fresh
    rw [isFreshAt_of_later le (Bool.not_eq_false _ |>.mp fresh)] at stale
    cases stale

end Stands

/-- The world of a cache keeps a shelf. -/
structure Keeps (shelf : Shelf) (c : Cache) (w : World) : Prop where
  calm : w.weather = .calm
  clock : w.clock = shelf.clock
  housed : Housed c w.disk
  stands : ∀ key, IsKey key → Stands c.ttl shelf.clock (shelf.pages key)
    (w.disk.node? (entryPlace (c.directory.resolve w.disk.working) key))

namespace Keeps

theorem of_next (h : Keeps shelf c w) (next : World.Next Eq w w') : Keeps shelf c w' where
  calm := next.weather.trans h.calm
  clock := next.clock.trans h.clock
  housed := next.disk ▸ h.housed
  stands := next.disk ▸ h.stands

/-- An entry has changed with its page on the shelf. -/
theorem of_changedAt {node : Option DiskNode} (h : Keeps shelf c w) (hex : IsKey key)
    (next : World.Next (ChangedAt (entryPlace (c.directory.resolve w.disk.working) key) node) w w')
    (clock : shelf'.clock = shelf.clock) (others : ∀ other, other ≠ key → shelf'.pages other = shelf.pages other)
    (here : Stands c.ttl shelf.clock (shelf'.pages key) node) : Keeps shelf' c w' := by
  have working := next.disk.working
  refine ⟨next.weather.trans h.calm, (next.clock.trans h.clock).trans clock.symm, ?_, fun other hex' => ?_⟩
  · exact h.housed.of_stirred (stirred_of_changedAt hex (h.stands key hex).not_directory next.disk)
  · rw [working, clock]
    by_cases same : other = key
    · rw [same, next.disk.here]
      exact here
    · have away : entryPlace (c.directory.resolve w.disk.working) other
          ≠ entryPlace (c.directory.resolve w.disk.working) key := fun here =>
        same (entryName_injective (Disk.name_eq_of_place_eq here))
      rw [next.disk.others _ away, others other same]
      exact h.stands other hex'

theorem later {clock : Binary64} (h : Keeps shelf c w) (le : shelf.clock ≤ clock) :
    Keeps { shelf with clock := clock } c { w with clock := clock } :=
  ⟨h.calm, rfl, h.housed, fun key hex => (h.stands key hex).later le⟩

theorem store (h : Keeps shelf c w) (hex : IsKey key) (content : String) :
    ∃ w', Cache.store key content (c, w) = (.ok true, { c with stores := c.stores + 1 }, w')
      ∧ Keeps (shelf.put key content) c w' := by
  have differs : entryPlace (c.directory.resolve w.disk.working) key ≠ c.directory.resolve w.disk.working
      ++ [freshName (w.disk.namesAt (c.directory.resolve w.disk.working))] := by
    intro same
    have plain := isEntryName_freshName (w.disk.namesAt (c.directory.resolve w.disk.working))
    rw [← Disk.name_eq_of_place_eq same, isEntryName_entryName] at plain
    cases plain
  obtain ⟨w', stored, next⟩ := store_calm content h.calm h.housed.locate_temporaryPath
    (node?_freshName _ _) (h.housed.locate_pathFor hex) differs (h.stands key hex).not_directory
  refine ⟨w', stored, h.of_changedAt hex next rfl (fun other away => Shelf.put_other away content) ?_⟩
  rw [Shelf.put_self, h.clock]
  exact .present content shelf.clock

/-- Looking for an entry finds it if the page is on the shelf and fresh. Where pages live for ever nothing is
looked at. -/
theorem hasValid (h : Keeps shelf c w) (hex : IsKey key) :
    ∃ w', c.hasValid key w = (.ok (c.ttl = 0 || (shelf.fresh? c.ttl key).isSome), w') ∧ Keeps shelf c w' := by
  by_cases forever : c.ttl = 0
  · exact ⟨w, by rw [hasValid_forever forever, decide_eq_true forever, Bool.true_or], h⟩
  rw [decide_eq_false forever, Bool.false_or]
  have located := h.housed.locate_pathFor hex
  have stands := h.stands key hex
  generalize page : shelf.pages key = held, here : w.disk.node? _ = node at stands
  cases stands with
  | absent =>
    rw [Shelf.fresh?_of_none _ page]
    exact ⟨_, hasValid_of_absent h.calm forever located here, h.of_next ⟨rfl, rfl, rfl⟩⟩
  | stale content t stale =>
    rw [Shelf.fresh?_of_stale page stale]
    exact ⟨_, hasValid_of_absent h.calm forever located here, h.of_next ⟨rfl, rfl, rfl⟩⟩
  | present content t =>
    cases fresh : isFreshAt c.ttl shelf.clock t with
    | true =>
      rw [Shelf.fresh?_of_fresh page fresh]
      obtain ⟨w', looked, next⟩ :=
        hasValid_of_fresh h.calm (Disk.find_eq_ok_iff.2 ⟨_, located, here⟩) (h.clock ▸ fresh)
      exact ⟨w', looked, h.of_next next⟩
    | false =>
      rw [Shelf.fresh?_of_stale page fresh]
      obtain ⟨w', looked, next⟩ := hasValid_of_stale_file h.calm forever located here (h.clock ▸ fresh)
      exact ⟨w', looked, h.of_changedAt hex next rfl (fun _ _ => rfl) (page ▸ .stale content t fresh)⟩

/-- A page on the shelf that is fresh is found. -/
theorem get_found (h : Keeps shelf c w) (hex : IsKey key) (found : shelf.fresh? c.ttl key = some content) :
    ∃ w', Cache.get key (c, w) = (.ok (readBack content), { c with hits := c.hits + 1 }, w') ∧ Keeps shelf c w' := by
  obtain ⟨t, page, fresh⟩ := Shelf.fresh?_eq_some_iff.1 found
  have stands := h.stands key hex
  rw [page] at stands
  generalize here : w.disk.node? _ = node at stands
  cases stands with
  | stale _ _ stale =>
    rw [fresh] at stale
    cases stale
  | present =>
    obtain ⟨w', got, next⟩ := get_of_fresh h.calm
      (Disk.find_eq_ok_iff.2 ⟨_, h.housed.locate_pathFor hex, here⟩) (h.clock ▸ fresh)
    exact ⟨w', got, h.of_next next⟩

/-- Any other page is not found. -/
theorem get_missed (h : Keeps shelf c w) (hex : IsKey key) (missing : shelf.fresh? c.ttl key = none) :
    ∃ w', Cache.get key (c, w) = (.error (.cacheMiss key none), { c with misses := c.misses + 1 }, w')
      ∧ Keeps shelf c w' := by
  obtain ⟨w₁, looked, h₁⟩ := h.hasValid hex
  rw [missing, Option.isSome_none, Bool.or_false] at looked
  unfold Cache.get
  rw [WorkOn.state_bind_run]
  by_cases forever : c.ttl = 0
  · -- the entry is looked for by reading it
    rw [decide_eq_true forever] at looked
    have stands := h₁.stands key hex
    generalize page : shelf.pages key = held, here : w₁.disk.node? _ = node at stands
    cases stands with
    | absent =>
      have read := Work.readText_missing h₁.calm (h₁.housed.locate_pathFor hex) here
      have kept : Keeps shelf c { w₁ with tick := w₁.tick + 1 } := h₁.of_next ⟨rfl, rfl, rfl⟩
      refine ⟨_, ?_, kept⟩
      exact (run_ok (WorkOn.ofWork_run looked c) _).trans
        ((run_ok (WorkOn.outcome_run (WorkOn.ofWork_run read c)) _).trans rfl)
    | present content t =>
      rw [Shelf.fresh?_of_fresh page (isFreshAt_forever forever _ _)] at missing
      cases missing
    | stale content t stale =>
      rw [isFreshAt_forever forever] at stale
      cases stale
  · rw [decide_eq_false forever] at looked
    obtain ⟨w', noted, next⟩ := note_run .debug ("Cache miss " ++ shortKey key) w₁
    refine ⟨w', ?_, h₁.of_next next⟩
    exact (run_ok (WorkOn.ofWork_run looked c) _).trans
      ((run_ok (WorkOn.update_run _ c _) _).trans ((run_ok (WorkOn.ofWork_run noted _) _).trans rfl))

theorem clear (h : Keeps shelf c w) : ∃ w', c.clear w = (.ok true, w') ∧ Keeps shelf.cleared c w' := by
  obtain ⟨w', done, next⟩ := clear_calm h.calm h.housed
  refine ⟨w', done, next.weather.trans h.calm, next.clock.trans h.clock,
    h.housed.of_stirred (stirred_of_emptied next.disk), fun key hex => ?_⟩
  have gone : w'.disk.node? (entryPlace (c.directory.resolve w.disk.working) key) = none := by
    by_cases file : IsEntryFile c w.disk (entryPlace (c.directory.resolve w.disk.working) key)
    · exact next.disk.gone _ file
    · rw [next.disk.others _ file]
      have stands := h.stands key hex
      generalize page : shelf.pages key = held, here : w.disk.node? _ = node at stands
      cases stands with
      | absent => rfl
      | stale => rfl
      | present content t => exact absurd ⟨_, _, _, isEntryName_entryName key, rfl, here⟩ file
  rw [next.disk.working, gone]
  exact .absent

end Keeps

end Cache

end Stencil
