import Mathlib.Data.List.Induction
import Stencil.Proofs.Cache.Shelf

/-!
# Runs of a cache

A cache is asked for one thing after the other while time passes. In calm weather, on a disk that nothing else
writes to, all that comes back can be told from the shelf that the cache keeps, whatever it is asked for and in
whatever order (`Cache.Keeps.run`, by induction from `Cache.Keeps.perform` for one request).

What is on the shelf can be told from the requests: for each key the page that was stored last, if the
cache was not cleared since (`Shelf.pages_afterAll_iff`). Only requests for a key and clearing change what is
there for it.
-/

namespace Stencil

namespace Cache

/-- What a cache is asked for, and time that passes. -/
inductive Request where
  | store (key content : String)
  | get (key : String)
  | hasValid (key : String)
  | clear
  /-- The clock moves to a time. -/
  | wait (clock : Binary64)

/-- What comes back. -/
inductive Reply where
  | stored (result : Except Fault Bool)
  | page (result : Except Fault String)
  | valid (result : Except Fault Bool)
  | cleared (result : Except Fault Bool)
  | waited

namespace Reply

/-- Was a page found? -/
def isHit : Reply → Bool
  | page (.ok _) => true
  | _ => false

/-- Was a page not found? -/
def isMiss : Reply → Bool
  | page (.error (.cacheMiss _ _)) => true
  | _ => false

end Reply

namespace Request

/-- Is a page to be stored? -/
def isStore : Request → Bool
  | store _ _ => true
  | _ => false

/-- The key that a page is stored or looked for under. -/
def key? : Request → Option String
  | store key _ | get key | hasValid key => some key
  | clear | wait _ => none

/-- A request is carried out. -/
def perform : Request → Cache × World → Reply × Cache × World
  | store key content, s => let (result, s) := Cache.store key content s; (.stored result, s)
  | get key, s => let (result, s) := Cache.get key s; (.page result, s)
  | hasValid key, (c, w) => let (result, w) := c.hasValid key w; (.valid result, c, w)
  | clear, (c, w) => let (result, w) := c.clear w; (.cleared result, c, w)
  | wait clock, (c, w) => (.waited, c, { w with clock := clock })

/-- The key is one that the engine makes, and the clock does not go back. -/
def IsProper (now : Binary64) : Request → Prop
  | store key _ | get key | hasValid key => IsKey key
  | clear => True
  | wait clock => now ≤ clock

/-- The clock after a request. -/
def clockAfter (now : Binary64) : Request → Binary64
  | wait clock => clock
  | _ => now

end Request

/-- Requests are carried out one after the other. -/
def run : List Request → Cache × World → List Reply × Cache × World
  | [], s => ([], s)
  | request :: rest, s =>
    let (reply, s) := request.perform s
    let (replies, s) := run rest s
    (reply :: replies, s)

/-- Every request is proper at its time. -/
def AreProper : Binary64 → List Request → Prop
  | _, [] => True
  | now, request :: rest => request.IsProper now ∧ AreProper (request.clockAfter now) rest

/-- The last page that was stored for a key, and when, if the cache was not cleared since. A page on the shelf
from which the requests start was stored before them. -/
def IsLatest (start : Shelf) (requests : List Request) (key content : String) (t : Binary64) : Prop :=
  (∃ before since, requests = before ++ .store key content :: since
      ∧ t = before.foldl (fun now r => r.clockAfter now) start.clock
      ∧ .clear ∉ since ∧ ∀ other, .store key other ∉ since)
    ∨ (start.pages key = some (content, t) ∧ .clear ∉ requests ∧ ∀ other, .store key other ∉ requests)

end Cache

open Cache (Request Reply Keeps IsKey)

namespace Shelf

/-- The shelf after a request. -/
def after (shelf : Shelf) : Request → Shelf
  | .store key content => shelf.put key content
  | .clear => shelf.cleared
  | .wait clock => { shelf with clock := clock }
  | .get _ | .hasValid _ => shelf

/-- What a request to a cache brings back, told from the shelf. -/
def reply (shelf : Shelf) (ttl : Nat) : Request → Reply
  | .store _ _ => .stored (.ok true)
  | .get key =>
    match shelf.fresh? ttl key with
    | some content => .page (.ok (Cache.readBack content))
    | none => .page (.error (.cacheMiss key none))
  | .hasValid key => .valid (.ok (ttl = 0 || (shelf.fresh? ttl key).isSome))
  | .clear => .cleared (.ok true)
  | .wait _ => .waited

/-- What requests bring back, one after the other. -/
def replies (ttl : Nat) : List Request → Shelf → List Reply
  | [], _ => []
  | request :: rest, shelf => shelf.reply ttl request :: replies ttl rest (shelf.after request)

/-- The shelf after requests. -/
def afterAll (shelf : Shelf) (requests : List Request) : Shelf :=
  requests.foldl after shelf

theorem afterAll_concat (shelf : Shelf) (requests : List Request) (request : Request) :
    shelf.afterAll (requests ++ [request]) = (shelf.afterAll requests).after request := by
  unfold afterAll
  rw [List.foldl_append]
  rfl

theorem clock_after (shelf : Shelf) (request : Request) :
    (shelf.after request).clock = request.clockAfter shelf.clock := by
  cases request <;> rfl

theorem clock_afterAll (shelf : Shelf) (requests : List Request) :
    (shelf.afterAll requests).clock = requests.foldl (fun now r => r.clockAfter now) shelf.clock := by
  induction requests using List.reverseRecOn with
  | nil => rfl
  | append_singleton requests request ih =>
    rw [afterAll_concat, clock_after, ih, List.foldl_append]
    rfl

end Shelf

/-- The last request either stores the page or leaves it where it is. -/
theorem Cache.isLatest_concat {start : Shelf} {requests : List Request} {last : Request} {key content : String}
    {t : Binary64} : Cache.IsLatest start (requests ++ [last]) key content t
      ↔ (last = .store key content ∧ t = requests.foldl (fun now r => r.clockAfter now) start.clock)
        ∨ (last ≠ .clear ∧ (∀ other, last ≠ .store key other) ∧ Cache.IsLatest start requests key content t) := by
  constructor
  · rintro (⟨before, since, same, time, kept, only⟩ | ⟨page, kept, only⟩)
    · rcases since.eq_nil_or_concat' with rfl | ⟨since, last', rfl⟩
      · obtain ⟨rfl, stored⟩ := List.append_inj' same rfl
        exact .inl ⟨List.singleton_inj.1 stored, time⟩
      · rw [← List.cons_append, ← List.append_assoc] at same
        obtain ⟨rfl, ended⟩ := List.append_inj' same rfl
        obtain rfl := List.singleton_inj.1 ended
        simp only [List.mem_append, List.mem_singleton, not_or] at kept only
        exact .inr ⟨Ne.symm kept.2, fun other => Ne.symm (only other).2,
          .inl ⟨before, since, rfl, time, kept.1, fun other => (only other).1⟩⟩
    · simp only [List.mem_append, List.mem_singleton, not_or] at kept only
      exact .inr ⟨Ne.symm kept.2, fun other => Ne.symm (only other).2,
        .inr ⟨page, kept.1, fun other => (only other).1⟩⟩
  · rintro (⟨rfl, time⟩ | ⟨kept, only, ⟨before, since, rfl, time, kept', only'⟩ | ⟨page, kept', only'⟩⟩)
    · exact .inl ⟨requests, [], rfl, time, List.not_mem_nil, fun _ => List.not_mem_nil⟩
    · refine .inl ⟨before, since ++ [last], by simp, time, ?_, fun other => ?_⟩
      · simp [kept', Ne.symm kept]
      · simp [only' other, Ne.symm (only other)]
    · refine .inr ⟨page, ?_, fun other => ?_⟩
      · simp [kept', Ne.symm kept]
      · simp [only' other, Ne.symm (only other)]

namespace Shelf

/-- On the shelf are the pages that were stored last. -/
theorem pages_afterAll_iff {start : Shelf} {requests : List Request} {key content : String} {t : Binary64} :
    (start.afterAll requests).pages key = some (content, t) ↔ Cache.IsLatest start requests key content t := by
  induction requests using List.reverseRecOn generalizing content t with
  | nil => simp [afterAll, Cache.IsLatest]
  | append_singleton requests last ih =>
    rw [afterAll_concat, Cache.isLatest_concat, ← ih]
    cases last with
    | store key' content' =>
      by_cases same : key = key'
      · subst same
        rw [after, put_self, clock_afterAll]
        simp [eq_comm]
      · rw [after, put_other same]
        simp [Ne.symm same]
    | clear => simp [after, cleared]
    | get key' => simp [after]
    | hasValid key' => simp [after]
    | wait clock => simp [after]

end Shelf

namespace Cache

variable {c : Cache} {w : World} {shelf : Shelf}

/-- What requests do to the cache itself: pages that were found, not found and stored are counted. -/
structure Counts (requests : List Request) (replies : List Reply) (c c' : Cache) : Prop where
  directory : c'.directory = c.directory
  ttl : c'.ttl = c.ttl
  hits : c'.hits = c.hits + replies.countP Reply.isHit
  misses : c'.misses = c.misses + replies.countP Reply.isMiss
  stores : c'.stores = c.stores + requests.countP Request.isStore

theorem Counts.cons {c₁ c' : Cache} {request : Request} {reply : Reply} {requests : List Request}
    {replies : List Reply} (first : Counts [request] [reply] c c₁) (rest : Counts requests replies c₁ c') :
    Counts (request :: requests) (reply :: replies) c c' := by
  refine ⟨rest.directory.trans first.directory, rest.ttl.trans first.ttl, ?_, ?_, ?_⟩
  · rw [rest.hits, first.hits, List.countP_singleton, List.countP_cons]
    omega
  · rw [rest.misses, first.misses, List.countP_singleton, List.countP_cons]
    omega
  · rw [rest.stores, first.stores, List.countP_singleton, List.countP_cons]
    omega

theorem Housed.of_directory {c' : Cache} {d : Disk} (h : Housed c d) (same : c'.directory = c.directory) :
    Housed c' d := by
  obtain ⟨directory, _, _, _, _⟩ := c
  obtain ⟨directory', _, _, _, _⟩ := c'
  obtain rfl : directory' = directory := same
  exact ⟨h.above, h.directory, h.room, h.temporary, h.listed⟩

theorem Keeps.of_counts {c' : Cache} {requests : List Request} {replies : List Reply} (h : Keeps shelf c w)
    (counts : Counts requests replies c c') : Keeps shelf c' w := by
  refine ⟨h.calm, h.clock, h.housed.of_directory counts.directory, fun key hex => ?_⟩
  rw [counts.ttl, counts.directory]
  exact h.stands key hex

/-- One request: what comes back can be told from the shelf, and the world keeps the shelf that is left. -/
theorem Keeps.perform {request : Request} (h : Keeps shelf c w) (proper : request.IsProper shelf.clock) :
    ∃ c' w', request.perform (c, w) = (shelf.reply c.ttl request, c', w') ∧ Keeps (shelf.after request) c' w'
      ∧ Counts [request] [shelf.reply c.ttl request] c c' := by
  cases request with
  | store key content =>
    obtain ⟨w', stored, kept⟩ := h.store proper content
    have counts : Counts [.store key content] [.stored (.ok true)] c { c with stores := c.stores + 1 } :=
      ⟨rfl, rfl, rfl, rfl, rfl⟩
    refine ⟨_, w', ?_, kept.of_counts counts, counts⟩
    dsimp only [Request.perform]
    rw [stored]
    rfl
  | get key =>
    dsimp only [Request.perform, Shelf.reply]
    cases found : shelf.fresh? c.ttl key with
    | some content =>
      obtain ⟨w', got, kept⟩ := h.get_found proper found
      have counts : Counts [.get key] [.page (.ok (readBack content))] c { c with hits := c.hits + 1 } :=
        ⟨rfl, rfl, rfl, rfl, rfl⟩
      refine ⟨_, w', ?_, kept.of_counts counts, counts⟩
      rw [got]
    | none =>
      obtain ⟨w', got, kept⟩ := h.get_missed proper found
      have counts : Counts [.get key] [.page (.error (.cacheMiss key none))] c { c with misses := c.misses + 1 } :=
        ⟨rfl, rfl, rfl, rfl, rfl⟩
      refine ⟨_, w', ?_, kept.of_counts counts, counts⟩
      rw [got]
  | hasValid key =>
    obtain ⟨w', looked, kept⟩ := h.hasValid proper
    refine ⟨c, w', ?_, kept, ⟨rfl, rfl, rfl, rfl, rfl⟩⟩
    dsimp only [Request.perform]
    rw [looked]
    rfl
  | clear =>
    obtain ⟨w', cleared, kept⟩ := h.clear
    refine ⟨c, w', ?_, kept, ⟨rfl, rfl, rfl, rfl, rfl⟩⟩
    dsimp only [Request.perform]
    rw [cleared]
    rfl
  | wait clock => exact ⟨c, _, rfl, h.later proper, ⟨rfl, rfl, rfl, rfl, rfl⟩⟩

/-- A whole run. -/
theorem Keeps.run {requests : List Request} (h : Keeps shelf c w) (proper : AreProper shelf.clock requests) :
    ∃ c' w', Cache.run requests (c, w) = (Shelf.replies c.ttl requests shelf, c', w')
      ∧ Keeps (shelf.afterAll requests) c' w' ∧ Counts requests (Shelf.replies c.ttl requests shelf) c c' := by
  induction requests generalizing shelf c w with
  | nil => exact ⟨c, w, rfl, h, ⟨rfl, rfl, rfl, rfl, rfl⟩⟩
  | cons request rest ih =>
    obtain ⟨c₁, w₁, first, kept, counts⟩ := h.perform proper.1
    obtain ⟨c', w', others, kept', counts'⟩ := ih kept (shelf.clock_after request ▸ proper.2)
    rw [counts.ttl] at others counts'
    refine ⟨c', w', ?_, kept', counts.cons counts'⟩
    unfold Cache.run
    rw [first]
    dsimp only
    rw [others]
    rfl

/-! ## What is got -/

variable {key other : String} {request : Request}

theorem Keeps.get_eq (h : Keeps shelf c w) (hex : IsKey key) : (Cache.get key (c, w)).1
    = match shelf.fresh? c.ttl key with
      | some content => .ok (readBack content)
      | none => .error (.cacheMiss key none) := by
  cases found : shelf.fresh? c.ttl key with
  | some content =>
    obtain ⟨w', got, -⟩ := h.get_found hex found
    rw [got]
  | none =>
    obtain ⟨w', got, -⟩ := h.get_missed hex found
    rw [got]

theorem Request.isProper_of_key? {now : Binary64} (named : request.key? = some key) (hex : IsKey key) :
    request.IsProper now := by
  cases request with
  | store | get | hasValid =>
    obtain rfl := Option.some.inj named
    exact hex
  | clear | wait => cases named

/-- What is asked for one key leaves the pages for other keys where they are. -/
theorem fresh?_after (ttl : Nat) (named : request.key? = some key) (differs : other ≠ key) :
    (shelf.after request).fresh? ttl other = shelf.fresh? ttl other := by
  cases request with
  | store key' content =>
    obtain rfl := Option.some.inj named
    unfold Shelf.fresh? Shelf.after
    rw [Shelf.put_other differs]
    rfl
  | get | hasValid => rfl
  | clear | wait => cases named

theorem Keeps.get_other (h : Keeps shelf c w) (named : request.key? = some key) (hex : IsKey key)
    (hex' : IsKey other) (differs : other ≠ key) :
    (Cache.get other (request.perform (c, w)).2).1 = (Cache.get other (c, w)).1 := by
  obtain ⟨c', w', performed, kept, counts⟩ := h.perform (Request.isProper_of_key? named hex)
  rw [performed, kept.get_eq hex', h.get_eq hex', counts.ttl, fresh?_after c.ttl named differs]

theorem isFreshAt_iff {ttl : Nat} {now t : Binary64} :
    isFreshAt ttl now t = true ↔ ttl = 0 ∨ (now.sub t).isBelow ttl = true := by
  rw [isFreshAt, Bool.or_eq_true, decide_eq_true_iff]

/-- A cache in calm weather whose entries are pages that were stored before. What comes back from a run can be told
from the shelf, and what is left in the directory keeps it. After the run the page that was stored last for a
key is found if the cache was not cleared since and the page lives for ever or is not as old as pages get; in
all other cases it is missed. What is asked for one key does not matter for another one. The cache counts the
pages that were found, missed and stored. -/
theorem run_refines_shelf {requests : List Request} {pages : String → Option (String × Binary64)}
    (calm : w.weather = .calm) (housed : Housed c w.disk)
    (held : ∀ key, IsKey key → w.disk.node? (entryPlace (c.directory.resolve w.disk.working) key)
      = (pages key).map fun (content, t) => .file (Utf8.encode content.toList) t)
    (proper : AreProper w.clock requests) :
    ∃ replies c' w', run requests (c, w) = (replies, c', w')
      ∧ replies = Shelf.replies c.ttl requests ⟨pages, w.clock⟩
      ∧ Keeps ((Shelf.mk pages w.clock).afterAll requests) c' w'
      ∧ (∀ key, IsKey key →
        (∀ content t, IsLatest ⟨pages, w.clock⟩ requests key content t →
          (c.ttl = 0 ∨ (w'.clock.sub t).isBelow c.ttl = true) → (get key (c', w')).1 = .ok (readBack content))
        ∧ ((∀ content t, IsLatest ⟨pages, w.clock⟩ requests key content t →
            ¬(c.ttl = 0 ∨ (w'.clock.sub t).isBelow c.ttl = true)) →
          (get key (c', w')).1 = .error (.cacheMiss key none)))
      ∧ (∀ (request : Request) key other, request.key? = some key → IsKey key → IsKey other → other ≠ key →
        (get other (request.perform (c', w')).2).1 = (get other (c', w')).1)
      ∧ c'.hits = c.hits + replies.countP Reply.isHit
      ∧ c'.misses = c.misses + replies.countP Reply.isMiss
      ∧ c'.stores = c.stores + requests.countP Request.isStore := by
  have start : Keeps ⟨pages, w.clock⟩ c w := ⟨calm, rfl, housed, fun key hex => held key hex ▸ .of_page _⟩
  obtain ⟨c', w', ran, kept, counts⟩ := start.run proper
  refine ⟨_, c', w', ran, rfl, kept, fun key hex => ⟨fun content t latest alive => ?_, fun gone => ?_⟩,
    fun request key other named hex hex' differs => kept.get_other named hex hex' differs,
    counts.hits, counts.misses, counts.stores⟩
  · have page := Shelf.pages_afterAll_iff.2 latest
    rw [kept.get_eq hex, counts.ttl, Shelf.fresh?_of_fresh page (isFreshAt_iff.2 (kept.clock ▸ alive))]
  · have missing : ((Shelf.mk pages w.clock).afterAll requests).fresh? c.ttl key = none := by
      rw [Option.eq_none_iff_forall_ne_some]
      intro content found
      obtain ⟨t, page, fresh⟩ := Shelf.fresh?_eq_some_iff.1 found
      exact gone content t (Shelf.pages_afterAll_iff.1 page) (kept.clock ▸ isFreshAt_iff.1 fresh)
    rw [kept.get_eq hex, counts.ttl, missing]

/-- A cache whose pages live for five seconds. -/
def shortLived : Cache :=
  ⟨.read "c", 5, 0, 0, 0⟩

/-- A world in which the directory of that cache is empty. -/
def emptyHouse : World where
  disk := ⟨["w"], [(["w"], .directory (.zero false)), (["w", "c"], .directory (.zero false))]⟩
  clock := .ofInt 100
  weather := .calm
  tick := 0
  log := []

/-- A key. -/
def someKey : String :=
  String.ofList (List.replicate 64 'a')

theorem isKey_someKey : IsKey someKey :=
  isKey_ofList List.length_replicate fun _ mem => List.eq_of_mem_replicate mem ▸ rfl

theorem node?_emptyHouse (name : String) : emptyHouse.disk.node? ["w", "c", name] = none := by
  simp [Disk.node?, emptyHouse, List.lookup_cons]

theorem housed_emptyHouse : Housed shortLived emptyHouse.disk where
  above := by decide
  directory := by decide +kernel
  room := by decide
  temporary := ⟨["w", "c", ".template_0.tmp"], by decide +kernel⟩
  listed name _ there := absurd (node?_emptyHouse name) there

/-- A page that was stored at 100 is found at 104, and at 106 it is not. -/
theorem page_expires :
    (∃ replies c' w', run [.store someKey "a\r\nb", .wait (.ofInt 104)] (shortLived, emptyHouse) = (replies, c', w')
      ∧ (get someKey (c', w')).1 = .ok "a\nb" ∧ c'.stores = 1)
    ∧ ∃ replies c' w', run [.store someKey "a\r\nb", .wait (.ofInt 106)] (shortLived, emptyHouse) = (replies, c', w')
      ∧ (get someKey (c', w')).1 = .error (.cacheMiss someKey none) := by
  have proper (later : Int) (le : Binary64.ofInt 100 ≤ Binary64.ofInt later) :
      AreProper emptyHouse.clock [.store someKey "a\r\nb", .wait (.ofInt later)] :=
    ⟨isKey_someKey, le, trivial⟩
  have held (key : String) (_ : IsKey key) :
      emptyHouse.disk.node? (entryPlace (shortLived.directory.resolve emptyHouse.disk.working) key)
        = ((fun _ => none : String → Option (String × Binary64)) key).map fun (content, t) =>
          .file (Utf8.encode content.toList) t :=
    node?_emptyHouse _
  have latest (later : Binary64) : IsLatest ⟨fun _ => none, emptyHouse.clock⟩
      [.store someKey "a\r\nb", .wait later] someKey "a\r\nb" (.ofInt 100) :=
    .inl ⟨[], [.wait later], rfl, rfl, by simp, by simp⟩
  constructor
  · obtain ⟨replies, c', w', ran, -, kept, got, -, -, -, stores⟩ :=
      run_refines_shelf rfl housed_emptyHouse held (proper 104 (by decide +kernel))
    have clock : w'.clock = .ofInt 104 := kept.clock
    refine ⟨replies, c', w', ran, ((got _ isKey_someKey).1 _ _ (latest _) (.inr ?_)).trans rfl, stores⟩
    rw [clock]
    decide +kernel
  · obtain ⟨replies, c', w', ran, -, kept, got, -⟩ :=
      run_refines_shelf rfl housed_emptyHouse held (proper 106 (by decide +kernel))
    have clock : w'.clock = .ofInt 106 := kept.clock
    refine ⟨replies, c', w', ran, (got _ isKey_someKey).2 fun content t stored => ?_⟩
    have same := (Shelf.pages_afterAll_iff.2 (latest (.ofInt 106))).symm.trans (Shelf.pages_afterAll_iff.2 stored)
    obtain ⟨-, rfl⟩ := Prod.mk.inj (Option.some.inj same)
    rw [clock]
    decide +kernel

end Cache

end Stencil
