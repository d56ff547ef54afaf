import Stencil.Proofs.Cache.Runs

/-!
# Storing a page is atomic

A page goes to a temporary file first, and that file as a whole takes the place of the entry. So storing either
does all that it is for or nothing (`Cache.store_atomic`), whichever of its operations fails. Only the removal of
the temporary file after a failure must not fail too, and the page must have bytes.

The same goes for what others see while a page is being stored. Between two operations, and while the temporary
file grows, the disk is as it would be left if everything stopped then. So a moment of a run is the end of the run
in a world that is stopped there (`World.stoppedAt`), and since `Cache.Stores` is about all weathers it is about
all moments too.
-/

namespace Stencil

/-- The weather with which from the operation number `n` on nothing succeeds. Of bytes that are to be written
then, only the first `written` are. -/
def Weather.stoppedAt (weather : Weather) (n written : Nat) : Weather :=
  { weather with
    strike := fun tick operation p =>
      if n ≤ tick then some ⟨.broken "stopped", written⟩ else weather.strike tick operation p }

/-- The world that is stopped at the operation number `n`. What work leaves on its disk is what is there at that
moment of the work. -/
def World.stoppedAt (w : World) (n written : Nat) : World :=
  { w with weather := w.weather.stoppedAt n written }

open Disk (ChangedAt)

namespace Cache

variable {c c' : Cache} {key content : String} {w w' : World} {r : Except Fault Bool}

/-- The entry and the temporary file lie at different places. -/
theorem goal_ne_origin {goal origin : List String} (goes : w.disk.locate (c.pathFor key) = .ok goal)
    (located : w.disk.locate (c.temporaryPath w.disk) = .ok origin) : goal ≠ origin := by
  rw [Disk.eq_resolve_of_locate goes, Disk.eq_resolve_of_locate located]
  exact resolve_pathFor_ne_temporaryPath _ _ _

namespace Stores

/-- However storing ends, the path of the entry leads to what it led to, or to the page as a whole. -/
theorem find_pathFor {d : Disk} (h : Stores c key content w r c' d) :
    (∀ node, d.find (c.pathFor key) = .ok node ↔ w.disk.find (c.pathFor key) = .ok node)
      ∨ d.find (c.pathFor key) = .ok (.file (Utf8.encode content.toList) w.clock) := by
  cases h with
  | stored _ _ _ goes free =>
    refine .inr (Disk.find_eq_ok_iff.2 ⟨_, Disk.locate_put free goes, ?_⟩)
    exact Disk.node?_put_self (Disk.ne_nil_of_no_directory free)
  | unwritten => exact .inl fun _ => Iff.rfl
  | leftover _ _ located unused _ | unencodable _ located unused =>
    refine .inl fun node => ?_
    rw [Disk.find_eq_ok_iff, Disk.find_eq_ok_iff]
    refine exists_congr fun goal => ?_
    rw [Disk.locate_put_file_iff (Disk.not_directory_of_absent unused)]
    refine and_congr_right fun goes => ?_
    rw [Disk.node?_put_other (goal_ne_origin goes located)]

/-- A page that was stored is the entry, nothing else has changed, and there is no temporary file. -/
theorem of_ok_true {d : Disk} (h : Stores c key content w (.ok true) c' d) :
    ¬Interrupted c key content w ∧ c' = { c with stores := c.stores + 1 }
      ∧ d.find (c.pathFor key) = .ok (.file (Utf8.encode content.toList) w.clock)
      ∧ ChangedAt ((c.pathFor key).resolve w.disk.working) (some (.file (Utf8.encode content.toList) w.clock)) w.disk d
      ∧ d.find (c.temporaryPath w.disk) = .error (Disk.failure (c.temporaryPath w.disk) .missing) := by
  cases h with
  | stored whole located unused goes free =>
    have changed := Disk.changedAt_put (d := w.disk) (Disk.ne_nil_of_no_directory free)
      (.file (Utf8.encode content.toList) w.clock)
    have gone := (changed.others _ (goal_ne_origin goes located).symm).trans unused
    refine ⟨whole, rfl, ?_, Disk.eq_resolve_of_locate goes ▸ changed, ?_⟩
    · exact Disk.find_eq_ok_iff.2 ⟨_, Disk.locate_put free goes, changed.here⟩
    · exact Disk.find_of_absent (Disk.locate_put free located) gone

/-- A page that was not stored leaves no trace. -/
theorem of_ok_false {d : Disk} (h : Stores c key content w (.ok false) c' d) :
    Interrupted c key content w ∧ c' = c ∧ d = w.disk := by
  cases h with
  | unwritten stopped => exact ⟨stopped, rfl, rfl⟩

/-- A temporary file that is left holds the beginning of the page, and nothing else has changed. -/
theorem of_error {d : Disk} {fault : Fault} (h : Stores c key content w (.error fault) c' d) :
    c' = c ∧ ∃ part, part <+: Utf8.encode content.toList
      ∧ ((Interrupted c key content w ∧ w.weather.Strikes .remove (c.temporaryPath w.disk) fault)
        ∨ (w.weather.Refuses content fault ∧ part = []))
      ∧ ChangedAt ((c.temporaryPath w.disk).resolve w.disk.working) (some (.file part w.clock)) w.disk d := by
  have changed {origin : List String} {part : List UInt8} (located : w.disk.locate (c.temporaryPath w.disk) = .ok origin)
      (unused : w.disk.node? origin = none) :
      ChangedAt ((c.temporaryPath w.disk).resolve w.disk.working) (some (.file part w.clock)) w.disk
        (w.disk.put origin (.file part w.clock)) :=
    Disk.eq_resolve_of_locate located
      ▸ Disk.changedAt_put (Disk.ne_nil_of_no_directory (Disk.not_directory_of_absent unused)) _
  cases h with
  | leftover stopped struck located unused begun =>
    exact ⟨rfl, _, begun, .inl ⟨stopped, struck⟩, changed located unused⟩
  | unencodable refused located unused =>
    exact ⟨rfl, _, List.nil_prefix, .inr ⟨refused, rfl⟩, changed located unused⟩

end Stores

/-- The disk at a moment while a page is being stored: before the operation number `n`, or while that one writes and
has written so many bytes. -/
def diskWhileStoring (c : Cache) (key content : String) (w : World) (n written : Nat) : Disk :=
  (store key content (c, w.stoppedAt n written)).2.2.disk

/-- Storing a page is atomic, in any weather. Where an operation fails the page is not stored, and the cache and the
whole disk are as they were. Else it is stored: it is the entry, nothing else on the disk has changed, no
temporary file is left and one more page is counted. Only if the temporary file cannot be removed after a failure
that failure is passed on and the file stays; and the temporary file for a page that has no bytes is made, stays empty
and is left. At every moment in between, also while the page is being written, the path of the entry leads to what it
led to before or to the whole page. -/
theorem store_atomic (c : Cache) (key content : String) (w : World) :
    (∃ r c' w', store key content (c, w) = (r, c', w')
      ∧ ((Interrupted c key content w ∧ r = .ok false ∧ c' = c ∧ w'.disk = w.disk)
        ∨ (¬Interrupted c key content w ∧ r = .ok true ∧ c' = { c with stores := c.stores + 1 }
          ∧ w'.disk.find (c.pathFor key) = .ok (.file (Utf8.encode content.toList) w.clock)
          ∧ ChangedAt ((c.pathFor key).resolve w.disk.working) (some (.file (Utf8.encode content.toList) w.clock))
            w.disk w'.disk
          ∧ w'.disk.find (c.temporaryPath w.disk) = .error (Disk.failure (c.temporaryPath w.disk) .missing))
        ∨ (Interrupted c key content w ∧ c' = c ∧ (∃ fault, r = .error fault
            ∧ w.weather.Strikes .remove (c.temporaryPath w.disk) fault)
          ∧ ∃ part, part <+: Utf8.encode content.toList
            ∧ ChangedAt ((c.temporaryPath w.disk).resolve w.disk.working) (some (.file part w.clock))
              w.disk w'.disk)
        ∨ (c' = c ∧ (∃ fault, r = .error fault ∧ w.weather.Refuses content fault)
          ∧ ChangedAt ((c.temporaryPath w.disk).resolve w.disk.working) (some (.file [] w.clock)) w.disk w'.disk)))
      ∧ ∀ n written,
        (∀ node, (diskWhileStoring c key content w n written).find (c.pathFor key) = .ok node
          ↔ w.disk.find (c.pathFor key) = .ok node)
        ∨ (diskWhileStoring c key content w n written).find (c.pathFor key)
          = .ok (.file (Utf8.encode content.toList) w.clock) := by
  constructor
  · obtain ⟨r, c', w', run, -, -, ending⟩ := store_run c key content w
    refine ⟨r, c', w', run, ?_⟩
    cases r with
    | error fault =>
      obtain ⟨kept, part, begun, ⟨stopped, struck⟩ | ⟨refused, rfl⟩, left⟩ := ending.of_error
      · exact .inr (.inr (.inl ⟨stopped, kept, ⟨fault, rfl, struck⟩, part, begun, left⟩))
      · exact .inr (.inr (.inr ⟨kept, ⟨fault, rfl, refused⟩, left⟩))
    | ok stored =>
      cases stored with
      | false =>
        obtain ⟨stopped, kept, same⟩ := ending.of_ok_false
        exact .inl ⟨stopped, rfl, kept, same⟩
      | true =>
        obtain ⟨whole, counted, found, changed, gone⟩ := ending.of_ok_true
        exact .inr (.inl ⟨whole, rfl, counted, found, changed, gone⟩)
  · intro n written
    obtain ⟨r, c', w', run, -, -, ending⟩ := store_run c key content (w.stoppedAt n written)
    unfold diskWhileStoring
    rw [run]
    exact ending.find_pathFor

/-- While two bytes are stored, the temporary file is made, grows and becomes the entry. -/
example : (List.range 4).map (fun n => (diskWhileStoring shortLived "k" "ab" emptyHouse n 1).nodes.take 1)
    = [[(["w"], .directory (.zero false))],
      [(["w", "c", ".template_0.tmp"], .file [97] (.ofInt 100))],
      [(["w", "c", ".template_0.tmp"], .file [97, 98] (.ofInt 100))],
      [(["w", "c", "template_k.html"], .file [97, 98] (.ofInt 100))]] := by
  decide +kernel

end Cache

end Stencil
