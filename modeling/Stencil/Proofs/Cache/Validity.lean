import Stencil.Proofs.Cache.Runs

/-!
# When a page counts as cached

Looking for the entry of a key may end in six ways (`Cache.Seeks`), which `Cache.seeks_hasValid` shows in calm
weather for every lifetime, every key, every disk and every time. From them follows what an answer tells about the
disk, and what looking leaves of it (`Cache.hasValid_iff_fresh`).

Pages that live for ever are not looked at, so with them every key counts as cached, also one for which nothing was
ever stored (`Cache.absent_entry_counts`).
-/

namespace Stencil

open Disk (ChangedAt)

namespace Cache

variable {c : Cache} {key : String} {w w' : World} {p : DiskPath} {ttl : Nat}

/-- How looking for the entry of a key may end, and the disk that it leaves. -/
inductive Seeks (c : Cache) (key : String) (w : World) : Except Fault Bool → Disk → Prop where
  | forever (forever : c.ttl = 0) : Seeks c key w (.ok true) w.disk
  | fresh {node : DiskNode} (mortal : c.ttl ≠ 0) (found : w.disk.find (c.pathFor key) = .ok node)
    (young : (w.clock.sub node.changed).isBelow c.ttl = true) : Seeks c key w (.ok true) w.disk
  | stale {content : List UInt8} {t : Binary64} {d : Disk} (mortal : c.ttl ≠ 0)
    (found : w.disk.find (c.pathFor key) = .ok (.file content t)) (old : (w.clock.sub t).isBelow c.ttl = false)
    (removed : ChangedAt ((c.pathFor key).resolve w.disk.working) none w.disk d) : Seeks c key w (.ok false) d
  /-- A directory stands where the entry would be, and is not removed. -/
  | blocked {t : Binary64} (mortal : c.ttl ≠ 0) (found : w.disk.find (c.pathFor key) = .ok (.directory t))
    (old : (w.clock.sub t).isBelow c.ttl = false) : Seeks c key w (.ok false) w.disk
  | absent {details : DiskFault} (mortal : c.ttl ≠ 0) (failed : w.disk.find (c.pathFor key) = .error details)
    (missing : details.isMissing = true) : Seeks c key w (.ok false) w.disk
  /-- The path of the entry leads nowhere for another reason than that there is no such file. -/
  | unreachable {details : DiskFault} (mortal : c.ttl ≠ 0) (failed : w.disk.find (c.pathFor key) = .error details)
    (other : details.isMissing = false) : Seeks c key w (.error (.disk details)) w.disk

theorem isFreshAt_mortal (mortal : ttl ≠ 0) (now t : Binary64) : isFreshAt ttl now t = (now.sub t).isBelow ttl := by
  rw [isFreshAt, decide_eq_false mortal, Bool.false_or]

theorem removeNoting_of_directory {t : Binary64} (what : String) (calm : w.weather = .calm)
    (found : w.disk.find p = .ok (.directory t)) :
    ∃ w', removeNoting what p w = (.ok false, w') ∧ World.Next Eq w w' := by
  have refused : w.disk.remove p = .error (Disk.failure p .isDirectory) := by
    obtain ⟨place, located, here⟩ := Disk.find_eq_ok_iff.1 found
    unfold Disk.remove
    rw [located]
    dsimp only [bind, Except.bind]
    rw [here]
  have failed : Work.remove p w
      = (.error (.disk (Disk.failure p .isDirectory)), { w with tick := w.tick + 1 }) := by
    unfold Work.remove Work.change
    rw [Work.operate_calm calm]
    dsimp only
    rw [refused]
    rfl
  obtain ⟨w', noted, next⟩ := note_run .error
    (what ++ " " ++ p.text ++ ": " ++ (Fault.disk (Disk.failure p .isDirectory)).message) { w with tick := w.tick + 1 }
  refine ⟨w', ?_, ⟨next.clock, next.weather, next.disk⟩⟩
  unfold removeNoting
  rw [run_ok (Work.outcome_run failed)]
  exact run_ok noted _

/-- In calm weather looking for an entry ends in one of these ways. -/
theorem seeks_hasValid (c : Cache) (key : String) (calm : w.weather = .calm) :
    ∃ r w', c.hasValid key w = (r, w') ∧ Seeks c key w r w'.disk := by
  by_cases forever : c.ttl = 0
  · exact ⟨_, w, hasValid_forever forever, .forever forever⟩
  cases found : w.disk.find (c.pathFor key) with
  | error details =>
    refine ⟨_, _, hasValid_of_unfound calm forever found, ?_⟩
    cases missing : details.isMissing with
    | true => exact .absent forever found missing
    | false => exact .unreachable forever found missing
  | ok node =>
    have age := isFreshAt_mortal forever w.clock node.changed
    cases young : (w.clock.sub node.changed).isBelow c.ttl with
    | true =>
      obtain ⟨w', looked, next⟩ := hasValid_of_fresh calm found (age.trans young)
      exact ⟨_, w', looked, next.disk ▸ .fresh forever found young⟩
    | false =>
      cases node with
      | file content t =>
        obtain ⟨place, located, here⟩ := Disk.find_eq_ok_iff.1 found
        obtain ⟨w', looked, next⟩ := hasValid_of_stale_file calm forever located here (age.trans young)
        have removed := next.disk
        rw [Disk.eq_resolve_of_locate located] at removed
        exact ⟨_, w', looked, .stale forever found young removed⟩
      | directory t =>
        obtain ⟨w₁, next, looked⟩ := hasValid_of_stale calm forever found (age.trans young)
        obtain ⟨w', kept, next'⟩ := removeNoting_of_directory "Failed to delete stale cache file"
          (next.weather.trans calm) (next.disk ▸ found)
        refine ⟨_, w', looked _ _ kept, ?_⟩
        rw [← next'.disk, ← next.disk]
        exact .blocked forever found young

namespace Seeks

variable {r : Except Fault Bool} {d : Disk}

theorem eq_true_iff (h : Seeks c key w r d) : r = .ok true ↔ c.ttl = 0
    ∨ ∃ node, w.disk.find (c.pathFor key) = .ok node ∧ (w.clock.sub node.changed).isBelow c.ttl = true := by
  cases h with
  | forever forever => exact iff_of_true rfl (.inl forever)
  | fresh mortal found young => exact iff_of_true rfl (.inr ⟨_, found, young⟩)
  | stale mortal found old | blocked mortal found old =>
    refine iff_of_false nofun ?_
    rintro (forever | ⟨node, found', young⟩)
    · exact mortal forever
    · obtain rfl := Except.ok.inj (found.symm.trans found')
      cases old.symm.trans young
  | absent mortal failed | unreachable mortal failed =>
    refine iff_of_false nofun ?_
    rintro (forever | ⟨node, found, -⟩)
    · exact mortal forever
    · cases failed.symm.trans found

theorem eq_error_iff (h : Seeks c key w r d) (fault : Fault) : r = .error fault ↔ c.ttl ≠ 0
    ∧ ∃ details, w.disk.find (c.pathFor key) = .error details
      ∧ details.isMissing = false ∧ fault = .disk details := by
  cases h with
  | forever forever => exact iff_of_false nofun fun h => h.1 forever
  | fresh _ found | stale _ found | blocked _ found =>
    refine iff_of_false nofun ?_
    rintro ⟨-, details, failed, -⟩
    cases found.symm.trans failed
  | absent _ failed missing =>
    refine iff_of_false nofun ?_
    rintro ⟨-, details, failed', other, -⟩
    obtain rfl := Except.error.inj (failed.symm.trans failed')
    cases missing.symm.trans other
  | @unreachable details mortal failed other =>
    constructor
    · intro same
      exact ⟨mortal, details, failed, other, (Except.error.inj same).symm⟩
    · rintro ⟨-, details', failed', -, rfl⟩
      rw [Except.error.inj (failed.symm.trans failed')]

/-- Where no entry counts there is none afterwards. -/
theorem not_file_of_false (h : Seeks c key w (.ok false) d) (content : List UInt8) (t : Binary64) :
    d.find (c.pathFor key) ≠ .ok (.file content t) := by
  intro there
  cases h with
  | stale _ _ _ removed =>
    obtain ⟨place, located, here⟩ := Disk.find_eq_ok_iff.1 there
    have same := Disk.eq_resolve_of_locate located
    rw [removed.working] at same
    rw [same, removed.here] at here
    cases here
  | blocked _ found => cases found.symm.trans there
  | absent _ failed => cases failed.symm.trans there

/-- Looking removes a stale file, and changes nothing else. -/
theorem disk_cases (h : Seeks c key w r d) : d = w.disk ∨ (r = .ok false
    ∧ (∃ content t, w.disk.find (c.pathFor key) = .ok (.file content t))
    ∧ ChangedAt ((c.pathFor key).resolve w.disk.working) none w.disk d) := by
  cases h with
  | forever | fresh | blocked | absent | unreachable => exact .inl rfl
  | stale _ found _ removed => exact .inr ⟨rfl, ⟨_, _, found⟩, removed⟩

end Seeks

/-- An entry counts exactly if pages live for ever, or if there is something at the path of the entry whose age is
below the lifetime. Looking for it ends with a fault exactly if pages do not live for ever and the path leads
nowhere for another reason than that there is no such file. Where it does not count there is no such file
afterwards. All that looking ever changes is that a stale file is gone. -/
theorem hasValid_iff_fresh (c : Cache) (key : String) (calm : w.weather = .calm) :
    ∃ r w', c.hasValid key w = (r, w')
      ∧ (r = .ok true ↔ c.ttl = 0
        ∨ ∃ node, w.disk.find (c.pathFor key) = .ok node ∧ (w.clock.sub node.changed).isBelow c.ttl = true)
      ∧ (∀ fault, r = .error fault ↔ c.ttl ≠ 0 ∧ ∃ details, w.disk.find (c.pathFor key) = .error details
        ∧ details.isMissing = false ∧ fault = .disk details)
      ∧ (r = .ok false → ∀ content t, w'.disk.find (c.pathFor key) ≠ .ok (.file content t))
      ∧ (w'.disk = w.disk ∨ (r = .ok false
        ∧ (∃ content t, w.disk.find (c.pathFor key) = .ok (.file content t))
        ∧ ChangedAt ((c.pathFor key).resolve w.disk.working) none w.disk w'.disk)) := by
  obtain ⟨r, w', looked, seeks⟩ := seeks_hasValid c key calm
  refine ⟨r, w', looked, seeks.eq_true_iff, seeks.eq_error_iff, ?_, seeks.disk_cases⟩
  rintro rfl
  exact seeks.not_file_of_false

/-- A world in which a page was stored five seconds ago. -/
def agedHouse : World :=
  { emptyHouse with disk := emptyHouse.disk.put ["w", "c", "template_k.html"] (.file [97] (.ofInt 95)) }

/-- A page that is as old as pages get does not count, and its file is gone. -/
theorem page_as_old_as_the_lifetime :
    agedHouse.weather = .calm
      ∧ ∃ w', shortLived.hasValid "k" agedHouse = (.ok false, w')
        ∧ ∀ content t, w'.disk.find (shortLived.pathFor "k") ≠ .ok (.file content t) := by
  have there : agedHouse.disk.find (shortLived.pathFor "k") = .ok (.file [97] (.ofInt 95)) := by decide +kernel
  refine ⟨rfl, ?_⟩
  obtain ⟨r, w', looked, valid, broken, gone, -⟩ := hasValid_iff_fresh (w := agedHouse) shortLived "k" rfl
  cases r with
  | error fault =>
    obtain ⟨-, details, failed, -⟩ := (broken fault).1 rfl
    cases there.symm.trans failed
  | ok counts =>
    cases counts with
    | true =>
      obtain forever | ⟨node, found, young⟩ := valid.1 rfl
      · cases forever
      · obtain rfl := Except.ok.inj (there.symm.trans found)
        exact absurd young (by decide +kernel)
    | false => exact ⟨w', looked, gone rfl⟩

/-- Where pages live for ever a key counts as cached although its entry does not exist. -/
theorem absent_entry_counts :
    ({ shortLived with ttl := 0 }.hasValid "k" emptyHouse).1.toOption = some true
      ∧ (emptyHouse.disk.find ({ shortLived with ttl := 0 }.pathFor "k")).toOption = none := by
  decide +kernel

end Cache

end Stencil
