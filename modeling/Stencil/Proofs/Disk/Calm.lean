import Stencil.Proofs.Disk.Agreement

/-!
# Operations in calm weather

In calm weather an operation does to the disk what it is for. Where it needs a file that is there, or a
place that is free, that is all that it needs. `Disk.ChangedAt` and `Disk.Emptied` say what a change leaves as it
was.
-/

namespace Stencil

variable {place : List String} {p : DiskPath} {d d' : Disk} {w w' : World}

namespace Disk

/-- At one place there now stands what is given, and nothing else has changed. -/
structure ChangedAt (place : List String) (node : Option DiskNode) (d d' : Disk) : Prop where
  working : d'.working = d.working
  here : d'.node? place = node
  others : ∀ other, other ≠ place → d'.node? other = d.node? other

namespace ChangedAt

variable {node : Option DiskNode} {other : List String} (h : ChangedAt place node d d')
  (free : ∀ t, d.node? place ≠ some (.directory t))
include h free

/-- Directories stay where something else changes. -/
theorem directory {t : Binary64} (there : d.node? other = some (.directory t)) :
    d'.node? other = some (.directory t) := by
  rw [h.others, there]
  rintro rfl
  exact free t there

theorem locate (located : d.locate p = .ok other) : d'.locate p = .ok other :=
  locate_of_directories h.working (fun _ t there => ⟨t, h.directory free there⟩) located

end ChangedAt

theorem find_of_absent (located : d.locate p = .ok place) (free : d.node? place = none) :
    d.find p = .error (failure p .missing) := by
  unfold find
  rw [located]
  dsimp only [bind, Except.bind]
  rw [free]

theorem read_of_absent (located : d.locate p = .ok place) (free : d.node? place = none) :
    d.read p = .error (failure p .missing) := by
  unfold read
  rw [find_of_absent located free]
  rfl

theorem changedAt_put (inside : place ≠ []) (node : DiskNode) : ChangedAt place (some node) d (d.put place node) :=
  ⟨rfl, node?_put_self inside, fun _ differs => node?_put_other differs⟩

theorem changedAt_drop (inside : place ≠ []) : ChangedAt place none d (d.drop place) :=
  ⟨rfl, node?_drop_self inside, fun _ differs => node?_drop_other differs⟩

section Files

variable {clock t : Binary64} {content bytes : List UInt8}

theorem createFile_of_free (located : d.locate p = .ok place) (free : d.node? place = none) :
    d.createFile clock p = .ok (d.put place (.file [] clock)) := by
  unfold createFile
  rw [located]
  dsimp only [bind, Except.bind]
  rw [free]

theorem append_of_file (located : d.locate p = .ok place) (here : d.node? place = some (.file content t)) :
    d.append clock p bytes = .ok (d.put place (.file (content ++ bytes) clock)) := by
  unfold append
  rw [located]
  dsimp only [bind, Except.bind]
  rw [here]

theorem replace_of_file {target : DiskPath} {goal : List String} (located : d.locate p = .ok place)
    (located' : d.locate target = .ok goal) (here : d.node? place = some (.file content t))
    (free : ∀ t, d.node? goal ≠ some (.directory t)) :
    d.replace p target = .ok ((d.drop place).put goal (.file content t)) := by
  unfold replace
  dsimp only
  rw [locate_eq_ok_iff.1 located, locate_eq_ok_iff.1 located']
  dsimp only
  rw [here]
  cases there : d.node? goal with
  | none => rfl
  | some node =>
    cases node with
    | directory t' => exact absurd there (free t')
    | file content' t' => rfl

end Files

/-- At these places nothing stands any more, and nothing else has changed. -/
structure Emptied (places : List String → Prop) (d d' : Disk) : Prop where
  working : d'.working = d.working
  gone : ∀ place, places place → d'.node? place = none
  others : ∀ place, ¬places place → d'.node? place = d.node? place

end Disk

open Disk (ChangedAt)

namespace Work

theorem remove_calm (calm : w.weather = .calm) (located : w.disk.locate p = .ok place)
    (free : ∀ t, w.disk.node? place ≠ some (.directory t)) :
    ∃ w', remove p w = (.ok (), w') ∧ World.Next (ChangedAt place none) w w' := by
  cases here : w.disk.node? place with
  | none =>
    have missing : w.disk.remove p = .error (Disk.failure p .missing) := by
      unfold Disk.remove
      rw [located]
      dsimp only [bind, Except.bind]
      rw [here]
    refine ⟨_, change_calm calm w.disk ?_, ⟨rfl, rfl, ⟨rfl, here, fun _ _ => rfl⟩⟩⟩
    rw [missing]
    rfl
  | some node =>
    cases node with
    | directory t => exact absurd here (free t)
    | file content t =>
      refine ⟨_, change_calm calm (w.disk.drop place) ?_,
        ⟨rfl, rfl, Disk.changedAt_drop (Disk.ne_nil_of_no_directory free)⟩⟩
      rw [Disk.remove_of_file located here]

theorem append_calm {bytes : List UInt8} {changed : Disk} (calm : w.weather = .calm)
    (done : w.disk.append w.clock p bytes = .ok changed) :
    append p bytes w = (.ok (), { w with tick := w.tick + 1, disk := changed }) := by
  have still : w.weather.strike w.tick .append p = none := by
    rw [calm]
    rfl
  unfold append
  rw [still]
  exact change_calm calm changed done

theorem replace_calm {target : DiskPath} {changed : Disk} (calm : w.weather = .calm)
    (done : w.disk.replace p target = .ok changed) :
    replace p target w = (.ok (), { w with tick := w.tick + 1, disk := changed }) :=
  change_calm calm changed done

theorem createFile_calm {changed : Disk} (calm : w.weather = .calm)
    (done : w.disk.createFile w.clock p = .ok changed) :
    createFile p w = (.ok (), { w with tick := w.tick + 1, disk := changed }) :=
  change_calm calm changed done

theorem inspect_calm (calm : w.weather = .calm) :
    inspect p w = ((w.disk.find p).mapError .disk, { w with tick := w.tick + 1 }) :=
  ask_calm calm (·.find p)

theorem readText_run {bytes : List UInt8} (encoding : Encoding) (calm : w.weather = .calm)
    (read : w.disk.read p = .ok bytes) :
    readText encoding p w
      = (match encoding.decode bytes with
        | .ok chars => .ok (String.ofList (readNewlines chars))
        | .error fault => .error (.undecodable (fault.message encoding.name)), { w with tick := w.tick + 1 }) := by
  unfold readText
  rw [run_ok ((ask_calm calm (·.read p)).trans (by rw [read]; rfl))]
  cases encoding.decode bytes <;> rfl

theorem readText_calm {bytes : List UInt8} {chars : List Char} (calm : w.weather = .calm)
    (read : w.disk.read p = .ok bytes) (decoded : Utf8.decode bytes = .ok chars) :
    readText .utf8 p w = (.ok (String.ofList (readNewlines chars)), { w with tick := w.tick + 1 }) := by
  rw [readText_run _ calm read]
  dsimp only [Encoding.decode]
  rw [decoded]

theorem readText_missing (calm : w.weather = .calm) (located : w.disk.locate p = .ok place)
    (free : w.disk.node? place = none) :
    readText .utf8 p w = (.error (.disk (Disk.failure p .missing)), { w with tick := w.tick + 1 }) := by
  unfold readText
  rw [run_error (ask_calm calm (·.read p) |>.trans (by rw [Disk.read_of_absent located free]; rfl))]

/-- A question to the presence of something is answered as the disk stands, if what the disk fails with is never
that there is nothing. -/
theorem askPresence_calm {question : Disk → Except DiskFault Bool} {otherwise : Bool} (calm : w.weather = .calm)
    (loud : ∀ fault, question w.disk = .error fault → fault.isAbsence = false) :
    askPresence p question otherwise w = ((question w.disk).mapError .disk, { w with tick := w.tick + 1 }) := by
  unfold askPresence
  rw [run_ok (outcome_run (ask_calm calm question))]
  cases answered : question w.disk with
  | ok answer => rfl
  | error fault =>
    dsimp only [Except.mapError]
    rw [loud fault answered]
    rfl

theorem isFile_run (calm : w.weather = .calm) :
    isFile p w = ((w.disk.isFile p).mapError .disk, { w with tick := w.tick + 1 }) := by
  rw [isFile_calm calm]
  refine askPresence_calm calm fun fault failed => ?_
  rw [(Disk.isFile_eq_error_iff.1 failed).2]
  rfl

theorem isDirectory_run (calm : w.weather = .calm) :
    isDirectory p w = ((w.disk.isDirectory p).mapError .disk, { w with tick := w.tick + 1 }) := by
  refine askPresence_calm calm fun fault failed => ?_
  rw [(Disk.isDirectory_eq_error_iff.1 failed).2]
  rfl

theorem isFile_of_find {node : DiskNode} (calm : w.weather = .calm) (found : w.disk.find p = .ok node) :
    isFile p w = (.ok node.isFile, { w with tick := w.tick + 1 }) := by
  have answered : w.disk.isFile p = .ok node.isFile := by
    unfold Disk.isFile
    rw [Disk.find?_eq_some_iff.2 found]
    rfl
  rw [isFile_run calm, answered]
  rfl

end Work

end Stencil
