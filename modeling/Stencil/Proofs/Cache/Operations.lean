import Stencil.Proofs.Cache.Upkeep

/-!
# What the operations of a cache do

Each operation of a cache tends its disk in the sense of `Disk.Tended`, in any weather and however it ends;
only `Cache.store` adds an entry, with the content that it was given. `Cache.get` answers with nothing but
what an entry holds, and ends without an answer only for want of an entry or by a fault of the disk.

Storing a page ends in one of the ways of `Cache.Stores` (`Cache.store_run`), which also says how far the temporary
file may have come. `Cache.store` fails only if the weather strikes when its temporary file is removed, or if the page
has no bytes.
-/

namespace Stencil

/-- The weather may bring this fault to an operation on a path. -/
def Weather.Strikes (weather : Weather) (operation : Operation) (p : DiskPath) (fault : Fault) : Prop :=
  ∃ tick strike, weather.strike tick operation p = some strike ∧ fault = .disk strike.fault

namespace Weather.Strikes

variable {weather : Weather} {operation : Operation} {p : DiskPath} {fault : Fault}

theorem not_calm (h : weather.Strikes operation p fault) : weather ≠ .calm := by
  rintro rfl
  obtain ⟨tick, strike, struck, -⟩ := h
  cases struck

end Weather.Strikes

/-- The text has no bytes, which ends with this fault. -/
def Weather.Refuses (weather : Weather) (content : String) (fault : Fault) : Prop :=
  ∃ message, weather.broken content = some message ∧ fault = .unencodable message

theorem Weather.Refuses.not_calm {weather : Weather} {content : String} {fault : Fault}
    (h : weather.Refuses content fault) : weather ≠ .calm := by
  rintro rfl
  obtain ⟨message, broken, -⟩ := h
  cases broken

open Disk (LeadsInto)

variable {working place : List String} {directory p : DiskPath} {new : String → List UInt8 → Prop} {w w' : World}

/-- A cache in the given directory has worked in the world, on a disk with the given working directory. -/
abbrev World.TendedFrom (working : List String) (directory : DiskPath) (new : String → List UInt8 → Prop) :
    World → World → Prop :=
  World.Next (Disk.TendedFrom working directory new)

namespace Work

theorem moves_remove (into : LeadsInto directory working p) :
    Moves (World.TendedFrom working directory new) (remove p) := by
  refine moves_change fun d clock changed done from_ => ?_
  split at done
  · obtain rfl := Except.ok.inj done
    exact .rfl
  · exact Disk.tended_remove done (from_ ▸ into)

theorem moves_makeDirectories : Moves (World.TendedFrom working directory new) (makeDirectories directory) :=
  moves_operate fun _ _ => Disk.tended_makeDirectories

theorem failsOnly_remove : FailsOnly (·.isDiskFault) (remove p) :=
  failsOnly_operate

/-- A file that was put where nothing stood can be removed again without a trace, unless the weather strikes. -/
theorem remove_run {d : Disk} {content : List UInt8} {t : Binary64} {r : Except Fault Unit}
    (located : d.locate p = .ok place) (unused : d.node? place = none)
    (made : w.disk = d.put place (.file content t)) (h : remove p w = (r, w')) :
    (w'.clock = w.clock ∧ w'.weather = w.weather)
      ∧ ((r = .ok () ∧ w'.disk = d)
        ∨ ∃ fault, r = .error fault ∧ w.weather.Strikes .remove p fault ∧ w'.disk = w.disk) := by
  have free := Disk.not_directory_of_absent unused
  have removed : w.disk.remove p = .ok d := by
    rw [made, Disk.remove_of_file (Disk.locate_put free located) (Disk.node?_put_self (Disk.ne_nil_of_no_directory free)),
      Disk.drop_put_of_absent unused]
  unfold remove change operate at h
  dsimp only at h
  split at h
  · next strike struck =>
    obtain ⟨rfl, rfl⟩ := Prod.mk.inj h
    exact ⟨⟨rfl, rfl⟩, .inr ⟨_, rfl, ⟨w.tick, strike, struck, rfl⟩, rfl⟩⟩
  · rw [removed] at h
    obtain ⟨rfl, rfl⟩ := Prod.mk.inj h
    exact ⟨⟨rfl, rfl⟩, .inl ⟨rfl, rfl⟩⟩

/-- Bytes are added to a file, perhaps only the first of them if that fails. -/
theorem append_run {bytes : List UInt8} {r : Except Fault Unit} (h : append p bytes w = (r, w')) :
    (w'.clock = w.clock ∧ w'.weather = w.weather)
      ∧ ((r = .ok () ∧ w.disk.append w.clock p bytes = .ok w'.disk)
        ∨ ((∃ fault, r = .error fault)
          ∧ (w'.disk = w.disk ∨ ∃ part, part <+: bytes ∧ w.disk.append w.clock p part = .ok w'.disk))) := by
  unfold append at h
  split at h
  · dsimp only at h
    split at h
    · next changed done =>
      obtain ⟨rfl, rfl⟩ := Prod.mk.inj h
      exact ⟨⟨rfl, rfl⟩, .inr ⟨⟨_, rfl⟩, .inr ⟨_, List.take_prefix _ _, done⟩⟩⟩
    · obtain ⟨rfl, rfl⟩ := Prod.mk.inj h
      exact ⟨⟨rfl, rfl⟩, .inr ⟨⟨_, rfl⟩, .inl rfl⟩⟩
  · obtain ⟨same, done | ⟨failed, kept⟩⟩ := change_run h
    · exact ⟨same, .inl done⟩
    · exact ⟨same, .inr ⟨failed, .inl kept⟩⟩

theorem failsOnly_replace {target : DiskPath} : FailsOnly (·.isDiskFault) (replace p target) :=
  failsOnly_operate

theorem failsOnly_append {bytes : List UInt8} : FailsOnly (·.isDiskFault) (append p bytes) := by
  intro w fault failed
  unfold append at failed
  split at failed
  · dsimp only at failed
    split at failed <;> exact Except.error.inj failed ▸ rfl
  · exact failsOnly_operate w fault failed

theorem readText_eq_ok {encoding : Encoding} {text : String} (h : readText encoding p w = (.ok text, w')) :
    ∃ bytes chars, w.disk.read p = .ok bytes ∧ encoding.decode bytes = .ok chars
      ∧ text = String.ofList (readNewlines chars) := by
  obtain ⟨bytes, between, read, h⟩ | ⟨fault, -, h⟩ := run_cases h
  · cases decoded : encoding.decode bytes with
    | ok chars =>
      rw [decoded] at h
      exact ⟨bytes, chars, ask_eq_ok read, decoded, (Except.ok.inj (Prod.mk.inj h).1).symm⟩
    | error fault =>
      rw [decoded] at h
      cases h
  · cases h

end Work

namespace Cache

variable {c : Cache} {key text : String} {entry : DiskPath} {fault : Fault}

theorem leadsInto_child {name : String} (other : name ≠ DiskPath.above) :
    LeadsInto directory working (directory.child name) := by
  intro _
  rw [DiskPath.resolve_child other]
  exact Disk.isWithin_append_singleton _ _

theorem leadsInto_pathFor (plain : '/' ∉ key.toList) : LeadsInto c.directory working (c.pathFor key) := by
  rw [pathFor_eq plain]
  exact leadsInto_child above_ne_entryName

theorem leadsInto_temporaryPath (d : Disk) : LeadsInto c.directory d.working (c.temporaryPath d) := by
  intro plain
  obtain ⟨name, resolved⟩ := resolve_temporaryPath (c := c) plain
  rw [resolved]
  exact Disk.isWithin_append_singleton _ _

theorem looks_isFresh : Work.Looks (c.isFresh entry) := by
  unfold isFresh
  split
  · exact .pure _
  · exact .bind (Work.looks_inspect _) fun node => .bind Work.looks_get fun w => .pure _

theorem failsOnly_isFresh : FailsOnly (·.isDiskFault) (c.isFresh entry) := by
  unfold isFresh
  split
  · exact .pure _
  · exact .bind Work.failsOnly_operate fun node => .bind (fun _ _ failed => nomatch failed) fun w => .pure _

theorem moves_removeNoting {what : String} (into : LeadsInto directory working entry) :
    Moves (World.TendedFrom working directory new) (removeNoting what entry) := by
  refine .bind (Work.moves_outcome (Work.moves_remove into)) fun result => ?_
  split
  · exact .pure _
  · exact .bind (Work.looks_note _ _ _).moves fun _ => .pure _

theorem failsOnly_removeNoting {E : Fault → Prop} {what : String} : FailsOnly E (removeNoting what entry) := by
  refine .bind (Work.failsOnly_outcome _) fun result => ?_
  split
  · exact .pure _
  · exact .bind Work.failsOnly_note fun _ => .pure _

theorem moves_hasValid (into : LeadsInto directory working (c.pathFor key)) :
    Moves (World.TendedFrom working directory new) (c.hasValid key) := by
  refine .bind (Work.moves_outcome looks_isFresh.moves) fun result => ?_
  split
  · exact .pure _
  · exact .bind (Work.looks_note _ _ _).moves fun _ => .bind (moves_removeNoting into) fun _ => .pure _
  · split
    · exact .pure _
    · exact .throw _

/-- Where a valid entry is found nothing has been removed. -/
theorem hasValid_eq_true (h : c.hasValid key w = (.ok true, w')) : w'.disk = w.disk := by
  obtain ⟨result, between, fresh, h⟩ | ⟨fault, -, h⟩ := run_cases h
  · have same : w.disk = between.disk := (Moves.of_run (Work.moves_outcome looks_isFresh) fresh).disk
    split at h
    · rw [← (Prod.mk.inj h).2, same]
    · obtain ⟨_, _, -, h⟩ | ⟨_, -, h⟩ := run_cases h
      · obtain ⟨_, _, -, h⟩ | ⟨_, -, h⟩ := run_cases h
        · cases h
        · cases h
      · cases h
    · split at h
      · cases h
      · cases h
  · cases h

theorem failsOnly_hasValid : FailsOnly (·.isDiskFault) (c.hasValid key) := by
  refine .bind_of (Work.failsOnly_outcome _) (Work.answersOnly_outcome failsOnly_isFresh) fun result kind => ?_
  split
  · exact .pure _
  · exact .bind Work.failsOnly_note fun _ => .bind failsOnly_removeNoting fun _ => .pure _
  · split
    · exact .pure _
    · exact .throw (kind _ rfl)

/-! ## Finding a page -/

/-- A cache stays in its directory. -/
def SamePlace (c c' : Cache) : Prop :=
  c'.directory = c.directory

instance : IsPreorder Cache SamePlace where
  refl _ := rfl
  trans _ _ _ h h' := Eq.trans h' h

theorem looks_note {level : LogLevel} {message : String} : Work.Looks (note level message) :=
  Work.looks_note _ _ _

theorem note_run (level : LogLevel) (message : String) (w : World) :
    ∃ w', note level message w = (.ok (), w') ∧ World.Next Eq w w' :=
  ⟨_, rfl, ⟨rfl, rfl, rfl⟩⟩

theorem moves_countMiss : Moves (WorkOn.Both SamePlace (World.TendedFrom working directory new)) countMiss :=
  WorkOn.moves_update fun _ => rfl

theorem get_tended (working : List String) (new : String → List UInt8 → Prop) (plain : '/' ∉ key.toList) (c : Cache)
    (w : World) :
    WorkOn.Both SamePlace (World.TendedFrom working c.directory new) (c, w) (get key (c, w)).2 := by
  have into : LeadsInto c.directory working (c.pathFor key) := leadsInto_pathFor plain
  unfold get
  rw [WorkOn.state_bind_run]
  refine Moves.bind (WorkOn.moves_ofWork (moves_hasValid into)) (fun valid => ?_) (c, w)
  split
  · refine Moves.bind (WorkOn.moves_outcome (WorkOn.moves_ofWork (Work.looks_readText _ _).moves)) fun result => ?_
    split
    · exact .bind (WorkOn.moves_update fun _ => rfl) fun _ =>
        .bind (WorkOn.moves_ofWork looks_note.moves) fun _ => .pure _
    · exact .bind (WorkOn.moves_ofWork looks_note.moves) fun _ =>
        .bind (WorkOn.moves_ofWork (Work.moves_remove into)) fun _ => .bind moves_countMiss fun _ => .throw _
    · split
      · exact .bind moves_countMiss fun _ => .throw _
      · exact .throw _
  · exact .bind moves_countMiss fun _ => .bind (WorkOn.moves_ofWork looks_note.moves) fun _ => .throw _

/-- A page that is found is what the entry holds. -/
theorem get_eq_ok {s : Cache × World} (h : get key (c, w) = (.ok text, s)) :
    ∃ bytes chars, w.disk.read (c.pathFor key) = .ok bytes ∧ Utf8.decode bytes = .ok chars
      ∧ text = String.ofList (readNewlines chars) := by
  unfold get at h
  rw [WorkOn.state_bind_run] at h
  obtain ⟨valid, between, looked, h⟩ | ⟨_, -, h⟩ := run_cases h
  · obtain ⟨looked, -⟩ := WorkOn.ofWork_eq looked
    cases valid with
    | false => exact (AnswersOnly.of_run (A := fun _ => False) (.bind fun _ => .bind fun _ => .throw _) h).elim
    | true =>
      have same := hasValid_eq_true looked
      obtain ⟨result, after, read, h⟩ | ⟨_, -, h⟩ := run_cases h
      · obtain ⟨read, -⟩ := WorkOn.ofWork_eq (WorkOn.outcome_eq_ok read)
        refine AnswersOnly.of_run (A := fun text => ∃ bytes chars, w.disk.read (c.pathFor key) = .ok bytes
          ∧ Utf8.decode bytes = .ok chars ∧ text = String.ofList (readNewlines chars)) ?_ h
        split
        · have held := Work.readText_eq_ok read
          rw [same] at held
          exact .bind fun _ => .bind fun _ => .pure held
        · exact .bind fun _ => .bind fun _ => .bind fun _ => .throw _
        · split
          · exact .bind fun _ => .throw _
          · exact .throw _
      · cases h
  · cases h

/-- A page was not found, or the disk failed. -/
def IsMissOrDisk (fault : Fault) : Prop :=
  fault.isDiskFault ∨ ∃ key cause, fault = .cacheMiss key cause

theorem failsOnly_get : FailsOnly IsMissOrDisk (get key) := by
  intro ⟨c, w⟩ fault failed
  unfold get at failed
  rw [WorkOn.state_bind_run] at failed
  refine FailsOnly.bind (E := IsMissOrDisk) ?_ (fun valid => ?_) (c, w) fault failed
  · exact WorkOn.failsOnly_ofWork (failsOnly_hasValid.mono fun _ disk => .inl disk)
  · split
    · refine .bind_of (WorkOn.failsOnly_outcome _)
        (WorkOn.answersOnly_outcome (WorkOn.failsOnly_ofWork Work.failsOnly_readText)) fun result kind => ?_
      split
      · exact .bind (WorkOn.failsOnly_update _) fun _ =>
          .bind (WorkOn.failsOnly_ofWork Work.failsOnly_note) fun _ => .pure _
      · exact .bind (WorkOn.failsOnly_ofWork Work.failsOnly_note) fun _ =>
          .bind (WorkOn.failsOnly_ofWork (Work.failsOnly_remove.mono fun _ disk => .inl disk)) fun _ =>
            .bind (WorkOn.failsOnly_update _) fun _ => .throw (.inr ⟨_, _, rfl⟩)
      · next fault decodable =>
        split
        · exact .bind (WorkOn.failsOnly_update _) fun _ => .throw (.inr ⟨_, _, rfl⟩)
        · rcases kind fault rfl with disk | ⟨message, rfl⟩
          · exact .throw (.inl disk)
          · exact absurd rfl (decodable message)
    · exact .bind (WorkOn.failsOnly_update _) fun _ =>
        .bind (WorkOn.failsOnly_ofWork Work.failsOnly_note) fun _ => .throw (.inr ⟨_, _, rfl⟩)

/-! ## Storing a page -/

/-- An operation fails while a page is stored: the temporary file is not made, or not written to its end and
closed, or not given the name of the entry. -/
inductive Interrupted (c : Cache) (key content : String) (w : World) : Prop where
  | creating {fault : Fault} {w₁ : World}
    (failed : Work.createFile (c.temporaryPath w.disk) w = (.error fault, w₁))
  | writing {fault : Fault} {w₁ w₂ : World}
    (created : Work.createFile (c.temporaryPath w.disk) w = (.ok (), w₁))
    (failed : Work.append (c.temporaryPath w.disk) (Utf8.encode content.toList) w₁ = (.error fault, w₂))
  | renaming {fault : Fault} {w₁ w₂ w₃ : World}
    (created : Work.createFile (c.temporaryPath w.disk) w = (.ok (), w₁))
    (written : Work.append (c.temporaryPath w.disk) (Utf8.encode content.toList) w₁ = (.ok (), w₂))
    (failed : Work.replace (c.temporaryPath w.disk) (c.pathFor key) w₂ = (.error fault, w₃))

/-- How storing a page may end, and what it leaves: the entry as a whole, the disk as it was, the beginning of
the page in a temporary file that cannot be removed, or an empty temporary file for a page that has no bytes. -/
inductive Stores (c : Cache) (key content : String) (w : World) : Except Fault Bool → Cache → Disk → Prop where
  | stored {origin goal : List String} (whole : ¬Interrupted c key content w)
    (located : w.disk.locate (c.temporaryPath w.disk) = .ok origin) (unused : w.disk.node? origin = none)
    (goes : w.disk.locate (c.pathFor key) = .ok goal) (free : ∀ t, w.disk.node? goal ≠ some (.directory t)) :
    Stores c key content w (.ok true) { c with stores := c.stores + 1 }
      (w.disk.put goal (.file (Utf8.encode content.toList) w.clock))
  | unwritten (stopped : Interrupted c key content w) : Stores c key content w (.ok false) c w.disk
  | leftover {fault : Fault} {origin : List String} {part : List UInt8} (stopped : Interrupted c key content w)
    (struck : w.weather.Strikes .remove (c.temporaryPath w.disk) fault)
    (located : w.disk.locate (c.temporaryPath w.disk) = .ok origin) (unused : w.disk.node? origin = none)
    (begun : part <+: Utf8.encode content.toList) :
    Stores c key content w (.error fault) c (w.disk.put origin (.file part w.clock))
  | unencodable {fault : Fault} {origin : List String} (refused : w.weather.Refuses content fault)
    (located : w.disk.locate (c.temporaryPath w.disk) = .ok origin) (unused : w.disk.node? origin = none) :
    Stores c key content w (.error fault) c (w.disk.put origin (.file [] w.clock))

variable {content : String}

theorem fill_of_encodable {temporary : DiskPath} (encodable : w.weather.broken content = none) :
    fill temporary entry content w
      = (do Work.append temporary (Utf8.encode content.toList); Work.replace temporary entry : Work Unit) w := by
  have encoded : Work.encode content w = (.ok (Utf8.encode content.toList), w) := by
    unfold Work.encode
    rw [run_ok (show (MonadState.get : Work World) w = (.ok w, w) from rfl), encodable]
    rfl
  unfold fill
  rw [run_ok encoded]

theorem fill_of_unencodable {temporary : DiskPath} {message : String} (broken : w.weather.broken content = some message) :
    fill temporary entry content w = (.error (.unencodable message), w) := by
  have refused : Work.encode content w = (.error (.unencodable message), w) := by
    unfold Work.encode
    rw [run_ok (show (MonadState.get : Work World) w = (.ok w, w) from rfl), broken]
    rfl
  unfold fill
  rw [run_error refused]

/-- Once the temporary file is made, storing is interrupted if that file is not filled with the bytes of the page. -/
theorem interrupted_iff {w₁ : World} (created : Work.createFile (c.temporaryPath w.disk) w = (.ok (), w₁))
    (encodable : w₁.weather.broken content = none) :
    Interrupted c key content w
      ↔ ∃ fault, (fill (c.temporaryPath w.disk) (c.pathFor key) content w₁).1 = .error fault := by
  rw [fill_of_encodable encodable]
  constructor
  · rintro (failed | ⟨created', failed⟩ | ⟨created', written, failed⟩)
    · cases created.symm.trans failed
    · obtain ⟨-, rfl⟩ := Prod.mk.inj (created.symm.trans created')
      exact ⟨_, congrArg Prod.fst (run_error failed _)⟩
    · obtain ⟨-, rfl⟩ := Prod.mk.inj (created.symm.trans created')
      rw [run_ok written]
      exact ⟨_, congrArg Prod.fst failed⟩
  · rintro ⟨fault, failed⟩
    obtain ⟨⟨⟩, w₂, written, failed'⟩ | ⟨_, failed', -⟩ := run_cases (Prod.ext failed rfl)
    · exact .renaming created written failed'
    · exact .writing created failed'

section Filling

variable {temporary : DiskPath} {origin : List String} {d d' : Disk} {bytes : List UInt8} {t clock : Binary64}

theorem put_of_append (located : d.locate temporary = .ok origin) (unused : d.node? origin = none)
    (h : (d.put origin (.file [] t)).append clock temporary bytes = .ok d') :
    d' = d.put origin (.file bytes clock) := by
  have free := Disk.not_directory_of_absent unused
  obtain ⟨place, content, t', located', here, rfl⟩ := Disk.append_eq_ok h
  obtain rfl := Except.ok.inj ((Disk.locate_put free located).symm.trans located')
  rw [Disk.node?_put_self (Disk.ne_nil_of_no_directory free)] at here
  obtain ⟨rfl, -⟩ := DiskNode.file.inj (Option.some.inj here)
  rw [Disk.put_put, List.nil_append]

theorem put_of_replace (located : d.locate temporary = .ok origin) (unused : d.node? origin = none)
    (h : (d.put origin (.file bytes t)).replace temporary entry = .ok d') :
    ∃ goal, d.locate entry = .ok goal ∧ (∀ t, d.node? goal ≠ some (.directory t))
      ∧ d' = d.put goal (.file bytes t) := by
  have free := Disk.not_directory_of_absent unused
  have inside := Disk.ne_nil_of_no_directory free
  obtain ⟨origin', goal, node, located', goes, here, spared, rfl⟩ := Disk.replace_eq_ok h
  obtain rfl := Except.ok.inj ((Disk.locate_put free located).symm.trans located')
  rw [Disk.node?_put_self inside] at here
  obtain rfl := Option.some.inj here
  refine ⟨goal, (Disk.locate_put_file_iff free).1 goes, fun t' there => ?_, by rw [Disk.drop_put_of_absent unused]⟩
  refine spared ⟨bytes, t, rfl⟩ t' ?_
  rw [Disk.node?_put_other ?_, there]
  rintro rfl
  exact free t' there

/-- A new file that is filled takes the place of the entry as a whole. If the disk fails meanwhile, it is where it was
and holds the beginning of the page. -/
theorem fill_run {r : Except Fault Unit} (encodable : w.weather.broken content = none)
    (located : d.locate temporary = .ok origin) (unused : d.node? origin = none)
    (made : w.disk = d.put origin (.file [] w.clock)) (h : fill temporary entry content w = (r, w')) :
    (w'.clock = w.clock ∧ w'.weather = w.weather)
      ∧ ((r = .ok () ∧ ∃ goal, d.locate entry = .ok goal ∧ (∀ t, d.node? goal ≠ some (.directory t))
          ∧ w'.disk = d.put goal (.file (Utf8.encode content.toList) w.clock))
        ∨ ((∃ fault, r = .error fault ∧ fault.isDiskFault) ∧ ∃ part, part <+: Utf8.encode content.toList
          ∧ w'.disk = d.put origin (.file part w.clock))) := by
  rw [fill_of_encodable encodable] at h
  obtain ⟨⟨⟩, between, appended, h⟩ | ⟨fault, appended, rfl⟩ := run_cases h
  · obtain ⟨⟨clock, weather⟩, ⟨-, done⟩ | ⟨⟨_, failed⟩, -⟩⟩ := Work.append_run appended
    · have full := put_of_append located unused (made ▸ done)
      obtain ⟨⟨clock', weather'⟩, ⟨rfl, moved⟩ | ⟨⟨fault, failed⟩, kept⟩⟩ := Work.change_run h
      · obtain ⟨goal, goes, free, left⟩ := put_of_replace located unused (full ▸ moved)
        exact ⟨⟨clock'.trans clock, weather'.trans weather⟩, .inl ⟨rfl, goal, goes, free, left⟩⟩
      · exact ⟨⟨clock'.trans clock, weather'.trans weather⟩,
          .inr ⟨⟨fault, failed, Work.failsOnly_replace.of_run (failed ▸ h)⟩, _, List.prefix_rfl, kept.trans full⟩⟩
    · cases failed
  · have kind := Work.failsOnly_append.of_run appended
    obtain ⟨same, ⟨done, -⟩ | ⟨-, kept | ⟨part, begun, done⟩⟩⟩ := Work.append_run appended
    · cases done
    · exact ⟨same, .inr ⟨⟨_, rfl, kind⟩, [], List.nil_prefix, kept.trans made⟩⟩
    · exact ⟨same, .inr ⟨⟨_, rfl, kind⟩, part, begun, put_of_append located unused (made ▸ done)⟩⟩

end Filling

section Stages

variable {w₁ w₂ : World}

theorem store_of_uncreated (content : String)
    (failed : Work.createFile (c.temporaryPath w.disk) w = (.error fault, w₁)) :
    ∃ w', store key content (c, w) = (.ok false, c, w') ∧ World.Next Eq w₁ w' := by
  obtain ⟨w', noted, next⟩ :
      ∃ w', noteUnwritten (c.pathFor key) fault w₁ = (.ok (), w') ∧ World.Next Eq w₁ w' := note_run _ _ _
  refine ⟨w', ?_, next⟩
  unfold store
  rw [WorkOn.state_bind_run]
  exact (run_ok (WorkOn.ofWork_run rfl c) _).trans
    ((run_ok (WorkOn.outcome_run (WorkOn.ofWork_run failed c)) _).trans
      ((run_ok (WorkOn.ofWork_run noted c) _).trans rfl))

theorem store_of_filled (created : Work.createFile (c.temporaryPath w.disk) w = (.ok (), w₁))
    (filled : fill (c.temporaryPath w.disk) (c.pathFor key) content w₁ = (.ok (), w₂)) :
    store key content (c, w) = (.ok true, { c with stores := c.stores + 1 }, w₂) := by
  unfold store
  rw [WorkOn.state_bind_run]
  exact (run_ok (WorkOn.ofWork_run rfl c) _).trans
    ((run_ok (WorkOn.outcome_run (WorkOn.ofWork_run created c)) _).trans
      ((run_ok (WorkOn.outcome_run (WorkOn.ofWork_run filled c)) _).trans rfl))

/-- A page that has no bytes leaves the temporary file. -/
theorem store_of_unencodable {message : String} (created : Work.createFile (c.temporaryPath w.disk) w = (.ok (), w₁))
    (broken : w₁.weather.broken content = some message) :
    store key content (c, w) = (.error (.unencodable message), c, w₁) := by
  unfold store
  rw [WorkOn.state_bind_run]
  exact (run_ok (WorkOn.ofWork_run rfl c) _).trans
    ((run_ok (WorkOn.outcome_run (WorkOn.ofWork_run created c)) _).trans
      ((run_ok (WorkOn.outcome_run (WorkOn.ofWork_run (fill_of_unencodable broken) c)) _).trans rfl))

/-- If the disk fails while the temporary file is filled, that file is removed, and storing fails if that fails. -/
theorem store_of_unfilled (created : Work.createFile (c.temporaryPath w.disk) w = (.ok (), w₁))
    (kind : fault.isDiskFault) (failed : fill (c.temporaryPath w.disk) (c.pathFor key) content w₁ = (.error fault, w₂)) :
    ∃ w₃, World.Next Eq w₂ w₃ ∧ store key content (c, w)
      = ((Work.remove (c.temporaryPath w.disk) w₃).1.map fun _ => false,
          c, (Work.remove (c.temporaryPath w.disk) w₃).2) := by
  obtain ⟨w₃, noted, next⟩ :
      ∃ w', noteUnwritten (c.pathFor key) fault w₂ = (.ok (), w') ∧ World.Next Eq w₂ w' := note_run _ _ _
  refine ⟨w₃, next, ?_⟩
  unfold store
  rw [WorkOn.state_bind_run]
  refine (run_ok (WorkOn.ofWork_run rfl c) _).trans
    ((run_ok (WorkOn.outcome_run (WorkOn.ofWork_run created c)) _).trans
      ((run_ok (WorkOn.outcome_run (WorkOn.ofWork_run failed c)) _).trans ?_))
  dsimp only
  rw [if_pos kind]
  refine (run_ok (WorkOn.ofWork_run noted c) _).trans ?_
  rcases removed : Work.remove (c.temporaryPath w.disk) w₃ with ⟨_ | _, w₄⟩
  · exact run_error (WorkOn.ofWork_run removed c) _
  · exact run_ok (WorkOn.ofWork_run removed c) _

end Stages

/-- Storing a page ends in one of these ways, in any weather. -/
theorem store_run (c : Cache) (key content : String) (w : World) :
    ∃ r c' w', store key content (c, w) = (r, c', w') ∧ w'.clock = w.clock ∧ w'.weather = w.weather
      ∧ Stores c key content w r c' w'.disk := by
  rcases created : Work.createFile (c.temporaryPath w.disk) w with ⟨_ | ⟨⟨⟩⟩, w₁⟩
  · obtain ⟨⟨clock, weather⟩, ⟨failed, -⟩ | ⟨-, kept⟩⟩ := Work.change_run created
    · cases failed
    · obtain ⟨w', run, next⟩ := store_of_uncreated content created
      refine ⟨_, _, w', run, next.clock.trans clock, next.weather.trans weather, ?_⟩
      rw [← next.disk, kept]
      exact .unwritten (.creating created)
  · obtain ⟨⟨clock, weather⟩, ⟨-, done⟩ | ⟨⟨_, failed⟩, -⟩⟩ := Work.change_run created
    · obtain ⟨origin, located, unused, disk⟩ := Disk.createFile_eq_ok done
      rw [← clock] at disk
      cases broken : w₁.weather.broken content with
      | some message =>
        refine ⟨_, _, w₁, store_of_unencodable created broken, clock, weather, ?_⟩
        rw [disk, clock]
        exact .unencodable ⟨message, weather ▸ broken, rfl⟩ located unused
      | none =>
        rcases filled : fill (c.temporaryPath w.disk) (c.pathFor key) content w₁ with ⟨result, w₂⟩
        obtain ⟨⟨clock', weather'⟩, ⟨rfl, goal, goes, free, left⟩ | ⟨⟨fault, rfl, kind⟩, part, begun, left⟩⟩ :=
          fill_run broken located unused disk filled
        · refine ⟨_, _, w₂, store_of_filled created filled, clock'.trans clock, weather'.trans weather, ?_⟩
          have whole : ¬Interrupted c key content w := by
            rw [interrupted_iff created broken, filled]
            rintro ⟨_, failed⟩
            cases failed
          rw [left, clock]
          exact .stored whole located unused goes free
        · have stopped : Interrupted c key content w :=
            (interrupted_iff created broken).2 ⟨fault, congrArg Prod.fst filled⟩
          obtain ⟨w₃, next, run⟩ := store_of_unfilled created kind filled
          rcases removed : Work.remove (c.temporaryPath w.disk) w₃ with ⟨cleared, w₄⟩
          rw [removed] at run
          have same : w₃.disk = w.disk.put origin (.file part w₁.clock) := next.disk.symm.trans left
          have weather₃ : w₃.weather = w.weather := next.weather.trans (weather'.trans weather)
          obtain ⟨⟨clock'', weather''⟩, ending⟩ := Work.remove_run located unused same removed
          refine ⟨_, c, w₄, run, clock''.trans (next.clock.trans (clock'.trans clock)), weather''.trans weather₃, ?_⟩
          obtain ⟨rfl, gone⟩ | ⟨failure, rfl, struck, kept⟩ := ending
          · rw [gone]
            exact .unwritten stopped
          · rw [kept, same, clock]
            exact .leftover stopped (weather₃ ▸ struck) located unused begun
    · cases failed

/-- The one entry that is asked for when a page is stored. -/
def Storing (key content : String) (k : String) (bytes : List UInt8) : Prop :=
  k = key ∧ bytes = Utf8.encode content.toList

/-- A new temporary file is no entry. -/
theorem tended_put_temporary {origin : List String} {d : Disk} {part : List UInt8} {t : Binary64}
    (located : d.locate (c.temporaryPath d) = .ok origin) (unused : d.node? origin = none) :
    Disk.TendedFrom d.working c.directory new d (d.put origin (.file part t)) := by
  intro _
  have into := leadsInto_temporaryPath (c := c) d
  have other (k : String) : (c.temporaryPath d).resolve d.working
      ≠ entryPlace (c.directory.resolve d.working) k := resolve_temporaryPath_ne d k
  rw [LeadsInto, ← Disk.eq_resolve_of_locate located] at into
  rw [← Disk.eq_resolve_of_locate located] at other
  exact Disk.tended_put (Disk.not_directory_of_absent unused) into fun key' entry => absurd entry (other key')

/-- Storing a page adds the entry for its key at most, and fails at most because the weather strikes when the
temporary file is removed, or because the page has no bytes. -/
theorem store_tended {r : Except Fault Bool} {s : Cache × World} (plain : '/' ∉ key.toList)
    (h : store key content (c, w) = (r, s)) :
    WorkOn.Both SamePlace (World.TendedFrom w.disk.working c.directory (Storing key content)) (c, w) s
      ∧ (∀ fault, r = .error fault →
        w.weather.Strikes .remove (c.temporaryPath w.disk) fault ∨ w.weather.Refuses content fault) := by
  obtain ⟨r', c', w', run, clock, weather, outcome⟩ := store_run c key content w
  obtain ⟨rfl, rfl⟩ := Prod.mk.inj (run.symm.trans h)
  generalize left : w'.disk = d' at outcome
  cases outcome with
  | stored _ _ _ goes free =>
    refine ⟨⟨rfl, clock, weather, fun _ => ?_⟩, fun _ failed => nomatch failed⟩
    have place := (Disk.eq_resolve_of_locate goes).trans (resolve_pathFor plain)
    dsimp only
    rw [left]
    refine Disk.tended_put free (fun _ => place ▸ Disk.isWithin_append_singleton _ _) fun key' entry => ?_
    rw [place] at entry
    obtain rfl := entryName_injective (Disk.name_eq_of_place_eq entry)
    exact ⟨rfl, rfl⟩
  | unwritten =>
    refine ⟨⟨rfl, clock, weather, fun _ => ?_⟩, fun _ failed => nomatch failed⟩
    dsimp only
    rw [left]
    exact .rfl
  | leftover _ struck located unused _ =>
    refine ⟨⟨rfl, clock, weather, ?_⟩, fun fault failed => Except.error.inj failed ▸ .inl struck⟩
    dsimp only
    rw [left]
    exact tended_put_temporary located unused
  | unencodable refused located unused =>
    refine ⟨⟨rfl, clock, weather, ?_⟩, fun fault failed => Except.error.inj failed ▸ .inr refused⟩
    dsimp only
    rw [left]
    exact tended_put_temporary located unused

/-! ## Clearing and opening -/

/-- A path of an entry, as the names in the directory give it. -/
def IsEntryPath (c : Cache) (path : DiskPath) : Prop :=
  ∃ name, isEntryName name = true ∧ path = c.directory.child name

theorem leadsInto_of_isEntryPath (h : IsEntryPath c p) : LeadsInto c.directory working p := by
  obtain ⟨name, named, rfl⟩ := h
  refine leadsInto_child ?_
  rintro rfl
  exact absurd named (by decide)

theorem looks_onlyFiles (paths : List DiskPath) : Work.Looks (onlyFiles paths) := by
  induction paths with
  | nil => exact .pure _
  | cons path rest ih =>
    refine .bind (Work.looks_isFile _) fun isFile => ?_
    split
    · exact .bind ih fun _ => .pure _
    · exact ih

theorem answersOnly_onlyFiles (paths : List DiskPath) : AnswersOnly (· ⊆ paths) (onlyFiles paths) := by
  induction paths with
  | nil => exact .pure (List.Subset.refl _)
  | cons path rest ih =>
    refine .bind fun isFile => ?_
    split
    · exact .bind_of ih fun found among => .pure (List.cons_subset_cons _ among)
    · exact fun w found answered => List.subset_cons_of_subset _ (ih w found answered)

theorem looks_listEntries : Work.Looks c.listEntries :=
  .bind (Work.looks_names _) fun _ => looks_onlyFiles _

theorem answersOnly_listEntries : AnswersOnly (fun paths => ∀ path ∈ paths, IsEntryPath c path) c.listEntries := by
  refine .bind fun names w paths answered path mem => ?_
  have among := answersOnly_onlyFiles _ w paths answered mem
  obtain ⟨name, listed, rfl⟩ := List.mem_map.1 among
  exact ⟨name, (List.mem_filter.1 listed).2, rfl⟩

theorem looks_entries : Work.Looks c.entries := by
  refine .bind (Work.moves_outcome looks_listEntries) fun result => ?_
  split
  · exact .pure _
  · exact .bind looks_note fun _ => .pure _

theorem answersOnly_entries : AnswersOnly (fun paths => ∀ path ∈ paths, IsEntryPath c path) c.entries := by
  have listed : AnswersOnly (fun result : Except Fault (List DiskPath) =>
      ∀ paths, result = .ok paths → ∀ path ∈ paths, IsEntryPath c path) (Work.outcome c.listEntries) := by
    intro w result answered paths done
    exact answersOnly_listEntries w paths ((Except.ok.inj answered).trans done)
  refine .bind_of listed fun result among => ?_
  split
  · exact .pure (among _ rfl)
  · exact .bind fun _ => .pure (by simp)

theorem moves_removeAll {paths : List DiskPath} (into : ∀ path ∈ paths, LeadsInto directory working path) :
    Moves (World.TendedFrom working directory new) (removeAll paths) := by
  induction paths with
  | nil => exact .pure _
  | cons path rest ih =>
    exact .bind (moves_removeNoting (into path List.mem_cons_self)) fun _ =>
      .bind (ih fun other mem => into other (List.mem_cons_of_mem _ mem)) fun _ => .pure _

theorem moves_clear (c : Cache) : Moves (World.TendedFrom working c.directory new) c.clear :=
  .bind_of looks_entries.moves answersOnly_entries fun _ among =>
    moves_removeAll fun path mem => leadsInto_of_isEntryPath (among path mem)

theorem failsOnly_removeAll {E : Fault → Prop} (paths : List DiskPath) : FailsOnly E (removeAll paths) := by
  induction paths with
  | nil => exact .pure _
  | cons path rest ih => exact .bind failsOnly_removeNoting fun _ => .bind ih fun _ => .pure _

theorem failsOnly_clear {E : Fault → Prop} : FailsOnly E c.clear := by
  refine .bind (.bind (Work.failsOnly_outcome _) fun result => ?_) fun _ => failsOnly_removeAll _
  split
  · exact .pure _
  · exact .bind Work.failsOnly_note fun _ => .pure _

variable {settings : Settings}

theorem moves_prepare {development : Bool} :
    Moves (World.TendedFrom working c.directory new) (c.prepare development) := by
  refine .bind (Work.moves_outcome Work.moves_makeDirectories) fun made => ?_
  split
  · exact .throw _
  · refine .bind (Work.looks_isWritable _).moves fun writable => ?_
    split
    · dsimp only
      split
      · exact .bind (moves_clear c) fun _ => .pure _
      · exact .pure _
    · exact .throw _

theorem moves_ofSettings :
    Moves (World.TendedFrom working settings.cacheDirectory new) (Cache.ofSettings settings) := by
  unfold ofSettings
  dsimp only
  split
  · exact .throw _
  · exact moves_prepare (c := ⟨settings.cacheDirectory, settings.cacheTtl, 0, 0, 0⟩)

/-- A cache that is opened is as the settings say, and has not counted anything yet. -/
theorem answersOnly_ofSettings :
    AnswersOnly (fun c => c = ⟨settings.cacheDirectory, settings.cacheTtl, 0, 0, 0⟩) (Cache.ofSettings settings) := by
  unfold ofSettings prepare
  dsimp only
  split
  · exact .throw _
  · refine .bind fun made => ?_
    split
    · exact .throw _
    · refine .bind fun writable => ?_
      split
      · split
        · exact .bind fun _ => .pure rfl
        · exact .pure rfl
      · exact .throw _

theorem failsOnly_prepare {development : Bool} :
    FailsOnly (fun fault => ∃ message cause, fault = .cacheUnavailable message cause) (c.prepare development) := by
  refine .bind (Work.failsOnly_outcome _) fun made => ?_
  split
  · exact .throw ⟨_, _, rfl⟩
  · have writable : FailsOnly (fun fault => ∃ message cause, fault = .cacheUnavailable message cause)
        (Work.isWritable c.directory) := by
      refine .bind (Work.failsOnly_outcome _) fun answer => ?_
      split
      · exact .pure _
      · exact .pure _
    refine .bind writable fun writable => ?_
    split
    · dsimp only
      split
      · exact .bind failsOnly_clear fun _ => .pure _
      · exact .pure _
    · exact .throw ⟨_, _, rfl⟩

/-- Opening a cache fails because its directory cannot be used, or because no directory can have its path. -/
theorem failsOnly_ofSettings :
    FailsOnly (fun fault => (∃ message cause, fault = .cacheUnavailable message cause)
      ∨ fault = .nullCharacter ∧ settings.cacheDirectory.hasNull) (Cache.ofSettings settings) := by
  unfold ofSettings
  dsimp only
  split
  · next null => exact .throw (.inr ⟨rfl, null⟩)
  · exact failsOnly_prepare.mono fun _ => .inl

end Cache

end Stencil
