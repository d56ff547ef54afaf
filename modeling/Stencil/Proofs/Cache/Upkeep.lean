import Stencil.Proofs.Cache.Entries
import Stencil.Proofs.Disk.Moves

/-!
# What a cache does to its disk

`Disk.Tended` is what everything that a cache ever does to a disk has in common. Directories stay. An entry
that is found afterwards was there before with the same content, or it is one of those that the cache was
asked for. Once its directory is there, nothing changes outside of it, and no directory is made in it. The
relation is a preorder, so it is enough to show it of each single change of the disk: of a file that is
written or removed in the directory, and of the making of the directory itself.

Where a path leads depends on the working directory, so the relation of the single changes is
`Disk.TendedFrom`, which fixes it.
-/

namespace Stencil

open Cache (entryPlace)

namespace Disk

variable {directory p : DiskPath} {new new' : String → List UInt8 → Prop} {d d' : Disk}
  {working place : List String} {clock : Binary64}

/-- No directory lies in the directory at a place. -/
def IsFlat (d : Disk) (place : List String) : Prop :=
  ∀ inner t, isWithin place inner = true → d.node? inner ≠ some (.directory t)

/-- A cache in the given directory has worked on the disk, and was asked for new entries at most with those
keys and contents. -/
structure Tended (directory : DiskPath) (new : String → List UInt8 → Prop) (d d' : Disk) : Prop where
  working : d'.working = d.working
  directories : ∀ place t, d.node? place = some (.directory t) → ∃ t', d'.node? place = some (.directory t')
  entries : ∀ key content t,
    d'.node? (entryPlace (directory.resolve d.working) key) = some (.file content t) →
      (∃ t', d.node? (entryPlace (directory.resolve d.working) key) = some (.file content t')) ∨ new key content
  outside : DiskPath.above ∉ d.working → d.isDirectory directory = .ok true →
    d'.besides (directory.resolve d.working) = d.besides (directory.resolve d.working)
      ∧ (d.IsFlat (directory.resolve d.working) → d'.IsFlat (directory.resolve d.working))

namespace Tended

theorem isDirectory (h : Tended directory new d d') (there : d.isDirectory p = .ok true) :
    d'.isDirectory p = .ok true := by
  obtain ⟨place, t, located, here⟩ := isDirectory_eq_ok_true_iff.1 there
  obtain ⟨t', here'⟩ := h.directories _ _ here
  exact isDirectory_eq_ok_true_iff.2 ⟨place, t', locate_of_directories h.working h.directories located, here'⟩

theorem mono (h : Tended directory new d d') (imp : ∀ key content, new key content → new' key content) :
    Tended directory new' d d' :=
  { h with entries := fun key content t here => (h.entries key content t here).imp_right (imp key content) }

theorem rfl : Tended directory new d d :=
  ⟨Eq.refl _, fun _ t here => ⟨t, here⟩, fun _ _ t here => .inl ⟨t, here⟩, fun _ _ => ⟨Eq.refl _, id⟩⟩

theorem trans {d'' : Disk} (h : Tended directory new d d') (h' : Tended directory new d' d'') :
    Tended directory new d d'' where
  working := h'.working.trans h.working
  directories place t here := by
    obtain ⟨t', here'⟩ := h.directories place t here
    exact h'.directories place t' here'
  entries key content t here := by
    rw [← h.working] at here
    rcases h'.entries key content t here with ⟨t', before⟩ | asked
    · rw [h.working] at before
      exact h.entries key content t' before
    · exact .inr asked
  outside plain there := by
    obtain ⟨same, flat⟩ := h.outside plain there
    rw [← h.working] at plain
    obtain ⟨same', flat'⟩ := h'.outside plain (h.isDirectory there)
    rw [h.working] at same' flat'
    exact ⟨same'.trans same, flat' ∘ flat⟩

end Tended

/-- The same for a disk with the given working directory. -/
def TendedFrom (working : List String) (directory : DiskPath) (new : String → List UInt8 → Prop)
    (d d' : Disk) : Prop :=
  d.working = working → Tended directory new d d'

instance : IsPreorder Disk (TendedFrom working directory new) where
  refl _ _ := .rfl
  trans _ _ _ h h' from_ := (h from_).trans (h' ((h from_).working.trans from_))

/-- The path leads into the directory, as seen from the working directory. -/
def LeadsInto (directory : DiskPath) (working : List String) (p : DiskPath) : Prop :=
  DiskPath.above ∉ working → isWithin (directory.resolve working) (p.resolve working) = true

/-! ## Files that are written and removed -/

theorem Tended.of_change (place : List String) (working : d'.working = d.working)
    (others : ∀ other, other ≠ place → d'.node? other = d.node? other)
    (before : ∀ t, d.node? place ≠ some (.directory t)) (after : ∀ t, d'.node? place ≠ some (.directory t))
    (asked : ∀ key content t, place = entryPlace (directory.resolve d.working) key →
      d'.node? place = some (.file content t) → new key content)
    (outside : DiskPath.above ∉ d.working →
      d'.besides (directory.resolve d.working) = d.besides (directory.resolve d.working)) :
    Tended directory new d d' where
  working := working
  directories other t here := by
    have differs : other ≠ place := by
      rintro rfl
      exact before t here
    exact ⟨t, (others other differs).trans here⟩
  entries key content t here := by
    by_cases same : entryPlace (directory.resolve d.working) key = place
    · rw [same] at here
      exact .inr (asked key content t same.symm here)
    · rw [others _ same] at here
      exact .inl ⟨t, here⟩
  outside plain _ := by
    refine ⟨outside plain, fun flat other t inside here => ?_⟩
    by_cases same : other = place
    · rw [same] at here
      exact after t here
    · rw [others _ same] at here
      exact flat other t inside here

theorem tended_put {content : List UInt8} {t : Binary64} (before : ∀ t, d.node? place ≠ some (.directory t))
    (inside : DiskPath.above ∉ d.working → isWithin (directory.resolve d.working) place = true)
    (asked : ∀ key, place = entryPlace (directory.resolve d.working) key → new key content) :
    Tended directory new d (d.put place (.file content t)) := by
  have here : (d.put place (.file content t)).node? place = some (.file content t) :=
    node?_put_self (ne_nil_of_no_directory before)
  refine .of_change place (working_put _ _) (fun other differs => node?_put_other differs) before ?_ ?_ ?_
  · intro t' directory
    rw [here] at directory
    cases directory
  · intro key content' t' entry file
    rw [here] at file
    cases file
    exact asked key entry
  · exact fun plain => besides_put (inside plain) _

theorem tended_drop (before : ∀ t, d.node? place ≠ some (.directory t))
    (inside : DiskPath.above ∉ d.working → isWithin (directory.resolve d.working) place = true) :
    Tended directory new d (d.drop place) := by
  have gone : (d.drop place).node? place = none := node?_drop_self (ne_nil_of_no_directory before)
  refine .of_change place (working_drop _) (fun other differs => node?_drop_other differs) before ?_ ?_ ?_
  · intro t directory
    rw [gone] at directory
    cases directory
  · intro key content t entry file
    rw [gone] at file
    cases file
  · exact fun plain => besides_drop (inside plain)

theorem createFile_eq_ok (h : d.createFile clock p = .ok d') :
    ∃ place, d.locate p = .ok place ∧ d.node? place = none ∧ d' = d.put place (.file [] clock) := by
  obtain ⟨place, located, h⟩ := bind_eq_ok_iff.1 h
  split at h
  · cases h
  · next free => exact ⟨place, located, free, (Except.ok.inj h).symm⟩

theorem append_eq_ok {bytes : List UInt8} (h : d.append clock p bytes = .ok d') :
    ∃ place content t, d.locate p = .ok place ∧ d.node? place = some (.file content t)
      ∧ d' = d.put place (.file (content ++ bytes) clock) := by
  obtain ⟨place, located, h⟩ := bind_eq_ok_iff.1 h
  split at h
  · next content t here => exact ⟨place, content, t, located, here, (Except.ok.inj h).symm⟩
  · cases h
  · cases h

theorem remove_eq_ok (h : d.remove p = .ok d') :
    ∃ place content t, d.locate p = .ok place ∧ d.node? place = some (.file content t) ∧ d' = d.drop place := by
  obtain ⟨place, located, h⟩ := bind_eq_ok_iff.1 h
  split at h
  · cases h
  · cases h
  · next content t here => exact ⟨place, content, t, located, here, (Except.ok.inj h).symm⟩

theorem replace_eq_ok {source target : DiskPath} (h : d.replace source target = .ok d') :
    ∃ origin goal node, d.locate source = .ok origin ∧ d.locate target = .ok goal ∧ d.node? origin = some node
      ∧ ((∃ content t, node = .file content t) → ∀ t, d.node? goal ≠ some (.directory t))
      ∧ d' = (d.drop origin).put goal node := by
  unfold replace at h
  dsimp only at h
  split at h
  · cases h
  · cases h
  · next origin goal located located' =>
    refine ⟨origin, goal, ?_⟩
    rw [locate_eq_ok_iff, locate_eq_ok_iff]
    split at h
    · cases h
    · cases h
    · next node target' node' here conflict =>
      refine ⟨node', located, located', here, ?_, (Except.ok.inj h).symm⟩
      rintro ⟨content, t, rfl⟩ t' there
      exact conflict content t t' there rfl

theorem tended_remove (h : d.remove p = .ok d') (into : LeadsInto directory d.working p) :
    Tended directory new d d' := by
  obtain ⟨place, content, t, located, here, rfl⟩ := remove_eq_ok h
  rw [LeadsInto, ← eq_resolve_of_locate located] at into
  exact tended_drop (not_directory_of_file here) into

/-! ## The directory itself -/

/-- Directories have been made where nothing was. -/
structure Grown (d d' : Disk) : Prop where
  working : d'.working = d.working
  nodes : ∀ place, d'.node? place = d.node? place
    ∨ (d.node? place = none ∧ ∃ t, d'.node? place = some (.directory t))

namespace Grown

theorem rfl : Grown d d :=
  ⟨Eq.refl _, fun _ => .inl (Eq.refl _)⟩

theorem trans {d'' : Disk} (h : Grown d d') (h' : Grown d' d'') : Grown d d'' where
  working := h'.working.trans h.working
  nodes place := by
    rcases h.nodes place with same | ⟨free, t, made⟩
    · rcases h'.nodes place with same' | ⟨free', made'⟩
      · exact .inl (same'.trans same)
      · exact .inr ⟨same.symm.trans free', made'⟩
    · rcases h'.nodes place with same' | ⟨free', -⟩
      · exact .inr ⟨free, t, same'.trans made⟩
      · rw [made] at free'
        cases free'

theorem tended (h : Grown d d') (settled : d.isDirectory directory = .ok true → d' = d) :
    Tended directory new d d' where
  working := h.working
  directories place t here := by
    rcases h.nodes place with same | ⟨free, -⟩
    · exact ⟨t, same.trans here⟩
    · rw [here] at free
      cases free
  entries key content t here := by
    rcases h.nodes (entryPlace (directory.resolve d.working) key) with same | ⟨-, t', made⟩
    · exact .inl ⟨t, same ▸ here⟩
    · rw [made] at here
      cases here
  outside plain there := by
    obtain rfl := settled there
    exact ⟨Eq.refl _, id⟩

end Grown

theorem grown_makeDirectory (h : d.makeDirectory clock p = .ok d') : Grown d d' := by
  obtain ⟨place, located, h⟩ := bind_eq_ok_iff.1 h
  split at h
  · cases h
  · next free =>
    obtain rfl := Except.ok.inj h
    have inside : place ≠ [] := by
      rintro rfl
      cases free
    refine ⟨working_put _ _, fun other => ?_⟩
    rw [node?_put _ _ _ inside]
    split
    · next same => exact .inr ⟨same ▸ free, clock, Eq.refl _⟩
    · exact .inl (Eq.refl _)

theorem grown_ensureDirectory (h : d.ensureDirectory clock p = .ok d') : Grown d d' := by
  unfold ensureDirectory at h
  split at h
  · next made done =>
    obtain rfl := Except.ok.inj h
    exact grown_makeDirectory done
  · split at h
    · cases h
    · split at h
      · obtain rfl := Except.ok.inj h
        exact .rfl
      · cases h
      · cases h

theorem grown_outcome {change : Except DiskFault Disk} (h : ∀ d', change = .ok d' → Grown d d') :
    Grown d (outcome d change).2 := by
  unfold outcome
  split
  · exact h _ (Eq.refl _)
  · exact .rfl

theorem grown_ensureDirectories (depth : Nat) : Grown d (d.ensureDirectories clock p depth).2 := by
  induction depth generalizing p with
  | zero => exact grown_outcome fun _ => grown_ensureDirectory
  | succ depth ih =>
    unfold ensureDirectories
    split
    · next made done => exact grown_ensureDirectory done
    · split
      · split
        · next upper done =>
          have above := ih (p := p.parent)
          rw [done] at above
          exact above.trans (grown_outcome fun _ => grown_ensureDirectory)
        · exact ih
      · exact .rfl

/-- A directory that is there is not made again. -/
theorem ensureDirectory_of_isDirectory (there : d.isDirectory p = .ok true) :
    d.ensureDirectory clock p = .ok d := by
  obtain ⟨place, t, located, here⟩ := isDirectory_eq_ok_true_iff.1 there
  have refused : d.makeDirectory clock p = .error (failure p .alreadyExists) := by
    unfold makeDirectory
    rw [located]
    dsimp only [bind, Except.bind]
    rw [here]
  unfold ensureDirectory
  rw [refused, there]
  rfl

theorem makeDirectories_of_isDirectory (there : d.isDirectory p = .ok true) :
    d.makeDirectories clock p = (.ok (), d) := by
  unfold makeDirectories
  cases p.names.length with
  | zero => rw [ensureDirectories, ensureDirectory_of_isDirectory there, outcome]
  | succ depth => rw [ensureDirectories, ensureDirectory_of_isDirectory there]

theorem tended_makeDirectories : Tended directory new d (d.makeDirectories clock directory).2 :=
  (grown_ensureDirectories _).tended fun there => congrArg Prod.snd (makeDirectories_of_isDirectory there)

end Disk

end Stencil
