import Stencil.Loader
import Stencil.Proofs.Disk.Moves

/-!
# What loaders do to their world

Loaders look at the disk and leave it as it is. Those that are built in fail because no template is found, because the
disk fails, because a file is not written in their encoding, because their suffix makes no pattern of names, or because a
path holds a character that no path can hold. A loader of the host fails with whatever it raises.
-/

namespace Stencil.Loader

theorem locate_cons (relative root : DiskPath) (rest : List DiskPath) :
    locate relative (root :: rest) = (do
      if (root.join relative).hasNull then throw .nullCharacter
      else
        let working := (← get).disk.working
        if DiskPath.isInside (root.resolve working) ((root.join relative).resolve working) then
          if ← Work.isFile (root.join relative) then pure (some (root.join relative)) else locate relative rest
        else locate relative rest : Work (Option DiskPath)) := by
  rw [locate]
  cases (root.join relative).hasNull with
  | true => rfl
  | false => rfl

theorem looks_locate (relative : DiskPath) (roots : List DiskPath) :
    Work.Looks (locate relative roots) := by
  induction roots with
  | nil => exact .pure _
  | cons root rest ih =>
    rw [locate_cons]
    split
    · exact .throw _
    · refine .bind Work.looks_get fun w => ?_
      dsimp only
      split
      · refine .bind (Work.looks_isFile _) fun found => ?_
        split
        · exact .pure _
        · exact ih
      · exact ih

theorem looks_namesIn (suffix : String) (root : DiskPath) : Work.Looks (namesIn suffix root) := by
  refine .bind (Work.looks_isDirectory _) fun there => ?_
  split
  · split
    · exact .throw _
    · exact .bind (Work.looks_ask _) fun _ => .pure _
  · exact .pure _

theorem looks_namesInAll (suffix : String) (roots : List DiskPath) :
    Work.Looks (namesInAll suffix roots) := by
  induction roots with
  | nil => exact .pure _
  | cons root rest ih => exact .bind (looks_namesIn suffix root) fun _ => .bind ih fun _ => .pure _

mutual

theorem looks_names : (loader : Loader) → Work.Looks loader.names
  | .directories roots _ suffix => .bind (looks_namesInAll suffix roots) fun _ => .pure _
  | .table _ => .pure _
  | .choice loaders => .bind (looks_namesOfAll loaders) fun _ => .pure _
  | .bare _ => .pure _
  | .custom _ _ none => .pure _
  | .custom _ _ (some _) => fun _ => ⟨rfl, rfl, rfl⟩

theorem looks_namesOfAll : (loaders : List Loader) → Work.Looks (Loader.namesOfAll loaders)
  | [] => .pure _
  | loader :: rest => .bind (looks_names loader) fun _ => .bind (looks_namesOfAll rest) fun _ => .pure _

end

mutual

theorem looks_source (name : String) : (loader : Loader) → Work.Looks (loader.source name)
  | .directories roots encoding suffix => by
    refine .bind (looks_locate _ _) fun found => ?_
    split
    · exact .bind (Work.looks_readText _ _) fun _ => .bind (Work.looks_inspect _) fun _ => .pure _
    · exact .bind (looks_namesInAll _ _) fun _ => .throw _
  | .table entries => by
    unfold Loader.source
    split
    · exact .pure _
    · exact .throw _
  | .choice loaders => by
    refine .bind (looks_firstSource name loaders) fun found => ?_
    split
    · exact .pure _
    · exact .bind (looks_namesOfAll _) fun _ => .throw _
  | .bare inner => looks_source name inner
  | .custom _ _ _ => fun _ => ⟨rfl, rfl, rfl⟩

theorem looks_firstSource (name : String) : (loaders : List Loader) → Work.Looks (Loader.firstSource name loaders)
  | [] => .pure _
  | loader :: rest => by
    refine .bind (Work.moves_outcome (looks_source name loader)) fun found => ?_
    split
    · exact .pure _
    · split
      · exact looks_firstSource name rest
      · exact .throw _

end

/-- A fault that a built-in loader may end with although it is none of a template: the disk fails, a file is not written
in its encoding, its suffix makes no pattern of names, or a path holds a character that no path can hold. -/
def IsObstruction (fault : Fault) : Prop :=
  fault.isDiskFault ∨ (∃ message, fault = .undecodable message) ∨ (∃ message, fault = .badSetting message)
    ∨ fault = .nullCharacter

mutual

/-- Does a loader of the host that is in use fail with this, on whatever it is asked? -/
def Raises (fault : Fault) : Loader → Prop
  | custom _ answer listed =>
    (∃ name w, answer name w = .error fault) ∨ ∃ names, listed = some names ∧ ∃ w, names w = .error fault
  | choice loaders => OneRaises fault loaders
  | bare inner => Raises fault inner
  | _ => False

/-- Does this hold of one of the loaders? -/
def OneRaises (fault : Fault) : List Loader → Prop
  | [] => False
  | loader :: rest => Raises fault loader ∨ OneRaises fault rest

end

/-- A fault that a loader may end with although it says of no template that it is not found. -/
def IsBreakdown (loader : Loader) (fault : Fault) : Prop :=
  IsObstruction fault ∨ loader.Raises fault

variable {name : String}

theorem failsOnly_locate {relative : DiskPath} {roots : List DiskPath} :
    FailsOnly IsObstruction (locate relative roots) := by
  induction roots with
  | nil => exact .pure _
  | cons root rest ih =>
    rw [locate_cons]
    split
    · exact .throw (.inr (.inr (.inr rfl)))
    · refine .bind (fun _ _ failed => nomatch failed) fun w => ?_
      dsimp only
      split
      · refine .bind (Work.failsOnly_isFile.mono fun _ => .inl) fun found => ?_
        split
        · exact .pure _
        · exact ih
      · exact ih

theorem failsOnly_namesIn {suffix : String} {root : DiskPath} : FailsOnly IsObstruction (namesIn suffix root) := by
  refine .bind (Work.failsOnly_askPresence.mono fun _ => .inl) fun there => ?_
  split
  · split
    · exact .throw (.inr (.inr (.inl ⟨_, rfl⟩)))
    · exact .bind (Work.failsOnly_operate.mono fun _ => .inl) fun _ => .pure _
  · exact .pure _

theorem failsOnly_namesInAll {suffix : String} {roots : List DiskPath} :
    FailsOnly IsObstruction (namesInAll suffix roots) := by
  induction roots with
  | nil => exact .pure _
  | cons root rest ih => exact .bind failsOnly_namesIn fun _ => .bind ih fun _ => .pure _

/-- What the names of loaders fail with is an obstruction, or one of the loaders raises it. -/
def IsBreakdownOfOne (loaders : List Loader) (fault : Fault) : Prop :=
  IsObstruction fault ∨ OneRaises fault loaders

mutual

theorem failsOnly_names : (loader : Loader) → FailsOnly loader.IsBreakdown loader.names
  | .directories _ _ _ => .bind (failsOnly_namesInAll.mono fun _ => .inl) fun _ => .pure _
  | .table _ => .pure _
  | .choice loaders => .bind ((failsOnly_namesOfAll loaders).mono fun _ kind => kind) fun _ => .pure _
  | .bare _ => .pure _
  | .custom _ _ none => .pure _
  | .custom _ _ (some _) => fun w _ failed => .inr (.inr ⟨_, rfl, w, failed⟩)

theorem failsOnly_namesOfAll : (loaders : List Loader) →
    FailsOnly (IsBreakdownOfOne loaders) (Loader.namesOfAll loaders)
  | [] => .pure _
  | loader :: rest => by
    refine .bind ((failsOnly_names loader).mono fun _ kind => kind.imp_right .inl) fun _ => ?_
    exact .bind ((failsOnly_namesOfAll rest).mono fun _ kind => kind.imp_right .inr) fun _ => .pure _

end

theorem failsOnly_readSource {encoding : Encoding} {path : DiskPath} :
    FailsOnly IsObstruction (readSource encoding path) := by
  refine .bind (Work.failsOnly_readText.mono fun fault kind => ?_) fun text => ?_
  · exact kind.imp_right .inl
  · exact .bind (Work.failsOnly_operate.mono fun _ => .inl) fun _ => .pure _

mutual

/-- A loader fails because it finds no template, or it breaks down. -/
theorem failsOnly_source (name : String) : (loader : Loader) →
    FailsOnly (fun fault => fault.isNotFound ∨ loader.IsBreakdown fault) (loader.source name)
  | .directories roots encoding suffix => by
    refine .bind (failsOnly_locate.mono fun _ kind => .inr (.inl kind)) fun found => ?_
    split
    · exact failsOnly_readSource.mono fun _ kind => .inr (.inl kind)
    · exact .bind (failsOnly_namesInAll.mono fun _ kind => .inr (.inl kind)) fun _ => .throw (.inl rfl)
  | .table entries => by
    unfold Loader.source
    split
    · exact .pure _
    · exact .throw (.inl rfl)
  | .choice loaders => by
    refine .bind ((failsOnly_firstSource name loaders).mono fun _ => .inr) fun found => ?_
    split
    · exact .pure _
    · exact .bind ((failsOnly_namesOfAll _).mono fun _ => .inr) fun _ => .throw (.inl rfl)
  | .bare inner => failsOnly_source name inner
  | .custom _ _ _ => fun w _ failed => .inr (.inr (.inl ⟨name, w, failed⟩))

theorem failsOnly_firstSource (name : String) : (loaders : List Loader) →
    FailsOnly (IsBreakdownOfOne loaders) (Loader.firstSource name loaders)
  | [] => .pure _
  | loader :: rest => by
    refine .bind_of (Work.failsOnly_outcome _) (Work.answersOnly_outcome (failsOnly_source name loader))
      fun found kind => ?_
    split
    · exact .pure _
    · split
      · exact (failsOnly_firstSource name rest).mono fun _ kind => kind.imp_right .inr
      · next missing => exact .throw (((kind _ rfl).resolve_left missing).imp_right .inl)

end

end Stencil.Loader
