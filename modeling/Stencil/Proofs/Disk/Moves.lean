import Mathlib.Order.Defs.Unbundled
import Stencil.Disk.Work

/-!
# What work does to its world

Work may end with a fault at any of its steps, and what it did before stays done. So what is said about the
state after it has to hold however it ends: `Moves R work` says that the state after the work stands in the
relation `R` to the state before. If `R` is a preorder then steps that move so make work that moves so.

`FailsOnly E work` and `AnswersOnly A work` say the same of the faults and of the answers that work may end
with.

`World.Next R` is the relation that most of the work here keeps to: the disk changes as `R` says, and the
clock and the weather are what they were. Work that only looks at the disk is the case of equality.
-/

namespace Stencil

section Steps

variable {S α β : Type} {R : S → S → Prop}

theorem bind_run (x : ExceptT Fault (StateM S) α) (f : α → ExceptT Fault (StateM S) β) (s : S) :
    (x >>= f) s = match x s with
      | (.ok a, s) => f a s
      | (.error fault, s) => (.error fault, s) := by
  change ExceptT.bindCont f (x s).1 (x s).2 = _
  rcases x s with ⟨_ | _, _⟩ <;> rfl

theorem run_ok {x : ExceptT Fault (StateM S) α} {s between : S} {a : α} (first : x s = (.ok a, between))
    (f : α → ExceptT Fault (StateM S) β) : (x >>= f) s = f a between := by
  rw [bind_run, first]

theorem run_error {x : ExceptT Fault (StateM S) α} {s s' : S} {fault : Fault} (first : x s = (.error fault, s'))
    (f : α → ExceptT Fault (StateM S) β) : (x >>= f) s = (.error fault, s') := by
  rw [bind_run, first]

/-- Work of two steps ends with the first one if that fails, else with the second one. -/
theorem run_cases {x : ExceptT Fault (StateM S) α} {f : α → ExceptT Fault (StateM S) β} {s s' : S}
    {r : Except Fault β} (h : (x >>= f) s = (r, s')) :
    (∃ a between, x s = (.ok a, between) ∧ f a between = (r, s'))
      ∨ ∃ fault, x s = (.error fault, s') ∧ r = .error fault := by
  rw [bind_run] at h
  split at h
  · next a between first => exact .inl ⟨a, between, first, h⟩
  · next fault between first =>
    obtain ⟨rfl, rfl⟩ := Prod.mk.inj h
    exact .inr ⟨fault, first, rfl⟩

/-- However the work ends, the state after it stands in the relation to the state before it. -/
def Moves (R : S → S → Prop) (x : ExceptT Fault (StateM S) α) : Prop :=
  ∀ s, R s (x s).2

namespace Moves

variable {x : ExceptT Fault (StateM S) α} {f : α → ExceptT Fault (StateM S) β}

theorem mono {R' : S → S → Prop} (h : Moves R x) (imp : ∀ s s', R s s' → R' s s') : Moves R' x :=
  fun s => imp _ _ (h s)

theorem of_run {s s' : S} {r : Except Fault α} (h : Moves R x) (run : x s = (r, s')) : R s s' := by
  have := h s
  rwa [run] at this

variable [IsPreorder S R]

theorem pure (a : α) : Moves R (Pure.pure a : ExceptT Fault (StateM S) α) :=
  fun s => refl_of R s

theorem throw (fault : Fault) : Moves R (throw fault : ExceptT Fault (StateM S) α) :=
  fun s => refl_of R s

end Moves

/-- Whatever the work fails with, it is one of these faults. -/
def FailsOnly (E : Fault → Prop) (x : ExceptT Fault (StateM S) α) : Prop :=
  ∀ s fault, (x s).1 = .error fault → E fault

namespace FailsOnly

variable {E E' : Fault → Prop} {x : ExceptT Fault (StateM S) α} {f : α → ExceptT Fault (StateM S) β}

theorem of_run {s s' : S} {fault : Fault} (h : FailsOnly E x) (run : x s = (.error fault, s')) : E fault :=
  h s fault (congrArg Prod.fst run)

theorem mono (h : FailsOnly E x) (imp : ∀ fault, E fault → E' fault) : FailsOnly E' x :=
  fun s fault failed => imp _ (h s fault failed)

theorem pure (a : α) : FailsOnly E (Pure.pure a : ExceptT Fault (StateM S) α) :=
  fun _ _ failed => nomatch failed

theorem throw {fault : Fault} (h : E fault) : FailsOnly E (throw fault : ExceptT Fault (StateM S) α) :=
  fun _ _ failed => Except.error.inj failed ▸ h

end FailsOnly

/-- Whatever the work answers, it is one of these. -/
def AnswersOnly (A : α → Prop) (x : ExceptT Fault (StateM S) α) : Prop :=
  ∀ s a, (x s).1 = .ok a → A a

namespace AnswersOnly

variable {A : α → Prop} {B : β → Prop} {x : ExceptT Fault (StateM S) α} {f : α → ExceptT Fault (StateM S) β}

theorem of_run {s s' : S} {a : α} (h : AnswersOnly A x) (run : x s = (.ok a, s')) : A a :=
  h s a (congrArg Prod.fst run)

theorem pure {a : α} (h : A a) : AnswersOnly A (Pure.pure a : ExceptT Fault (StateM S) α) :=
  fun _ _ answered => Except.ok.inj answered ▸ h

theorem throw (fault : Fault) : AnswersOnly A (throw fault : ExceptT Fault (StateM S) α) :=
  fun _ _ answered => nomatch answered

theorem bind_of (first : AnswersOnly A x) (second : ∀ a, A a → AnswersOnly B (f a)) :
    AnswersOnly B (x >>= f) := by
  intro s b answered
  rw [bind_run] at answered
  split at answered
  · next a between run => exact second a (first.of_run run) between b answered
  · cases answered

end AnswersOnly

/-- The second step needs to be looked at only for what the first one may answer. -/
theorem Moves.bind_of [IsPreorder S R] {A : α → Prop} {x : ExceptT Fault (StateM S) α}
    {f : α → ExceptT Fault (StateM S) β} (first : Moves R x) (answers : AnswersOnly A x)
    (second : ∀ a, A a → Moves R (f a)) : Moves R (x >>= f) := by
  intro s
  have moved := first s
  rw [bind_run]
  split
  · next a between run =>
    rw [run] at moved
    exact trans_of R moved (second a (answers.of_run run) between)
  · next fault between run => rwa [run] at moved

/-- The second step needs to be looked at only for what the first one may answer. -/
theorem FailsOnly.bind_of {E : Fault → Prop} {A : α → Prop} {x : ExceptT Fault (StateM S) α}
    {f : α → ExceptT Fault (StateM S) β} (first : FailsOnly E x) (answers : AnswersOnly A x)
    (second : ∀ a, A a → FailsOnly E (f a)) : FailsOnly E (x >>= f) := by
  intro s fault failed
  rw [bind_run] at failed
  split at failed
  · next a between run => exact second a (answers.of_run run) between fault failed
  · next fault' between run => exact first.of_run (run.trans (by rw [Except.error.inj failed]))

section Any

variable {x : ExceptT Fault (StateM S) α} {f : α → ExceptT Fault (StateM S) β}

theorem AnswersOnly.any : AnswersOnly (fun _ => True) x :=
  fun _ _ _ => trivial

theorem Moves.bind [IsPreorder S R] (first : Moves R x) (second : ∀ a, Moves R (f a)) : Moves R (x >>= f) :=
  first.bind_of .any fun a _ => second a

theorem FailsOnly.bind {E : Fault → Prop} (first : FailsOnly E x) (second : ∀ a, FailsOnly E (f a)) :
    FailsOnly E (x >>= f) :=
  first.bind_of .any fun a _ => second a

theorem AnswersOnly.bind {B : β → Prop} (second : ∀ a, AnswersOnly B (f a)) : AnswersOnly B (x >>= f) :=
  AnswersOnly.any.bind_of fun a _ => second a

end Any

end Steps

/-! ## Work on a disk -/

/-- The world goes on: its disk changes as the relation says, its clock and its weather stay. -/
structure World.Next (R : Disk → Disk → Prop) (w w' : World) : Prop where
  clock : w'.clock = w.clock
  weather : w'.weather = w.weather
  disk : R w.disk w'.disk

instance {R : Disk → Disk → Prop} [IsPreorder Disk R] : IsPreorder World (World.Next R) where
  refl w := ⟨rfl, rfl, refl_of R w.disk⟩
  trans _ _ _ h h' := ⟨h'.clock.trans h.clock, h'.weather.trans h.weather, trans_of R h.disk h'.disk⟩

theorem World.Next.trans {R : Disk → Disk → Prop} [IsPreorder Disk R] {w w' w'' : World}
    (h : World.Next R w w') (h' : World.Next R w' w'') : World.Next R w w'' :=
  IsTrans.trans _ _ _ h h'

/-- First there is only a look at the disk. -/
theorem World.Next.after_look {R : Disk → Disk → Prop} {w w' w'' : World} (look : World.Next Eq w w')
    (h : World.Next R w' w'') : World.Next R w w'' :=
  ⟨h.clock.trans look.clock, h.weather.trans look.weather, look.disk ▸ h.disk⟩

theorem World.Next.mono {R R' : Disk → Disk → Prop} {w w' : World} (h : World.Next R w w')
    (imp : ∀ d d', R d d' → R' d d') : World.Next R' w w' :=
  ⟨h.clock, h.weather, imp _ _ h.disk⟩

namespace Work

variable {α : Type} {R : Disk → Disk → Prop}

/-- The work leaves the disk as it is. -/
abbrev Looks (x : Work α) : Prop :=
  Moves (World.Next Eq) x

theorem Looks.moves [IsPreorder Disk R] {x : Work α} (h : Looks x) : Moves (World.Next R) x :=
  Moves.mono h fun _ _ next => next.mono fun d _ same => same ▸ refl_of R d

theorem moves_outcome {R : World → World → Prop} {x : Work α} (h : Moves R x) : Moves R (outcome x) :=
  h

theorem outcome_eq_ok {x : Work α} {w w' : World} {result : Except Fault α}
    (h : outcome x w = (.ok result, w')) : x w = (result, w') := by
  obtain ⟨result, rfl⟩ := Prod.mk.inj h
  exact Prod.ext (Except.ok.inj result) rfl

theorem outcome_run {x : Work α} {w w' : World} {result : Except Fault α} (h : x w = (result, w')) :
    outcome x w = (.ok result, w') := by
  unfold outcome
  rw [h]

theorem failsOnly_outcome {E : Fault → Prop} (x : Work α) : FailsOnly E (outcome x) :=
  fun _ _ failed => nomatch failed

theorem answersOnly_outcome {E : Fault → Prop} {x : Work α} (h : FailsOnly E x) :
    AnswersOnly (fun result => ∀ fault, result = .error fault → E fault) (outcome x) := by
  intro w result answered fault failed
  exact h w fault ((Except.ok.inj answered).trans failed)

theorem failsOnly_note {E : Fault → Prop} {source : LogSource} {level : LogLevel} {message : String} :
    FailsOnly E (note source level message) :=
  fun _ _ failed => nomatch failed

theorem looks_note (source : LogSource) (level : LogLevel) (message : String) :
    Looks (note source level message) :=
  fun _ => ⟨rfl, rfl, rfl⟩

theorem looks_get : Looks (MonadState.get : Work World) :=
  fun _ => ⟨rfl, rfl, rfl⟩

section Operations

variable {operation : Operation} {p : DiskPath} {act : World → Except DiskFault α × Disk} {w w' : World}

theorem moves_operate [IsPreorder Disk R] (moved : ∀ w, R w.disk (act w).2) :
    Moves (World.Next R) (operate operation p act) := by
  intro w
  unfold operate
  dsimp only
  split
  · exact ⟨rfl, rfl, refl_of R w.disk⟩
  · exact ⟨rfl, rfl, moved w⟩

/-- An operation that succeeds did what it does in calm weather. -/
theorem operate_eq_ok {a : α} (h : operate operation p act w = (.ok a, w')) :
    (act w).1 = .ok a ∧ w'.disk = (act w).2 := by
  unfold operate at h
  dsimp only at h
  split at h
  · cases h
  · obtain ⟨result, rfl⟩ := Prod.mk.inj h
    refine ⟨?_, rfl⟩
    cases done : (act w).1 with
    | error fault =>
      rw [done] at result
      cases result
    | ok b =>
      rw [done] at result
      exact congrArg _ (Except.ok.inj result)

/-- An operation fails only with a fault of the disk. -/
theorem failsOnly_operate : FailsOnly (·.isDiskFault) (operate operation p act) := by
  intro w fault failed
  unfold operate at failed
  dsimp only at failed
  split at failed
  · rw [← Except.error.inj failed]
    rfl
  · cases done : (act w).1 with
    | error details =>
      rw [done] at failed
      rw [← Except.error.inj failed]
      rfl
    | ok b =>
      rw [done] at failed
      cases failed

theorem operate_calm (calm : w.weather = .calm) :
    operate operation p act w
      = ((act w).1.mapError .disk, { w with tick := w.tick + 1, disk := (act w).2 }) := by
  unfold operate
  rw [calm]
  rfl

theorem ask_calm (calm : w.weather = .calm) (question : Disk → Except DiskFault α) :
    ask operation p question w = ((question w.disk).mapError .disk, { w with tick := w.tick + 1 }) :=
  operate_calm calm

theorem looks_ask (question : Disk → Except DiskFault α) : Looks (ask operation p question) :=
  moves_operate fun _ => rfl

theorem ask_eq_ok {question : Disk → Except DiskFault α} {a : α}
    (h : ask operation p question w = (.ok a, w')) : question w.disk = .ok a :=
  (operate_eq_ok h).1

theorem moves_change [IsPreorder Disk R] {act : Disk → Binary64 → Except DiskFault Disk}
    (moved : ∀ d clock changed, act d clock = .ok changed → R d changed) :
    Moves (World.Next R) (change operation p act) := by
  refine moves_operate fun w => ?_
  unfold Disk.outcome
  split
  · next changed done => exact moved _ _ _ done
  · exact refl_of R w.disk

/-- A change is made as a whole or not at all. -/
theorem change_run {act : Disk → Binary64 → Except DiskFault Disk} {r : Except Fault Unit}
    (h : change operation p act w = (r, w')) :
    (w'.clock = w.clock ∧ w'.weather = w.weather)
      ∧ ((r = .ok () ∧ act w.disk w.clock = .ok w'.disk) ∨ ((∃ fault, r = .error fault) ∧ w'.disk = w.disk)) := by
  unfold change operate at h
  dsimp only at h
  split at h
  · obtain ⟨rfl, rfl⟩ := Prod.mk.inj h
    exact ⟨⟨rfl, rfl⟩, .inr ⟨⟨_, rfl⟩, rfl⟩⟩
  · obtain ⟨rfl, rfl⟩ := Prod.mk.inj h
    refine ⟨⟨rfl, rfl⟩, ?_⟩
    unfold Disk.outcome
    split
    · next changed done => exact .inl ⟨rfl, done⟩
    · exact .inr ⟨⟨_, rfl⟩, rfl⟩

theorem change_calm {act : Disk → Binary64 → Except DiskFault Disk} (calm : w.weather = .calm) (changed : Disk)
    (done : act w.disk w.clock = .ok changed) :
    change operation p act w = (.ok (), { w with tick := w.tick + 1, disk := changed }) := by
  unfold change
  rw [operate_calm calm, done]
  rfl

end Operations

/-! ## Questions to the disk -/

theorem looks_askPresence (p : DiskPath) (question : Disk → Except DiskFault Bool) (otherwise : Bool) :
    Looks (askPresence p question otherwise) := by
  refine Moves.bind (moves_outcome (looks_ask question)) fun answer => ?_
  split
  · exact .pure _
  · split
    · exact .pure _
    · exact .throw _
  · exact .throw _

theorem looks_isFile (p : DiskPath) : Looks (isFile p) := by
  refine Moves.bind looks_get fun w => ?_
  split
  · exact .pure _
  · exact looks_askPresence _ _ _

theorem looks_isDirectory (p : DiskPath) : Looks (isDirectory p) :=
  looks_askPresence _ _ _

theorem looks_inspect (p : DiskPath) : Looks (inspect p) :=
  looks_ask _

theorem looks_names (p : DiskPath) : Looks (names p) :=
  looks_ask _

theorem looks_isWritable (p : DiskPath) : Looks (isWritable p) := by
  refine Moves.bind (moves_outcome (looks_ask _)) fun answer => ?_
  split
  · exact .pure _
  · exact .pure _

theorem looks_readText (encoding : Encoding) (p : DiskPath) : Looks (readText encoding p) := by
  refine Moves.bind (looks_ask _) fun bytes => ?_
  split
  · exact .pure _
  · exact .throw _

theorem failsOnly_askPresence {p : DiskPath} {question : Disk → Except DiskFault Bool} {otherwise : Bool} :
    FailsOnly (·.isDiskFault) (askPresence p question otherwise) := by
  refine .bind_of (failsOnly_outcome _) (answersOnly_outcome failsOnly_operate) fun answer kind => ?_
  split
  · exact .pure _
  · split
    · exact .pure _
    · exact .throw rfl
  · exact .throw (kind _ rfl)

theorem failsOnly_isFile {p : DiskPath} : FailsOnly (·.isDiskFault) (isFile p) := by
  refine .bind (fun _ _ failed => nomatch failed) fun w => ?_
  split
  · exact .pure _
  · exact failsOnly_askPresence

theorem failsOnly_readText {encoding : Encoding} {p : DiskPath} :
    FailsOnly (fun fault => fault.isDiskFault ∨ ∃ message, fault = .undecodable message) (readText encoding p) := by
  refine .bind (failsOnly_operate.mono fun _ disk => .inl disk) fun bytes => ?_
  split
  · exact .pure _
  · exact .throw (.inr ⟨_, rfl⟩)

end Work

/-! ## Work with a state of its own -/

namespace WorkOn

variable {σ τ α : Type} {Q : σ → σ → Prop} {R : World → World → Prop}

/-- The state and the world change, each as its relation says. -/
def Both (Q : σ → σ → Prop) (R : World → World → Prop) (s s' : σ × World) : Prop :=
  Q s.1 s'.1 ∧ R s.2 s'.2

instance [IsPreorder σ Q] [IsPreorder World R] : IsPreorder (σ × World) (Both Q R) where
  refl s := ⟨refl_of Q s.1, refl_of R s.2⟩
  trans _ _ _ h h' := ⟨trans_of Q h.1 h'.1, trans_of R h.2 h'.2⟩

theorem moves_ofWork [IsPreorder σ Q] {x : Work α} (h : Moves R x) : Moves (Both Q R) (ofWork x) :=
  fun s => ⟨refl_of Q s.1, h s.2⟩

theorem state_bind_run {f : σ → WorkOn σ α} {s : σ} {w : World} : (state >>= f) (s, w) = f s (s, w) := rfl

theorem update_run (f : σ → σ) (s : σ) (w : World) : update f (s, w) = (.ok (), f s, w) := rfl

theorem ofWork_eq {x : Work α} {s s' : σ} {w w' : World} {r : Except Fault α}
    (h : ofWork x (s, w) = (r, s', w')) : x w = (r, w') ∧ s' = s := by
  obtain ⟨result, rest⟩ := Prod.mk.inj h
  obtain ⟨same, rfl⟩ := Prod.mk.inj rest
  exact ⟨Prod.ext result rfl, same.symm⟩

theorem ofWork_run {x : Work α} {w w' : World} {r : Except Fault α} (h : x w = (r, w')) (s : σ) :
    ofWork x (s, w) = (r, s, w') := by
  unfold ofWork
  dsimp only
  rw [h]

theorem outcome_run {x : WorkOn σ α} {s s' : σ × World} {result : Except Fault α} (h : x s = (result, s')) :
    outcome x s = (.ok result, s') := by
  unfold outcome
  rw [h]

theorem outcome_eq_ok {x : WorkOn σ α} {s s' : σ × World} {result : Except Fault α}
    (h : outcome x s = (.ok result, s')) : x s = (result, s') := by
  obtain ⟨result, rfl⟩ := Prod.mk.inj h
  exact Prod.ext (Except.ok.inj result) rfl

theorem failsOnly_ofWork {E : Fault → Prop} {x : Work α} (h : FailsOnly E x) :
    FailsOnly E (ofWork x : WorkOn σ α) :=
  fun s => h s.2

theorem failsOnly_outcome {E : Fault → Prop} (x : WorkOn σ α) : FailsOnly E (outcome x) :=
  fun _ _ failed => nomatch failed

theorem answersOnly_outcome {E : Fault → Prop} {x : WorkOn σ α} (h : FailsOnly E x) :
    AnswersOnly (fun result => ∀ fault, result = .error fault → E fault) (outcome x) := by
  intro w result answered fault failed
  exact h w fault ((Except.ok.inj answered).trans failed)

theorem failsOnly_update {E : Fault → Prop} (f : σ → σ) : FailsOnly E (update f) :=
  fun _ _ failed => nomatch failed

theorem moves_state [IsPreorder σ Q] [IsPreorder World R] : Moves (Both Q R) (state : WorkOn σ σ) :=
  fun s => refl_of (Both Q R) s

theorem moves_update [IsPreorder World R] {f : σ → σ} (h : ∀ s, Q s (f s)) : Moves (Both Q R) (update f) :=
  fun s => ⟨h s.1, refl_of R s.2⟩

theorem moves_outcome {R : σ × World → σ × World → Prop} {x : WorkOn σ α} (h : Moves R x) :
    Moves R (outcome x) :=
  h

/-- Work on a part ends as it does on the part by itself. -/
theorem onPart_run {part part' : σ} {put : σ → τ → τ} {x : WorkOn σ α} {r : Except Fault α} {w w' : World}
    (run : x (part, w) = (r, part', w')) (t : τ) : onPart part put x (t, w) = (r, put part' t, w') := by
  unfold onPart
  dsimp only
  rw [run]

end WorkOn

end Stencil
