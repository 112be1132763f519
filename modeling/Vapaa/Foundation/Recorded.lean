import Vapaa.Foundation.LoopNest

/-!
# Calls that leave a record

Calls that note events on their way. What is noted stays noted however the call
ends, so a record also tells what led to an abort or to a fault.
-/

set_option autoImplicit false

namespace Foundation

/-- A value and the events on the way to it. -/
structure Noted (ε α : Type) where
  events : List ε
  value : α

namespace Noted

variable {ε α β : Type}

instance : Monad (Noted ε) where
  pure value := { events := [], value := value }
  bind first next :=
    { events := first.events ++ (next first.value).events
      value := (next first.value).value }

@[simp] theorem value_pure (value : α) : (pure value : Noted ε α).value = value := rfl

@[simp] theorem value_bind (first : Noted ε α) (next : α → Noted ε β) :
    (first >>= next).value = (next first.value).value := rfl

/-- Only allowed events are noted. -/
def Within (allowed : ε → Prop) (noted : Noted ε α) : Prop :=
  ∀ event ∈ noted.events, allowed event

variable {allowed : ε → Prop}

theorem within_pure (value : α) : Within allowed (pure value : Noted ε α) := by
  intro event member
  cases member

theorem within_bind_iff {first : Noted ε α} {next : α → Noted ε β} :
    Within allowed (first >>= next) ↔
      Within allowed first ∧ Within allowed (next first.value) :=
  List.forall_mem_append

end Noted

section Loops

variable {ε σ α : Type} {allowed : ε → Prop}

/-- What follows one round of a loop. -/
def Flow.afterwards (rest : σ → Noted ε (Flow σ)) : Flow σ → Noted ε (Flow σ)
  | .next state => rest state
  | .goto state => pure (.goto state)
  | .undefined fault => pure (.undefined fault)

/-- Runs a body that notes events over a list. -/
def iterateNoted (body : α → σ → Noted ε (Flow σ)) : List α → σ → Noted ε (Flow σ)
  | [], state => pure (.next state)
  | value :: values, state => body value state >>= Flow.afterwards (iterateNoted body values)

/-- `for (int i = 0; i < bound; i++)`, with a body that notes events. -/
def forLoopNoted (bound : Int) (body : Nat → σ → Noted ε (Flow σ)) (state : σ) :
    Noted ε (Flow σ) :=
  iterateNoted body (List.range bound.toNat) state

theorem value_iterateNoted (body : α → σ → Noted ε (Flow σ)) (list : List α) (state : σ) :
    (iterateNoted body list state).value =
      iterate (fun value state => (body value state).value) list state := by
  induction list generalizing state with
  | nil => rfl
  | cons value values ih =>
      rw [iterateNoted, Noted.value_bind, iterate_cons]
      cases (body value state).value with
      | next middle => exact ih middle
      | goto final => rfl
      | undefined fault => rfl

@[simp] theorem value_forLoopNoted (bound : Int) (body : Nat → σ → Noted ε (Flow σ))
    (state : σ) :
    (forLoopNoted bound body state).value =
      forLoop bound (fun i state => (body i state).value) state :=
  value_iterateNoted body (List.range bound.toNat) state

theorem within_iterateNoted {body : α → σ → Noted ε (Flow σ)}
    (rounds : ∀ value state, Noted.Within allowed (body value state)) (list : List α)
    (state : σ) : Noted.Within allowed (iterateNoted body list state) := by
  induction list generalizing state with
  | nil => exact Noted.within_pure _
  | cons value values ih =>
      refine Noted.within_bind_iff.mpr ⟨rounds value state, ?_⟩
      cases (body value state).value with
      | next middle => exact ih middle
      | goto final => exact Noted.within_pure _
      | undefined fault => exact Noted.within_pure _

theorem within_forLoopNoted {body : Nat → σ → Noted ε (Flow σ)} {bound : Int}
    (rounds : ∀ i state, Noted.Within allowed (body i state)) (state : σ) :
    Noted.Within allowed (forLoopNoted bound body state) :=
  within_iterateNoted rounds _ state

end Loops

/-- Calls over a state that note events. -/
def Recorded (ε σ α : Type) := σ → Noted ε (Outcome (α × σ))

namespace Recorded

variable {ε σ α β : Type}

/-- Goes on where a call returned. -/
def onReturned (next : α → Recorded ε σ β) : Outcome (α × σ) → Noted ε (Outcome (β × σ))
  | .returned (value, state) => next value state
  | .aborted => pure .aborted
  | .undefined fault => pure (.undefined fault)

instance : Monad (Recorded ε σ) where
  pure value := fun state => pure (.returned (value, state))
  bind first next := fun state => first state >>= onReturned next

/-- A call that notes nothing. -/
instance : MonadLift (Run σ) (Recorded ε σ) where
  monadLift run := fun state => pure (run state)

/-- Events noted without a change of state. -/
instance : MonadLift (Noted ε) (Recorded ε σ) where
  monadLift noted := fun state => noted >>= fun value => pure (.returned (value, state))

/-- Runs a call on one component of a larger state. -/
def zoom {τ : Type} (get : τ → σ) (set : τ → σ → τ) (run : Recorded ε σ α) : Recorded ε τ α :=
  fun state => run (get state) >>= fun outcome =>
    pure (outcome >>= fun result => .returned (result.1, set state result.2))

/-- The call without its record. -/
def erase (run : Recorded ε σ α) : Run σ α := fun state => (run state).value

section Erasure

theorem erase_apply (run : Recorded ε σ α) (state : σ) : run.erase state = (run state).value := rfl

@[simp] theorem erase_pure (value : α) : erase (pure value : Recorded ε σ α) = pure value := rfl

@[simp] theorem erase_bind (first : Recorded ε σ α) (next : α → Recorded ε σ β) :
    erase (first >>= next) = erase first >>= fun value => erase (next value) := by
  funext state
  change (onReturned next (first state).value).value = _
  rw [Run.bind_apply, erase_apply]
  cases (first state).value with
  | returned result => rfl
  | aborted => rfl
  | undefined fault => rfl

@[simp] theorem erase_run (run : Run σ α) : erase (liftM run : Recorded ε σ α) = run := rfl

@[simp] theorem erase_noted (noted : Noted ε α) :
    erase (liftM noted : Recorded ε σ α) = pure noted.value := rfl

@[simp] theorem erase_zoom {τ : Type} (get : τ → σ) (set : τ → σ → τ) (run : Recorded ε σ α) :
    erase (zoom get set run) = Run.zoom get set (erase run) := rfl

end Erasure

/-- Only allowed events are noted on the way to the end of the call. -/
def Within (allowed : ε → Prop) (run : Recorded ε σ α) (state : σ) : Prop :=
  (run state).Within allowed

section Within

variable {allowed : ε → Prop} {state : σ}

theorem within_pure (value : α) : Within allowed (pure value : Recorded ε σ α) state :=
  Noted.within_pure _

theorem within_run (run : Run σ α) : Within allowed (liftM run : Recorded ε σ α) state :=
  Noted.within_pure _

theorem within_noted_iff {noted : Noted ε α} :
    Within allowed (liftM noted : Recorded ε σ α) state ↔ noted.Within allowed :=
  Noted.within_bind_iff.trans (and_iff_left (Noted.within_pure _))

theorem within_zoom_iff {τ : Type} {get : τ → σ} {set : τ → σ → τ} {run : Recorded ε σ α}
    {state : τ} : Within allowed (zoom get set run) state ↔ Within allowed run (get state) :=
  Noted.within_bind_iff.trans (and_iff_left (Noted.within_pure _))

/-- A sequence notes what its first call notes, and what its rest notes if that is reached. -/
theorem within_bind_iff {first : Recorded ε σ α} {next : α → Recorded ε σ β} :
    Within allowed (first >>= next) state ↔ Within allowed first state ∧
      first.erase.Ensures state fun value middle => Within allowed (next value) middle := by
  refine Noted.within_bind_iff.trans (and_congr_right fun _ => ?_)
  unfold Run.Ensures
  rw [erase_apply]
  cases (first state).value with
  | returned result =>
      constructor
      · intro within value middle returned
        cases returned
        exact within
      · exact fun ensures => ensures _ _ rfl
  | aborted =>
      refine iff_of_true (Noted.within_pure _) ?_
      intro value middle returned
      cases returned
  | undefined fault =>
      refine iff_of_true (Noted.within_pure _) ?_
      intro value middle returned
      cases returned

theorem Within.bind {first : Recorded ε σ α} {next : α → Recorded ε σ β}
    (begins : Within allowed first state)
    (rest : ∀ value middle, Within allowed (next value) middle) :
    Within allowed (first >>= next) state :=
  within_bind_iff.mpr ⟨begins, fun value middle _ => rest value middle⟩

theorem within_run_bind {run : Run σ α} {next : α → Recorded ε σ β}
    (rest : ∀ value middle, Within allowed (next value) middle) :
    Within allowed (liftM run >>= next) state :=
  (within_run run).bind rest

theorem within_run_bind_iff {run : Run σ α} {next : α → Recorded ε σ β} :
    Within allowed (liftM run >>= next) state ↔
      run.Ensures state fun value middle => Within allowed (next value) middle :=
  within_bind_iff.trans (and_iff_right (within_run run))

theorem within_run_bind_iff_of_returned {run : Run σ α} {next : α → Recorded ε σ β} {value : α}
    {middle : σ} (result : run state = .returned (value, middle)) :
    Within allowed (liftM run >>= next) state ↔ Within allowed (next value) middle := by
  rw [within_run_bind_iff]
  constructor
  · exact fun ensures => ensures value middle result
  · exact fun within => Run.ensures_of_returned result within

theorem within_bind_run_iff {first : Recorded ε σ α} {last : α → Run σ β} :
    Within allowed (first >>= fun value => liftM (last value)) state ↔
      Within allowed first state :=
  within_bind_iff.trans (and_iff_left fun value _ _ => within_run (last value))

theorem within_noted_bind_iff {noted : Noted ε α} {next : α → Recorded ε σ β} :
    Within allowed (liftM noted >>= next) state ↔
      noted.Within allowed ∧ Within allowed (next noted.value) state := by
  rw [within_bind_iff, within_noted_iff, erase_noted]
  refine and_congr_right fun _ => ?_
  constructor
  · exact fun ensures => ensures _ _ rfl
  · exact fun within => Run.ensures_pure within

end Within

end Recorded

namespace Run

variable {σ α β : Type}

section Ensures

variable {run : Run σ α} {state : σ} {post : α → σ → Prop}

theorem ensures_pure_iff {value : α} : Ensures (pure value) state post ↔ post value state := by
  constructor
  · exact fun ensures => ensures value state rfl
  · exact ensures_pure

theorem ensures_congr {post' : α → σ → Prop}
    (same : ∀ value final, run state = .returned (value, final) →
      (post value final ↔ post' value final)) :
    Ensures run state post ↔ Ensures run state post' :=
  forall_congr' fun value => forall_congr' fun final => forall_congr' fun result =>
    same value final result

theorem ensures_bind_iff {next : α → Run σ β} {after : β → σ → Prop} :
    Ensures (run >>= next) state after ↔
      Ensures run state fun value middle => Ensures (next value) middle after := by
  constructor
  · intro ensures value middle begun result final finished
    exact ensures result final (bind_eq_returned.mpr ⟨value, middle, begun, finished⟩)
  · intro ensures
    exact ensures.bind fun _ _ rest => rest

end Ensures

end Run

end Foundation
