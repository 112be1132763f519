import Mathlib.Tactic.Common

/-!
# Outcomes of C calls

A call returns, aborts the program, or does something its language leaves
undefined. Stateful calls thread a state through these outcomes.
-/

set_option autoImplicit false

namespace Foundation

/-- What a call did when the language leaves its behaviour undefined. -/
inductive Fault where
  | divisionByZero
  | overflow
  | outOfBounds
  | unsetValue
  | invalidArgument
  deriving Repr, DecidableEq

inductive Outcome (α : Type) where
  | returned (value : α)
  | aborted
  | undefined (fault : Fault)
  deriving Repr, DecidableEq

namespace Outcome

variable {α β : Type}

def bind (outcome : Outcome α) (next : α → Outcome β) : Outcome β :=
  match outcome with
  | .returned value => next value
  | .aborted => .aborted
  | .undefined fault => .undefined fault

instance : Monad Outcome where
  pure := .returned
  bind := bind

@[simp] theorem pure_eq (value : α) : (pure value : Outcome α) = .returned value := rfl

@[simp] theorem returned_bind (value : α) (next : α → Outcome β) :
    (Outcome.returned value >>= next) = next value := rfl

@[simp] theorem aborted_bind (next : α → Outcome β) :
    ((Outcome.aborted : Outcome α) >>= next) = .aborted := rfl

@[simp] theorem undefined_bind (fault : Fault) (next : α → Outcome β) :
    ((Outcome.undefined fault : Outcome α) >>= next) = .undefined fault := rfl

/-- A sequence returns exactly when both parts do. -/
theorem bind_eq_returned {outcome : Outcome α} {next : α → Outcome β} {result : β} :
    (outcome >>= next) = .returned result ↔
      ∃ value, outcome = .returned value ∧ next value = .returned result := by
  cases outcome <;> simp

/-- A sequence has a fault when its first part does or when the rest does. -/
theorem bind_eq_undefined {outcome : Outcome α} {next : α → Outcome β} {fault : Fault} :
    (outcome >>= next) = .undefined fault ↔
      outcome = .undefined fault ∨
        ∃ value, outcome = .returned value ∧ next value = .undefined fault := by
  cases outcome <;> simp

theorem bind_ne_aborted {outcome : Outcome α} {next : α → Outcome β} (first : outcome ≠ .aborted)
    (rest : ∀ value, next value ≠ .aborted) : (outcome >>= next) ≠ .aborted := by
  cases outcome with
  | returned value => exact rest value
  | aborted => exact absurd rfl first
  | undefined fault => exact nofun

theorem foldlM_ne_aborted {σ : Type} {step : σ → α → Outcome σ}
    (steps : ∀ state value, step state value ≠ .aborted) (list : List α) (start : σ) :
    list.foldlM step start ≠ .aborted := by
  induction list generalizing start with
  | nil => exact nofun
  | cons value list ih =>
      rw [List.foldlM_cons]
      exact bind_ne_aborted (steps start value) ih

instance : LawfulMonad Outcome :=
  LawfulMonad.mk' Outcome (by intro α outcome; cases outcome <;> rfl) (by intros; rfl)
    (by intro α β γ outcome _ _; cases outcome <;> rfl)

end Outcome

/-- How a call ends, whatever it returns and whichever fault it has. -/
inductive Ending where
  | returned
  | aborted
  | undefined
  deriving Repr, DecidableEq

/-- Two calls in sequence end as the first one does, unless that returns. -/
def Ending.andThen : Ending → Ending → Ending
  | .returned, second => second
  | .aborted, _ => .aborted
  | .undefined, _ => .undefined

namespace Outcome

variable {α β : Type}

def ending : Outcome α → Ending
  | .returned _ => .returned
  | .aborted => .aborted
  | .undefined _ => .undefined

end Outcome

/-- Calls over a state, each ending in an outcome. -/
abbrev Run (σ : Type) := StateT σ Outcome

namespace Run

variable {σ α β : Type}

def abort : Run σ α := fun _ => .aborted

def undefined (fault : Fault) : Run σ α := fun _ => .undefined fault

def ofOutcome (outcome : Outcome α) : Run σ α := fun state =>
  outcome >>= fun value => .returned (value, state)

/-- Reads a variable that a call may have left unset. -/
def readSet : Option α → Run σ α
  | some value => pure value
  | none => undefined .unsetValue

@[simp] theorem pure_apply (value : α) (state : σ) :
    (pure value : Run σ α) state = .returned (value, state) := rfl

@[simp] theorem abort_apply (state : σ) : (abort : Run σ α) state = .aborted := rfl

@[simp] theorem undefined_apply (fault : Fault) (state : σ) :
    (undefined fault : Run σ α) state = .undefined fault := rfl

@[simp] theorem ofOutcome_returned (value : α) (state : σ) :
    (ofOutcome (.returned value) : Run σ α) state = .returned (value, state) := rfl

@[simp] theorem ofOutcome_undefined (fault : Fault) (state : σ) :
    (ofOutcome (.undefined fault) : Run σ α) state = .undefined fault := rfl

@[simp] theorem readSet_some (value : α) (state : σ) :
    (readSet (some value) : Run σ α) state = .returned (value, state) := rfl

@[simp] theorem readSet_none (state : σ) :
    (readSet none : Run σ α) state = .undefined .unsetValue := rfl

/-- Runs a call on one component of a larger state. -/
def zoom {τ : Type} (get : τ → σ) (set : τ → σ → τ) (run : Run σ α) : Run τ α := fun state =>
  run (get state) >>= fun result => .returned (result.1, set state result.2)

theorem zoom_of_returned {τ : Type} {get : τ → σ} {set : τ → σ → τ} {run : Run σ α} {state : τ}
    {value : α} {final : σ} (result : run (get state) = .returned (value, final)) :
    zoom get set run state = .returned (value, set state final) := by
  rw [zoom, result]
  rfl

theorem zoom_eq_returned {τ : Type} {get : τ → σ} {set : τ → σ → τ} {run : Run σ α}
    {state final : τ} {value : α} :
    zoom get set run state = .returned (value, final) ↔
      ∃ part, run (get state) = .returned (value, part) ∧ set state part = final := by
  rw [zoom, Outcome.bind_eq_returned]
  constructor
  · rintro ⟨⟨first, part⟩, result, same⟩
    cases same
    exact ⟨part, result, rfl⟩
  · rintro ⟨part, result, rfl⟩
    exact ⟨(value, part), result, rfl⟩

theorem bind_apply (run : Run σ α) (next : α → Run σ β) (state : σ) :
    (run >>= next) state = (run state >>= fun result => next result.1 result.2) := rfl

/-- Peels the first call off a sequence that returned. -/
theorem bind_eq_returned {run : Run σ α} {next : α → Run σ β} {state final : σ}
    {result : β} :
    (run >>= next) state = .returned (result, final) ↔
      ∃ value middle, run state = .returned (value, middle) ∧
        next value middle = .returned (result, final) := by
  rw [bind_apply, Outcome.bind_eq_returned]
  constructor
  · rintro ⟨⟨value, middle⟩, first, rest⟩
    exact ⟨value, middle, first, rest⟩
  · rintro ⟨value, middle, first, rest⟩
    exact ⟨(value, middle), first, rest⟩

theorem bind_of_returned {run : Run σ α} {next : α → Run σ β} {state middle : σ}
    {value : α} (first : run state = .returned (value, middle)) :
    (run >>= next) state = next value middle := by
  rw [bind_apply, first]
  rfl

/-- Whatever the run returns satisfies the postcondition. -/
def Ensures (run : Run σ α) (state : σ) (post : α → σ → Prop) : Prop :=
  ∀ value final, run state = .returned (value, final) → post value final

section Ensures

variable {run : Run σ α} {state : σ} {post : α → σ → Prop}

theorem Ensures.mono {weaker : α → σ → Prop} (ensures : Ensures run state post)
    (implies : ∀ value final, post value final → weaker value final) :
    Ensures run state weaker :=
  fun value final result => implies value final (ensures value final result)

theorem Ensures.and {also : α → σ → Prop} (ensures : Ensures run state post)
    (further : Ensures run state also) :
    Ensures run state fun value final => post value final ∧ also value final :=
  fun value final result => ⟨ensures value final result, further value final result⟩

theorem Ensures.of_eq {run' : Run σ α} {state' : σ} (ensures : Ensures run' state' post)
    (same : run state = run' state') : Ensures run state post :=
  fun value final result => ensures value final (same.symm.trans result)

theorem ensures_pure {value : α} (holds : post value state) :
    Ensures (pure value) state post := by
  intro result final returned
  cases returned
  exact holds

theorem ensures_of_returned {value : α} {final : σ} (result : run state = .returned (value, final))
    (holds : post value final) : Ensures run state post := by
  intro other last returned
  rw [result] at returned
  cases returned
  exact holds

theorem ensures_of_undefined {fault : Fault} (faulty : run state = .undefined fault) :
    Ensures run state post := by
  intro value final returned
  rw [faulty] at returned
  cases returned

theorem ensures_of_aborted (aborted : run state = .aborted) : Ensures run state post := by
  intro value final returned
  rw [aborted] at returned
  cases returned

/-- A sequence ensures what its rest ensures wherever the first part may end. -/
theorem Ensures.bind {next : α → Run σ β} {after : β → σ → Prop} (first : Ensures run state post)
    (rest : ∀ value middle, post value middle → Ensures (next value) middle after) :
    Ensures (run >>= next) state after := by
  intro result final returned
  obtain ⟨value, middle, begun, finished⟩ := bind_eq_returned.mp returned
  exact rest value middle (first value middle begun) result final finished

theorem ensures_map {f : α → β} {after : β → σ → Prop}
    (first : Ensures run state fun value final => after (f value) final) :
    Ensures (f <$> run) state after := by
  rw [map_eq_pure_bind]
  exact first.bind fun value middle holds => ensures_pure holds

theorem ensures_bind_of_never {next : α → Run σ β} {after : β → σ → Prop}
    (never : Ensures run state fun _ _ => False) : Ensures (run >>= next) state after :=
  never.bind fun _ _ impossible => impossible.elim

theorem ensures_bind_of_all {next : α → Run σ β} {after : β → σ → Prop}
    (rest : ∀ value middle, Ensures (next value) middle after) :
    Ensures (run >>= next) state after := by
  intro result final returned
  obtain ⟨value, middle, -, finished⟩ := bind_eq_returned.mp returned
  exact rest value middle result final finished

theorem ensures_bind_of_returned {next : α → Run σ β} {after : β → σ → Prop} {value : α}
    {middle : σ} (result : run state = .returned (value, middle))
    (rest : Ensures (next value) middle after) : Ensures (run >>= next) state after := by
  intro final last returned
  rw [bind_of_returned result] at returned
  exact rest final last returned

theorem ensures_ofOutcome {outcome : Outcome α}
    (holds : ∀ value, outcome = .returned value → post value state) :
    Ensures (ofOutcome outcome) state post := by
  intro value final returned
  rw [ofOutcome, Outcome.bind_eq_returned] at returned
  obtain ⟨found, result, same⟩ := returned
  cases same
  exact holds _ result

theorem ensures_zoom {τ : Type} {get : τ → σ} {set : τ → σ → τ} {state : τ} {after : α → Prop}
    (ensures : Ensures run (get state) fun value _ => after value) :
    Ensures (zoom get set run) state fun value _ => after value := by
  intro value final returned
  obtain ⟨part, result, -⟩ := zoom_eq_returned.mp returned
  exact ensures value part result

theorem ensures_readSet {found : Option α}
    (holds : ∀ value, found = some value → post value state) :
    Ensures (readSet found) state post := by
  intro value final returned
  cases found with
  | none => cases returned
  | some found =>
      cases returned
      exact holds _ rfl

end Ensures

/-- The run returns, and satisfies the postcondition. -/
def Returns (run : Run σ α) (state : σ) (post : α → σ → Prop) : Prop :=
  ∃ value final, run state = .returned (value, final) ∧ post value final

section Returns

variable {run : Run σ α} {state : σ} {post : α → σ → Prop}

theorem returns_of_returned {value : α} {final : σ}
    (result : run state = .returned (value, final)) (holds : post value final) :
    Returns run state post :=
  ⟨value, final, result, holds⟩

theorem returns_pure {value : α} (holds : post value state) : Returns (pure value) state post :=
  ⟨value, state, rfl, holds⟩

theorem returns_bind_iff_of_returned {next : α → Run σ β} {after : β → σ → Prop} {value : α}
    {middle : σ} (result : run state = .returned (value, middle)) :
    Returns (run >>= next) state after ↔ Returns (next value) middle after := by
  rw [Returns, bind_of_returned result, Returns]

theorem returns_bind_of_returned {next : α → Run σ β} {after : β → σ → Prop} {value : α}
    {middle : σ} (result : run state = .returned (value, middle))
    (rest : Returns (next value) middle after) : Returns (run >>= next) state after :=
  (returns_bind_iff_of_returned result).mpr rest

theorem returns_pure_iff {value : α} : Returns (pure value) state post ↔ post value state := by
  constructor
  · rintro ⟨_, _, result, holds⟩
    cases result
    exact holds
  · exact returns_pure

theorem not_returns_of_undefined {fault : Fault} (faulty : run state = .undefined fault) :
    ¬ Returns run state post := by
  rintro ⟨_, _, result, -⟩
  rw [faulty] at result
  cases result

theorem Returns.bind {next : α → Run σ β} {after : β → σ → Prop} (first : Returns run state post)
    (rest : ∀ value middle, post value middle → Returns (next value) middle after) :
    Returns (run >>= next) state after := by
  obtain ⟨value, middle, result, holds⟩ := first
  exact returns_bind_of_returned result (rest value middle holds)

theorem returns_bind_pure_iff {f : α → β} {after : β → σ → Prop} :
    Returns (run >>= fun value => pure (f value)) state after ↔
      Returns run state fun value final => after (f value) final := by
  constructor
  · rintro ⟨_, _, result, holds⟩
    obtain ⟨value, _, first, rest⟩ := bind_eq_returned.mp result
    cases rest
    exact ⟨value, _, first, holds⟩
  · exact fun returns => Returns.bind returns fun _ _ => returns_pure

theorem Returns.mono {weaker : α → σ → Prop} (returns : Returns run state post)
    (implies : ∀ value final, post value final → weaker value final) :
    Returns run state weaker := by
  obtain ⟨value, final, result, holds⟩ := returns
  exact ⟨value, final, result, implies value final holds⟩

theorem Returns.of_eq {run' : Run σ α} {state' : σ} (returns : Returns run' state' post)
    (same : run state = run' state') : Returns run state post := by
  rw [Returns, same]
  exact returns

/-- A run has one outcome, so what it ensures holds where it returns. -/
theorem Returns.and_ensures {also : α → σ → Prop} (returns : Returns run state post)
    (ensures : Ensures run state also) : Returns run state fun value final =>
      post value final ∧ also value final := by
  obtain ⟨value, final, result, holds⟩ := returns
  exact ⟨value, final, result, holds, ensures value final result⟩

end Returns

/-- The run does nothing undefined: it ends the program, or returns what satisfies the
postcondition. -/
def Safe (run : Run σ α) (state : σ) (post : α → σ → Prop) : Prop :=
  match run state with
  | .returned (value, final) => post value final
  | .aborted => True
  | .undefined _ => False

section Safe

variable {run : Run σ α} {state : σ} {post : α → σ → Prop}

theorem safe_of_returned {value : α} {final : σ} (result : run state = .returned (value, final)) :
    Safe run state post ↔ post value final := by
  rw [Safe, result]

theorem safe_of_aborted (aborted : run state = .aborted) : Safe run state post := by
  rw [Safe, aborted]
  trivial

theorem not_safe_of_undefined {fault : Fault} (faulty : run state = .undefined fault) :
    ¬ Safe run state post := by
  rw [Safe, faulty]
  exact not_false

theorem safe_pure {value : α} : Safe (pure value) state post ↔ post value state :=
  Iff.rfl

theorem safe_of_eq {run' : Run σ α} {state' : σ} (same : run state = run' state') :
    Safe run state post ↔ Safe run' state' post := by
  rw [Safe, same, Safe]

theorem Safe.ensures (safe : Safe run state post) : Ensures run state post := by
  intro value final returned
  rw [Safe, returned] at safe
  exact safe

theorem Safe.mono {weaker : α → σ → Prop} (safe : Safe run state post)
    (implies : ∀ value final, post value final → weaker value final) : Safe run state weaker := by
  rw [Safe] at safe ⊢
  cases result : run state with
  | returned reached =>
      rw [result] at safe
      exact implies _ _ safe
  | aborted => trivial
  | undefined fault =>
      rw [result] at safe
      exact safe

/-- What a run is known to ensure can be added to what it is safe for. -/
theorem Safe.and_ensures {also : α → σ → Prop} (safe : Safe run state post)
    (ensures : Ensures run state also) :
    Safe run state fun value final => post value final ∧ also value final := by
  rw [Safe] at safe ⊢
  cases result : run state with
  | returned reached =>
      rw [result] at safe
      exact ⟨safe, ensures _ _ result⟩
  | aborted => trivial
  | undefined fault =>
      rw [result] at safe
      exact safe

theorem Safe.aborted (safe : Safe run state post) (never : ∀ result, run state ≠ .returned result) :
    run state = .aborted := by
  rw [Safe] at safe
  cases result : run state with
  | returned reached => exact absurd result (never reached)
  | aborted => rfl
  | undefined fault =>
      rw [result] at safe
      exact safe.elim

theorem safe_ofOutcome {outcome : Outcome α} (ends : outcome ≠ .aborted) :
    Safe (ofOutcome outcome) state post ↔
      ∃ value, outcome = .returned value ∧ post value state := by
  cases outcome with
  | returned value =>
      rw [safe_of_returned (ofOutcome_returned value state)]
      constructor
      · exact fun holds => ⟨value, rfl, holds⟩
      · rintro ⟨_, same, holds⟩
        cases same
        exact holds
  | aborted => exact absurd rfl ends
  | undefined fault =>
      constructor
      · exact fun safe => absurd safe (not_safe_of_undefined rfl)
      · rintro ⟨_, same, -⟩
        cases same

/-- A sequence is safe exactly when its first part is, and its rest from wherever that ends. -/
theorem safe_bind {next : α → Run σ β} {after : β → σ → Prop} :
    Safe (run >>= next) state after ↔
      Safe run state fun value middle => Safe (next value) middle after := by
  unfold Safe
  rw [bind_apply]
  cases run state with
  | returned reached => rfl
  | aborted => rfl
  | undefined fault => rfl

theorem safe_bind_of_returned {next : α → Run σ β} {after : β → σ → Prop} {value : α} {middle : σ}
    (result : run state = .returned (value, middle)) :
    Safe (run >>= next) state after ↔ Safe (next value) middle after := by
  rw [safe_bind, safe_of_returned result]

end Safe

end Run

end Foundation
