import Vapaa.HandleRuns

/-!
# Nonblocking duplicates

`C_MPI_Comm_idup` and `C_MPI_Comm_idup_with_info` of `mpi_comm.c`, over a library that stores the
new communicator at some time before the request is complete.
-/

set_option autoImplicit false

namespace Vapaa

open Foundation

/-- How far a wrapper has come: it has not yet converted its variable `newcomm`, it has, or it has
returned. -/
inductive WrapperPhase where
  | asking
  | converted
  | left
  deriving DecidableEq, Repr

/-- A call of one of the wrappers: what it asked the library to duplicate, the number of the
caller's variable, the local variable `newcomm` while it exists, the phase in which the library
stored the new handle, and whether the request is complete. -/
structure IdupCall where
  comm : Int
  info : Option Int
  target : Nat
  newcomm : Option Int
  phase : WrapperPhase
  storedIn : Option WrapperPhase
  completed : Bool
  deriving DecidableEq, Repr

/-- The caller's variables, the calls in their order, the stores that hit no variable that exists,
and what the variable of each call holds when its request is complete. -/
structure IdupState where
  fortran : Nat → Int
  calls : List IdupCall
  strays : List Nat
  completions : List (Nat × Int)

/-- What happens in a program: calls of the wrappers and the steps within them, stores of the
library, completions that the program sees, and calls of anything else. -/
inductive IdupEvent where
  | call (commF : Int) (infoF : Option Int) (target : Nat)
  | store (index : Nat)
  | convert (index : Nat)
  | leave (index : Nat)
  | complete (index : Nat)
  | other
  deriving DecidableEq, Repr

section Steps

variable (mpi : Mpi) (duplicate : Nat → Int)

/-- The local variable exists from the call on, and starts as `MPI_COMM_NULL`. -/
def IdupCall.start (commF : Int) (infoF : Option Int) (target : Nat) : IdupCall where
  comm := cMpiCommF2c mpi commF
  info := infoF.map (cMpiInfoF2c mpi)
  target := target
  newcomm := some (mpi.handle .commNull)
  phase := .asking
  storedIn := none
  completed := false

/-- The library stores through the address of the local variable. -/
def IdupCall.store (duplicate : Int) (idupCall : IdupCall) : IdupCall :=
  { idupCall with
    newcomm := idupCall.newcomm.map fun _ => duplicate
    storedIn := some idupCall.phase }

namespace IdupState

def set (state : IdupState) (index : Nat) (idupCall : IdupCall) : IdupState :=
  { state with calls := state.calls.set index idupCall }

@[simp] theorem set_strays (state : IdupState) (index : Nat) (idupCall : IdupCall) :
    (state.set index idupCall).strays = state.strays := rfl

@[simp] theorem set_completions (state : IdupState) (index : Nat) (idupCall : IdupCall) :
    (state.set index idupCall).completions = state.completions := rfl

/-- The events of a run: no variable is passed again while a request for it is pending, the library
stores the handle of a call once, and a request completes after its call has returned and its
handle is stored. -/
def step (state : IdupState) : IdupEvent → Option IdupState
  | .call commF infoF target =>
      if ∀ idupCall ∈ state.calls, idupCall.completed ∨ idupCall.target ≠ target then
        some { state with calls := state.calls ++ [.start mpi commF infoF target] }
      else none
  | .store index =>
      match state.calls[index]? with
      | some idupCall =>
          if idupCall.storedIn = none then
            some { state.set index (idupCall.store (duplicate index)) with
              strays :=
                if idupCall.newcomm = none then state.strays ++ [index] else state.strays }
          else none
      | none => none
  | .convert index =>
      match state.calls[index]? with
      | some idupCall =>
          if idupCall.phase = .asking then
            idupCall.newcomm.map fun newcomm =>
              { state.set index { idupCall with phase := .converted } with
                fortran := Function.update state.fortran idupCall.target (mpi.c2f .comm newcomm) }
          else none
      | none => none
  | .leave index =>
      match state.calls[index]? with
      | some idupCall =>
          if idupCall.phase = .converted then
            some (state.set index { idupCall with phase := .left, newcomm := none })
          else none
      | none => none
  | .complete index =>
      match state.calls[index]? with
      | some idupCall =>
          if idupCall.phase = .left ∧ idupCall.storedIn ≠ none ∧ idupCall.completed = false then
            some { state.set index { idupCall with completed := true } with
              completions := state.completions ++ [(index, state.fortran idupCall.target)] }
          else none
      | none => none
  | .other => some state

def run (state : IdupState) (events : List IdupEvent) : Option IdupState :=
  events.foldlM (fun state event => state.step mpi duplicate event) state

end IdupState

/-- A program that has made no call yet. -/
def idupStart (fortran : Nat → Int) : IdupState where
  fortran := fortran
  calls := []
  strays := []
  completions := []

/-- No store hit storage that was gone, and the caller's variable denotes the duplicate whenever a
request completes. -/
structure DeliversDuplicates (state : IdupState) : Prop where
  stored : state.strays = []
  denoted : ∀ completion ∈ state.completions,
    cMpiCommF2c mpi completion.2 = duplicate completion.1

end Steps

section Invariant

variable (mpi : Mpi) (duplicate : Nat → Int)

/-- What a wrapper finds in its local variable when it converts it. -/
def IdupCall.delivered (index : Nat) (idupCall : IdupCall) : Int :=
  if idupCall.storedIn = some .asking then duplicate index else mpi.handle .commNull

structure IdupCall.Invariant (fortran : Nat → Int) (index : Nat) (idupCall : IdupCall) : Prop where
  asking : idupCall.phase = .asking →
    idupCall.newcomm = some (idupCall.delivered mpi duplicate index) ∧
      (idupCall.storedIn = none ∨ idupCall.storedIn = some .asking)
  converted : idupCall.phase = .converted →
    idupCall.newcomm ≠ none ∧ idupCall.storedIn ≠ some .left
  left : idupCall.phase = .left → idupCall.newcomm = none
  read : idupCall.phase ≠ .asking → idupCall.completed = false →
    fortran idupCall.target = mpi.c2f .comm (idupCall.delivered mpi duplicate index)
  completed : idupCall.completed = true → idupCall.phase = .left ∧ idupCall.storedIn ≠ none

structure IdupState.Invariant (state : IdupState) : Prop where
  calls : ∀ (index : Nat) (idupCall : IdupCall), state.calls[index]? = some idupCall →
    idupCall.Invariant mpi duplicate state.fortran index
  apart : ∀ (index other : Nat) (first second : IdupCall), state.calls[index]? = some first →
    state.calls[other]? = some second → first.completed = false → second.completed = false →
      first.target = second.target → index = other
  strays : ∀ index : Nat, index ∈ state.strays ↔
    ∃ idupCall, state.calls[index]? = some idupCall ∧ idupCall.storedIn = some .left
  completions : ∀ (index : Nat) (value : Int), (index, value) ∈ state.completions ↔
    ∃ idupCall, state.calls[index]? = some idupCall ∧ idupCall.completed = true ∧
      value = mpi.c2f .comm (idupCall.delivered mpi duplicate index)

end Invariant

section Preservation

variable {mpi : Mpi} {duplicate : Nat → Int} {state : IdupState}

/-- The local variable is gone once the wrapper has returned. -/
theorem IdupCall.Invariant.gone_iff {fortran : Nat → Int} {index : Nat} {idupCall : IdupCall}
    (holds : idupCall.Invariant mpi duplicate fortran index) :
    idupCall.newcomm = none ↔ idupCall.phase = .left := by
  refine ⟨fun gone => ?_, holds.left⟩
  cases phase : idupCall.phase with
  | asking => exact absurd ((holds.asking phase).1.symm.trans gone) nofun
  | converted => exact absurd gone (holds.converted phase).1
  | left => rfl

private theorem idupStart_invariant {fortran : Nat → Int} :
    (idupStart fortran).Invariant mpi duplicate := by
  constructor
  · intro index idupCall found
    cases found
  · intro index other first second found
    cases found
  · intro index
    refine iff_of_false (List.not_mem_nil) ?_
    rintro ⟨_, found, -⟩
    cases found
  · intro index value
    refine iff_of_false (List.not_mem_nil) ?_
    rintro ⟨_, found, -⟩
    cases found

/-- One call changes, and the variables that the others have converted keep their values. -/
theorem IdupState.Invariant.update (invariant : state.Invariant mpi duplicate) {index : Nat}
    {before after : IdupCall} (found : state.calls[index]? = some before)
    {fortran : Nat → Int} {strays : List Nat} {completions : List (Nat × Int)}
    (changed : after.Invariant mpi duplicate fortran index)
    (others : ∀ other idupCall, other ≠ index → state.calls[other]? = some idupCall →
      idupCall.Invariant mpi duplicate fortran other)
    (target : after.target = before.target)
    (completed : after.completed = false → before.completed = false)
    (strayed : ∀ other, other ∈ strays ↔
      if other = index then after.storedIn = some .left else other ∈ state.strays)
    (told : ∀ other value, (other, value) ∈ completions ↔
      if other = index then after.completed = true ∧
        value = mpi.c2f .comm (after.delivered mpi duplicate index)
      else (other, value) ∈ state.completions) :
    ({ fortran, calls := state.calls.set index after, strays, completions } :
      IdupState).Invariant mpi duplicate := by
  have inside : index < state.calls.length := (List.getElem?_eq_some_iff.mp found).1
  have atIndex : (state.calls.set index after)[index]? = some after :=
    List.getElem?_set_self inside
  have elsewhere : ∀ other, other ≠ index →
      (state.calls.set index after)[other]? = state.calls[other]? :=
    fun other apart => List.getElem?_set_ne apart.symm
  -- a call after the change, with the one it was
  have was : ∀ (other : Nat) (idupCall : IdupCall),
      (state.calls.set index after)[other]? = some idupCall →
      ∃ old : IdupCall, state.calls[other]? = some old ∧ idupCall.target = old.target ∧
        (idupCall.completed = false → old.completed = false) := by
    intro other idupCall present
    by_cases same : other = index
    · subst same
      obtain rfl := Option.some.inj (atIndex.symm.trans present)
      exact ⟨before, found, target, completed⟩
    · exact ⟨idupCall, (elsewhere other same).symm.trans present, rfl, id⟩
  constructor
  · intro other idupCall present
    by_cases same : other = index
    · subst same
      obtain rfl := Option.some.inj (atIndex.symm.trans present)
      exact changed
    · exact others other idupCall same ((elsewhere other same).symm.trans present)
  · intro first second one two atFirst atSecond pending pending' alike
    obtain ⟨old, oldFirst, sameTarget, stillPending⟩ := was first one atFirst
    obtain ⟨old', oldSecond, sameTarget', stillPending'⟩ := was second two atSecond
    exact invariant.apart first second old old' oldFirst oldSecond (stillPending pending)
      (stillPending' pending') (by rw [← sameTarget, ← sameTarget', alike])
  · intro other
    rw [strayed]
    by_cases same : other = index
    · subst same
      simp [atIndex]
    · rw [if_neg same, invariant.strays]
      simp only [elsewhere other same]
  · intro other value
    rw [told]
    by_cases same : other = index
    · subst same
      simp [atIndex]
    · rw [if_neg same, invariant.completions]
      simp only [elsewhere other same]

theorem IdupState.Invariant.update_quiet (invariant : state.Invariant mpi duplicate) {index : Nat}
    {before after : IdupCall} (found : state.calls[index]? = some before)
    {fortran : Nat → Int} (changed : after.Invariant mpi duplicate fortran index)
    (others : ∀ other idupCall, other ≠ index → state.calls[other]? = some idupCall →
      idupCall.Invariant mpi duplicate fortran other)
    (target : after.target = before.target) (completed : after.completed = before.completed)
    (stored : after.storedIn = before.storedIn) :
    ({ state.set index after with fortran } : IdupState).Invariant mpi duplicate := by
  refine invariant.update found changed others target (fun pending => completed ▸ pending) ?_ ?_
  · intro other
    by_cases same : other = index
    · subst same
      simp [invariant.strays, found, stored]
    · simp [same]
  · intro other value
    by_cases same : other = index
    · subst same
      simp [invariant.completions, found, completed, IdupCall.delivered, stored]
    · simp [same]

theorem IdupState.Invariant.call (invariant : state.Invariant mpi duplicate) {commF : Int}
    {infoF : Option Int} {target : Nat}
    (unused : ∀ idupCall ∈ state.calls, idupCall.completed = true ∨ idupCall.target ≠ target) :
    ({ state with calls := state.calls ++ [.start mpi commF infoF target] } :
      IdupState).Invariant mpi duplicate := by
  have split : ∀ (index : Nat) (idupCall : IdupCall),
      (state.calls ++ [.start mpi commF infoF target])[index]? = some idupCall →
        state.calls[index]? = some idupCall ∨
          index = state.calls.length ∧ idupCall = .start mpi commF infoF target := by
    intro index idupCall found
    rw [List.getElem?_append] at found
    split_ifs at found with inside
    · exact Or.inl found
    · rw [List.getElem?_singleton] at found
      split_ifs at found with position
      exact Or.inr ⟨by omega, (Option.some.inj found).symm⟩
  have kept : ∀ (index : Nat) (idupCall : IdupCall), state.calls[index]? = some idupCall →
      (state.calls ++ [.start mpi commF infoF target])[index]? = some idupCall := by
    intro index idupCall found
    rw [List.getElem?_append_left (List.getElem?_eq_some_iff.mp found).1, found]
  -- a call that is stored or complete was there before
  have same : ∀ (index : Nat) (holds : IdupCall → Prop), ¬ holds (.start mpi commF infoF target) →
      ((∃ idupCall, (state.calls ++ [.start mpi commF infoF target])[index]? = some idupCall ∧
          holds idupCall) ↔
        ∃ idupCall, state.calls[index]? = some idupCall ∧ holds idupCall) := by
    intro index holds never
    constructor
    · rintro ⟨idupCall, found, held⟩
      rcases split index idupCall found with old | ⟨-, rfl⟩
      · exact ⟨idupCall, old, held⟩
      · exact absurd held never
    · rintro ⟨idupCall, found, held⟩
      exact ⟨idupCall, kept index idupCall found, held⟩
  constructor
  · intro index idupCall found
    rcases split index idupCall found with old | ⟨-, rfl⟩
    · exact invariant.calls index idupCall old
    · exact ⟨fun _ => ⟨rfl, Or.inl rfl⟩, nofun, nofun, fun read => absurd rfl read, nofun⟩
  · intro index other first second atFirst atSecond pending pending' alike
    rcases split index first atFirst with old | ⟨position, rfl⟩
    · rcases split other second atSecond with old' | ⟨-, rfl⟩
      · exact invariant.apart index other first second old old' pending pending' alike
      · rcases unused first (List.mem_of_getElem? old) with completed | different
        · exact absurd (pending.symm.trans completed) Bool.false_ne_true
        · exact absurd alike different
    · rcases split other second atSecond with old' | ⟨position', -⟩
      · rcases unused second (List.mem_of_getElem? old') with completed | different
        · exact absurd (pending'.symm.trans completed) Bool.false_ne_true
        · exact absurd alike.symm different
      · rw [position, position']
  · intro index
    rw [invariant.strays]
    exact (same index _ nofun).symm
  · intro index value
    rw [invariant.completions]
    exact (same index _ fun held => Bool.false_ne_true held.1).symm

theorem IdupState.Invariant.store (invariant : state.Invariant mpi duplicate) {index : Nat}
    {idupCall : IdupCall} (found : state.calls[index]? = some idupCall)
    (first : idupCall.storedIn = none) :
    ({ state.set index (idupCall.store (duplicate index)) with
      strays := if idupCall.newcomm = none then state.strays ++ [index] else state.strays } :
        IdupState).Invariant mpi duplicate := by
  have holds := invariant.calls index idupCall found
  have pending : idupCall.completed = false := by
    rw [← Bool.not_eq_true]
    exact fun completed => (holds.completed completed).2 first
  refine invariant.update found ?_ (fun other other' _ => invariant.calls other other') rfl id ?_ ?_
  · constructor
    · intro asking
      have asked : idupCall.phase = .asking := asking
      simp [IdupCall.store, IdupCall.delivered, (holds.asking asked).1, asked]
    · intro converted
      have converts : idupCall.phase = .converted := converted
      simp [IdupCall.store, converts, (holds.converted converts).1]
    · intro left
      have gone : idupCall.phase = .left := left
      simp [IdupCall.store, holds.left gone]
    · intro read _
      have late : idupCall.phase ≠ .asking := read
      have kept := holds.read late pending
      rw [IdupCall.delivered, first, if_neg nofun] at kept
      rw [IdupCall.delivered, IdupCall.store, if_neg fun same => late (Option.some.inj same)]
      exact kept
    · intro completed
      exact absurd (pending.symm.trans completed) Bool.false_ne_true
  · intro other
    by_cases same : other = index
    · subst same
      have unstrayed : other ∉ state.strays := by
        simp [invariant.strays, found, first]
      simp only [if_true, IdupCall.store, Option.some.injEq, ← holds.gone_iff]
      split_ifs with gone
      · simp [gone]
      · simp [gone, unstrayed]
    · rw [if_neg same]
      split_ifs
      · simp [same]
      · rfl
  · intro other value
    by_cases same : other = index
    · subst same
      simp [invariant.completions, found, pending, IdupCall.store]
    · rw [if_neg same]
      rfl

theorem IdupState.Invariant.convert (invariant : state.Invariant mpi duplicate) {index : Nat}
    {idupCall : IdupCall} (found : state.calls[index]? = some idupCall)
    (asking : idupCall.phase = .asking) {newcomm : Int} (holds : idupCall.newcomm = some newcomm) :
    ({ state.set index { idupCall with phase := .converted } with
      fortran := Function.update state.fortran idupCall.target (mpi.c2f .comm newcomm) } :
        IdupState).Invariant mpi duplicate := by
  have asked := invariant.calls index idupCall found
  obtain ⟨same, early⟩ := asked.asking asking
  obtain rfl := Option.some.inj (holds.symm.trans same)
  have pending : idupCall.completed = false := by
    rw [← Bool.not_eq_true]
    intro completed
    exact absurd (asking.symm.trans (asked.completed completed).1) nofun
  refine invariant.update_quiet found ?_ ?_ rfl rfl rfl
  · constructor
    · exact nofun
    · intro _
      refine ⟨holds ▸ nofun, ?_⟩
      rcases early with none | some
      · exact none ▸ nofun
      · exact some ▸ nofun
    · exact nofun
    · intro _ _
      exact Function.update_self _ _ _
    · intro completed
      exact absurd (pending.symm.trans completed) Bool.false_ne_true
  · intro other other' apart found'
    have others := invariant.calls other other' found'
    refine ⟨others.asking, others.converted, others.left, fun read waiting => ?_, others.completed⟩
    have elsewhere : other'.target ≠ idupCall.target :=
      fun alike => apart (invariant.apart other index _ _ found' found waiting pending alike)
    rw [Function.update_of_ne elsewhere]
    exact others.read read waiting

theorem IdupState.Invariant.leave (invariant : state.Invariant mpi duplicate) {index : Nat}
    {idupCall : IdupCall} (found : state.calls[index]? = some idupCall)
    (converted : idupCall.phase = .converted) :
    (state.set index { idupCall with phase := .left, newcomm := none }).Invariant
      mpi duplicate := by
  have holds := invariant.calls index idupCall found
  refine invariant.update_quiet found ?_ (fun other other' _ => invariant.calls other other') rfl
    rfl rfl
  constructor
  · exact nofun
  · exact nofun
  · exact fun _ => rfl
  · intro _ pending
    exact holds.read (converted ▸ nofun) pending
  · intro completed
    exact absurd (converted.symm.trans (holds.completed completed).1) nofun

theorem IdupState.Invariant.complete (invariant : state.Invariant mpi duplicate) {index : Nat}
    {idupCall : IdupCall} (found : state.calls[index]? = some idupCall)
    (left : idupCall.phase = .left) (stored : idupCall.storedIn ≠ none)
    (pending : idupCall.completed = false) :
    ({ state.set index { idupCall with completed := true } with
      completions := state.completions ++ [(index, state.fortran idupCall.target)] } :
        IdupState).Invariant mpi duplicate := by
  have holds := invariant.calls index idupCall found
  refine invariant.update found ?_ (fun other other' _ => invariant.calls other other') rfl nofun
    ?_ ?_
  · exact ⟨holds.asking, holds.converted, holds.left, fun _ => nofun, fun _ => ⟨left, stored⟩⟩
  · intro other
    by_cases same : other = index
    · subst same
      simp [invariant.strays, found]
    · simp [same]
  · intro other value
    have read := holds.read (left ▸ nofun) pending
    by_cases same : other = index
    · subst same
      simp [invariant.completions, found, pending, read, IdupCall.delivered]
    · simp [same]

/-- Each event keeps the invariant. -/
theorem IdupState.Invariant.step (invariant : state.Invariant mpi duplicate) {event : IdupEvent}
    {next : IdupState} (stepped : state.step mpi duplicate event = some next) :
    next.Invariant mpi duplicate := by
  cases event with
  | call commF infoF target =>
      simp only [IdupState.step] at stepped
      split at stepped
      · cases stepped
        exact invariant.call ‹_›
      · cases stepped
  | store index =>
      simp only [IdupState.step] at stepped
      split at stepped
      · split at stepped
        · cases stepped
          exact invariant.store ‹_› ‹_›
        · cases stepped
      · cases stepped
  | convert index =>
      simp only [IdupState.step] at stepped
      split at stepped
      · split at stepped
        · obtain ⟨newcomm, holds, rfl⟩ := Option.map_eq_some_iff.mp stepped
          exact invariant.convert ‹_› ‹_› holds
        · cases stepped
      · cases stepped
  | leave index =>
      simp only [IdupState.step] at stepped
      split at stepped
      · split at stepped
        · cases stepped
          exact invariant.leave ‹_› ‹_›
        · cases stepped
      · cases stepped
  | complete index =>
      simp only [IdupState.step] at stepped
      split at stepped
      · split_ifs at stepped with ready
        cases stepped
        exact invariant.complete ‹_› ready.1 ready.2.1 ready.2.2
      · cases stepped
  | other =>
      cases stepped
      exact invariant

theorem IdupState.Invariant.run (invariant : state.Invariant mpi duplicate)
    {events : List IdupEvent} {final : IdupState}
    (ran : state.run mpi duplicate events = some final) : final.Invariant mpi duplicate := by
  induction events generalizing state with
  | nil =>
      cases ran
      exact invariant
  | cons event events ih =>
      rw [IdupState.run, List.foldlM_cons] at ran
      obtain ⟨next, stepped, rest⟩ := Option.bind_eq_some_iff.mp ran
      exact ih (invariant.step stepped) rest

end Preservation

section Delivery

variable {mpi : Mpi} {duplicate : Nat → Int} {state : IdupState} {library : Kind → Int → Prop}

/-- The handles of duplicates are handles of the library, and none is the null handle. -/
structure Duplicates (mpi : Mpi) (library : Kind → Int → Prop) (duplicate : Nat → Int) : Prop where
  own : ∀ index, library .comm (duplicate index)
  nonnull : ∀ index, duplicate index ≠ mpi.handle .commNull

/-- The library stored the handle of a call before the wrapper had returned and, once the request
is complete, before it converted its local variable. -/
def IdupCall.Timely (idupCall : IdupCall) : Prop :=
  idupCall.storedIn ≠ some .left ∧
    (idupCall.completed = true → idupCall.storedIn = some .asking)

private theorem cMpiCommF2c_delivered (convert : HandlesConvert mpi library)
    (duplicates : Duplicates mpi library duplicate) {index : Nat} {idupCall : IdupCall} :
    cMpiCommF2c mpi (mpi.c2f .comm (idupCall.delivered mpi duplicate index)) = duplicate index ↔
      idupCall.storedIn = some .asking := by
  have own : library .comm (idupCall.delivered mpi duplicate index) := by
    rw [IdupCall.delivered]
    split_ifs
    · exact duplicates.own index
    · exact convert.predefined .comm .commNull (by decide) rfl
  rw [cMpiCommF2c, convert.denotes own, IdupCall.delivered]
  split_ifs with early
  · simp [early]
  · exact iff_of_false (duplicates.nonnull index).symm early

theorem IdupState.Invariant.delivers_iff (invariant : state.Invariant mpi duplicate)
    (convert : HandlesConvert mpi library) (duplicates : Duplicates mpi library duplicate) :
    DeliversDuplicates mpi duplicate state ↔ ∀ idupCall ∈ state.calls, idupCall.Timely := by
  constructor
  · rintro ⟨stored, denoted⟩ idupCall member
    obtain ⟨index, found⟩ := List.mem_iff_getElem?.mp member
    constructor
    · intro stray
      have strayed := (invariant.strays index).mpr ⟨idupCall, found, stray⟩
      rw [stored] at strayed
      exact List.not_mem_nil strayed
    · intro completed
      have told := (invariant.completions index _).mpr ⟨idupCall, found, completed, rfl⟩
      exact (cMpiCommF2c_delivered convert duplicates).mp (denoted _ told)
  · intro timely
    constructor
    · refine List.eq_nil_iff_forall_not_mem.mpr fun index strayed => ?_
      obtain ⟨idupCall, found, stray⟩ := (invariant.strays index).mp strayed
      exact (timely idupCall (List.mem_of_getElem? found)).1 stray
    · rintro ⟨index, value⟩ told
      obtain ⟨idupCall, found, completed, rfl⟩ := (invariant.completions index value).mp told
      exact (cMpiCommF2c_delivered convert duplicates).mpr
        ((timely idupCall (List.mem_of_getElem? found)).2 completed)

end Delivery

section Schedules

/-- The call that an event is a step of. -/
def IdupEvent.index : IdupEvent → Option Nat
  | .call .. | .other => none
  | .store index | .convert index | .leave index | .complete index => some index

/-- The library stores the handle of a call before an event. -/
def StoredBefore (event : IdupEvent) (index : Nat) (events : List IdupEvent) : Prop :=
  .store index ∈ events.takeWhile (· ≠ event)

/-- The library stores the handle of a call after an event. -/
def StoredAfter (event : IdupEvent) (index : Nat) (events : List IdupEvent) : Prop :=
  .store index ∈ events.dropWhile (· ≠ event)

instance (event : IdupEvent) (index : Nat) (events : List IdupEvent) :
    Decidable (StoredBefore event index events) :=
  inferInstanceAs (Decidable (_ ∈ _))

instance (event : IdupEvent) (index : Nat) (events : List IdupEvent) :
    Decidable (StoredAfter event index events) :=
  inferInstanceAs (Decidable (_ ∈ _))

variable {event mark : IdupEvent} {index : Nat} {events : List IdupEvent}

private theorem storedBefore_concat (other : mark ≠ .store index) :
    StoredBefore mark index (events ++ [event]) ↔
      StoredBefore mark index events ∨ event = .store index ∧ mark ∉ events := by
  simp only [StoredBefore, ne_eq, decide_not]
  induction events with
  | nil =>
      by_cases same : event = mark
      · simp [same, other]
      · simp [same, eq_comm]
  | cons head events ih =>
      by_cases same : head = mark
      · simp [same]
      · simp [same, ih, or_assoc, Ne.symm same]

private theorem storedAfter_concat (other : mark ≠ .store index) :
    StoredAfter mark index (events ++ [event]) ↔
      StoredAfter mark index events ∨ event = .store index ∧ mark ∈ events := by
  simp only [StoredAfter, ne_eq, decide_not]
  induction events with
  | nil =>
      by_cases same : event = mark
      · simp [same, other.symm]
      · simp [same]
  | cons head events ih =>
      by_cases same : head = mark
      · simp [same, or_assoc, eq_comm]
      · simp [same, ih, Ne.symm same]

/-- What the record of a call says of the events so far. -/
structure IdupCall.Recorded (events : List IdupEvent) (index : Nat) (idupCall : IdupCall) :
    Prop where
  converts : idupCall.phase ≠ .asking ↔ .convert index ∈ events
  leaves : idupCall.phase = .left ↔ .leave index ∈ events
  completes : idupCall.completed = true ↔ .complete index ∈ events
  early : idupCall.storedIn = some .asking ↔ StoredBefore (.convert index) index events
  late : idupCall.storedIn = some .left ↔ StoredAfter (.leave index) index events

/-- Calls are recorded, and no event is a step of a call that was not made. -/
structure IdupState.Recorded (events : List IdupEvent) (state : IdupState) : Prop where
  calls : ∀ (index : Nat) (idupCall : IdupCall), state.calls[index]? = some idupCall →
    idupCall.Recorded events index
  steps : ∀ event ∈ events, ∀ index, event.index = some index → index < state.calls.length

theorem IdupCall.Recorded.other {idupCall : IdupCall} (recorded : idupCall.Recorded events index)
    (other : event.index ≠ some index) : idupCall.Recorded (events ++ [event]) index := by
  have apart : ∀ step : IdupEvent, step.index = some index → step ≠ event := by
    rintro step steps rfl
    exact other steps
  constructor
  · simp [recorded.converts, apart (.convert index) rfl]
  · simp [recorded.leaves, apart (.leave index) rfl]
  · simp [recorded.completes, apart (.complete index) rfl]
  · rw [@storedBefore_concat event (.convert index) index events nofun, recorded.early]
    simp [(apart (.store index) rfl).symm]
  · rw [@storedAfter_concat event (.leave index) index events nofun, recorded.late]
    simp [(apart (.store index) rfl).symm]

theorem IdupCall.Recorded.store {idupCall : IdupCall} (recorded : idupCall.Recorded events index)
    (first : idupCall.storedIn = none) {duplicate : Int} :
    (idupCall.store duplicate).Recorded (events ++ [.store index]) index := by
  have unstored : ¬ StoredBefore (.convert index) index events :=
    fun stored => absurd (first.symm.trans (recorded.early.mpr stored)) nofun
  have unstored' : ¬ StoredAfter (.leave index) index events :=
    fun stored => absurd (first.symm.trans (recorded.late.mpr stored)) nofun
  constructor
  · simp [IdupCall.store, recorded.converts]
  · simp [IdupCall.store, recorded.leaves]
  · simp [IdupCall.store, recorded.completes]
  · rw [@storedBefore_concat _ (.convert index) index events nofun, ← recorded.converts]
    simp [IdupCall.store, unstored]
  · rw [@storedAfter_concat _ (.leave index) index events nofun, ← recorded.leaves]
    simp [IdupCall.store, unstored']

theorem IdupCall.Recorded.progress {before after : IdupCall}
    (recorded : before.Recorded events index) (kept : after.storedIn = before.storedIn)
    (silent : event ≠ .store index)
    (converts : after.phase ≠ .asking ↔ before.phase ≠ .asking ∨ event = .convert index)
    (leaves : after.phase = .left ↔ before.phase = .left ∨ event = .leave index)
    (completes : after.completed = true ↔ before.completed = true ∨ event = .complete index) :
    after.Recorded (events ++ [event]) index := by
  constructor
  · rw [converts, recorded.converts, List.mem_append, List.mem_singleton, @eq_comm _ event]
  · rw [leaves, recorded.leaves, List.mem_append, List.mem_singleton, @eq_comm _ event]
  · rw [completes, recorded.completes, List.mem_append, List.mem_singleton, @eq_comm _ event]
  · rw [kept, @storedBefore_concat event (.convert index) index events nofun, recorded.early]
    simp [silent]
  · rw [kept, @storedAfter_concat event (.leave index) index events nofun, recorded.late]
    simp [silent]

theorem IdupState.Recorded.update {state : IdupState} (recorded : state.Recorded events)
    {before after : IdupCall} (found : state.calls[index]? = some before)
    (own : event.index = some index)
    (changed : after.Recorded (events ++ [event]) index) {fortran : Nat → Int} {strays : List Nat}
    {completions : List (Nat × Int)} :
    ({ fortran, calls := state.calls.set index after, strays, completions } :
      IdupState).Recorded (events ++ [event]) := by
  have inside : index < state.calls.length := (List.getElem?_eq_some_iff.mp found).1
  constructor
  · intro other idupCall present
    by_cases same : other = index
    · subst same
      obtain rfl := Option.some.inj ((List.getElem?_set_self inside).symm.trans present)
      exact changed
    · have old := (List.getElem?_set_ne (Ne.symm same)).symm.trans present
      refine (recorded.calls other idupCall old).other fun own' => same ?_
      exact Option.some.inj (own'.symm.trans own)
  · intro step member other steps
    rw [List.length_set]
    rcases List.mem_append.mp member with old | new
    · exact recorded.steps step old other steps
    · obtain rfl := List.mem_singleton.mp new
      obtain rfl := Option.some.inj (own.symm.trans steps)
      exact inside

private theorem recorded_start {mpi : Mpi} {commF : Int} {infoF : Option Int} {target : Nat}
    (fresh : ∀ event ∈ events, event.index ≠ some index) :
    (IdupCall.start mpi commF infoF target).Recorded events index := by
  constructor
  · exact iff_of_false (fun asks => asks rfl) fun member => fresh _ member rfl
  · exact iff_of_false nofun fun member => fresh _ member rfl
  · exact iff_of_false nofun fun member => fresh _ member rfl
  · refine iff_of_false nofun fun stored => ?_
    exact fresh _ ((List.takeWhile_prefix _).subset stored) rfl
  · refine iff_of_false nofun fun stored => ?_
    exact fresh _ ((List.dropWhile_suffix _).subset stored) rfl

theorem IdupState.Recorded.call {mpi : Mpi} {state : IdupState} (recorded : state.Recorded events)
    {commF : Int} {infoF : Option Int} {target : Nat} :
    ({ state with calls := state.calls ++ [.start mpi commF infoF target] } :
      IdupState).Recorded (events ++ [.call commF infoF target]) := by
  have steps : ∀ step ∈ events ++ [.call commF infoF target], ∀ index,
      step.index = some index → index < state.calls.length := by
    intro step member index steps
    rcases List.mem_append.mp member with old | new
    · exact recorded.steps step old index steps
    · obtain rfl := List.mem_singleton.mp new
      cases steps
  constructor
  · intro index idupCall found
    rw [List.getElem?_append] at found
    split_ifs at found with inside
    · exact (recorded.calls index idupCall found).other nofun
    · rw [List.getElem?_singleton] at found
      split_ifs at found with position
      cases found
      exact recorded_start fun step member same => inside (steps step member index same)
  · intro step member index same
    rw [List.length_append]
    exact Nat.lt_add_right _ (steps step member index same)

theorem IdupState.Recorded.step {mpi : Mpi} {duplicate : Nat → Int} {state next : IdupState}
    (recorded : state.Recorded events) (stepped : state.step mpi duplicate event = some next) :
    next.Recorded (events ++ [event]) := by
  cases event with
  | call commF infoF target =>
      simp only [IdupState.step] at stepped
      split at stepped
      · cases stepped
        exact recorded.call
      · cases stepped
  | store index =>
      simp only [IdupState.step] at stepped
      split at stepped
      · rename_i idupCall found
        split at stepped
        · cases stepped
          exact recorded.update found rfl ((recorded.calls index idupCall found).store ‹_›)
        · cases stepped
      · cases stepped
  | convert index =>
      simp only [IdupState.step] at stepped
      split at stepped
      · rename_i idupCall found
        split_ifs at stepped with asking
        obtain ⟨newcomm, -, rfl⟩ := Option.map_eq_some_iff.mp stepped
        refine recorded.update found rfl ?_
        refine (recorded.calls index idupCall found).progress rfl nofun ?_ ?_ ?_
        · simp
        · simp [asking]
        · simp
      · cases stepped
  | leave index =>
      simp only [IdupState.step] at stepped
      split at stepped
      · rename_i idupCall found
        split_ifs at stepped with converted
        cases stepped
        refine recorded.update found rfl ?_
        refine (recorded.calls index idupCall found).progress rfl nofun ?_ ?_ ?_
        · simp [converted]
        · simp
        · simp
      · cases stepped
  | complete index =>
      simp only [IdupState.step] at stepped
      split at stepped
      · rename_i idupCall found
        split_ifs at stepped with ready
        cases stepped
        refine recorded.update found rfl ?_
        refine (recorded.calls index idupCall found).progress rfl nofun ?_ ?_ ?_
        · simp
        · simp
        · simp
      · cases stepped
  | other =>
      cases stepped
      constructor
      · exact fun index idupCall found => (recorded.calls index idupCall found).other nofun
      · intro step member index steps
        rcases List.mem_append.mp member with old | new
        · exact recorded.steps step old index steps
        · obtain rfl := List.mem_singleton.mp new
          cases steps

private theorem recorded_of_run {mpi : Mpi} {duplicate : Nat → Int} {fortran : Nat → Int}
    {final : IdupState} (ran : (idupStart fortran).run mpi duplicate events = some final) :
    final.Recorded events := by
  induction events using List.reverseRecOn generalizing final with
  | nil =>
      cases ran
      exact ⟨nofun, nofun⟩
  | append_singleton events event ih =>
      rw [IdupState.run, List.foldlM_append] at ran
      obtain ⟨middle, earlier, last⟩ := Option.bind_eq_some_iff.mp ran
      rw [List.foldlM_cons] at last
      obtain ⟨next, stepped, same⟩ := Option.bind_eq_some_iff.mp last
      cases same
      exact (ih earlier).step stepped

/-- A schedule in which the library stores the handle of each call before its wrapper returns, and
before the wrapper reads its local variable where the request completes. -/
def TimelySchedule (events : List IdupEvent) : Prop :=
  ∀ index, ¬ StoredAfter (.leave index) index events ∧
    (.complete index ∈ events → StoredBefore (.convert index) index events)

private theorem timely_iff {state : IdupState} (recorded : state.Recorded events) :
    (∀ idupCall ∈ state.calls, idupCall.Timely) ↔ TimelySchedule events := by
  constructor
  · intro timely index
    cases found : state.calls[index]? with
    | none =>
        have absent : ∀ event ∈ events, event.index ≠ some index := by
          intro event member same
          exact absurd (recorded.steps event member index same)
            (not_lt.mpr (List.getElem?_eq_none_iff.mp found))
        constructor
        · exact fun stored => absent _ ((List.dropWhile_suffix _).subset stored) rfl
        · exact fun completes => absurd rfl (absent _ completes)
    | some idupCall =>
        have record := recorded.calls index idupCall found
        obtain ⟨unstrayed, early⟩ := timely idupCall (List.mem_of_getElem? found)
        constructor
        · exact fun stored => unstrayed (record.late.mpr stored)
        · exact fun completes => record.early.mp (early (record.completes.mpr completes))
  · intro timely idupCall member
    obtain ⟨index, found⟩ := List.mem_iff_getElem?.mp member
    have record := recorded.calls index idupCall found
    obtain ⟨unstrayed, early⟩ := timely index
    constructor
    · exact fun late => unstrayed (record.late.mp late)
    · exact fun completed => record.early.mpr (early (record.completes.mp completed))

/-- The caller's variable gets what `C_MPI_Comm_idup` and `C_MPI_Comm_idup_with_info` hand back when
the library leaves the same in their local variable. -/
theorem convert_handsBack {mpi : Mpi} {duplicate : Nat → Int} {state next : IdupState}
    {idupCall : IdupCall} (found : state.calls[index]? = some idupCall)
    (stepped : state.step mpi duplicate (.convert index) = some next) :
    ∃ newcomm, idupCall.newcomm = some newcomm ∧ ∀ rc request commF infoF world,
      Run.Ensures (cMpiCommIdup mpi (fun _ _ _ => ⟨rc, newcomm, request⟩) commF) world
          (fun result _ => result.1 = next.fortran idupCall.target) ∧
        Run.Ensures (cMpiCommIdupWithInfo mpi (fun _ _ _ _ => ⟨rc, newcomm, request⟩) commF infoF)
          world fun result _ => result.1 = next.fortran idupCall.target := by
  simp only [IdupState.step, found] at stepped
  split_ifs at stepped
  obtain ⟨newcomm, holds, rfl⟩ := Option.map_eq_some_iff.mp stepped
  have delivered : mpi.c2f .comm newcomm =
      Function.update state.fortran idupCall.target (mpi.c2f .comm newcomm) idupCall.target := by
    rw [Function.update_self]
  refine ⟨newcomm, holds, fun rc request commF infoF world => ⟨?_, ?_⟩⟩
  · exact Run.ensures_bind_of_all fun _ _ => Run.ensures_pure delivered
  · exact Run.ensures_bind_of_all fun _ _ => Run.ensures_pure delivered

variable {mpi : Mpi} {duplicate : Nat → Int} {library : Kind → Int → Prop} {fortran : Nat → Int}
variable {final : IdupState}

/-- Duplicates are delivered in exactly the runs in which the library is as fast as the wrappers
take it to be. -/
theorem duplicates_delivered_iff (convert : HandlesConvert mpi library)
    (duplicates : Duplicates mpi library duplicate)
    (ran : (idupStart fortran).run mpi duplicate events = some final) :
    DeliversDuplicates mpi duplicate final ↔ TimelySchedule events :=
  ((idupStart_invariant.run ran).delivers_iff convert duplicates).trans
    (timely_iff (recorded_of_run ran))

end Schedules

section Examples

/-- The handles of duplicates, one after the other. -/
def nextDuplicate (index : Nat) : Int := 2000000000 + index

private theorem mpich_duplicates : Duplicates mpich (fun _ handle => 0 ≤ handle) nextDuplicate := by
  constructor
  · intro index
    simp only [nextDuplicate]
    omega
  · intro index
    rw [nextDuplicate, show mpich.handle .commNull = 67108864 from rfl]
    omega

def promptSchedule : List IdupEvent :=
  [.call (-1000) none 0, .store 0, .convert 0, .leave 0, .other, .complete 0]

theorem duplicates_delivered_prompt :
    ∃ final, (idupStart fun _ => 0).run mpich nextDuplicate promptSchedule = some final ∧
      DeliversDuplicates mpich nextDuplicate final := by
  have runs : ((idupStart fun _ => 0).run mpich nextDuplicate promptSchedule).isSome := rfl
  obtain ⟨final, ran⟩ := Option.isSome_iff_exists.mp runs
  refine ⟨final, ran,
    (duplicates_delivered_iff mpich_handlesConvert mpich_duplicates ran).mpr fun index => ?_⟩
  cases index with
  | zero => decide
  | succ index =>
      constructor
      · exact fun stored =>
          absurd ((List.dropWhile_suffix _).subset stored) (by simp [promptSchedule])
      · exact fun completes => absurd completes (by simp [promptSchedule])

/-- A library that stores while the program waits stores to a variable that is gone, and the
caller's variable keeps the null handle of the library. -/
theorem duplicates_lost :
    ∃ final, (idupStart fun _ => 0).run mpich nextDuplicate
        [.call (-1000) none 0, .convert 0, .leave 0, .other, .store 0, .complete 0] = some final ∧
      final.strays = [0] ∧ final.completions = [(0, mpich.handle .commNull)] ∧
      ¬ DeliversDuplicates mpich nextDuplicate final := by
  refine ⟨_, rfl, rfl, rfl, fun delivers => ?_⟩
  exact absurd delivers.stored nofun

end Examples

end Vapaa
