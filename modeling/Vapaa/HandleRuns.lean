import Vapaa.HandleCoherence
import Vapaa.InfoMaps
import Vapaa.SectionArguments
import Vapaa.TypeNesting

/-!
# Handles over whole runs

A program that starts from the constants keeps its handles coherent exactly as long as no call is
handed a predefined handle, since the outputs of the wrappers are not translated to constants.
-/

set_option autoImplicit false

namespace Vapaa

open Foundation

def Kind.null : Kind → Predefined
  | .comm => .commNull
  | .datatype => .datatype .datatypeNull
  | .file => .fileNull
  | .group => .groupNull
  | .info => .infoNull
  | .message => .messageNull
  | .op => .op .opNull
  | .request => .requestNull
  | .win => .winNull

theorem Kind.null_mem (kind : Kind) : kind.null ∈ Predefined.table kind := by
  cases kind <;> decide

section Histories

variable (mpi : Mpi) (constants : HandleConstants)

/-- A call of a run, with the program before and after it. -/
structure Taken where
  handleCall : HandleCall
  before : Program
  after : Program

/-- The calls that a program with these variables goes on to make. Calls that set no handle may
come between them. -/
inductive History : HandleStore → List Taken → Prop where
  | done (held : HandleStore) : History held []
  | call {handleCall : HandleCall} {before after : Program} {rest : List Taken}
      (ran : handleCall.step mpi constants before = .returned ((), after))
      (goesOn : History after.held rest) :
      History before.held ({ handleCall, before, after } :: rest)

namespace Taken

variable (taken : Taken)

def handed : List Handed := taken.handleCall.handed mpi constants taken.before

/-- A handle that a call has set to null compares equal to the constant, and so does the message
that it has consumed. -/
structure Nulls : Prop where
  returned : ∀ back ∈ taken.handed mpi constants, back.handle = mpi.handle back.kind.null →
    handlesEqual back.kind (taken.after.held back.kind back.target) back.kind.null.vapaa = true
  consumed : ∀ message, taken.handleCall.consumed mpi = some message →
    handlesEqual .message (taken.after.held .message message) Predefined.messageNull.vapaa = true

/-- The call is handed no predefined handle, and consumes no message but the null message. -/
structure Clean : Prop where
  fresh : ∀ back ∈ taken.handed mpi constants, ¬ IsPredefined mpi back.kind back.handle
  kept : ∀ message, taken.handleCall.consumed mpi = some message →
    taken.before.held .message message = Predefined.messageNull.vapaa

end Taken

/-- Handles are coherent at the start and after each call, and null handles compare equal. -/
def CoherentRun (start : HandleStore) (steps : List Taken) : Prop :=
  Coherent mpi start ∧ ∀ taken ∈ steps, Coherent mpi taken.after.held ∧ taken.Nulls mpi constants

variable {mpi constants} {library : Kind → Int → Prop} {held : HandleStore}

/-- A call that consumes a message sets no variable of a message. -/
theorem HandleCall.handed_of_consumed {handleCall : HandleCall} {message : Nat}
    (consumed : handleCall.consumed mpi = some message) {program : Program} :
    ∀ back ∈ handleCall.handed mpi constants program, back.kind ≠ .message := by
  cases handleCall with
  | mrecv => exact nofun
  | cfiMrecv => exact nofun
  | imrecv | cfiImrecv =>
      intro back member
      cases List.mem_singleton.mp member
      exact nofun
  | _ => cases consumed

/-- The wrappers of matched receives do not assign the message. -/
theorem Taken.message_unassigned {taken : Taken} {message : Nat}
    (hands : HandsBack mpi (taken.handed mpi constants) taken.before.held taken.after.held)
    (consumed : taken.handleCall.consumed mpi = some message) :
    taken.after.held .message message = taken.before.held .message message := by
  apply hands.others
  rintro back member ⟨same, _⟩
  exact HandleCall.handed_of_consumed consumed back member same

/-- One call keeps handles coherent and null handles equal exactly when it is clean. -/
theorem Taken.clean_iff (convert : HandlesConvert mpi library) (taken : Taken)
    (ran : taken.handleCall.step mpi constants taken.before = .returned ((), taken.after))
    (known : Known mpi library taken.before.held) (separate : Separate mpi)
    (unmixed : Unmixed mpi library taken.before.held)
    (own : HandsOwn mpi library (taken.handed mpi constants) taken.before.held) :
    Coherent mpi taken.after.held ∧ taken.Nulls mpi constants ↔ taken.Clean mpi constants := by
  have hands : HandsBack mpi (taken.handed mpi constants) taken.before.held taken.after.held :=
    taken.handleCall.step_handsBack _ _ ran
  have nextIff := unmixed.next_iff convert hands own
  have coherentIff := coherent_iff convert (known.next hands own)
  constructor
  · rintro ⟨coherent, nulls⟩
    constructor
    · exact nextIff.mp (coherentIff.mp coherent).2
    · intro message consumed
      rw [← Taken.message_unassigned hands consumed]
      exact (handlesEqual_iff .message).mp (nulls.consumed message consumed)
  · intro clean
    refine ⟨coherentIff.mpr ⟨separate, nextIff.mpr clean.fresh⟩, ?_, ?_⟩
    · intro back member null
      exact absurd ⟨back.kind.null, back.kind.null_mem, by cases back.kind <;> rfl, null.symm⟩
        (clean.fresh back member)
    · intro message consumed
      rw [handlesEqual_iff, Taken.message_unassigned hands consumed]
      exact clean.kept message consumed

theorem History.clean_iff {steps : List Taken} (history : History mpi constants held steps)
    (convert : HandlesConvert mpi library) (known : Known mpi library held)
    (separate : Separate mpi) (unmixed : Unmixed mpi library held)
    (own : ∀ taken ∈ steps, HandsOwn mpi library (taken.handed mpi constants) taken.before.held) :
    (∀ taken ∈ steps, Coherent mpi taken.after.held ∧ taken.Nulls mpi constants) ↔
      ∀ taken ∈ steps, taken.Clean mpi constants := by
  -- the variables after the first call are those that the rest of the run starts from
  induction history with
  | done => simp only [List.not_mem_nil, false_implies, implies_true]
  | @call handleCall before after rest ran goesOn ih =>
      rw [List.forall_mem_cons] at own
      rw [List.forall_mem_cons, List.forall_mem_cons]
      rw [Taken.clean_iff convert { handleCall, before, after } ran known separate unmixed own.1]
      apply and_congr_right
      intro clean
      have hands := handleCall.step_handsBack _ _ ran
      have unmixedNext := (unmixed.next_iff convert hands own.1).mpr clean.fresh
      exact ih (known.next hands own.1) unmixedNext own.2

/-- Variables that all have constants. -/
def FromConstants (mpi : Mpi) (start : HandleStore) : Prop :=
  ∀ kind i, ∃ object ∈ Predefined.table kind, mpi.has object ∧ start kind i = object.vapaa

theorem FromConstants.known (start : FromConstants mpi held) : Known mpi library held :=
  fun kind i => Or.inl (start kind i)

theorem FromConstants.unmixed (start : FromConstants mpi held)
    (convert : HandlesConvert mpi library) : Unmixed mpi library held := by
  intro kind i handle own same
  obtain ⟨object, member, _, constant⟩ := start kind i
  exact absurd (constant.symm.trans same) (convert.foreign kind handle own object member)

/-- A run from the constants is coherent exactly when the library tells predefined objects apart
and every call is clean. -/
theorem handles_coherent_iff (convert : HandlesConvert mpi library) {start : HandleStore}
    (fromConstants : FromConstants mpi start) {steps : List Taken}
    (history : History mpi constants start steps)
    (own : ∀ taken ∈ steps, HandsOwn mpi library (taken.handed mpi constants) taken.before.held) :
    CoherentRun mpi constants start steps ↔
      Separate mpi ∧ ∀ taken ∈ steps, taken.Clean mpi constants := by
  have known : Known mpi library start := fromConstants.known
  have unmixed : Unmixed mpi library start := fromConstants.unmixed convert
  rw [CoherentRun, coherent_iff convert known]
  constructor
  · rintro ⟨⟨separate, _⟩, coherent⟩
    exact ⟨separate, (history.clean_iff convert known separate unmixed own).mp coherent⟩
  · rintro ⟨separate, clean⟩
    exact ⟨⟨separate, unmixed⟩, (history.clean_iff convert known separate unmixed own).mpr clean⟩

end Histories

section Examples

def mpichHandles : HandleConstants where
  toTypeConstants := mpichTypes
  commTypeShared := 1
  commTypeHwUnguided := 3
  commTypeHwGuided := 2
  mode
    | .create => 1
    | .rdonly => 2
    | .wronly => 4
    | .rdwr => 8
    | .deleteOnClose => 16
    | .uniqueOpen => 32
    | .excl => 64
    | .append => 128
    | .sequential => 256

theorem mpich_handlesConvert : HandlesConvert mpich fun _ handle => 0 ≤ handle := by
  constructor
  · intro kind object member _
    have positive : ∀ kind, ∀ object ∈ Predefined.table kind, 0 ≤ Mpich.handle object := by
      rintro (_ | _) <;> decide
    exact positive kind object member
  · exact fun _ _ _ => rfl
  · intro kind handle own object member same
    have negative : ∀ kind, ∀ object ∈ Predefined.table kind, object.vapaa < 0 := by
      rintro (_ | _) <;> decide
    have below := negative kind object member
    rw [same] at below
    exact absurd own (not_le.mpr below)

private theorem mpich_separate : Separate mpich := by
  have nodup : ∀ kind, ((Predefined.table kind).map Mpich.handle).Nodup := by
    rintro (_ | _) <;> decide +kernel
  intro kind object member other member' _ _ same
  exact List.inj_on_of_nodup_map (nodup kind) member member' same

def worldHandles : HandleStore := fun kind _ =>
  if kind = .comm then Predefined.commWorld.vapaa else kind.null.vapaa

private theorem worldHandles_fromConstants : FromConstants mpich worldHandles := by
  intro kind i
  cases kind with
  | comm => exact ⟨.commWorld, by decide, rfl, rfl⟩
  | _ => exact ⟨_, Kind.null_mem _, rfl, rfl⟩

def startProgram : Program where
  process := startProcess
  infos := infoStart.infos
  held := worldHandles

/-- `MPI_Comm_idup` of the world. -/
def duplicated : Taken where
  handleCall := .commIdup (fun _ _ _ => { rc := 0, handle := 2000000001, request := 738197505 })
    0 1 0
  before := startProgram
  after := { startProgram with
    held := (worldHandles.set .comm 1 2000000001).set .request 0 738197505 }

private theorem duplicated_ran :
    duplicated.handleCall.step mpich mpichHandles startProgram = .returned ((), duplicated.after) :=
  rfl

private theorem duplicated_own :
    HandsOwn mpich (fun _ handle => 0 ≤ handle) (duplicated.handed mpich mpichHandles)
      worldHandles := by
  intro back handed
  left
  revert back
  decide

/-- The wait for the duplication, which sets the request to `MPI_REQUEST_NULL`. -/
def waited : Taken where
  handleCall := .wait { successfulReply with request := 738197504 } 0 16
  before := duplicated.after
  after := { duplicated.after with
    process := { startProcess with
      issued := [.complete .wait [738197505]]
      statusPointers := [.ofArgument 1] }
    held := duplicated.after.held.set .request 0 738197504 }

theorem duplicated_coherent : CoherentRun mpich mpichHandles worldHandles [duplicated] := by
  have history : History mpich mpichHandles worldHandles [duplicated] :=
    .call duplicated_ran (.done _)
  refine (handles_coherent_iff mpich_handlesConvert worldHandles_fromConstants history ?_).mpr
    ⟨mpich_separate, ?_⟩
  · intro taken member
    cases List.mem_singleton.mp member
    exact duplicated_own
  · intro taken member
    cases List.mem_singleton.mp member
    constructor
    · have fresh : ∀ back ∈ duplicated.handed mpich mpichHandles,
          ∀ object ∈ Predefined.table back.kind, Mpich.handle object ≠ back.handle := by decide
      rintro back handed ⟨object, listed, _, same⟩
      exact fresh back handed object listed same
    · exact nofun

/-- A completed request is null, and does not compare equal to `MPI_REQUEST_NULL`. -/
theorem completedRequest_unequal :
    HandlesConvert mpich (fun _ handle => 0 ≤ handle) ∧ FromConstants mpich worldHandles ∧
    History mpich mpichHandles worldHandles [duplicated, waited] ∧
    (∀ taken ∈ [duplicated, waited], HandsOwn mpich (fun _ handle => 0 ≤ handle)
      (taken.handed mpich mpichHandles) taken.before.held) ∧
    cMpiRequestF2c mpich (waited.after.held .request 0) = mpich.handle .requestNull ∧
    handlesEqual .request (waited.after.held .request 0) Predefined.requestNull.vapaa = false ∧
    ¬ CoherentRun mpich mpichHandles worldHandles [duplicated, waited] := by
  have unequal : handlesEqual .request (waited.after.held .request 0)
      Predefined.requestNull.vapaa = false := by decide
  have waitedRan : waited.handleCall.step mpich mpichHandles waited.before =
      .returned ((), waited.after) := rfl
  refine ⟨mpich_handlesConvert, worldHandles_fromConstants,
    .call duplicated_ran (.call waitedRan (.done _)), ?_, rfl, unequal, ?_⟩
  · rw [List.forall_mem_cons, List.forall_mem_singleton]
    refine ⟨duplicated_own, fun back handed => Or.inl ?_⟩
    cases List.mem_singleton.mp handed
    decide
  · rintro ⟨_, coherent⟩
    have nulls := (coherent waited (by simp)).2
    have equal := nulls.returned ⟨.request, 0, 738197504⟩ (List.mem_singleton_self _) rfl
    exact absurd (unequal.symm.trans equal) nofun

end Examples

end Vapaa
