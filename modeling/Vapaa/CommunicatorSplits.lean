import Vapaa.Foundation.RankedGroups
import Vapaa.HandleRuns
import Vapaa.InfoObjects

/-!
# Splitting communicators

`MPI_Comm_split` of `mpi_comm_f.F90` and `mpi_comm.c`, called by all processes of a communicator.
-/

set_option autoImplicit false

namespace Vapaa

open Foundation

/-- A communicator, the same in all its processes. -/
structure Communicator (Process : Type) where
  context : Nat
  group : RankedGroup Process

/-- The communicators that processes know by C handle, and a context that none of them has. -/
structure Communicators (Process : Type) where
  known : Process → InfoStore (Communicator Process)
  nextContext : Nat

/-- The arguments of `MPI_Comm_split`, the last one being what `newcomm` holds before. -/
structure SplitArguments where
  comm : Int
  color : Int
  key : Int
  newcomm : Int

section Library

variable {Process : Type} [DecidableEq Process]

/-- The members with a color, by key and then by their ranks. -/
def splitGroup (group : RankedGroup Process) (color key : Process → Int) (chosen : Int) :
    RankedGroup Process :=
  (group.part fun process => color process = chosen).ordered fun process =>
    toLex (key process, group.members.idxOf process)

variable (mpi : Mpi) (undefined : Int) (communicators : Communicators Process)
variable (arrived : Process → SplitArguments)

/-- Some process has a negative color, not `MPI_UNDEFINED`. -/
def Rejected (group : RankedGroup Process) : Prop :=
  ∃ process ∈ group.members, (arrived process).color < 0 ∧ (arrived process).color ≠ undefined

instance (group : RankedGroup Process) : Decidable (Rejected undefined arrived group) :=
  inferInstanceAs (Decidable (∃ process ∈ group.members, _))

/-- What the library answers to a process when all processes have called. -/
def mpiCommSplit (process : Process) : HandleReply :=
  let arguments := arrived process
  match (communicators.known process).object arguments.comm with
  | none => { rc := mpi.errorClass .errComm, handle := arguments.newcomm, request := 0 }
  | some comm =>
      if Rejected undefined arrived comm.group then
        { rc := mpi.errorClass .errArg, handle := arguments.newcomm, request := 0 }
      else if arguments.color = undefined then
        { rc := mpi.errorClass .success, handle := mpi.handle .commNull, request := 0 }
      else
        { rc := mpi.errorClass .success, handle := (communicators.known process).next
          request := 0 }

/-- The communicators of a process afterwards. -/
def knownAfterSplit (process : Process) : InfoStore (Communicator Process) :=
  let arguments := arrived process
  match (communicators.known process).object arguments.comm with
  | none => communicators.known process
  | some comm =>
      if Rejected undefined arrived comm.group ∨ arguments.color = undefined then
        communicators.known process
      else
        (communicators.known process).create {
          context := communicators.nextContext + arguments.color.toNat
          group := splitGroup comm.group (fun process => (arrived process).color)
            (fun process => (arrived process).key) arguments.color }

end Library

section Wrappers

variable {Process : Type} [DecidableEq Process] (mpi : Mpi) (undefined : Int)
variable (communicators : Communicators Process)

def mpiCommSplitF08 (mpiCommSplit : Int → Int → Int → Int → HandleReply) (comm color key : Int) :
    Call (Int × Int) :=
  let colorC := color
  let keyC := key
  cMpiCommSplit mpi mpiCommSplit comm colorC keyC

/-- What `C_MPI_Comm_split` passes on. -/
def splitArguments (comm color key : Int) : SplitArguments where
  comm := cMpiCommF2c mpi comm
  color := color
  key := key
  newcomm := mpi.handle .commNull

/-- The call of one process, while the others call with their arguments. -/
def splitCall (comm color key : Process → Int) (process : Process) : Call (Int × Int) :=
  let others := fun other => splitArguments mpi (comm other) (color other) (key other)
  mpiCommSplitF08 mpi (fun commC colorC keyC newcomm =>
    mpiCommSplit mpi undefined communicators
      (Function.update others process { comm := commC, color := colorC, key := keyC, newcomm })
      process) (comm process) (color process) (key process)

end Wrappers

section Specification

variable {Process : Type} [DecidableEq Process] (mpi : Mpi) (undefined : Int)
variable (communicators : Communicators Process) (comm color key : Process → Int)

/-- What a handle of a process denotes after the split. -/
def denotedAfterSplit (process : Process) (commF : Int) : Option (Communicator Process) :=
  (knownAfterSplit undefined communicators
    (fun other => splitArguments mpi (comm other) (color other) (key other)) process).object
      (cMpiCommF2c mpi commF)

/-- All calls succeed, the null communicator goes to the processes without a color, and the others
share a communicator with those of their color, ranked by key and then by their old ranks. -/
structure SplitsByColor (group : RankedGroup Process) (world : World) (newcomm : Process → Int) :
    Prop where
  returned : ∀ process ∈ group.members,
    Run.Returns (splitCall mpi undefined communicators comm color key process) world
      fun result _ => result = (newcomm process, mpi.errorClass .success)
  null : ∀ process ∈ group.members,
    fMpiHandleCommEq (newcomm process) Predefined.commNull.vapaa = true ↔
      color process = vapaaMpiUndefined
  shared : ∀ process ∈ group.members, ∀ other ∈ group.members,
    color process ≠ vapaaMpiUndefined → color other ≠ vapaaMpiUndefined →
      (denotedAfterSplit mpi undefined communicators comm color key process (newcomm process) =
          denotedAfterSplit mpi undefined communicators comm color key other (newcomm other) ↔
        color process = color other)
  ranked : ∀ process ∈ group.members, color process ≠ vapaaMpiUndefined → ∃ communicator,
    denotedAfterSplit mpi undefined communicators comm color key process (newcomm process) =
        some communicator ∧
      (∀ other, other ∈ communicator.group.members ↔
        other ∈ group.members ∧ color other = color process) ∧
      ∀ i j first second, communicator.group.member i = some first →
        communicator.group.member j = some second →
          (i < j ↔ toLex (key first, group.members.idxOf first) <
            toLex (key second, group.members.idxOf second))

end Specification

section Proofs

variable {Process : Type} [DecidableEq Process] {mpi : Mpi} {undefined : Int}
variable {communicators : Communicators Process} {comm color key : Process → Int}
variable {group : RankedGroup Process} {world : World} {process other : Process} {chosen : Int}

private theorem mem_splitGroup : other ∈ (splitGroup group color key chosen).members ↔
    other ∈ group.members ∧ color other = chosen := by
  rw [splitGroup, RankedGroup.mem_ordered, RankedGroup.mem_part, decide_eq_true_eq]

private theorem splitGroup_lt_iff {i j : Nat} {first second : Process}
    (atFirst : (splitGroup group color key chosen).member i = some first)
    (atSecond : (splitGroup group color key chosen).member j = some second) :
    i < j ↔ toLex (key first, group.members.idxOf first) <
      toLex (key second, group.members.idxOf second) := by
  refine @RankedGroup.ordered_lt_iff _ _ _ (group.part fun process => color process = chosen)
    (fun process => toLex (key process, group.members.idxOf process)) i j first second
    (fun same => ?_) atFirst atSecond
  have member := (mem_splitGroup.mp (RankedGroup.mem_of_member atFirst)).1
  exact (List.idxOf_inj member).mp (congrArg Prod.snd (toLex.injective same))

/-- The wrapper passes on what the library gets of the other processes, too. -/
theorem splitCall_eq : splitCall mpi undefined communicators comm color key process =
    handBack mpi .comm (mpiCommSplit mpi undefined communicators
      (fun other => splitArguments mpi (comm other) (color other) (key other)) process) := by
  have same := Function.update_eq_self process
    fun other => splitArguments mpi (comm other) (color other) (key other)
  rw [splitCall, mpiCommSplitF08, cMpiCommSplit]
  exact congrArg (fun arrived => handBack mpi .comm
    (mpiCommSplit mpi undefined communicators arrived process)) same

theorem handBack_returned {kind : Kind} {reply : HandleReply}
    (success : reply.rc = mpi.errorClass .success) :
    handBack mpi kind reply world =
      .returned ((mpi.c2f kind reply.handle, mpi.errorClass .success), world) := by
  rw [handBack, success]
  exact Run.bind_of_returned (cMpiRcFix_success world)

omit [DecidableEq Process] in
/-- A process without a color gets the null handle of the library, whether the call fails or not. -/
theorem mpiCommSplit_of_uncolored {arrived : Process → SplitArguments}
    {communicator : Communicator Process}
    (live : (communicators.known process).object (arrived process).comm = some communicator)
    (member : process ∈ communicator.group.members)
    (uncolored : (arrived process).color < 0)
    (newcomm : (arrived process).newcomm = mpi.handle .commNull) :
    (mpiCommSplit mpi undefined communicators arrived process).handle = mpi.handle .commNull := by
  simp only [mpiCommSplit, live]
  by_cases rejected : Rejected undefined arrived communicator.group
  · rw [if_pos rejected, newcomm]
  · have same : (arrived process).color = undefined := by
      by_contra other
      exact rejected ⟨process, member, uncolored, other⟩
    rw [if_neg rejected, if_pos same]

section Accepted

variable {arrived : Process → SplitArguments} {communicator : Communicator Process}
variable (live : (communicators.known process).object (arrived process).comm = some communicator)
variable (accepted : ∀ other ∈ communicator.group.members, 0 ≤ (arrived other).color)
variable (member : process ∈ communicator.group.members) (negative : undefined < 0)

include live accepted member negative

omit [DecidableEq Process] in
private theorem mpiCommSplit_of_accepted :
    mpiCommSplit mpi undefined communicators arrived process =
      { rc := mpi.errorClass .success, handle := (communicators.known process).next
        request := 0 } := by
  have admitted : ¬ Rejected undefined arrived communicator.group := by
    rintro ⟨other, member, low, -⟩
    exact absurd (accepted other member) (not_le.mpr low)
  have colored := accepted process member
  simp only [mpiCommSplit, live, if_neg admitted]
  rw [if_neg (by omega)]

private theorem knownAfterSplit_of_accepted :
    knownAfterSplit undefined communicators arrived process =
      (communicators.known process).create {
        context := communicators.nextContext + (arrived process).color.toNat
        group := splitGroup communicator.group (fun process => (arrived process).color)
          (fun process => (arrived process).key) (arrived process).color } := by
  have colored := accepted process member
  have kept : ¬ (Rejected undefined arrived communicator.group ∨
      (arrived process).color = undefined) := by
    rintro (⟨other, member, low, -⟩ | same)
    · exact absurd (accepted other member) (not_le.mpr low)
    · omega
  simp only [knownAfterSplit, live, if_neg kept]

end Accepted

private theorem denotedAfterSplit_of_accepted {library : Kind → Int → Prop}
    (convert : HandlesConvert mpi library) (negative : undefined < 0)
    {communicator : Communicator Process}
    (live : (communicators.known process).object (cMpiCommF2c mpi (comm process)) =
      some communicator)
    (fresh : library .comm (communicators.known process).next)
    (accepted : ∀ other ∈ communicator.group.members, 0 ≤ color other)
    (member : process ∈ communicator.group.members) :
    denotedAfterSplit mpi undefined communicators comm color key process
        (mpi.c2f .comm (communicators.known process).next) =
      some {
        context := communicators.nextContext + (color process).toNat
        group := splitGroup communicator.group color key (color process) } := by
  rw [denotedAfterSplit, knownAfterSplit_of_accepted live accepted member negative, cMpiCommF2c,
    convert.denotes fresh]
  exact if_pos rfl

/-- Communicators are split by color exactly where no process passes `MPI_UNDEFINED`, which the
library rejects and for which the null handle of the library comes back. -/
theorem commSplit_byColor_iff {library : Kind → Int → Prop} (convert : HandlesConvert mpi library)
    (negative : undefined < 0)
    (live : ∀ process ∈ group.members, ∃ communicator,
      (communicators.known process).object (cMpiCommF2c mpi (comm process)) = some communicator ∧
        communicator.group = group)
    (fresh : ∀ process ∈ group.members, library .comm (communicators.known process).next)
    (valid : ∀ process ∈ group.members, 0 ≤ color process ∨ color process = vapaaMpiUndefined) :
    (∃ newcomm, SplitsByColor mpi undefined communicators comm color key group world newcomm) ↔
      ∀ process ∈ group.members, color process ≠ vapaaMpiUndefined := by
  constructor
  · rintro ⟨newcomm, splits⟩ process member uncolored
    obtain ⟨communicator, known, rfl⟩ := live process member
    have low : color process < 0 := by
      rw [uncolored]
      decide
    have handle := @mpiCommSplit_of_uncolored _ mpi undefined communicators process
      (fun other => splitArguments mpi (comm other) (color other) (key other)) communicator known
      member low rfl
    have returned := splits.returned process member
    rw [splitCall_eq] at returned
    obtain ⟨result, _, -, same, back⟩ := returned.and_ensures (Making.handBack_ensures mpi)
    rw [same, handle] at back
    dsimp only at back
    have null := (splits.null process member).mpr uncolored
    rw [fMpiHandleCommEq, fMpiHandleEq, decide_eq_true_eq, back] at null
    have foreign := convert.foreign .comm _ (convert.predefined .comm .commNull (by decide) rfl)
      .commNull (by decide)
    exact foreign null.symm
  · intro colored
    have accepted : ∀ process ∈ group.members, 0 ≤ color process :=
      fun process member => (valid process member).resolve_right (colored process member)
    have denoted : ∀ process ∈ group.members,
        denotedAfterSplit mpi undefined communicators comm color key process
          (mpi.c2f .comm (communicators.known process).next) = some {
            context := communicators.nextContext + (color process).toNat
            group := splitGroup group color key (color process) } := by
      intro process member
      obtain ⟨communicator, known, rfl⟩ := live process member
      exact denotedAfterSplit_of_accepted convert negative known (fresh process member) accepted
        member
    refine ⟨fun process => mpi.c2f .comm (communicators.known process).next, ?_, ?_, ?_, ?_⟩
    · intro process member
      obtain ⟨communicator, known, rfl⟩ := live process member
      rw [splitCall_eq]
      have replied := @mpiCommSplit_of_accepted _ mpi undefined communicators process
        (fun other => splitArguments mpi (comm other) (color other) (key other)) communicator known
        accepted member negative
      rw [replied]
      exact Run.returns_of_returned (handBack_returned rfl) rfl
    · intro process member
      refine iff_of_false (fun null => ?_) (colored process member)
      rw [fMpiHandleCommEq, fMpiHandleEq, decide_eq_true_eq] at null
      exact convert.foreign .comm _ (fresh process member) .commNull (by decide) null.symm
    · intro process member other member' _ _
      rw [denoted process member, denoted other member', Option.some.injEq,
        Communicator.mk.injEq]
      constructor
      · rintro ⟨same, -⟩
        have low := accepted process member
        have low' := accepted other member'
        omega
      · intro same
        rw [same]
        exact ⟨rfl, rfl⟩
    · intro process member _
      refine ⟨_, denoted process member, fun other => mem_splitGroup, ?_⟩
      exact fun i j first second atFirst atSecond => splitGroup_lt_iff atFirst atSecond

end Proofs

section Examples

/-- Three processes that know `MPI_COMM_WORLD`. -/
def worldOfThree : Communicators (Fin 3) where
  known := fun _ => {
    object := fun handle =>
      if handle = mpich.handle .commWorld then some ⟨0, [0, 1, 2], by decide⟩ else none
    next := 2000000000
    free := by
      intro handle above
      have other : handle ≠ mpich.handle .commWorld := by
        rintro rfl
        exact absurd above (by decide)
      rw [if_neg other] }
  nextContext := 1

theorem commSplit_byColor_three :
    ∃ newcomm, SplitsByColor mpich (-32766) worldOfThree (fun _ => -1000)
      (fun process => if process = 1 then 0 else 5) (fun process => -process)
      ⟨[0, 1, 2], by decide⟩ startWorld newcomm :=
  (commSplit_byColor_iff mpich_handlesConvert (by decide)
    (fun _ _ => ⟨⟨0, [0, 1, 2], by decide⟩, rfl, rfl⟩) (fun _ _ => Int.natCast_nonneg 2000000000)
    (by decide)).mpr (by decide)

/-- The `MPI_UNDEFINED` of one process makes the calls of all fail. -/
theorem commSplit_rejected :
    (∀ process, (splitCall mpich (-32766) worldOfThree (fun _ => -1000)
      (fun process => if process = 1 then -99999 else 5) (fun process => -process) process
        startWorld >>= fun result => .returned result.1) = .returned (67108864, 13)) ∧
    ¬ ∃ newcomm, SplitsByColor mpich (-32766) worldOfThree (fun _ => -1000)
      (fun process => if process = 1 then -99999 else 5) (fun process => -process)
      ⟨[0, 1, 2], by decide⟩ startWorld newcomm := by
  have failed (process : Fin 3) : (splitCall mpich (-32766) worldOfThree (fun _ => -1000)
      (fun process => if process = 1 then -99999 else 5) (fun process => -process) process
        startWorld >>= fun result => .returned result.1) = .returned (67108864, 13) := by
    revert process
    decide +kernel
  refine ⟨failed, ?_⟩
  rintro ⟨newcomm, splits⟩
  obtain ⟨result, _, run, same⟩ := splits.returned 0 (by decide)
  have told := failed 0
  rw [run] at told
  cases told
  have code : (13 : Int) = 0 := congrArg Prod.snd same
  exact absurd code (by decide)

end Examples

end Vapaa
