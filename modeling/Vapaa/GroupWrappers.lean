import Vapaa.CommunicatorSplits
import Vapaa.Foundation.GroupAlgebra
import Vapaa.GroupRanks

/-!
# Wrappers for groups

The routines of `mpi_group.c`, and those of `mpi_comm.c` that ask for ranks, sizes and comparisons,
on groups that the library keeps.
-/

set_option autoImplicit false

namespace Vapaa

open Foundation

/-- `VAPAA_MPI_IDENT` and the like. -/
def vapaaCompareResult : GroupRelation → Int
  | .ident => 0
  | .congruent => 1
  | .similar => 2
  | .unequal => 3

/-- What a process knows of the library: its communicators by C handle, itself, and constants. -/
structure GroupLibrary (Process : Type) where
  comms : Int → Option (Communicator Process)
  self : Process
  undefined : Int
  /-- `MPI_IDENT` and the like. -/
  results : GroupRelation → Int
  distinct : Function.Injective results

/-- Groups by C handle. -/
structure Grouping (Process : Type) where
  world : World
  groups : InfoStore (RankedGroup Process)

abbrev GroupRun (Process : Type) := Run (Grouping Process)

/-- Two communicators are one, or have the same ranks, the same members, or neither. -/
def Communicator.relation {Process : Type} [DecidableEq Process]
    (first second : Communicator Process) : GroupRelation :=
  if first.context = second.context then .ident
  else
    match first.group.relation second.group with
    | .ident => .congruent
    | relation => relation

def InfoStore.remove {Object : Type} (infos : InfoStore Object) (removed : Int) :
    InfoStore Object where
  object := fun handle => if handle = removed then none else infos.object handle
  next := infos.next
  free := by
    intro handle above
    simp [infos.free handle above]

/-- Ranks that are not negative. -/
def chosenRanks (ranks : List Int) : Option (List Nat) :=
  if ∀ rank ∈ ranks, 0 ≤ rank then some (ranks.map Int.toNat) else none

namespace Grouping

section Library

variable {Process : Type} (mpi : Mpi) (library : GroupLibrary Process)

/-- What a wrapper does besides. -/
def onWorld {α : Type} : Call α → GroupRun Process α :=
  Run.zoom Grouping.world fun state world => { state with world := world }

def replied (errorClass : ErrorClass) (handle : Int) : HandleReply where
  rc := mpi.errorClass errorClass
  handle := handle
  request := 0

/-- A new group, or an error that leaves the variable of the call as it is. -/
def answer (made : Option (RankedGroup Process)) (refused : ErrorClass) (newgroup : Int) :
    GroupRun Process HandleReply := fun state =>
  match made with
  | some group => .returned (replied mpi .success state.groups.next,
      { state with groups := state.groups.create group })
  | none => .returned (replied mpi refused newgroup, state)

def mpiCommGroup (comm group : Int) : GroupRun Process HandleReply :=
  answer mpi ((library.comms comm).map Communicator.group) .errComm group

def mpiGroupFree (group : Int) : GroupRun Process HandleReply := fun state =>
  match state.groups.object group with
  | some _ => .returned (replied mpi .success (mpi.handle .groupNull),
      { state with groups := state.groups.remove group })
  | none => .returned (replied mpi .errGroup group, state)

/-- Returns the error code and the value of the variable, which need not be set before. -/
def ask {Object : Type} (object : Option Object) (refused : ErrorClass) (value : Object → Int) :
    GroupRun Process (Int × Option Int) :=
  match object with
  | some object => return (mpi.errorClass .success, some (value object))
  | none => return (mpi.errorClass refused, none)

def mpiGroupSize (group : Int) : GroupRun Process (Int × Option Int) := fun state =>
  ask mpi (state.groups.object group) .errGroup (fun members => members.members.length) state

def mpiCommSize (comm : Int) : GroupRun Process (Int × Option Int) :=
  ask mpi (library.comms comm) .errComm fun comm => comm.group.members.length

variable [DecidableEq Process]

/-- What two names stand for, where both are known. -/
def both {Name Object : Type} (known : Name → Option Object) (first second : Name) :
    Option (Object × Object) := do
  let left ← known first
  let right ← known second
  return (left, right)

def mpiGroupCombine (operation : GroupOperation) (group1 group2 newgroup : Int) :
    GroupRun Process HandleReply := fun state =>
  answer mpi ((both state.groups.object group1 group2).map fun groups =>
    RankedGroup.combine operation groups.1 groups.2) .errGroup newgroup state

/-- What both calls that choose members by their ranks do. -/
def mpiGroupChoose (choose : RankedGroup Process → List Nat → Option (RankedGroup Process))
    (group : Int) (ranks : List Int) (newgroup : Int) : GroupRun Process HandleReply := fun state =>
  match state.groups.object group with
  | none => answer mpi none .errGroup newgroup state
  | some members => answer mpi ((chosenRanks ranks).bind (choose members)) .errRank newgroup state

def mpiGroupRank (group : Int) : GroupRun Process (Int × Option Int) := fun state =>
  ask mpi (state.groups.object group) .errGroup
    (fun members => rankIn library.undefined members library.self) state

def mpiGroupCompare (group1 group2 : Int) : GroupRun Process (Int × Option Int) := fun state =>
  ask mpi (both state.groups.object group1 group2) .errGroup
    (fun groups => library.results (groups.1.relation groups.2)) state

def mpiCommRank (comm : Int) : GroupRun Process (Int × Option Int) :=
  ask mpi (library.comms comm) .errComm fun comm =>
    rankIn library.undefined comm.group library.self

def mpiCommCompare (comm1 comm2 : Int) : GroupRun Process (Int × Option Int) :=
  ask mpi (both library.comms comm1 comm2) .errComm fun comms =>
    library.results (comms.1.relation comms.2)

end Library

section Wrappers

variable {Process : Type} (mpi : Mpi) (library : GroupLibrary Process)

/-- The order in which results are tested. -/
def compareResults : List GroupRelation := [.unequal, .similar, .congruent, .ident]

def cMpiCompareResultF2c (levelF : Int) : Call Int :=
  match compareResults.find? fun result => vapaaCompareResult result = levelF with
  | some result => pure (library.results result)
  | none => Run.abort

def cMpiCompareResultC2f (levelC : Int) : Call Int :=
  match compareResults.find? fun result => library.results result = levelC with
  | some result => pure (vapaaCompareResult result)
  | none => Run.abort

def cMpiCommGroup (commF : Int) : GroupRun Process (Int × Int) := do
  let group := mpi.handle .groupNull
  let comm := cMpiCommF2c mpi commF
  let reply ← mpiCommGroup mpi library comm group
  onWorld (handBack mpi .group reply)

def cMpiGroupFree (groupF : Int) : GroupRun Process (Int × Int) := do
  let group := cMpiGroupF2c mpi groupF
  let reply ← mpiGroupFree mpi group
  onWorld (handBack mpi .group reply)

/-- The wrappers that ask for a number: what they return in their output argument, which the library
may leave unset, and the code. -/
def query (asked : GroupRun Process (Int × Option Int)) : GroupRun Process (Option Int × Int) := do
  let (ierror, value) ← asked
  return (value, ← onWorld (cMpiRcFix mpi ierror))

/-- The wrappers that compare: an unset result is read. -/
def comparison (asked : GroupRun Process (Int × Option Int)) (convert : Int → Call Int) :
    GroupRun Process (Option Int × Int) := do
  let (ierror, result) ← asked
  let resultF ← onWorld (convert (← Run.readSet result))
  return (some resultF, ← onWorld (cMpiRcFix mpi ierror))

def cMpiGroupSize (groupF : Int) : GroupRun Process (Option Int × Int) :=
  query mpi (mpiGroupSize mpi (cMpiGroupF2c mpi groupF))

def cMpiCommSize (commF : Int) : GroupRun Process (Option Int × Int) :=
  query mpi (mpiCommSize mpi library (cMpiCommF2c mpi commF))

variable [DecidableEq Process]

/-- What the wrappers do that make a group of two. -/
def cCombine (operation : GroupOperation) (group1F group2F : Int) :
    GroupRun Process (Int × Int) := do
  let newgroup := mpi.handle .groupNull
  let group1 := cMpiGroupF2c mpi group1F
  let group2 := cMpiGroupF2c mpi group2F
  let reply ← mpiGroupCombine mpi operation group1 group2 newgroup
  onWorld (handBack mpi .group reply)

def cMpiGroupUnion (group1F group2F : Int) : GroupRun Process (Int × Int) :=
  cCombine mpi .union group1F group2F

def cMpiGroupIntersection (group1F group2F : Int) : GroupRun Process (Int × Int) :=
  cCombine mpi .intersection group1F group2F

def cMpiGroupDifference (group1F group2F : Int) : GroupRun Process (Int × Int) :=
  cCombine mpi .difference group1F group2F

/-- What the wrappers do that choose members by their ranks. -/
def cChoose (choose : RankedGroup Process → List Nat → Option (RankedGroup Process)) (groupF : Int)
    (ranks : List Int) : GroupRun Process (Int × Int) := do
  let newgroup := mpi.handle .groupNull
  let group := cMpiGroupF2c mpi groupF
  let reply ← mpiGroupChoose mpi choose group ranks newgroup
  onWorld (handBack mpi .group reply)

def cMpiGroupIncl (groupF : Int) (ranks : List Int) : GroupRun Process (Int × Int) :=
  cChoose mpi RankedGroup.incl groupF ranks

def cMpiGroupExcl (groupF : Int) (ranks : List Int) : GroupRun Process (Int × Int) :=
  cChoose mpi RankedGroup.excl groupF ranks

/-- The line that the routine of a name writes for long vectors, which is kept with the warnings. -/
def warnOfLength (name : String) (n : Int) : Call Unit := do
  if 500 < n then
    vapaaWarning s!"{name}: vector of {i6 n} elements may cause segfault due to stack overflow\n"

/-- `ranks` has `n` elements. -/
def mpiGroupInclF08 (group : Int) (ranks : List Int) : GroupRun Process (Int × Int) := do
  onWorld (warnOfLength "           MPI_Group_incl" ranks.length)
  cMpiGroupIncl mpi group ranks

def mpiGroupExclF08 (group : Int) (ranks : List Int) : GroupRun Process (Int × Int) := do
  onWorld (warnOfLength "           MPI_Group_excl" ranks.length)
  cMpiGroupExcl mpi group ranks

def cMpiGroupRank (groupF : Int) : GroupRun Process (Option Int × Int) :=
  query mpi (mpiGroupRank mpi library (cMpiGroupF2c mpi groupF))

/-- The result is converted as if it came from Fortran. -/
def cMpiGroupCompare (group1F group2F : Int) : GroupRun Process (Option Int × Int) :=
  comparison mpi (mpiGroupCompare mpi library (cMpiGroupF2c mpi group1F) (cMpiGroupF2c mpi group2F))
    (cMpiCompareResultF2c library)

def cMpiCommRank (commF : Int) : GroupRun Process (Option Int × Int) :=
  query mpi (mpiCommRank mpi library (cMpiCommF2c mpi commF))

def cMpiCommCompare (comm1F comm2F : Int) : GroupRun Process (Option Int × Int) :=
  comparison mpi (mpiCommCompare mpi library (cMpiCommF2c mpi comm1F) (cMpiCommF2c mpi comm2F))
    (cMpiCompareResultC2f library)

end Wrappers

end Grouping

end Vapaa
