import Vapaa.Conversion
import Vapaa.Sentinels

/-!
# Start-up

`mpi_core.c` and `mpi_core_f.F90`: the life of the library in a process, with the level of thread
support, the error handlers and the sentinels that a start leaves behind.
-/

set_option autoImplicit false

namespace Vapaa

open Foundation

inductive ThreadLevel where
  | single | funneled | serialized | multiple
  deriving DecidableEq, Repr

/-- `VAPAA_MPI_THREAD_…` -/
def ThreadLevel.vapaa : ThreadLevel → Int
  | .single => 0
  | .funneled => 1
  | .serialized => 2
  | .multiple => 3

/-- `MPI_THREAD_…` of the C library, which grow with what they allow. -/
structure ThreadConstants where
  value : ThreadLevel → Int
  funneled : value .single < value .funneled
  serialized : value .funneled < value .serialized
  multiple : value .serialized < value .multiple

section Levels

variable (levels : ThreadConstants)

def cMpiThreadLevelF2c (levelF : Int) : Int :=
  if levelF = ThreadLevel.multiple.vapaa then levels.value .multiple
  else if levelF = ThreadLevel.serialized.vapaa then levels.value .serialized
  else if levelF = ThreadLevel.funneled.vapaa then levels.value .funneled
  else levels.value .single

variable {levels}

theorem cMpiThreadLevelF2c_vapaa (level : ThreadLevel) :
    cMpiThreadLevelF2c levels level.vapaa = levels.value level := by
  cases level with
  | _ => rfl

private theorem cMpiThreadLevelF2c_cases (levelF : Int) :
    ∃ level, cMpiThreadLevelF2c levels levelF = levels.value level := by
  unfold cMpiThreadLevelF2c
  split_ifs with multiple serialized funneled
  · exact ⟨_, rfl⟩
  · exact ⟨_, rfl⟩
  · exact ⟨_, rfl⟩
  · exact ⟨_, rfl⟩

theorem ThreadConstants.value_lt_iff {first second : ThreadLevel} :
    levels.value first < levels.value second ↔ first.vapaa < second.vapaa := by
  have funneled := levels.funneled
  have serialized := levels.serialized
  have multiple := levels.multiple
  cases first with
  | _ =>
      cases second with
      | _ =>
          simp only [ThreadLevel.vapaa]
          omega

theorem ThreadLevel.vapaa_injective {first second : ThreadLevel}
    (same : first.vapaa = second.vapaa) : first = second := by
  cases first with
  | _ =>
      cases second with
      | _ => first | rfl | cases same

theorem ThreadLevel.vapaa_bounds (level : ThreadLevel) : 0 ≤ level.vapaa ∧ level.vapaa ≤ 3 := by
  cases level with
  | _ => decide

/-- The conversion to C, taken for one from C, is right on every level exactly when both have the
same constants. -/
theorem cMpiThreadLevelF2c_value_iff :
    (∀ level, cMpiThreadLevelF2c levels (levels.value level) = level.vapaa) ↔
      ∀ level, levels.value level = level.vapaa := by
  constructor
  · intro right
    have reached (level : ThreadLevel) : ∃ other, levels.value other = level.vapaa := by
      obtain ⟨other, same⟩ := @cMpiThreadLevelF2c_cases levels (levels.value level)
      exact ⟨other, same.symm.trans (right level)⟩
    obtain ⟨first, zero⟩ := reached .single
    obtain ⟨second, one⟩ := reached .funneled
    obtain ⟨third, two⟩ := reached .serialized
    obtain ⟨fourth, three⟩ := reached .multiple
    -- four levels in order can only be the four there are
    have below : first.vapaa < second.vapaa :=
      ThreadConstants.value_lt_iff.mp (zero.trans_lt (lt_of_lt_of_eq (by decide) one.symm))
    have between : second.vapaa < third.vapaa :=
      ThreadConstants.value_lt_iff.mp (one.trans_lt (lt_of_lt_of_eq (by decide) two.symm))
    have above : third.vapaa < fourth.vapaa :=
      ThreadConstants.value_lt_iff.mp (two.trans_lt (lt_of_lt_of_eq (by decide) three.symm))
    have least := first.vapaa_bounds
    have greatest := fourth.vapaa_bounds
    have single : first = .single := ThreadLevel.vapaa_injective (show first.vapaa = 0 by omega)
    have funneled : second = .funneled :=
      ThreadLevel.vapaa_injective (show second.vapaa = 1 by omega)
    have serialized : third = .serialized :=
      ThreadLevel.vapaa_injective (show third.vapaa = 2 by omega)
    have multiple : fourth = .multiple :=
      ThreadLevel.vapaa_injective (show fourth.vapaa = 3 by omega)
    subst single funneled serialized multiple
    intro level
    cases level with
    | single => exact zero
    | funneled => exact one
    | serialized => exact two
    | multiple => exact three
  · intro same level
    rw [same, cMpiThreadLevelF2c_vapaa, same]

end Levels

inductive Phase where
  | before | running | ended
  deriving DecidableEq, Repr

/-- `MPI_ERRORS_ARE_FATAL` and `MPI_ERRORS_RETURN`. -/
inductive ErrorHandler where
  | errorsAreFatal | errorsReturn
  deriving DecidableEq, Repr

/-- What `c_sizeof` gives for the types of Fortran; an array of requests is compared with one of
integers. -/
structure FortranSizes where
  integer : Nat
  cInt : Nat
  comm : Nat
  datatype : Nat
  group : Nat
  message : Nat
  op : Nat
  request : Nat
  win : Nat

structure FortranSizes.Agree (sizes : FortranSizes) : Prop where
  cInt : sizes.cInt = sizes.integer
  comm : sizes.comm = sizes.integer
  datatype : sizes.datatype = sizes.integer
  group : sizes.group = sizes.integer
  message : sizes.message = sizes.integer
  op : sizes.op = sizes.integer
  request : sizes.request = sizes.integer
  win : sizes.win = sizes.integer

/-- What a start depends on and does not change. -/
structure Platform where
  levels : ThreadConstants
  /-- `sizeof(MPI_Fint) != sizeof(int)` -/
  wideFint : Bool
  haveCfi : Bool
  placement : Placement
  sizes : FortranSizes

/-- The library in a process, with the level that it provides and the last one that it was asked
for. -/
structure Lifetime where
  phase : Phase
  level : Int
  required : Option Int
  commWorld : ErrorHandler
  commSelf : ErrorHandler
  registry : Registry
  printed : List String
  world : World

/-- An answer of the library, and the memory when the sentinels are registered. -/
structure StartReply where
  rc : Int
  provided : Int
  flag : Int
  memory : Sentinel → Memory Int UInt8

section Routines

variable (mpi : Mpi) (platform : Platform) (reply : StartReply)

def mpiInit : Run Lifetime Int := fun life =>
  .returned (reply.rc, if reply.rc = mpi.errorClass .success then
    { life with phase := .running, level := reply.provided } else life)

/-- Returns the code and `provided`. -/
def mpiInitThread (required : Int) : Run Lifetime (Int × Int) := fun life =>
  .returned ((reply.rc, reply.provided), if reply.rc = mpi.errorClass .success then
    { life with phase := .running, level := reply.provided, required := some required } else life)

def mpiFinalize : Run Lifetime Int := fun life =>
  .returned (reply.rc, if reply.rc = mpi.errorClass .success then
    { life with phase := .ended } else life)

/-- `MPI_Comm_set_errhandler`, which only a running library can do; its code is not read. -/
def mpiCommSetErrhandler (set : Lifetime → Lifetime) : Run Lifetime Unit := fun life =>
  .returned ((), if life.phase = .running then set life else life)

def print (text : String) : Run Lifetime Unit := fun life =>
  .returned ((), { life with printed := life.printed ++ [text] })

def checkFint : Run Lifetime Unit :=
  if platform.wideFint then
    print "MPI_Fint is wider than C int, which violates our design assumptions.\n"
  else pure ()

def fixCode (ierror : Int) : Run Lifetime Int :=
  Run.zoom Lifetime.world (fun life world => { life with world := world }) (cMpiRcFix mpi ierror)

def cMpiInit : Run Lifetime Int := do
  let ierror ← mpiInit mpi reply
  checkFint platform
  let ierror ← fixCode mpi ierror
  mpiCommSetErrhandler fun life => { life with commWorld := .errorsReturn }
  mpiCommSetErrhandler fun life => { life with commSelf := .errorsReturn }
  return ierror

def cMpiFinalize : Run Lifetime Int := do
  let ierror ← mpiFinalize mpi reply
  fixCode mpi ierror

/-- Returns `*provided_f` and `*ierror`; the level that is provided is converted as one of
Fortran. -/
def cMpiInitThread (requiredF : Int) : Run Lifetime (Int × Int) := do
  let required := cMpiThreadLevelF2c platform.levels requiredF
  let (ierror, provided) ← mpiInitThread mpi reply required
  let providedF := cMpiThreadLevelF2c platform.levels provided
  checkFint platform
  return (providedF, ← fixCode mpi ierror)

/-- `MPI_Initialized` and `MPI_Finalized` change nothing. -/
def cMpiInitialized : Run Lifetime (Int × Int) := do
  return (reply.flag, ← fixCode mpi reply.rc)

def cMpiFinalized : Run Lifetime (Int × Int) := do
  return (reply.flag, ← fixCode mpi reply.rc)

def cMpiQueryThread : Run Lifetime (Int × Int) := do
  let providedF := cMpiThreadLevelF2c platform.levels reply.provided
  return (providedF, ← fixCode mpi reply.rc)

def registerSentinels : Run Lifetime Unit := fun life =>
  .returned ((), { life with
    registry := fMpiInitAddressSentinels platform.haveCfi platform.placement reply.memory
      life.registry })

/-- Prints what is violated and stops. -/
def violated (what : String) (holds : Bool) : Run Lifetime Unit := do
  if !holds then
    print s!"Design assumptions violated: {what}"
    Run.ofOutcome .aborted

/-- The handle types that are compared; files and infos are not. -/
def fCheckDesignAssumptions (sizes : FortranSizes) : Run Lifetime Unit := do
  violated "INTEGER" (sizes.cInt = sizes.integer)
  violated "MPI_Comm" (sizes.comm = sizes.integer)
  violated "MPI_Datatype" (sizes.datatype = sizes.integer)
  violated "MPI_Group" (sizes.group = sizes.integer)
  violated "MPI_Message" (sizes.message = sizes.integer)
  violated "MPI_Op" (sizes.op = sizes.integer)
  violated "MPI_Request" (sizes.request = sizes.integer)
  violated "MPI_Win" (sizes.win = sizes.integer)

def mpiInitF08 : Run Lifetime Int := do
  let ierror ← cMpiInit mpi platform reply
  registerSentinels platform reply
  fCheckDesignAssumptions platform.sizes
  return ierror

def mpiInitThreadF08 (required : Int) : Run Lifetime (Int × Int) := do
  let result ← cMpiInitThread mpi platform reply required
  registerSentinels platform reply
  fCheckDesignAssumptions platform.sizes
  return result

def mpiInitializedF08 : Run Lifetime (Bool × Int) := do
  let (flag, ierror) ← cMpiInitialized mpi reply
  return (flag ≠ 0, ierror)

def mpiFinalizedF08 : Run Lifetime (Bool × Int) := do
  let (flag, ierror) ← cMpiFinalized mpi reply
  return (flag ≠ 0, ierror)

def mpiFinalizeF08 : Run Lifetime Int := cMpiFinalize mpi reply

def mpiQueryThreadF08 : Run Lifetime (Int × Int) := cMpiQueryThread mpi platform reply

inductive CoreCall where
  | init | initThread (required : Int) | initialized | finalized | queryThread | finalize
  deriving DecidableEq, Repr

/-- What a program is told besides `ierror`. -/
inductive Told where
  | nothing | level (provided : Int) | flag (raised : Bool)
  deriving DecidableEq, Repr

namespace CoreCall

def run : CoreCall → Run Lifetime (Told × Int)
  | .init => do return (.nothing, ← mpiInitF08 mpi platform reply)
  | .initThread required => do
      let (provided, ierror) ← mpiInitThreadF08 mpi platform reply required
      return (.level provided, ierror)
  | .initialized => do
      let (raised, ierror) ← mpiInitializedF08 mpi reply
      return (.flag raised, ierror)
  | .finalized => do
      let (raised, ierror) ← mpiFinalizedF08 mpi reply
      return (.flag raised, ierror)
  | .queryThread => do
      let (provided, ierror) ← mpiQueryThreadF08 mpi platform reply
      return (.level provided, ierror)
  | .finalize => do return (.nothing, ← mpiFinalizeF08 mpi reply)

def Starts : CoreCall → Prop
  | .init | .initThread _ => True
  | _ => False

instance (call : CoreCall) : Decidable call.Starts :=
  match call with
  | .init | .initThread _ => isTrue trivial
  | .initialized | .finalized | .queryThread | .finalize => isFalse id

def phaseAfter : CoreCall → Phase → Phase
  | .init, _ | .initThread _, _ => .running
  | .finalize, _ => .ended
  | .initialized, phase | .finalized, phase | .queryThread, phase => phase

/-- What the wrapper of a call makes of an answer. -/
def told : CoreCall → Told
  | .init | .finalize => .nothing
  | .initThread _ | .queryThread => .level (cMpiThreadLevelF2c platform.levels reply.provided)
  | .initialized | .finalized => .flag (reply.flag ≠ 0)

/-- The level that the library was asked for last. -/
def asks (succeeded : Prop) [Decidable succeeded] : CoreCall → Option Int → Option Int
  | .initThread requiredF, required =>
      if succeeded then some (cMpiThreadLevelF2c platform.levels requiredF) else required
  | .init, required | .initialized, required | .finalized, required | .queryThread, required
  | .finalize, required => required

end CoreCall

end Routines

end Vapaa
