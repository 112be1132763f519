import Vapaa.Conversion
import Vapaa.Datatypes

/-!
# Wrappers that hand back handles

Communicators, groups, files and operations, and the calls that free requests and info objects:
`mpi_comm.c`, `mpi_group.c`, `mpi_file.c`, `mpi_op.c`, `mpi_request.c` and `mpi_info.c`. The call
of the library is an argument of each wrapper.
-/

set_option autoImplicit false

namespace Vapaa

open Foundation

/-- The access modes of files. -/
inductive FileMode where
  | append | create | deleteOnClose | excl | rdonly | rdwr | sequential | uniqueOpen | wronly
  deriving DecidableEq, Repr

/-- The modes in the order of `C_MPI_TRANSLATE_AMODE`, with their `VAPAA_MPI_MODE_` constants. -/
def FileMode.table : List (FileMode × Nat) := [
  (.append, 1), (.create, 2), (.deleteOnClose, 4), (.excl, 8), (.rdonly, 16), (.rdwr, 32),
  (.sequential, 64), (.uniqueOpen, 128), (.wronly, 256)]

/-- Constants of the library's `mpi.h` that arguments are translated to. -/
structure HandleConstants extends TypeConstants where
  commTypeShared : Int
  commTypeHwUnguided : Int
  commTypeHwGuided : Int
  mode : FileMode → Int

/-- What the library answers to a call: its return code, and the handles its output arguments hold
afterwards. -/
structure HandleReply where
  rc : Int
  handle : Int
  request : Int

variable (mpi : Mpi) (constants : HandleConstants)

section Translation

def vapaaMpiCommTypeShared : Int := 5300

def vapaaMpiCommTypeHwUnguided : Int := 5400

def vapaaMpiCommTypeHwGuided : Int := 5500

def cMpiTranslateSplitType (f : Int) : Call Int :=
  if f = vapaaMpiCommTypeShared then pure constants.commTypeShared
  else if mpi.mpiVersion4 ∧ f = vapaaMpiCommTypeHwUnguided then pure constants.commTypeHwUnguided
  else if mpi.mpiVersion4 ∧ f = vapaaMpiCommTypeHwGuided then pure constants.commTypeHwGuided
  else Run.abort

def cMpiTranslateAmode (f : Int) : Int :=
  (FileMode.table.foldl (fun (c : BitVec 32) (mode, vapaa) =>
    if BitVec.ofInt 32 f &&& BitVec.ofNat 32 vapaa ≠ 0 then c ||| BitVec.ofInt 32 (constants.mode mode)
    else c) 0).toInt

end Translation

/-- `*handle_f = MPI_…_c2f(handle); C_MPI_RC_FIX(*ierror);` Returns both. -/
def handBack (kind : Kind) (reply : HandleReply) : Call (Int × Int) := do
  let handleF := mpi.c2f kind reply.handle
  return (handleF, ← cMpiRcFix mpi reply.rc)

section Communicators

def cMpiCommDup (mpiCommDup : Int → Int → HandleReply) (commF : Int) : Call (Int × Int) :=
  let newcomm := mpi.handle .commNull
  let comm := cMpiCommF2c mpi commF
  handBack mpi .comm (mpiCommDup comm newcomm)

def cMpiCommDupWithInfo (mpiCommDupWithInfo : Int → Int → Int → HandleReply) (commF infoF : Int) :
    Call (Int × Int) :=
  let newcomm := mpi.handle .commNull
  let comm := cMpiCommF2c mpi commF
  let info := cMpiInfoF2c mpi infoF
  handBack mpi .comm (mpiCommDupWithInfo comm info newcomm)

def cMpiCommIdup (mpiCommIdup : Int → Int → Int → HandleReply) (commF : Int) :
    Call (Int × Int × Int) := do
  let newcomm := mpi.handle .commNull
  let comm := cMpiCommF2c mpi commF
  let request := mpi.handle .requestNull
  let reply := mpiCommIdup comm newcomm request
  let newcommF := mpi.c2f .comm reply.handle
  let requestF := mpi.c2f .request reply.request
  return (newcommF, requestF, ← cMpiRcFix mpi reply.rc)

/-- Since version 4. Returns `*newcomm_f`, `*request_f` and `*ierror`. -/
def cMpiCommIdupWithInfo (mpiCommIdupWithInfo : Int → Int → Int → Int → HandleReply)
    (commF infoF : Int) : Call (Int × Int × Int) := do
  let request := mpi.handle .requestNull
  let newcomm := mpi.handle .commNull
  let comm := cMpiCommF2c mpi commF
  let info := cMpiInfoF2c mpi infoF
  let reply := mpiCommIdupWithInfo comm info newcomm request
  let newcommF := mpi.c2f .comm reply.handle
  let requestF := mpi.c2f .request reply.request
  return (newcommF, requestF, ← cMpiRcFix mpi reply.rc)

def cMpiCommCreate (mpiCommCreate : Int → Int → Int → HandleReply) (commF groupF : Int) :
    Call (Int × Int) :=
  let newcomm := mpi.handle .commNull
  let comm := cMpiCommF2c mpi commF
  let group := cMpiGroupF2c mpi groupF
  handBack mpi .comm (mpiCommCreate comm group newcomm)

def cMpiCommCreateGroup (mpiCommCreateGroup : Int → Int → Int → Int → HandleReply)
    (commF groupF tagF : Int) : Call (Int × Int) :=
  let newcomm := mpi.handle .commNull
  let comm := cMpiCommF2c mpi commF
  let group := cMpiGroupF2c mpi groupF
  handBack mpi .comm (mpiCommCreateGroup comm group tagF newcomm)

def cMpiCommSplit (mpiCommSplit : Int → Int → Int → Int → HandleReply)
    (commF colorF keyF : Int) : Call (Int × Int) :=
  let newcomm := mpi.handle .commNull
  let comm := cMpiCommF2c mpi commF
  handBack mpi .comm (mpiCommSplit comm colorF keyF newcomm)

def cMpiCommSplitType (mpiCommSplitType : Int → Int → Int → Int → Int → HandleReply)
    (commF typeF keyF infoF : Int) : Call (Int × Int) := do
  let newcomm := mpi.handle .commNull
  let comm := cMpiCommF2c mpi commF
  let info := cMpiInfoF2c mpi infoF
  let type ← cMpiTranslateSplitType mpi constants typeF
  handBack mpi .comm (mpiCommSplitType comm type keyF info newcomm)

def cMpiCommFree (mpiCommFree : Int → HandleReply) (commF : Int) : Call (Int × Int) :=
  let comm := cMpiCommF2c mpi commF
  handBack mpi .comm (mpiCommFree comm)

/-- The arrays `dims` and `periods` are passed on by their addresses. -/
def cMpiCartCreate (mpiCartCreate : Int → Int → Int → Int → Int → Int → HandleReply)
    (commF ndims dims periods reorder : Int) : Call (Int × Int) :=
  let newcomm := mpi.handle .commNull
  let comm := cMpiCommF2c mpi commF
  handBack mpi .comm (mpiCartCreate comm ndims dims periods reorder newcomm)

end Communicators

section Groups

def cMpiCommGroup (mpiCommGroup : Int → Int → HandleReply) (commF : Int) : Call (Int × Int) :=
  let group := mpi.handle .groupNull
  let comm := cMpiCommF2c mpi commF
  handBack mpi .group (mpiCommGroup comm group)

/-- The calls that make a group of two. -/
def combineGroups (mpiGroupCombine : Int → Int → Int → HandleReply) (group1F group2F : Int) :
    Call (Int × Int) :=
  let newgroup := mpi.handle .groupNull
  let group1 := cMpiGroupF2c mpi group1F
  let group2 := cMpiGroupF2c mpi group2F
  handBack mpi .group (mpiGroupCombine group1 group2 newgroup)

def cMpiGroupUnion (mpiGroupUnion : Int → Int → Int → HandleReply) (group1F group2F : Int) :
    Call (Int × Int) :=
  combineGroups mpi mpiGroupUnion group1F group2F

def cMpiGroupIntersection (mpiGroupIntersection : Int → Int → Int → HandleReply)
    (group1F group2F : Int) : Call (Int × Int) :=
  combineGroups mpi mpiGroupIntersection group1F group2F

def cMpiGroupDifference (mpiGroupDifference : Int → Int → Int → HandleReply)
    (group1F group2F : Int) : Call (Int × Int) :=
  combineGroups mpi mpiGroupDifference group1F group2F

/-- The calls that choose members of a group by their ranks, which lie at an address. -/
def chooseRanks (mpiGroupChoose : Int → Int → Int → Int → HandleReply) (groupF n ranks : Int) :
    Call (Int × Int) :=
  let newgroup := mpi.handle .groupNull
  let group := cMpiGroupF2c mpi groupF
  handBack mpi .group (mpiGroupChoose group n ranks newgroup)

def cMpiGroupIncl (mpiGroupIncl : Int → Int → Int → Int → HandleReply) (groupF n ranks : Int) :
    Call (Int × Int) :=
  chooseRanks mpi mpiGroupIncl groupF n ranks

def cMpiGroupExcl (mpiGroupExcl : Int → Int → Int → Int → HandleReply) (groupF n ranks : Int) :
    Call (Int × Int) :=
  chooseRanks mpi mpiGroupExcl groupF n ranks

def cMpiGroupFree (mpiGroupFree : Int → HandleReply) (groupF : Int) : Call (Int × Int) :=
  let group := cMpiGroupF2c mpi groupF
  handBack mpi .group (mpiGroupFree group)

end Groups

section Files

/-- The file name is passed on by its address. -/
def cMpiFileOpen (mpiFileOpen : Int → Int → Int → Int → Int → HandleReply)
    (commF filename amodeF infoF : Int) : Call (Int × Int) :=
  let file := mpi.handle .fileNull
  let comm := cMpiCommF2c mpi commF
  let info := cMpiInfoF2c mpi infoF
  let amode := cMpiTranslateAmode constants amodeF
  handBack mpi .file (mpiFileOpen comm filename amode info file)

def cfiMpiFileOpen (mpiFileOpen : Int → Int → Int → Int → Int → HandleReply) (commF : Int)
    (filenameD : CDesc) (amodeF infoF : Int) : Call (Int × Int) :=
  cMpiFileOpen mpi constants mpiFileOpen commF filenameD.baseAddr amodeF infoF

def cMpiFileClose (mpiFileClose : Int → HandleReply) (fileF : Int) : Call (Int × Int) :=
  let file := cMpiFileF2c mpi fileF
  handBack mpi .file (mpiFileClose file)

end Files

section Operations

def cMpiOpCreate (mpiOpCreate : Int → Int → Int → HandleReply) (userFn commuteF : Int) :
    Call (Int × Int) :=
  let op := mpi.handle (.op .opNull)
  handBack mpi .op (mpiOpCreate userFn commuteF op)

def cMpiOpFree (mpiOpFree : Int → HandleReply) (opF : Int) : Call (Int × Int) :=
  let op := mpi.f2c .op opF
  handBack mpi .op (mpiOpFree op)

end Operations

section Others

def cMpiInfoFree (mpiInfoFree : Int → HandleReply) (infoF : Int) : Call (Int × Int) :=
  let info := cMpiInfoF2c mpi infoF
  handBack mpi .info (mpiInfoFree info)

def cMpiRequestFree (mpiRequestFree : Int → HandleReply) (requestF : Int) : Call (Int × Int) :=
  let request := cMpiRequestF2c mpi requestF
  handBack mpi .request (mpiRequestFree request)

end Others

section Comparison

/-- Handles are compared by the value of their only component. -/
def fMpiHandleEq (a b : Int) : Bool := a = b

def fMpiHandleCommEq : Int → Int → Bool := fMpiHandleEq
def fMpiHandleDatatypeEq : Int → Int → Bool := fMpiHandleEq
def fMpiHandleFileEq : Int → Int → Bool := fMpiHandleEq
def fMpiHandleGroupEq : Int → Int → Bool := fMpiHandleEq
def fMpiHandleInfoEq : Int → Int → Bool := fMpiHandleEq
def fMpiHandleMessageEq : Int → Int → Bool := fMpiHandleEq
def fMpiHandleOpEq : Int → Int → Bool := fMpiHandleEq
def fMpiHandleRequestEq : Int → Int → Bool := fMpiHandleEq
def fMpiHandleWinEq : Int → Int → Bool := fMpiHandleEq

/-- `operator (==)`, by the kind of its operands. -/
def handlesEqual : Kind → Int → Int → Bool
  | .comm => fMpiHandleCommEq
  | .datatype => fMpiHandleDatatypeEq
  | .file => fMpiHandleFileEq
  | .group => fMpiHandleGroupEq
  | .info => fMpiHandleInfoEq
  | .message => fMpiHandleMessageEq
  | .op => fMpiHandleOpEq
  | .request => fMpiHandleRequestEq
  | .win => fMpiHandleWinEq

theorem handlesEqual_iff (kind : Kind) {a b : Int} : handlesEqual kind a b = true ↔ a = b := by
  cases kind <;> exact decide_eq_true_iff

end Comparison

end Vapaa
