import Vapaa.PointToPoint

/-!
# Collective wrappers

The wrappers of `mpi_coll.c` that build datatypes for sections.
-/

set_option autoImplicit false

namespace Vapaa

open Foundation

variable (mpi : Mpi)

def cIsMpiInPlace (address : Int) : Wrapper Bool := fun process =>
  .returned (address = process.sentinels.inPlace, process)

/-- `if (C_IS_MPI_IN_PLACE(addr)) addr = MPI_IN_PLACE;` -/
def inPlaceArgument (address : Int) : Wrapper Int := do
  if ← cIsMpiInPlace address then return mpi.inPlace else return address

theorem inPlaceArgument_apply (address : Int) (process : Process) :
    inPlaceArgument mpi address process =
      .returned (if address = process.sentinels.inPlace then mpi.inPlace else address, process) :=
  chosen_apply rfl _ _

def cfiMpiBcast (reply : Reply) (desc : CDesc) (count datatypeF root commF : Int) :
    Wrapper Int := do
  let datatype := cMpiTypeF2c mpi datatypeF
  let comm := cMpiCommF2c mpi commF
  let ierror ← withSection mpi desc count datatype fun buffer count datatype =>
    mpiBcast reply buffer count datatype root comm
  call (cMpiRcFix mpi ierror)

/-- Count and datatype that one side of a collective passes: those of the caller, or
one element of a committed datatype for the section. -/
def openSide (desc : CDesc) (count datatype : Int) : Wrapper (Int × Int) :=
  if mpi.cfiIsContiguous desc = 1 then return (count, datatype)
  else do
    let (rc, sideType) ← call (vapaaCfiCreateDatatype mpi desc count datatype datatype)
    call (vapaaAssert mpi (rc = mpi.errorClass .success))
    let rc ← call (pmpiTypeCommit mpi sideType)
    call (vapaaAssert mpi (rc = mpi.errorClass .success))
    return (1, sideType)

def closeSide (desc : CDesc) (sideType : Int) : Wrapper Unit :=
  if mpi.cfiIsContiguous desc = 1 then return ()
  else do
    let (rc, _) ← call (pmpiTypeFree mpi sideType)
    call (vapaaAssert mpi (rc = mpi.errorClass .success))

/-- What the four block collectives do around their MPI call. -/
def blockCollective (input : CDesc) (scount stypeF : Int) (output : CDesc)
    (rcount rtypeF commF : Int)
    (communicate : Int → Int → Int → Int → Int → Int → Int → Wrapper Int) : Wrapper Int := do
  let inAddr ← inPlaceArgument mpi input.baseAddr
  let outAddr ← inPlaceArgument mpi output.baseAddr
  let stype := cMpiTypeF2c mpi stypeF
  let rtype := cMpiTypeF2c mpi rtypeF
  let (inCount, inType) ← openSide mpi input scount stype
  let (outCount, outType) ← openSide mpi output rcount rtype
  let comm := cMpiCommF2c mpi commF
  let ierror ← communicate inAddr inCount inType outAddr outCount outType comm
  let ierror ← call (cMpiRcFix mpi ierror)
  closeSide mpi input inType
  closeSide mpi output outType
  return ierror

def cfiMpiGather (reply : Reply) (input : CDesc) (scount stypeF : Int) (output : CDesc)
    (rcount rtypeF root commF : Int) : Wrapper Int :=
  blockCollective mpi input scount stypeF output rcount rtypeF commF
    fun inAddr inCount inType outAddr outCount outType comm =>
      mpiGather reply inAddr inCount inType outAddr outCount outType root comm

def cfiMpiAllgather (reply : Reply) (input : CDesc) (scount stypeF : Int) (output : CDesc)
    (rcount rtypeF commF : Int) : Wrapper Int :=
  blockCollective mpi input scount stypeF output rcount rtypeF commF
    fun inAddr inCount inType outAddr outCount outType comm =>
      mpiAllgather reply inAddr inCount inType outAddr outCount outType comm

def cfiMpiScatter (reply : Reply) (input : CDesc) (scount stypeF : Int) (output : CDesc)
    (rcount rtypeF root commF : Int) : Wrapper Int :=
  blockCollective mpi input scount stypeF output rcount rtypeF commF
    fun inAddr inCount inType outAddr outCount outType comm =>
      mpiScatter reply inAddr inCount inType outAddr outCount outType root comm

def cfiMpiAlltoall (reply : Reply) (input : CDesc) (scount stypeF : Int) (output : CDesc)
    (rcount rtypeF commF : Int) : Wrapper Int :=
  blockCollective mpi input scount stypeF output rcount rtypeF commF
    fun inAddr inCount inType outAddr outCount outType comm =>
      mpiAlltoall reply inAddr inCount inType outAddr outCount outType comm

end Vapaa
