import Vapaa.Conversion
import Vapaa.Foundation.Memory

/-!
# Processes

The storage that the wrappers share with their Fortran callers, and the calls of
the MPI library that transfer data or report completions. What the library answers
is its own choice.
-/

set_option autoImplicit false

namespace Vapaa

open Foundation

/-- Addresses registered for the sentinels of the Fortran module. -/
structure Sentinels where
  statusIgnore : Int
  statusesIgnore : Int
  inPlace : Int

/-- A buffer argument, with its datatype as it is at the call. -/
structure Buffer where
  address : Int
  count : Int
  object : Option TypeObject
  deriving DecidableEq, Repr, Inhabited

def TypeStore.buffer (types : TypeStore) (address count datatype : Int) : Buffer where
  address := address
  count := count
  object := types.object datatype

/-- Byte addresses of the data of a buffer, in transfer order. -/
def Buffer.locations (buffer : Buffer) : List Int :=
  match buffer.object with
  | some object => object.layout.locations buffer.address buffer.count.toNat
  | none => []

/-- `MPI_Status`, with the members of either library. -/
structure Status where
  countLo : Int
  countHiAndCancelled : Int
  mpiSource : Int
  mpiTag : Int
  mpiError : Int
  cancelled : Int
  ucount : Nat
  deriving DecidableEq, Repr

/-- Calls that report which of their requests are complete. -/
inductive Completion where
  | test | testall | testsome | testany | wait | waitall | waitsome | waitany | getStatus
  deriving DecidableEq, Repr

/-- A call that the library was asked for, with its arguments. -/
inductive Issued where
  | complete (completion : Completion) (requests : List Int)
  | probe (source tag comm : Int)
  | mprobe (source tag comm : Int)
  | send (buffer : Buffer) (dest tag comm : Int)
  | isend (buffer : Buffer) (dest tag comm : Int)
  | recv (buffer : Buffer) (source tag comm : Int)
  | irecv (buffer : Buffer) (source tag comm : Int)
  | mrecv (buffer : Buffer) (message : Int)
  | imrecv (buffer : Buffer) (message : Int)
  | sendrecv (sbuffer : Buffer) (dest stag : Int) (rbuffer : Buffer) (src rtag comm : Int)
  | pack (inbuf : Buffer) (outbuf outsize position comm : Int)
  | unpack (inbuf insize position : Int) (outbuf : Buffer) (comm : Int)
  | bcast (buffer : Buffer) (root comm : Int)
  | gather (input output : Buffer) (root comm : Int)
  | allgather (input output : Buffer) (comm : Int)
  | scatter (input output : Buffer) (root comm : Int)
  | alltoall (input output : Buffer) (comm : Int)
  deriving DecidableEq, Repr

/-- A pointer to an `MPI_Status`: to a local variable of a wrapper, or one that
the wrapper was given. -/
inductive StatusPointer where
  | ofLocal
  | ofArgument (status : Int)
  deriving DecidableEq, Repr

/-- One process. Status variables are kept by word, at the byte address of each. The
calls of the library are listed, and so are the pointers to a status among their
arguments. -/
structure Process where
  world : World
  sentinels : Sentinels
  memory : Memory Int UInt8
  statusWords : Memory Int Int
  issued : List Issued
  statusPointers : List StatusPointer

/-- What the library answers to a call: its return code, and what its output
arguments hold afterwards. -/
structure Reply where
  rc : Int
  /-- Whether an operation completed, so that its status is stored. -/
  completed : Bool
  status : Status
  /-- The contents of an array of statuses, of which the first ones are stored. -/
  statuses : Nat → Status
  stored : Nat
  received : List UInt8
  request : Int
  requests : Nat → Int
  message : Int
  flag : Int
  index : Int
  outcount : Int
  indices : List Int

abbrev Wrapper := Run Process

/-- A call that reaches datatypes and warnings only. -/
def call {α : Type} : Call α → Wrapper α :=
  Run.zoom Process.world fun process world => { process with world := world }

/-- A call without its results. -/
def effect {α : Type} (run : Wrapper α) : Wrapper Unit := do
  let _ ← run
  return ()

section Statuses

/-- The low and high word of a `size_t`. -/
def sizeWords (value : Nat) : List Int :=
  [toInt (value % 4294967296 : Nat), toInt (value / 4294967296 : Nat)]

/-- The words of an `MPI_Status` in memory. -/
def Status.words (abi : StatusAbi) (status : Status) : List Int :=
  match abi with
  | .mpich => [status.countLo, status.countHiAndCancelled, status.mpiSource, status.mpiTag,
      status.mpiError]
  | .openMpi => [status.mpiSource, status.mpiTag, status.mpiError, status.cancelled] ++
      sizeWords status.ucount

def sizeofStatus : StatusAbi → Int
  | .mpich => 20
  | .openMpi => 24

def sizeofFMpiStatus : Int := 32

/-- Consecutive words from an address on. -/
def wordsAt (address : Int) (words : List Int) : List (Int × Int) :=
  words.mapIdx fun i word => (address + 4 * (i : Int), word)

/-- `C_MPI_STATUS_C2F`: the words it assigns, by the offsets of `struct F_MPI_Status`. -/
def cMpiStatusC2f (abi : StatusAbi) (c : Status) (f : Int) : List (Int × Int) :=
  match abi with
  | .mpich => [(f, c.countLo), (f + 4, c.countHiAndCancelled), (f + 8, c.mpiSource),
      (f + 12, c.mpiTag), (f + 16, c.mpiError)]
  | .openMpi => [(f + 8, c.mpiSource), (f + 12, c.mpiTag), (f + 16, c.mpiError),
      (f + 20, c.cancelled)] ++ wordsAt (f + 24) (sizeWords c.ucount)

/-- The members of a Fortran status variable that the standard names. -/
structure PublicFields where
  mpiSource : Int
  mpiTag : Int
  mpiError : Int
  deriving DecidableEq, Repr

def publicFields (statusWords : Memory Int Int) (f : Int) : PublicFields where
  mpiSource := statusWords (f + 8)
  mpiTag := statusWords (f + 12)
  mpiError := statusWords (f + 16)

end Statuses

section LibraryCalls

variable (mpi : Mpi)

def writeStatusWords (writes : List (Int × Int)) : Wrapper Unit := fun process =>
  .returned ((), { process with statusWords := process.statusWords.writeAll writes })

def bufferOf (address count datatype : Int) : Wrapper Buffer := fun process =>
  .returned (process.world.types.buffer address count datatype, process)

def issue (issued : Issued) : Wrapper Unit := fun process =>
  .returned ((), { process with issued := process.issued ++ [issued] })

/-- Received data arrives at the first locations of the buffer. -/
def deliver (buffer : Buffer) (received : List UInt8) : Wrapper Unit := fun process =>
  .returned ((), { process with
    memory := process.memory.writeAll (buffer.locations.zip received) })

/-- What a call stores through its pointer to a status. -/
def statusWrites (reply : Reply) : StatusPointer → List (Int × Int)
  | .ofLocal => []
  | .ofArgument status =>
      if reply.completed ∧ status ≠ mpi.statusIgnore then
        wordsAt status (reply.status.words mpi.statusAbi)
      else []

/-- What it stores through a pointer to an array of statuses, one behind the other. -/
def statusesWrites (reply : Reply) : StatusPointer → List (Int × Int)
  | .ofLocal => []
  | .ofArgument statuses =>
      if statuses ≠ mpi.statusesIgnore then
        (List.range reply.stored).flatMap fun (i : Nat) =>
          wordsAt (statuses + i * sizeofStatus mpi.statusAbi)
            ((reply.statuses i).words mpi.statusAbi)
      else []

def storeThrough (pointer : StatusPointer) (writes : List (Int × Int)) : Wrapper Unit :=
  fun process => .returned ((), { process with
    statusWords := process.statusWords.writeAll writes
    statusPointers := process.statusPointers ++ [pointer] })

def storeStatus (reply : Reply) (pointer : StatusPointer) : Wrapper Unit :=
  storeThrough pointer (statusWrites mpi reply pointer)

def storeStatuses (reply : Reply) (pointer : StatusPointer) : Wrapper Unit :=
  storeThrough pointer (statusesWrites mpi reply pointer)

def mpiProbe (reply : Reply) (source tag comm : Int) (status : StatusPointer) :
    Wrapper Int := do
  issue (.probe source tag comm)
  storeStatus mpi reply status
  return reply.rc

def mpiMprobe (reply : Reply) (source tag comm : Int) (status : StatusPointer) :
    Wrapper Int := do
  issue (.mprobe source tag comm)
  storeStatus mpi reply status
  return reply.rc

/-- `MPI_Test`, `MPI_Testany`, `MPI_Wait`, `MPI_Waitany` and `MPI_Request_get_status`. -/
def completeOne (reply : Reply) (completion : Completion) (requests : List Int)
    (status : StatusPointer) : Wrapper Int := do
  issue (.complete completion requests)
  storeStatus mpi reply status
  return reply.rc

/-- `MPI_Testall`, `MPI_Testsome`, `MPI_Waitall` and `MPI_Waitsome`. -/
def completeArray (reply : Reply) (completion : Completion) (requests : List Int)
    (statuses : StatusPointer) : Wrapper Int := do
  issue (.complete completion requests)
  storeStatuses mpi reply statuses
  return reply.rc

def mpiSend (reply : Reply) (buf count datatype dest tag comm : Int) : Wrapper Int := do
  issue (.send (← bufferOf buf count datatype) dest tag comm)
  return reply.rc

def mpiIsend (reply : Reply) (buf count datatype dest tag comm : Int) : Wrapper Int := do
  issue (.isend (← bufferOf buf count datatype) dest tag comm)
  return reply.rc

def mpiRecv (reply : Reply) (buf count datatype source tag comm : Int)
    (status : StatusPointer) : Wrapper Int := do
  let buffer ← bufferOf buf count datatype
  issue (.recv buffer source tag comm)
  deliver buffer reply.received
  storeStatus mpi reply status
  return reply.rc

/-- The data arrives later, so nothing is delivered here. -/
def mpiIrecv (reply : Reply) (buf count datatype source tag comm : Int) : Wrapper Int := do
  issue (.irecv (← bufferOf buf count datatype) source tag comm)
  return reply.rc

def mpiMrecv (reply : Reply) (buf count datatype message : Int) (status : StatusPointer) :
    Wrapper Int := do
  let buffer ← bufferOf buf count datatype
  issue (.mrecv buffer message)
  deliver buffer reply.received
  storeStatus mpi reply status
  return reply.rc

def mpiImrecv (reply : Reply) (buf count datatype message : Int) : Wrapper Int := do
  issue (.imrecv (← bufferOf buf count datatype) message)
  return reply.rc

def mpiSendrecv (reply : Reply) (sendbuf sendcount sendtype dest sendtag : Int)
    (recvbuf recvcount recvtype source recvtag comm : Int) (status : StatusPointer) :
    Wrapper Int := do
  let sbuffer ← bufferOf sendbuf sendcount sendtype
  let rbuffer ← bufferOf recvbuf recvcount recvtype
  issue (.sendrecv sbuffer dest sendtag rbuffer source recvtag comm)
  deliver rbuffer reply.received
  storeStatus mpi reply status
  return reply.rc

/-- A packed buffer between two of its positions. -/
def packedSpan (buf first size : Int) : List Int := span (buf + first) size.toNat

/-- Appends the data of a buffer to a packed buffer that has room for it; returns
the code and the position. -/
def mpiPack (inbuf incount datatype outbuf outsize position comm : Int) :
    Wrapper (Int × Int) := do
  let buffer ← bufferOf inbuf incount datatype
  issue (.pack buffer outbuf outsize position comm)
  match buffer.object with
  | none => return (mpi.errorClass .errType, position)
  | some object =>
      let size : Int := incount * object.layout.size
      if object.committed = false then return (mpi.errorClass .errType, position)
      else if incount < 0 then return (mpi.errorClass .errCount, position)
      else if position < 0 ∨ outsize < position + size then
        return (mpi.errorClass .errArg, position)
      else fun process =>
        .returned ((mpi.errorClass .success, position + size), { process with
          memory := process.memory.writeAll
            ((packedSpan outbuf position size).zip (buffer.locations.map process.memory)) })

/-- Takes the data of a buffer from a packed buffer that holds it; returns the code
and the position. -/
def mpiUnpack (inbuf insize position outbuf outcount datatype comm : Int) :
    Wrapper (Int × Int) := do
  let buffer ← bufferOf outbuf outcount datatype
  issue (.unpack inbuf insize position buffer comm)
  match buffer.object with
  | none => return (mpi.errorClass .errType, position)
  | some object =>
      let size : Int := outcount * object.layout.size
      if object.committed = false then return (mpi.errorClass .errType, position)
      else if outcount < 0 then return (mpi.errorClass .errCount, position)
      else if position < 0 ∨ insize < position + size then
        return (mpi.errorClass .errArg, position)
      else fun process =>
        .returned ((mpi.errorClass .success, position + size), { process with
          memory := process.memory.writeAll
            (buffer.locations.zip ((packedSpan inbuf position size).map process.memory)) })

def mpiBcast (reply : Reply) (buf count datatype root comm : Int) : Wrapper Int := do
  issue (.bcast (← bufferOf buf count datatype) root comm)
  return reply.rc

def mpiGather (reply : Reply) (sendbuf sendcount sendtype recvbuf recvcount recvtype : Int)
    (root comm : Int) : Wrapper Int := do
  let input ← bufferOf sendbuf sendcount sendtype
  let output ← bufferOf recvbuf recvcount recvtype
  issue (.gather input output root comm)
  return reply.rc

def mpiAllgather (reply : Reply) (sendbuf sendcount sendtype recvbuf recvcount recvtype : Int)
    (comm : Int) : Wrapper Int := do
  let input ← bufferOf sendbuf sendcount sendtype
  let output ← bufferOf recvbuf recvcount recvtype
  issue (.allgather input output comm)
  return reply.rc

def mpiScatter (reply : Reply) (sendbuf sendcount sendtype recvbuf recvcount recvtype : Int)
    (root comm : Int) : Wrapper Int := do
  let input ← bufferOf sendbuf sendcount sendtype
  let output ← bufferOf recvbuf recvcount recvtype
  issue (.scatter input output root comm)
  return reply.rc

def mpiAlltoall (reply : Reply) (sendbuf sendcount sendtype recvbuf recvcount recvtype : Int)
    (comm : Int) : Wrapper Int := do
  let input ← bufferOf sendbuf sendcount sendtype
  let output ← bufferOf recvbuf recvcount recvtype
  issue (.alltoall input output comm)
  return reply.rc

end LibraryCalls

end Vapaa
