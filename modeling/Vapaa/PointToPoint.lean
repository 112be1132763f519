import Vapaa.DatatypeBuilder
import Vapaa.Process

/-!
# Point-to-point wrappers

`mpi_p2p.c`, and what `mpi_request.c` adds to it. Each wrapper returns the final values of its
integer output arguments, `ierror` last; an argument that the wrapper leaves alone keeps its value.
-/

set_option autoImplicit false

namespace Vapaa

open Foundation

variable (mpi : Mpi)

section Sentinels

def cIsMpiStatusIgnore (address : Int) : Wrapper Bool := fun process =>
  .returned (address = process.sentinels.statusIgnore, process)

def cIsMpiStatusesIgnore (address : Int) : Wrapper Bool := fun process =>
  .returned (address = process.sentinels.statusesIgnore, process)

/-- `C_IS_MPI_STATUS_IGNORE(status) ? MPI_STATUS_IGNORE : status` -/
def statusArgument (status : Int) : Wrapper StatusPointer := do
  if ← cIsMpiStatusIgnore status then return .ofArgument mpi.statusIgnore
  else return .ofArgument status

/-- `C_IS_MPI_STATUSES_IGNORE(statuses) ? MPI_STATUSES_IGNORE : statuses` -/
def statusesArgument (statuses : Int) : Wrapper StatusPointer := do
  if ← cIsMpiStatusesIgnore statuses then return .ofArgument mpi.statusesIgnore
  else return .ofArgument statuses

theorem chosen_apply {α : Type} {test : Wrapper Bool} {p : Prop} [Decidable p] {process : Process}
    (tested : test process = .returned (decide p, process)) (yes no : α) :
    (do if ← test then return yes else return no : Wrapper α) process =
      .returned (if p then yes else no, process) := by
  rw [Run.bind_of_returned tested]
  by_cases holds : p
  · simp only [holds, decide_true, if_true]
    rfl
  · simp only [holds, decide_false, Bool.false_eq_true, if_false]
    rfl

theorem statusArgument_apply (status : Int) (process : Process) :
    statusArgument mpi status process =
      .returned (if status = process.sentinels.statusIgnore then .ofArgument mpi.statusIgnore
        else .ofArgument status, process) :=
  chosen_apply rfl _ _

theorem statusesArgument_apply (statuses : Int) (process : Process) :
    statusesArgument mpi statuses process =
      .returned (if statuses = process.sentinels.statusesIgnore then .ofArgument mpi.statusesIgnore
        else .ofArgument statuses, process) :=
  chosen_apply rfl _ _

end Sentinels

section Probes

def cMpiProbe (reply : Reply) (source tag commF statusF : Int) : Wrapper Int := do
  let comm := cMpiCommF2c mpi commF
  let needStatus ← cIsMpiStatusIgnore statusF
  let ierror ← mpiProbe mpi reply (cMpiProcNullDetector mpi source) tag comm
    (if needStatus then .ofLocal else .ofArgument mpi.statusIgnore)
  if needStatus then
    writeStatusWords (cMpiStatusC2f mpi.statusAbi reply.status statusF)
  call (cMpiRcFix mpi ierror)

def cMpiMprobe (reply : Reply) (source tag commF status : Int) : Wrapper (Int × Int) := do
  let comm := cMpiCommF2c mpi commF
  let ierror ← mpiMprobe mpi reply (cMpiProcNullDetector mpi source) tag comm
    (← statusArgument mpi status)
  let messageF := mpi.c2f .message reply.message
  return (messageF, ← call (cMpiRcFix mpi ierror))

end Probes

section Completions

def sizeofRequest (mpi : Mpi) : Int :=
  match mpi.statusAbi with
  | .mpich => 4
  | .openMpi => 8

/-- `requests[i] = C_MPI_REQUEST_F2C(requests_f[i])` for `i < count`. -/
def requestsF2c (count : Int) (requestsF : Nat → Int) : List Int :=
  (List.range count.toNat).map fun i => cMpiRequestF2c mpi (requestsF i)

/-- `requests_f[i] = MPI_Request_c2f(requests[i])` for `i < count`. -/
def requestsC2f (reply : Reply) (count : Int) (requestsF : Nat → Int) : Nat → Int := fun i =>
  if (i : Int) < count then mpi.c2f .request (reply.requests i) else requestsF i

/-- Whether the local array of requests can be allocated. -/
def allocatesRequests (count : Int) : Bool :=
  mpi.allocates (toSizeT (count * sizeofRequest mpi))

def cMpiTest (reply : Reply) (requestF status : Int) : Wrapper (Int × Int × Int) := do
  let request := cMpiRequestF2c mpi requestF
  let ierror ← completeOne mpi reply .test [request] (← statusArgument mpi status)
  let requestF := mpi.c2f .request reply.request
  return (requestF, reply.flag, ← call (cMpiRcFix mpi ierror))

def cMpiTestall (reply : Reply) (count : Int) (requestsF : Nat → Int) (flagF statuses : Int) :
    Wrapper ((Nat → Int) × Int × Int) := do
  if allocatesRequests mpi count then
    let requests := requestsF2c mpi count requestsF
    let ierror ← completeArray mpi reply .testall requests (← statusesArgument mpi statuses)
    let requestsF := requestsC2f mpi reply count requestsF
    return (requestsF, reply.flag, ← call (cMpiRcFix mpi ierror))
  else return (requestsF, flagF, ← call (cMpiRcFix mpi (mpi.errorClass .errOther)))

def cMpiTestsome (reply : Reply) (incount : Int) (requestsF : Nat → Int) (outcountF : Int)
    (arrayOfIndices : List Int) (statuses : Int) :
    Wrapper ((Nat → Int) × Int × List Int × Int) := do
  if allocatesRequests mpi incount then
    let requests := requestsF2c mpi incount requestsF
    let ierror ← completeArray mpi reply .testsome requests (← statusesArgument mpi statuses)
    let requestsF := requestsC2f mpi reply incount requestsF
    return (requestsF, reply.outcount, reply.indices, ← call (cMpiRcFix mpi ierror))
  else
    return (requestsF, outcountF, arrayOfIndices,
      ← call (cMpiRcFix mpi (mpi.errorClass .errOther)))

/-- Returns `requests_f`, `*index_f`, `*flag_f` and `*ierror`, which stays in the
numbering of the C library unless the allocation fails. -/
def cMpiTestany (reply : Reply) (count : Int) (requestsF : Nat → Int)
    (indexF flagF status : Int) : Wrapper ((Nat → Int) × Int × Int × Int) := do
  if allocatesRequests mpi count then
    let requests := requestsF2c mpi count requestsF
    let ierror ← completeOne mpi reply .testany requests (← statusArgument mpi status)
    let requestsF := requestsC2f mpi reply count requestsF
    return (requestsF, reply.index, reply.flag, ierror)
  else return (requestsF, indexF, flagF, ← call (cMpiRcFix mpi (mpi.errorClass .errOther)))

def cMpiWait (reply : Reply) (requestF status : Int) : Wrapper (Int × Int) := do
  let request := cMpiRequestF2c mpi requestF
  let ierror ← completeOne mpi reply .wait [request] (← statusArgument mpi status)
  let requestF := mpi.c2f .request reply.request
  return (requestF, ← call (cMpiRcFix mpi ierror))

def cMpiWaitall (reply : Reply) (count : Int) (requestsF : Nat → Int) (statusesF : Int) :
    Wrapper ((Nat → Int) × Int) := do
  if allocatesRequests mpi count then
    let requests := requestsF2c mpi count requestsF
    if ← cIsMpiStatusesIgnore statusesF then
      let ierror ← completeArray mpi reply .waitall requests (.ofArgument mpi.statusesIgnore)
      return (requestsC2f mpi reply count requestsF, ← call (cMpiRcFix mpi ierror))
    else if mpi.allocates (toSizeT (count * sizeofStatus mpi.statusAbi)) then
      let ierror ← completeArray mpi reply .waitall requests .ofLocal
      writeStatusWords ((List.range count.toNat).flatMap fun (i : Nat) =>
        cMpiStatusC2f mpi.statusAbi (reply.statuses i) (statusesF + i * sizeofFMpiStatus))
      return (requestsC2f mpi reply count requestsF, ← call (cMpiRcFix mpi ierror))
    else return (requestsF, ← call (cMpiRcFix mpi (mpi.errorClass .errOther)))
  else return (requestsF, ← call (cMpiRcFix mpi (mpi.errorClass .errOther)))

def cMpiWaitsome (reply : Reply) (incount : Int) (requestsF : Nat → Int) (outcountF : Int)
    (arrayOfIndices : List Int) (statuses : Int) :
    Wrapper ((Nat → Int) × Int × List Int × Int) := do
  if allocatesRequests mpi incount then
    let requests := requestsF2c mpi incount requestsF
    let ierror ← completeArray mpi reply .waitsome requests (← statusesArgument mpi statuses)
    let requestsF := requestsC2f mpi reply incount requestsF
    return (requestsF, reply.outcount, reply.indices, ← call (cMpiRcFix mpi ierror))
  else
    return (requestsF, outcountF, arrayOfIndices,
      ← call (cMpiRcFix mpi (mpi.errorClass .errOther)))

def cMpiWaitany (reply : Reply) (count : Int) (requestsF : Nat → Int) (indexF status : Int) :
    Wrapper ((Nat → Int) × Int × Int) := do
  if allocatesRequests mpi count then
    let requests := requestsF2c mpi count requestsF
    let ierror ← completeOne mpi reply .waitany requests (← statusArgument mpi status)
    let requestsF := requestsC2f mpi reply count requestsF
    return (requestsF, reply.index, ← call (cMpiRcFix mpi ierror))
  else return (requestsF, indexF, ← call (cMpiRcFix mpi (mpi.errorClass .errOther)))

/-- The status is a parameter passed by value, but the interface in `mpi_request_c.F90` passes a
reference for it. By the calling convention of x86-64, which has a status on the stack, this is what
the function takes for `ierror`, and the `ierror` of the caller is left as it was. Returns
`*flag_f`. -/
def cMpiRequestGetStatus (reply : Reply) (requestF status : Int) : Wrapper Int := do
  let request := cMpiRequestF2c mpi requestF
  let ierror ← completeOne mpi reply .getStatus [request] .ofLocal
  writeStatusWords [(status, ← call (cMpiRcFix mpi ierror))]
  return reply.flag

end Completions

section Sections

/-- A committed datatype for a section, for the time of a call. -/
def withSubarrayType {α : Type} (desc : CDesc) (count datatype : Int)
    (communicate : Int → Wrapper α) : Wrapper α := do
  let (rc, subarrayType) ←
    call (vapaaCfiCreateDatatype mpi desc count datatype (mpi.datatype .datatypeNull))
  call (vapaaAssert mpi (rc = mpi.errorClass .success))
  let rc ← call (pmpiTypeCommit mpi subarrayType)
  call (vapaaAssert mpi (rc = mpi.errorClass .success))
  let result ← communicate subarrayType
  let (rc, _) ← call (pmpiTypeFree mpi subarrayType)
  call (vapaaAssert mpi (rc = mpi.errorClass .success))
  return result

/-- The two branches of every `CFI_` wrapper with one section: its elements as they
lie, or one element of a datatype for the section. -/
def withSection {α : Type} (desc : CDesc) (count datatype : Int)
    (communicate : Int → Int → Int → Wrapper α) : Wrapper α :=
  if mpi.cfiIsContiguous desc = 1 then communicate desc.baseAddr count datatype
  else
    withSubarrayType mpi desc count datatype fun subarrayType =>
      communicate desc.baseAddr 1 subarrayType

end Sections

section Transfers

def cMpiSend (reply : Reply) (buffer count datatypeF dest tag commF : Int) : Wrapper Int := do
  let datatype := cMpiTypeF2c mpi datatypeF
  let comm := cMpiCommF2c mpi commF
  let ierror ← mpiSend reply buffer count datatype dest tag comm
  call (cMpiRcFix mpi ierror)

def cfiMpiSend (reply : Reply) (desc : CDesc) (count datatypeF dest tag commF : Int) :
    Wrapper Int := do
  let datatype := cMpiTypeF2c mpi datatypeF
  let comm := cMpiCommF2c mpi commF
  let ierror ← withSection mpi desc count datatype fun buffer count datatype =>
    mpiSend reply buffer count datatype dest tag comm
  call (cMpiRcFix mpi ierror)

def cMpiIsend (reply : Reply) (buffer count datatypeF dest tag commF : Int) :
    Wrapper (Int × Int) := do
  let datatype := cMpiTypeF2c mpi datatypeF
  let comm := cMpiCommF2c mpi commF
  let ierror ← mpiIsend reply buffer count datatype dest tag comm
  let requestF := mpi.c2f .request reply.request
  return (requestF, ← call (cMpiRcFix mpi ierror))

def cfiMpiIsend (reply : Reply) (desc : CDesc) (count datatypeF dest tag commF : Int) :
    Wrapper (Int × Int) := do
  let datatype := cMpiTypeF2c mpi datatypeF
  let comm := cMpiCommF2c mpi commF
  let ierror ← withSection mpi desc count datatype fun buffer count datatype =>
    mpiIsend reply buffer count datatype dest tag comm
  let requestF := mpi.c2f .request reply.request
  return (requestF, ← call (cMpiRcFix mpi ierror))

def cMpiRecv (reply : Reply) (buffer count datatypeF source tag commF status : Int) :
    Wrapper Int := do
  let datatype := cMpiTypeF2c mpi datatypeF
  let comm := cMpiCommF2c mpi commF
  let ierror ← mpiRecv mpi reply buffer count datatype source tag comm
    (← statusArgument mpi status)
  call (cMpiRcFix mpi ierror)

def cfiMpiRecv (reply : Reply) (desc : CDesc) (count datatypeF source tag commF status : Int) :
    Wrapper Int := do
  let datatype := cMpiTypeF2c mpi datatypeF
  let comm := cMpiCommF2c mpi commF
  let ierror ← withSection mpi desc count datatype fun buffer count datatype => do
    mpiRecv mpi reply buffer count datatype source tag comm (← statusArgument mpi status)
  call (cMpiRcFix mpi ierror)

def cMpiIrecv (reply : Reply) (buffer count datatypeF source tag commF : Int) :
    Wrapper (Int × Int) := do
  let datatype := cMpiTypeF2c mpi datatypeF
  let comm := cMpiCommF2c mpi commF
  let ierror ← mpiIrecv reply buffer count datatype source tag comm
  let requestF := mpi.c2f .request reply.request
  return (requestF, ← call (cMpiRcFix mpi ierror))

def cfiMpiIrecv (reply : Reply) (desc : CDesc) (count datatypeF source tag commF : Int) :
    Wrapper (Int × Int) := do
  let datatype := cMpiTypeF2c mpi datatypeF
  let comm := cMpiCommF2c mpi commF
  let ierror ← withSection mpi desc count datatype fun buffer count datatype =>
    mpiIrecv reply buffer count datatype source tag comm
  let requestF := mpi.c2f .request reply.request
  return (requestF, ← call (cMpiRcFix mpi ierror))

/-- Returns `*message_f`, which the wrapper does not assign, and `*ierror`. -/
def cMpiMrecv (reply : Reply) (buffer count datatypeF messageF status : Int) :
    Wrapper (Int × Int) := do
  let datatype := cMpiTypeF2c mpi datatypeF
  let message := cMpiMessageF2c mpi messageF
  let ierror ← mpiMrecv mpi reply buffer count datatype message (← statusArgument mpi status)
  return (messageF, ← call (cMpiRcFix mpi ierror))

def cfiMpiMrecv (reply : Reply) (desc : CDesc) (count datatypeF messageF status : Int) :
    Wrapper (Int × Int) := do
  let datatype := cMpiTypeF2c mpi datatypeF
  let message := cMpiMessageF2c mpi messageF
  let ierror ← withSection mpi desc count datatype fun buffer count datatype => do
    mpiMrecv mpi reply buffer count datatype message (← statusArgument mpi status)
  return (messageF, ← call (cMpiRcFix mpi ierror))

/-- Returns `*message_f`, which the wrapper does not assign, `*request_f` and `*ierror`. -/
def cMpiImrecv (reply : Reply) (buffer count datatypeF messageF : Int) :
    Wrapper (Int × Int × Int) := do
  let datatype := cMpiTypeF2c mpi datatypeF
  let message := cMpiMessageF2c mpi messageF
  let ierror ← mpiImrecv reply buffer count datatype message
  let requestF := mpi.c2f .request reply.request
  return (messageF, requestF, ← call (cMpiRcFix mpi ierror))

def cfiMpiImrecv (reply : Reply) (desc : CDesc) (count datatypeF messageF : Int) :
    Wrapper (Int × Int × Int) := do
  let datatype := cMpiTypeF2c mpi datatypeF
  let message := cMpiMessageF2c mpi messageF
  let ierror ← withSection mpi desc count datatype fun buffer count datatype =>
    mpiImrecv reply buffer count datatype message
  let requestF := mpi.c2f .request reply.request
  return (messageF, requestF, ← call (cMpiRcFix mpi ierror))

def cMpiSendrecv (reply : Reply) (sbuffer scount sdatatypeF dest stag : Int)
    (rbuffer rcount rdatatypeF src rtag commF status : Int) : Wrapper Int := do
  let sdatatype := cMpiTypeF2c mpi sdatatypeF
  let rdatatype := cMpiTypeF2c mpi rdatatypeF
  let comm := cMpiCommF2c mpi commF
  let ierror ← mpiSendrecv mpi reply sbuffer scount sdatatype dest stag rbuffer rcount rdatatype
    src rtag comm (← statusArgument mpi status)
  call (cMpiRcFix mpi ierror)

/-- `CFI_MPI_Sendrecv` with a builder whose runs are wrappers of some kind, to which the other calls
are lifted. -/
def sendrecvWith {wrapper : Type → Type} [Monad wrapper]
    (lift : {α : Type} → Wrapper α → wrapper α)
    (build : CDesc → Int → Int → Int → wrapper (Int × Int)) (reply : Reply)
    (sdesc : CDesc) (scount sdatatypeF dest stag : Int)
    (rdesc : CDesc) (rcount rdatatypeF src rtag commF status : Int) : wrapper Int := do
  let sdatatype := cMpiTypeF2c mpi sdatatypeF
  let rdatatype := cMpiTypeF2c mpi rdatatypeF
  let comm := cMpiCommF2c mpi commF
  let ierror ← (
    -- both operands test the send descriptor
    if mpi.cfiIsContiguous sdesc = 1 ∧ mpi.cfiIsContiguous sdesc = 1 then
      lift (do
        mpiSendrecv mpi reply sdesc.baseAddr scount sdatatype dest stag rdesc.baseAddr rcount
          rdatatype src rtag comm (← statusArgument mpi status))
    else do
      let (rc, subarrayTypeS) ← build sdesc scount sdatatype (mpi.datatype .datatypeNull)
      lift (call (vapaaAssert mpi (rc = mpi.errorClass .success)))
      let rc ← lift (call (pmpiTypeCommit mpi subarrayTypeS))
      lift (call (vapaaAssert mpi (rc = mpi.errorClass .success)))
      let (rc, subarrayTypeR) ← build rdesc rcount rdatatype (mpi.datatype .datatypeNull)
      lift (call (vapaaAssert mpi (rc = mpi.errorClass .success)))
      let rc ← lift (call (pmpiTypeCommit mpi subarrayTypeR))
      lift (call (vapaaAssert mpi (rc = mpi.errorClass .success)))
      lift (do
        let ierror ← mpiSendrecv mpi reply sdesc.baseAddr 1 subarrayTypeS dest stag
          rdesc.baseAddr 1 subarrayTypeR src rtag comm (← statusArgument mpi status)
        let (rc, _) ← call (pmpiTypeFree mpi subarrayTypeS)
        call (vapaaAssert mpi (rc = mpi.errorClass .success))
        let (rc, _) ← call (pmpiTypeFree mpi subarrayTypeR)
        call (vapaaAssert mpi (rc = mpi.errorClass .success))
        return ierror) : wrapper Int)
  lift (call (cMpiRcFix mpi ierror))

def cfiMpiSendrecv (reply : Reply) (sdesc : CDesc) (scount sdatatypeF dest stag : Int)
    (rdesc : CDesc) (rcount rdatatypeF src rtag commF status : Int) : Wrapper Int :=
  sendrecvWith mpi (fun run => run)
    (fun desc count datatype initial =>
      call (vapaaCfiCreateDatatype mpi desc count datatype initial))
    reply sdesc scount sdatatypeF dest stag rdesc rcount rdatatypeF src rtag commF status

end Transfers

section Packing

def cMpiPack (inbuf incount datatypeF outbuf outsize position commF : Int) :
    Wrapper (Int × Int) := do
  let datatype := cMpiTypeF2c mpi datatypeF
  let comm := cMpiCommF2c mpi commF
  let (ierror, position) ← mpiPack mpi inbuf incount datatype outbuf outsize position comm
  return (position, ← call (cMpiRcFix mpi ierror))

def cfiMpiPack (indesc : CDesc) (incount datatypeF : Int) (outdesc : CDesc)
    (outsize position commF : Int) : Wrapper (Int × Int) := do
  let datatype := cMpiTypeF2c mpi datatypeF
  let comm := cMpiCommF2c mpi commF
  let (ierror, position) ← (
    if mpi.cfiIsContiguous outdesc = 0 then do
      call (vapaaWarning "MPI_Pack requires the output buffer be contiguous.\n")
      return (mpi.errorClass .errArg, position)
    else
      withSection mpi indesc incount datatype fun inbuf incount datatype =>
        mpiPack mpi inbuf incount datatype outdesc.baseAddr outsize position comm
    : Wrapper (Int × Int))
  return (position, ← call (cMpiRcFix mpi ierror))

def cMpiUnpack (inbuf insize position outbuf outcount datatypeF commF : Int) :
    Wrapper (Int × Int) := do
  let datatype := cMpiTypeF2c mpi datatypeF
  let comm := cMpiCommF2c mpi commF
  let (ierror, position) ← mpiUnpack mpi inbuf insize position outbuf outcount datatype comm
  return (position, ← call (cMpiRcFix mpi ierror))

def cfiMpiUnpack (indesc : CDesc) (insize position : Int) (outdesc : CDesc)
    (outcount datatypeF commF : Int) : Wrapper (Int × Int) := do
  let datatype := cMpiTypeF2c mpi datatypeF
  let comm := cMpiCommF2c mpi commF
  let (ierror, position) ← (
    if mpi.cfiIsContiguous indesc = 0 then do
      call (vapaaWarning "MPI_Unpack requires the input buffer be contiguous.\n")
      return (mpi.errorClass .errArg, position)
    else
      withSection mpi outdesc outcount datatype fun outbuf outcount datatype =>
        mpiUnpack mpi indesc.baseAddr insize position outbuf outcount datatype comm
    : Wrapper (Int × Int))
  return (position, ← call (cMpiRcFix mpi ierror))

end Packing

end Vapaa
