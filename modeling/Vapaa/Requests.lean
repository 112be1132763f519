import Vapaa.CompletionIndices
import Vapaa.Foundation.Tickets
import Vapaa.MessagePassing

/-!
# Requests

Processes that start sends and receives of sections, keep the requests in variables and complete
them with the routines of `mpi_p2p.c` and `mpi_p2p_f.F90`, in any order.
-/

set_option autoImplicit false

namespace Vapaa

open Foundation

/-- What `MPI_Isend`, `MPI_Irecv` and their completion have to do with: a network, the messages that
have left its channels, the requests that the library knows by C handle, and the request variables
of the programs. -/
structure Requesting (Party : Type) where
  net : Network Party
  left : Envelope Party Context → List (List UInt8)
  active : Party → Int → Option (Ticket Party Context Int)
  slots : Party → Nat → Int

/-- The routines of `mpi_p2p.c` that complete requests and release them. -/
inductive CompletionRoutine where
  | test | testall | testsome | testany | wait | waitall | waitsome | waitany
  deriving DecidableEq, Repr

def CompletionRoutine.completion : CompletionRoutine → Completion
  | .test => .test
  | .testall => .testall
  | .testsome => .testsome
  | .testany => .testany
  | .wait => .wait
  | .waitall => .waitall
  | .waitsome => .waitsome
  | .waitany => .waitany

/-- A call of a routine that completes requests, for variables that follow each other. -/
structure Completing (Party : Type) where
  party : Party
  routine : CompletionRoutine
  first : Nat
  count : Nat
  status : Int

/-- What happens: a call that assigns the request variable `slot` if it is nonblocking, a completion
with the positions that are reported as complete, a message that the library transfers or copies, or
a value that a program stores. -/
inductive RequestEvent (Party : Type) where
  | call (posting : Posting Party) (slot : Nat)
  | complete (completing : Completing Party) (seen : List Nat)
  | transfer (envelope : Envelope Party Context)
  | buffer (envelope : Envelope Party Context) (n : Nat)
  | store (party : Party) (location : Int) (value : UInt8)

section Wrappers

variable {Party : Type} (mpi : Mpi) (reply : Reply)

/-- Returns the request variable and `*ierror`. -/
def Posting.start (requestF : Int) (posting : Posting Party) : Wrapper (Int × Int) :=
  match posting.transfer with
  | .send => do
      return (requestF, ← cfiMpiSend mpi reply posting.desc posting.count posting.datatypeF
        posting.peer posting.tag posting.commF)
  | .isend =>
      cfiMpiIsend mpi reply posting.desc posting.count posting.datatypeF posting.peer posting.tag
        posting.commF
  | .recv => do
      return (requestF, ← cfiMpiRecv mpi reply posting.desc posting.count posting.datatypeF
        posting.peer posting.tag posting.commF posting.status)
  | .irecv =>
      cfiMpiIrecv mpi reply posting.desc posting.count posting.datatypeF posting.peer posting.tag
        posting.commF

namespace Completing

/-- How many variables a routine is given. -/
def reach (completing : Completing Party) : Nat :=
  match completing.routine with
  | .test | .wait => 1
  | _ => completing.count

/-- The position that an index of Fortran names, if any. -/
def position (index : Int) : List Nat :=
  if 0 < index then [(index - 1).toNat] else []

/-- Returns the variables, the positions that the program learns to be complete, and `ierror`. An
index variable holds 0 before; the indices of `MPI_Testsome` and `MPI_Waitsome` do not count from 1,
so that a program learns nothing from them. -/
def run (completing : Completing Party) (requests : Nat → Int) :
    Wrapper ((Nat → Int) × List Nat × Int) :=
  let { routine, count, status, .. } := completing
  match routine with
  | .wait => do
      let (requestF, ierror) ← cMpiWait mpi reply (requests 0) status
      return (Function.update requests 0 requestF, [0], ierror)
  | .test => do
      let (requestF, flag, ierror) ← cMpiTest mpi reply (requests 0) status
      return (Function.update requests 0 requestF, if flag ≠ 0 then [0] else [], ierror)
  | .waitall => do
      let (requests, ierror) ← cMpiWaitall mpi reply count requests status
      return (requests, List.range count, ierror)
  | .testall => do
      let (requests, flag, ierror) ← cMpiTestall mpi reply count requests 0 status
      return (requests, if flag ≠ 0 then List.range count else [], ierror)
  | .waitany => do
      let (requests, index, ierror) ← mpiWaitanyF08 mpi reply count requests 0 status 0
      return (requests, position index, ierror)
  | .testany => do
      let (requests, index, flag, ierror) ← mpiTestanyF08 mpi reply count requests 0 status 0 0
      return (requests, if flag then position index else [], ierror)
  | .waitsome => do
      let (requests, _, _, ierror) ← mpiWaitsomeF08 mpi reply count requests [] status 0
      return (requests, [], ierror)
  | .testsome => do
      let (requests, _, _, ierror) ← mpiTestsomeF08 mpi reply count requests [] status 0
      return (requests, [], ierror)

end Completing

end Wrappers

section Library

variable {Party : Type} (mpi : Mpi)

def Requesting.tracked (state : Requesting Party) : Tracked Party Context Int UInt8 where
  channels := state.net.channels
  left := state.left

def handleAfter (handles : List Int) (positions : List Nat) (i : Nat) : Int :=
  if i ∈ positions then mpi.handle .requestNull else handles.getD i (mpi.handle .requestNull)

/-- What a routine reports about requests of which some are completed. -/
def CompletionRoutine.Reports (routine : CompletionRoutine) (handles : List Int)
    (positions : List Nat) (reply : Reply) : Prop :=
  let all := ∀ i < handles.length, i ∉ positions →
    handles.getD i (mpi.handle .requestNull) = mpi.handle .requestNull
  let idle := positions = [] ∧ all
  let one := (∃ i, positions = [i] ∧ reply.index = i) ∨ idle ∧ reply.index < 0
  match routine with
  | .wait | .waitall => all
  | .test | .testall => if reply.flag ≠ 0 then all else positions = []
  | .waitany => one
  | .testany => if reply.flag ≠ 0 then one else positions = [] ∧ reply.index < 0
  | .waitsome =>
      (positions ≠ [] ∧ reply.outcount = positions.length ∧
        reply.indices.take positions.length = positions.map fun (i : Nat) => (i : Int)) ∨
      idle ∧ reply.outcount < 0
  | .testsome =>
      (reply.outcount = positions.length ∧
        reply.indices.take positions.length = positions.map fun (i : Nat) => (i : Int)) ∨
      idle ∧ reply.outcount < 0

/-- The handle stands for a request whose message has left its channel or is copied. -/
def Requesting.Finished (state : Requesting Party) (party : Party) (handle : Int) : Prop :=
  ∃ ticket, state.active party handle = some ticket ∧ ticket.Complete state.tracked

def Requesting.Done (state : Requesting Party) (party : Party) (handle : Int) : Prop :=
  handle = mpi.handle .requestNull ∨ state.Finished party handle

/-- The library completes receives whose messages have arrived and sends whose sections it does not
need any more, and no others. -/
structure Requesting.Completes (state : Requesting Party) (completing : Completing Party)
    (handles : List Int) (positions : List Nat) (reply : Reply) : Prop where
  success : reply.rc = mpi.errorClass .success
  complete : ∀ i ∈ positions, ∃ handle ticket, handles[i]? = some handle ∧
    state.active completing.party handle = some ticket ∧ ticket.Complete state.tracked
  reports : completing.routine.Reports mpi handles positions reply
  request : reply.request = handleAfter mpi handles positions 0
  requests : ∀ i < handles.length, reply.requests i = handleAfter mpi handles positions i

end Library

/-- A table of each process with one entry set. -/
def assignIn {P K α : Type} [DecidableEq P] [DecidableEq K] (table : P → K → α) (party : P) (key : K)
    (value : α) : P → K → α :=
  Function.update table party (Function.update (table party) key value)

section Steps

variable {Party : Type} (mpi : Mpi) (known : KnownCommunicators Party)
variable (library : Kind → Int → Prop) [DecidableEq Party]

/-- A process calls and returns, the library moves or copies a message, or a program stores a value.
The handle of a new request is one of the library's that stands for no other. -/
inductive Requesting.Step (state : Requesting Party) :
    RequestEvent Party → Requesting Party → Prop where
  | call {posting : Posting Party} {slot : Nat} {requestF : Int} {final : Process}
      {event : ChannelEvent Party Context Int UInt8} {issued : Issued}
      {next : Tracked Party Context Int UInt8} (reply : Reply)
      (success : reply.rc = mpi.errorClass .success) (answers : state.net.Answers reply event)
      (returns : posting.start mpi reply (state.slots posting.party slot)
        (state.net.processes posting.party) =
          .returned ((requestF, mpi.errorClass .success), final))
      (asks : final.issued = (state.net.processes posting.party).issued ++ [issued])
      (understands : understood known posting.party issued = some event)
      (accepts : state.tracked.step event = some next)
      (fresh : (state.tracked.counts.ticket event).isSome →
        library .request reply.request ∧ reply.request ≠ mpi.handle .requestNull ∧
          state.active posting.party reply.request = none) :
      Step state (.call posting slot) {
        net := state.net.called posting.party final next.channels
        left := next.left
        active :=
          match state.tracked.counts.ticket event with
          | some ticket => assignIn state.active posting.party reply.request (some ticket)
          | none => state.active
        slots := assignIn state.slots posting.party slot requestF }
  | complete {completing : Completing Party} {requests : Nat → Int} {seen : List Nat}
      {final : Process} {handles : List Int} {positions : List Nat} (reply : Reply)
      (completes : state.Completes mpi completing handles positions reply)
      (returns : completing.run mpi reply
        (fun i => state.slots completing.party (completing.first + i))
        (state.net.processes completing.party) =
          .returned ((requests, seen, mpi.errorClass .success), final))
      (asks : final.issued = (state.net.processes completing.party).issued ++
        [.complete completing.routine.completion handles]) :
      Step state (.complete completing seen) {
        net := state.net.called completing.party final state.net.channels
        left := state.left
        active := Function.update state.active completing.party fun handle =>
          if ∃ i ∈ positions, handles[i]? = some handle then none
          else state.active completing.party handle
        slots := Function.update state.slots completing.party fun slot =>
          if completing.first ≤ slot then requests (slot - completing.first)
          else state.slots completing.party slot }
  | transfer {envelope : Envelope Party Context} {next : Tracked Party Context Int UInt8}
      (moves : state.tracked.step (.transfer envelope) = some next) :
      Step state (.transfer envelope)
        { state with net := state.net.withChannels next.channels, left := next.left }
  | buffer {envelope : Envelope Party Context} {n : Nat} {next : Tracked Party Context Int UInt8}
      (copies : state.tracked.step (.buffer envelope n) = some next) :
      Step state (.buffer envelope n)
        { state with net := state.net.withChannels next.channels, left := next.left }
  | store {party : Party} {location : Int} {value : UInt8}
      {next : Tracked Party Context Int UInt8}
      (stores : state.tracked.step (.store party location value) = some next) :
      Step state (.store party location value)
        { state with net := state.net.withChannels next.channels, left := next.left }

inductive Requesting.Runs : Requesting Party → List (RequestEvent Party) → Requesting Party → Prop
    where
  | nil {state : Requesting Party} : Runs state [] state
  | cons {state next final : Requesting Party} {event : RequestEvent Party}
      {events : List (RequestEvent Party)} (step : state.Step mpi known library event next)
      (rest : Runs next events final) : Runs state (event :: events) final

end Steps

section Programs

variable {Party : Type}

/-- What the programs know: how many messages they have asked to send and to receive, and the
operations of their variables that they were not told to be complete. -/
structure Knowledge (Party : Type) where
  counts : Counts Party Context
  held : Party → Nat → Option (Ticket Party Context Int)

def Knowledge.none : Knowledge Party where
  counts := { sent := fun _ => 0, received := fun _ => 0 }
  held := fun _ _ => Option.none

def Knowledge.tickets (knowledge : Knowledge Party) : Set (Ticket Party Context Int) :=
  {ticket | ∃ party slot, knowledge.held party slot = some ticket}

variable (mpi : Mpi) (known : KnownCommunicators Party)

def RequestEvent.meaning : RequestEvent Party → Option (ChannelEvent Party Context Int UInt8)
  | .call posting _ => (NetworkEvent.call posting).meaning mpi known
  | .complete _ _ => Option.none
  | .transfer envelope => some (.transfer envelope)
  | .buffer envelope n => some (.buffer envelope n)
  | .store party location value => some (.store party location value)

def RequestEvent.Valid (net : Network Party) : RequestEvent Party → Prop
  | .call posting _ => posting.Valid mpi net
  | _ => True

namespace Knowledge

variable (knowledge : Knowledge Party)

/-- A program leaves the sections of its operations alone, and their variables, until it knows that
they are complete. -/
def Allows : RequestEvent Party → Prop
  | .call posting slot =>
      (∀ event, (NetworkEvent.call posting).meaning mpi known = some event →
        Respects knowledge.tickets event) ∧ knowledge.held posting.party slot = Option.none
  | .store party location value =>
      Respects knowledge.tickets (ChannelEvent.store party location value)
  | _ => True

variable [DecidableEq Party]

def after : RequestEvent Party → Knowledge Party
  | .call posting slot =>
      match (NetworkEvent.call posting).meaning mpi known with
      | some event =>
          { counts := knowledge.counts.after event
            held := assignIn knowledge.held posting.party slot (knowledge.counts.ticket event) }
      | Option.none => knowledge
  | .complete completing seen =>
      { knowledge with
        held := Function.update knowledge.held completing.party fun slot =>
          if ∃ i ∈ seen, slot = completing.first + i then Option.none
          else knowledge.held completing.party slot }
  | _ => knowledge

def afterAll (knowledge : Knowledge Party) : List (RequestEvent Party) → Knowledge Party
  | [] => knowledge
  | event :: events => (knowledge.after mpi known event).afterAll events

/-- In every step of a run the programs do what they may by then. -/
def Disciplined (knowledge : Knowledge Party) : List (RequestEvent Party) → Prop
  | [] => True
  | event :: events => knowledge.Allows mpi known event ∧
      (knowledge.after mpi known event).Disciplined events

end Knowledge

/-- Nothing is under way, no request is active, and the variables hold none. -/
structure Requesting.Initial (state : Requesting Party) : Prop where
  quiet : state.net.channels.Quiet
  left : state.left = fun _ => []
  active : state.active = fun _ _ => Option.none
  slots : ∀ party slot, cMpiRequestF2c mpi (state.slots party slot) = mpi.handle .requestNull

end Programs

section Tables

variable {P K α : Type} [DecidableEq P] [DecidableEq K] {table : P → K → α} {party other : P}
variable {key place : K} {value : α}

@[simp] theorem assignIn_self : assignIn table party key value party key = value := by
  simp [assignIn]

theorem assignIn_of_ne (different : ¬ (other = party ∧ place = key)) :
    assignIn table party key value other place = table other place := by
  by_cases here : other = party
  · subst here
    have apart : place ≠ key := fun same => different ⟨rfl, same⟩
    simp [assignIn, Function.update_of_ne apart]
  · simp [assignIn, Function.update_of_ne here]

theorem assignIn_eq_self : assignIn table party key (table party key) = table := by
  simp [assignIn]

end Tables

end Vapaa
