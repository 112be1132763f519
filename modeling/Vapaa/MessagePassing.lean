import Vapaa.CommunicatorSplits
import Vapaa.Foundation.Channels
import Vapaa.SectionArguments

/-!
# Passing messages between sections

Processes that send and receive sections with `CFI_MPI_Send`, `CFI_MPI_Isend`, `CFI_MPI_Recv` and
`CFI_MPI_Irecv` of `mpi_p2p.c`, in any order.
-/

set_option autoImplicit false

namespace Vapaa

open Foundation

inductive Transfer where
  | send | isend | recv | irecv
  deriving DecidableEq, Repr

/-- A call of one of the wrappers; the status is an argument of `MPI_Recv` only. -/
structure Posting (Party : Type) where
  party : Party
  transfer : Transfer
  desc : CDesc
  count : Nat
  datatypeF : Int
  peer : Int
  tag : Int
  commF : Int
  status : Int

/-- A context of communication, and a tag in it. -/
abbrev Context := Nat × Int

/-- Processes, and what the library keeps of their messages: of a buffer its locations, because the
datatype may be freed before they are read. -/
structure Network (Party : Type) where
  processes : Party → Process
  sends : Envelope Party Context → List (Outgoing Int UInt8)
  receives : Envelope Party Context → List (List Int)

inductive NetworkEvent (Party : Type) where
  | call (posting : Posting Party)
  | transfer (envelope : Envelope Party Context)
  | store (party : Party) (location : Int) (value : UInt8)

section Library

variable {Party : Type}

/-- The communicators that processes know by C handle. -/
abbrev KnownCommunicators (Party : Type) := Party → Int → Option (Communicator Party)

variable (known : KnownCommunicators Party)

/-- The process of a rank, and the context of the communicator. -/
def peerOf (party : Party) (rank comm : Int) : Option (Party × Nat) := do
  let communicator ← known party comm
  if 0 ≤ rank then
    let peer ← communicator.group.member rank.toNat
    return (peer, communicator.context)
  else none

/-- What a call means for the channels between the processes. -/
def channelEvent (transfer : Transfer) (party : Party) (rank tag comm : Int)
    (locations : List Int) : Option (ChannelEvent Party Context Int UInt8) := do
  let (peer, context) ← peerOf known party rank comm
  match transfer with
  | .send => return .send ⟨party, peer, (context, tag)⟩ locations
  | .isend => return .isend ⟨party, peer, (context, tag)⟩ locations
  | .recv => return .recv ⟨peer, party, (context, tag)⟩ locations
  | .irecv => return .irecv ⟨peer, party, (context, tag)⟩ locations

/-- How the library understands a call that it was asked for. -/
def understood (party : Party) : Issued → Option (ChannelEvent Party Context Int UInt8)
  | .send buffer dest tag comm => channelEvent known .send party dest tag comm buffer.locations
  | .isend buffer dest tag comm => channelEvent known .isend party dest tag comm buffer.locations
  | .recv buffer source tag comm => channelEvent known .recv party source tag comm buffer.locations
  | .irecv buffer source tag comm =>
      channelEvent known .irecv party source tag comm buffer.locations
  | _ => none

namespace Network

def channels (net : Network Party) : Channels Party Context Int UInt8 where
  memory := fun party => (net.processes party).memory
  sends := net.sends
  receives := net.receives

/-- Memories as the library or a program has changed them. -/
def withChannels (net : Network Party) (channels : Channels Party Context Int UInt8) :
    Network Party where
  processes := fun party => { net.processes party with memory := channels.memory party }
  sends := channels.sends
  receives := channels.receives

variable [DecidableEq Party]

/-- A receive is answered with the oldest message. -/
def Answers (net : Network Party) (reply : Reply) :
    ChannelEvent Party Context Int UInt8 → Prop
  | .recv envelope _ => (net.channels.underway envelope).head? = some reply.received
  | _ => True

end Network

end Library

section Calls

variable {Party : Type} (mpi : Mpi) (known : KnownCommunicators Party)

namespace Posting

/-- Returns `*ierror`. -/
def run (reply : Reply) (posting : Posting Party) : Wrapper Int :=
  match posting.transfer with
  | .send =>
      cfiMpiSend mpi reply posting.desc posting.count posting.datatypeF posting.peer posting.tag
        posting.commF
  | .isend => do
      let (_, ierror) ← cfiMpiIsend mpi reply posting.desc posting.count posting.datatypeF
        posting.peer posting.tag posting.commF
      return ierror
  | .recv =>
      cfiMpiRecv mpi reply posting.desc posting.count posting.datatypeF posting.peer posting.tag
        posting.commF posting.status
  | .irecv => do
      let (_, ierror) ← cfiMpiIrecv mpi reply posting.desc posting.count posting.datatypeF
        posting.peer posting.tag posting.commF
      return ierror

/-- What the library is asked for, with a buffer for the section. -/
def issued (posting : Posting Party) (buffer : Buffer) : Issued :=
  let comm := cMpiCommF2c mpi posting.commF
  match posting.transfer with
  | .send => .send buffer posting.peer posting.tag comm
  | .isend => .isend buffer posting.peer posting.tag comm
  | .recv => .recv buffer posting.peer posting.tag comm
  | .irecv => .irecv buffer posting.peer posting.tag comm

/-- The section matches its datatype, among the datatypes of the process. -/
structure Valid (net : Network Party) (posting : Posting Party) : Prop where
  basic : (net.processes posting.party).world.types.Basic mpi
  argument : posting.desc.Matches mpi (net.processes posting.party).world.types
    (cMpiTypeF2c mpi posting.datatypeF) posting.count

/-- The section lies contiguous, or the builder accepts it. -/
def Passable (net : Network Party) (posting : Posting Party) : Prop :=
  mpi.cfiIsContiguous posting.desc ≠ 1 →
    posting.desc.Accepted mpi (net.processes posting.party).world.types posting.count

/-- What the memory of the process holds afterwards. -/
def received (posting : Posting Party) (reply : Reply) (memory : Memory Int UInt8) :
    Memory Int UInt8 :=
  match posting.transfer with
  | .recv => memory.writeAll
      ((posting.desc.elementBytes posting.count).zip reply.received)
  | _ => memory

end Posting

namespace NetworkEvent

/-- What an event means: the elements of a section are sent or received, in array element order. -/
def meaning : NetworkEvent Party → Option (ChannelEvent Party Context Int UInt8)
  | .call posting =>
      channelEvent known posting.transfer posting.party posting.peer posting.tag
        (cMpiCommF2c mpi posting.commF) (posting.desc.elementBytes posting.count)
  | .transfer envelope => some (.transfer envelope)
  | .store party location value => some (.store party location value)

def Valid (net : Network Party) : NetworkEvent Party → Prop
  | .call posting => posting.Valid mpi net
  | _ => True

def Passable (net : Network Party) : NetworkEvent Party → Prop
  | .call posting => posting.Passable mpi net
  | _ => True

end NetworkEvent

variable [DecidableEq Party]

/-- A process calls and returns, the library moves a message by itself, or a program stores a
value. -/
inductive Network.Step (net : Network Party) : NetworkEvent Party → Network Party → Prop where
  | call {posting : Posting Party} {final : Process}
      {event : ChannelEvent Party Context Int UInt8} {issued : Issued}
      {channels : Channels Party Context Int UInt8} (reply : Reply)
      (success : reply.rc = mpi.errorClass .success) (answers : net.Answers reply event)
      (returns : posting.run mpi reply (net.processes posting.party) =
        .returned (mpi.errorClass .success, final))
      (asks : final.issued = (net.processes posting.party).issued ++ [issued])
      (understands : understood known posting.party issued = some event)
      (accepts : net.channels.step event = some channels) :
      Step net (.call posting) {
        processes := Function.update net.processes posting.party final
        sends := channels.sends
        receives := channels.receives }
  | transfer {envelope : Envelope Party Context} {channels : Channels Party Context Int UInt8}
      (moves : net.channels.step (.transfer envelope) = some channels) :
      Step net (.transfer envelope) (net.withChannels channels)
  | store {party : Party} {location : Int} {value : UInt8} :
      Step net (.store party location value)
        (net.withChannels (net.channels.writeAt party [(location, value)]))

inductive Network.Runs : Network Party → List (NetworkEvent Party) → Network Party → Prop where
  | nil {net : Network Party} : Runs net [] net
  | cons {net next final : Network Party} {event : NetworkEvent Party}
      {events : List (NetworkEvent Party)} (step : net.Step mpi known event next)
      (rest : Runs next events final) : Runs net (event :: events) final

/-- Every process has the datatypes that it had. -/
def Network.Restored (before after : Network Party) : Prop :=
  ∀ party, (before.processes party).world.types.Restored (after.processes party).world.types

end Calls

section Wrappers

variable {Party : Type} {mpi : Mpi} {net : Network Party} {posting : Posting Party}
variable {reply : Reply}

theorem convert_success {process : Process} (success : reply.rc = mpi.errorClass .success) :
    call (cMpiRcFix mpi reply.rc) process = .returned (mpi.errorClass .success, process) := by
  rw [success]
  exact call_of_returned (cMpiRcFix_success _)

/-- The code of a wrapper that returns a request, too. -/
theorem ierror_of_request {run : Wrapper Int} {process middle : Process} {request : Int}
    (returned : run process = .returned (reply.rc, middle))
    (success : reply.rc = mpi.errorClass .success) :
    (do
      let (_, ierror) ← (do
        let ierror ← run
        return (request, ← call (cMpiRcFix mpi ierror)) : Wrapper (Int × Int))
      return ierror : Wrapper Int) process = .returned (mpi.errorClass .success, middle) := by
  rw [bind_assoc, Run.bind_of_returned returned, bind_assoc,
    Run.bind_of_returned (convert_success success)]
  rfl

/-- A call passes the elements of its section on, and leaves the datatypes as they were. -/
theorem Posting.run_passes (valid : posting.Valid mpi net)
    (passable : posting.Passable mpi net) (success : reply.rc = mpi.errorClass .success) :
    ∃ buffer final, buffer.Carries (posting.desc.elementBytes posting.count) ∧
      posting.run mpi reply (net.processes posting.party) =
        .returned (mpi.errorClass .success, final) ∧
      final.issued = (net.processes posting.party).issued ++ [posting.issued mpi buffer] ∧
      final.memory = posting.received reply (net.processes posting.party).memory ∧
      (net.processes posting.party).world.types.Restored final.world.types := by
  obtain ⟨passedCount, passedType, opened, carries, passes⟩ :=
    @withSection_passes Int mpi _ _ _ _ valid.basic valid.argument passable
  refine ⟨opened.types.buffer posting.desc.baseAddr passedCount passedType, ?_⟩
  simp only [run, issued, received]
  cases posting.transfer with
  | send =>
      obtain ⟨world, returned, restored⟩ := passes
        (fun buffer count datatype =>
          mpiSend reply buffer count datatype posting.peer posting.tag
            (cMpiCommF2c mpi posting.commF)) _ _ rfl rfl
      exact ⟨_, carries, (Run.bind_of_returned returned).trans (convert_success success), rfl, rfl,
        restored⟩
  | isend =>
      obtain ⟨world, returned, restored⟩ := passes
        (fun buffer count datatype =>
          mpiIsend reply buffer count datatype posting.peer posting.tag
            (cMpiCommF2c mpi posting.commF)) _ _ rfl rfl
      exact ⟨_, carries, ierror_of_request returned success, rfl, rfl, restored⟩
  | recv =>
      have carried : (opened.types.buffer posting.desc.baseAddr passedCount passedType).locations =
          posting.desc.elementBytes posting.count := carries.locations_eq
      obtain ⟨world, returned, restored⟩ := passes
        (fun buffer count datatype => do
          mpiRecv mpi reply buffer count datatype posting.peer posting.tag
            (cMpiCommF2c mpi posting.commF) (← statusArgument mpi posting.status)) _ _
        (Run.bind_of_returned (statusArgument_apply _ _ _)) rfl
      refine ⟨_, carries, (Run.bind_of_returned returned).trans (convert_success success), rfl, ?_,
        restored⟩
      rw [← carried]
  | irecv =>
      obtain ⟨world, returned, restored⟩ := passes
        (fun buffer count datatype =>
          mpiIrecv reply buffer count datatype posting.peer posting.tag
            (cMpiCommF2c mpi posting.commF)) _ _ rfl rfl
      exact ⟨_, carries, ierror_of_request returned success, rfl, rfl, restored⟩

end Wrappers

section Steps

variable {Party : Type} {mpi : Mpi} {known : KnownCommunicators Party} {net next : Network Party}
variable {posting : Posting Party} {reply : Reply} {event : NetworkEvent Party}
variable {meant : ChannelEvent Party Context Int UInt8}
variable {channels : Channels Party Context Int UInt8}

theorem Posting.understood_issued {buffer : Buffer}
    (carries : buffer.Carries (posting.desc.elementBytes posting.count)) :
    understood known posting.party (posting.issued mpi buffer) =
      (NetworkEvent.call posting).meaning mpi known := by
  simp only [issued, NetworkEvent.meaning, ← carries.locations_eq]
  cases posting.transfer <;> rfl

variable [DecidableEq Party]

/-- The memories after a call are those that its meaning tells. -/
theorem Posting.memory_accepted (means : (NetworkEvent.call posting).meaning mpi known = some meant)
    (answers : net.Answers reply meant) (accepts : net.channels.step meant = some channels) :
    channels.memory = Function.update net.channels.memory posting.party
      (posting.received reply (net.processes posting.party).memory) := by
  obtain ⟨⟨peer, context⟩, -, rest⟩ := Option.bind_eq_some_iff.mp means
  rw [received]
  cases kind : posting.transfer with
  | send =>
      rw [kind] at rest
      cases rest
      cases accepts
      exact (Function.update_eq_self _ _).symm
  | isend =>
      rw [kind] at rest
      cases rest
      cases accepts
      exact (Function.update_eq_self _ _).symm
  | recv =>
      rw [kind] at rest
      cases rest
      obtain ⟨message, later, waiting, first, -, arrives⟩ := Channels.recv_arrival accepts
      obtain ⟨-, rfl⟩ := Channels.arrive_eq_some arrives
      rw [Network.Answers, Channels.underway, first] at answers
      rw [Option.some.inj answers]
      rfl
  | irecv =>
      rw [kind] at rest
      cases rest
      cases accepts
      exact (Function.update_eq_self _ _).symm

omit [DecidableEq Party] in
theorem Network.Restored.refl (net : Network Party) : net.Restored net :=
  fun _ => TypeStore.Restored.refl _

/-- The network after a call. -/
def Network.called (net : Network Party) (party : Party) (final : Process)
    (channels : Channels Party Context Int UInt8) : Network Party where
  processes := Function.update net.processes party final
  sends := channels.sends
  receives := channels.receives

theorem Network.restored_called {party : Party} {final : Process}
    (restored : (net.processes party).world.types.Restored final.world.types) :
    net.Restored (net.called party final channels) := by
  intro other
  by_cases here : other = party
  · subst here
    simpa [called] using restored
  · simpa [called, Function.update_of_ne here] using TypeStore.Restored.refl _

theorem Posting.channels_called {final : Process}
    (means : (NetworkEvent.call posting).meaning mpi known = some meant)
    (answers : net.Answers reply meant) (accepts : net.channels.step meant = some channels)
    (memory : final.memory = posting.received reply (net.processes posting.party).memory) :
    (net.called posting.party final channels).channels = channels := by
  refine Channels.ext (funext fun party => ?_) rfl rfl
  rw [posting.memory_accepted means answers accepts]
  by_cases here : party = posting.party
  · subst here
    simp [Network.called, Network.channels, memory]
  · simp [Network.called, Network.channels, Function.update_of_ne here]

/-- The library accepts a call as its meaning tells, and leaves the datatypes as they were. -/
theorem Posting.steps (valid : posting.Valid mpi net) (passable : posting.Passable mpi net)
    (success : reply.rc = mpi.errorClass .success)
    (means : (NetworkEvent.call posting).meaning mpi known = some meant)
    (answers : net.Answers reply meant) (accepts : net.channels.step meant = some channels) :
    ∃ next, net.Step mpi known (.call posting) next ∧ next.channels = channels ∧
      net.Restored next := by
  obtain ⟨buffer, final, carries, returns, asks, memory, restored⟩ :=
    posting.run_passes valid passable success
  exact ⟨net.called posting.party final channels,
    .call reply success answers returns asks ((posting.understood_issued carries).trans means)
      accepts, posting.channels_called means answers accepts memory,
    Network.restored_called restored⟩

omit [DecidableEq Party] in
/-- With assertions, a call that returns has passed its section. -/
theorem Posting.passable_of_returns (active : mpi.seatbelts = true) (valid : posting.Valid mpi net)
    {ierror : Int} {final : Process}
    (returns : posting.run mpi reply (net.processes posting.party) = .returned (ierror, final)) :
    posting.Passable mpi net := by
  intro scattered
  by_contra rejected
  have never (communicate : Int → Int → Int → Wrapper Int) :
      Run.Ensures (withSection mpi posting.desc posting.count (cMpiTypeF2c mpi posting.datatypeF)
        communicate) (net.processes posting.party) fun _ _ => False :=
    withSection_of_rejected valid.basic valid.argument active scattered rejected communicate
  have ends : Run.Ensures (posting.run mpi reply) (net.processes posting.party)
      fun _ _ => False := by
    rw [run]
    cases posting.transfer with
    | send => exact Run.ensures_bind_of_never (never _)
    | isend => exact Run.ensures_bind_of_never (Run.ensures_bind_of_never (never _))
    | recv => exact Run.ensures_bind_of_never (never _)
    | irecv => exact Run.ensures_bind_of_never (Run.ensures_bind_of_never (never _))
  exact ends ierror final returns

/-- With assertions, an event happens as it is meant. -/
theorem Network.Step.happens (active : mpi.seatbelts = true) (valid : event.Valid mpi net)
    (step : net.Step mpi known event next) :
    event.Passable mpi net ∧ net.Restored next ∧
      ∃ meant, event.meaning mpi known = some meant ∧
        net.channels.step meant = some next.channels := by
  cases step with
  | @call posting final meant issued channels reply success answers returns asks understands accepts =>
      have passable := posting.passable_of_returns active valid returns
      obtain ⟨buffer, other, carries, again, issues, memory, restored⟩ :=
        posting.run_passes valid passable success
      rw [returns] at again
      cases again
      rw [asks] at issues
      cases List.singleton_inj.mp (List.append_cancel_left issues)
      have means := (posting.understood_issued carries).symm.trans understands
      have same := posting.channels_called means answers accepts memory
      exact ⟨passable, Network.restored_called restored, meant, means,
        accepts.trans (congrArg some same.symm)⟩
  | transfer moves => exact ⟨trivial, Network.Restored.refl net, _, rfl, moves⟩
  | store => exact ⟨trivial, Network.Restored.refl net, _, rfl, rfl⟩

/-- A message that a receive can take is there to answer it with. -/
theorem Network.exists_answer (accepts : net.channels.step meant = some channels) :
    ∃ reply : Reply, reply.rc = mpi.errorClass .success ∧ net.Answers reply meant := by
  let answer (received : List UInt8) : Reply :=
    { successfulReply with rc := mpi.errorClass .success, received := received }
  cases meant with
  | recv envelope locations =>
      obtain ⟨message, later, waiting, first, -, -⟩ := Channels.recv_arrival accepts
      refine ⟨answer (net.channels.valuesOf envelope message), rfl, ?_⟩
      rw [Answers, Channels.underway, first]
      rfl
  | send => exact ⟨answer [], rfl, trivial⟩
  | isend => exact ⟨answer [], rfl, trivial⟩
  | irecv => exact ⟨answer [], rfl, trivial⟩
  | transfer => exact ⟨answer [], rfl, trivial⟩
  | buffer => exact ⟨answer [], rfl, trivial⟩
  | store => exact ⟨answer [], rfl, trivial⟩

theorem NetworkEvent.steps (valid : event.Valid mpi net) (passable : event.Passable mpi net)
    (means : event.meaning mpi known = some meant)
    (accepts : net.channels.step meant = some channels) :
    ∃ next, net.Step mpi known event next ∧ next.channels = channels ∧ net.Restored next := by
  cases event with
  | call posting =>
      obtain ⟨reply, success, answers⟩ := @Network.exists_answer _ mpi net meant channels _ accepts
      exact posting.steps valid passable success means answers accepts
  | transfer envelope =>
      cases means
      exact ⟨net.withChannels channels, .transfer accepts, rfl, Network.Restored.refl net⟩
  | store party location value =>
      cases means
      cases accepts
      exact ⟨_, .store, rfl, Network.Restored.refl net⟩

end Steps

section Runs

variable {Party : Type} {mpi : Mpi} {known : KnownCommunicators Party} {net next : Network Party}
variable {event : NetworkEvent Party} {events : List (NetworkEvent Party)}
variable {final : Channels Party Context Int UInt8}

theorem NetworkEvent.Valid.restored (valid : event.Valid mpi net) (restored : net.Restored next) :
    event.Valid mpi next := by
  cases event with
  | call posting =>
      exact ⟨valid.basic.of_restored (restored _), valid.argument.of_restored (restored _)⟩
  | transfer envelope => trivial
  | store party location value => trivial

theorem NetworkEvent.passable_iff_of_restored (restored : net.Restored next) :
    event.Passable mpi next ↔ event.Passable mpi net := by
  cases event with
  | call posting => exact imp_congr_right fun _ => CDesc.accepted_iff_of_restored (restored _)
  | transfer envelope => exact Iff.rfl
  | store party location value => exact Iff.rfl

theorem Network.Restored.trans {last : Network Party} (first : net.Restored next)
    (second : next.Restored last) : net.Restored last :=
  fun party => (first party).trans (second party)

variable [DecidableEq Party]

theorem Network.Runs.happens {last : Network Party} (active : mpi.seatbelts = true)
    (runs : net.Runs mpi known events last) (valid : ∀ event ∈ events, event.Valid mpi net) :
    net.Restored last ∧ (∀ event ∈ events, event.Passable mpi net) ∧
      ∃ meant, events.mapM (NetworkEvent.meaning mpi known) = some meant ∧
        net.channels.run meant = some last.channels := by
  induction runs with
  | nil => exact ⟨Network.Restored.refl _, by simp, [], rfl, rfl⟩
  | @cons net next last event events step rest ih =>
      obtain ⟨passable, kept, meant, means, moves⟩ :=
        step.happens active (valid event List.mem_cons_self)
      obtain ⟨restored, others, meanings, mean, finishes⟩ := ih fun other member =>
        (valid other (List.mem_cons_of_mem _ member)).restored kept
      refine ⟨kept.trans restored, ?_, meant :: meanings, ?_, ?_⟩
      · intro other member
        cases List.mem_cons.mp member with
        | inl same => exact same ▸ passable
        | inr among =>
            exact (NetworkEvent.passable_iff_of_restored kept).mp (others other among)
      · rw [List.mapM_cons, means, mean]
        rfl
      · rw [Channels.run, moves]
        exact finishes

theorem Network.runs_of_meant {meant : List (ChannelEvent Party Context Int UInt8)}
    (valid : ∀ event ∈ events, event.Valid mpi net)
    (passable : ∀ event ∈ events, event.Passable mpi net)
    (mean : events.mapM (NetworkEvent.meaning mpi known) = some meant)
    (runs : net.channels.run meant = some final) :
    ∃ last, net.Runs mpi known events last ∧ last.channels = final ∧ net.Restored last := by
  induction events generalizing net meant with
  | nil =>
      cases mean
      exact ⟨net, .nil, Option.some.inj runs, Network.Restored.refl net⟩
  | cons event events ih =>
      rw [List.mapM_cons] at mean
      obtain ⟨first, means, rest⟩ := Option.bind_eq_some_iff.mp mean
      obtain ⟨meanings, others, same⟩ := Option.bind_eq_some_iff.mp rest
      cases same
      obtain ⟨channels, moves, finishes⟩ := Option.bind_eq_some_iff.mp runs
      obtain ⟨next, step, rfl, kept⟩ := NetworkEvent.steps (valid event List.mem_cons_self)
        (passable event List.mem_cons_self) means moves
      obtain ⟨last, follows, ends, restored⟩ := ih
        (fun other member => (valid other (List.mem_cons_of_mem _ member)).restored kept)
        (fun other member => (NetworkEvent.passable_iff_of_restored kept).mpr
          (passable other (List.mem_cons_of_mem _ member))) others finishes
      exact ⟨last, .cons step follows, ends, kept.trans restored⟩

/-- In any order of the events of all processes, sections are passed as the lists of their
elements: with assertions, a run of the wrappers is a run of the channels between memories, and
such a run is one of the wrappers exactly when every section lies contiguous or is accepted by the
builder. No run leaves a datatype behind. -/
theorem network_runs_iff (active : mpi.seatbelts = true)
    (valid : ∀ event ∈ events, event.Valid mpi net) :
    ((∃ last, net.Runs mpi known events last ∧ last.channels = final) ↔
      (∀ event ∈ events, event.Passable mpi net) ∧
        ∃ meant, events.mapM (NetworkEvent.meaning mpi known) = some meant ∧
          net.channels.run meant = some final) ∧
      ∀ last, net.Runs mpi known events last → net.Restored last := by
  refine ⟨⟨?_, ?_⟩, fun last runs => (runs.happens active valid).1⟩
  · rintro ⟨last, runs, rfl⟩
    exact (runs.happens active valid).2
  · rintro ⟨passable, meant, mean, runs⟩
    obtain ⟨last, follows, ends, -⟩ := Network.runs_of_meant valid passable mean runs
    exact ⟨last, follows, ends⟩

/-- In any order of the events of all processes, where nothing is written to a section before its
message has left it: on every channel the elements of the sections arrive that were sent, as they
were when they were sent and in that order, and sending each at once makes no difference. -/
theorem network_delivers {last : Network Party}
    {meant : List (ChannelEvent Party Context Int UInt8)} (active : mpi.seatbelts = true)
    (valid : ∀ event ∈ events, event.Valid mpi net) (separated : net.channels.Separated)
    (mean : events.mapM (NetworkEvent.meaning mpi known) = some meant)
    (careful : net.channels.CarefulRun meant) (runs : net.Runs mpi known events last) :
    (∀ envelope, net.channels.underway envelope ++
        net.channels.logged (Channels.sentBy · envelope) meant =
      net.channels.logged (Channels.arrivedBy · envelope) meant ++
        last.channels.underway envelope) ∧
      net.channels.settled.run (meant.map ChannelEvent.early) = some last.channels.settled := by
  obtain ⟨-, -, same, again, finishes⟩ := runs.happens active valid
  rw [mean] at again
  cases again
  constructor
  · intro envelope
    exact Channels.underway_run separated careful finishes envelope
  · rw [Channels.settled_run separated careful, finishes]
    rfl

end Runs

section Samples

/-- Two processes whose memories hold the low byte of each address. -/
def twoProcesses : Network Nat where
  processes := fun _ => { startProcess with memory := fun location => UInt8.ofNat location.toNat }
  sends := fun _ => []
  receives := fun _ => []

def bothKnown : KnownCommunicators Nat :=
  fun _ _ => some { context := 0, group := { members := [0, 1], distinct := by decide } }

/-- Process 0 sends every second integer to process 1, which receives them side by side. -/
def stridedMessage : List (NetworkEvent Nat) := [
  .call { party := 0, transfer := .isend, desc := integers 4096 2 8, count := 2
          datatypeF := fortranInteger, peer := 1, tag := 7, commF := 0, status := 16 },
  .call { party := 1, transfer := .irecv, desc := integers 8192 2 4, count := 2
          datatypeF := fortranInteger, peer := 0, tag := 7, commF := 0, status := 16 },
  .transfer ⟨0, 1, (0, 7)⟩]

private theorem stridedMessage_valid :
    ∀ event ∈ stridedMessage, event.Valid mpich twoProcesses := by
  intro event member
  simp only [stridedMessage, List.mem_cons, List.not_mem_nil, or_false] at member
  rcases member with rfl | rfl | rfl
  · exact ⟨predefinedTypes_basic, integers_matches (by decide)⟩
  · exact ⟨predefinedTypes_basic, integers_matches (by decide)⟩
  · trivial

private theorem stridedMessage_passable :
    ∀ event ∈ stridedMessage, event.Passable mpich twoProcesses := by
  intro event member
  simp only [stridedMessage, List.mem_cons, List.not_mem_nil, or_false] at member
  rcases member with rfl | rfl | rfl
  · exact fun _ => integers_accepted 4096 8 (by decide) (by decide)
  · exact fun _ => integers_accepted 8192 4 (by decide) (by decide)
  · trivial

theorem network_runs_strided : ∃ last, twoProcesses.Runs mpich bothKnown stridedMessage last ∧
    (span 8192 8).map (last.processes 1).memory =
      (span 4096 4 ++ span 4104 4).map (twoProcesses.processes 0).memory := by
  obtain ⟨last, runs, same⟩ := (@network_runs_iff Nat mpich bothKnown twoProcesses
    stridedMessage _ _ rfl stridedMessage_valid).1.mpr ⟨stridedMessage_passable, _, rfl, rfl⟩
  refine ⟨last, runs, ?_⟩
  have memory : (last.processes 1).memory = last.channels.memory 1 := rfl
  rw [memory, same]
  decide

private theorem twoProcesses_separated : twoProcesses.channels.Separated := by
  rintro party location ⟨envelope, locations, -, member, -⟩
  cases member

/-- What the events of `stridedMessage` mean. -/
def stridedMeaning : List (ChannelEvent Nat Context Int UInt8) := [
  .isend ⟨0, 1, (0, 7)⟩ (span 4096 4 ++ span 4104 4), .irecv ⟨0, 1, (0, 7)⟩ (span 8192 8),
  .transfer ⟨0, 1, (0, 7)⟩]

private theorem stridedMeaning_careful : twoProcesses.channels.CarefulRun stridedMeaning := by
  refine ⟨?_, fun next moves => ⟨?_, fun _ _ => ⟨trivial, fun _ _ => trivial⟩⟩⟩
  · rintro location - ⟨envelope, locations, -, member, -⟩
    cases member
  · -- the only message under way lies with process 0
    cases moves
    rintro location - lying
    rcases Channels.lying_of_enqueue lying with ⟨envelope, locations, -, member, -⟩ | ⟨other, -⟩
    · cases member
    · cases other

theorem network_delivers_strided : ∃ last,
    twoProcesses.Runs mpich bothKnown stridedMessage last ∧
      twoProcesses.channels.logged (Channels.arrivedBy · ⟨0, 1, (0, 7)⟩) stridedMeaning ++
          last.channels.underway ⟨0, 1, (0, 7)⟩ =
        [(span 4096 4 ++ span 4104 4).map (twoProcesses.processes 0).memory] := by
  obtain ⟨last, runs, -, -⟩ := @Network.runs_of_meant Nat mpich bothKnown twoProcesses
    stridedMessage _ _ _ stridedMessage_valid stridedMessage_passable rfl rfl
  refine ⟨last, runs, ?_⟩
  rw [← (network_delivers rfl stridedMessage_valid twoProcesses_separated rfl
    stridedMeaning_careful runs).1 ⟨0, 1, (0, 7)⟩]
  decide

end Samples

end Vapaa
