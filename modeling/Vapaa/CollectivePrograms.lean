import Vapaa.BlockCollectives
import Vapaa.TemporaryTypes

/-!
# Programs of collectives

Broadcasts and block collectives over sections, one after another, each called by all ranks.
-/

set_option autoImplicit false

namespace Vapaa

open Foundation

/-- An array argument with its datatype. -/
structure TypedSection where
  desc : CDesc
  datatypeF : Int

inductive CollectiveArguments where
  | bcast (root : Nat) (sections : Nat → TypedSection)
  | block (collective : BlockCollective) (inputs outputs : Nat → TypedSection)

/-- A collective call, with the arguments of every rank. -/
structure CollectiveCall where
  count : Nat
  commF : Nat → Int
  arguments : CollectiveArguments

section Library

/-- The library accepts what it is asked for. -/
def accepting (mpi : Mpi) : Reply := { successfulReply with rc := mpi.errorClass .success }

def Issued.input (issued : Issued) : Buffer := issued.buffers.headD default

def Issued.output (issued : Issued) : Buffer := issued.buffers.getLastD default

/-- The root sends to each of the other ranks. -/
def broadcastMessages (ranks root : Nat) : List (Nat × Nat) :=
  ((List.range ranks).filter fun rank => rank ≠ root).map fun rank => (root, rank)

/-- What the library moves when all ranks have asked for the same collective. -/
def libraryMoves (ranks : Nat) (asked : Nat → Issued) : Memory.Plan (Nat × Int) :=
  let block (collective : BlockCollective) :=
    collective.moves ranks (fun rank => (asked rank).input) fun rank => (asked rank).output
  match asked 0 with
  | .bcast _ root _ =>
      exchange (broadcastMessages ranks root.toNat) (fun message => (asked message.1).input.locations)
        fun message => (asked message.2).input.locations
  | .gather _ _ root _ => block (.gather root.toNat)
  | .allgather _ _ _ => block .allgather
  | .scatter _ _ root _ => block (.scatter root.toNat)
  | .alltoall _ _ _ => block .alltoall
  | _ => []

/-- The memories of all ranks. -/
def joint (processes : Nat → Process) : Memory (Nat × Int) UInt8 := fun place =>
  (processes place.1).memory place.2

end Library

namespace CollectiveCall

variable (mpi : Mpi) (ranks : Nat) (processes : Nat → Process) (collectiveCall : CollectiveCall)

def blockArguments (inputs outputs : Nat → TypedSection) (rank : Nat) : BlockArguments where
  input := (inputs rank).desc
  stypeF := (inputs rank).datatypeF
  output := (outputs rank).desc
  rtypeF := (outputs rank).datatypeF
  commF := collectiveCall.commF rank
  process := processes rank
  reply := accepting mpi

/-- The call of one rank. -/
def run (rank : Nat) : Wrapper Int :=
  let { count, commF, arguments } := collectiveCall
  match arguments with
  | .bcast root sections =>
      cfiMpiBcast mpi (accepting mpi) (sections rank).desc count (sections rank).datatypeF root
        (commF rank)
  | .block collective inputs outputs =>
      collective.run mpi (accepting mpi) (inputs rank).desc count (inputs rank).datatypeF
        (outputs rank).desc count (outputs rank).datatypeF (commF rank)

/-- What all ranks together intend: elements move in array element order. -/
def intended : Memory.Plan (Nat × Int) :=
  let { count, arguments, .. } := collectiveCall
  match arguments with
  | .bcast root sections =>
      exchange (broadcastMessages ranks root)
        (fun message => (sections message.1).desc.elementBytes count)
        fun message => (sections message.2).desc.elementBytes count
  | .block collective inputs outputs =>
      collective.intended ranks count (fun rank => (inputs rank).desc) fun rank => (outputs rank).desc

/-- The root is a rank, and each rank passes sections of elements of one length with datatypes that
match them. -/
def Valid (length : Nat) : Prop :=
  match collectiveCall.arguments with
  | .bcast root sections => root < ranks ∧ ∀ rank < ranks,
      (processes rank).world.types.Basic mpi ∧
        (sections rank).desc.Matches mpi (processes rank).world.types
          (cMpiTypeF2c mpi (sections rank).datatypeF) collectiveCall.count
  | .block collective inputs outputs => collective.Rooted ranks ∧ ∀ rank < ranks,
      (collectiveCall.blockArguments mpi processes inputs outputs rank).Valid mpi collective ranks
        collectiveCall.count length

/-- Every section lies contiguous, or the builder accepts it. -/
def Passable : Prop :=
  match collectiveCall.arguments with
  | .bcast _ sections => ∀ rank < ranks, mpi.cfiIsContiguous (sections rank).desc ≠ 1 →
      (sections rank).desc.Accepted mpi (processes rank).world.types collectiveCall.count
  | .block _ inputs outputs => ∀ rank < ranks,
      (collectiveCall.blockArguments mpi processes inputs outputs rank).Passable mpi
        collectiveCall.count

/-- The blocks are where the library looks for them, and no two arrive at one place. -/
def Placed : Prop :=
  match collectiveCall.arguments with
  | .bcast _ _ => True
  | .block collective inputs outputs =>
      (collectiveCall.intended ranks).Separate ∧
        collective.Aligned mpi ranks collectiveCall.count
          (collectiveCall.blockArguments mpi processes inputs outputs)

/-- All ranks call and return, and the library moves what they have asked for. -/
inductive Performed (before : Nat → Process) : (Nat → Process) → Prop where
  | intro (asked : Nat → Issued) (returned : Nat → Process)
      (ierror : Nat → Int)
      (returns : ∀ rank < ranks, collectiveCall.run mpi rank (before rank) =
        .returned (ierror rank, returned rank))
      (asks : ∀ rank < ranks, (returned rank).issued = (before rank).issued ++ [asked rank])
      (outside : ∀ rank, ranks ≤ rank → returned rank = before rank) :
      Performed before fun rank => { returned rank with
        memory := fun address =>
          (joint returned).copyAll (libraryMoves ranks asked) (rank, address) }

/-- The calls of a program are performed one after another. -/
inductive Program (mpi : Mpi) (ranks : Nat) :
    (Nat → Process) → List CollectiveCall → (Nat → Process) → Prop where
  | nil {processes : Nat → Process} : Program mpi ranks processes [] processes
  | cons {before middle after : Nat → Process} {collectiveCall : CollectiveCall}
      {calls : List CollectiveCall} (first : collectiveCall.Performed mpi ranks before middle)
      (rest : Program mpi ranks middle calls after) :
      Program mpi ranks before (collectiveCall :: calls) after

end CollectiveCall

section Frame

variable {α β : Type} {mpi : Mpi} {process : Process}

/-- What a process has besides its datatypes and its calls of the library. -/
structure Frame (before after : Process) : Prop where
  memory : after.memory = before.memory
  sentinels : after.sentinels = before.sentinels

def KeepsFrame (run : Wrapper α) : Prop :=
  ∀ process, Run.Ensures run process fun _ final => Frame process final

private theorem keepsFrame_call (run : Call α) : KeepsFrame (call run) := by
  intro process value final returned
  obtain ⟨world, -, rfl⟩ := Run.zoom_eq_returned.mp returned
  exact ⟨rfl, rfl⟩

private theorem keepsFrame_pure (value : α) : KeepsFrame (pure value : Wrapper α) :=
  fun _ => Run.ensures_pure ⟨rfl, rfl⟩

theorem KeepsFrame.bind {run : Wrapper α} {next : α → Wrapper β} (first : KeepsFrame run)
    (rest : ∀ value, KeepsFrame (next value)) : KeepsFrame (run >>= next) := by
  intro process
  refine (first process).bind ?_
  intro value middle kept
  exact (rest value middle).mono fun _ _ later =>
    ⟨later.memory.trans kept.memory, later.sentinels.trans kept.sentinels⟩

private theorem keepsFrame_openSide (desc : CDesc) (count datatype : Int) :
    KeepsFrame (openSide mpi desc count datatype) := by
  rw [openSide]
  split_ifs
  · exact keepsFrame_pure _
  · exact (keepsFrame_call _).bind fun _ => (keepsFrame_call _).bind fun _ =>
      (keepsFrame_call _).bind fun _ => (keepsFrame_call _).bind fun _ => keepsFrame_pure _

private theorem keepsFrame_closeSide (desc : CDesc) (sideType : Int) :
    KeepsFrame (closeSide mpi desc sideType) := by
  rw [closeSide]
  split_ifs
  · exact keepsFrame_pure _
  · exact (keepsFrame_call _).bind fun _ => keepsFrame_call _

private theorem keepsFrame_inPlaceArgument (address : Int) :
    KeepsFrame (inPlaceArgument mpi address) :=
  fun process => Run.ensures_of_returned (inPlaceArgument_apply mpi address process) ⟨rfl, rfl⟩

/-- A block collective moves no data by itself. -/
theorem BlockCollective.keepsFrame_run (reply : Reply) (input output : CDesc)
    (scount stypeF rcount rtypeF commF : Int) (collective : BlockCollective) :
    KeepsFrame (collective.run mpi reply input scount stypeF output rcount rtypeF commF) := by
  rw [BlockCollective.run_eq, blockCollective]
  refine (keepsFrame_inPlaceArgument _).bind fun inAddr => ?_
  refine (keepsFrame_inPlaceArgument _).bind fun outAddr => ?_
  refine (keepsFrame_openSide _ _ _).bind fun inPassed => ?_
  refine (keepsFrame_openSide _ _ _).bind fun outPassed => ?_
  refine KeepsFrame.bind (fun process => Run.ensures_of_returned
    (BlockCollective.communicate_apply _ _ _ _ _ _ _ _ _ _) ⟨rfl, rfl⟩) fun _ => ?_
  exact (keepsFrame_call _).bind fun _ => (keepsFrame_closeSide _ _).bind fun _ =>
    (keepsFrame_closeSide _ _).bind fun _ => keepsFrame_pure _

/-- With assertions, a block collective that returns leaves the datatypes as they were. -/
theorem BlockCollective.restores_run (active : mpi.seatbelts = true) (reply : Reply)
    (input output : CDesc) (scount stypeF rcount rtypeF commF : Int)
    (collective : BlockCollective) :
    Run.Ensures (collective.run mpi reply input scount stypeF output rcount rtypeF commF) process
      fun _ final => process.world.types.Restored final.world.types := by
  rw [BlockCollective.run_eq]
  refine (blockCollective_clean active fun inAddr inCount inType outAddr outCount outType comm
    during => Run.ensures_of_returned
      (BlockCollective.communicate_apply _ _ _ _ _ _ _ _ _ _) ⟨rfl, _, rfl, ?_⟩).mono ?_
  · cases collective <;> rfl
  · intro ierror final clean
    obtain ⟨_, _, _, lent, -⟩ := clean.lent
    exact lent.restored

end Frame

section Ranks

variable {mpi : Mpi} {ranks length : Nat} {before : Nat → Process} {rank : Nat}
variable {collectiveCall : CollectiveCall}

/-- What the library is asked for by a rank. -/
def CollectiveCall.Asks (mpi : Mpi) (length : Nat) (collectiveCall : CollectiveCall) (rank : Nat)
    (asked : Issued) : Prop :=
  let comm := cMpiCommF2c mpi (collectiveCall.commF rank)
  match collectiveCall.arguments with
  | .bcast root sections => ∃ buffer, asked = .bcast buffer root comm ∧
      buffer.locations = (sections rank).desc.elementBytes collectiveCall.count
  | .block collective inputs outputs => ∃ input output,
      asked = collective.issued input output comm ∧
        (∀ b, input.block b = ((List.range collectiveCall.count).map
          ((inputs rank).desc.placed mpi collectiveCall.count b)).flatMap fun address =>
            span address length) ∧
        ∀ b, output.block b = ((List.range collectiveCall.count).map
          ((outputs rank).desc.placed mpi collectiveCall.count b)).flatMap fun address =>
            span address length

/-- A rank asks the library for the collective, and has all else as before. -/
structure CollectiveCall.Asked (mpi : Mpi) (length : Nat) (collectiveCall : CollectiveCall)
    (rank : Nat) (process final : Process) (asked : Issued) : Prop where
  issued : final.issued = process.issued ++ [asked]
  asks : collectiveCall.Asks mpi length rank asked
  frame : Frame process final
  restored : process.world.types.Restored final.world.types

private theorem cfiMpiBcast_passes {process : Process} {desc : CDesc} {count : Nat}
    {datatypeF : Int}
    (root commF : Int) (basic : process.world.types.Basic mpi)
    (argument : desc.Matches mpi process.world.types (cMpiTypeF2c mpi datatypeF) count)
    (passable : mpi.cfiIsContiguous desc ≠ 1 → desc.Accepted mpi process.world.types count) :
    ∃ buffer final, buffer.locations = desc.elementBytes count ∧
      cfiMpiBcast mpi (accepting mpi) desc count datatypeF root commF process =
        .returned (mpi.errorClass .success, final) ∧
      final.issued = process.issued ++ [.bcast buffer root (cMpiCommF2c mpi commF)] ∧
      Frame process final ∧ process.world.types.Restored final.world.types := by
  obtain ⟨passedCount, passedType, opened, carries, passes⟩ :=
    @withSection_passes Int mpi desc process count _ basic argument passable
  obtain ⟨world, returned, restored⟩ := passes
    (fun buffer count datatype =>
      mpiBcast (accepting mpi) buffer count datatype root (cMpiCommF2c mpi commF)) _ _ rfl rfl
  exact ⟨_, _, carries.locations_eq,
    (Run.bind_of_returned returned).trans (call_of_returned (cMpiRcFix_success _)), rfl,
    ⟨rfl, rfl⟩, restored⟩

theorem CollectiveCall.asked_of_passable (active : mpi.seatbelts = true)
    (valid : collectiveCall.Valid mpi ranks before length)
    (passable : collectiveCall.Passable mpi ranks before) (below : rank < ranks) :
    ∃ ierror final asked, collectiveCall.run mpi rank (before rank) = .returned (ierror, final) ∧
      collectiveCall.Asked mpi length rank (before rank) final asked := by
  obtain ⟨count, commF, arguments⟩ := collectiveCall
  cases arguments with
  | bcast root sections =>
      obtain ⟨basic, argument⟩ := valid.2 rank below
      obtain ⟨buffer, final, locations, returned, issued, frame, restored⟩ :=
        cfiMpiBcast_passes root (commF rank) basic argument (passable rank below)
      exact ⟨_, final, _, returned, issued, ⟨buffer, rfl, locations⟩, frame, restored⟩
  | block collective inputs outputs =>
      obtain ⟨input, output, ⟨ierror, final, returned, issued⟩, reads, writes⟩ :=
        (valid.2 rank below).issues (passable rank below)
      exact ⟨ierror, final, _, returned, issued, ⟨input, output, rfl, reads, writes⟩,
        BlockCollective.keepsFrame_run _ _ _ _ _ _ _ _ _ _ _ _ returned,
        BlockCollective.restores_run active _ _ _ _ _ _ _ _ _ _ _ returned⟩

/-- With assertions, every rank that returns had sections that can be passed. -/
theorem CollectiveCall.passable_of_returns (active : mpi.seatbelts = true)
    (valid : collectiveCall.Valid mpi ranks before length) {ierror : Nat → Int}
    {returned : Nat → Process}
    (returns : ∀ rank < ranks, collectiveCall.run mpi rank (before rank) =
      .returned (ierror rank, returned rank)) : collectiveCall.Passable mpi ranks before := by
  obtain ⟨count, commF, arguments⟩ := collectiveCall
  cases arguments with
  | bcast root sections =>
      intro rank below scattered
      by_contra rejected
      obtain ⟨basic, argument⟩ := valid.2 rank below
      have never : Run.Ensures (cfiMpiBcast mpi (accepting mpi) (sections rank).desc count
          (sections rank).datatypeF root (commF rank)) (before rank) fun _ _ => False :=
        Run.ensures_bind_of_never
          (withSection_of_rejected basic argument active scattered rejected _)
      exact never _ _ (returns rank below)
  | block collective inputs outputs =>
      intro rank below
      by_contra rejected
      exact (valid.2 rank below).never active rejected _ _ (returns rank below)

end Ranks

section Moves

variable {mpi : Mpi} {ranks length : Nat} {before after : Nat → Process} {asked : Nat → Issued}
variable {collectiveCall : CollectiveCall}

private theorem mem_broadcastMessages {root : Nat} {message : Nat × Nat} :
    message ∈ broadcastMessages ranks root ↔
      message.1 = root ∧ message.2 < ranks ∧ message.2 ≠ root := by
  obtain ⟨sender, receiver⟩ := message
  simp only [broadcastMessages, List.mem_map, List.mem_filter, List.mem_range, Prod.mk.injEq,
    decide_eq_true_eq]
  constructor
  · rintro ⟨rank, ⟨below, other⟩, rfl, rfl⟩
    exact ⟨rfl, below, other⟩
  · rintro ⟨rfl, below, other⟩
    exact ⟨receiver, ⟨below, other⟩, rfl, rfl⟩

private theorem libraryMoves_block {collective : BlockCollective} {inputs outputs : Nat → Buffer}
    {comms : Nat → Int} (positive : 0 < ranks) (rooted : collective.Rooted ranks)
    (asks : ∀ rank < ranks, asked rank =
      collective.issued (inputs rank) (outputs rank) (comms rank)) :
    libraryMoves ranks asked = collective.moves ranks inputs outputs := by
  have buffers (rank : Nat) (below : rank < ranks) :
      (asked rank).input = inputs rank ∧ (asked rank).output = outputs rank := by
    rw [asks rank below]
    cases collective <;> exact ⟨rfl, rfl⟩
  have moves : libraryMoves ranks asked = collective.moves ranks (fun rank => (asked rank).input)
      fun rank => (asked rank).output := by
    rw [libraryMoves, asks 0 positive]
    cases collective <;> rfl
  rw [moves, BlockCollective.moves, BlockCollective.moves]
  refine exchange_congr (fun message member => ?_) fun message member => ?_
  · rw [(buffers _ (rooted.messages member).1).1]
  · rw [(buffers _ (rooted.messages member).2).2]

/-- Where all ranks ask for the call, the library moves what they intend. -/
theorem CollectiveCall.moves_intended (positive : 0 < ranks)
    (valid : collectiveCall.Valid mpi ranks before length)
    (placed : collectiveCall.Placed mpi ranks before)
    (asks : ∀ rank < ranks, collectiveCall.Asks mpi length rank (asked rank)) :
    Memory.SameEffect UInt8 (libraryMoves ranks asked) (collectiveCall.intended ranks) := by
  obtain ⟨count, commF, arguments⟩ := collectiveCall
  cases arguments with
  | bcast root sections =>
      choose! buffers requests locations using asks
      have moves : libraryMoves ranks asked = exchange (broadcastMessages ranks root)
          (fun message => (asked message.1).input.locations)
          fun message => (asked message.2).input.locations := by
        rw [libraryMoves, requests 0 positive]
        rfl
      have same : libraryMoves ranks asked = exchange (broadcastMessages ranks root)
          (fun message => (sections message.1).desc.elementBytes count)
          fun message => (sections message.2).desc.elementBytes count := by
        rw [moves]
        refine exchange_congr (fun message member => ?_) fun message member => ?_
        · have below : message.1 < ranks := (mem_broadcastMessages.mp member).1 ▸ valid.1
          rw [requests _ below]
          exact locations _ below
        · have below := (mem_broadcastMessages.mp member).2.1
          rw [requests _ below]
          exact locations _ below
      intro memory
      exact congrArg memory.copyAll same
  | block collective inputs outputs =>
      choose! ins outs requests reads writes using asks
      obtain ⟨separate, aligned⟩ := placed
      rw [libraryMoves_block positive valid.1 requests]
      exact (Memory.realizes_iff_sameEffect separate.distinct).mp
        ((realizes_iff_aligned valid.1 valid.2 separate reads writes).mpr aligned)

end Moves

section Programs

variable {mpi : Mpi} {ranks length : Nat} {before after : Nat → Process}
variable {collectiveCall : CollectiveCall} {calls : List CollectiveCall}

/-- Every rank has the datatypes and the sentinels that it had. -/
structure RankRestored (before after : Process) : Prop where
  types : before.world.types.Restored after.world.types
  sentinels : after.sentinels = before.sentinels

theorem RankRestored.refl (process : Process) : RankRestored process process :=
  ⟨TypeStore.Restored.refl _, rfl⟩

theorem RankRestored.trans {first second third : Process} (left : RankRestored first second)
    (right : RankRestored second third) : RankRestored first third :=
  ⟨left.types.trans right.types, right.sentinels.trans left.sentinels⟩

/-- A performed call moves what its ranks intend. -/
theorem CollectiveCall.Performed.moves (active : mpi.seatbelts = true) (positive : 0 < ranks)
    (performed : collectiveCall.Performed mpi ranks before after)
    (valid : collectiveCall.Valid mpi ranks before length)
    (placed : collectiveCall.Placed mpi ranks before) :
    (∀ rank, RankRestored (before rank) (after rank)) ∧
      joint after = (joint before).copyAll (collectiveCall.intended ranks) := by
  obtain ⟨asked, returned, ierror, returns, asks, outside⟩ := performed
  have passable := collectiveCall.passable_of_returns active valid returns
  have all (rank : Nat) (below : rank < ranks) :
      collectiveCall.Asked mpi length rank (before rank) (returned rank) (asked rank) := by
    obtain ⟨code, final, request, again, wanted⟩ :=
      collectiveCall.asked_of_passable active valid passable below
    rw [returns rank below] at again
    cases again
    have issued := wanted.issued
    rw [asks rank below] at issued
    rw [List.singleton_inj.mp (List.append_cancel_left issued)]
    exact wanted
  have unchanged (rank : Nat) : Frame (before rank) (returned rank) ∧
      (before rank).world.types.Restored (returned rank).world.types := by
    by_cases below : rank < ranks
    · exact ⟨(all rank below).frame, (all rank below).restored⟩
    · rw [outside rank (not_lt.mp below)]
      exact ⟨⟨rfl, rfl⟩, TypeStore.Restored.refl _⟩
  refine ⟨fun rank => ⟨(unchanged rank).2, (unchanged rank).1.sentinels⟩, ?_⟩
  have start : joint returned = joint before := by
    funext place
    rw [joint, (unchanged place.1).1.memory, joint]
  have effect := collectiveCall.moves_intended positive valid placed
    fun rank below => (all rank below).asks
  rw [← effect, ← start]
  rfl

theorem CollectiveCall.performed_of_passable (active : mpi.seatbelts = true)
    (valid : collectiveCall.Valid mpi ranks before length)
    (passable : collectiveCall.Passable mpi ranks before) :
    ∃ after, collectiveCall.Performed mpi ranks before after := by
  have someProcess : Nonempty Process := ⟨before 0⟩
  have someCall : Nonempty Issued := ⟨.probe 0 0 0⟩
  have all (rank : Nat) (below : rank < ranks) :=
    @CollectiveCall.asked_of_passable mpi ranks length before rank collectiveCall active valid
      passable below
  choose! ierror final asked returns wanted using all
  let returned (rank : Nat) : Process := if rank < ranks then final rank else before rank
  refine ⟨_, .intro asked returned ierror (fun rank below => ?_) (fun rank below => ?_)
    fun rank above => if_neg (not_lt.mpr above)⟩
  · rw [returns rank below, show returned rank = final rank from if_pos below]
  · rw [show returned rank = final rank from if_pos below, (wanted rank below).issued]

theorem CollectiveCall.Valid.restored (valid : collectiveCall.Valid mpi ranks before length)
    (restored : ∀ rank, RankRestored (before rank) (after rank)) :
    collectiveCall.Valid mpi ranks after length := by
  obtain ⟨count, commF, arguments⟩ := collectiveCall
  cases arguments with
  | bcast root sections =>
      refine ⟨valid.1, fun rank below => ?_⟩
      obtain ⟨basic, argument⟩ := valid.2 rank below
      exact ⟨basic.of_restored (restored rank).types, argument.of_restored (restored rank).types⟩
  | block collective inputs outputs =>
      refine ⟨valid.1, fun rank below => ?_⟩
      have here := valid.2 rank below
      have sentinels := (restored rank).sentinels
      exact {
        basic := here.basic.of_restored (restored rank).types
        coded := here.coded
        sends := here.sends.of_restored (restored rank).types
        receives := here.receives.of_restored (restored rank).types
        inputLength := here.inputLength
        outputLength := here.outputLength
        inputHere := sentinels.symm ▸ here.inputHere
        outputHere := sentinels.symm ▸ here.outputHere }

theorem CollectiveCall.passable_iff_of_restored
    (restored : ∀ rank, RankRestored (before rank) (after rank)) :
    collectiveCall.Passable mpi ranks after ↔ collectiveCall.Passable mpi ranks before := by
  have accepted (rank : Nat) (desc : CDesc) :
      desc.Accepted mpi (after rank).world.types collectiveCall.count ↔
        desc.Accepted mpi (before rank).world.types collectiveCall.count :=
    CDesc.accepted_iff_of_restored (restored rank).types
  obtain ⟨count, commF, arguments⟩ := collectiveCall
  cases arguments with
  | bcast root sections =>
      exact forall₂_congr fun rank _ => imp_congr_right fun _ => accepted rank _
  | block collective inputs outputs =>
      exact forall₂_congr fun rank _ => and_congr (imp_congr_right fun _ => accepted rank _)
        (imp_congr_right fun _ => accepted rank _)

theorem CollectiveCall.Program.moves (active : mpi.seatbelts = true) (positive : 0 < ranks)
    (program : CollectiveCall.Program mpi ranks before calls after)
    (valid : ∀ collectiveCall ∈ calls, ∃ length, collectiveCall.Valid mpi ranks before length)
    (placed : ∀ collectiveCall ∈ calls, collectiveCall.Placed mpi ranks before) :
    (∀ collectiveCall ∈ calls, collectiveCall.Passable mpi ranks before) ∧
      (∀ rank, RankRestored (before rank) (after rank)) ∧
      joint after =
        (calls.map (CollectiveCall.intended ranks)).foldl Memory.copyAll (joint before) := by
  induction program with
  | nil => exact ⟨by simp, fun rank => RankRestored.refl _, rfl⟩
  | @cons before middle after collectiveCall calls first rest ih =>
      obtain ⟨length, here⟩ := valid collectiveCall List.mem_cons_self
      obtain ⟨restored, moved⟩ := first.moves active positive here
        (placed collectiveCall List.mem_cons_self)
      obtain ⟨passable, others, finishes⟩ := ih
        (fun other member => (valid other (List.mem_cons_of_mem _ member)).imp fun _ same =>
          same.restored restored)
        fun other member => placed other (List.mem_cons_of_mem _ member)
      obtain ⟨asked, returned, ierror, returns, -⟩ := first
      refine ⟨?_, fun rank => (restored rank).trans (others rank), ?_⟩
      · intro other member
        cases List.mem_cons.mp member with
        | inl same => exact same ▸ collectiveCall.passable_of_returns active here returns
        | inr among =>
            exact (CollectiveCall.passable_iff_of_restored restored).mp (passable other among)
      · rw [finishes, moved]
        rfl

theorem CollectiveCall.program_of_passable (active : mpi.seatbelts = true) (positive : 0 < ranks)
    (valid : ∀ collectiveCall ∈ calls, ∃ length, collectiveCall.Valid mpi ranks before length)
    (placed : ∀ collectiveCall ∈ calls, collectiveCall.Placed mpi ranks before)
    (passable : ∀ collectiveCall ∈ calls, collectiveCall.Passable mpi ranks before) :
    ∃ after, CollectiveCall.Program mpi ranks before calls after := by
  induction calls generalizing before with
  | nil => exact ⟨before, .nil⟩
  | cons collectiveCall calls ih =>
      obtain ⟨length, here⟩ := valid collectiveCall List.mem_cons_self
      obtain ⟨middle, first⟩ := collectiveCall.performed_of_passable active here
        (passable collectiveCall List.mem_cons_self)
      obtain ⟨restored, -⟩ := first.moves active positive here
        (placed collectiveCall List.mem_cons_self)
      obtain ⟨after, rest⟩ := @ih middle
        (fun other member => (valid other (List.mem_cons_of_mem _ member)).imp fun _ same =>
          same.restored restored)
        (fun other member => placed other (List.mem_cons_of_mem _ member))
        fun other member => (CollectiveCall.passable_iff_of_restored restored).mpr
          (passable other (List.mem_cons_of_mem _ member))
      exact ⟨after, .cons first rest⟩

/-- Programs of broadcasts and block collectives over sections, of any shapes: with assertions, a
program runs to its end exactly when every section lies contiguous or is accepted by the builder,
and where every block is where the library looks for it, the memories of all ranks are then those
that the calls intend, one after another. -/
theorem collectivePrograms_run (active : mpi.seatbelts = true) (positive : 0 < ranks)
    (valid : ∀ collectiveCall ∈ calls, ∃ length, collectiveCall.Valid mpi ranks before length)
    (placed : ∀ collectiveCall ∈ calls, collectiveCall.Placed mpi ranks before) :
    ((∃ after, CollectiveCall.Program mpi ranks before calls after) ↔
      ∀ collectiveCall ∈ calls, collectiveCall.Passable mpi ranks before) ∧
    ∀ after, CollectiveCall.Program mpi ranks before calls after →
      (∀ rank, RankRestored (before rank) (after rank)) ∧
        joint after =
          (calls.map (CollectiveCall.intended ranks)).foldl Memory.copyAll (joint before) := by
  refine ⟨⟨?_, CollectiveCall.program_of_passable active positive valid placed⟩, ?_⟩
  · rintro ⟨after, program⟩
    exact (program.moves active positive valid placed).1
  · intro after program
    exact (program.moves active positive valid placed).2

end Programs

section Laws

variable {mpi : Mpi} {ranks length count : Nat} {before after : Nat → Process}
variable {inputs middles outputs : Nat → TypedSection} {first second : BlockCollective}
variable {commF otherF : Nat → Int}

/-- A collective that sends every block back to where it came from. -/
inductive BlockCollective.Undoes : BlockCollective → BlockCollective → Prop where
  | scatter (root : Nat) : Undoes (.scatter root) (.gather root)
  | alltoall : Undoes .alltoall .alltoall

theorem BlockCollective.Undoes.messages (undoes : second.Undoes first) {message : Nat × Nat}
    (member : message ∈ first.messages ranks) :
    (message.2, message.1) ∈ second.messages ranks ∧
      first.outputBlock message.1 = second.inputBlock message.1 ∧
      second.outputBlock message.2 = first.inputBlock message.2 := by
  obtain ⟨sender, receiver⟩ := message
  cases undoes with
  | scatter root =>
      obtain ⟨rank, below, same⟩ := List.mem_map.mp member
      cases same
      exact ⟨List.mem_map.mpr ⟨sender, below, rfl⟩, rfl, rfl⟩
  | alltoall =>
      have swapped : (receiver, sender) ∈ (List.range ranks).product (List.range ranks) := by
        have both := List.pair_mem_product.mp member
        exact List.pair_mem_product.mpr ⟨both.2, both.1⟩
      exact ⟨swapped, rfl, rfl⟩

theorem CDesc.length_blockBytes (desc : CDesc) (count b : Nat) :
    (desc.blockBytes count b).length = count * desc.elemLen := by
  simp [blockBytes, List.length_flatMap, Function.comp_def]

theorem CollectiveCall.Valid.lengths
    (valid : CollectiveCall.Valid mpi ranks before ⟨count, commF, .block first inputs outputs⟩ length)
    {rank : Nat} (below : rank < ranks) (b : Nat) :
    ((inputs rank).desc.blockBytes count b).length = count * length ∧
      ((outputs rank).desc.blockBytes count b).length = count * length := by
  have here := valid.2 rank below
  rw [CDesc.length_blockBytes, CDesc.length_blockBytes]
  exact ⟨congrArg _ here.inputLength, congrArg _ here.outputLength⟩

/-- Blocks that are sent somewhere and back arrive as they were, in sections of whatever shape where
they lie as the library looks for them. -/
theorem collectives_undo {last : Nat → Process} (undoes : second.Undoes first)
    (active : mpi.seatbelts = true) (positive : 0 < ranks)
    (valid : CollectiveCall.Valid mpi ranks before ⟨count, commF, .block first inputs middles⟩ length)
    (placed : CollectiveCall.Placed mpi ranks before
      ⟨count, commF, .block first inputs middles⟩)
    (validBack : CollectiveCall.Valid mpi ranks before
      ⟨count, otherF, .block second middles outputs⟩ length)
    (placedBack : CollectiveCall.Placed mpi ranks before
      ⟨count, otherF, .block second middles outputs⟩)
    (program : CollectiveCall.Program mpi ranks before
      [⟨count, commF, .block first inputs middles⟩,
        ⟨count, otherF, .block second middles outputs⟩] last) :
    ∀ message ∈ first.messages ranks,
      ((outputs message.1).desc.blockBytes count (first.inputBlock message.2)).map
          (last message.1).memory =
        ((inputs message.1).desc.blockBytes count (first.inputBlock message.2)).map
          (before message.1).memory := by
  intro message member
  obtain ⟨-, -, moved⟩ := program.moves active positive
    (List.forall_mem_cons.mpr ⟨⟨length, valid⟩, List.forall_mem_singleton.mpr ⟨length, validBack⟩⟩)
    (List.forall_mem_cons.mpr ⟨placed, List.forall_mem_singleton.mpr placedBack⟩)
  obtain ⟨back, sameBlock, ownBlock⟩ := undoes.messages member
  obtain ⟨sender, receiver⟩ := valid.1.messages member
  let there := first.intended ranks count (fun rank => (inputs rank).desc) fun rank =>
    (middles rank).desc
  let again := second.intended ranks count (fun rank => (middles rank).desc) fun rank =>
    (outputs rank).desc
  have arrived : joint last = ((joint before).copyAll there).copyAll again := moved
  have arrives (rank : Nat) : (last rank).memory = fun address => joint last (rank, address) := rfl
  rw [arrives, arrived]
  calc
    _ = ((middles message.2).desc.blockBytes count (second.inputBlock message.1)).map
          fun address => (joint before).copyAll there (message.2, address) := by
      rw [← ownBlock]
      exact map_copyAll_exchange placedBack.1.distinct back
        ((validBack.lengths receiver _).1.trans (validBack.lengths sender _).2.symm)
    _ = _ := by
      rw [← sameBlock]
      exact map_copyAll_exchange placed.1.distinct member
        ((valid.lengths sender _).1.trans (valid.lengths receiver _).2.symm)

section Allgather

/-- Corresponding elements of two lists have one that corresponds to both. -/
theorem exists_mem_zip {α β γ : Type} {items : List α} {left : List β} {right : List γ}
    {x : β} {y : γ} (paired : (x, y) ∈ left.zip right) (first : items.length = left.length) :
    ∃ item, (item, x) ∈ items.zip left ∧ (item, y) ∈ items.zip right := by
  obtain ⟨i, below, same⟩ := List.mem_iff_getElem.mp paired
  simp only [List.length_zip, List.getElem_zip, Prod.mk.injEq] at below same
  obtain ⟨rfl, rfl⟩ := same
  have inside : i < items.length := by omega
  exact ⟨items[i], List.mem_iff_getElem.mpr ⟨i, by simp only [List.length_zip]; omega, by simp⟩,
    List.mem_iff_getElem.mpr ⟨i, by simp only [List.length_zip]; omega, by simp⟩⟩

/-- The elements of a section with a block for every rank are those of the blocks. -/
theorem CDesc.mem_zip_elementBytes {left right : CDesc} (same : left.elemLen = right.elemLen)
    {bytes : Int × Int} :
    bytes ∈ (left.elementBytes (ranks * count)).zip (right.elementBytes (ranks * count)) ↔
      ∃ b < ranks, bytes ∈ (left.blockBytes count b).zip (right.blockBytes count b) := by
  have whole : (left.elementBytes (ranks * count)).zip (right.elementBytes (ranks * count)) =
      ((List.range (ranks * count)).map fun n => (left.address n, right.address n)).flatMap
        (diagonal left.elemLen) := by
    rw [elementBytes, elementBytes, ← same, List.flatMap_map, List.flatMap_map, zip_spans]
  have parts (b : Nat) : (left.blockBytes count b).zip (right.blockBytes count b) =
      ((List.range count).map fun j =>
        (left.address (b * count + j), right.address (b * count + j))).flatMap
          (diagonal left.elemLen) := by
    rw [blockBytes, blockBytes, ← same, List.flatMap_map, List.flatMap_map, zip_spans]
  simp only [whole, parts, List.mem_flatMap, List.mem_map, List.mem_range]
  constructor
  · rintro ⟨starts, ⟨n, below, rfl⟩, inside⟩
    have positive : 0 < count := Nat.pos_of_ne_zero fun none => by
      rw [none, Nat.mul_zero] at below
      exact absurd below (Nat.not_lt_zero n)
    have split : n / count * count + n % count = n := by
      rw [Nat.mul_comm]
      exact Nat.div_add_mod n count
    refine ⟨n / count, Nat.div_lt_of_lt_mul (by rwa [Nat.mul_comm] at below), _,
      ⟨n % count, Nat.mod_lt _ positive, rfl⟩, ?_⟩
    rwa [split]
  · rintro ⟨b, below, starts, ⟨j, within, rfl⟩, inside⟩
    refine ⟨_, ⟨b * count + j, ?_, rfl⟩, inside⟩
    calc b * count + j < b * count + count := by omega
      _ = (b + 1) * count := (Nat.succ_mul b count).symm
      _ ≤ ranks * count := Nat.mul_le_mul_right _ below

section Plans

variable {root : Nat} {ins outs : Nat → CDesc}

private theorem mem_intended_allgather {sender receiver : Nat} {origin target : Int} :
    ((sender, origin), (receiver, target)) ∈ BlockCollective.allgather.intended ranks count ins outs ↔
      (sender < ranks ∧ receiver < ranks) ∧
        (origin, target) ∈ ((ins sender).blockBytes count 0).zip
          ((outs receiver).blockBytes count sender) := by
  rw [BlockCollective.intended, mem_exchange, BlockCollective.messages, List.pair_mem_product,
    List.mem_range, List.mem_range]
  rfl

private theorem mem_intended_gather {sender receiver : Nat} {origin target : Int} :
    ((sender, origin), (receiver, target)) ∈
        (BlockCollective.gather root).intended ranks count ins outs ↔
      (sender < ranks ∧ receiver = root) ∧
        (origin, target) ∈ ((ins sender).blockBytes count 0).zip
          ((outs receiver).blockBytes count sender) := by
  rw [BlockCollective.intended, mem_exchange, BlockCollective.messages]
  refine and_congr ?_ Iff.rfl
  simp [eq_comm]

/-- What the root broadcasts of a section with a block for every rank, by blocks. -/
theorem mem_intended_bcast (equally : ∀ rank < ranks, (outs rank).elemLen = length)
    (rooted : root < ranks) {sender receiver : Nat} {origin target : Int} :
    ((sender, origin), (receiver, target)) ∈ exchange (broadcastMessages ranks root)
        (fun message => (outs message.1).elementBytes (ranks * count))
        (fun message => (outs message.2).elementBytes (ranks * count)) ↔
      (sender = root ∧ receiver < ranks ∧ receiver ≠ root) ∧ ∃ b < ranks,
        (origin, target) ∈ ((outs root).blockBytes count b).zip
          ((outs receiver).blockBytes count b) := by
  rw [mem_exchange, mem_broadcastMessages]
  refine and_congr_right ?_
  rintro ⟨rfl, below, -⟩
  exact CDesc.mem_zip_elementBytes ((equally _ rooted).trans (equally _ below).symm)

/-- Gathering at a root and broadcasting from there has the effect of gathering everywhere. -/
theorem gather_bcast_sameEffect (rooted : root < ranks)
    (equallyIn : ∀ rank < ranks, (ins rank).elemLen = length)
    (equallyOut : ∀ rank < ranks, (outs rank).elemLen = length)
    (distinct : ((BlockCollective.allgather.intended ranks count ins outs).map Prod.snd).Nodup)
    (memory : Memory (Nat × Int) UInt8) :
    (memory.copyAll ((BlockCollective.gather root).intended ranks count ins outs)).copyAll
        (exchange (broadcastMessages ranks root)
          (fun message => (outs message.1).elementBytes (ranks * count))
          (fun message => (outs message.2).elementBytes (ranks * count))) =
      memory.copyAll (BlockCollective.allgather.intended ranks count ins outs) := by
  have unique {first second : Nat × Int} {place : Nat × Int}
      (left : (first, place) ∈ BlockCollective.allgather.intended ranks count ins outs)
      (right : (second, place) ∈ BlockCollective.allgather.intended ranks count ins outs) :
      first = second :=
    congrArg Prod.fst (List.inj_on_of_nodup_map distinct left right rfl)
  have everywhere {first place : Nat × Int}
      (gathered : (first, place) ∈ (BlockCollective.gather root).intended ranks count ins outs) :
      (first, place) ∈ BlockCollective.allgather.intended ranks count ins outs := by
    obtain ⟨⟨below, atRoot⟩, paired⟩ := mem_intended_gather.mp gathered
    exact mem_intended_allgather.mpr ⟨⟨below, atRoot ▸ rooted⟩, paired⟩
  have lengthIn {rank : Nat} (below : rank < ranks) :
      ((ins rank).blockBytes count 0).length = count * length := by
    rw [CDesc.length_blockBytes, equallyIn rank below]
  have lengthOut {rank : Nat} (b : Nat) (below : rank < ranks) :
      ((outs rank).blockBytes count b).length = count * length := by
    rw [CDesc.length_blockBytes, equallyOut rank below]
  -- what the root holds after the gather
  have atRoot {sender : Nat} {origin target : Int} (below : sender < ranks)
      (paired : (origin, target) ∈ ((ins sender).blockBytes count 0).zip
        ((outs root).blockBytes count sender)) :
      memory.copyAll ((BlockCollective.gather root).intended ranks count ins outs) (root, target) =
        memory (sender, origin) := by
    have copy := mem_intended_gather.mpr ⟨⟨below, rfl⟩, paired⟩
    obtain ⟨other, found, value⟩ :=
      @Memory.copyAll_of_mem _ _ _ memory _ _ (List.mem_map_of_mem (f := Prod.snd) copy)
    rw [value, unique (everywhere found) (everywhere copy)]
  -- whatever the root broadcasts comes from some rank, for all ranks
  have broadcasts {receiver : Nat} {middle target : Int}
      (sent : ((root, middle), (receiver, target)) ∈ exchange (broadcastMessages ranks root)
        (fun message => (outs message.1).elementBytes (ranks * count))
        (fun message => (outs message.2).elementBytes (ranks * count))) :
      ∃ sender origin, ((sender, origin), (receiver, target)) ∈
          BlockCollective.allgather.intended ranks count ins outs ∧
        memory.copyAll ((BlockCollective.gather root).intended ranks count ins outs)
          (root, middle) = memory (sender, origin) := by
    obtain ⟨⟨-, below, -⟩, b, within, paired⟩ := (mem_intended_bcast equallyOut rooted).mp sent
    obtain ⟨origin, first, second⟩ :=
      exists_mem_zip paired ((lengthIn within).trans (lengthOut b rooted).symm)
    exact ⟨b, origin, mem_intended_allgather.mpr ⟨⟨within, below⟩, second⟩, atRoot within first⟩
  funext place
  obtain ⟨rank, address⟩ := place
  by_cases inside : (rank, address) ∈
      (BlockCollective.allgather.intended ranks count ins outs).map Prod.snd
  · obtain ⟨⟨⟨sender, origin⟩, -⟩, member, rfl⟩ := List.mem_map.mp inside
    obtain ⟨⟨below, within⟩, paired⟩ := mem_intended_allgather.mp member
    rw [Memory.copyAll_of_nodup distinct member]
    by_cases here : rank = root
    · subst here
      rw [Memory.copyAll_of_not_mem, atRoot below paired]
      intro written
      obtain ⟨⟨⟨_, _⟩, -⟩, sent, rfl⟩ := List.mem_map.mp written
      exact ((mem_intended_bcast equallyOut rooted).mp sent).1.2.2 rfl
    · obtain ⟨middle, -, both⟩ :=
        exists_mem_zip paired ((lengthOut sender rooted).trans (lengthIn below).symm)
      have sent := (@mem_intended_bcast ranks length count root outs equallyOut rooted _ _ _ _).mpr
        ⟨⟨rfl, within, here⟩, sender, below, both⟩
      obtain ⟨⟨_, other⟩, found, value⟩ := @Memory.copyAll_of_mem _ _ _
        (memory.copyAll ((BlockCollective.gather root).intended ranks count ins outs)) _ _
        (List.mem_map_of_mem (f := Prod.snd) sent)
      obtain rfl := ((mem_intended_bcast equallyOut rooted).mp found).1.1
      obtain ⟨_, _, copy, same⟩ := broadcasts found
      rw [value, same, unique copy member]
  · rw [Memory.copyAll_of_not_mem inside, Memory.copyAll_of_not_mem, Memory.copyAll_of_not_mem]
    · intro gathered
      obtain ⟨⟨first, -⟩, found, rfl⟩ := List.mem_map.mp gathered
      exact inside (List.mem_map_of_mem (f := Prod.snd) (everywhere found))
    · intro written
      obtain ⟨⟨⟨_, middle⟩, -⟩, sent, rfl⟩ := List.mem_map.mp written
      obtain rfl := ((mem_intended_bcast equallyOut rooted).mp sent).1.1
      obtain ⟨sender, origin, copy, -⟩ := broadcasts sent
      exact inside (List.mem_map_of_mem (f := Prod.snd) copy)

/-- A gather at a root and a broadcast from there do what one allgather does. -/
theorem gather_bcast_allgather {root : Nat} {once twice : Nat → Process} {thirdF : Nat → Int}
    (active : mpi.seatbelts = true) (positive : 0 < ranks)
    (validGather : CollectiveCall.Valid mpi ranks before
      ⟨count, commF, .block (.gather root) inputs outputs⟩ length)
    (placedGather : CollectiveCall.Placed mpi ranks before
      ⟨count, commF, .block (.gather root) inputs outputs⟩)
    (validBcast : CollectiveCall.Valid mpi ranks before
      ⟨ranks * count, otherF, .bcast root outputs⟩ length)
    (validAllgather : CollectiveCall.Valid mpi ranks before
      ⟨count, thirdF, .block .allgather inputs outputs⟩ length)
    (placedAllgather : CollectiveCall.Placed mpi ranks before
      ⟨count, thirdF, .block .allgather inputs outputs⟩)
    (gathers : CollectiveCall.Program mpi ranks before
      [⟨count, commF, .block (.gather root) inputs outputs⟩,
        ⟨ranks * count, otherF, .bcast root outputs⟩] twice)
    (allgathers : CollectiveCall.Program mpi ranks before
      [⟨count, thirdF, .block .allgather inputs outputs⟩] once) :
    joint twice = joint once := by
  obtain ⟨-, -, two⟩ := gathers.moves active positive
    (List.forall_mem_cons.mpr
      ⟨⟨length, validGather⟩, List.forall_mem_singleton.mpr ⟨length, validBcast⟩⟩)
    (List.forall_mem_cons.mpr ⟨placedGather, List.forall_mem_singleton.mpr trivial⟩)
  obtain ⟨-, -, one⟩ := allgathers.moves active positive
    (List.forall_mem_singleton.mpr ⟨length, validAllgather⟩)
    (List.forall_mem_singleton.mpr placedAllgather)
  rw [two, one]
  exact gather_bcast_sameEffect validGather.1
    (fun rank below => (validAllgather.2 rank below).inputLength)
    (fun rank below => (validAllgather.2 rank below).outputLength) placedAllgather.1.distinct
    (joint before)

end Plans

end Allgather

end Laws

section Samples

/-- The same array of integers on every rank. -/
def everyRank (baseAddr : Int) (count : Nat) (stride : Int) : Nat → TypedSection := fun _ =>
  { desc := integers baseAddr count stride, datatypeF := fortranInteger }

def sameStart : Nat → Process := fun _ => startProcess

def blockOfIntegers (collective : BlockCollective) (count : Nat) (inputs outputs : Nat → TypedSection) :
    CollectiveCall where
  count := count
  commF := fun _ => 0
  arguments := .block collective inputs outputs

theorem blockOfIntegers_valid {collective : BlockCollective}
    {ranks count inputCount outputCount : Nat}
    {inputAddr outputAddr inputStride outputStride : Int} (rooted : collective.Rooted ranks)
    (inputHere : inputAddr ≠ 48) (outputHere : outputAddr ≠ 48)
    (inputLies : mpich.cfiIsContiguous (integers inputAddr inputCount inputStride) = 1 →
      (integers inputAddr inputCount inputStride).Consecutive (collective.inputReach ranks count))
    (outputLies : mpich.cfiIsContiguous (integers outputAddr outputCount outputStride) = 1 →
      (integers outputAddr outputCount outputStride).Consecutive
        (collective.outputReach ranks count)) :
    (blockOfIntegers collective count (everyRank inputAddr inputCount inputStride)
      (everyRank outputAddr outputCount outputStride)).Valid mpich ranks sameStart 4 :=
  ⟨rooted, fun _ _ => {
    basic := predefinedTypes_basic
    coded := Or.inl rfl
    sends := integers_matches inputLies
    receives := integers_matches outputLies
    inputLength := rfl
    outputLength := rfl
    inputHere := inputHere
    outputHere := outputHere }⟩

private theorem blockOfIntegers_passable {collective : BlockCollective}
    {ranks count inputCount outputCount : Nat}
    {inputAddr outputAddr inputStride outputStride : Int} (small : inputCount ≤ 1000)
    (smallToo : outputCount ≤ 1000) (covered : count ≤ inputCount)
    (coveredToo : count ≤ outputCount) :
    (blockOfIntegers collective count (everyRank inputAddr inputCount inputStride)
      (everyRank outputAddr outputCount outputStride)).Passable mpich ranks sameStart :=
  fun _ _ => ⟨fun _ => integers_accepted _ _ small covered,
    fun _ => integers_accepted _ _ smallToo coveredToo⟩

/-- Two ranks send every second integer to rank 0. -/
def gatherSparse : CollectiveCall :=
  blockOfIntegers (.gather 0) 2 (everyRank 4096 2 8) (everyRank 8192 4 4)

/-- Rank 0 sends them back, to every third place. -/
def scatterSparse : CollectiveCall :=
  blockOfIntegers (.scatter 0) 2 (everyRank 8192 4 4) (everyRank 12288 2 12)

private theorem gatherSparse_valid : gatherSparse.Valid mpich 2 sameStart 4 :=
  blockOfIntegers_valid Nat.two_pos (by decide) (by decide) (by decide) (by decide)

private theorem scatterSparse_valid : scatterSparse.Valid mpich 2 sameStart 4 :=
  blockOfIntegers_valid Nat.two_pos (by decide) (by decide) (by decide) (by decide)

private theorem gatherSparse_placed : gatherSparse.Placed mpich 2 sameStart := by
  refine ⟨⟨by decide, by decide⟩, ?_⟩
  rw [BlockCollective.Aligned]
  decide

private theorem scatterSparse_placed : scatterSparse.Placed mpich 2 sameStart := by
  refine ⟨⟨by decide, by decide⟩, ?_⟩
  rw [BlockCollective.Aligned]
  decide

private theorem sparseProgram_valid : ∀ collectiveCall ∈ [gatherSparse, scatterSparse],
    ∃ length, collectiveCall.Valid mpich 2 sameStart length :=
  List.forall_mem_cons.mpr ⟨⟨4, gatherSparse_valid⟩,
    List.forall_mem_singleton.mpr ⟨4, scatterSparse_valid⟩⟩

private theorem sparseProgram_placed : ∀ collectiveCall ∈ [gatherSparse, scatterSparse],
    collectiveCall.Placed mpich 2 sameStart :=
  List.forall_mem_cons.mpr ⟨gatherSparse_placed, List.forall_mem_singleton.mpr scatterSparse_placed⟩

private theorem sparseProgram_passable : ∀ collectiveCall ∈ [gatherSparse, scatterSparse],
    collectiveCall.Passable mpich 2 sameStart :=
  List.forall_mem_cons.mpr ⟨blockOfIntegers_passable (by decide) (by decide) (by decide) (by decide),
    List.forall_mem_singleton.mpr
      (blockOfIntegers_passable (by decide) (by decide) (by decide) (by decide))⟩

theorem collectivePrograms_run_sparse :
    ∃ after, CollectiveCall.Program mpich 2 sameStart [gatherSparse, scatterSparse] after :=
  (collectivePrograms_run rfl Nat.two_pos sparseProgram_valid sparseProgram_placed).1.mpr
    sparseProgram_passable

theorem collectives_undo_sparse : ∃ after : Nat → Process, ∀ rank < 2,
    ((integers 12288 2 12).blockBytes 2 0).map (after rank).memory =
      ((integers 4096 2 8).blockBytes 2 0).map startProcess.memory := by
  obtain ⟨after, program⟩ := CollectiveCall.program_of_passable rfl Nat.two_pos sparseProgram_valid
    sparseProgram_placed sparseProgram_passable
  refine ⟨after, fun rank below => ?_⟩
  exact collectives_undo (.scatter 0) rfl Nat.two_pos gatherSparse_valid gatherSparse_placed
    scatterSparse_valid scatterSparse_placed program (rank, 0)
    (List.mem_map.mpr ⟨rank, List.mem_range.mpr below, rfl⟩)

/-- One integer of each of two ranks, for all. -/
def gatherOnce (collective : BlockCollective) : CollectiveCall :=
  blockOfIntegers collective 1 (everyRank 4096 1 4) (everyRank 8192 2 4)

def bcastGathered : CollectiveCall where
  count := 2 * 1
  commF := fun _ => 0
  arguments := .bcast 0 (everyRank 8192 2 4)

private theorem gatherOnce_placed (collective : BlockCollective)
    (either : collective = .gather 0 ∨ collective = .allgather) :
    (gatherOnce collective).Placed mpich 2 sameStart := by
  rcases either with rfl | rfl
  · refine ⟨⟨by decide, by decide⟩, ?_⟩
    rw [BlockCollective.Aligned]
    decide
  · refine ⟨⟨by decide, by decide⟩, ?_⟩
    rw [BlockCollective.Aligned]
    decide

theorem gather_bcast_allgather_integers : ∃ twice once,
    CollectiveCall.Program mpich 2 sameStart [gatherOnce (.gather 0), bcastGathered] twice ∧
      CollectiveCall.Program mpich 2 sameStart [gatherOnce .allgather] once ∧
      joint twice = joint once := by
  have validGather : (gatherOnce (.gather 0)).Valid mpich 2 sameStart 4 :=
    blockOfIntegers_valid Nat.two_pos (by decide) (by decide) (by decide) (by decide)
  have validAllgather : (gatherOnce .allgather).Valid mpich 2 sameStart 4 :=
    blockOfIntegers_valid trivial (by decide) (by decide) (by decide) (by decide)
  have validBcast : bcastGathered.Valid mpich 2 sameStart 4 :=
    ⟨Nat.two_pos, fun _ _ => ⟨predefinedTypes_basic, integers_matches (by decide)⟩⟩
  have passable (collective : BlockCollective) :
      (gatherOnce collective).Passable mpich 2 sameStart :=
    blockOfIntegers_passable (by decide) (by decide) (by decide) (by decide)
  have passableBcast : bcastGathered.Passable mpich 2 sameStart :=
    fun _ _ _ => integers_accepted _ _ (by decide) (by decide)
  obtain ⟨twice, gathers⟩ := CollectiveCall.program_of_passable rfl Nat.two_pos
    (List.forall_mem_cons.mpr ⟨⟨4, validGather⟩, List.forall_mem_singleton.mpr ⟨4, validBcast⟩⟩)
    (List.forall_mem_cons.mpr ⟨gatherOnce_placed _ (Or.inl rfl),
      List.forall_mem_singleton.mpr trivial⟩)
    (List.forall_mem_cons.mpr ⟨passable _, List.forall_mem_singleton.mpr passableBcast⟩)
  obtain ⟨once, allgathers⟩ := CollectiveCall.program_of_passable rfl Nat.two_pos
    (List.forall_mem_singleton.mpr ⟨4, validAllgather⟩)
    (List.forall_mem_singleton.mpr (gatherOnce_placed _ (Or.inr rfl)))
    (List.forall_mem_singleton.mpr (passable _))
  exact ⟨twice, once, gathers, allgathers, gather_bcast_allgather rfl Nat.two_pos validGather
    (gatherOnce_placed _ (Or.inl rfl)) validBcast validAllgather
    (gatherOnce_placed _ (Or.inr rfl)) gathers allgathers⟩

end Samples

end Vapaa
