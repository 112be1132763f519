import Vapaa.Foundation.Exchange
import Vapaa.SectionArguments

/-!
# Block collectives over sections

Gather, allgather, scatter and alltoall, as calls of all ranks of a communicator. Each
rank passes its buffers to the library, which moves the blocks.
-/

set_option autoImplicit false

namespace Vapaa

open Foundation

/-- Byte addresses of one block of a buffer with a block for every rank. -/
def Buffer.block (buffer : Buffer) (b : Nat) : List Int :=
  match buffer.object with
  | some object =>
      object.layout.locations (buffer.address + b * (buffer.count * object.layout.extent))
        buffer.count.toNat
  | none => []

inductive BlockCollective where
  | gather (root : Nat)
  | allgather
  | scatter (root : Nat)
  | alltoall
  deriving DecidableEq, Repr

namespace BlockCollective

def run (mpi : Mpi) (reply : Reply) (input : CDesc) (scount stypeF : Int) (output : CDesc)
    (rcount rtypeF commF : Int) : BlockCollective → Wrapper Int
  | gather root => cfiMpiGather mpi reply input scount stypeF output rcount rtypeF root commF
  | allgather => cfiMpiAllgather mpi reply input scount stypeF output rcount rtypeF commF
  | scatter root => cfiMpiScatter mpi reply input scount stypeF output rcount rtypeF root commF
  | alltoall => cfiMpiAlltoall mpi reply input scount stypeF output rcount rtypeF commF

def communicate (reply : Reply) (collective : BlockCollective)
    (inAddr inCount inType outAddr outCount outType comm : Int) : Wrapper Int :=
  match collective with
  | gather root => mpiGather reply inAddr inCount inType outAddr outCount outType root comm
  | allgather => mpiAllgather reply inAddr inCount inType outAddr outCount outType comm
  | scatter root => mpiScatter reply inAddr inCount inType outAddr outCount outType root comm
  | alltoall => mpiAlltoall reply inAddr inCount inType outAddr outCount outType comm

def issued (input output : Buffer) (comm : Int) : BlockCollective → Issued
  | gather root => .gather input output root comm
  | allgather => .allgather input output comm
  | scatter root => .scatter input output root comm
  | alltoall => .alltoall input output comm

/-- Ranks with the ranks that they send a block to. -/
def messages (ranks : Nat) : BlockCollective → List (Nat × Nat)
  | gather root => (List.range ranks).map fun sender => (sender, root)
  | allgather => (List.range ranks).product (List.range ranks)
  | scatter root => (List.range ranks).map fun receiver => (root, receiver)
  | alltoall => (List.range ranks).product (List.range ranks)

/-- The block of the sender's input that goes to a rank. -/
def inputBlock (receiver : Nat) : BlockCollective → Nat
  | gather _ => 0
  | allgather => 0
  | scatter _ => receiver
  | alltoall => receiver

/-- The block of the receiver's output that comes from a rank. -/
def outputBlock (sender : Nat) : BlockCollective → Nat
  | gather _ => sender
  | allgather => sender
  | scatter _ => 0
  | alltoall => sender

/-- Elements of the input section that the call reaches. -/
def inputReach (ranks count : Nat) : BlockCollective → Nat
  | gather _ => count
  | allgather => count
  | scatter _ => ranks * count
  | alltoall => ranks * count

/-- Elements of the output section that the call reaches. -/
def outputReach (ranks count : Nat) : BlockCollective → Nat
  | gather _ => ranks * count
  | allgather => ranks * count
  | scatter _ => count
  | alltoall => ranks * count

/-- What the library moves, given the buffers of all ranks. -/
def moves (ranks : Nat) (inputs outputs : Nat → Buffer) (collective : BlockCollective) :
    Memory.Plan (Nat × Int) :=
  exchange (collective.messages ranks)
    (fun message => (inputs message.1).block (collective.inputBlock message.2))
    (fun message => (outputs message.2).block (collective.outputBlock message.1))

end BlockCollective

namespace CDesc

/-- Byte addresses of the elements of one block of a section, in array element order. -/
def blockBytes (desc : CDesc) (count b : Nat) : List Int :=
  ((List.range count).map fun j => desc.address (b * count + j)).flatMap fun address =>
    span address desc.elemLen

/-- The distance of consecutive copies of a datatype for the first elements. -/
def naturalExtent (desc : CDesc) (count : Nat) : Int :=
  if count = 0 then 0
  else Layout.spread ((List.range count).map desc.displacement) + desc.elemLen

/-- Where the library finds an element of a block. -/
def placed (mpi : Mpi) (desc : CDesc) (count b j : Nat) : Int :=
  if mpi.cfiIsContiguous desc = 1 then desc.baseAddr + b * (count * desc.elemLen) + j * desc.elemLen
  else desc.baseAddr + b * desc.naturalExtent count + desc.displacement j

end CDesc

/-- What all ranks together intend. -/
def BlockCollective.intended (ranks count : Nat) (inputs outputs : Nat → CDesc)
    (collective : BlockCollective) : Memory.Plan (Nat × Int) :=
  exchange (collective.messages ranks)
    (fun message => (inputs message.1).blockBytes count (collective.inputBlock message.2))
    (fun message => (outputs message.2).blockBytes count (collective.outputBlock message.1))

section Sides

variable {mpi : Mpi} {desc : CDesc} {process : Process} {count reach : Nat} {datatype : Int}
variable {before after later : TypeStore} {passed : Int × Int}

/-- What one side of a collective passes, and the datatypes that are there then. -/
def CDesc.Opened (mpi : Mpi) (desc : CDesc) (count : Nat) (datatype : Int)
    (before after : TypeStore) (passed : Int × Int) : Prop :=
  if mpi.cfiIsContiguous desc = 1 then after = before ∧ passed = ((count : Int), datatype)
  else passed.1 = 1 ∧ desc.Described count before after passed.2

theorem openSide_of_scattered (scattered : mpi.cfiIsContiguous desc ≠ 1) {elements : Int} :
    openSide mpi desc elements datatype =
      openSubarray mpi desc elements datatype datatype fun sideType => return (1, sideType) := by
  rw [openSide, if_neg scattered]
  rfl

private theorem openSide_opened (basic : process.world.types.Basic mpi)
    (argument : desc.Matches mpi process.world.types datatype reach)
    (passable : mpi.cfiIsContiguous desc ≠ 1 → desc.Accepted mpi process.world.types count) :
    ∃ passed opened,
      openSide mpi desc count datatype process =
        .returned (passed, { process with world := opened }) ∧
      desc.Opened mpi count datatype process.world.types opened.types passed := by
  by_cases contiguous : mpi.cfiIsContiguous desc = 1
  · refine ⟨(count, datatype), process.world, ?_, ?_⟩
    · rw [openSide, if_pos contiguous]
      rfl
    · rw [CDesc.Opened, if_pos contiguous]
      exact ⟨rfl, rfl⟩
  · obtain ⟨handle, opened, described, opens⟩ :=
      openSubarray_of_accepted datatype basic argument (passable contiguous)
    refine ⟨(1, handle), opened, ?_, ?_⟩
    · rw [openSide_of_scattered contiguous, opens]
      rfl
    · rw [CDesc.Opened, if_neg contiguous]
      exact ⟨rfl, described⟩

/-- With assertions, nothing follows a side that cannot be passed. -/
theorem openSide_of_rejected (basic : process.world.types.Basic mpi)
    (argument : desc.Matches mpi process.world.types datatype reach)
    (active : mpi.seatbelts = true) (scattered : mpi.cfiIsContiguous desc ≠ 1)
    (rejected : ¬ desc.Accepted mpi process.world.types count) :
    Run.Ensures (openSide mpi desc count datatype) process fun _ _ => False := by
  rw [openSide_of_scattered scattered]
  exact openSubarray_of_rejected datatype basic argument active rejected _

/-- The datatype that was made for a section is freed, and no other. -/
theorem closeSide_closes {sideType : Int}
    (live : mpi.cfiIsContiguous desc ≠ 1 → ∃ layout committed,
      process.world.types.object sideType =
        some { combiner := .derived, layout := layout, committed := committed }) :
    ∃ world, closeSide mpi desc sideType process = .returned ((), { process with world := world }) ∧
      ∀ handle, mpi.cfiIsContiguous desc = 1 ∨ handle ≠ sideType →
        world.types.object handle = process.world.types.object handle := by
  by_cases contiguous : mpi.cfiIsContiguous desc = 1
  · refine ⟨process.world, ?_, fun handle _ => rfl⟩
    rw [closeSide, if_pos contiguous]
    rfl
  · obtain ⟨layout, committed, live⟩ := live contiguous
    refine ⟨{ process.world with types := process.world.types.remove sideType }, ?_, ?_⟩
    · have closed := @closeSubarray_of_live Unit mpi process sideType layout committed live (pure ())
      simp only [closeSubarray, bind_pure_unit] at closed
      rw [closeSide, if_neg contiguous]
      exact closed
    · rintro handle (lying | different)
      · exact absurd lying contiguous
      · exact TypeStore.remove_object_of_ne _ different

namespace CDesc.Opened

theorem extended (opened : desc.Opened mpi count datatype before after passed) :
    before.Extends after := by
  rw [CDesc.Opened] at opened
  split_ifs at opened with contiguous
  · rw [opened.1]
    exact TypeStore.Extends.refl before
  · obtain ⟨layout, creates⟩ := opened.2.creates
    exact creates.extended

theorem live (opened : desc.Opened mpi count datatype before after passed)
    (scattered : mpi.cfiIsContiguous desc ≠ 1) : ∃ object, after.object passed.2 = some object := by
  rw [CDesc.Opened, if_neg scattered] at opened
  obtain ⟨layout, creates⟩ := opened.2.creates
  exact ⟨_, creates.live⟩

theorem unused (opened : desc.Opened mpi count datatype before after passed)
    (scattered : mpi.cfiIsContiguous desc ≠ 1) : before.object passed.2 = none := by
  rw [CDesc.Opened, if_neg scattered] at opened
  obtain ⟨layout, creates⟩ := opened.2.creates
  exact creates.unused

private theorem extent_copies {element : Layout} (solid : element.Solid desc.elemLen) :
    (element.copies ((List.range count).map desc.displacement)).extent =
      desc.naturalExtent count := by
  have none : (List.range count).map desc.displacement = [] ↔ count = 0 := by simp
  simp only [Layout.copies, CDesc.naturalExtent, none, solid.extent_eq]

/-- The library finds the elements of a block where the extent of the passed datatype
puts them. -/
theorem block (opened : desc.Opened mpi count datatype before after passed)
    (argument : desc.Matches mpi before datatype reach)
    (kept : ∀ handle object, after.object handle = some object →
      later.object handle = some object) (b : Nat) :
    (later.buffer desc.baseAddr passed.1 passed.2).block b =
      ((List.range count).map (desc.placed mpi count b)).flatMap fun address =>
        span address desc.elemLen := by
  rw [CDesc.Opened] at opened
  split_ifs at opened with contiguous
  · obtain ⟨object, live, -, -, solid⟩ := argument.fills
    obtain ⟨rfl, rfl⟩ := opened
    simp only [Buffer.block, TypeStore.buffer, kept _ _ live, Layout.locations, solid.bytes_eq,
      solid.extent_eq, map_add_span, CDesc.placed, if_pos contiguous, List.flatMap_map]
    simp
  · obtain ⟨single, element, solid, creates⟩ := opened
    simp only [Buffer.block, TypeStore.buffer, kept _ _ creates.live, single, Layout.locations,
      solid.bytes_copies, extent_copies solid]
    simp [CDesc.placed, contiguous, List.map_flatMap, List.flatMap_map, map_add_span]

theorem closes (opened : desc.Opened mpi count datatype before after passed)
    (kept : mpi.cfiIsContiguous desc ≠ 1 →
      process.world.types.object passed.2 = after.object passed.2) :
    ∃ world, closeSide mpi desc passed.2 process = .returned ((), { process with world := world }) ∧
      ∀ handle, mpi.cfiIsContiguous desc = 1 ∨ handle ≠ passed.2 →
        world.types.object handle = process.world.types.object handle := by
  refine closeSide_closes fun scattered => ?_
  rw [CDesc.Opened, if_neg scattered] at opened
  obtain ⟨layout, creates⟩ := opened.2.creates
  exact ⟨layout, true, (kept scattered).trans creates.live⟩

end CDesc.Opened

end Sides

/-- The arguments of one rank, with its process and what the library answers there. -/
structure BlockArguments where
  input : CDesc
  stypeF : Int
  output : CDesc
  rtypeF : Int
  commF : Int
  process : Process
  reply : Reply

namespace BlockArguments

/-- Sections of elements of one length, with datatypes that match them, and addresses
that are not the sentinel for `MPI_IN_PLACE`. -/
structure Valid (mpi : Mpi) (collective : BlockCollective) (ranks count length : Nat)
    (arguments : BlockArguments) : Prop where
  basic : arguments.process.world.types.Basic mpi
  coded : mpi.Codes arguments.reply.rc
  sends : arguments.input.Matches mpi arguments.process.world.types
    (cMpiTypeF2c mpi arguments.stypeF) (collective.inputReach ranks count)
  receives : arguments.output.Matches mpi arguments.process.world.types
    (cMpiTypeF2c mpi arguments.rtypeF) (collective.outputReach ranks count)
  inputLength : arguments.input.elemLen = length
  outputLength : arguments.output.elemLen = length
  inputHere : arguments.input.baseAddr ≠ arguments.process.sentinels.inPlace
  outputHere : arguments.output.baseAddr ≠ arguments.process.sentinels.inPlace

/-- Each section that is not passed as it lies is one that the builder accepts. -/
def Passable (mpi : Mpi) (count : Nat) (arguments : BlockArguments) : Prop :=
  (mpi.cfiIsContiguous arguments.input ≠ 1 →
      arguments.input.Accepted mpi arguments.process.world.types count) ∧
    (mpi.cfiIsContiguous arguments.output ≠ 1 →
      arguments.output.Accepted mpi arguments.process.world.types count)

def run (mpi : Mpi) (collective : BlockCollective) (count : Nat) (arguments : BlockArguments) :
    Wrapper Int :=
  collective.run mpi arguments.reply arguments.input count arguments.stypeF arguments.output count
    arguments.rtypeF arguments.commF

end BlockArguments

section Ranks

variable {mpi : Mpi} {collective : BlockCollective} {ranks count length : Nat}
variable {arguments : BlockArguments}

theorem BlockCollective.run_eq (mpi : Mpi) (reply : Reply) (input output : CDesc)
    (scount stypeF rcount rtypeF commF : Int) (collective : BlockCollective) :
    collective.run mpi reply input scount stypeF output rcount rtypeF commF =
      blockCollective mpi input scount stypeF output rcount rtypeF commF
        (collective.communicate reply) := by
  cases collective <;> rfl

theorem BlockCollective.communicate_apply (reply : Reply)
    (inAddr inCount inType outAddr outCount outType comm : Int) (process : Process)
    (collective : BlockCollective) :
    collective.communicate reply inAddr inCount inType outAddr outCount outType comm process =
      .returned (reply.rc, { process with
        issued := process.issued ++ [collective.issued
          (process.world.types.buffer inAddr inCount inType)
          (process.world.types.buffer outAddr outCount outType) comm] }) := by
  cases collective <;> rfl

private theorem inPlaceArgument_of_ne {process : Process} {address : Int}
    (here : address ≠ process.sentinels.inPlace) :
    inPlaceArgument mpi address process = .returned (address, process) := by
  rw [inPlaceArgument_apply, if_neg here]

/-- A rank whose sections can be passed asks the library for the collective. -/
theorem BlockArguments.Valid.issues (valid : arguments.Valid mpi collective ranks count length)
    (passable : arguments.Passable mpi count) :
    ∃ input output : Buffer,
      (∃ ierror final, arguments.run mpi collective count arguments.process =
          .returned (ierror, final) ∧
        final.issued = arguments.process.issued ++
          [collective.issued input output (cMpiCommF2c mpi arguments.commF)]) ∧
      (∀ b, input.block b = ((List.range count).map (arguments.input.placed mpi count b)).flatMap
        fun address => span address length) ∧
      (∀ b, output.block b = ((List.range count).map (arguments.output.placed mpi count b)).flatMap
        fun address => span address length) := by
  obtain ⟨passedIn, inWorld, opensIn, openedIn⟩ :=
    openSide_opened valid.basic valid.sends passable.1
  have basic : inWorld.types.Basic mpi := valid.basic.of_extends openedIn.extended
  obtain ⟨passedOut, world, opensOut, openedOut⟩ :=
    @openSide_opened mpi arguments.output { arguments.process with world := inWorld } count
      _ _ basic (valid.receives.of_extends openedIn.extended) fun scattered =>
        (CDesc.accepted_iff_of_extends valid.basic openedIn.extended).mpr (passable.2 scattered)
  obtain ⟨ierror, fixed, fixes, sameTypes⟩ := @cMpiRcFix_returned mpi world _ valid.coded
  let asked : Process := { arguments.process with
    world := fixed
    issued := arguments.process.issued ++ [collective.issued
      (world.types.buffer arguments.input.baseAddr passedIn.1 passedIn.2)
      (world.types.buffer arguments.output.baseAddr passedOut.1 passedOut.2)
      (cMpiCommF2c mpi arguments.commF)] }
  have keptIn (scattered : mpi.cfiIsContiguous arguments.input ≠ 1) :
      fixed.types.object passedIn.2 = inWorld.types.object passedIn.2 := by
    obtain ⟨object, live⟩ := openedIn.live scattered
    rw [sameTypes, openedOut.extended.keeps live, live]
  obtain ⟨freed, closesIn, keeps⟩ := @CDesc.Opened.closes mpi arguments.input asked count _ _ _ _
    openedIn keptIn
  have keptOut (scattered : mpi.cfiIsContiguous arguments.output ≠ 1) :
      freed.types.object passedOut.2 = world.types.object passedOut.2 := by
    rw [← sameTypes]
    apply keeps
    by_cases lying : mpi.cfiIsContiguous arguments.input = 1
    · exact Or.inl lying
    · right
      intro same
      obtain ⟨object, live⟩ := openedIn.live lying
      rw [← same, openedOut.unused scattered] at live
      cases live
  obtain ⟨last, closesOut, -⟩ := @CDesc.Opened.closes mpi arguments.output
    { asked with world := freed } count _ _ _ _ openedOut keptOut
  refine ⟨world.types.buffer arguments.input.baseAddr passedIn.1 passedIn.2,
    world.types.buffer arguments.output.baseAddr passedOut.1 passedOut.2,
    ⟨ierror, { asked with world := last }, ?_, rfl⟩, fun b => ?_, fun b => ?_⟩
  · rw [BlockArguments.run, BlockCollective.run_eq, blockCollective,
      Run.bind_of_returned (inPlaceArgument_of_ne valid.inputHere),
      Run.bind_of_returned (inPlaceArgument_of_ne valid.outputHere),
      Run.bind_of_returned opensIn]
    dsimp only
    rw [Run.bind_of_returned opensOut]
    dsimp only
    rw [Run.bind_of_returned (BlockCollective.communicate_apply _ _ _ _ _ _ _ _ _ _),
      Run.bind_of_returned (call_of_returned fixes), Run.bind_of_returned closesIn,
      Run.bind_of_returned closesOut]
    rfl
  · rw [← valid.inputLength]
    exact openedIn.block valid.sends (fun handle object => openedOut.extended.keeps) b
  · rw [← valid.outputLength]
    exact openedOut.block (valid.receives.of_extends openedIn.extended) (fun handle object live => live) b

/-- With assertions, a rank with a section that cannot be passed does not return. -/
theorem BlockArguments.Valid.never (valid : arguments.Valid mpi collective ranks count length)
    (active : mpi.seatbelts = true) (rejected : ¬ arguments.Passable mpi count) :
    Run.Ensures (arguments.run mpi collective count) arguments.process fun _ _ => False := by
  rw [BlockArguments.run, BlockCollective.run_eq, blockCollective]
  refine Run.ensures_bind_of_returned (inPlaceArgument_of_ne valid.inputHere) ?_
  refine Run.ensures_bind_of_returned (inPlaceArgument_of_ne valid.outputHere) ?_
  by_cases acceptable : mpi.cfiIsContiguous arguments.input ≠ 1 →
      arguments.input.Accepted mpi arguments.process.world.types count
  · obtain ⟨passed, world, opens, opened⟩ :=
      openSide_opened valid.basic valid.sends acceptable
    refine Run.ensures_bind_of_returned opens (Run.ensures_bind_of_never ?_)
    have basic : world.types.Basic mpi := valid.basic.of_extends opened.extended
    by_contra possible
    refine rejected ⟨acceptable, fun scattered => ?_⟩
    by_contra refused
    exact possible (@openSide_of_rejected mpi arguments.output
      { arguments.process with world := world } count _ _ basic
      (valid.receives.of_extends opened.extended) active scattered
      (mt (CDesc.accepted_iff_of_extends valid.basic opened.extended).mp refused))
  · obtain ⟨scattered, refused⟩ := Classical.not_imp.mp acceptable
    exact Run.ensures_bind_of_never
      (openSide_of_rejected valid.basic valid.sends active scattered refused)

end Ranks

namespace BlockCollective

/-- The root is a rank. -/
def Rooted (ranks : Nat) : BlockCollective → Prop
  | gather root => root < ranks
  | allgather => True
  | scatter root => root < ranks
  | alltoall => True

theorem Rooted.messages {collective : BlockCollective} {ranks : Nat}
    (rooted : collective.Rooted ranks) {message : Nat × Nat}
    (member : message ∈ collective.messages ranks) : message.1 < ranks ∧ message.2 < ranks := by
  obtain ⟨sender, receiver⟩ := message
  cases collective with
  | gather root =>
      obtain ⟨rank, below, same⟩ := List.mem_map.mp member
      cases same
      exact ⟨List.mem_range.mp below, rooted⟩
  | allgather => simpa [BlockCollective.messages, List.pair_mem_product] using member
  | scatter root =>
      obtain ⟨rank, below, same⟩ := List.mem_map.mp member
      cases same
      exact ⟨rooted, List.mem_range.mp below⟩
  | alltoall => simpa [BlockCollective.messages, List.pair_mem_product] using member

variable (mpi : Mpi) (ranks count : Nat) (calls : Nat → BlockArguments)

/-- Every rank asks for the collective and returns, and the library moves what all of
them intend. -/
def Performs (collective : BlockCollective) : Prop :=
  ∃ inputs outputs : Nat → Buffer,
    (∀ rank < ranks, ∃ ierror final,
      (calls rank).run mpi collective count (calls rank).process = .returned (ierror, final) ∧
        final.issued = (calls rank).process.issued ++
          [collective.issued (inputs rank) (outputs rank)
            (cMpiCommF2c mpi (calls rank).commF)]) ∧
      Memory.Realizes UInt8 (collective.moves ranks inputs outputs)
        (collective.intended ranks count (fun rank => (calls rank).input)
          fun rank => (calls rank).output)

/-- Wherever two ranks exchange a block, the elements that the library finds at the
extents of the passed datatypes are those of the block, up to their order. -/
def Aligned (collective : BlockCollective) : Prop :=
  ∀ message ∈ collective.messages ranks,
    ((List.range count).map fun j =>
      ((calls message.1).input.placed mpi count (collective.inputBlock message.2) j,
        (calls message.2).output.placed mpi count (collective.outputBlock message.1) j)).Perm
    ((List.range count).map fun j =>
      ((calls message.1).input.address (collective.inputBlock message.2 * count + j),
        (calls message.2).output.address (collective.outputBlock message.1 * count + j)))

end BlockCollective

section Exchanges

private theorem asked_once {run : Wrapper Int} {process : Process} {collective : BlockCollective}
    {comm : Int} {input output otherInput otherOutput : Buffer}
    (asks : ∃ ierror final, run process = .returned (ierror, final) ∧
      final.issued = process.issued ++ [collective.issued input output comm])
    (alsoAsks : ∃ ierror final, run process = .returned (ierror, final) ∧
      final.issued = process.issued ++ [collective.issued otherInput otherOutput comm]) :
    input = otherInput ∧ output = otherOutput := by
  obtain ⟨ierror, final, returned, issued⟩ := asks
  obtain ⟨other, last, alsoReturned, alsoIssued⟩ := alsoAsks
  rw [returned] at alsoReturned
  cases alsoReturned
  have same := List.singleton_inj.mp (List.append_cancel_left (issued.symm.trans alsoIssued))
  cases collective <;> cases same <;> exact ⟨rfl, rfl⟩

variable {mpi : Mpi} {collective : BlockCollective} {ranks count length : Nat}
variable {calls : Nat → BlockArguments}

theorem realizes_iff_aligned {inputs outputs : Nat → Buffer} (rooted : collective.Rooted ranks)
    (valid : ∀ rank < ranks, (calls rank).Valid mpi collective ranks count length)
    (separate : (collective.intended ranks count (fun rank => (calls rank).input)
      fun rank => (calls rank).output).Separate)
    (reads : ∀ rank < ranks, ∀ b, (inputs rank).block b =
      ((List.range count).map ((calls rank).input.placed mpi count b)).flatMap fun address =>
        span address length)
    (writes : ∀ rank < ranks, ∀ b, (outputs rank).block b =
      ((List.range count).map ((calls rank).output.placed mpi count b)).flatMap fun address =>
        span address length) :
    Memory.Realizes UInt8 (collective.moves ranks inputs outputs)
        (collective.intended ranks count (fun rank => (calls rank).input)
          fun rank => (calls rank).output) ↔
      collective.Aligned mpi ranks count calls := by
  have found : ∀ message ∈ collective.messages ranks,
      ((inputs message.1).block (collective.inputBlock message.2)).zip
          ((outputs message.2).block (collective.outputBlock message.1)) =
        ((List.range count).map fun j =>
          ((calls message.1).input.placed mpi count (collective.inputBlock message.2) j,
            (calls message.2).output.placed mpi count (collective.outputBlock message.1)
              j)).flatMap (diagonal length) := by
    intro message member
    obtain ⟨sender, receiver⟩ := rooted.messages member
    rw [reads _ sender, writes _ receiver, List.flatMap_map, List.flatMap_map, zip_spans]
  have meant : ∀ message ∈ collective.messages ranks,
      ((calls message.1).input.blockBytes count (collective.inputBlock message.2)).zip
          ((calls message.2).output.blockBytes count (collective.outputBlock message.1)) =
        ((List.range count).map fun j =>
          ((calls message.1).input.address (collective.inputBlock message.2 * count + j),
            (calls message.2).output.address (collective.outputBlock message.1 * count
              + j))).flatMap (diagonal length) := by
    intro message member
    obtain ⟨sender, receiver⟩ := rooted.messages member
    rw [CDesc.blockBytes, CDesc.blockBytes, (valid _ sender).inputLength,
      (valid _ receiver).outputLength, List.flatMap_map, List.flatMap_map, zip_spans]
  have nontrivial : Nontrivial UInt8 := ⟨0, 1, by decide⟩
  rw [BlockCollective.moves, BlockCollective.intended, realizes_exchange_iff separate]
  · refine forall₂_congr fun message member => ?_
    have positive : 0 < length := by
      have sender := valid _ (rooted.messages member).1
      rw [← sender.inputLength]
      exact sender.sends.positive
    rw [found message member, meant message member, diagonals_perm_iff positive]
  · intro message member
    have lengths := congrArg List.length (found message member)
    have same := congrArg List.length (meant message member)
    simp only [List.length_flatMap, diagonal, List.length_map, List.length_range, List.map_map,
      Function.comp_def, List.map_const', List.sum_replicate] at lengths same
    exact lengths.trans same.symm

private theorem performs_of_aligned (rooted : collective.Rooted ranks)
    (valid : ∀ rank < ranks, (calls rank).Valid mpi collective ranks count length)
    (separate : (collective.intended ranks count (fun rank => (calls rank).input)
      fun rank => (calls rank).output).Separate)
    (passable : ∀ rank < ranks, (calls rank).Passable mpi count)
    (aligned : collective.Aligned mpi ranks count calls) :
    collective.Performs mpi ranks count calls := by
  choose! inputs outputs returns reads writes using fun rank below =>
    (valid rank below).issues (passable rank below)
  exact ⟨inputs, outputs, returns,
    (realizes_iff_aligned rooted valid separate reads writes).mpr aligned⟩

private theorem passable_of_performs (active : mpi.seatbelts = true)
    (valid : ∀ rank < ranks, (calls rank).Valid mpi collective ranks count length)
    (performs : collective.Performs mpi ranks count calls) :
    ∀ rank < ranks, (calls rank).Passable mpi count := by
  obtain ⟨inputs, outputs, returns, -⟩ := performs
  intro rank below
  by_contra rejected
  obtain ⟨ierror, final, returned, -⟩ := returns rank below
  exact (valid rank below).never active rejected ierror final returned

private theorem aligned_of_performs (rooted : collective.Rooted ranks)
    (valid : ∀ rank < ranks, (calls rank).Valid mpi collective ranks count length)
    (separate : (collective.intended ranks count (fun rank => (calls rank).input)
      fun rank => (calls rank).output).Separate)
    (passable : ∀ rank < ranks, (calls rank).Passable mpi count)
    (performs : collective.Performs mpi ranks count calls) :
    collective.Aligned mpi ranks count calls := by
  obtain ⟨inputs, outputs, returns, realizes⟩ := performs
  refine (realizes_iff_aligned rooted valid separate ?_ ?_).mp realizes
  · intro rank below
    obtain ⟨input, output, asks, reads, -⟩ := (valid rank below).issues (passable rank below)
    rw [(asked_once (returns rank below) asks).1]
    exact reads
  · intro rank below
    obtain ⟨input, output, asks, -, writes⟩ := (valid rank below).issues (passable rank below)
    rw [(asked_once (returns rank below) asks).2]
    exact writes

/-- The block collectives place the blocks of a section that is not contiguous at the
extent of a datatype for its first elements: every rank returns, and the library moves
what is intended, only where the builder accepts all such sections and these places are
those of the blocks. -/
theorem blockCollective_performs (rooted : collective.Rooted ranks)
    (valid : ∀ rank < ranks, (calls rank).Valid mpi collective ranks count length)
    (separate : (collective.intended ranks count (fun rank => (calls rank).input)
      fun rank => (calls rank).output).Separate) :
    ((∀ rank < ranks, (calls rank).Passable mpi count) ∧
        collective.Aligned mpi ranks count calls →
      collective.Performs mpi ranks count calls) ∧
    (mpi.seatbelts = true → collective.Performs mpi ranks count calls →
      (∀ rank < ranks, (calls rank).Passable mpi count) ∧
        collective.Aligned mpi ranks count calls) := by
  constructor
  · rintro ⟨passable, aligned⟩
    exact performs_of_aligned rooted valid separate passable aligned
  · intro active performs
    have passable := passable_of_performs active valid performs
    exact ⟨passable, aligned_of_performs rooted valid separate passable performs⟩

end Exchanges

section Samples

/-- The same call on every rank. -/
def gatherIntegers (input output : CDesc) : BlockArguments where
  input := input
  stypeF := fortranInteger
  output := output
  rtypeF := fortranInteger
  commF := 0
  process := startProcess
  reply := successfulReply

private theorem gatherIntegers_valid {ranks count inputCount outputCount : Nat}
    {inputAddr outputAddr inputStride outputStride : Int} (inputHere : inputAddr ≠ 48)
    (outputHere : outputAddr ≠ 48)
    (inputLies : mpich.cfiIsContiguous (integers inputAddr inputCount inputStride) = 1 →
      (integers inputAddr inputCount inputStride).Consecutive count)
    (outputLies : mpich.cfiIsContiguous (integers outputAddr outputCount outputStride) = 1 →
      (integers outputAddr outputCount outputStride).Consecutive (ranks * count)) :
    (gatherIntegers (integers inputAddr inputCount inputStride)
      (integers outputAddr outputCount outputStride)).Valid mpich (.gather 0) ranks count 4 where
  basic := predefinedTypes_basic
  coded := Or.inl rfl
  sends := integers_matches inputLies
  receives := integers_matches outputLies
  inputLength := rfl
  outputLength := rfl
  inputHere := inputHere
  outputHere := outputHere

/-- Each of two ranks sends one integer to every second place at the root: the block of
rank 1 arrives in the gap. -/
theorem blockCollective_performs_gap :
    ¬ (BlockCollective.gather 0).Performs mpich 2 1 fun _ =>
      gatherIntegers (integers 4096 1 4) (integers 8192 2 8) := by
  intro performs
  have valid : ∀ rank < 2, (gatherIntegers (integers 4096 1 4) (integers 8192 2 8)).Valid mpich
      (.gather 0) 2 1 4 := fun _ _ =>
    gatherIntegers_valid (by decide) (by decide) (by decide) (by decide)
  have passable := passable_of_performs rfl valid performs
  have rooted : (BlockCollective.gather 0).Rooted 2 := Nat.two_pos
  have aligned := aligned_of_performs rooted valid ⟨by decide, by decide⟩ passable performs
  have second := aligned (1, 0) (by decide)
  exact absurd second (by decide)

/-- Every second integer of each of two ranks arrives at the root. -/
theorem blockCollective_performs_strided :
    (BlockCollective.gather 0).Performs mpich 2 2 fun _ =>
      gatherIntegers (integers 4096 2 8) (integers 8192 4 4) := by
  refine (@blockCollective_performs mpich (.gather 0) 2 2 4 (fun _ =>
    gatherIntegers (integers 4096 2 8) (integers 8192 4 4)) Nat.two_pos (fun _ _ =>
    gatherIntegers_valid (by decide) (by decide) (by decide) (by decide))
    ⟨by decide, by decide⟩).1 ⟨fun _ _ => ⟨fun _ => ?_, fun scattered => ?_⟩, ?_⟩
  · exact integers_accepted 4096 8 (by decide) (by decide)
  · exact absurd rfl scattered
  · rw [BlockCollective.Aligned]
    decide

end Samples

end Vapaa
