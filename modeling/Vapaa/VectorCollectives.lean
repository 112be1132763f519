import Vapaa.CollectivePrograms

/-!
# Collectives with parts of different lengths

The v-collectives of `mpi_coll.c`, with descriptors and without: each rank tells the library where
the part of every other rank lies.
-/

set_option autoImplicit false

namespace Vapaa

open Foundation

section Library

/-- Lengths and places of the parts of an array, by rank, in elements. -/
structure Parts where
  counts : Nat → Int
  displs : Nat → Int

structure PartedBuffer where
  address : Int
  object : Option TypeObject
  parts : Parts

def TypeStore.partedBuffer (types : TypeStore) (address : Int) (parts : Parts) (datatype : Int) :
    PartedBuffer where
  address := address
  object := types.object datatype
  parts := parts

def PartedBuffer.part (buffer : PartedBuffer) (rank : Nat) : List Int :=
  match buffer.object with
  | some object =>
      object.layout.locations
        (buffer.address + buffer.parts.displs rank * object.layout.extent)
        (buffer.parts.counts rank).toNat
  | none => []

/-- A v-collective that the library was asked for, with its arguments. -/
inductive VectorRequest where
  | gatherv (input : Buffer) (output : PartedBuffer) (root comm : Int)
  | allgatherv (input : Buffer) (output : PartedBuffer) (comm : Int)
  | scatterv (input : PartedBuffer) (output : Buffer) (root comm : Int)
  | alltoallv (input output : PartedBuffer) (comm : Int)

/-- A process, and the v-collectives it has asked for. -/
structure Vectoring where
  process : Process
  requests : List VectorRequest

abbrev VectorRun := Run Vectoring

/-- What a wrapper does besides. -/
def onVectoring {α : Type} : Wrapper α → VectorRun α :=
  Run.zoom Vectoring.process fun state process => { state with process := process }

def askVector (rc : Int) (request : TypeStore → VectorRequest) : VectorRun Int := fun state =>
  .returned (rc, { state with
    requests := state.requests ++ [request state.process.world.types] })

def mpiGatherv (rc input scount stype output : Int) (received : Parts) (rtype root comm : Int) :
    VectorRun Int :=
  askVector rc fun types =>
    .gatherv (types.buffer input scount stype) (types.partedBuffer output received rtype) root comm

def mpiAllgatherv (rc input scount stype output : Int) (received : Parts) (rtype comm : Int) :
    VectorRun Int :=
  askVector rc fun types =>
    .allgatherv (types.buffer input scount stype) (types.partedBuffer output received rtype) comm

def mpiScatterv (rc input : Int) (sent : Parts) (stype output rcount rtype root comm : Int) :
    VectorRun Int :=
  askVector rc fun types =>
    .scatterv (types.partedBuffer input sent stype) (types.buffer output rcount rtype) root comm

def mpiAlltoallv (rc input : Int) (sent : Parts) (stype output : Int) (received : Parts)
    (rtype comm : Int) : VectorRun Int :=
  askVector rc fun types =>
    .alltoallv (types.partedBuffer input sent stype) (types.partedBuffer output received rtype) comm

variable (mpi : Mpi)

/-- Where a rank has what it sends to another; in place, it is where it would have been received. -/
def VectorRequest.sends (rank receiver : Nat) : VectorRequest → List Int
  | .gatherv input output _ _ | .allgatherv input output _ =>
      if input.address = mpi.inPlace then output.part rank else input.locations
  | .scatterv input _ _ _ => input.part receiver
  | .alltoallv input output _ =>
      if input.address = mpi.inPlace then output.part receiver else input.part receiver

/-- Where a rank receives from another; in place, what it sends to itself stays. -/
def VectorRequest.receives (rank sender : Nat) : VectorRequest → List Int
  | .gatherv _ output _ _ | .allgatherv _ output _ | .alltoallv _ output _ => output.part sender
  | .scatterv input output _ _ =>
      if output.address = mpi.inPlace then input.part rank else output.locations

def VectorRequest.messages (ranks : Nat) : VectorRequest → List (Nat × Nat)
  | .gatherv _ _ root _ => (BlockCollective.gather root.toNat).messages ranks
  | .allgatherv _ _ _ => BlockCollective.allgather.messages ranks
  | .scatterv _ _ root _ => (BlockCollective.scatter root.toNat).messages ranks
  | .alltoallv _ _ _ => BlockCollective.alltoall.messages ranks

/-- What the library moves when all ranks have asked for the same collective. -/
def vectorMoves (ranks : Nat) (asked : Nat → VectorRequest) : Memory.Plan (Nat × Int) :=
  exchange ((asked 0).messages ranks)
    (fun message => (asked message.1).sends mpi message.1 message.2)
    fun message => (asked message.2).receives mpi message.2 message.1

end Library

section Wrappers

variable (mpi : Mpi)

/-- What the wrappers for addresses do around their MPI call. -/
def cVector (input stypeF output rtypeF commF : Int)
    (communicate : Int → Int → Int → Int → Int → VectorRun Int) : VectorRun Int := do
  let stype := cMpiTypeF2c mpi stypeF
  let rtype := cMpiTypeF2c mpi rtypeF
  let comm := cMpiCommF2c mpi commF
  let input ← onVectoring (inPlaceArgument mpi input)
  let output ← onVectoring (inPlaceArgument mpi output)
  let ierror ← communicate input stype output rtype comm
  onVectoring (call (cMpiRcFix mpi ierror))

/-- What the wrappers for descriptors do around their MPI call; a section that is not contiguous
ends in `MPI_Abort`. -/
def cfiVector (input : CDesc) (stypeF : Int) (output : CDesc) (rtypeF commF : Int)
    (communicate : Int → Int → Int → Int → Int → VectorRun Int) : VectorRun Int := do
  let inAddr ← onVectoring (inPlaceArgument mpi input.baseAddr)
  let outAddr ← onVectoring (inPlaceArgument mpi output.baseAddr)
  let stype := cMpiTypeF2c mpi stypeF
  let rtype := cMpiTypeF2c mpi rtypeF
  let comm := cMpiCommF2c mpi commF
  if mpi.cfiIsContiguous input = 1 ∧ mpi.cfiIsContiguous output = 1 then
    let ierror ← communicate inAddr stype outAddr rtype comm
    onVectoring (call (cMpiRcFix mpi ierror))
  else
    onVectoring (call (vapaaWarning "FIXME: not contiguous case\n"))
    Run.abort

def cMpiGatherv (rc input scount stypeF output : Int) (received : Parts)
    (rtypeF root commF : Int) : VectorRun Int :=
  cVector mpi input stypeF output rtypeF commF fun input stype output rtype comm =>
    mpiGatherv rc input scount stype output received rtype root comm

def cfiMpiGatherv (rc : Int) (input : CDesc) (scount stypeF : Int) (output : CDesc)
    (received : Parts) (rtypeF root commF : Int) : VectorRun Int :=
  cfiVector mpi input stypeF output rtypeF commF fun inAddr stype outAddr rtype comm =>
    mpiGatherv rc inAddr scount stype outAddr received rtype root comm

def cMpiAllgatherv (rc input scount stypeF output : Int) (received : Parts)
    (rtypeF commF : Int) : VectorRun Int :=
  cVector mpi input stypeF output rtypeF commF fun input stype output rtype comm =>
    mpiAllgatherv rc input scount stype output received rtype comm

def cfiMpiAllgatherv (rc : Int) (input : CDesc) (scount stypeF : Int) (output : CDesc)
    (received : Parts) (rtypeF commF : Int) : VectorRun Int :=
  cfiVector mpi input stypeF output rtypeF commF fun inAddr stype outAddr rtype comm =>
    mpiAllgatherv rc inAddr scount stype outAddr received rtype comm

def cMpiScatterv (rc input : Int) (sent : Parts) (stypeF output rcount rtypeF root commF : Int) :
    VectorRun Int :=
  cVector mpi input stypeF output rtypeF commF fun input stype output rtype comm =>
    mpiScatterv rc input sent stype output rcount rtype root comm

def cfiMpiScatterv (rc : Int) (input : CDesc) (sent : Parts) (stypeF : Int) (output : CDesc)
    (rcount rtypeF root commF : Int) : VectorRun Int :=
  cfiVector mpi input stypeF output rtypeF commF fun inAddr stype outAddr rtype comm =>
    mpiScatterv rc inAddr sent stype outAddr rcount rtype root comm

def cMpiAlltoallv (rc input : Int) (sent : Parts) (stypeF output : Int) (received : Parts)
    (rtypeF commF : Int) : VectorRun Int :=
  cVector mpi input stypeF output rtypeF commF fun input stype output rtype comm =>
    mpiAlltoallv rc input sent stype output received rtype comm

def cfiMpiAlltoallv (rc : Int) (input : CDesc) (sent : Parts) (stypeF : Int) (output : CDesc)
    (received : Parts) (rtypeF commF : Int) : VectorRun Int :=
  cfiVector mpi input stypeF output rtypeF commF fun inAddr stype outAddr rtype comm =>
    mpiAlltoallv rc inAddr sent stype outAddr received rtype comm

end Wrappers

inductive VectorCollective where
  | gatherv (root : Nat)
  | allgatherv
  | scatterv (root : Nat)
  | alltoallv

/-- The collective with blocks of one length. -/
def VectorCollective.block : VectorCollective → BlockCollective
  | gatherv root => .gather root
  | allgatherv => .allgather
  | scatterv root => .scatter root
  | alltoallv => .alltoall

/-- The arguments of one rank, of which a collective has either a count or parts for each side. -/
structure VectorArguments where
  input : TypedSection
  scount : Int
  sent : Parts
  output : TypedSection
  rcount : Int
  received : Parts
  commF : Int

/-- A v-collective, with the arguments of every rank. -/
structure VectorCall where
  collective : VectorCollective
  interface : Interface
  arguments : Nat → VectorArguments

/-- What the calls of one rank find in its process. -/
structure Setting where
  types : TypeStore
  inPlace : Int

def Vectoring.setting (state : Vectoring) : Setting where
  types := state.process.world.types
  inPlace := state.process.sentinels.inPlace

/-- Byte addresses of the part of a rank, in array element order. -/
def CDesc.partBytes (desc : CDesc) (parts : Parts) (rank : Nat) : List Int :=
  ((List.range (parts.counts rank).toNat).map fun j =>
    desc.address ((parts.displs rank).toNat + j)).flatMap fun address => span address desc.elemLen

/-- The parts of all ranks are among the first elements. -/
def Parts.Within (parts : Parts) (ranks reach : Nat) : Prop :=
  ∀ rank < ranks, 0 ≤ parts.displs rank ∧
    (parts.displs rank).toNat + (parts.counts rank).toNat ≤ reach

namespace VectorCall

variable (mpi : Mpi) (ranks : Nat) (settings : Nat → Setting) (vectorCall : VectorCall)

/-- The call of one rank. -/
def run (rank : Nat) : VectorRun Int :=
  let { input, scount, sent, output, rcount, received, commF } := vectorCall.arguments rank
  let rc := mpi.errorClass .success
  match vectorCall.interface, vectorCall.collective with
  | .addresses, .gatherv root =>
      cMpiGatherv mpi rc input.desc.baseAddr scount input.datatypeF output.desc.baseAddr received
        output.datatypeF root commF
  | .addresses, .allgatherv =>
      cMpiAllgatherv mpi rc input.desc.baseAddr scount input.datatypeF output.desc.baseAddr received
        output.datatypeF commF
  | .addresses, .scatterv root =>
      cMpiScatterv mpi rc input.desc.baseAddr sent input.datatypeF output.desc.baseAddr rcount
        output.datatypeF root commF
  | .addresses, .alltoallv =>
      cMpiAlltoallv mpi rc input.desc.baseAddr sent input.datatypeF output.desc.baseAddr received
        output.datatypeF commF
  | .descriptors, .gatherv root =>
      cfiMpiGatherv mpi rc input.desc scount input.datatypeF output.desc received output.datatypeF
        root commF
  | .descriptors, .allgatherv =>
      cfiMpiAllgatherv mpi rc input.desc scount input.datatypeF output.desc received
        output.datatypeF commF
  | .descriptors, .scatterv root =>
      cfiMpiScatterv mpi rc input.desc sent input.datatypeF output.desc rcount output.datatypeF root
        commF
  | .descriptors, .alltoallv =>
      cfiMpiAlltoallv mpi rc input.desc sent input.datatypeF output.desc received output.datatypeF
        commF

def messages : List (Nat × Nat) := vectorCall.collective.block.messages ranks

/-- A rank passes `MPI_IN_PLACE` for its input. -/
def InputInPlace (rank : Nat) : Prop :=
  (vectorCall.arguments rank).input.desc.baseAddr = (settings rank).inPlace

/-- A rank passes `MPI_IN_PLACE` for its output. -/
def OutputInPlace (rank : Nat) : Prop :=
  (vectorCall.arguments rank).output.desc.baseAddr = (settings rank).inPlace

instance (rank : Nat) : Decidable (vectorCall.InputInPlace settings rank) :=
  inferInstanceAs (Decidable (_ = _))

instance (rank : Nat) : Decidable (vectorCall.OutputInPlace settings rank) :=
  inferInstanceAs (Decidable (_ = _))

/-- The elements that a message takes from its sender. -/
def source (message : Nat × Nat) : List Int :=
  let { input, scount, sent, output, received, .. } := vectorCall.arguments message.1
  match vectorCall.collective with
  | .gatherv _ | .allgatherv =>
      if vectorCall.InputInPlace settings message.1 then output.desc.partBytes received message.1
      else input.desc.elementBytes scount.toNat
  | .scatterv _ => input.desc.partBytes sent message.2
  | .alltoallv =>
      if vectorCall.InputInPlace settings message.1 then output.desc.partBytes received message.2
      else input.desc.partBytes sent message.2

/-- The elements that a message brings to its receiver. -/
def destination (message : Nat × Nat) : List Int :=
  let { input, sent, output, rcount, received, .. } := vectorCall.arguments message.2
  match vectorCall.collective with
  | .gatherv _ | .allgatherv | .alltoallv => output.desc.partBytes received message.1
  | .scatterv _ =>
      if vectorCall.OutputInPlace settings message.2 then input.desc.partBytes sent message.2
      else output.desc.elementBytes rcount.toNat

/-- What all ranks together intend. -/
def intended : Memory.Plan (Nat × Int) :=
  exchange (vectorCall.messages ranks) (vectorCall.source settings) (vectorCall.destination settings)

end VectorCall

/-- A section whose elements a call may reach where they lie. -/
structure TypedSection.Fits (mpi : Mpi) (interface : Interface) (setting : Setting) (reach : Nat)
    (typed : TypedSection) : Prop where
  argument : typed.desc.Matches mpi setting.types (cMpiTypeF2c mpi typed.datatypeF) reach
  lies : interface = .addresses → typed.desc.Consecutive reach
  elsewhere : typed.desc.baseAddr ≠ mpi.inPlace

namespace VectorCall

variable (mpi : Mpi) (ranks : Nat) (settings : Nat → Setting) (vectorCall : VectorCall)

/-- A side of a rank that passes a number of elements. -/
def Whole (rank : Nat) (typed : TypedSection) (count : Int) : Prop :=
  ∃ reach, typed.Fits mpi vectorCall.interface (settings rank) reach ∧ count.toNat ≤ reach

/-- A side of a rank that passes a part for every rank. -/
def Parted (rank : Nat) (typed : TypedSection) (parts : Parts) : Prop :=
  ∃ reach, typed.Fits mpi vectorCall.interface (settings rank) reach ∧ parts.Within ranks reach

/-- What a rank may pass: only a root has the parts of a rooted collective, and only a root passes
`MPI_IN_PLACE` to one. -/
def ValidAt (rank : Nat) : Prop :=
  let { input, scount, sent, output, rcount, received, .. } := vectorCall.arguments rank
  let inputInPlace := vectorCall.InputInPlace settings rank
  let outputInPlace := vectorCall.OutputInPlace settings rank
  match vectorCall.collective with
  | .gatherv root =>
      (inputInPlace → rank = root) ∧
        (¬ inputInPlace → vectorCall.Whole mpi settings rank input scount) ∧
        (rank = root → ¬ outputInPlace ∧ vectorCall.Parted mpi ranks settings rank output received)
  | .allgatherv =>
      (¬ inputInPlace → vectorCall.Whole mpi settings rank input scount) ∧
        ¬ outputInPlace ∧ vectorCall.Parted mpi ranks settings rank output received
  | .scatterv root =>
      (rank = root → ¬ inputInPlace ∧ vectorCall.Parted mpi ranks settings rank input sent) ∧
        (outputInPlace → rank = root) ∧
        (¬ outputInPlace → vectorCall.Whole mpi settings rank output rcount)
  | .alltoallv =>
      (¬ inputInPlace → vectorCall.Parted mpi ranks settings rank input sent) ∧
        ¬ outputInPlace ∧ vectorCall.Parted mpi ranks settings rank output received

structure Valid : Prop where
  rooted : vectorCall.collective.block.Rooted ranks
  sections : ∀ rank < ranks, vectorCall.ValidAt mpi ranks settings rank
  agrees : ∀ message ∈ vectorCall.messages ranks,
    (vectorCall.source settings message).length = (vectorCall.destination settings message).length

/-- Descriptors are only passed where they lie, those that a rank has no use for included. -/
def Passable : Prop :=
  vectorCall.interface = .descriptors → ∀ rank < ranks,
    mpi.cfiIsContiguous (vectorCall.arguments rank).input.desc = 1 ∧
      mpi.cfiIsContiguous (vectorCall.arguments rank).output.desc = 1

/-- All ranks call and return, and the library moves what they have asked for. -/
inductive Performed (before : Nat → Vectoring) : (Nat → Vectoring) → Prop where
  | intro (asked : Nat → VectorRequest) (returned : Nat → Vectoring) (ierror : Nat → Int)
      (returns : ∀ rank < ranks, vectorCall.run mpi rank (before rank) =
        .returned (ierror rank, returned rank))
      (asks : ∀ rank < ranks,
        (returned rank).requests = (before rank).requests ++ [asked rank])
      (outside : ∀ rank, ranks ≤ rank → returned rank = before rank) :
      Performed before fun rank => { returned rank with
        process := { (returned rank).process with
          memory := fun address =>
            (joint fun rank => (returned rank).process).copyAll (vectorMoves mpi ranks asked)
              (rank, address) } }

/-- The calls of a program are performed one after another. -/
inductive Program : (Nat → Vectoring) → List VectorCall → (Nat → Vectoring) → Prop where
  | nil {states : Nat → Vectoring} : Program states [] states
  | cons {before middle after : Nat → Vectoring} {vectorCall : VectorCall}
      {calls : List VectorCall} (first : vectorCall.Performed mpi ranks before middle)
      (rest : Program middle calls after) : Program before (vectorCall :: calls) after

/-- What the library is given for an address. -/
def passed (setting : Setting) (address : Int) : Int :=
  if address = setting.inPlace then mpi.inPlace else address

/-- What the library is asked for, with the arguments that the wrapper has converted. -/
def request (rank : Nat) (input stype output rtype comm : Int) (types : TypeStore) :
    VectorRequest :=
  let { scount, sent, rcount, received, .. } := vectorCall.arguments rank
  match vectorCall.collective with
  | .gatherv root =>
      .gatherv (types.buffer input scount stype) (types.partedBuffer output received rtype) root comm
  | .allgatherv =>
      .allgatherv (types.buffer input scount stype) (types.partedBuffer output received rtype) comm
  | .scatterv root =>
      .scatterv (types.partedBuffer input sent stype) (types.buffer output rcount rtype) root comm
  | .alltoallv =>
      .alltoallv (types.partedBuffer input sent stype) (types.partedBuffer output received rtype) comm

/-- What the library is asked for by a rank. -/
def asked (rank : Nat) : VectorRequest :=
  let { input, output, commF, .. } := vectorCall.arguments rank
  vectorCall.request rank (passed mpi (settings rank) input.desc.baseAddr)
    (cMpiTypeF2c mpi input.datatypeF) (passed mpi (settings rank) output.desc.baseAddr)
    (cMpiTypeF2c mpi output.datatypeF) (cMpiCommF2c mpi commF) (settings rank).types

end VectorCall

section Requests

variable {mpi : Mpi} {state : Vectoring} {input output stypeF rtypeF commF : Int}
variable {inDesc outDesc : CDesc}
variable {request : Int → Int → Int → Int → Int → TypeStore → VectorRequest}

private theorem onVectoring_inPlaceArgument (address : Int) :
    onVectoring (inPlaceArgument mpi address) state =
      .returned (VectorCall.passed mpi state.setting address, state) :=
  Run.zoom_of_returned (inPlaceArgument_apply mpi address state.process)

private theorem onVectoring_rcFix :
    onVectoring (call (cMpiRcFix mpi (mpi.errorClass .success))) state =
      .returned (mpi.errorClass .success, state) :=
  Run.zoom_of_returned (call_of_returned (cMpiRcFix_success _))

/-- The state after a request. -/
def Vectoring.asking (state : Vectoring) (request : VectorRequest) : Vectoring :=
  { state with requests := state.requests ++ [request] }

private theorem cVector_returns :
    cVector mpi input stypeF output rtypeF commF (fun input stype output rtype comm =>
        askVector (mpi.errorClass .success) (request input stype output rtype comm)) state =
      .returned (mpi.errorClass .success, state.asking
        (request (VectorCall.passed mpi state.setting input) (cMpiTypeF2c mpi stypeF)
          (VectorCall.passed mpi state.setting output) (cMpiTypeF2c mpi rtypeF)
          (cMpiCommF2c mpi commF) state.setting.types)) := by
  unfold cVector
  rw [Run.bind_of_returned (onVectoring_inPlaceArgument input),
    Run.bind_of_returned (onVectoring_inPlaceArgument output)]
  exact (Run.bind_of_returned rfl).trans onVectoring_rcFix

private theorem cfiVector_returns
    (lie : mpi.cfiIsContiguous inDesc = 1 ∧ mpi.cfiIsContiguous outDesc = 1) :
    cfiVector mpi inDesc stypeF outDesc rtypeF commF (fun input stype output rtype comm =>
        askVector (mpi.errorClass .success) (request input stype output rtype comm)) state =
      .returned (mpi.errorClass .success, state.asking
        (request (VectorCall.passed mpi state.setting inDesc.baseAddr) (cMpiTypeF2c mpi stypeF)
          (VectorCall.passed mpi state.setting outDesc.baseAddr) (cMpiTypeF2c mpi rtypeF)
          (cMpiCommF2c mpi commF) state.setting.types)) := by
  unfold cfiVector
  rw [Run.bind_of_returned (onVectoring_inPlaceArgument inDesc.baseAddr),
    Run.bind_of_returned (onVectoring_inPlaceArgument outDesc.baseAddr)]
  simp only [if_pos lie]
  exact (Run.bind_of_returned rfl).trans onVectoring_rcFix

private theorem cfiVector_aborts {communicate : Int → Int → Int → Int → Int → VectorRun Int}
    (scattered : ¬ (mpi.cfiIsContiguous inDesc = 1 ∧ mpi.cfiIsContiguous outDesc = 1)) :
    cfiVector mpi inDesc stypeF outDesc rtypeF commF communicate state = .aborted := by
  unfold cfiVector
  rw [Run.bind_of_returned (onVectoring_inPlaceArgument inDesc.baseAddr),
    Run.bind_of_returned (onVectoring_inPlaceArgument outDesc.baseAddr)]
  simp only [if_neg scattered]
  rfl

variable {ranks rank : Nat} {vectorCall : VectorCall} {settings : Nat → Setting}

theorem VectorCall.run_eq (rank : Nat) :
    vectorCall.run mpi rank =
      let { input, output, commF, .. } := vectorCall.arguments rank
      let ask := fun input stype output rtype comm =>
        askVector (mpi.errorClass .success) (vectorCall.request rank input stype output rtype comm)
      match vectorCall.interface with
      | .addresses =>
          cVector mpi input.desc.baseAddr input.datatypeF output.desc.baseAddr output.datatypeF
            commF ask
      | .descriptors =>
          cfiVector mpi input.desc input.datatypeF output.desc output.datatypeF commF ask := by
  obtain ⟨collective, interface, arguments⟩ := vectorCall
  cases interface <;> cases collective <;> rfl

/-- A rank whose sections lie contiguous asks the library, and does nothing else. -/
theorem VectorCall.run_returns (passable : vectorCall.Passable mpi ranks) (below : rank < ranks)
    (here : settings rank = state.setting) :
    vectorCall.run mpi rank state =
      .returned (mpi.errorClass .success, state.asking (vectorCall.asked mpi settings rank)) := by
  unfold VectorCall.asked
  rw [VectorCall.run_eq, here]
  cases interface : vectorCall.interface with
  | addresses => exact cVector_returns
  | descriptors => exact cfiVector_returns (passable interface rank below)

/-- A rank that returns has passed sections that lie contiguous. -/
theorem VectorCall.passable_of_returns {states finals : Nat → Vectoring} {ierror : Nat → Int}
    (returns : ∀ rank < ranks, vectorCall.run mpi rank (states rank) =
      .returned (ierror rank, finals rank)) : vectorCall.Passable mpi ranks := by
  intro described rank below
  by_contra scattered
  have returned := returns rank below
  simp only [VectorCall.run_eq, described, cfiVector_aborts scattered] at returned
  cases returned

end Requests

section Moves

variable {mpi : Mpi} {ranks rank : Nat} {vectorCall : VectorCall} {settings : Nat → Setting}
variable {typed : TypedSection} {parts : Parts} {count : Int} {message : Nat × Nat}

theorem TypedSection.Fits.consecutive {interface : Interface} {setting : Setting} {reach : Nat}
    (fits : typed.Fits mpi interface setting reach)
    (lies : interface = .descriptors → mpi.cfiIsContiguous typed.desc = 1) :
    typed.desc.Consecutive reach := by
  cases interface with
  | addresses => exact fits.lies rfl
  | descriptors => exact fits.argument.consecutive (lies rfl)

theorem Layout.locations_of_solid {layout : Layout} {length : Nat} (solid : layout.Solid length)
    (address : Int) (count : Nat) :
    layout.locations address count =
      ((List.range count).map fun (n : Nat) => address + n * length).flatMap fun start =>
        span start length := by
  simp [Layout.locations, solid.bytes_eq, solid.extent_eq, map_add_span, List.flatMap_map]

/-- The library finds the first elements of a section that lies contiguous. -/
theorem VectorCall.Whole.locations_eq (whole : vectorCall.Whole mpi settings rank typed count)
    (lies : vectorCall.interface = .descriptors → mpi.cfiIsContiguous typed.desc = 1) :
    ((settings rank).types.buffer typed.desc.baseAddr count
      (cMpiTypeF2c mpi typed.datatypeF)).locations = typed.desc.elementBytes count.toNat := by
  obtain ⟨reach, fits, below⟩ := whole
  obtain ⟨object, live, -, -, solid⟩ := fits.argument.fills
  have consecutive := fits.consecutive lies
  simp only [Buffer.locations, TypeStore.buffer, live, Layout.locations_of_solid solid,
    CDesc.elementBytes]
  congr 1
  apply List.map_congr_left
  intro n member
  rw [CDesc.address, consecutive n ((List.mem_range.mp member).trans_le below)]

/-- The library finds the part of a rank in a section that lies contiguous. -/
theorem VectorCall.Parted.part_eq {other : Nat}
    (parted : vectorCall.Parted mpi ranks settings rank typed parts) (below : other < ranks)
    (lies : vectorCall.interface = .descriptors → mpi.cfiIsContiguous typed.desc = 1) :
    ((settings rank).types.partedBuffer typed.desc.baseAddr parts
      (cMpiTypeF2c mpi typed.datatypeF)).part other = typed.desc.partBytes parts other := by
  obtain ⟨reach, fits, within⟩ := parted
  obtain ⟨object, live, -, -, solid⟩ := fits.argument.fills
  obtain ⟨placed, reached⟩ := within other below
  have consecutive := fits.consecutive lies
  simp only [PartedBuffer.part, TypeStore.partedBuffer, live, Layout.locations_of_solid solid,
    CDesc.partBytes]
  congr 1
  apply List.map_congr_left
  intro n member
  have inside : (parts.displs other).toNat + n < reach := by
    have := List.mem_range.mp member
    omega
  rw [CDesc.address, consecutive _ inside, solid.extent_eq]
  push_cast
  rw [Int.toNat_of_nonneg placed]
  ring

theorem VectorCall.passed_of_inPlace {setting : Setting} {address : Int}
    (inPlace : address = setting.inPlace) : VectorCall.passed mpi setting address = mpi.inPlace :=
  if_pos inPlace

theorem VectorCall.passed_of_ne {setting : Setting} {address : Int}
    (elsewhere : address ≠ setting.inPlace) : VectorCall.passed mpi setting address = address :=
  if_neg elsewhere

theorem VectorCall.Whole.elsewhere (whole : vectorCall.Whole mpi settings rank typed count) :
    typed.desc.baseAddr ≠ mpi.inPlace := by
  obtain ⟨reach, fits, -⟩ := whole
  exact fits.elsewhere

theorem VectorCall.Parted.elsewhere
    (parted : vectorCall.Parted mpi ranks settings rank typed parts) :
    typed.desc.baseAddr ≠ mpi.inPlace := by
  obtain ⟨reach, fits, -⟩ := parted
  exact fits.elsewhere

/-- What a rank sends is where its sections say. -/
theorem VectorCall.sends_asked (valid : vectorCall.Valid mpi ranks settings)
    (passable : vectorCall.Passable mpi ranks) (member : message ∈ vectorCall.messages ranks) :
    (vectorCall.asked mpi settings message.1).sends mpi message.1 message.2 =
      vectorCall.source settings message := by
  obtain ⟨sender, receiver⟩ := message
  obtain ⟨below, within⟩ := valid.rooted.messages member
  have here := valid.sections sender below
  have lies (described : vectorCall.interface = .descriptors) := passable described sender below
  unfold VectorCall.ValidAt at here
  unfold VectorCall.asked VectorCall.request VectorCall.source
  cases collective : vectorCall.collective with
  | gatherv root =>
      simp only [collective] at here
      obtain ⟨only, whole, parted⟩ := here
      by_cases inPlace : vectorCall.InputInPlace settings sender
      · obtain ⟨elsewhere, parted⟩ := parted (only inPlace)
        simp only [VectorRequest.sends, TypeStore.buffer, if_pos inPlace, passed_of_inPlace inPlace,
          passed_of_ne elsewhere]
        exact parted.part_eq below fun described => (lies described).2
      · have whole := whole inPlace
        simp only [VectorRequest.sends, if_neg inPlace, passed_of_ne inPlace]
        exact (if_neg whole.elsewhere).trans
          (whole.locations_eq fun described => (lies described).1)
  | allgatherv =>
      simp only [collective] at here
      obtain ⟨whole, elsewhere, parted⟩ := here
      by_cases inPlace : vectorCall.InputInPlace settings sender
      · simp only [VectorRequest.sends, TypeStore.buffer, if_pos inPlace, passed_of_inPlace inPlace,
          passed_of_ne elsewhere]
        exact parted.part_eq below fun described => (lies described).2
      · have whole := whole inPlace
        simp only [VectorRequest.sends, if_neg inPlace, passed_of_ne inPlace]
        exact (if_neg whole.elsewhere).trans
          (whole.locations_eq fun described => (lies described).1)
  | scatterv root =>
      simp only [collective] at here
      have atRoot : sender = root := by
        simp only [VectorCall.messages, collective, VectorCollective.block,
          BlockCollective.messages, List.mem_map, Prod.mk.injEq] at member
        obtain ⟨other, -, same, -⟩ := member
        exact same.symm
      obtain ⟨elsewhere, parted⟩ := here.1 atRoot
      simp only [VectorRequest.sends, passed_of_ne elsewhere]
      exact parted.part_eq within fun described => (lies described).1
  | alltoallv =>
      simp only [collective] at here
      obtain ⟨sent, elsewhere, received⟩ := here
      by_cases inPlace : vectorCall.InputInPlace settings sender
      · simp only [VectorRequest.sends, TypeStore.partedBuffer, if_pos inPlace,
          passed_of_inPlace inPlace, passed_of_ne elsewhere]
        exact received.part_eq within fun described => (lies described).2
      · have sent := sent inPlace
        simp only [VectorRequest.sends, if_neg inPlace, passed_of_ne inPlace]
        exact (if_neg sent.elsewhere).trans
          (sent.part_eq within fun described => (lies described).1)

/-- What a rank receives arrives where its sections say. -/
theorem VectorCall.receives_asked (valid : vectorCall.Valid mpi ranks settings)
    (passable : vectorCall.Passable mpi ranks) (member : message ∈ vectorCall.messages ranks) :
    (vectorCall.asked mpi settings message.2).receives mpi message.2 message.1 =
      vectorCall.destination settings message := by
  obtain ⟨sender, receiver⟩ := message
  obtain ⟨below, within⟩ := valid.rooted.messages member
  have here := valid.sections receiver within
  have lies (described : vectorCall.interface = .descriptors) := passable described receiver within
  unfold VectorCall.ValidAt at here
  unfold VectorCall.asked VectorCall.request VectorCall.destination
  cases collective : vectorCall.collective with
  | gatherv root =>
      simp only [collective] at here
      have atRoot : receiver = root := by
        simp only [VectorCall.messages, collective, VectorCollective.block,
          BlockCollective.messages, List.mem_map, Prod.mk.injEq] at member
        obtain ⟨other, -, -, same⟩ := member
        exact same.symm
      obtain ⟨elsewhere, parted⟩ := here.2.2 atRoot
      simp only [VectorRequest.receives, passed_of_ne elsewhere]
      exact parted.part_eq below fun described => (lies described).2
  | allgatherv =>
      simp only [collective] at here
      obtain ⟨-, elsewhere, parted⟩ := here
      simp only [VectorRequest.receives, passed_of_ne elsewhere]
      exact parted.part_eq below fun described => (lies described).2
  | scatterv root =>
      simp only [collective] at here
      obtain ⟨atRoot, only, whole⟩ := here
      by_cases inPlace : vectorCall.OutputInPlace settings receiver
      · obtain ⟨elsewhere, parted⟩ := atRoot (only inPlace)
        simp only [VectorRequest.receives, TypeStore.buffer, if_pos inPlace,
          passed_of_inPlace inPlace, passed_of_ne elsewhere]
        exact parted.part_eq within fun described => (lies described).1
      · have whole := whole inPlace
        simp only [VectorRequest.receives, if_neg inPlace, passed_of_ne inPlace]
        exact (if_neg whole.elsewhere).trans
          (whole.locations_eq fun described => (lies described).2)
  | alltoallv =>
      simp only [collective] at here
      obtain ⟨-, elsewhere, received⟩ := here
      simp only [VectorRequest.receives, passed_of_ne elsewhere]
      exact received.part_eq below fun described => (lies described).2

theorem VectorCall.messages_asked (rank : Nat) :
    (vectorCall.asked mpi settings rank).messages ranks = vectorCall.messages ranks := by
  unfold VectorCall.asked VectorCall.request VectorCall.messages
  cases vectorCall.collective <;> rfl

/-- Where all ranks ask for the call, the library moves what they intend. -/
theorem VectorCall.moves_intended (valid : vectorCall.Valid mpi ranks settings)
    (passable : vectorCall.Passable mpi ranks) (positive : 0 < ranks)
    {asked : Nat → VectorRequest}
    (asks : ∀ rank < ranks, asked rank = vectorCall.asked mpi settings rank) :
    vectorMoves mpi ranks asked = vectorCall.intended ranks settings := by
  rw [vectorMoves, VectorCall.intended, asks 0 positive, VectorCall.messages_asked]
  apply exchange_congr
  · intro message member
    rw [asks message.1 (valid.rooted.messages member).1]
    exact VectorCall.sends_asked valid passable member
  · intro message member
    rw [asks message.2 (valid.rooted.messages member).2]
    exact VectorCall.receives_asked valid passable member

end Moves

section Programs

variable {mpi : Mpi} {ranks : Nat} {before after : Nat → Vectoring} {vectorCall : VectorCall}
variable {calls : List VectorCall}

/-- The memories of all ranks. -/
def vectorJoint (states : Nat → Vectoring) : Memory (Nat × Int) UInt8 :=
  joint fun rank => (states rank).process

/-- What the ranks find in their processes. -/
def vectorSettings (states : Nat → Vectoring) : Nat → Setting := fun rank => (states rank).setting

/-- Every rank has what it had, but for its memory and what it has asked for. -/
def VectorsKept (before after : Nat → Vectoring) : Prop :=
  ∀ rank, ∃ memory, (after rank).process = { (before rank).process with memory := memory }

theorem VectorsKept.settings_eq (kept : VectorsKept before after) :
    vectorSettings after = vectorSettings before := by
  funext rank
  obtain ⟨memory, same⟩ := kept rank
  simp only [vectorSettings, Vectoring.setting, same]

theorem VectorsKept.trans {middle : Nat → Vectoring} (first : VectorsKept before middle)
    (second : VectorsKept middle after) : VectorsKept before after := by
  intro rank
  obtain ⟨halfway, kept⟩ := first rank
  obtain ⟨memory, again⟩ := second rank
  exact ⟨memory, by rw [again, kept]⟩

/-- A performed call moves what its ranks intend. -/
theorem VectorCall.Performed.moves (positive : 0 < ranks)
    (performed : vectorCall.Performed mpi ranks before after)
    (valid : vectorCall.Valid mpi ranks (vectorSettings before)) :
    vectorCall.Passable mpi ranks ∧ VectorsKept before after ∧
      vectorJoint after = (vectorJoint before).copyAll
        (vectorCall.intended ranks (vectorSettings before)) := by
  cases performed with
  | intro asked returned ierror returns asks outside =>
      have passable := VectorCall.passable_of_returns returns
      have all (rank : Nat) (below : rank < ranks) : returned rank =
          (before rank).asking (vectorCall.asked mpi (vectorSettings before) rank) := by
        have again := VectorCall.run_returns passable below
          (rfl : vectorSettings before rank = (before rank).setting)
        rw [returns rank below] at again
        exact (Prod.mk.inj (Outcome.returned.inj again)).2
      have wanted (rank : Nat) (below : rank < ranks) :
          asked rank = vectorCall.asked mpi (vectorSettings before) rank := by
        have here := asks rank below
        rw [all rank below] at here
        exact (List.singleton_inj.mp (List.append_cancel_left here)).symm
      have same (rank : Nat) : (returned rank).process = (before rank).process := by
        by_cases below : rank < ranks
        · rw [all rank below]
          rfl
        · rw [outside rank (not_lt.mp below)]
      refine ⟨passable, fun rank => ⟨_, by simp only [same]; rfl⟩, ?_⟩
      · have effect := VectorCall.moves_intended valid passable positive wanted
        simp only [vectorJoint, same, ← effect]
        rfl

theorem VectorCall.performed_of_passable (passable : vectorCall.Passable mpi ranks) :
    ∃ after, vectorCall.Performed mpi ranks before after := by
  let asked := vectorCall.asked mpi (vectorSettings before)
  let returned (rank : Nat) : Vectoring :=
    if rank < ranks then (before rank).asking (asked rank) else before rank
  refine ⟨_, .intro asked returned (fun _ => mpi.errorClass .success)
    (fun rank below => ?_) (fun rank below => ?_) fun rank above => if_neg (not_lt.mpr above)⟩
  · rw [show returned rank = (before rank).asking (asked rank) from if_pos below]
    exact VectorCall.run_returns passable below rfl
  · rw [show returned rank = (before rank).asking (asked rank) from if_pos below]
    rfl

theorem VectorCall.Program.moves (positive : 0 < ranks)
    (program : VectorCall.Program mpi ranks before calls after)
    (valid : ∀ vectorCall ∈ calls, vectorCall.Valid mpi ranks (vectorSettings before)) :
    (∀ vectorCall ∈ calls, vectorCall.Passable mpi ranks) ∧ VectorsKept before after ∧
      vectorJoint after =
        (calls.map fun vectorCall => vectorCall.intended ranks (vectorSettings before)).foldl
          Memory.copyAll (vectorJoint before) := by
  induction program with
  | nil => exact ⟨by simp, fun rank => ⟨_, rfl⟩, rfl⟩
  | @cons before middle after vectorCall calls first rest ih =>
      obtain ⟨passable, kept, moved⟩ := first.moves positive (valid vectorCall List.mem_cons_self)
      have settings := kept.settings_eq
      rw [settings] at ih
      obtain ⟨others, keeps, finishes⟩ :=
        ih fun other member => valid other (List.mem_cons_of_mem _ member)
      refine ⟨?_, kept.trans keeps, ?_⟩
      · intro other member
        cases List.mem_cons.mp member with
        | inl same => exact same ▸ passable
        | inr among => exact others other among
      · rw [finishes, moved]
        rfl

theorem VectorCall.program_of_passable
    (passable : ∀ vectorCall ∈ calls, vectorCall.Passable mpi ranks) :
    ∃ after, VectorCall.Program mpi ranks before calls after := by
  induction calls generalizing before with
  | nil => exact ⟨before, .nil⟩
  | cons vectorCall calls ih =>
      obtain ⟨middle, first⟩ := @VectorCall.performed_of_passable mpi ranks before vectorCall
        (passable vectorCall List.mem_cons_self)
      obtain ⟨after, rest⟩ := @ih middle
        fun other member => passable other (List.mem_cons_of_mem _ member)
      exact ⟨after, .cons first rest⟩

/-- Programs of v-collectives, with addresses or descriptors and in place or not: a program runs to
its end exactly when every rank passes only descriptors that lie contiguous, and the elements of all
parts have then moved as the calls intend, one after another; nothing else has changed. -/
theorem vectorPrograms_run (positive : 0 < ranks)
    (valid : ∀ vectorCall ∈ calls, vectorCall.Valid mpi ranks (vectorSettings before)) :
    ((∃ after, VectorCall.Program mpi ranks before calls after) ↔
      ∀ vectorCall ∈ calls, vectorCall.Passable mpi ranks) ∧
    ∀ after, VectorCall.Program mpi ranks before calls after → VectorsKept before after ∧
      vectorJoint after =
        (calls.map fun vectorCall => vectorCall.intended ranks (vectorSettings before)).foldl
          Memory.copyAll (vectorJoint before) := by
  refine ⟨⟨?_, VectorCall.program_of_passable⟩, ?_⟩
  · intro runs
    obtain ⟨after, program⟩ := runs
    exact (program.moves positive valid).1
  · intro after program
    exact (program.moves positive valid).2

end Programs

section Laws

variable {mpi : Mpi} {ranks : Nat} {before : Nat → Vectoring} {vectorCall first second : VectorCall}

/-- Parts that are sent on from where they arrived to where they came from are there as they were:
a scatter undoes a gather, and an exchange of all parts one the other way, whatever the lengths of
the parts and whoever has them in place. -/
theorem vectors_undo {last : Nat → Vectoring} (positive : 0 < ranks)
    (undoes : second.collective.block.Undoes first.collective.block)
    (valid : first.Valid mpi ranks (vectorSettings before))
    (validBack : second.Valid mpi ranks (vectorSettings before))
    (sentOn : ∀ message ∈ first.messages ranks,
      second.source (vectorSettings before) (message.2, message.1) =
        first.destination (vectorSettings before) message)
    (distinct : ((first.intended ranks (vectorSettings before)).map Prod.snd).Nodup)
    (distinctBack : ((second.intended ranks (vectorSettings before)).map Prod.snd).Nodup)
    (program : VectorCall.Program mpi ranks before [first, second] last) :
    ∀ message ∈ first.messages ranks,
      (second.destination (vectorSettings before) (message.2, message.1)).map
          (last message.1).process.memory =
        (first.source (vectorSettings before) message).map (before message.1).process.memory := by
  intro message member
  obtain ⟨-, -, moved⟩ := program.moves positive
    (List.forall_mem_cons.mpr ⟨valid, List.forall_mem_singleton.mpr validBack⟩)
  have back := (undoes.messages member).1
  let there := first.intended ranks (vectorSettings before)
  let again := second.intended ranks (vectorSettings before)
  have arrived : vectorJoint last = ((vectorJoint before).copyAll there).copyAll again := moved
  have arrives (rank : Nat) :
      (last rank).process.memory = fun address => vectorJoint last (rank, address) := rfl
  rw [arrives, arrived]
  calc
    _ = (second.source (vectorSettings before) (message.2, message.1)).map
          fun address => (vectorJoint before).copyAll there (message.2, address) :=
      map_copyAll_exchange distinctBack back (validBack.agrees _ back)
    _ = (first.destination (vectorSettings before) message).map
          fun address => (vectorJoint before).copyAll there (message.2, address) := by
      rw [sentOn message member]
    _ = _ := map_copyAll_exchange distinct member (valid.agrees _ member)

/-- The call with inputs of their own for the ranks that have theirs in place. -/
def VectorCall.outOfPlace (settings : Nat → Setting) (inputs : Nat → TypedSection)
    (vectorCall : VectorCall) : VectorCall :=
  { vectorCall with
    arguments := fun rank =>
      let arguments := vectorCall.arguments rank
      if vectorCall.InputInPlace settings rank then
        { arguments with
          input := inputs rank
          scount := arguments.received.counts rank
          sent := arguments.received }
      else arguments }

/-- The inputs hold what the ranks have in place. -/
def VectorCall.CopiedTo (ranks : Nat) (before : Nat → Vectoring) (inputs : Nat → TypedSection)
    (vectorCall : VectorCall) : Prop :=
  ∀ rank < ranks, vectorCall.InputInPlace (vectorSettings before) rank →
    let { output, received, .. } := vectorCall.arguments rank
    let memory := (before rank).process.memory
    (inputs rank).desc.baseAddr ≠ (vectorSettings before rank).inPlace ∧
      match vectorCall.collective with
      | .gatherv _ | .allgatherv =>
          ((inputs rank).desc.elementBytes (received.counts rank).toNat).map memory =
            (output.desc.partBytes received rank).map memory
      | .scatterv _ => True
      | .alltoallv => ∀ other < ranks,
          ((inputs rank).desc.partBytes received other).map memory =
            (output.desc.partBytes received other).map memory

section OutOfPlace

variable {settings : Nat → Setting} (inputs : Nat → TypedSection) {rank : Nat}

@[simp] theorem VectorCall.collective_outOfPlace :
    (vectorCall.outOfPlace settings inputs).collective = vectorCall.collective := rfl

theorem VectorCall.arguments_outOfPlace (inPlace : vectorCall.InputInPlace settings rank) :
    (vectorCall.outOfPlace settings inputs).arguments rank =
      { vectorCall.arguments rank with
        input := inputs rank
        scount := (vectorCall.arguments rank).received.counts rank
        sent := (vectorCall.arguments rank).received } :=
  if_pos inPlace

theorem VectorCall.arguments_outOfPlace_of_not
    (elsewhere : ¬ vectorCall.InputInPlace settings rank) :
    (vectorCall.outOfPlace settings inputs).arguments rank = vectorCall.arguments rank :=
  if_neg elsewhere

end OutOfPlace

theorem VectorCall.destination_outOfPlace {settings : Nat → Setting} {inputs : Nat → TypedSection}
    (unrooted : ∀ root, vectorCall.collective ≠ .scatterv root) (message : Nat × Nat) :
    (vectorCall.outOfPlace settings inputs).destination settings message =
      vectorCall.destination settings message := by
  unfold VectorCall.destination
  cases collective : vectorCall.collective with
  | scatterv root => exact absurd collective (unrooted root)
  | gatherv root | allgatherv | alltoallv =>
      simp only [VectorCall.outOfPlace, collective]
      split <;> rfl

theorem VectorCall.source_outOfPlace {inputs : Nat → TypedSection} {message : Nat × Nat}
    (copied : vectorCall.CopiedTo ranks before inputs)
    (unrooted : ∀ root, vectorCall.collective ≠ .scatterv root)
    (sender : message.1 < ranks) (receiver : message.2 < ranks) :
    ((vectorCall.outOfPlace (vectorSettings before) inputs).source (vectorSettings before)
        message).map (before message.1).process.memory =
      (vectorCall.source (vectorSettings before) message).map
        (before message.1).process.memory := by
  by_cases inPlace : vectorCall.InputInPlace (vectorSettings before) message.1
  · obtain ⟨elsewhere, same⟩ := copied message.1 sender inPlace
    have given := VectorCall.arguments_outOfPlace inputs inPlace
    have moved : ¬ (vectorCall.outOfPlace (vectorSettings before) inputs).InputInPlace
        (vectorSettings before) message.1 := by
      unfold VectorCall.InputInPlace
      rw [given]
      exact elsewhere
    unfold VectorCall.source
    cases collective : vectorCall.collective with
    | gatherv root | allgatherv =>
        simp only [collective] at same
        simp only [VectorCall.collective_outOfPlace, collective, given, if_neg moved,
          if_pos inPlace]
        exact same
    | scatterv root => exact absurd collective (unrooted root)
    | alltoallv =>
        simp only [collective] at same
        simp only [VectorCall.collective_outOfPlace, collective, given, if_neg moved,
          if_pos inPlace]
        exact same message.2 receiver
  · have given := VectorCall.arguments_outOfPlace_of_not inputs inPlace
    have stays : ¬ (vectorCall.outOfPlace (vectorSettings before) inputs).InputInPlace
        (vectorSettings before) message.1 := by
      unfold VectorCall.InputInPlace
      rw [given]
      exact inPlace
    unfold VectorCall.source
    simp only [VectorCall.collective_outOfPlace, given, if_neg inPlace, if_neg stays]

/-- Ranks that have their inputs in place end with the memories that they would have with copies of
these as inputs of their own. -/
theorem vectors_inPlace {inner outer : Nat → Vectoring} {inputs : Nat → TypedSection}
    (positive : 0 < ranks) (unrooted : ∀ root, vectorCall.collective ≠ .scatterv root)
    (valid : vectorCall.Valid mpi ranks (vectorSettings before))
    (validOut : (vectorCall.outOfPlace (vectorSettings before) inputs).Valid mpi ranks
      (vectorSettings before))
    (copied : vectorCall.CopiedTo ranks before inputs)
    (within : vectorCall.Performed mpi ranks before inner)
    (apart : (vectorCall.outOfPlace (vectorSettings before) inputs).Performed mpi ranks before
      outer) : vectorJoint inner = vectorJoint outer := by
  obtain ⟨-, -, moves⟩ := within.moves positive valid
  obtain ⟨-, -, movesOut⟩ := apart.moves positive validOut
  have places : (vectorCall.outOfPlace (vectorSettings before) inputs).destination
      (vectorSettings before) = vectorCall.destination (vectorSettings before) :=
    funext (VectorCall.destination_outOfPlace unrooted)
  rw [moves, movesOut, VectorCall.intended, VectorCall.intended, places]
  refine (copyAll_exchange_congr fun message member => ?_).symm
  obtain ⟨sender, receiver⟩ := valid.rooted.messages member
  exact VectorCall.source_outOfPlace copied unrooted sender receiver

end Laws

/-- A collective that passes a block of one length between any two ranks. -/
structure UniformCall where
  collective : VectorCollective
  count : Nat
  inputs : Nat → TypedSection
  outputs : Nat → TypedSection
  commF : Nat → Int

namespace UniformCall

def toBlock (uniform : UniformCall) : CollectiveCall where
  count := uniform.count
  commF := uniform.commF
  arguments := .block uniform.collective.block uniform.inputs uniform.outputs

/-- Parts of one length, side by side. -/
def parts (uniform : UniformCall) : Parts where
  counts := fun _ => uniform.count
  displs := fun rank => ((rank * uniform.count : Nat) : Int)

def toVector (interface : Interface) (uniform : UniformCall) : VectorCall where
  collective := uniform.collective
  interface := interface
  arguments := fun rank => {
    input := uniform.inputs rank
    scount := uniform.count
    sent := uniform.parts
    output := uniform.outputs rank
    rcount := uniform.count
    received := uniform.parts
    commF := uniform.commF rank }

/-- Every rank passes sections that lie contiguous, and not at `MPI_IN_PLACE`. -/
structure Lies (mpi : Mpi) (ranks : Nat) (uniform : UniformCall) : Prop where
  input : ∀ rank < ranks, mpi.cfiIsContiguous (uniform.inputs rank).desc = 1 ∧
    (uniform.inputs rank).desc.baseAddr ≠ mpi.inPlace
  output : ∀ rank < ranks, mpi.cfiIsContiguous (uniform.outputs rank).desc = 1 ∧
    (uniform.outputs rank).desc.baseAddr ≠ mpi.inPlace

end UniformCall

section Uniform

variable {mpi : Mpi} {ranks length : Nat} {before : Nat → Vectoring} {uniform : UniformCall}
variable {interface : Interface} {settings : Nat → Setting} {calls : List UniformCall}

theorem UniformCall.partBytes_parts (desc : CDesc) (rank : Nat) :
    desc.partBytes uniform.parts rank = desc.blockBytes uniform.count rank := by
  simp only [CDesc.partBytes, CDesc.blockBytes, UniformCall.parts, Int.toNat_natCast]

theorem UniformCall.elementBytes_eq (desc : CDesc) (count : Nat) :
    desc.elementBytes count = desc.blockBytes count 0 := by
  simp [CDesc.elementBytes, CDesc.blockBytes]

theorem UniformCall.within_parts : uniform.parts.Within ranks (ranks * uniform.count) := by
  intro rank below
  refine ⟨Int.natCast_nonneg _, ?_⟩
  simp only [UniformCall.parts, Int.toNat_natCast]
  calc
    rank * uniform.count + uniform.count = (rank + 1) * uniform.count := by ring
    _ ≤ ranks * uniform.count := Nat.mul_le_mul_right _ below

/-- Where no rank has anything in place, the parts of a uniform call are the blocks. -/
theorem UniformCall.source_eq {message : Nat × Nat}
    (elsewhere : ¬ (uniform.toVector interface).InputInPlace settings message.1) :
    (uniform.toVector interface).source settings message =
      (uniform.inputs message.1).desc.blockBytes uniform.count
        (uniform.collective.block.inputBlock message.2) := by
  unfold VectorCall.source
  simp only [if_neg elsewhere]
  simp only [UniformCall.toVector, UniformCall.partBytes_parts, UniformCall.elementBytes_eq,
    Int.toNat_natCast]
  cases uniform.collective <;> rfl

theorem UniformCall.destination_eq {message : Nat × Nat}
    (elsewhere : ¬ (uniform.toVector interface).OutputInPlace settings message.2) :
    (uniform.toVector interface).destination settings message =
      (uniform.outputs message.2).desc.blockBytes uniform.count
        (uniform.collective.block.outputBlock message.1) := by
  unfold VectorCall.destination
  simp only [if_neg elsewhere]
  simp only [UniformCall.toVector, UniformCall.partBytes_parts, UniformCall.elementBytes_eq,
    Int.toNat_natCast]
  cases uniform.collective <;> rfl

/-- The processes of all ranks. -/
def vectorProcesses (states : Nat → Vectoring) : Nat → Process := fun rank => (states rank).process

theorem UniformCall.Lies.fits (interface : Interface) (lies : uniform.Lies mpi ranks)
    (valid : uniform.toBlock.Valid mpi ranks (vectorProcesses before) length) {rank : Nat}
    (below : rank < ranks) :
    (uniform.inputs rank).Fits mpi interface (vectorSettings before rank)
        (uniform.collective.block.inputReach ranks uniform.count) ∧
      (uniform.outputs rank).Fits mpi interface (vectorSettings before rank)
        (uniform.collective.block.outputReach ranks uniform.count) := by
  have here := valid.2 rank below
  obtain ⟨input, inputApart⟩ := lies.input rank below
  obtain ⟨output, outputApart⟩ := lies.output rank below
  exact ⟨⟨here.sends, fun _ => here.sends.consecutive input, inputApart⟩,
    ⟨here.receives, fun _ => here.receives.consecutive output, outputApart⟩⟩

theorem UniformCall.Lies.validAt (lies : uniform.Lies mpi ranks)
    (valid : uniform.toBlock.Valid mpi ranks (vectorProcesses before) length) {rank : Nat}
    (below : rank < ranks) :
    (uniform.toVector interface).ValidAt mpi ranks (vectorSettings before) rank := by
  obtain ⟨sends, receives⟩ := lies.fits interface valid below
  have here := valid.2 rank below
  have inputHere : ¬ (uniform.toVector interface).InputInPlace (vectorSettings before) rank :=
    here.inputHere
  have outputHere : ¬ (uniform.toVector interface).OutputInPlace (vectorSettings before) rank :=
    here.outputHere
  have within : uniform.parts.Within ranks (ranks * uniform.count) := uniform.within_parts
  obtain ⟨collective, count, inputs, outputs, commF⟩ := uniform
  unfold VectorCall.ValidAt
  cases collective with
  | gatherv root =>
      exact ⟨fun inPlace => absurd inPlace inputHere, fun _ => ⟨_, sends, le_refl _⟩,
        fun _ => ⟨outputHere, _, receives, within⟩⟩
  | allgatherv => exact ⟨fun _ => ⟨_, sends, le_refl _⟩, outputHere, _, receives, within⟩
  | scatterv root =>
      exact ⟨fun _ => ⟨inputHere, _, sends, within⟩, fun inPlace => absurd inPlace outputHere,
        fun _ => ⟨_, receives, le_refl _⟩⟩
  | alltoallv => exact ⟨fun _ => ⟨_, sends, within⟩, outputHere, _, receives, within⟩

theorem UniformCall.intended_eq
    (valid : uniform.toBlock.Valid mpi ranks (vectorProcesses before) length) :
    (uniform.toVector interface).intended ranks (vectorSettings before) =
      uniform.toBlock.intended ranks := by
  apply exchange_congr
  · intro message member
    exact UniformCall.source_eq (valid.2 _ (valid.1.messages member).1).inputHere
  · intro message member
    exact UniformCall.destination_eq (valid.2 _ (valid.1.messages member).2).outputHere

theorem UniformCall.Lies.toVector_valid (lies : uniform.Lies mpi ranks)
    (valid : uniform.toBlock.Valid mpi ranks (vectorProcesses before) length) :
    (uniform.toVector interface).Valid mpi ranks (vectorSettings before) where
  rooted := valid.1
  sections := fun rank below => lies.validAt valid below
  agrees := by
    intro message member
    obtain ⟨sender, receiver⟩ := valid.1.messages member
    have sends : ¬ (uniform.toVector interface).InputInPlace (vectorSettings before) message.1 :=
      (valid.2 _ sender).inputHere
    have receives : ¬ (uniform.toVector interface).OutputInPlace (vectorSettings before) message.2 :=
      (valid.2 _ receiver).outputHere
    rw [UniformCall.source_eq sends, UniformCall.destination_eq receives, CDesc.length_blockBytes,
      CDesc.length_blockBytes]
    exact congrArg _ ((valid.2 _ sender).inputLength.trans (valid.2 _ receiver).outputLength.symm)

theorem CDesc.placed_of_consecutive {desc : CDesc} {count reach b j : Nat}
    (contiguous : mpi.cfiIsContiguous desc = 1) (consecutive : desc.Consecutive reach)
    (inside : b * count + j < reach) : desc.placed mpi count b j = desc.address (b * count + j) := by
  rw [CDesc.placed, if_pos contiguous, CDesc.address, consecutive _ inside]
  push_cast
  ring

private theorem block_inside {rank count j : Nat} (below : rank < ranks) (inside : j < count) :
    rank * count + j < ranks * count := by
  calc
    rank * count + j < (rank + 1) * count := by
      rw [Nat.succ_mul]
      omega
    _ ≤ ranks * count := Nat.mul_le_mul_right _ below

theorem BlockCollective.input_inside (collective : BlockCollective) {receiver count j : Nat}
    (below : receiver < ranks) (inside : j < count) :
    collective.inputBlock receiver * count + j < collective.inputReach ranks count := by
  cases collective with
  | gather root | allgather => simpa [BlockCollective.inputBlock, BlockCollective.inputReach]
  | scatter root | alltoall => exact block_inside below inside

theorem BlockCollective.output_inside (collective : BlockCollective) {sender count j : Nat}
    (below : sender < ranks) (inside : j < count) :
    collective.outputBlock sender * count + j < collective.outputReach ranks count := by
  cases collective with
  | scatter root => simpa [BlockCollective.outputBlock, BlockCollective.outputReach]
  | gather root | allgather | alltoall => exact block_inside below inside

/-- The blocks of sections that lie contiguous are where the library looks for them. -/
theorem UniformCall.Lies.placed (lies : uniform.Lies mpi ranks)
    (valid : uniform.toBlock.Valid mpi ranks (vectorProcesses before) length)
    (separate : (uniform.toBlock.intended ranks).Separate) :
    uniform.toBlock.Placed mpi ranks (vectorProcesses before) := by
  refine ⟨separate, ?_⟩
  intro message member
  obtain ⟨sender, receiver⟩ := valid.1.messages member
  have sends := (lies.input _ sender).1
  have receives := (lies.output _ receiver).1
  refine List.Perm.of_eq (List.map_congr_left fun j inside => ?_)
  have within := List.mem_range.mp inside
  exact Prod.ext
    (CDesc.placed_of_consecutive sends ((valid.2 _ sender).sends.consecutive sends)
      (BlockCollective.input_inside _ receiver within))
    (CDesc.placed_of_consecutive receives ((valid.2 _ receiver).receives.consecutive receives)
      (BlockCollective.output_inside _ sender within))

theorem UniformCall.Lies.toBlock_passable (lies : uniform.Lies mpi ranks) :
    uniform.toBlock.Passable mpi ranks (vectorProcesses before) :=
  fun rank below => ⟨fun scattered => absurd (lies.input rank below).1 scattered,
    fun scattered => absurd (lies.output rank below).1 scattered⟩

theorem UniformCall.Lies.toVector_passable (lies : uniform.Lies mpi ranks) :
    (uniform.toVector interface).Passable mpi ranks :=
  fun _ rank below => ⟨(lies.input rank below).1, (lies.output rank below).1⟩

/-- Programs of v-collectives whose parts have one length, side by side, do with addresses and with
descriptors what the block collectives do. -/
theorem uniformPrograms_run (active : mpi.seatbelts = true) (positive : 0 < ranks)
    (valid : ∀ uniform ∈ calls, ∃ length,
      uniform.toBlock.Valid mpi ranks (vectorProcesses before) length)
    (lies : ∀ uniform ∈ calls, uniform.Lies mpi ranks)
    (separate : ∀ uniform ∈ calls, (uniform.toBlock.intended ranks).Separate) :
    (∃ blocks, CollectiveCall.Program mpi ranks (vectorProcesses before)
        (calls.map UniformCall.toBlock) blocks) ∧
      (∃ vectors, VectorCall.Program mpi ranks before
        (calls.map (UniformCall.toVector interface)) vectors) ∧
      ∀ blocks vectors,
        CollectiveCall.Program mpi ranks (vectorProcesses before) (calls.map UniformCall.toBlock)
          blocks →
        VectorCall.Program mpi ranks before (calls.map (UniformCall.toVector interface)) vectors →
        joint blocks = vectorJoint vectors := by
  have validBlocks : ∀ call ∈ calls.map UniformCall.toBlock, ∃ length,
      call.Valid mpi ranks (vectorProcesses before) length :=
    List.forall_mem_map.mpr valid
  have placed : ∀ call ∈ calls.map UniformCall.toBlock,
      call.Placed mpi ranks (vectorProcesses before) := by
    refine List.forall_mem_map.mpr fun uniform member => ?_
    obtain ⟨length, here⟩ := valid uniform member
    exact (lies uniform member).placed here (separate uniform member)
  have validVectors : ∀ call ∈ calls.map (UniformCall.toVector interface),
      call.Valid mpi ranks (vectorSettings before) := by
    refine List.forall_mem_map.mpr fun uniform member => ?_
    obtain ⟨length, here⟩ := valid uniform member
    exact (lies uniform member).toVector_valid here
  refine ⟨CollectiveCall.program_of_passable active positive validBlocks placed
      (List.forall_mem_map.mpr fun uniform member => (lies uniform member).toBlock_passable),
    VectorCall.program_of_passable
      (List.forall_mem_map.mpr fun uniform member => (lies uniform member).toVector_passable), ?_⟩
  intro blocks vectors runsBlocks runsVectors
  obtain ⟨-, -, moved⟩ := runsBlocks.moves active positive validBlocks placed
  obtain ⟨-, -, movedToo⟩ := runsVectors.moves positive validVectors
  have same : (calls.map (UniformCall.toVector interface)).map
      (fun call => call.intended ranks (vectorSettings before)) =
        (calls.map UniformCall.toBlock).map (CollectiveCall.intended ranks) := by
    rw [List.map_map, List.map_map]
    refine List.map_congr_left fun uniform member => ?_
    obtain ⟨length, here⟩ := valid uniform member
    exact UniformCall.intended_eq here
  rw [moved, movedToo, same]
  rfl

end Uniform

section Samples

def contiguousIntegers (baseAddr : Int) (count : Nat) : TypedSection where
  desc := integers baseAddr count 4
  datatypeF := fortranInteger

/-- Ranks whose memories hold the low byte of each address. -/
def vectorStart : Nat → Vectoring := fun _ => {
  process := { startProcess with memory := fun location => UInt8.ofNat location.toNat }
  requests := [] }

/-- One integer of rank 0, after two of rank 1. -/
def unevenParts : Parts where
  counts := fun rank => rank + 1
  displs := fun rank => if rank = 0 then 2 else 0

def unevenCall (collective : VectorCollective) (inputAddr outputAddr : Int) : VectorCall where
  collective := collective
  interface := .descriptors
  arguments := fun rank => {
    input := contiguousIntegers inputAddr 3
    scount := rank + 1
    sent := unevenParts
    output := contiguousIntegers outputAddr 3
    rcount := rank + 1
    received := unevenParts
    commF := 0 }

private theorem contiguousIntegers_fits {interface : Interface} {baseAddr : Int}
    (elsewhere : baseAddr ≠ mpich.inPlace) (rank : Nat) :
    (contiguousIntegers baseAddr 3).Fits mpich interface (vectorSettings vectorStart rank) 3 := by
  have consecutive : (integers baseAddr 3 4).Consecutive 3 := by
    intro n below
    obtain rfl | rfl | rfl : n = 0 ∨ n = 1 ∨ n = 2 := by omega
    all_goals rfl
  exact ⟨integers_matches fun _ => consecutive, fun _ => consecutive, elsewhere⟩

private theorem unevenParts_within : unevenParts.Within 2 3 := by
  intro rank below
  obtain rfl | rfl : rank = 0 ∨ rank = 1 := by omega
  all_goals decide

private theorem unevenCount_le {rank : Nat} (below : rank < 2) : ((rank + 1 : Int)).toNat ≤ 3 := by
  omega

private theorem unevenCall_apart {collective : VectorCollective} {inputAddr outputAddr : Int}
    (input : inputAddr ≠ 48) (output : outputAddr ≠ 48) (rank : Nat) :
    ¬ (unevenCall collective inputAddr outputAddr).InputInPlace (vectorSettings vectorStart) rank ∧
      ¬ (unevenCall collective inputAddr outputAddr).OutputInPlace (vectorSettings vectorStart)
        rank :=
  ⟨input, output⟩

private theorem gatherUneven_valid :
    (unevenCall (.gatherv 0) 4096 8192).Valid mpich 2 (vectorSettings vectorStart) where
  rooted := Nat.two_pos
  sections := by
    intro rank below
    obtain ⟨input, output⟩ := @unevenCall_apart (.gatherv 0) 4096 8192 (by decide) (by decide) rank
    exact ⟨fun inPlace => absurd inPlace input,
      fun _ => ⟨3, contiguousIntegers_fits (by decide) rank, unevenCount_le below⟩,
      fun _ => ⟨output, 3, contiguousIntegers_fits (by decide) rank, unevenParts_within⟩⟩
  agrees := by decide

private theorem scatterUneven_valid :
    (unevenCall (.scatterv 0) 8192 12288).Valid mpich 2 (vectorSettings vectorStart) where
  rooted := Nat.two_pos
  sections := by
    intro rank below
    obtain ⟨input, output⟩ :=
      @unevenCall_apart (.scatterv 0) 8192 12288 (by decide) (by decide) rank
    exact ⟨fun _ => ⟨input, 3, contiguousIntegers_fits (by decide) rank, unevenParts_within⟩,
      fun inPlace => absurd inPlace output,
      fun _ => ⟨3, contiguousIntegers_fits (by decide) rank, unevenCount_le below⟩⟩
  agrees := by decide

private theorem unevenProgram_valid :
    ∀ vectorCall ∈ [unevenCall (.gatherv 0) 4096 8192, unevenCall (.scatterv 0) 8192 12288],
      vectorCall.Valid mpich 2 (vectorSettings vectorStart) :=
  List.forall_mem_cons.mpr ⟨gatherUneven_valid, List.forall_mem_singleton.mpr scatterUneven_valid⟩

private theorem unevenProgram_passable :
    ∀ vectorCall ∈ [unevenCall (.gatherv 0) 4096 8192, unevenCall (.scatterv 0) 8192 12288],
      vectorCall.Passable mpich 2 :=
  List.forall_mem_cons.mpr ⟨fun _ _ _ => ⟨rfl, rfl⟩, List.forall_mem_singleton.mpr
    fun _ _ _ => ⟨rfl, rfl⟩⟩

theorem vectorPrograms_run_uneven : ∃ after, VectorCall.Program mpich 2 vectorStart
    [unevenCall (.gatherv 0) 4096 8192, unevenCall (.scatterv 0) 8192 12288] after :=
  (vectorPrograms_run Nat.two_pos unevenProgram_valid).1.mpr unevenProgram_passable

theorem vectors_undo_uneven : ∃ last : Nat → Vectoring, ∀ rank < 2,
    ((integers 12288 3 4).elementBytes (rank + 1)).map (last rank).process.memory =
      ((integers 4096 3 4).elementBytes (rank + 1)).map (vectorStart rank).process.memory := by
  obtain ⟨last, program⟩ :=
    @VectorCall.program_of_passable mpich 2 vectorStart _ unevenProgram_passable
  refine ⟨last, fun rank below => ?_⟩
  exact @vectors_undo mpich 2 vectorStart (unevenCall (.gatherv 0) 4096 8192)
    (unevenCall (.scatterv 0) 8192 12288) last Nat.two_pos (.scatter 0) gatherUneven_valid
    scatterUneven_valid (by decide) (by decide) (by decide) program (rank, 0)
    (List.mem_map.mpr ⟨rank, List.mem_range.mpr below, rfl⟩)

/-- Each of two ranks has what it passes to all where it would receive it. -/
def allgatherInPlace : VectorCall := unevenCall .allgatherv 48 8192

/-- The same integers elsewhere. -/
def separateInputs (rank : Nat) : TypedSection :=
  contiguousIntegers (if rank = 0 then 4104 else 4096) 3

def allgatherApart : VectorCall :=
  allgatherInPlace.outOfPlace (vectorSettings vectorStart) separateInputs

private theorem allgatherInPlace_valid :
    allgatherInPlace.Valid mpich 2 (vectorSettings vectorStart) where
  rooted := trivial
  sections := by
    intro rank below
    have apart : ¬ allgatherInPlace.OutputInPlace (vectorSettings vectorStart) rank := by
      intro inPlace
      cases inPlace
    exact ⟨fun elsewhere => absurd rfl elsewhere, apart, 3,
      contiguousIntegers_fits (by decide) rank, unevenParts_within⟩
  agrees := by decide

private theorem allgatherApart_valid : allgatherApart.Valid mpich 2
    (vectorSettings vectorStart) where
  rooted := trivial
  sections := by
    intro rank below
    obtain rfl | rfl : rank = 0 ∨ rank = 1 := by omega
    · exact ⟨fun _ => ⟨3, contiguousIntegers_fits (by decide) 0, by decide⟩, by decide, 3,
        contiguousIntegers_fits (by decide) 0, unevenParts_within⟩
    · exact ⟨fun _ => ⟨3, contiguousIntegers_fits (by decide) 1, by decide⟩, by decide, 3,
        contiguousIntegers_fits (by decide) 1, unevenParts_within⟩
  agrees := by decide

private theorem separateInputs_copied : allgatherInPlace.CopiedTo 2 vectorStart separateInputs := by
  intro rank below _
  obtain rfl | rfl : rank = 0 ∨ rank = 1 := by omega
  · exact ⟨by decide, rfl⟩
  · exact ⟨by decide, rfl⟩

theorem vectors_inPlace_integers : ∃ inner outer,
    allgatherInPlace.Performed mpich 2 vectorStart inner ∧
      allgatherApart.Performed mpich 2 vectorStart outer ∧
      vectorJoint inner = vectorJoint outer := by
  have passable : allgatherInPlace.Passable mpich 2 := fun _ _ _ => ⟨rfl, rfl⟩
  have passableApart : allgatherApart.Passable mpich 2 := by
    intro _ rank below
    obtain rfl | rfl : rank = 0 ∨ rank = 1 := by omega
    · exact ⟨rfl, rfl⟩
    · exact ⟨rfl, rfl⟩
  have unrooted : ∀ root, allgatherInPlace.collective ≠ .scatterv root := by
    intro root same
    cases same
  obtain ⟨inner, within⟩ := @VectorCall.performed_of_passable mpich 2 vectorStart _ passable
  obtain ⟨outer, apart⟩ := @VectorCall.performed_of_passable mpich 2 vectorStart _ passableApart
  exact ⟨inner, outer, within, apart, vectors_inPlace Nat.two_pos unrooted
    allgatherInPlace_valid allgatherApart_valid separateInputs_copied within apart⟩

def uniformStart : Nat → Vectoring := fun _ => { process := startProcess, requests := [] }

/-- One integer of each of two ranks, for rank 0 and then for all. -/
def uniformCalls : List UniformCall :=
  [.gatherv 0, .allgatherv].map fun collective => {
    collective := collective
    count := 1
    inputs := everyRank 4096 1 4
    outputs := everyRank 8192 2 4
    commF := fun _ => 0 }

theorem uniformPrograms_run_integers : ∃ blocks vectors,
    CollectiveCall.Program mpich 2 sameStart (uniformCalls.map UniformCall.toBlock) blocks ∧
      VectorCall.Program mpich 2 uniformStart
        (uniformCalls.map (UniformCall.toVector .addresses)) vectors ∧
      joint blocks = vectorJoint vectors := by
  have inputApart : (4096 : Int) ≠ mpich.inPlace := by decide
  have outputApart : (8192 : Int) ≠ mpich.inPlace := by decide
  have valid : ∀ uniform ∈ uniformCalls, ∃ length,
      uniform.toBlock.Valid mpich 2 (vectorProcesses uniformStart) length := by
    refine List.forall_mem_map.mpr fun collective member => ⟨4, ?_⟩
    rcases List.mem_cons.mp member with rfl | last
    · exact blockOfIntegers_valid Nat.two_pos (by decide) (by decide) (by decide) (by decide)
    · obtain rfl := List.mem_singleton.mp last
      exact blockOfIntegers_valid trivial (by decide) (by decide) (by decide) (by decide)
  have lies : ∀ uniform ∈ uniformCalls, uniform.Lies mpich 2 :=
    List.forall_mem_map.mpr fun collective _ =>
      ⟨fun _ _ => ⟨rfl, inputApart⟩, fun _ _ => ⟨rfl, outputApart⟩⟩
  have separate : ∀ uniform ∈ uniformCalls, (uniform.toBlock.intended 2).Separate := by
    refine List.forall_mem_map.mpr fun collective member => ?_
    rcases List.mem_cons.mp member with rfl | last
    · exact ⟨by decide, by decide⟩
    · obtain rfl := List.mem_singleton.mp last
      exact ⟨by decide, by decide⟩
  obtain ⟨⟨blocks, runsBlocks⟩, ⟨vectors, runsVectors⟩, same⟩ :=
    @uniformPrograms_run mpich 2 uniformStart .addresses uniformCalls rfl Nat.two_pos valid lies
      separate
  exact ⟨blocks, vectors, runsBlocks, runsVectors, same blocks vectors runsBlocks runsVectors⟩

end Samples

end Vapaa
