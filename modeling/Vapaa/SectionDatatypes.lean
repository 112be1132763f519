import Vapaa.Completeness
import Vapaa.Foundation.Grids
import Vapaa.MessagePassing
import Vapaa.TypeNesting

/-!
# Datatypes in place of sections

A program that makes a datatype with `mpi_datatype.c` and passes addresses, next to one that passes
the section with the same elements.
-/

set_option autoImplicit false

namespace Vapaa

open Foundation

namespace TypeTree

/-- The predefined datatype that nested calls begin with. -/
def base : TypeTree → NamedType
  | .predefined type => type
  | .contiguous _ old | .vector _ _ _ old | .subarray _ _ old | .dup old | .commit old => old.base

variable (named : NamedType → Layout)

/-- Where the elements of a datatype lie. -/
def grid : TypeTree → Grid
  | .predefined _ => .point
  | .contiguous count old => old.grid.compose (.line count (old.layout named).extent)
  | .vector count blocklength stride old =>
      old.grid.compose (.blocks count blocklength (stride * (old.layout named).extent)
        (old.layout named).extent)
  | .subarray slices .c old => old.grid.compose (.part slices.reverse (old.layout named).extent)
  | .subarray slices .fortran old => old.grid.compose (.part slices (old.layout named).extent)
  | .dup old => old.grid
  | .commit old => old.grid

/-- Nested calls place elements on the grid that they describe. -/
theorem layout_onGrid {named : NamedType → Layout} {tree : TypeTree} {length : Nat}
    (solid : (named tree.base).Solid length) :
    (tree.layout named).OnGrid length (tree.grid named) := by
  induction tree with
  | predefined type => exact solid.onGrid
  | contiguous count old ih => exact (ih solid).contiguous count
  | vector count blocklength stride old ih => exact (ih solid).vector count blocklength stride
  | subarray slices order old ih =>
      cases order with
      | c => exact (ih solid).subarray slices.reverse
      | fortran => exact (ih solid).subarray slices
  | dup old ih => exact ih solid
  | commit old ih => exact ih solid

theorem Valid.base {mpi : Mpi} {tree : TypeTree} (valid : tree.Valid mpi) :
    tree.base ≠ .datatypeNull ∧ mpi.has (.datatype tree.base) = true := by
  induction tree with
  | predefined type => exact valid
  | subarray slices order old ih => exact ih valid.2.2
  | contiguous count old ih => exact ih valid
  | vector count blocklength stride old ih => exact ih valid
  | dup old ih => exact ih valid
  | commit old ih => exact ih valid

end TypeTree

/-- The section whose elements lie on a grid, from an address on. -/
structure CDesc.LiesOn (desc : CDesc) (address : Int) (grid : Grid) : Prop where
  baseAddr : desc.baseAddr = address + grid.offset
  shape : desc.shape = grid.shape
  strides : desc.strides = grid.strides

theorem CDesc.LiesOn.elementBytes_eq {desc : CDesc} {address : Int} {grid : Grid}
    (lies : desc.LiesOn address grid) :
    desc.elementBytes desc.elements =
      grid.displacements.flatMap fun place => span (address + place) desc.elemLen := by
  rw [Grid.displacements, MixedRadix.indices_eq_map_digits, List.map_map, List.flatMap_map,
    elementBytes, List.flatMap_map, ← lies.shape]
  apply List.flatMap_congr
  intro n member
  have below : n < desc.elements := List.mem_range.mp member
  rw [CDesc.address, displacement_eq_dot below, lies.baseAddr, lies.strides, Function.comp_apply,
    add_assoc]

/-- A transfer of copies of a datatype, which a program makes and commits before. -/
structure TypedPosting where
  transfer : Transfer
  tree : TypeTree
  address : Int
  count : Nat
  peer : Int
  tag : Int
  commF : Int
  status : Int

namespace TypedPosting

variable (typed : TypedPosting)

/-- Where the elements lie that are transferred. -/
def grid (named : NamedType → Layout) : Grid :=
  (typed.tree.grid named).compose (.line typed.count (typed.tree.layout named).extent)

/-- The same transfer, of a section. -/
def posting {Party : Type} (party : Party) (desc : CDesc) : Posting Party where
  party := party
  transfer := typed.transfer
  desc := desc
  count := desc.elements
  datatypeF := typed.tree.base.vapaa
  peer := typed.peer
  tag := typed.tag
  commF := typed.commF
  status := typed.status

variable (mpi : Mpi) (constants : TypeConstants) (reply : Reply)

/-- The wrapper for addresses. Returns `*ierror`. -/
def pass (datatypeF : Int) : Wrapper Int :=
  match typed.transfer with
  | .send =>
      cMpiSend mpi reply typed.address typed.count datatypeF typed.peer typed.tag typed.commF
  | .isend => do
      let (_, ierror) ← cMpiIsend mpi reply typed.address typed.count datatypeF typed.peer typed.tag
        typed.commF
      return ierror
  | .recv =>
      cMpiRecv mpi reply typed.address typed.count datatypeF typed.peer typed.tag typed.commF
        typed.status
  | .irecv => do
      let (_, ierror) ← cMpiIrecv mpi reply typed.address typed.count datatypeF typed.peer typed.tag
        typed.commF
      return ierror

def run : Wrapper Int := do
  let datatypeF ← call ((TypeTree.commit typed.tree).build mpi constants)
  typed.pass mpi reply datatypeF

end TypedPosting

section Transfers

variable {Party : Type} {mpi : Mpi} {constants : TypeConstants} {named : NamedType → Layout}
variable {process : Process} {net : Network Party} {party : Party} {reply : Reply}
variable {typed : TypedPosting} {tree : TypeTree} {desc : CDesc}

/-- A committed datatype comes back, and nothing else of the process changes but its datatypes. -/
theorem TypeTree.build_committed (convert : TypesConvert mpi process.world.types)
    (provides : Provides mpi named process.world.types) (valid : tree.Valid mpi)
    (translated : (TypeTree.commit tree).Translated) :
    ∃ datatypeF world object,
      call ((TypeTree.commit tree).build mpi constants) process =
        .returned (datatypeF, { process with world := world }) ∧
      world.types.object (cMpiTypeF2c mpi datatypeF) = some object ∧
      object.committed = true ∧ object.layout = tree.layout named := by
  obtain ⟨oldF, middle, built, reaches⟩ :=
    @build_reaches mpi constants named tree process.world convert provides valid translated.2
  obtain ⟨old, live, same, kept, read⟩ := reaches.live convert translated.1
  refine ⟨oldF, { middle with types := middle.types.commit (mpi.f2c .datatype oldF) },
    { old with committed := true }, call_of_returned ?_, ?_, rfl, same⟩
  · rw [TypeTree.build, Run.bind_of_returned built,
      Run.bind_of_returned (cMpiTypeCommit_returned live), kept]
    rfl
  · rw [read]
    simp [TypeStore.commit, live]

/-- The wrapper for addresses passes on what it is given. -/
theorem TypedPosting.pass_asks (desc : CDesc) (datatypeF : Int)
    (success : reply.rc = mpi.errorClass .success) :
    ∃ final, typed.pass mpi reply datatypeF process = .returned (mpi.errorClass .success, final) ∧
      final.issued = process.issued ++ [(typed.posting party desc).issued mpi
        (process.world.types.buffer typed.address typed.count (cMpiTypeF2c mpi datatypeF))] ∧
      final.memory = match typed.transfer with
        | .recv => process.memory.writeAll ((process.world.types.buffer typed.address typed.count
            (cMpiTypeF2c mpi datatypeF)).locations.zip reply.received)
        | _ => process.memory := by
  simp only [pass, Posting.issued, posting]
  cases typed.transfer with
  | send =>
      refine ⟨{ process with issued := _ }, ?_, rfl, rfl⟩
      exact (Run.bind_of_returned rfl).trans (convert_success success)
  | isend =>
      refine ⟨{ process with issued := _ }, ?_, rfl, rfl⟩
      exact ierror_of_request rfl success
  | recv =>
      have asked (status : StatusPointer) : ∃ final,
          mpiRecv mpi reply typed.address typed.count (cMpiTypeF2c mpi datatypeF) typed.peer
            typed.tag (cMpiCommF2c mpi typed.commF) status process = .returned (reply.rc, final) ∧
          final.issued = process.issued ++ [.recv (process.world.types.buffer typed.address
            typed.count (cMpiTypeF2c mpi datatypeF)) typed.peer typed.tag
            (cMpiCommF2c mpi typed.commF)] ∧
          final.memory = process.memory.writeAll ((process.world.types.buffer typed.address
            typed.count (cMpiTypeF2c mpi datatypeF)).locations.zip reply.received) :=
        ⟨_, rfl, rfl, rfl⟩
      obtain ⟨final, returned, issued, memory⟩ := asked _
      refine ⟨final, ?_, issued, memory⟩
      refine (Run.bind_of_returned (statusArgument_apply _ _ _)).trans ?_
      exact (Run.bind_of_returned returned).trans (convert_success success)
  | irecv =>
      refine ⟨{ process with issued := _ }, ?_, rfl, rfl⟩
      exact ierror_of_request rfl success

/-- A program that makes a datatype by any nesting of calls and transfers copies of it by their
address has the same elements transferred, in the same order, as one that passes the section where
these elements lie. -/
theorem typedPosting_as_section
    (lies : desc.LiesOn typed.address (typed.grid named))
    (convert : TypesConvert mpi (net.processes party).world.types)
    (provides : Provides mpi named (net.processes party).world.types)
    (built : typed.tree.Valid mpi) (translated : (TypeTree.commit typed.tree).Translated)
    (valid : (typed.posting party desc).Valid mpi net)
    (passable : (typed.posting party desc).Passable mpi net)
    (success : reply.rc = mpi.errorClass .success) :
    ∃ typedBuffer sectionBuffer typedFinal sectionFinal,
      typed.run mpi constants reply (net.processes party) =
        .returned (mpi.errorClass .success, typedFinal) ∧
      (typed.posting party desc).run mpi reply (net.processes party) =
        .returned (mpi.errorClass .success, sectionFinal) ∧
      typedFinal.issued = (net.processes party).issued ++
        [(typed.posting party desc).issued mpi typedBuffer] ∧
      sectionFinal.issued = (net.processes party).issued ++
        [(typed.posting party desc).issued mpi sectionBuffer] ∧
      typedBuffer.Carries (desc.elementBytes desc.elements) ∧
      sectionBuffer.Carries (desc.elementBytes desc.elements) ∧
      typedFinal.memory = sectionFinal.memory := by
  obtain ⟨datatypeF, world, object, returned, live, committed, layout⟩ :=
    @TypeTree.build_committed mpi constants named _ _ convert provides built translated
  obtain ⟨final, passed, issued, memory⟩ :=
    @TypedPosting.pass_asks Party mpi { net.processes party with world := world } party reply typed
      desc datatypeF success
  obtain ⟨sectionBuffer, sectionFinal, carries, sectioned, sectionIssued, sectionMemory, -⟩ :=
    Posting.run_passes valid passable success
  have solid : (named typed.tree.base).Solid desc.elemLen := by
    obtain ⟨known, found, -, -, filled⟩ := valid.argument.fills
    obtain ⟨other, provided, same⟩ := provides _ built.base.1 built.base.2
    have read : cMpiTypeF2c mpi (typed.posting party desc).datatypeF =
        mpi.datatype typed.tree.base := cMpiTypeF2c_vapaa built.base.2
    have one : known = other := Option.some.inj (found.symm.trans (read ▸ provided))
    rw [← same, ← one]
    exact filled
  have locations : (world.types.buffer typed.address typed.count
      (cMpiTypeF2c mpi datatypeF)).locations = desc.elementBytes desc.elements := by
    have onGrid := TypeTree.layout_onGrid solid
    have placed := onGrid.locations_eq typed.address typed.count
    simp only [TypeStore.buffer, Buffer.locations, live, layout, Int.toNat_natCast]
    rw [placed, lies.elementBytes_eq]
    rfl
  refine ⟨_, sectionBuffer, final, sectionFinal, (Run.bind_of_returned returned).trans passed,
    sectioned, issued, sectionIssued, ⟨Int.natCast_nonneg _, ⟨object, live, committed⟩, locations⟩,
    carries, ?_⟩
  rw [memory, sectionMemory, Posting.received, TypedPosting.posting]
  cases typed.transfer with
  | recv => exact congrArg (fun places => Memory.writeAll _ (places.zip reply.received)) locations
  | send | isend | irecv => rfl

end Transfers

section Samples

/-- Two rows of an array of four by three integers. -/
def twoRows : TypedPosting where
  transfer := .send
  tree := .subarray [{ size := 4, subsize := 2, start := 1 }, { size := 3, subsize := 3, start := 0 }]
    .fortran (.predefined .integer)
  address := 4096
  count := 1
  peer := 1
  tag := 7
  commF := 0
  status := 16

def twoRowsSection : CDesc :=
  sectionOf 4100 4 1025 [{ lowerBound := 0, extent := 2, sm := 4 },
    { lowerBound := 0, extent := 3, sm := 16 }, { lowerBound := 0, extent := 1, sm := 48 }]
    (by decide)

private theorem twoRowsSection_liesOn : twoRowsSection.LiesOn 4096 (twoRows.grid mpichLayout) where
  baseAddr := by decide
  shape := by decide
  strides := by decide

private theorem twoRowsSection_accepted : twoRowsSection.Accepted mpich predefinedTypes 6 := by
  have acceptable : twoRowsSection.Acceptable mpich 6 4 := by
    have constructible : twoRowsSection.Constructible mpich 6 :=
      ⟨fun deep => absurd deep (by decide), fun _ => by decide⟩
    have inhabited : twoRowsSection.Inhabited := by decide
    exact (inhabited.acceptable_iff (by decide) (by decide) (by decide)).mpr constructible
  exact ⟨Mpich.datatype .int32T, Mpich.object .int32T, by decide, by decide,
    fun scalar => absurd scalar (by decide), fun _ => acceptable⟩

theorem twoRows_as_section : ∃ typedBuffer sectionBuffer typedFinal sectionFinal,
    twoRows.run mpich mpichTypes successfulReply (twoProcesses.processes 0) =
      .returned (0, typedFinal) ∧
    (twoRows.posting 0 twoRowsSection).run mpich successfulReply (twoProcesses.processes 0) =
      .returned (0, sectionFinal) ∧
    typedFinal.issued = [.send typedBuffer 1 7 0] ∧
    sectionFinal.issued = [.send sectionBuffer 1 7 0] ∧
    typedBuffer.locations = span 4100 8 ++ span 4116 8 ++ span 4132 8 ∧
    sectionBuffer.locations = span 4100 8 ++ span 4116 8 ++ span 4132 8 := by
  have elements : (twoRows.posting 0 twoRowsSection).Valid mpich twoProcesses := by
    refine ⟨predefinedTypes_basic, by decide, by decide, by decide, predefinedTypes_fills, ?_⟩
    decide
  obtain ⟨typedBuffer, sectionBuffer, typedFinal, sectionFinal, typedRuns, sectionRuns, typedAsks,
      sectionAsks, typedCarries, sectionCarries, -⟩ :=
    @typedPosting_as_section Nat mpich mpichTypes mpichLayout twoProcesses 0 successfulReply twoRows
      twoRowsSection twoRowsSection_liesOn mpich_convert mpich_provides
      ⟨by decide, by decide, by decide, by decide⟩ ⟨trivial, trivial⟩ elements
      (fun _ => twoRowsSection_accepted) rfl
  refine ⟨typedBuffer, sectionBuffer, typedFinal, sectionFinal, typedRuns, sectionRuns, typedAsks,
    sectionAsks, typedCarries.locations_eq.trans ?_, sectionCarries.locations_eq.trans ?_⟩
  · decide
  · decide

end Samples

end Vapaa
