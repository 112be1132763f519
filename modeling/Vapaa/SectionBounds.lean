import Vapaa.IndexedSections
import Vapaa.NamedSections
import Vapaa.SafeBuilds

/-!
# Bounds of the builder

When the builder stays inside the section: it does nothing undefined, and the datatype of a
success selects elements of the section only.
-/

set_option autoImplicit false

namespace Vapaa

open Foundation Builder

/-- Every entry of the created datatype is one of the element type at an element. -/
def Inside (mpi : Mpi) (desc : CDesc) (types : TypeStore) (result : Int × Int) (final : World) :
    Prop :=
  result.1 = mpi.errorClass .success →
    ∃ element old created, mappedType mpi desc.type = some element ∧
      types.object element = some old ∧ final.types.object result.2 = some created ∧
      ∀ entry ∈ created.layout.map, ∃ n, n < desc.elements ∧
        entry ∈ TypeMap.shift (desc.displacement n) old.layout.map

/-- Elements that the array of lengths and the array of displacements of the indexed
construction are allocated for. -/
def indexedElements (mpi : Mpi) (desc : CDesc) (input : TypeObject) (count : Nat) : Int :=
  count * (((reportedSegments mpi input).map Segment.iovLen).sum /
    toSizeT (toInt desc.elemLen) : Nat)

/-- What the selection loops need: the arrays have a cell for every element, and the vector has
the address of every element that is selected. -/
structure SelectionInside (mpi : Mpi) (desc : CDesc) (input : TypeObject) (count : Nat) :
    Prop where
  addresses : desc.listed.length ≤ toSizeT (desc.elements * 8) / 8
  steps : StepsFit input.layout.extent count
  lengths : (selected mpi desc input count).length ≤
    toSizeT (indexedElements mpi desc input count * 4) / 4
  starts : (selected mpi desc input count).length ≤
    toSizeT (indexedElements mpi desc input count * 8) / 8
  lists : ListsSelected mpi desc input count

/-- What the indexed construction needs to stay within its language, as far as memory lets it
go: without memory the program ends. -/
def DerivedSafe (mpi : Mpi) (desc : CDesc) (input : TypeObject) (count : Nat) : Prop :=
  match mpi.iovSupport with
  | .available =>
      mpi.allocates (toSizeT ((reportedSegments mpi input).length * 16)) = true →
        (reportedSegments mpi input).length * 16 < 18446744073709551616 ∧
        toInt desc.elemLen ≠ 0 ∧
        (mpi.allocates (toSizeT (indexedElements mpi desc input count * 4)) = true →
          mpi.allocates (toSizeT (indexedElements mpi desc input count * 8)) = true →
            desc.SsizeElements ∧
              (mpi.allocates (toSizeT (desc.elements * 8)) = true →
                SelectionInside mpi desc input count))
  | .mpichTooOld => False
  | .notMpich => True

/-- The same where the arrays are as long as for one number of copies, and another number
of copies is selected. -/
def DerivedDefined (mpi : Mpi) (desc : CDesc) (input : TypeObject) (size copies : Nat) : Prop :=
  match mpi.iovSupport with
  | .available =>
      mpi.allocates (toSizeT ((reportedSegments mpi input).length * 16)) = true →
        (reportedSegments mpi input).length * 16 < 18446744073709551616 ∧
        toInt desc.elemLen ≠ 0 ∧
        (mpi.allocates (toSizeT (indexedElements mpi desc input size * 4)) = true →
          mpi.allocates (toSizeT (indexedElements mpi desc input size * 8)) = true →
            desc.SsizeElements ∧
              (mpi.allocates (toSizeT (desc.elements * 8)) = true →
                SelectionInside mpi desc input copies))
  | .mpichTooOld => False
  | .notMpich => True

private theorem derivedSafe_iff_defined (mpi : Mpi) (desc : CDesc) (input : TypeObject)
    (count : Nat) :
    DerivedSafe mpi desc input count ↔ DerivedDefined mpi desc input count count := Iff.rfl

section Stages

variable (mpi : Mpi) (desc : CDesc) (inputDatatype arrayDatatype : Int)

private theorem indexedArrays_congr {count : Int} {size : Nat}
    (same : ∀ value : Int, toSizeT (count * value) = toSizeT (size * value)) :
    indexedArrays mpi desc count inputDatatype = indexedArrays mpi desc size inputDatatype := by
  simp only [indexedArrays, mul_assoc, same]

/-- The arrays are as long as for a number of copies that is the count as `size_t`. -/
theorem vapaaCfiCreateIndexed_eq_bind {count : Int} {size : Nat}
    (available : mpi.iovSupport = .available)
    (same : ∀ value : Int, toSizeT (count * value) = toSizeT (size * value)) :
    vapaaCfiCreateIndexed mpi desc count inputDatatype arrayDatatype = (do
      let (segments, extent, arrayOfBlocklengths, arrayOfDisplacements) ←
        indexedArrays mpi desc size inputDatatype
      let input ← vapaaCfiCreateElementAddresses mpi desc
      let selection ← Run.ofOutcome
        (selectElements input extent (toInt desc.elemLen) segments count {
          arrayOfBlocklengths := arrayOfBlocklengths
          arrayOfDisplacements := arrayOfDisplacements
          index := 0 })
      let n := selection.index
      vapaaAssert mpi ((n : Int) < intMax)
      let elemDt ← vapaaCfiToMpiType mpi desc.type
      let (rc, arrayDatatype) ← pmpiTypeCreateHindexed mpi (toInt n)
        selection.arrayOfBlocklengths selection.arrayOfDisplacements elemDt arrayDatatype
      vapaaAssert mpi (rc = mpi.errorClass .success)
      return (mpi.errorClass .success, arrayDatatype)) := by
  rw [vapaaCfiCreateIndexed, Builder.vapaaCfiCreateIndexed, available,
    ← indexedArrays_congr mpi desc inputDatatype same]
  simp only [plain_call]
  rfl

end Stages

/-- The construction for derived datatypes has memory for its arrays. -/
structure ArraysAllocated (mpi : Mpi) (desc : CDesc) (input : TypeObject) (count : Nat) : Prop where
  available : mpi.iovSupport = .available
  segments : mpi.allocates (toSizeT ((reportedSegments mpi input).length * 16)) = true
  room : (reportedSegments mpi input).length * 16 < 18446744073709551616
  divides : toInt desc.elemLen ≠ 0
  lengths : mpi.allocates (toSizeT (indexedElements mpi desc input count * 4)) = true
  starts : mpi.allocates (toSizeT (indexedElements mpi desc input count * 8)) = true

section Indexed

variable {mpi : Mpi} {desc : CDesc} {world : World} {count : Nat}
variable {inputDatatype arrayDatatype : Int} {input : TypeObject}

private theorem vapaaCreateMpixIov_of_missing (active : mpi.seatbelts = true)
    (available : mpi.iovSupport = .available)
    (missing : mpi.allocates (toSizeT ((reportedSegments mpi input).length * 16)) ≠ true)
    (live : world.types.object inputDatatype = some input) :
    vapaaCreateMpixIov mpi inputDatatype world = .aborted := by
  rw [reportedSegments] at missing
  have none : malloc mpi (toSizeT
      ((segmentsWithin intMax.toNat (mpi.typeIov input.layout)).length * 16)) 16 =
        (none : Option (Cells Segment)) := by
    rw [malloc, if_neg missing]
  simp only [vapaaCreateMpixIov, available, Run.bind_apply, mpixTypeIovLen, live,
    Outcome.returned_bind, decide_true, Run.pure_apply, Run.readSet_some, none,
    Option.isSome_none, vapaaAssert, active, Bool.false_eq_true, if_false, if_true,
    Run.abort_apply, Outcome.aborted_bind]

/-- Without memory for the addresses the program ends once the elements are counted. -/
theorem vapaaCfiCreateElementAddresses_of_missing (active : mpi.seatbelts = true)
    (sized : desc.Sized) (missing : mpi.allocates (toSizeT (desc.elements * 8)) ≠ true)
    (world : World) :
    desc.SsizeElements ∧ vapaaCfiCreateElementAddresses mpi desc world = .aborted ∨
      ¬ desc.SsizeElements ∧
        vapaaCfiCreateElementAddresses mpi desc world = .undefined .overflow := by
  have whole : List.range desc.rank = List.range' 0 desc.rank := List.range_eq_range'
  have none : malloc mpi (toSizeT (desc.elements * 8)) 8 = (none : Option (Cells Int)) := by
    rw [malloc, if_neg missing]
  obtain ⟨final, counting, -, within⟩ | ⟨counting, large⟩ :=
    vapaaCfiGetTotalElements_cases sized (Nat.zero_add desc.rank) world
  · rw [desc.leadingElements_zero, sized.leadingElements_rank] at counting
    refine Or.inl ⟨fun k inside => within k (Nat.zero_le k) inside, ?_⟩
    rw [vapaaCfiCreateElementAddresses, Builder.vapaaCfiCreateElementAddresses,
      vapaaCfiGetTotalElements_plain, whole, Run.bind_of_returned counting, none]
    simp [vapaaAssert, active, Run.bind_apply]
  · rw [desc.leadingElements_zero] at counting
    refine Or.inr ⟨large, ?_⟩
    rw [vapaaCfiCreateElementAddresses, Builder.vapaaCfiCreateElementAddresses,
      vapaaCfiGetTotalElements_plain, whole, Run.bind_apply, counting, Outcome.undefined_bind]

/-- A listed address is that of an element, also where the extents lose bits as `int`. -/
theorem CDesc.Sized.listed_displacement (sized : desc.Sized) {address : Int}
    (listed : address ∈ desc.listed) :
    ∃ n, n < desc.elements ∧ address - desc.baseAddr = desc.displacement n := by
  obtain ⟨m, member, rfl⟩ := List.mem_map.mp listed
  have below : List.Forall₂ (· ≤ ·) desc.convertedShape desc.shape := by
    rw [CDesc.convertedShape, CDesc.shape, CDesc.extents, List.map_map, List.forall₂_map_left_iff,
      List.forall₂_map_right_iff, List.forall₂_same]
    intro k inside
    exact Int.toNat_le_toNat (toInt_le (sized k (List.mem_range.mp inside)))
  obtain ⟨n, inside, same⟩ :=
    MixedRadix.exists_digits_eq below (List.mem_range.mp member)
  refine ⟨n, inside, ?_⟩
  rw [CDesc.displacement_eq_dot inside, same, add_sub_cancel_left]

theorem selectedDisplacements_inside (sized : desc.Sized)
    (lists : ListsSelected mpi desc input count) :
    ∀ displacement ∈ selectedDisplacements mpi desc input count,
      ∃ n, n < desc.elements ∧ displacement = desc.displacement n := by
  intro displacement member
  obtain ⟨visit, visited, rfl⟩ := List.mem_map.mp member
  obtain ⟨address, found⟩ := Option.isSome_iff_exists.mp (lists visit visited)
  rw [found, Option.getD_some]
  exact sized.listed_displacement (List.mem_of_getElem? found)

private theorem safe_created_inside (active : mpi.seatbelts = true) (basic : world.types.Basic mpi)
    {displacements : List Int} {spareLengths spareStarts : Cells Int}
    (few : (displacements.length : Int) < intMax)
    (inside : ∀ displacement ∈ displacements,
      ∃ n, n < desc.elements ∧ displacement = desc.displacement n) :
    Run.Safe (do
        let elemDt ← vapaaCfiToMpiType mpi desc.type
        let (rc, arrayDatatype) ← pmpiTypeCreateHindexed mpi (toInt displacements.length)
          ((List.replicate displacements.length 1).map some ++ spareLengths)
          (displacements.map some ++ spareStarts) elemDt arrayDatatype
        vapaaAssert mpi (rc = mpi.errorClass .success)
        return (mpi.errorClass .success, arrayDatatype) : Call (Int × Int)) world
      (Inside mpi desc world.types) := by
  have exactly : toInt (displacements.length : Int) = displacements.length :=
    toInt_of_bounds (by omega) (by omega)
  rw [exactly]
  cases mapped : mappedType mpi desc.type with
  | none =>
      obtain ⟨element, middle, translated⟩ := @safe_vapaaCfiToMpiType mpi world desc.type
      obtain ⟨rfl, same⟩ := vapaaCfiToMpiType_of_unmapped mapped _ _ translated
      have dead : middle.types.object (mpi.datatype .datatypeNull) = none := same ▸ basic.null
      rw [Run.safe_bind_of_returned translated, Run.safe_bind_of_returned
        (pmpiTypeCreateHindexed_of_dead displacements spareLengths spareStarts dead)]
      dsimp only
      rw [Run.safe_bind, safe_vapaaAssert active]
      intro succeeded
      exact absurd (of_decide_eq_true succeeded) (by simp)
  | some element =>
      obtain ⟨old, live, -⟩ := basic.elements _ element mapped
      rw [Run.safe_bind_of_returned (vapaaCfiToMpiType_of_mapped mapped world)]
      have created := @pmpiTypeCreateHindexed_of_set mpi world element arrayDatatype old
        displacements spareLengths spareStarts live
      rw [createType] at created
      rw [Run.safe_bind_of_returned created]
      dsimp only
      rw [Run.safe_bind, safe_vapaaAssert active]
      intro _ _
      refine ⟨element, old, _, mapped, live, TypeStore.create_object_next _ _, ?_⟩
      intro entry member
      obtain ⟨displacement, taken, placed⟩ := List.mem_flatMap.mp member
      obtain ⟨n, below, rfl⟩ := inside displacement taken
      exact ⟨n, below, placed⟩

private theorem safe_selectElements (active : mpi.seatbelts = true) (basic : world.types.Basic mpi)
    (sized : desc.Sized) (divides : toInt desc.elemLen ≠ 0) (unset lengths starts : Nat) :
    Run.Safe (do
        let selection ← Run.ofOutcome
          (selectElements (desc.listed.map some ++ Cells.fresh unset) input.layout.extent
            (toInt desc.elemLen) (reportedSegments mpi input) count
            (Selection.filled [] lengths starts))
        let n := selection.index
        vapaaAssert mpi ((n : Int) < intMax)
        let elemDt ← vapaaCfiToMpiType mpi desc.type
        let (rc, arrayDatatype) ← pmpiTypeCreateHindexed mpi (toInt n)
          selection.arrayOfBlocklengths selection.arrayOfDisplacements elemDt arrayDatatype
        vapaaAssert mpi (rc = mpi.errorClass .success)
        return (mpi.errorClass .success, arrayDatatype) : Call (Int × Int)) world
        (Inside mpi desc world.types) ↔
      StepsFit input.layout.extent count ∧ (selected mpi desc input count).length ≤ lengths ∧
        (selected mpi desc input count).length ≤ starts ∧ ListsSelected mpi desc input count := by
  rw [Run.safe_bind, Run.safe_ofOutcome (selectElements_ne_aborted _ _ _ _ _ _)]
  constructor
  · rintro ⟨final, finished, -⟩
    have steps := stepsFit_of_selectElements finished
    rw [selectElements_eq_foldlM divides steps] at finished
    obtain ⟨lengthsFit, startsFit⟩ := room_of_foldlM_selectOffset finished
    rw [List.length_map] at lengthsFit startsFit
    refine ⟨steps, lengthsFit, startsFit, ?_⟩
    intro visit member
    obtain ⟨address, loaded⟩ :=
      loads_of_foldlM_selectOffset finished _ (List.mem_map_of_mem member)
    rw [load_listed] at loaded
    rw [selectedAddress, loaded]
    rfl
  · rintro ⟨steps, lengthsFit, startsFit, lists⟩
    obtain ⟨spareLengths, rfl⟩ := Nat.exists_eq_add_of_le lengthsFit
    obtain ⟨spareStarts, rfl⟩ := Nat.exists_eq_add_of_le startsFit
    refine ⟨_, selectElements_of_lists divides steps lists unset spareLengths spareStarts, ?_⟩
    have inside := selectedDisplacements_inside sized lists
    generalize selectedDisplacements mpi desc input count = displacements at inside ⊢
    dsimp only [Selection.filled]
    rw [Run.safe_bind, safe_vapaaAssert active]
    intro few
    exact safe_created_inside active basic (of_decide_eq_true few) inside

private theorem safe_selectAddresses (active : mpi.seatbelts = true) (basic : world.types.Basic mpi)
    (sized : desc.Sized) (divides : toInt desc.elemLen ≠ 0) (lengths starts : Nat) :
    Run.Safe (do
        let listed ← vapaaCfiCreateElementAddresses mpi desc
        let selection ← Run.ofOutcome
          (selectElements listed input.layout.extent (toInt desc.elemLen)
            (reportedSegments mpi input) count (Selection.filled [] lengths starts))
        let n := selection.index
        vapaaAssert mpi ((n : Int) < intMax)
        let elemDt ← vapaaCfiToMpiType mpi desc.type
        let (rc, arrayDatatype) ← pmpiTypeCreateHindexed mpi (toInt n)
          selection.arrayOfBlocklengths selection.arrayOfDisplacements elemDt arrayDatatype
        vapaaAssert mpi (rc = mpi.errorClass .success)
        return (mpi.errorClass .success, arrayDatatype) : Call (Int × Int)) world
        (Inside mpi desc world.types) ↔
      desc.SsizeElements ∧ (mpi.allocates (toSizeT (desc.elements * 8)) = true →
        desc.listed.length ≤ toSizeT (desc.elements * 8) / 8 ∧
          StepsFit input.layout.extent count ∧ (selected mpi desc input count).length ≤ lengths ∧
          (selected mpi desc input count).length ≤ starts ∧ ListsSelected mpi desc input count) := by
  by_cases hasAddresses : mpi.allocates (toSizeT (desc.elements * 8)) = true
  · obtain ⟨⟨numbered, room⟩, unset, middle, listing, same⟩ | ⟨unfit, fault, faulty⟩ :=
      vapaaCfiCreateElementAddresses_cases sized hasAddresses world
    · rw [← same] at basic ⊢
      rw [Run.safe_bind_of_returned listing, safe_selectElements active basic sized divides]
      exact ⟨fun inside => ⟨numbered, fun _ => ⟨room, inside⟩⟩,
        fun whole => (whole.2 hasAddresses).2⟩
    · rw [Run.safe_bind]
      exact ⟨fun safe => absurd safe (Run.not_safe_of_undefined faulty),
        fun whole => absurd ⟨whole.1, (whole.2 hasAddresses).1⟩ unfit⟩
  · rw [Run.safe_bind]
    obtain ⟨numbered, aborted⟩ | ⟨large, faulty⟩ :=
      vapaaCfiCreateElementAddresses_of_missing active sized hasAddresses world
    · exact ⟨fun _ => ⟨numbered, fun present => absurd present hasAddresses⟩,
        fun _ => Run.safe_of_aborted aborted⟩
    · exact ⟨fun safe => absurd safe (Run.not_safe_of_undefined faulty),
        fun whole => absurd whole.1 large⟩

private theorem selectionInside_iff :
    SelectionInside mpi desc input count ↔
      desc.listed.length ≤ toSizeT (desc.elements * 8) / 8 ∧
        StepsFit input.layout.extent count ∧
        (selected mpi desc input count).length ≤
          toSizeT (indexedElements mpi desc input count * 4) / 4 ∧
        (selected mpi desc input count).length ≤
          toSizeT (indexedElements mpi desc input count * 8) / 8 ∧
        ListsSelected mpi desc input count :=
  ⟨fun inside => ⟨inside.addresses, inside.steps, inside.lengths, inside.starts, inside.lists⟩,
    fun ⟨addresses, steps, lengths, starts, lists⟩ => ⟨addresses, steps, lengths, starts, lists⟩⟩

theorem indexedArrays_of_allocated (allocated : ArraysAllocated mpi desc input count)
    (live : world.types.object inputDatatype = some input) :
    indexedArrays mpi desc count inputDatatype world =
      .returned ((reportedSegments mpi input, input.layout.extent,
        Cells.fresh (toSizeT (indexedElements mpi desc input count * 4) / 4),
        Cells.fresh (toSizeT (indexedElements mpi desc input count * 8) / 8)), world) := by
  obtain ⟨-, reporting⟩ | ⟨long, -⟩ :=
    vapaaCreateMpixIov_cases allocated.available allocated.segments live
  swap
  · exact absurd allocated.room long
  have extent : mpiTypeGetExtent mpi inputDatatype world = .returned
      ((mpi.errorClass .success, some (input.layout.lb, input.layout.extent)), world) := by
    simp only [mpiTypeGetExtent, live]
  have counted : (count : Int) * (((reportedSegments mpi input).map Segment.iovLen).sum /
      toSizeT (toInt desc.elemLen) : Nat) = indexedElements mpi desc input count := rfl
  rw [indexedArrays, Run.bind_of_returned reporting]
  simp only [Option.isSome_some, vapaaAssert_true, pure_bind, Run.readSet]
  rw [Run.bind_of_returned extent]
  simp only [decide_true, vapaaAssert_true, pure_bind]
  rw [counted, if_neg (mt toSizeT_toInt_eq_zero.mp allocated.divides)]
  -- the rooms are named, so that no division is left to unfold
  obtain ⟨lengths, lengthsRoom, lengthCells⟩ : ∃ lengths : Nat,
      lengths = toSizeT (indexedElements mpi desc input count * 4) / 4 ∧
        malloc mpi (toSizeT (indexedElements mpi desc input count * 4)) 4 =
          some (Cells.fresh lengths : Cells Int) := ⟨_, rfl, if_pos allocated.lengths⟩
  obtain ⟨starts, startsRoom, startCells⟩ : ∃ starts : Nat,
      starts = toSizeT (indexedElements mpi desc input count * 8) / 8 ∧
        malloc mpi (toSizeT (indexedElements mpi desc input count * 8)) 8 =
          some (Cells.fresh starts : Cells Int) := ⟨_, rfl, if_pos allocated.starts⟩
  rw [lengthCells, startCells, ← lengthsRoom, ← startsRoom]
  simp only [Option.isSome_some, vapaaAssert_true, pure_bind, Option.getD_some]
  rfl

/-- The arrays are allocated, or the program ends for want of memory, or it does something
undefined before. -/
theorem indexedArrays_cases (active : mpi.seatbelts = true)
    (available : mpi.iovSupport = .available)
    (live : world.types.object inputDatatype = some input) :
    (ArraysAllocated mpi desc input count ∧ ∃ lengths starts,
      lengths = toSizeT (indexedElements mpi desc input count * 4) / 4 ∧
      starts = toSizeT (indexedElements mpi desc input count * 8) / 8 ∧
      indexedArrays mpi desc count inputDatatype world =
        .returned ((reportedSegments mpi input, input.layout.extent,
          Cells.fresh lengths, Cells.fresh starts), world)) ∨
    (mpi.allocates (toSizeT ((reportedSegments mpi input).length * 16)) = true →
      (reportedSegments mpi input).length * 16 < 18446744073709551616 ∧
      toInt desc.elemLen ≠ 0 ∧
      (mpi.allocates (toSizeT (indexedElements mpi desc input count * 4)) = true →
        mpi.allocates (toSizeT (indexedElements mpi desc input count * 8)) ≠ true)) ∧
      indexedArrays mpi desc count inputDatatype world = .aborted ∨
    mpi.allocates (toSizeT ((reportedSegments mpi input).length * 16)) = true ∧
      ¬ ((reportedSegments mpi input).length * 16 < 18446744073709551616 ∧
        toInt desc.elemLen ≠ 0) ∧
      ∃ fault, indexedArrays mpi desc count inputDatatype world = .undefined fault := by
  by_cases allocated : ArraysAllocated mpi desc input count
  · exact Or.inl ⟨allocated, _, _, rfl, rfl, indexedArrays_of_allocated allocated live⟩
  by_cases allocates : mpi.allocates (toSizeT ((reportedSegments mpi input).length * 16)) = true
  swap
  · have missing := vapaaCreateMpixIov_of_missing active available allocates live
    refine Or.inr (Or.inl ⟨fun present => absurd present allocates, ?_⟩)
    rw [indexedArrays, Run.bind_apply, missing, Outcome.aborted_bind]
  obtain ⟨room, reporting⟩ | ⟨long, faulty⟩ := vapaaCreateMpixIov_cases available allocates live
  swap
  · refine Or.inr (Or.inr ⟨allocates, fun fit => long fit.1, .outOfBounds, ?_⟩)
    rw [indexedArrays, Run.bind_apply, faulty, Outcome.undefined_bind]
  have extent : mpiTypeGetExtent mpi inputDatatype world = .returned
      ((mpi.errorClass .success, some (input.layout.lb, input.layout.extent)), world) := by
    simp only [mpiTypeGetExtent, live]
  have counted : (count : Int) * (((reportedSegments mpi input).map Segment.iovLen).sum /
      toSizeT (toInt desc.elemLen) : Nat) = indexedElements mpi desc input count := rfl
  rw [indexedArrays, Run.bind_of_returned reporting]
  simp only [Option.isSome_some, vapaaAssert_true, pure_bind, Run.readSet]
  rw [Run.bind_of_returned extent]
  simp only [decide_true, vapaaAssert_true, pure_bind]
  rw [counted]
  by_cases divides : toInt desc.elemLen = 0
  · rw [if_pos (toSizeT_toInt_eq_zero.mpr divides)]
    exact Or.inr (Or.inr ⟨allocates, fun fit => fit.2 divides, _, rfl⟩)
  rw [if_neg (mt toSizeT_toInt_eq_zero.mp divides)]
  by_cases hasLengths : mpi.allocates (toSizeT (indexedElements mpi desc input count * 4)) = true
  swap
  · refine Or.inr (Or.inl ⟨fun _ => ⟨room, divides, fun present => absurd present hasLengths⟩, ?_⟩)
    simp only [malloc, if_neg hasLengths, Option.isSome_none, Run.bind_apply, vapaaAssert,
      active, Bool.false_eq_true, if_false, if_true, Run.abort_apply, Outcome.aborted_bind]
  by_cases hasStarts : mpi.allocates (toSizeT (indexedElements mpi desc input count * 8)) = true
  swap
  · refine Or.inr (Or.inl ⟨fun _ => ⟨room, divides, fun _ => hasStarts⟩, ?_⟩)
    simp only [malloc, if_pos hasLengths, if_neg hasStarts, Option.isSome_none,
      Option.isSome_some, Run.bind_apply, vapaaAssert, active, Bool.false_eq_true, if_false,
      if_true, Run.pure_apply, Outcome.returned_bind, Run.abort_apply, Outcome.aborted_bind]
  exact absurd ⟨available, allocates, room, divides, hasLengths, hasStarts⟩ allocated

private theorem selected_none (mpi : Mpi) (desc : CDesc) (input : TypeObject) :
    selected mpi desc input 0 = [] := rfl

theorem selectElements_toNat (listed : Cells Int) (extent elemLen count : Int)
    (segments : List Segment) (start : Selection) :
    selectElements listed extent elemLen segments count start =
      selectElements listed extent elemLen segments count.toNat start := by
  simp only [selectElements, Int.toNat_natCast]

/-- The arrays of the indexed construction have room for what is selected, if they have it
where they are as long as for so many copies. -/
theorem selectionInside_of_size {size copies : Nat} (sizes : copies = size ∨ copies = 0) :
    (desc.listed.length ≤ toSizeT (desc.elements * 8) / 8 ∧
        StepsFit input.layout.extent copies ∧
        (selected mpi desc input copies).length ≤
          toSizeT (indexedElements mpi desc input size * 4) / 4 ∧
        (selected mpi desc input copies).length ≤
          toSizeT (indexedElements mpi desc input size * 8) / 8 ∧
        ListsSelected mpi desc input copies) ↔
      SelectionInside mpi desc input copies := by
  rcases sizes with rfl | rfl
  · exact selectionInside_iff.symm
  · rw [selectionInside_iff, selected_none]
    simp only [List.length_nil, Nat.zero_le, true_and]

/-- The indexed construction stays within its language exactly for these requests, also
where the count is negative and its arrays are as long as for the count as `size_t`. -/
theorem safe_createIndexed {count : Int} {size : Nat} (active : mpi.seatbelts = true)
    (basic : world.types.Basic mpi) (sized : desc.Sized)
    (same : ∀ value : Int, toSizeT (count * value) = toSizeT (size * value))
    (sizes : count.toNat = size ∨ count.toNat = 0)
    (live : world.types.object inputDatatype = some input) :
    Run.Safe (vapaaCfiCreateIndexed mpi desc count inputDatatype arrayDatatype) world
        (Inside mpi desc world.types) ↔ DerivedDefined mpi desc input size count.toNat := by
  rw [DerivedDefined]
  cases support : mpi.iovSupport with
  | mpichTooOld =>
      simp only [vapaaCfiCreateIndexed, Builder.vapaaCfiCreateIndexed, support, iff_false]
      exact Run.not_safe_of_undefined rfl
  | notMpich =>
      simp only [vapaaCfiCreateIndexed, Builder.vapaaCfiCreateIndexed, support, iff_true,
        plain_call]
      rw [Run.safe_bind_of_returned (vapaaWarning_apply _)]
      exact fun succeeded => absurd succeeded (by simp)
  | available =>
      dsimp only
      rw [vapaaCfiCreateIndexed_eq_bind _ _ _ _ support same]
      simp only [selectElements_toNat _ _ _ count]
      rcases @indexedArrays_cases mpi desc world size inputDatatype input active support live with
        ⟨allocated, lengths, starts, lengthsRoom, startsRoom, returned⟩ | ⟨short, aborted⟩ |
        ⟨segments, stuck, fault, faulty⟩
      · have safe := @safe_selectAddresses mpi desc world count.toNat arrayDatatype input active
          basic sized allocated.divides lengths starts
        rw [lengthsRoom, startsRoom, selectionInside_of_size sizes, ← lengthsRoom,
          ← startsRoom] at safe
        rw [Run.safe_bind_of_returned returned]
        refine safe.trans ?_
        exact ⟨fun rest _ => ⟨allocated.room, allocated.divides, fun _ _ => rest⟩,
          fun whole => (whole allocated.segments).2.2 allocated.lengths allocated.starts⟩
      · rw [Run.safe_bind]
        refine iff_of_true (Run.safe_of_aborted aborted) fun segments => ?_
        obtain ⟨room, divides, none⟩ := short segments
        exact ⟨room, divides, fun lengths starts => absurd starts (none lengths)⟩
      · rw [Run.safe_bind]
        refine iff_of_false (Run.not_safe_of_undefined faulty) fun whole => ?_
        exact stuck ⟨(whole segments).1, (whole segments).2.1⟩

private theorem safe_vapaaCfiCreateIndexed (active : mpi.seatbelts = true)
    (basic : world.types.Basic mpi) (sized : desc.Sized)
    (live : world.types.object inputDatatype = some input) :
    Run.Safe (vapaaCfiCreateIndexed mpi desc count inputDatatype arrayDatatype) world
        (Inside mpi desc world.types) ↔ DerivedSafe mpi desc input count := by
  rw [derivedSafe_iff_defined]
  exact safe_createIndexed active basic sized (fun _ => rfl) (Or.inl rfl) live

end Indexed

section Builder

variable {mpi : Mpi} {desc : CDesc} {world : World} {count : Nat}
variable {inputDatatype arrayDatatype : Int} {input : TypeObject}

theorem Inside.of_creates {element handle : Int} {old : TypeObject} {final : World}
    {displacements : List Int} (mapped : mappedType mpi desc.type = some element)
    (live : world.types.object element = some old)
    (inside : ∀ displacement ∈ displacements,
      ∃ n, n < desc.elements ∧ displacement = desc.displacement n)
    (creates : TypeStore.Creates world.types final.types handle
      { combiner := .derived, layout := old.layout.copies displacements, committed := false }) :
    Inside mpi desc world.types (mpi.errorClass .success, handle) final := by
  intro _
  refine ⟨element, old, _, mapped, live, creates.live, ?_⟩
  intro entry member
  obtain ⟨displacement, taken, placed⟩ := List.mem_flatMap.mp member
  obtain ⟨n, below, rfl⟩ := inside displacement taken
  exact ⟨n, below, placed⟩

private theorem mem_displacements {total : Nat} (within : count ≤ total) {displacement : Int}
    (member : displacement ∈ (List.range count).map desc.displacement) :
    ∃ n, n < total ∧ displacement = desc.displacement n := by
  obtain ⟨n, below, rfl⟩ := List.mem_map.mp member
  exact ⟨n, lt_of_lt_of_le (List.mem_range.mp below) within, rfl⟩

theorem CDesc.Accepted.within (accepted : desc.Accepted mpi world.types count)
    (sized : desc.Sized) : count ≤ desc.elements := by
  obtain ⟨element, old, -, -, scalars, arrays⟩ := accepted
  by_cases scalar : desc.rank = 0
  · have single : desc.elements = 1 := by
      simp [CDesc.elements, CDesc.shape, CDesc.extents, scalar]
    rw [single]
    exact (scalars scalar).few
  · have within := (arrays (Nat.one_le_iff_ne_zero.mpr scalar)).within
    rw [sized.leadingElements_rank] at within
    exact_mod_cast within

/-- The sizes agree only where the construction selects the first elements. -/
theorem vapaaCfiCreateDatatype_named_inside (active : mpi.seatbelts = true)
    (basic : world.types.Basic mpi) (sized : desc.Sized)
    (inputLive : world.types.object inputDatatype = some input) (named : input.combiner = .named) :
    Run.Ensures (vapaaCfiCreateDatatype mpi desc count inputDatatype arrayDatatype) world
      (Inside mpi desc world.types) := by
  rintro ⟨rc, handle⟩ final returned
  by_cases success : rc = mpi.errorClass .success
  swap
  · exact fun same => absurd same success
  subst success
  obtain ⟨accepted, element, old, mapped, live, -, -, builds⟩ | ⟨-, fails⟩ :=
    vapaaCfiCreateDatatype_named_cases count arrayDatatype basic sized.wellFormed inputLive named
  · exact Inside.of_creates mapped live (fun _ => mem_displacements (accepted.within sized))
      (builds.returned returned)
  · exact absurd rfl (fails (Or.inl active) _ _ returned)

/-- The builder stays inside the section, for named datatypes when their branch stays within
its language, and for derived ones when besides that every element number that the loops
compute is one of the section. -/
theorem vapaaCfiCreateDatatype_inside_iff (active : mpi.seatbelts = true)
    (basic : world.types.Basic mpi) (sized : desc.Sized)
    (inputLive : world.types.object inputDatatype = some input) :
    Run.Safe (vapaaCfiCreateDatatype mpi desc count inputDatatype arrayDatatype) world
        (Inside mpi desc world.types) ↔
      if input.combiner = .named then desc.NamedSafe mpi count
      else DerivedSafe mpi desc input count := by
  by_cases named : input.combiner = .named
  · rw [if_pos named, ← @safe_createFromNamed mpi desc world count inputDatatype arrayDatatype input
      active basic sized inputLive named,
      ← Run.safe_of_eq (vapaaCfiCreateDatatype_of_named arrayDatatype inputLive named)]
    constructor
    · exact fun safe => safe.mono fun _ _ _ => trivial
    · intro safe
      refine (safe.and_ensures (vapaaCfiCreateDatatype_named_inside active basic sized inputLive
        named)).mono ?_
      exact fun _ _ inside => inside.2
  · rw [if_neg named,
      ← @safe_vapaaCfiCreateIndexed mpi desc world count inputDatatype arrayDatatype input active
        basic sized inputLive,
      vapaaCfiCreateDatatype, Builder.vapaaCfiCreateDatatype, plain_call,
      Run.safe_bind_of_returned (vapaaMpiDatatypeIsBuiltin_of_live inputLive)]
    simp only [named, decide_false, Bool.false_eq_true, if_false, plain_call]
    rw [Run.safe_bind]
    constructor
    · intro safe
      refine safe.mono ?_
      rintro ⟨rc, handle⟩ middle rest success
      dsimp only at success rest
      rw [Run.safe_bind, safe_vapaaAssert active] at rest
      exact rest (decide_eq_true success) rfl
    · intro safe
      refine safe.mono ?_
      rintro ⟨rc, handle⟩ middle inside
      dsimp only
      rw [Run.safe_bind, safe_vapaaAssert active]
      intro success _
      exact inside (of_decide_eq_true success)

end Builder

/-- The third copy selects element 16 of sixteen. -/
theorem vapaaCfiCreateDatatype_inside_three :
    vapaaCfiCreateDatatype mpich spacedColumn 3 2000000000 201326592 paddedWorld =
        .undefined .outOfBounds ∧
      ¬ Run.Safe (vapaaCfiCreateDatatype mpich spacedColumn 3 2000000000 201326592) paddedWorld
        (Inside mpich spacedColumn paddedWorld.types) := by
  have run : (vapaaCfiCreateDatatype mpich spacedColumn 3 2000000000 201326592 paddedWorld >>=
      fun _ => .returned ()) = .undefined .outOfBounds := by
    decide +kernel
  obtain outside | ⟨_, -, never⟩ := Outcome.bind_eq_undefined.mp run
  · exact ⟨outside, Run.not_safe_of_undefined outside⟩
  · cases never

theorem paddedTypes_basic : paddedWorld.types.Basic mpich :=
  predefinedTypes_basic.of_creates (TypeStore.creates_create predefinedTypes paddedInteger)

theorem vapaaCfiCreateDatatype_inside_two :
    Run.Safe (vapaaCfiCreateDatatype mpich spacedColumn (2 : Nat) 2000000000 201326592) paddedWorld
      (Inside mpich spacedColumn paddedWorld.types) := by
  refine (@vapaaCfiCreateDatatype_inside_iff mpich spacedColumn paddedWorld 2 2000000000 201326592
    paddedInteger rfl paddedTypes_basic (by decide) (by decide)).mpr ?_
  rw [if_neg (by decide)]
  exact fun _ => ⟨by decide, by decide, fun _ _ => ⟨by decide, fun _ => {
    addresses := by decide
    steps := by decide
    lengths := by decide
    starts := by decide
    lists := by decide }⟩⟩

end Vapaa
