import Vapaa.BuilderProperties
import Vapaa.SelectionLoops
import Vapaa.Mpich

/-! Datatypes that select elements of a section the way a derived datatype selects
them from the section packed contiguously. -/

set_option autoImplicit false

namespace Vapaa

open Foundation Builder

section Construction

variable {mpi : Mpi} {desc : CDesc} {world : World} {count : Nat}
variable {element inputDatatype : Int} {object old : TypeObject}

def NotReturned {α : Type} (call : Call α) (world : World) : Prop :=
  Run.Ensures call world fun _ _ => False

/-- Everything that the selection loops of the construction visit. -/
def selected (mpi : Mpi) (desc : CDesc) (object : TypeObject) (count : Nat) : List Visit :=
  visits (toSizeT (toInt desc.elemLen)) (reportedSegments mpi object) count

/-- What the indexed construction takes from its environment: segments of the
datatype, an element type, memory, and fewer than `INT_MAX` elements. -/
structure IndexedRequest (mpi : Mpi) (desc : CDesc) (types : TypeStore) (count : Nat)
    (inputDatatype element : Int) (object old : TypeObject) : Prop where
  available : mpi.iovSupport = .available
  allocates : ∀ bytes, mpi.allocates bytes = true
  sized : desc.Sized
  inputLive : types.object inputDatatype = some object
  mapped : mappedType mpi desc.type = some element
  live : types.object element = some old
  counted : (count : Int) ≤ intMax
  few : ((selected mpi desc object count).length : Int) < intMax

/-- The machine arithmetic of the indexed construction keeps its values. -/
structure SelectionFits (mpi : Mpi) (desc : CDesc) (object : TypeObject) (count : Nat) :
    Prop where
  divides : toInt desc.elemLen ≠ 0
  segments : (reportedSegments mpi object).length * 16 < 18446744073709551616
  steps : StepsFit object.layout.extent count
  addresses : desc.AddressesFit

/-- Address of the element that a visit selects, if it is listed. -/
def selectedAddress (desc : CDesc) (extent : Int) (visit : Visit) : Option Int :=
  desc.listed[selectedOffset extent (toInt desc.elemLen) visit]?

/-- Every visited element is one whose address is listed. -/
def ListsSelected (mpi : Mpi) (desc : CDesc) (object : TypeObject) (count : Nat) : Prop :=
  ∀ visit ∈ selected mpi desc object count,
    (selectedAddress desc object.layout.extent visit).isSome

instance (mpi : Mpi) (desc : CDesc) (object : TypeObject) (count : Nat) :
    Decidable (ListsSelected mpi desc object count) :=
  inferInstanceAs (Decidable (∀ visit ∈ selected mpi desc object count, _))

theorem load_listed {unset offset : Nat} {address : Int} :
    Cells.load (desc.listed.map some ++ Cells.fresh unset) offset = .returned address ↔
      desc.listed[offset]? = some address := by
  simp only [Cells.load, Cells.fresh, List.getElem?_append, List.length_map, List.getElem?_map,
    List.getElem?_replicate]
  by_cases inside : offset < desc.listed.length
  · rw [if_pos inside]
    cases desc.listed[offset]? <;> simp
  · have outside : desc.listed[offset]? = none := List.getElem?_eq_none (by omega)
    rw [if_neg inside, outside]
    by_cases reserved : offset - desc.listed.length < unset
    · simp [reserved]
    · simp [reserved]

private theorem listed_zero
    (present : desc.listed ≠ []) : desc.listed[0]? = some desc.baseAddr := by
  have positive : 0 < desc.convertedShape.prod := by
    rcases Nat.eq_zero_or_pos desc.convertedShape.prod with empty | positive
    · simp [CDesc.listed, empty] at present
    · exact positive
  simp [CDesc.listed, positive]

/-- The construction from where its inputs are known. -/
private theorem vapaaCfiCreateIndexed_start
    (request : IndexedRequest mpi desc world.types count inputDatatype element object old)
    (segments : (reportedSegments mpi object).length * 16 < 18446744073709551616)
    (divides : toSizeT (toInt desc.elemLen) ≠ 0) (arrayDatatype : Int) :
    ∃ room, (selected mpi desc object count).length ≤ room ∧
      vapaaCfiCreateIndexed mpi desc count inputDatatype arrayDatatype world =
        (do
          let input ← vapaaCfiCreateElementAddresses mpi desc
          let selection ← Run.ofOutcome
            (selectElements input object.layout.extent (toInt desc.elemLen)
              (reportedSegments mpi object) count (Selection.holding [] room))
          let n := selection.index
          vapaaAssert mpi ((n : Int) < intMax)
          let elemDt ← vapaaCfiToMpiType mpi desc.type
          let (rc, arrayDatatype) ← pmpiTypeCreateHindexed mpi (toInt n)
            selection.arrayOfBlocklengths selection.arrayOfDisplacements elemDt arrayDatatype
          vapaaAssert mpi (rc = mpi.errorClass .success)
          return (mpi.errorClass .success, arrayDatatype) : Call (Int × Int)) world := by
  obtain ⟨-, reporting⟩ | ⟨long, -⟩ := vapaaCreateMpixIov_cases request.available
    (request.allocates _) request.inputLive
  swap
  · exact absurd segments long
  let total := ((reportedSegments mpi object).map Segment.iovLen).sum
  let step := toSizeT (toInt desc.elemLen)
  have positive : 0 < step := Nat.pos_of_ne_zero divides
  obtain ⟨enough, small⟩ := visits_fit positive request.counted
    (sum_segmentsWithin_le intMax.toNat _) request.few
  have size (width : Nat) (narrow : width ≤ 8) :
      toSizeT ((count : Int) * ((total / step : Nat) : Int) * width) =
        count * (total / step) * width := by
    have bounded : count * (total / step) * width < 18446744073709551616 :=
      lt_of_le_of_lt (Nat.mul_le_mul_left _ narrow) small
    have converted := toSizeT_of_bounds bounded
    push_cast at converted
    exact converted
  have cells (width : Nat) (positive : 0 < width) (narrow : width ≤ 8) :
      malloc mpi (toSizeT ((count : Int) * ((total / step : Nat) : Int) * width)) width =
        some (Cells.fresh (count * (total / step)) : Cells Int) := by
    rw [size width narrow, malloc, if_pos (request.allocates _), Nat.mul_div_cancel _ positive]
  have lengthCells := cells 4 (by omega) (by omega)
  have startCells := cells 8 (by omega) (by omega)
  refine ⟨count * (total / step), enough, ?_⟩
  simp only [vapaaCfiCreateIndexed, Builder.vapaaCfiCreateIndexed, request.available, plain_call,
    indexedArrays, bind_assoc]
  rw [Run.bind_of_returned reporting]
  simp only [Option.isSome_some, vapaaAssert_true, Run.readSet_some, Run.bind_apply,
    Run.pure_apply, Outcome.returned_bind, mpiTypeGetExtent, request.inputLive, decide_true,
    if_neg divides]
  rw [show ((4 : Int)) = ((4 : Nat) : Int) from rfl, show ((8 : Int)) = ((8 : Nat) : Int) from rfl,
    lengthCells, startCells]
  rfl

theorem toSizeT_toInt_eq_zero {value : Int} : toSizeT (toInt value) = 0 ↔ toInt value = 0 := by
  simp only [toSizeT, toInt]
  omega

private theorem vapaaCfiCreateIndexed_stuck
    (request : IndexedRequest mpi desc world.types count inputDatatype element object old)
    (unfit : ¬ ((reportedSegments mpi object).length * 16 < 18446744073709551616 ∧
      toInt desc.elemLen ≠ 0)) (arrayDatatype : Int) :
    NotReturned (vapaaCfiCreateIndexed mpi desc count inputDatatype arrayDatatype) world := by
  obtain ⟨segments, reporting⟩ | ⟨-, faulty⟩ := vapaaCreateMpixIov_cases request.available
    (request.allocates _) request.inputLive
  · have zero : toInt desc.elemLen = 0 := by
      by_contra divides
      exact unfit ⟨segments, divides⟩
    have divides : vapaaCfiCreateIndexed mpi desc count inputDatatype arrayDatatype world =
        .undefined .divisionByZero := by
      simp only [vapaaCfiCreateIndexed, Builder.vapaaCfiCreateIndexed, request.available,
        plain_call, indexedArrays, bind_assoc]
      rw [Run.bind_of_returned reporting]
      simp only [Option.isSome_some, vapaaAssert_true, Run.readSet_some, Run.bind_apply,
        Run.pure_apply, Outcome.returned_bind, mpiTypeGetExtent, request.inputLive, decide_true,
        if_pos (toSizeT_toInt_eq_zero.mpr zero), Run.undefined_apply,
        Outcome.undefined_bind]
    exact Run.ensures_of_undefined divides
  · have outside : vapaaCfiCreateIndexed mpi desc count inputDatatype arrayDatatype world =
        .undefined .outOfBounds := by
      simp only [vapaaCfiCreateIndexed, Builder.vapaaCfiCreateIndexed, request.available,
        plain_call, indexedArrays, bind_assoc]
      rw [Run.bind_apply, faulty, Outcome.undefined_bind]
    exact Run.ensures_of_undefined outside

/-- Displacements from the base of the elements that the selection loops visit. -/
def selectedDisplacements (mpi : Mpi) (desc : CDesc) (object : TypeObject) (count : Nat) :
    List Int :=
  (selected mpi desc object count).map fun visit =>
    (selectedAddress desc object.layout.extent visit).getD 0 - desc.baseAddr

theorem selectElements_of_lists (divides : toInt desc.elemLen ≠ 0)
    (steps : StepsFit object.layout.extent count) (lists : ListsSelected mpi desc object count)
    (unset lengths starts : Nat) :
    selectElements (desc.listed.map some ++ Cells.fresh unset) object.layout.extent
        (toInt desc.elemLen) (reportedSegments mpi object) count
        (Selection.filled [] ((selected mpi desc object count).length + lengths)
          ((selected mpi desc object count).length + starts)) =
      .returned (Selection.filled (selectedDisplacements mpi desc object count) lengths starts) := by
  rw [selectElements_eq_foldlM divides steps]
  let offsets := (selected mpi desc object count).map
    (selectedOffset object.layout.extent (toInt desc.elemLen))
  let found := (selected mpi desc object count).map fun visit =>
    (selectedAddress desc object.layout.extent visit).getD 0
  have loads : List.Forall₂ (fun offset address =>
      Cells.load (desc.listed.map some ++ Cells.fresh unset) offset = .returned address)
        offsets found := by
    rw [List.forall₂_map_left_iff, List.forall₂_map_right_iff, List.forall₂_same]
    intro visit member
    obtain ⟨address, listed⟩ := Option.isSome_iff_exists.mp (lists visit member)
    rw [load_listed, listed]
    exact listed
  have first : offsets ≠ [] →
      Cells.load (desc.listed.map some ++ Cells.fresh unset) 0 = .returned desc.baseAddr := by
    intro present
    rw [load_listed]
    apply listed_zero
    rintro empty
    obtain ⟨visit, member⟩ := List.exists_mem_of_ne_nil _ (mt List.map_eq_nil_iff.mpr present)
    have listed := lists visit member
    rw [selectedAddress, empty] at listed
    simp at listed
  have looped := foldlM_selectOffset_filled first loads [] lengths starts
  have counted : offsets.length = (selected mpi desc object count).length := by
    simp [offsets]
  have displacements : (found.map fun address => address - desc.baseAddr) =
      selectedDisplacements mpi desc object count := by
    simp [found, selectedDisplacements]
  rw [counted, List.nil_append, displacements] at looped
  exact looped

/-- The construction creates a datatype exactly when its arithmetic keeps its
values and every element that it visits is listed, and otherwise does not return. -/
theorem vapaaCfiCreateIndexed_cases
    (request : IndexedRequest mpi desc world.types count inputDatatype element object old)
    (arrayDatatype : Int) :
    SelectionFits mpi desc object count ∧ ListsSelected mpi desc object count ∧
      Builds mpi (vapaaCfiCreateIndexed mpi desc count inputDatatype arrayDatatype) world
        (old.layout.copies ((selected mpi desc object count).map fun visit =>
          (selectedAddress desc object.layout.extent visit).getD 0 - desc.baseAddr)) ∨
    ¬ (SelectionFits mpi desc object count ∧ ListsSelected mpi desc object count) ∧
      NotReturned (vapaaCfiCreateIndexed mpi desc count inputDatatype arrayDatatype) world := by
  by_cases fit : (reportedSegments mpi object).length * 16 < 18446744073709551616 ∧
      toInt desc.elemLen ≠ 0
  swap
  · exact Or.inr ⟨fun whole => fit ⟨whole.1.segments, whole.1.divides⟩,
      vapaaCfiCreateIndexed_stuck request fit arrayDatatype⟩
  obtain ⟨segments, divides⟩ := fit
  obtain ⟨room, enough, start⟩ := vapaaCfiCreateIndexed_start request segments
    (mt toSizeT_toInt_eq_zero.mp divides) arrayDatatype
  obtain ⟨addresses, unset, middle, listing, sameTypes⟩ | ⟨unfit, fault, faulty⟩ :=
    vapaaCfiCreateElementAddresses_cases request.sized (request.allocates _) world
  swap
  · refine Or.inr ⟨fun whole => unfit whole.1.addresses, ?_⟩
    exact (Run.ensures_bind_of_never (Run.ensures_of_undefined faulty)).of_eq start
  rw [Run.bind_of_returned listing] at start
  by_cases steps : StepsFit object.layout.extent count
  swap
  · refine Or.inr ⟨fun whole => steps whole.1.steps, Run.Ensures.of_eq ?_ start⟩
    refine Run.ensures_bind_of_never ?_
    intro selection final returned
    rw [Run.ofOutcome, Outcome.bind_eq_returned] at returned
    obtain ⟨value, finished, -⟩ := returned
    exact steps (stepsFit_of_selectElements finished)
  by_cases lists : ListsSelected mpi desc object count
  swap
  · rw [selectElements_eq_foldlM divides steps] at start
    refine Or.inr ⟨fun whole => lists whole.2, Run.Ensures.of_eq ?_ start⟩
    refine Run.ensures_bind_of_never ?_
    intro selection final returned
    rw [Run.ofOutcome, Outcome.bind_eq_returned] at returned
    obtain ⟨value, finished, -⟩ := returned
    apply lists
    intro visit member
    obtain ⟨address, loaded⟩ :=
      loads_of_foldlM_selectOffset finished _ (List.mem_map_of_mem member)
    rw [load_listed] at loaded
    rw [selectedAddress, loaded]
    rfl
  · obtain ⟨spare, split⟩ := Nat.exists_eq_add_of_le enough
    have looped := @selectElements_of_lists mpi desc count object divides steps lists unset spare
      spare
    rw [← split] at looped
    have length_eq : (selectedDisplacements mpi desc object count).length =
        (selected mpi desc object count).length := by
      simp [selectedDisplacements]
    change _ ∧ _ ∧ Builds mpi _ world
      (old.layout.copies (selectedDisplacements mpi desc object count)) ∨ _
    generalize selectedDisplacements mpi desc object count = displacements at *
    have few : (displacements.length : Int) < intMax := length_eq ▸ request.few
    have exactly : toInt (displacements.length : Int) = displacements.length :=
      toInt_of_bounds (by omega) (by omega)
    have live : middle.types.object element = some old := by
      rw [sameTypes]
      exact request.live
    refine Or.inl ⟨⟨divides, segments, steps, addresses⟩, lists, ?_⟩
    apply builds_createType _ sameTypes
    have landed : Run.ofOutcome (selectElements (desc.listed.map some ++ Cells.fresh unset)
        object.layout.extent (toInt desc.elemLen) (reportedSegments mpi object) count
        (Selection.holding [] room)) middle =
        .returned (Selection.filled displacements spare spare, middle) :=
      congrArg (fun outcome => Run.ofOutcome outcome middle) looped
    rw [start, Run.bind_of_returned landed]
    simp only [Selection.filled, few, decide_true, vapaaAssert_true, Run.bind_apply,
      Run.pure_apply, Outcome.returned_bind, vapaaCfiToMpiType_of_mapped request.mapped, exactly,
      pmpiTypeCreateHindexed_of_set displacements _ _ live, createType]

end Construction

section Packed

variable {mpi : Mpi} {desc : CDesc} {world : World} {count : Nat}
variable {element inputDatatype : Int} {object old : TypeObject}

/-- Everything that the copies of the datatype select from the section packed contiguously. -/
def packed (mpi : Mpi) (desc : CDesc) (object : TypeObject) (count : Nat) : List Visit :=
  visits desc.elemLen (mpi.typeIov object.layout) count

/-- The call creates the datatype of the elements that the copies select from the
section packed contiguously. -/
def SelectsPacked (mpi : Mpi) (desc : CDesc) (object old : TypeObject) (count : Nat)
    (call : Call (Int × Int)) (world : World) : Prop :=
  ∃ handle final created,
    call world = .returned ((mpi.errorClass .success, handle), final) ∧
      final.types.object handle = some created ∧
      created.layout.map = (packed mpi desc object count).flatMap fun visit =>
        TypeMap.shift
          (desc.address (packedOffset object.layout.extent desc.elemLen visit).toNat -
            desc.address 0)
          old.layout.map

/-- A request in the terms of the elements that it is about. -/
structure PackedRequest (mpi : Mpi) (desc : CDesc) (types : TypeStore) (count : Nat)
    (inputDatatype element : Int) (object old : TypeObject) : Prop where
  available : mpi.iovSupport = .available
  allocates : ∀ bytes, mpi.allocates bytes = true
  sized : desc.Sized
  inputLive : types.object inputDatatype = some object
  mapped : mappedType mpi desc.type = some element
  live : types.object element = some old
  present : old.layout.map ≠ []
  counted : (count : Int) ≤ intMax
  few : ((packed mpi desc object count).length : Int) < intMax
  forward : ∀ segment ∈ mpi.typeIov object.layout, 0 ≤ segment.iovBase
  wholeElements : ∀ segment ∈ mpi.typeIov object.layout, desc.elemLen ∣ segment.iovLen
  wholeExtent : (desc.elemLen : Int) ∣ object.layout.extent
  touched : ∀ visit ∈ packed mpi desc object count,
    0 ≤ packedOffset object.layout.extent desc.elemLen visit ∧
      packedOffset object.layout.extent desc.elemLen visit < desc.elements

private theorem sum_eq_zero_of_large {step : Nat} {segments : List Segment}
    (large : intMax < (step : Int))
    (within : (segments.map Segment.iovLen).sum ≤ intMax.toNat)
    (multiples : ∀ segment ∈ segments, step ∣ segment.iovLen) :
    ∀ segment ∈ segments, segment.iovLen = 0 := by
  intro segment member
  have small : segment.iovLen ≤ (segments.map Segment.iovLen).sum :=
    List.single_le_sum (by simp) _ (List.mem_map_of_mem member)
  apply Nat.eq_zero_of_dvd_of_lt (multiples segment member)
  simp only [intMax] at *
  omega

/-- Converting the element length to `int` loses no visit: segments of larger
elements are not reported unless they are empty. -/
theorem visits_toInt {step : Nat} {segments : List Segment}
    (within : (segments.map Segment.iovLen).sum ≤ intMax.toNat)
    (multiples : ∀ segment ∈ segments, step ∣ segment.iovLen) (count : Nat) :
    visits (toSizeT (toInt step)) segments count = visits step segments count := by
  by_cases narrow : (step : Int) ≤ intMax
  · have small : step < 18446744073709551616 := by
      simp only [intMax] at narrow
      omega
    rw [toInt_of_bounds (by omega) narrow, toSizeT_of_bounds small]
  · have empty := sum_eq_zero_of_large (not_le.mp narrow) within multiples
    have nothing (length : Nat) : visits length segments count = [] := by
      rw [← List.length_eq_zero_iff, length_visits]
      have zeros : (segments.map fun segment => segment.iovLen / length) =
          segments.map fun _ => 0 := by
        apply List.map_congr_left
        intro segment member
        rw [empty segment member, Nat.zero_div]
      simp [zeros]
    rw [nothing, nothing]

namespace PackedRequest

private theorem selected_eq
    (request : PackedRequest mpi desc world.types count inputDatatype element object old) :
    selected mpi desc object count =
      visits desc.elemLen (reportedSegments mpi object) count := by
  apply visits_toInt (sum_segmentsWithin_le intMax.toNat _)
  intro segment member
  obtain ⟨dropped, split, -⟩ := segmentsWithin_prefix intMax.toNat (mpi.typeIov object.layout)
  apply request.wholeElements
  rw [split]
  exact List.mem_append_left dropped member

/-- Segments beyond `INT_MAX` bytes are lost, unless no copy selects from them. -/
theorem selected_length_le
    (request : PackedRequest mpi desc world.types count inputDatatype element object old) :
    (selected mpi desc object count).length ≤ (packed mpi desc object count).length ∧
      (0 < desc.elemLen →
        (packed mpi desc object count).length = (selected mpi desc object count).length →
        count = 0 ∨ ((mpi.typeIov object.layout).map Segment.iovLen).sum ≤ intMax.toNat) := by
  obtain ⟨dropped, split, lost⟩ := segmentsWithin_prefix intMax.toNat (mpi.typeIov object.layout)
  have lengths : (packed mpi desc object count).length =
      (selected mpi desc object count).length +
        count * (dropped.map fun segment => segment.iovLen / desc.elemLen).sum := by
    rw [request.selected_eq, packed, length_visits, length_visits, reportedSegments]
    conv_lhs => rw [split]
    rw [List.map_append, List.sum_append, Nat.mul_add]
  refine ⟨by omega, ?_⟩
  intro positive same
  by_contra! both
  obtain ⟨some, exceeds⟩ := both
  obtain ⟨segment, member, filled⟩ := lost exceeds
  have multiple : desc.elemLen ∣ segment.iovLen := by
    apply request.wholeElements
    rw [split]
    exact List.mem_append_right _ member
  have element : 0 < segment.iovLen / desc.elemLen :=
    Nat.div_pos (Nat.le_of_dvd filled multiple) positive
  have counted : segment.iovLen / desc.elemLen ≤
      (dropped.map fun segment => segment.iovLen / desc.elemLen).sum :=
    List.single_le_sum (by simp) _
      (List.mem_map_of_mem (f := fun segment : Segment => segment.iovLen / desc.elemLen) member)
  have product : 0 < count * (dropped.map fun segment => segment.iovLen / desc.elemLen).sum :=
    Nat.mul_pos (Nat.pos_of_ne_zero some) (by omega)
  omega

private theorem selected_eq_packed
    (request : PackedRequest mpi desc world.types count inputDatatype element object old)
    (whole : count = 0 ∨
      ((mpi.typeIov object.layout).map Segment.iovLen).sum ≤ intMax.toNat) :
    selected mpi desc object count = packed mpi desc object count := by
  obtain rfl | within := whole
  · simp [selected, packed, visits]
  · rw [request.selected_eq, reportedSegments, segmentsWithin_of_le within, packed]

theorem indexed
    (request : PackedRequest mpi desc world.types count inputDatatype element object old) :
    IndexedRequest mpi desc world.types count inputDatatype element object old where
  available := request.available
  allocates := request.allocates
  sized := request.sized
  inputLive := request.inputLive
  mapped := request.mapped
  live := request.live
  counted := request.counted
  few := by
    have fewer := request.selected_length_le.1
    have few := request.few
    omega

end PackedRequest

/-- When the construction selects what the copies select from the packed section:
its arithmetic keeps its values, no segment is lost, and the element number with the
displacement in bytes leads to the address of the element meant. -/
structure SelectionExact (mpi : Mpi) (desc : CDesc) (object : TypeObject) (count : Nat) :
    Prop where
  fits : SelectionFits mpi desc object count
  whole : count = 0 ∨ ((mpi.typeIov object.layout).map Segment.iovLen).sum ≤ intMax.toNat
  agree : ∀ visit ∈ packed mpi desc object count,
    selectedAddress desc object.layout.extent visit =
      some (desc.address (packedOffset object.layout.extent desc.elemLen visit).toNat)

private theorem selectsPacked_iff_exact
    (request : PackedRequest mpi desc world.types count inputDatatype element object old)
    (arrayDatatype : Int) :
    SelectsPacked mpi desc object old count
        (vapaaCfiCreateIndexed mpi desc count inputDatatype arrayDatatype) world ↔
      SelectionExact mpi desc object count := by
  have packedMap : ((packed mpi desc object count).flatMap fun visit =>
      TypeMap.shift
        (desc.address (packedOffset object.layout.extent desc.elemLen visit).toNat -
          desc.address 0)
        old.layout.map) =
      old.layout.map.copies ((packed mpi desc object count).map fun visit =>
        desc.address (packedOffset object.layout.extent desc.elemLen visit).toNat -
          desc.address 0) := by
    rw [TypeMap.copies, List.flatMap_map]
  have base : desc.address 0 = desc.baseAddr := by simp [CDesc.address]
  rw [base] at packedMap
  obtain ⟨fits, lists, builds⟩ | ⟨unfit, stuck⟩ :=
    vapaaCfiCreateIndexed_cases request.indexed arrayDatatype
  · constructor
    · rintro ⟨handle, final, created, returned, live, map_eq⟩
      obtain ⟨built, last, result, creates⟩ := builds
      rw [returned] at result
      cases result
      have same : created = _ := Option.some.inj (live.symm.trans creates.live)
      rw [base, packedMap, same] at map_eq
      have displacements_eq := TypeMap.copies_injective request.present map_eq
      have lengths := congrArg List.length displacements_eq
      rw [List.length_map, List.length_map] at lengths
      have positive : 0 < desc.elemLen := by
        apply Nat.pos_of_ne_zero
        intro zero
        exact fits.divides (by rw [zero]; rfl)
      have whole := request.selected_length_le.2 positive lengths.symm
      refine ⟨fits, whole, ?_⟩
      rw [request.selected_eq_packed whole] at displacements_eq
      intro visit member
      have each := List.map_inj_left.mp displacements_eq visit member
      have listed := lists visit (by rw [request.selected_eq_packed whole]; exact member)
      obtain ⟨address, found⟩ := Option.isSome_iff_exists.mp listed
      rw [found, Option.getD_some] at each
      rw [found, sub_left_inj.mp each]
    · intro exact
      obtain ⟨handle, final, returned, creates⟩ := builds
      refine ⟨handle, final, _, returned, creates.live, ?_⟩
      rw [base, packedMap, request.selected_eq_packed exact.whole]
      apply congrArg (TypeMap.copies old.layout.map)
      apply List.map_congr_left
      intro visit member
      rw [exact.agree visit member, Option.getD_some]
  · constructor
    · rintro ⟨handle, final, created, returned, -⟩
      exact absurd returned (stuck _ _)
    · intro exact
      refine absurd ⟨exact.fits, ?_⟩ unfit
      intro visit member
      rw [request.selected_eq_packed exact.whole] at member
      rw [exact.agree visit member]
      rfl

/-- Different elements have different addresses. -/
def CDesc.Separate (desc : CDesc) : Prop :=
  ∀ m, m < desc.elements → ∀ n, n < desc.elements → desc.address m = desc.address n → m = n

instance (desc : CDesc) : Decidable desc.Separate :=
  inferInstanceAs (Decidable (∀ m, m < desc.elements → _))

theorem CDesc.IntExtents.listed_getElem? (fit : desc.IntExtents) (n : Nat) :
    desc.listed[n]? = if n < desc.elements then some (desc.address n) else none := by
  rw [CDesc.listed, fit.convertedShape_eq, ← CDesc.elements]
  by_cases below : n < desc.elements
  · simp [below, CDesc.address, CDesc.displacement_eq_dot below]
  · simp [below]

/-- When the displacement of every copy is zero in bytes as it is in elements. -/
structure SelectionUnstrided (mpi : Mpi) (desc : CDesc) (object : TypeObject) (count : Nat) :
    Prop where
  fits : SelectionFits mpi desc object count
  whole : count = 0 ∨ ((mpi.typeIov object.layout).map Segment.iovLen).sum ≤ intMax.toNat
  unstrided : count ≤ 1 ∨ object.layout.extent = 0 ∨ desc.elemLen = 1 ∨
    ∀ segment ∈ mpi.typeIov object.layout, segment.iovLen = 0

namespace PackedRequest

private theorem offsets_of_visit
    (request : PackedRequest mpi desc world.types count inputDatatype element object old)
    {visit : Visit} (member : visit ∈ packed mpi desc object count)
    (whole : count = 0 ∨ ((mpi.typeIov object.layout).map Segment.iovLen).sum ≤ intMax.toNat)
    {step : Int} (extent_eq : object.layout.extent = desc.elemLen * step) :
    packedOffset object.layout.extent desc.elemLen visit =
        visit.2.1.iovBase / desc.elemLen + visit.1 * step + visit.2.2 ∧
      selectedOffset object.layout.extent (toInt desc.elemLen) visit =
        toSizeT (visit.2.1.iovBase / desc.elemLen + visit.1 * step + visit.2.2 +
          visit.1 * (desc.elemLen * step - step)) := by
  obtain ⟨copy, segment, k⟩ := visit
  obtain ⟨below, listed, inside⟩ := mem_visits.mp member
  dsimp only at below listed inside ⊢
  have positive : 0 < desc.elemLen := by
    apply Nat.pos_of_ne_zero
    intro zero
    rw [zero, Nat.div_zero] at inside
    omega
  have filled : desc.elemLen ≤ segment.iovLen := by
    have quotient : 0 < segment.iovLen / desc.elemLen := by omega
    exact (Nat.div_pos_iff.mp quotient).2
  have narrow : (desc.elemLen : Int) ≤ intMax := by
    obtain rfl | within := whole
    · omega
    · have small : segment.iovLen ≤ ((mpi.typeIov object.layout).map Segment.iovLen).sum :=
        List.single_le_sum (by simp) _ (List.mem_map_of_mem listed)
      simp only [intMax] at *
      omega
  have forward := request.forward segment listed
  have nonzero : (desc.elemLen : Int) ≠ 0 := by omega
  constructor
  · have split : segment.iovBase + copy * object.layout.extent =
        segment.iovBase + desc.elemLen * (copy * step) := by
      rw [extent_eq]
      ring
    rw [packedOffset]
    dsimp only
    rw [split, Int.add_mul_ediv_left _ _ nonzero]
  · rw [selectedOffset, toInt_of_bounds (by omega) narrow]
    dsimp only
    rw [Int.tdiv_eq_ediv_of_nonneg forward, extent_eq]
    congr 1
    ring

private theorem exact_iff_unstrided
    (request : PackedRequest mpi desc world.types count inputDatatype element object old)
    (extents : desc.IntExtents) (separate : desc.Separate) :
    SelectionExact mpi desc object count ↔ SelectionUnstrided mpi desc object count := by
  obtain ⟨step, extent_eq⟩ := request.wholeExtent
  have bounded (fits : SelectionFits mpi desc object count) :
      desc.elements < 2305843009213693952 := by
    have room := fits.addresses.room
    have counted : desc.listed.length = desc.elements := by
      rw [CDesc.listed, extents.convertedShape_eq, List.length_map, List.length_range,
        CDesc.elements]
    simp only [toSizeT] at room
    omega
  constructor
  · rintro ⟨fits, whole, agree⟩
    refine ⟨fits, whole, ?_⟩
    by_contra! strided
    obtain ⟨several, extent, wide, segment, member, filled⟩ := strided
    have small := bounded fits
    have positive : desc.elemLen ≠ 0 := by
      intro zero
      exact fits.divides (by rw [zero]; rfl)
    have inside : 0 < segment.iovLen / desc.elemLen :=
      Nat.div_pos (Nat.le_of_dvd (by omega) (request.wholeElements segment member)) (by omega)
    -- the second copy of the first element of the segment
    have first : ((0, segment, 0) : Visit) ∈ packed mpi desc object count :=
      mem_visits.mpr ⟨by omega, member, inside⟩
    have second : ((1, segment, 0) : Visit) ∈ packed mpi desc object count :=
      mem_visits.mpr ⟨by omega, member, inside⟩
    have firstTouched := request.touched _ first
    have secondTouched := request.touched _ second
    have reached := agree _ second
    obtain ⟨firstPacked, -⟩ := request.offsets_of_visit first whole extent_eq
    obtain ⟨secondPacked, secondSelected⟩ := request.offsets_of_visit second whole extent_eq
    rw [selectedAddress, extents.listed_getElem?] at reached
    dsimp only at firstPacked secondPacked secondSelected
    split_ifs at reached with below
    have same := separate _ below _ (by omega) (Option.some.inj reached)
    have stepNonzero : step ≠ 0 := by
      rintro rfl
      exact extent (by rw [extent_eq, mul_zero])
    have differs : desc.elemLen * step - step ≠ 0 := by
      intro equal
      have unit : (desc.elemLen : Int) = 1 := by
        apply mul_right_cancel₀ stepNonzero
        rw [one_mul]
        omega
      exact wide (by exact_mod_cast unit)
    have fit := fits.steps 1 (by omega)
    rw [extent_eq] at fit
    rw [secondSelected, secondPacked] at same
    rw [firstPacked] at firstTouched
    rw [secondPacked] at secondTouched
    simp only [toSizeT] at same
    push_cast at *
    omega
  · rintro ⟨fits, whole, unstrided⟩
    refine ⟨fits, whole, ?_⟩
    intro visit member
    have small := bounded fits
    have touched := request.touched visit member
    obtain ⟨packed_eq, selected_eq⟩ := request.offsets_of_visit member whole extent_eq
    obtain ⟨below, listed, inside⟩ := mem_visits.mp member
    have unmoved : (visit.1 : Int) * (desc.elemLen * step - step) = 0 := by
      obtain single | still | unit | empty := unstrided
      · have initial : visit.1 = 0 := by omega
        rw [initial, Nat.cast_zero, zero_mul]
      · rw [extent_eq] at still
        obtain zero | zero := mul_eq_zero.mp still
        · have none : desc.elemLen = 0 := by exact_mod_cast zero
          rw [none, Nat.div_zero] at inside
          omega
        · rw [zero, mul_zero, sub_zero, mul_zero]
      · rw [unit, Nat.cast_one, one_mul, sub_self, mul_zero]
      · rw [empty _ listed, Nat.zero_div] at inside
        omega
    rw [unmoved, add_zero, ← packed_eq] at selected_eq
    have number : selectedOffset object.layout.extent (toInt desc.elemLen) visit =
        (packedOffset object.layout.extent desc.elemLen visit).toNat := by
      rw [selected_eq, toSizeT]
      omega
    rw [selectedAddress, extents.listed_getElem?, number, if_pos (by omega)]

end PackedRequest

/-- The indexed construction selects what the copies select from the packed section
exactly when the element numbers agree. Where the addresses differ that is so for one
copy, for an extent of zero, for elements of one byte and for nothing selected. -/
theorem vapaaCfiCreateIndexed_selectsPacked
    (request : PackedRequest mpi desc world.types count inputDatatype element object old)
    (arrayDatatype : Int) :
    (SelectsPacked mpi desc object old count
        (vapaaCfiCreateIndexed mpi desc count inputDatatype arrayDatatype) world ↔
      SelectionExact mpi desc object count) ∧
    (desc.IntExtents → desc.Separate →
      (SelectsPacked mpi desc object old count
          (vapaaCfiCreateIndexed mpi desc count inputDatatype arrayDatatype) world ↔
        SelectionUnstrided mpi desc object count)) := by
  have exactly := selectsPacked_iff_exact request arrayDatatype
  refine ⟨exactly, fun extents separate => ?_⟩
  exact exactly.trans (request.exact_iff_unstrided extents separate)

end Packed

/-- Sixteen four-byte integers, every second one of an array. -/
def spacedColumn : CDesc :=
  sectionOf 4096 4 1025 [{ lowerBound := 0, extent := 16, sm := 8 }] (by decide)

/-- An integer followed by a gap of its own size. -/
def paddedInteger : TypeObject where
  combiner := .derived
  layout := { (Mpich.object .int32T).layout with extent := 8 }
  committed := true

def paddedWorld : World := { startWorld with types := predefinedTypes.create paddedInteger }

private theorem spacedColumn_request {count : Nat} (few : count ≤ 2) :
    PackedRequest mpich spacedColumn paddedWorld.types count 2000000000
      (Mpich.datatype .int32T) paddedInteger (Mpich.object .int32T) where
  available := rfl
  allocates := fun _ => rfl
  sized := by decide
  inputLive := by decide
  mapped := by decide
  live := by decide
  present := by decide
  counted := by simp only [intMax]; omega
  few := by
    obtain rfl | rfl | rfl : count = 0 ∨ count = 1 ∨ count = 2 := by omega
    all_goals decide
  forward := by decide
  wholeElements := by decide
  wholeExtent := by decide
  touched := by
    obtain rfl | rfl | rfl : count = 0 ∨ count = 1 ∨ count = 2 := by omega
    all_goals decide

/-- The second copy selects element 8 instead of element 2. -/
theorem vapaaCfiCreateIndexed_selectsPacked_two :
    PackedRequest mpich spacedColumn paddedWorld.types 2 2000000000 (Mpich.datatype .int32T)
        paddedInteger (Mpich.object .int32T) ∧
      (vapaaCfiCreateIndexed mpich spacedColumn 2 2000000000 201326592 paddedWorld >>=
          fun result => .returned
            (result.1, (result.2.types.object result.1.2).map fun created =>
              created.layout.map.map Entry.displacement)) =
        .returned ((0, 2000000001), some [0, 64]) ∧
      ¬ SelectsPacked mpich spacedColumn paddedInteger (Mpich.object .int32T) 2
        (vapaaCfiCreateIndexed mpich spacedColumn 2 2000000000 201326592) paddedWorld := by
  refine ⟨spacedColumn_request (by omega), by decide, ?_⟩
  intro selects
  have exact := (selectsPacked_iff_exact (spacedColumn_request (by omega)) 201326592).mp selects
  have second := exact.agree
    (1, { iovBase := 0, iovLen := 4 }, 0) (by decide)
  revert second
  decide

theorem vapaaCfiCreateIndexed_selectsPacked_one :
    SelectsPacked mpich spacedColumn paddedInteger (Mpich.object .int32T) 1
      (vapaaCfiCreateIndexed mpich spacedColumn (1 : Nat) 2000000000 201326592) paddedWorld :=
  ((vapaaCfiCreateIndexed_selectsPacked (spacedColumn_request (by omega)) 201326592).2
    (by decide) (by decide)).mpr {
      fits := {
        divides := by decide
        segments := by decide
        steps := by decide
        addresses := { numbered := by decide, room := by decide } }
      whole := by decide
      unstrided := Or.inl (by omega) }

end Vapaa
