import Vapaa.DisplacementBounds
import Vapaa.IntegerBounds

/-!
# The two enumerations of all elements

`VAPAA_CFI_CREATE_ELEMENT_ADDRESSES` and `VAPAA_CFI_CREATE_DATATYPE_15D` number the elements of a
section by fifteen loops each. Here displacements and addresses are computed in the arithmetic of
`ptrdiff_t`, which strides may leave.
-/

set_option autoImplicit false

namespace Vapaa

open Foundation Builder

/-- `VAPAA_CFI_CREATE_DATATYPE_15D` from its allocations to the label behind its loops: the array
of lengths, and the array of displacements with the number of those that are placed. -/
def Ptrdiff.fill15d (mpi : Mpi) (desc : CDesc) (count : Int) : Call (Cells Int × Filling) :=
  fillArrays ptrdiff mpi count (loops15d ptrdiff desc (extents15d ptrdiff desc))

/-- What is left of the function: a type of single elements at the displacements. -/
theorem ptrdiff_createDatatype15d_eq_fill15d (mpi : Mpi) (desc : CDesc)
    (count inputDatatype arrayDatatype : Int) :
    Builder.vapaaCfiCreateDatatype15d ptrdiff mpi desc count inputDatatype arrayDatatype =
      (do
        if ← vapaaMpiDatatypeIsBuiltin mpi inputDatatype then
          let (arrayOfBlocklengths, filling) ← Ptrdiff.fill15d mpi desc count
          let elementDatatype ← vapaaCfiToMpiType mpi desc.type
          let (rc, arrayDatatype) ← pmpiTypeCreateHindexed mpi count arrayOfBlocklengths
            filling.cells elementDatatype arrayDatatype
          vapaaAssert mpi (rc = mpi.errorClass .success)
          return (mpi.errorClass .success, arrayDatatype)
        else
          vapaaWarning "input datatype is not a named datatype.\n"
          return (mpi.errorClass .errArg, arrayDatatype)) := rfl

section Loops

variable {σ : Type} {desc : CDesc}

/-- What the loops compute for an element. -/
def displaced (desc : CDesc) (n : Nat) : Option Int :=
  MixedRadix.boundedDot Fits64 desc.strides15d
    (MixedRadix.digits (desc.shape ++ List.replicate (15 - desc.rank) 1) n) 0

/-- The loops run through the elements in array element order, as far as they can be computed. -/
theorem ptrdiff_loops15d_eq_iterate (fit : desc.IntExtents) (body : Int → σ → Flow σ) (state : σ) :
    loops15d ptrdiff desc (extents15d ptrdiff desc) body state =
      iterate (fun n state => Flow.ofResult (displaced desc n) fun displacement =>
        body displacement state) (List.range desc.elements) state := by
  rw [loops15d_eq_nestPlaced, nestPlaced_eq_iterate, extents15d_plain, map_toNat_extents15d,
    fit.convertedShape_eq, MixedRadix.prod_padded]
  rfl

private theorem dot_padded {n : Nat} (below : n < desc.elements) :
    MixedRadix.dot desc.strides15d
        (MixedRadix.digits (desc.shape ++ List.replicate (15 - desc.rank) 1) n) =
      desc.displacement n := by
  rw [CDesc.strides15d, MixedRadix.dot_digits_padded (by simp), ← CDesc.displacement_eq_dot below]

private theorem displaced_eq_some {n : Nat} {displacement : Int} (below : n < desc.elements)
    (computed : displaced desc n = some displacement) :
    displacement = desc.displacement n ∧ Fits64 (desc.displacement n) := by
  obtain ⟨same, fits⟩ := MixedRadix.boundedDot_eq_some computed
  rw [zero_add, dot_padded below] at same
  subst same
  exact ⟨rfl, fits (by decide)⟩

/-- Where the displacements of all elements fit, so does what is computed on the way to them. -/
theorem displaced_of_representable (representable : desc.Representable) {n : Nat}
    (below : n < desc.elements) : displaced desc n = some (desc.displacement n) := by
  have padded : (desc.shape ++ List.replicate (15 - desc.rank) 1).prod = desc.elements :=
    MixedRadix.prod_padded desc.shape (15 - desc.rank)
  have fits : ∀ other, MixedRadix.Within (desc.shape ++ List.replicate (15 - desc.rank) 1) other →
      Fits64 (MixedRadix.dot desc.strides15d other) := by
    intro other within
    have numbered := MixedRadix.number_lt within
    rw [padded] at numbered
    have placed := (representable _ numbered).1
    rwa [← dot_padded numbered, MixedRadix.digits_number within] at placed
  have within := MixedRadix.digits_within (padded.symm ▸ below)
  rw [displaced, MixedRadix.boundedDot_of_fits within fits (by simpa using fits),
    dot_padded below, zero_add]

end Loops

section Addresses

variable {mpi : Mpi} {desc : CDesc} {world : World}

/-- Addresses of all elements, in array element order. -/
def CDesc.addresses (desc : CDesc) : List Int := (List.range desc.elements).map desc.address

@[simp] theorem CDesc.length_addresses (desc : CDesc) : desc.addresses.length = desc.elements := by
  simp [addresses]

/-- The address that a round computes. -/
def addressed (desc : CDesc) (n : Nat) : Option Int :=
  (displaced desc n).bind fun displacement =>
    if Fits64 (desc.baseAddr + displacement) then some (desc.baseAddr + displacement) else none

private theorem pushAddress_round (n : Nat) (filling : Filling) :
    (Flow.ofResult (displaced desc n) fun displacement =>
        pushAddress ptrdiff desc.baseAddr displacement filling) =
      Flow.ofResult (addressed desc n) fun address => Filling.push address filling := by
  rw [addressed]
  cases displaced desc n with
  | none => rfl
  | some displacement =>
      simp only [Flow.ofResult, Option.bind_some]
      by_cases fits : Fits64 (desc.baseAddr + displacement)
      · rw [if_pos fits]
        exact if_pos fits
      · rw [if_neg fits]
        exact if_neg fits

private theorem addressed_eq_some {n : Nat} {address : Int} (below : n < desc.elements)
    (computed : addressed desc n = some address) :
    address = desc.address n ∧ Fits64 (desc.displacement n) ∧ Fits64 (desc.address n) := by
  obtain ⟨displacement, displacing, rest⟩ := Option.bind_eq_some_iff.mp computed
  obtain ⟨rfl, fits⟩ := displaced_eq_some below displacing
  split_ifs at rest with addressFits
  cases rest
  exact ⟨rfl, fits, addressFits⟩

private theorem addressed_of_representable (representable : desc.Representable) {n : Nat}
    (below : n < desc.elements) : addressed desc n = some (desc.address n) := by
  rw [addressed, displaced_of_representable representable below]
  exact if_pos (representable n below).2

private theorem push_ne_goto (result : Nat → Option Int) (n : Nat) (filling target : Filling) :
    (Flow.ofResult (result n) fun address => Filling.push address filling) ≠ .goto target := by
  cases result n with
  | none => simp [Flow.ofResult]
  | some address =>
      simp only [Flow.ofResult, Filling.push]
      split_ifs <;> simp

/-- The loops fill an array exactly where they can compute all addresses and it has room. -/
theorem loops_addresses_iff (fit : desc.IntExtents) (room : Nat) (filling : Filling) :
    (loops15d ptrdiff desc (extents15d ptrdiff desc) (pushAddress ptrdiff desc.baseAddr)
        (Filling.holding [] room)).land = .returned filling ↔
      desc.Representable ∧ ∃ unset, room = desc.elements + unset ∧
        filling = Filling.holding desc.addresses unset := by
  simp only [ptrdiff_loops15d_eq_iterate fit, pushAddress_round]
  constructor
  · intro landed
    have reached : iterate (fun n state => Flow.ofResult (addressed desc n) fun address =>
        Filling.push address state) (List.range desc.elements) (Filling.holding [] room) =
          .next filling := by
      cases flow : iterate (fun n state => Flow.ofResult (addressed desc n) fun address =>
          Filling.push address state) (List.range desc.elements) (Filling.holding [] room) with
      | next final =>
          rw [flow, Flow.land_next] at landed
          cases landed
          rfl
      | goto final => exact absurd flow (iterate_ne_goto (push_ne_goto (addressed desc)) _ _ final)
      | undefined fault =>
          rw [flow] at landed
          cases landed
    obtain ⟨values, computed, pushed⟩ := iterate_ofResult reached
    have each : ∀ n, n < desc.elements → ∃ address, addressed desc n = some address := by
      intro n below
      have member : addressed desc n ∈ values.map some :=
        computed ▸ List.mem_map_of_mem (List.mem_range.mpr below)
      obtain ⟨address, -, same⟩ := List.mem_map.mp member
      exact ⟨address, same.symm⟩
    have representable : desc.Representable := by
      intro n below
      obtain ⟨address, result⟩ := each n below
      exact (addressed_eq_some below result).2
    have addresses : values = desc.addresses := by
      apply List.map_injective_iff.mpr (Option.some_injective Int)
      rw [← computed, CDesc.addresses, List.map_map]
      apply List.map_congr_left
      intro n member
      exact addressed_of_representable representable (List.mem_range.mp member)
    subst addresses
    refine ⟨representable, ?_⟩
    by_cases more : room < desc.addresses.length
    · rw [Filling.pushAll_overrun [] more] at pushed
      cases pushed
    · obtain ⟨unset, split⟩ := Nat.exists_eq_add_of_le (not_lt.mp more)
      rw [split, Filling.pushAll_holding [] desc.addresses] at pushed
      cases pushed
      exact ⟨unset, by rw [split, CDesc.length_addresses], rfl⟩
  · rintro ⟨representable, unset, rfl, rfl⟩
    have rounds : iterate (fun n state => Flow.ofResult (addressed desc n) fun address =>
        Filling.push address state) (List.range desc.elements)
          (Filling.holding [] (desc.elements + unset)) =
        iterate Filling.push desc.addresses (Filling.holding [] (desc.elements + unset)) := by
      rw [CDesc.addresses, iterate_map]
      apply iterate_congr
      intro n member
      rw [addressed_of_representable representable (List.mem_range.mp member)]
      rfl
    have pushed := Filling.pushAll_holding [] desc.addresses unset
    rw [CDesc.length_addresses] at pushed
    rw [rounds, pushed]
    rfl

private theorem cells_returned_iff (fit : desc.IntExtents) (room : Nat) (cells : Cells Int)
    (state : World) :
    (∃ final, (do
        let filling ← Run.ofOutcome (loops15d ptrdiff desc (extents15d ptrdiff desc)
          (pushAddress ptrdiff desc.baseAddr) (Filling.holding [] room)).land
        return filling.cells : Call (Cells Int)) state = .returned (cells, final)) ↔
      desc.Representable ∧ ∃ unset, room = desc.elements + unset ∧
        cells = desc.addresses.map some ++ Cells.fresh unset := by
  constructor
  · rintro ⟨final, returned⟩
    obtain ⟨filling, middle, filled, rest⟩ := Run.bind_eq_returned.mp returned
    rw [Run.ofOutcome, Outcome.bind_eq_returned] at filled
    obtain ⟨landed, landing, same⟩ := filled
    cases same
    cases rest
    obtain ⟨representable, unset, split, rfl⟩ := (loops_addresses_iff fit room filling).mp landing
    exact ⟨representable, unset, split, rfl⟩
  · rintro ⟨representable, unset, split, rfl⟩
    have landing := (loops_addresses_iff fit room _).mpr ⟨representable, unset, split, rfl⟩
    refine ⟨state, ?_⟩
    rw [Run.bind_apply, landing]
    rfl

/-- Cells that the address vector gets: those of the memory, or none without the assertion. -/
def AddressRoom (mpi : Mpi) (desc : CDesc) (room : Nat) : Prop :=
  if mpi.allocates (toSizeT (desc.elements * 8)) = true then
    room = toSizeT (desc.elements * 8) / 8
  else mpi.seatbelts = false ∧ room = 0

/-- The elements are counted, and their addresses listed. -/
theorem ptrdiff_createElementAddresses_eq_bind (mpi : Mpi) (desc : CDesc) :
    Ptrdiff.vapaaCfiCreateElementAddresses mpi desc =
      (do
        let numElem ← vapaaCfiGetTotalElements desc (List.range desc.rank) 1
        let addresses := malloc mpi (toSizeT (numElem * 8)) 8
        vapaaAssert mpi addresses.isSome
        let filling ← Run.ofOutcome (loops15d ptrdiff desc (extents15d ptrdiff desc)
          (pushAddress ptrdiff desc.baseAddr)
          { cells := addresses.getD [], offset := 0 } : Flow Filling).land
        return filling.cells) := by
  unfold Ptrdiff.vapaaCfiCreateElementAddresses Builder.vapaaCfiCreateElementAddresses
  simp only [plain_call, plain_rounds, pure_bind, Builder.vapaaCfiGetTotalElements_plain]

private theorem createElementAddresses_returned_iff (sized : desc.Sized) (fit : desc.IntExtents)
    (cells : Cells Int) :
    (∃ final, Ptrdiff.vapaaCfiCreateElementAddresses mpi desc world = .returned (cells, final)) ↔
      desc.SsizeElements ∧ desc.Representable ∧ ∃ unset,
        AddressRoom mpi desc (desc.elements + unset) ∧
          cells = desc.addresses.map some ++ Cells.fresh unset := by
  rcases vapaaCfiGetTotalElements_total sized world with
    ⟨⟨counted, counting⟩, numbered⟩ | ⟨overflows, large⟩
  swap
  · refine iff_of_false ?_ fun whole => large whole.1
    rw [ptrdiff_createElementAddresses_eq_bind, Run.bind_apply, overflows]
    rintro ⟨final, returned⟩
    cases returned
  rw [ptrdiff_createElementAddresses_eq_bind, Run.bind_of_returned counting]
  by_cases allocates : mpi.allocates (toSizeT (desc.elements * 8)) = true
  · have found : malloc mpi (toSizeT (desc.elements * 8)) 8 =
        some (Cells.fresh (toSizeT (desc.elements * 8) / 8) : Cells Int) := by
      rw [malloc, if_pos allocates]
    have filled := @cells_returned_iff desc fit (toSizeT (desc.elements * 8) / 8) cells counted
    simp only [found, Option.isSome_some, vapaaAssert_true, pure_bind, Option.getD_some,
      AddressRoom, if_pos allocates]
    refine filled.trans ⟨?_, ?_⟩
    · rintro ⟨representable, unset, room, same⟩
      exact ⟨numbered, representable, unset, room.symm, same⟩
    · rintro ⟨-, representable, unset, room, same⟩
      exact ⟨representable, unset, room.symm, same⟩
  · have missing : malloc mpi (toSizeT (desc.elements * 8)) 8 = (none : Option (Cells Int)) := by
      rw [malloc, if_neg allocates]
    simp only [missing, Option.isSome_none, Option.getD_none, AddressRoom, if_neg allocates]
    cases asserts : mpi.seatbelts with
    | true =>
        refine iff_of_false ?_ ?_
        · simp only [vapaaAssert, asserts, Run.bind_apply, Bool.false_eq_true, if_false, if_true,
            Run.abort_apply, Outcome.aborted_bind]
          rintro ⟨final, returned⟩
          cases returned
        · rintro ⟨-, -, unset, ⟨never, -⟩, -⟩
          cases never
    | false =>
        have filled := @cells_returned_iff desc fit 0 cells counted
        have passes : vapaaAssert mpi false = pure () := by simp [vapaaAssert, asserts]
        rw [passes, pure_bind]
        refine filled.trans ⟨?_, ?_⟩
        · rintro ⟨representable, unset, room, same⟩
          exact ⟨numbered, representable, unset, ⟨rfl, room.symm⟩, same⟩
        · rintro ⟨-, representable, unset, ⟨-, room⟩, same⟩
          exact ⟨representable, unset, room.symm, same⟩

/-- What the enumeration of the addresses needs. -/
structure AddressesEnumerable (mpi : Mpi) (desc : CDesc) : Prop where
  numbered : desc.SsizeElements
  representable : desc.Representable
  bytes : desc.elements * 8 < 18446744073709551616
  memory : mpi.allocates (toSizeT (desc.elements * 8)) = true ∨
    mpi.seatbelts = false ∧ desc.elements = 0

/-- The vector has exactly the addresses where their number and its bytes do not wrap. -/
theorem createElementAddresses_exact_iff (sized : desc.Sized) (fit : desc.IntExtents) :
    (∃ final, Ptrdiff.vapaaCfiCreateElementAddresses mpi desc world =
        .returned (desc.addresses.map some, final)) ↔ AddressesEnumerable mpi desc := by
  rw [createElementAddresses_returned_iff sized fit]
  constructor
  · rintro ⟨numbered, representable, unset, room, same⟩
    have full : unset = 0 := by
      have lengths := congrArg List.length same
      simpa [Cells.fresh] using lengths
    subst full
    rw [AddressRoom, add_zero] at room
    split_ifs at room with allocates
    · have bytes : desc.elements * 8 < 18446744073709551616 := by
        simp only [toSizeT] at room
        omega
      exact ⟨numbered, representable, bytes, Or.inl allocates⟩
    · exact ⟨numbered, representable, by omega, Or.inr room⟩
  · intro enumerable
    refine ⟨enumerable.numbered, enumerable.representable, 0, ?_, by simp [Cells.fresh]⟩
    have bytes := enumerable.bytes
    rw [AddressRoom, add_zero]
    split_ifs with allocates
    · simp only [toSizeT]
      omega
    · exact enumerable.memory.resolve_left allocates

end Addresses

section Prefixes

variable {mpi : Mpi} {desc : CDesc} {world : World} {count : Nat}

/-- What the loops of a prefix leave at the label behind them. -/
def placedPrefix (desc : CDesc) (count : Nat) : Cells Int × Filling :=
  ((List.replicate count 1).map some,
    Filling.holding (((List.range desc.elements).map desc.displacement).take count) 0)

private theorem malloc_of_bytes {width : Nat}
    (allocates : mpi.allocates (toSizeT (count * width)) = true)
    (positive : 0 < width) (bytes : count * width < 18446744073709551616) :
    malloc mpi (toSizeT ((count : Int) * width)) width = some (Cells.fresh count : Cells Int) := by
  have size : toSizeT ((count : Int) * width) = count * width := by
    have converted := toSizeT_of_bounds bytes
    push_cast at converted
    exact converted
  rw [malloc, if_pos allocates, size, Nat.mul_div_cancel _ positive]

private theorem fill15d_of_allocates (sized : desc.Sized) (fit : desc.IntExtents)
    (representable : desc.Representable)
    (allocates : mpi.AllocatesArrays count) (bytes : count * 8 < 18446744073709551616)
    (positive : 1 ≤ count) (enough : count ≤ desc.elements) :
    Ptrdiff.fill15d mpi desc count world = .returned (placedPrefix desc count, world) := by
  obtain ⟨lengthsAllocated, startsAllocated⟩ := allocates
  have lengths := @malloc_of_bytes mpi count 4 lengthsAllocated (by decide) (by omega)
  have starts := @malloc_of_bytes mpi count 8 startsAllocated (by decide) bytes
  have placed := Filling.placeAll positive
    (show count ≤ ((List.range desc.elements).map desc.displacement).length by simpa using enough)
  rw [Filling.start] at placed
  push_cast at lengths starts
  simp only [Ptrdiff.fill15d, fillArrays, plain_call, plain_rounds, lengths, starts,
    Option.isSome_some, vapaaAssert_true, pure_bind,
    Option.getD_some, forLoop_assign, Flow.land_next, ptrdiff_loops15d_eq sized representable,
    loops15d_eq_iterate fit, placed]
  rfl

/-- Without both arrays the loops are not run through. -/
theorem allocates_of_fill15d (sized : desc.Sized) (fit : desc.IntExtents)
    (representable : desc.Representable)
    (bytes : count * 8 < 18446744073709551616) (positive : 1 ≤ count)
    (enough : count ≤ desc.elements) {result : Cells Int × Filling} {final : World}
    (returned : Ptrdiff.fill15d mpi desc count world = .returned (result, final)) :
    mpi.AllocatesArrays count := by
  simp only [Ptrdiff.fill15d, fillArrays, plain_call, plain_rounds, pure_bind] at returned
  obtain ⟨_, lengthsChecked, _, rest⟩ := Run.bind_eq_returned.mp returned
  obtain ⟨_, _, filled, rest⟩ := Run.bind_eq_returned.mp rest
  obtain ⟨_, _, _, rest⟩ := Run.bind_eq_returned.mp rest
  obtain ⟨_, _, placed, _⟩ := Run.bind_eq_returned.mp rest
  have lengthsAllocated : mpi.allocates (toSizeT (count * 4)) = true := by
    by_contra missing
    rw [malloc, if_neg missing, Option.getD_none, forLoop_assign_nil _ positive] at filled
    cases filled
  refine ⟨lengthsAllocated, ?_⟩
  by_contra missing
  have present : (List.range desc.elements).map desc.displacement ≠ [] := by
    rw [ne_eq, List.map_eq_nil_iff, List.range_eq_nil]
    omega
  rw [malloc, if_neg missing, Option.getD_none, ptrdiff_loops15d_eq sized representable,
    loops15d_eq_iterate fit, Filling.iterate_place_nil present] at placed
  cases placed

end Prefixes

section Agreement

variable {mpi : Mpi} {desc : CDesc} {world : World}

/-- Position of a multi-index in array element order. -/
def CDesc.place (desc : CDesc) (index : Nat → Nat) : Nat :=
  ∑ k ∈ Finset.range desc.rank, index k * ∏ m ∈ Finset.range k, (desc.record m).extent.toNat

/-- Address of the element at a multi-index. -/
def CDesc.addressAt (desc : CDesc) (index : Nat → Nat) : Int :=
  desc.baseAddr + ∑ k ∈ Finset.range desc.rank, index k * (desc.record k).sm

/-- Both enumerations list the elements: the vector has exactly as many addresses as are counted,
each at the place of its multi-index, and a prefix has exactly as many displacements as it is asked
for, which are those of the first addresses. -/
structure EnumerationsAgree (mpi : Mpi) (desc : CDesc) (world : World) (addresses : List Int) :
    Prop where
  total : Run.Returns (vapaaCfiGetTotalElements desc (List.range desc.rank) 1) world
    fun total _ => total = addresses.length
  filled : Run.Returns (Ptrdiff.vapaaCfiCreateElementAddresses mpi desc) world
    fun cells _ => cells = addresses.map some
  placed : ∀ index : Nat → Nat, (∀ k, k < desc.rank → (index k : Int) < (desc.record k).extent) →
    addresses[desc.place index]? = some (desc.addressAt index)
  prefixes : 1 ≤ desc.rank → ∀ count : Nat, 1 ≤ count → count ≤ addresses.length →
    Run.Returns (Ptrdiff.fill15d mpi desc count) world fun (_, filling) _ =>
      filling.offset = count ∧
        filling.cells = ((addresses.take count).map (· - desc.baseAddr)).map some

/-- What both enumerations need. -/
structure Enumerable (mpi : Mpi) (desc : CDesc) : Prop where
  addresses : AddressesEnumerable mpi desc
  arrays : 1 ≤ desc.rank → ∀ count : Nat, 1 ≤ count → count ≤ desc.elements →
    mpi.AllocatesArrays count

private theorem addresses_placed {index : Nat → Nat}
    (inside : ∀ k, k < desc.rank → (index k : Int) < (desc.record k).extent) :
    desc.addresses[desc.place index]? = some (desc.addressAt index) := by
  have shape : desc.shape = (List.range desc.rank).map fun k => (desc.record k).extent.toNat := by
    rw [CDesc.shape, CDesc.extents, List.map_map]
    rfl
  have within : MixedRadix.Within desc.shape ((List.range desc.rank).map index) := by
    rw [MixedRadix.Within, shape, List.forall₂_map_left_iff, List.forall₂_map_right_iff,
      List.forall₂_same]
    intro k member
    have below := inside k (List.mem_range.mp member)
    omega
  have numbered : desc.place index =
      MixedRadix.number desc.shape ((List.range desc.rank).map index) := by
    rw [shape, MixedRadix.number_range, CDesc.place]
  have below := MixedRadix.number_lt within
  have sum : desc.displacement (desc.place index) =
      ∑ k ∈ Finset.range desc.rank, index k * (desc.record k).sm := by
    rw [numbered, CDesc.displacement_eq_dot below, MixedRadix.digits_number within,
      CDesc.strides, MixedRadix.dot_range]
  rw [← numbered, ← CDesc.elements] at below
  rw [CDesc.addresses, List.getElem?_map, List.getElem?_range below, Option.map_some,
    CDesc.address, sum, CDesc.addressAt]

/-- The enumerations agree exactly where the number of elements does not overflow, its bytes do not
wrap, every element has an address, and there is memory. -/
theorem enumerations_agree_iff (extents : ∀ k, k < desc.rank →
      0 ≤ (desc.record k).extent ∧ (desc.record k).extent ≤ intMax) :
    (∃ addresses, EnumerationsAgree mpi desc world addresses) ↔ Enumerable mpi desc := by
  have sized : desc.Sized := fun k inside => (extents k inside).1
  have fit : desc.IntExtents := by
    intro i
    obtain ⟨low, high⟩ := extents i i.isLt
    rw [record_of_lt i.isLt] at low high
    exact toInt_of_bounds (le_trans (by decide) low) high
  have total := vapaaCfiGetTotalElements_total sized world
  constructor
  · rintro ⟨addresses, agree⟩
    obtain ⟨counted, middle, counting, same⟩ := agree.total
    obtain ⟨cells, final, listing, listed⟩ := agree.filled
    obtain ⟨-, -, unset, -, holds⟩ :=
      (createElementAddresses_returned_iff sized fit cells).mp ⟨final, listing⟩
    have exactly : addresses = desc.addresses := by
      rcases total with ⟨⟨state, counts⟩, -⟩ | ⟨overflows, -⟩
      · rw [counting] at counts
        cases counts
        have lengths := congrArg List.length (listed.symm.trans holds)
        have full : unset = 0 := by
          simp only [List.length_map, List.length_append, CDesc.length_addresses, Cells.fresh,
            List.length_replicate] at lengths
          omega
        subst full
        apply List.map_injective_iff.mpr (Option.some_injective Int)
        rw [← listed, holds]
        simp [Cells.fresh]
      · rw [counting] at overflows
        cases overflows
    subst exactly
    rw [listed] at listing
    have enumerable := (createElementAddresses_exact_iff sized fit).mp ⟨final, listing⟩
    refine ⟨enumerable, fun ranked count positive enough => ?_⟩
    have few : count * 8 < 18446744073709551616 := by
      have bytes := enumerable.bytes
      omega
    obtain ⟨result, last, returned, -⟩ :=
      agree.prefixes ranked count positive (by rwa [CDesc.length_addresses])
    exact allocates_of_fill15d sized fit enumerable.representable few positive enough returned
  · intro enumerable
    obtain ⟨addressesEnumerable, arrays⟩ := enumerable
    refine ⟨desc.addresses, ?_, ?_, fun index inside => addresses_placed inside, ?_⟩
    · rcases total with ⟨⟨state, counts⟩, -⟩ | ⟨-, large⟩
      · exact Run.returns_of_returned counts (by rw [CDesc.length_addresses])
      · exact absurd addressesEnumerable.numbered large
    · obtain ⟨final, listing⟩ :=
        (createElementAddresses_exact_iff sized fit).mpr addressesEnumerable
      exact Run.returns_of_returned listing rfl
    · intro ranked count positive enough
      rw [CDesc.length_addresses] at enough
      have few : count * 8 < 18446744073709551616 := by
        have bytes := addressesEnumerable.bytes
        omega
      refine Run.returns_of_returned (fill15d_of_allocates sized fit
        addressesEnumerable.representable (arrays ranked count positive enough) few positive
        enough) ⟨?_, ?_⟩
      · simpa [placedPrefix, Filling.holding] using enough
      · have starts : (desc.addresses.take count).map (· - desc.baseAddr) =
            ((List.range desc.elements).map desc.displacement).take count := by
          rw [List.map_take, CDesc.addresses, List.map_map]
          congr 1
          apply List.map_congr_left
          intro n _
          exact add_sub_cancel_left desc.baseAddr (desc.displacement n)
        rw [starts]
        simp [Filling.holding, Cells.fresh]

/-- A section of every second element of every second column. -/
def sparsePlane : CDesc :=
  sectionOf 4096 4 1025
    [{ lowerBound := 0, extent := 3, sm := 8 }, { lowerBound := 0, extent := 2, sm := 48 }]
    (by decide)

theorem enumerations_agree_plane :
    ∃ addresses, EnumerationsAgree mpich sparsePlane startWorld addresses :=
  (enumerations_agree_iff (by decide)).mpr {
    addresses := ⟨by decide, by decide, by decide, Or.inl rfl⟩
    arrays := fun _ _ _ _ => ⟨rfl, rfl⟩ }

def emptySpaces : CDesc :=
  sectionOf 4096 1 257
    [{ lowerBound := 0, extent := 2097152, sm := 1 },
      { lowerBound := 0, extent := 2097152, sm := 2097152 },
      { lowerBound := 0, extent := 2097152, sm := 4398046511104 },
      { lowerBound := 0, extent := 0, sm := 0 }] (by decide)

/-- The product of the first three extents overflows before the fourth makes it zero. -/
theorem enumerations_disagree :
    vapaaCfiGetTotalElements emptySpaces (List.range emptySpaces.rank) 1 startWorld =
        .undefined .overflow ∧
      ¬ ∃ addresses, EnumerationsAgree mpich emptySpaces startWorld addresses := by
  have overflows : vapaaCfiGetTotalElements emptySpaces (List.range emptySpaces.rank) 1 startWorld =
      .undefined .overflow := rfl
  refine ⟨overflows, ?_⟩
  rintro ⟨addresses, agree⟩
  exact Run.not_returns_of_undefined overflows agree.total

end Agreement

end Vapaa
