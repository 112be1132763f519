import Vapaa.SectionBounds

/-!
# Integers of the builder

When the arithmetic of the builder is exact: no product overflows, no conversion loses bits,
and the element addresses are as many as the cells allocated for them.
-/

set_option autoImplicit false

namespace Vapaa

open Foundation Builder

section Stages

variable (mpi : Mpi) (desc : CDesc) (count : Nat) (inputDatatype arrayDatatype : Int)

/-- The construction for named datatypes starts: the elements are counted and hold the request. -/
def ConstructionStarts (world : World) (element : Int) (begun : World) : Prop :=
  ∃ totalElems,
    countedElements unbounded mpi desc world = .returned ((element, .ok totalElems), begun) ∧
    (count : Int) ≤ totalElems

/-- The addresses of the elements are listed: their vector is allocated for `totalElems`. -/
def AddressesListed (world : World) (totalElems : Int) : Prop :=
  mpi.iovSupport = .available ∧ ∃ arrays reached counted,
    indexedArrays mpi desc count inputDatatype world = .returned (arrays, reached) ∧
    vapaaCfiGetTotalElements desc (List.range desc.rank) 1 reached =
      .returned (totalElems, counted) ∧
    mpi.allocates (toSizeT (totalElems * 8)) = true

/-- The arithmetic of the branch for named datatypes, as far as a run gets there. -/
structure NamedExact (world : World) : Prop where
  products : countedElements unbounded mpi desc world ≠ .undefined .overflow
  extents : ∀ element begun, ConstructionStarts mpi desc count world element begun →
    desc.IntExtents
  plane : ∀ element begun, ConstructionStarts mpi desc count world element begun →
    ¬ (desc.rank = 1 ∨ (count : Int) ≤ toInt (desc.record 0).extent) →
      fitsPlane desc count (toInt (desc.record 0).extent) (toInt (desc.record 1).extent) begun ≠
        .undefined .overflow
  bytes : ∀ element begun handle built, ConstructionStarts mpi desc count world element begun →
    createPrefix unbounded mpi desc count (toInt desc.elemLen) element inputDatatype arrayDatatype begun =
        .returned ((mpi.errorClass .success, handle), built) →
      count * toInt desc.elemLen = count * desc.elemLen ∧ count * desc.elemLen ≤ intMax

/-- The arithmetic of the construction for derived datatypes, as far as a run gets there. The
last bound of it is the number of rounds that the loops make. -/
structure DerivedExact (world : World) : Prop where
  products : mpi.iovSupport = .available → ∀ arrays reached,
    indexedArrays mpi desc count inputDatatype world = .returned (arrays, reached) →
      vapaaCfiGetTotalElements desc (List.range desc.rank) 1 reached ≠ .undefined .overflow
  extents : ∀ totalElems, AddressesListed mpi desc count inputDatatype world totalElems →
    desc.IntExtents
  rounds : ∀ totalElems, AddressesListed mpi desc count inputDatatype world totalElems →
    loops15d unbounded desc (extents15d unbounded desc) (fun _ n => .next (n + 1)) 0 =
      .next (toSizeT (totalElems * 8) / 8)

/-- The arithmetic of the builder, in the branch that the input datatype selects. -/
structure ArithmeticExact (world : World) : Prop where
  named : ∀ chosen, vapaaMpiDatatypeIsBuiltin mpi inputDatatype world = .returned (true, chosen) →
    NamedExact mpi desc count inputDatatype arrayDatatype chosen
  derived : ∀ chosen,
    vapaaMpiDatatypeIsBuiltin mpi inputDatatype world = .returned (false, chosen) →
      DerivedExact mpi desc count inputDatatype chosen

end Stages

/-- The integers that the branch for named datatypes computes with are in range. For a scalar
two of them are whatever lies behind its descriptor. -/
structure CDesc.NamedFits (mpi : Mpi) (desc : CDesc) (count : Nat) : Prop where
  counts : desc.CountsFit
  plane : desc.rank = 0 → count ≤ 1 → toInt (desc.record 0).extent < count →
    -2147483648 ≤ toInt (desc.record 0).extent * toInt (desc.record 1).extent ∧
      toInt (desc.record 0).extent * toInt (desc.record 1).extent ≤ intMax
  bytes : desc.Completed mpi count → count * desc.elemLen ≤ intMax

/-- The integers that the construction for derived datatypes computes with are in range. -/
def CDesc.DerivedFits (mpi : Mpi) (desc : CDesc) (input : TypeObject) (count : Nat) : Prop :=
  ArraysAllocated mpi desc input count → desc.SsizeElements ∧
    (mpi.allocates (toSizeT (desc.elements * 8)) = true →
      desc.IntExtents ∧ desc.elements * 8 < 18446744073709551616)

section Named

variable {mpi : Mpi} {desc : CDesc} {world : World} {count : Nat}
variable {element inputDatatype arrayDatatype : Int} {input : TypeObject}

private theorem countedElements_cases (mpi : Mpi) (sized : desc.Sized) (world : World) :
    (∃ element begun, countedElements unbounded mpi desc world =
        .returned ((element, .ok (desc.leadingElements desc.rank)), begun) ∧
      begun.types = world.types ∧ desc.CountsFit ∧ desc.Countable ∧
      (mappedType mpi desc.type = some element ∨
        mappedType mpi desc.type = none ∧ element = mpi.datatype .datatypeNull)) ∨
    (∃ element rc begun, countedElements unbounded mpi desc world =
        .returned ((element, .error rc), begun) ∧ desc.CountsFit ∧ ¬ desc.Countable) ∨
    (countedElements unbounded mpi desc world = .undefined .overflow ∧ ¬ desc.CountsFit) := by
  obtain ⟨element, first, translation, same, translated⟩ :=
    vapaaCfiToMpiType_cases mpi desc.type world
  rw [countedElements, plain_call, Run.bind_of_returned translation]
  obtain ⟨second, counting, kept, countable, counts⟩ | ⟨rc, second, counting, -, large, counts⟩ |
    ⟨counting, unfit⟩ := countElements_fits mpi sized first
  · refine Or.inl ⟨element, second, ?_, kept.trans same, counts, countable, translated⟩
    rw [Run.bind_of_returned counting, Run.pure_apply]
  · refine Or.inr (Or.inl ⟨element, rc, second, ?_, counts, large⟩)
    rw [Run.bind_of_returned counting, Run.pure_apply]
  · refine Or.inr (Or.inr ⟨?_, unfit⟩)
    rw [Run.bind_apply, counting, Outcome.undefined_bind]

private theorem createPrefix_succeeds_iff (active : mpi.seatbelts = true)
    (basic : world.types.Basic mpi)
    (sized : desc.Sized) (countable : desc.Countable)
    (within : (count : Int) ≤ desc.leadingElements desc.rank)
    (inputLive : world.types.object inputDatatype = some input) (named : input.combiner = .named)
    (translated : mappedType mpi desc.type = some element ∨
      mappedType mpi desc.type = none ∧ element = mpi.datatype .datatypeNull) :
    (∃ handle built, createPrefix unbounded mpi desc count (toInt desc.elemLen) element inputDatatype
        arrayDatatype world = .returned ((mpi.errorClass .success, handle), built)) ↔
      desc.Completed mpi count := by
  obtain mapped | ⟨unmapped, rfl⟩ := translated
  swap
  · constructor
    · rintro ⟨handle, built, returned⟩
      obtain ⟨-, -, off⟩ := createPrefix_unbuilt inputLive named unmapped basic.null _ _ returned
      rw [off rfl] at active
      cases active
    · intro completed
      obtain ⟨element, mapped⟩ := completed.attempted.mapped
      rw [unmapped] at mapped
      cases mapped
  obtain ⟨old, live, -⟩ := basic.elements _ element mapped
  by_cases scalar : desc.rank = 0
  · have few : count ≤ 1 := by
      rw [scalar, desc.leadingElements_zero] at within
      omega
    rw [CDesc.Completed.scalar scalar]
    obtain ⟨passed, handle, built, returned, -⟩ | ⟨stopped, unbuilt⟩ :=
      @createPrefix_scalar_cases mpi desc world count element inputDatatype old input
        (toInt desc.elemLen) arrayDatatype scalar few inputLive named mapped live basic.null
    · exact ⟨fun _ => ⟨⟨element, mapped⟩, few, passed⟩, fun _ => ⟨handle, built, returned⟩⟩
    · constructor
      · rintro ⟨handle, built, returned⟩
        obtain ⟨-, -, off⟩ := unbuilt _ _ returned
        rw [off rfl] at active
        cases active
      · exact fun completed => absurd completed.2.2 stopped
  · have ranked := Nat.one_le_iff_ne_zero.mpr scalar
    obtain ⟨displacements, ⟨handle, built, returned, -⟩, -, -, supported, arrays⟩ |
      ⟨halts, listed, missing⟩ | ⟨highest, column, plane, final, refused, -⟩ :=
        createPrefix_cases (toInt desc.elemLen) arrayDatatype ranked sized.wellFormed countable
          within inputLive named mapped live
    · refine ⟨fun _ => ?_, fun _ => ⟨handle, built, returned⟩⟩
      exact ⟨⟨⟨element, mapped⟩, Int.natCast_nonneg count, fun flat => absurd flat scalar,
        fun _ => ⟨countable, within, supported⟩⟩, fun _ => arrays⟩
    · constructor
      · rintro ⟨handle, built, returned⟩
        exact absurd returned halts.not_returned
      · exact fun completed => absurd (completed.arrays ranked listed) missing
    · constructor
      · rintro ⟨handle, built, returned⟩
        rw [refused] at returned
        simp only [Outcome.returned.injEq, Prod.mk.injEq] at returned
        exact absurd returned.1.1 (by simp)
      · intro completed
        obtain inColumn | inPlane := (completed.attempted.array ranked).2.2 highest
        · exact absurd inColumn column
        · exact absurd inPlane plane

/-- The plane is computed in range for arrays; for a scalar it is computed from the records
behind its descriptor. -/
theorem fitsPlane_overflows_iff (sized : desc.Sized) (countable : desc.Countable)
    (column : ¬ (desc.rank = 1 ∨ (count : Int) ≤ toInt (desc.record 0).extent)) (begun : World) :
    fitsPlane desc count (toInt (desc.record 0).extent) (toInt (desc.record 1).extent) begun =
        .undefined .overflow ↔
      desc.rank = 0 ∧
        ¬ (-2147483648 ≤ toInt (desc.record 0).extent * toInt (desc.record 1).extent ∧
          toInt (desc.record 0).extent * toInt (desc.record 1).extent ≤ intMax) := by
  obtain ⟨several, beyond⟩ := not_or.mp column
  by_cases scalar : desc.rank = 0
  · have flat : ¬ desc.rank = 2 := by omega
    rw [fitsPlane, if_neg flat, intResult]
    split_ifs with fits
    · exact ⟨fun never => (by cases never), fun wide => absurd fits wide.2⟩
    · exact ⟨fun _ => ⟨scalar, fits⟩, fun _ => rfl⟩
  · have fit (k : Nat) (inside : k < desc.rank) :
        toInt (desc.record k).extent = (desc.record k).extent := by
      rw [record_of_lt inside]
      exact countable.intExtents sized.wellFormed ⟨k, inside⟩
    rw [fit 0 (by omega), fit 1 (by omega),
      fitsPlane_eq count (by omega) sized countable begun]
    exact ⟨fun never => (by cases never), fun wide => absurd wide.1 scalar⟩

private theorem bytes_exact {elemLen : Nat} (fits : (count * elemLen : Int) ≤ intMax) :
    count * toInt elemLen = (count * elemLen : Int) := by
  cases count with
  | zero => simp
  | succ count =>
      have small : (elemLen : Int) ≤ intMax := by
        have grows : elemLen ≤ (count + 1) * elemLen := Nat.le_mul_of_pos_left _ (by omega)
        calc (elemLen : Int) ≤ ((count + 1) * elemLen : Nat) := by exact_mod_cast grows
          _ ≤ intMax := by exact_mod_cast fits
      rw [toInt_of_bounds (by omega) small]

private theorem namedExact_iff (active : mpi.seatbelts = true) (basic : world.types.Basic mpi)
    (sized : desc.Sized) (inputLive : world.types.object inputDatatype = some input)
    (named : input.combiner = .named) :
    NamedExact mpi desc count inputDatatype arrayDatatype world ↔ desc.NamedFits mpi count := by
  obtain ⟨element, begun, counting, same, counts, countable, translated⟩ |
    ⟨element, rc, begun, counting, counts, large⟩ | ⟨counting, unfit⟩ :=
      countedElements_cases mpi sized world
  · have starts {element' : Int} {begun' : World} :
        ConstructionStarts mpi desc count world element' begun' ↔
          (element = element' ∧ begun = begun') ∧
            (count : Int) ≤ desc.leadingElements desc.rank := by
      rw [ConstructionStarts, counting]
      constructor
      · rintro ⟨totalElems, returned, within⟩
        cases returned
        exact ⟨⟨rfl, rfl⟩, within⟩
      · rintro ⟨⟨rfl, rfl⟩, within⟩
        exact ⟨_, rfl, within⟩
    have completes (within : (count : Int) ≤ desc.leadingElements desc.rank) :=
      @createPrefix_succeeds_iff mpi desc begun count element inputDatatype arrayDatatype input
        active (same ▸ basic) sized countable within (same ▸ inputLive) named translated
    constructor
    · intro exactly
      refine ⟨counts, fun scalar few beyond => ?_, fun completed => ?_⟩
      · have within : (count : Int) ≤ desc.leadingElements desc.rank := by
          rw [scalar, desc.leadingElements_zero]
          omega
        have column : ¬ (desc.rank = 1 ∨ (count : Int) ≤ toInt (desc.record 0).extent) := by
          omega
        have fits := exactly.plane _ _ (starts.mpr ⟨⟨rfl, rfl⟩, within⟩) column
        by_contra wide
        exact fits ((fitsPlane_overflows_iff sized countable column begun).mpr ⟨scalar, wide⟩)
      · have within : (count : Int) ≤ desc.leadingElements desc.rank := by
          by_cases scalar : desc.rank = 0
          · have few := (completed.attempted.scalar scalar).1
            rw [scalar, desc.leadingElements_zero]
            exact_mod_cast few
          · exact (completed.attempted.array (Nat.one_le_iff_ne_zero.mpr scalar)).2.1
        obtain ⟨handle, built, succeeded⟩ := (completes within).mpr completed
        exact (exactly.bytes _ _ _ _ (starts.mpr ⟨⟨rfl, rfl⟩, within⟩) succeeded).2
    · intro fits
      exact {
        products := by
          rw [counting]
          exact fun overflows => (by cases overflows)
        extents := fun _ _ _ => countable.intExtents sized.wellFormed
        plane := by
          intro element' begun' started column overflows
          obtain ⟨-, within⟩ := starts.mp started
          obtain ⟨scalar, wide⟩ := (fitsPlane_overflows_iff sized countable column _).mp overflows
          rw [scalar, desc.leadingElements_zero] at within
          exact wide (fits.plane scalar (by omega) (by omega))
        bytes := by
          intro element' begun' handle built started succeeded
          obtain ⟨⟨rfl, rfl⟩, within⟩ := starts.mp started
          have small := fits.bytes ((completes within).mp ⟨handle, built, succeeded⟩)
          exact ⟨bytes_exact small, small⟩ }
  · have never {element' : Int} {begun' : World} :
        ¬ ConstructionStarts mpi desc count world element' begun' := by
      rintro ⟨totalElems, returned, -⟩
      rw [counting] at returned
      cases returned
    have ranked : desc.rank ≠ 0 := fun scalar => large (CDesc.Countable.of_scalar scalar)
    constructor
    · intro _
      refine ⟨counts, fun scalar => absurd scalar ranked, fun completed => ?_⟩
      exact absurd (completed.attempted.array (Nat.one_le_iff_ne_zero.mpr ranked)).1 large
    · intro _
      exact {
        products := by
          rw [counting]
          exact fun overflows => (by cases overflows)
        extents := fun _ _ started => absurd started never
        plane := fun _ _ started => absurd started never
        bytes := fun _ _ _ _ started => absurd started never }
  · exact ⟨fun exactly => absurd counting exactly.products,
      fun fits => absurd fits.counts unfit⟩

end Named

section Derived

variable {mpi : Mpi} {desc : CDesc} {world : World} {count : Nat}
variable {inputDatatype : Int} {input : TypeObject}

/-- The arrays are reached exactly where there is memory for what comes before them. -/
theorem indexedArrays_returned_iff (active : mpi.seatbelts = true)
    (available : mpi.iovSupport = .available)
    (live : world.types.object inputDatatype = some input) :
    (∃ arrays reached, indexedArrays mpi desc count inputDatatype world =
        .returned (arrays, reached)) ↔ ArraysAllocated mpi desc input count := by
  rcases indexedArrays_cases active available live with
    ⟨allocated, _, _, _, _, returned⟩ | ⟨short, aborted⟩ | ⟨segments, stuck, fault, faulty⟩
  · exact iff_of_true ⟨_, _, returned⟩ allocated
  · rw [aborted]
    refine iff_of_false nofun fun allocated => ?_
    exact (short allocated.segments).2.2 allocated.lengths allocated.starts
  · rw [faulty]
    exact iff_of_false nofun fun allocated => stuck ⟨allocated.room, allocated.divides⟩

private theorem loops15d_rounds (desc : CDesc) :
    loops15d unbounded desc (extents15d unbounded desc) (fun _ n => .next (n + 1)) 0 =
      .next desc.convertedShape.prod := by
  have counts (values : List Int) (n : Nat) :
      iterate (fun _ n => .next (n + 1)) values n = .next (n + values.length) := by
    induction values generalizing n with
    | nil => rfl
    | cons value values ih =>
        rw [iterate, Flow.andThen, ih, List.length_cons]
        congr 1
        omega
  rw [loops15d_eq_iterate_converted, counts, List.length_map, List.length_range, Nat.zero_add]

/-- The elements are counted from every state, or from none. -/
theorem vapaaCfiGetTotalElements_total (sized : desc.Sized) (reached : World) :
    (∃ counted, vapaaCfiGetTotalElements desc (List.range desc.rank) 1 reached =
        .returned (desc.elements, counted)) ∧ desc.SsizeElements ∨
      vapaaCfiGetTotalElements desc (List.range desc.rank) 1 reached = .undefined .overflow ∧
        ¬ desc.SsizeElements := by
  have whole : List.range desc.rank = List.range' 0 desc.rank := List.range_eq_range'
  have cases := vapaaCfiGetTotalElements_cases sized (Nat.zero_add desc.rank) reached
  rw [← whole, desc.leadingElements_zero, sized.leadingElements_rank] at cases
  obtain ⟨counted, returned, -, within⟩ | overflows := cases
  · exact Or.inl ⟨⟨counted, returned⟩, fun k inside => within k (Nat.zero_le k) inside⟩
  · exact Or.inr overflows

private theorem addressesListed_iff (active : mpi.seatbelts = true) (sized : desc.Sized)
    (live : world.types.object inputDatatype = some input) {totalElems : Int} :
    AddressesListed mpi desc count inputDatatype world totalElems ↔
      ArraysAllocated mpi desc input count ∧ desc.SsizeElements ∧ totalElems = desc.elements ∧
        mpi.allocates (toSizeT (desc.elements * 8)) = true := by
  constructor
  · rintro ⟨available, arrays, reached, counted, returned, counting, allocates⟩
    have allocated :=
      (indexedArrays_returned_iff active available live).mp ⟨arrays, reached, returned⟩
    obtain ⟨⟨counted, same⟩, numbered⟩ | ⟨overflows, -⟩ :=
      vapaaCfiGetTotalElements_total sized reached
    · rw [same] at counting
      cases counting
      exact ⟨allocated, numbered, rfl, allocates⟩
    · rw [overflows] at counting
      cases counting
  · rintro ⟨allocated, numbered, rfl, allocates⟩
    obtain ⟨arrays, reached, returned⟩ :=
      (indexedArrays_returned_iff active allocated.available live).mpr allocated
    obtain ⟨⟨counted, same⟩, -⟩ | ⟨-, large⟩ := vapaaCfiGetTotalElements_total sized reached
    · exact ⟨allocated.available, arrays, reached, counted, returned, same, allocates⟩
    · exact absurd numbered large

private theorem derivedExact_iff (active : mpi.seatbelts = true) (sized : desc.Sized)
    (live : world.types.object inputDatatype = some input) :
    DerivedExact mpi desc count inputDatatype world ↔ desc.DerivedFits mpi input count := by
  have listed {totalElems : Int} :=
    @addressesListed_iff mpi desc world count inputDatatype input active sized live totalElems
  constructor
  · intro exactly allocated
    obtain ⟨arrays, reached, returned⟩ :=
      (indexedArrays_returned_iff active allocated.available live).mpr allocated
    have inRange := exactly.products allocated.available arrays reached returned
    obtain ⟨-, numbered⟩ | ⟨overflows, -⟩ := vapaaCfiGetTotalElements_total sized reached
    swap
    · exact absurd overflows inRange
    refine ⟨numbered, fun allocates => ?_⟩
    have begun := listed.mpr ⟨allocated, numbered, rfl, allocates⟩
    have fit := exactly.extents _ begun
    refine ⟨fit, ?_⟩
    have rounds := exactly.rounds _ begun
    rw [loops15d_rounds, fit.convertedShape_eq, Flow.next.injEq, ← CDesc.elements] at rounds
    simp only [toSizeT] at rounds
    omega
  · intro fits
    exact {
      products := by
        intro available arrays reached returned overflows
        have allocated :=
          (indexedArrays_returned_iff active available live).mp ⟨arrays, reached, returned⟩
        obtain ⟨⟨counted, same⟩, -⟩ | ⟨-, large⟩ := vapaaCfiGetTotalElements_total sized reached
        · rw [same] at overflows
          cases overflows
        · exact large (fits allocated).1
      extents := by
        intro totalElems begun
        obtain ⟨allocated, -, -, allocates⟩ := listed.mp begun
        exact ((fits allocated).2 allocates).1
      rounds := by
        intro totalElems begun
        obtain ⟨allocated, -, rfl, allocates⟩ := listed.mp begun
        obtain ⟨fit, small⟩ := (fits allocated).2 allocates
        have bytes := toSizeT_of_bounds small
        push_cast at bytes
        rw [loops15d_rounds, fit.convertedShape_eq, ← CDesc.elements, bytes,
          Nat.mul_div_cancel _ (by omega)] }

/-- The integers of the builder are exact, for named datatypes when what their checks leave is
in range, and for derived ones when the extents and the number of elements are. -/
theorem arithmeticExact_iff (arrayDatatype : Int) (active : mpi.seatbelts = true)
    (basic : world.types.Basic mpi) (sized : desc.Sized)
    (inputLive : world.types.object inputDatatype = some input) :
    ArithmeticExact mpi desc count inputDatatype arrayDatatype world ↔
      if input.combiner = .named then desc.NamedFits mpi count
      else desc.DerivedFits mpi input count := by
  have chosen := @vapaaMpiDatatypeIsBuiltin_of_live mpi world _ _ inputLive
  by_cases named : input.combiner = .named
  · rw [if_pos named, ← @namedExact_iff mpi desc world count inputDatatype arrayDatatype input
      active basic sized inputLive named]
    rw [decide_eq_true named] at chosen
    constructor
    · exact fun exactly => exactly.named _ chosen
    · intro exactly
      refine ⟨fun selected same => ?_, fun selected same => ?_⟩
      · rw [chosen] at same
        cases same
        exact exactly
      · rw [chosen] at same
        cases same
  · rw [if_neg named, ← @derivedExact_iff mpi desc world count inputDatatype input active sized
      inputLive]
    rw [decide_eq_false named] at chosen
    constructor
    · exact fun exactly => exactly.derived _ chosen
    · intro exactly
      refine ⟨fun selected same => ?_, fun selected same => ?_⟩
      · rw [chosen] at same
        cases same
      · rw [chosen] at same
        cases same
        exact exactly

end Derived

/-- A column of three thousand million bytes. -/
def longColumn : CDesc :=
  sectionOf 4096 1 257 [{ lowerBound := 0, extent := 3000000000, sm := 1 }] (by decide)

/-- Nothing checks the extent that the loops over the elements convert. -/
theorem arithmeticExact_long :
    longColumn.Sized ∧
      ¬ ArithmeticExact mpich longColumn 1 2000000000 201326592 paddedWorld := by
  refine ⟨by decide, fun exactly => ?_⟩
  have fits := (@derivedExact_iff mpich longColumn paddedWorld 1 2000000000 paddedInteger rfl
    (by decide) (by decide)).mp (exactly.derived paddedWorld rfl)
  have extents := ((fits ⟨by decide, by decide, by decide, by decide, by decide, by decide⟩).2
    (by decide)).1
  exact absurd extents (by decide)

theorem arithmeticExact_spaced :
    ArithmeticExact mpich spacedColumn 2 2000000000 201326592 paddedWorld := by
  refine (@arithmeticExact_iff mpich spacedColumn paddedWorld 2 2000000000 paddedInteger 201326592
    rfl paddedTypes_basic (by decide) (by decide)).mpr ?_
  rw [if_neg (by decide)]
  exact fun _ => ⟨by decide, fun _ => ⟨by decide, by decide⟩⟩

end Vapaa
