import Vapaa.BuilderLoops

/-! What the branch of the builder for named datatypes accepts and creates. -/

set_option autoImplicit false

namespace Vapaa

open Foundation Builder

section Counting

variable {mpi : Mpi} {desc : CDesc}

/-- Neither an extent nor a product of leading extents exceeds `INT_MAX`. -/
def CDesc.Countable (desc : CDesc) : Prop :=
  ∀ k, k < desc.rank →
    (desc.record k).extent ≤ intMax ∧ desc.leadingElements (k + 1) ≤ intMax

instance (desc : CDesc) : Decidable desc.Countable :=
  inferInstanceAs (Decidable (∀ k, k < desc.rank → _))

theorem CDesc.Countable.intExtents (countable : desc.Countable)
    (wellFormed : desc.WellFormed) : desc.IntExtents := by
  intro i
  have small := (countable i i.isLt).1
  have bounded := wellFormed i i.isLt
  rw [record_of_lt i.isLt] at small bounded
  apply toInt_of_bounds _ small
  omega

theorem warnLowerBounds_returned (desc : CDesc) (dimensions : List Nat) (world : World) :
    ∃ final, warnLowerBounds unbounded desc dimensions world = .returned ((), final) ∧
      final.types = world.types := by
  induction dimensions generalizing world with
  | nil => exact ⟨world, rfl, rfl⟩
  | cons i dimensions ih =>
      simp only [warnLowerBounds, Run.bind_apply, readDim_plain, plain_call, Run.pure_apply,
        Outcome.returned_bind]
      split
      · rw [pure_bind, Run.bind_of_returned (vapaaWarning_apply _)]
        exact ih _
      · exact ih _

/-- Counting gives the number of elements, stops at a large count, or overflows
on a count too large even to be tested. -/
theorem countElements_cases (mpi : Mpi) {k m : Nat} (covered : k + m = desc.rank) (world : World) :
    (∃ final, countElements unbounded mpi desc (List.range' k m) (desc.leadingElements k) world =
        .returned (.ok (desc.leadingElements desc.rank), final) ∧
      final.types = world.types ∧
      ∀ i, k ≤ i → i < desc.rank →
        (desc.record i).extent ≤ intMax ∧ desc.leadingElements (i + 1) ≤ intMax) ∨
    (∃ rc final, countElements unbounded mpi desc (List.range' k m) (desc.leadingElements k) world =
        .returned (.error rc, final) ∧
      final.types = world.types ∧ rc ≠ mpi.errorClass .success ∧ ¬ desc.Countable) ∨
    (countElements unbounded mpi desc (List.range' k m) (desc.leadingElements k) world =
        .undefined .overflow ∧
      (desc.WellFormed → ¬ desc.Countable)) := by
  induction m generalizing k world with
  | zero =>
      have atEnd : k = desc.rank := by omega
      subst atEnd
      refine Or.inl ⟨world, rfl, rfl, ?_⟩
      intro i above below
      omega
  | succ m ih =>
      have inside : k < desc.rank := by omega
      have next := desc.leadingElements_succ k
      simp only [List.range'_succ, countElements, Run.bind_apply, readDim_plain, plain_call,
        Run.pure_apply, Outcome.returned_bind, ← next]
      by_cases fits : -9223372036854775808 ≤ desc.leadingElements (k + 1) ∧
          desc.leadingElements (k + 1) ≤ 9223372036854775807
      · rw [ssizeResult_of_bounds fits.1 fits.2]
        simp only [Run.pure_apply, Outcome.returned_bind]
        split_ifs with largeExtent largeProduct
        · refine Or.inr (Or.inl ⟨mpi.errorClass .errCount, _, rfl, rfl, by simp, ?_⟩)
          intro countable
          have small := (countable k inside).1
          omega
        · refine Or.inr (Or.inl ⟨mpi.errorClass .errCount, _, rfl, rfl, by simp, ?_⟩)
          intro countable
          have small := (countable k inside).2
          omega
        · obtain ⟨warned, warning, sameTypes⟩ := warnLowerBounds_returned desc
            (List.range desc.rank)
            world
          rw [Run.bind_of_returned warning]
          have rest := @ih (k + 1) (by omega) warned
          rw [sameTypes] at rest
          obtain ⟨final, counted, types, countable⟩ | stopped := rest
          · refine Or.inl ⟨final, counted, types, ?_⟩
            intro i above below
            by_cases here : i = k
            · subst here
              exact ⟨not_lt.mp largeExtent, not_lt.mp largeProduct⟩
            · exact countable i (by omega) below
          · exact Or.inr stopped
      · refine Or.inr (Or.inr ⟨by simp [ssizeResult, if_neg fits], ?_⟩)
        intro wellFormed countable
        have large := (countable k inside).2
        have positive := wellFormed.leadingElements_nonneg inside
        have bounded : desc.leadingElements k ≤ intMax := by
          cases k with
          | zero => simp [intMax]
          | succ k => exact (countable k (by omega)).2
        apply fits
        simp only [intMax] at *
        obtain counts | ⟨-, assumed⟩ := wellFormed k inside
        · have nonneg : 0 ≤ desc.leadingElements (k + 1) := by
            rw [next]
            exact Int.mul_nonneg positive counts
          omega
        · rw [next, assumed] at *
          omega

/-- The elements of the whole array are counted, or there are too many of them. -/
theorem countElements_whole (mpi : Mpi) (desc : CDesc) (world : World) :
    (∃ final, countElements unbounded mpi desc (List.range desc.rank) 1 world =
        .returned (.ok (desc.leadingElements desc.rank), final) ∧
      final.types = world.types ∧ desc.Countable) ∨
    (∃ rc final, countElements unbounded mpi desc (List.range desc.rank) 1 world =
        .returned (.error rc, final) ∧
      final.types = world.types ∧ rc ≠ mpi.errorClass .success ∧ ¬ desc.Countable) ∨
    (countElements unbounded mpi desc (List.range desc.rank) 1 world = .undefined .overflow ∧
      (desc.WellFormed → ¬ desc.Countable)) := by
  rw [List.range_eq_range', ← desc.leadingElements_zero]
  obtain ⟨final, counting, sameTypes, countable⟩ | stopped :=
    countElements_cases mpi (Nat.zero_add desc.rank) world
  · exact Or.inl ⟨final, counting, sameTypes, fun k inside => countable k (Nat.zero_le k) inside⟩
  · exact Or.inr stopped

end Counting

/-- The call succeeds, and creates one datatype with the given layout. -/
def Builds (mpi : Mpi) (call : Call (Int × Int)) (world : World) (layout : Layout) : Prop :=
  ∃ handle final, call world = .returned ((mpi.errorClass .success, handle), final) ∧
    TypeStore.Creates world.types final.types handle
      { combiner := .derived, layout := layout, committed := false }

/-- The call ends the program or is undefined, but not by dividing by zero. -/
def Halts {α : Type} (call : Call α) (world : World) : Prop :=
  call world = .aborted ∨ ∃ fault, fault ≠ .divisionByZero ∧ call world = .undefined fault

section Constructions

variable {mpi : Mpi} {desc : CDesc} {world : World} {count : Nat}
variable {element arrayDatatype : Int} {old : TypeObject}

theorem builds_createType {call : Call (Int × Int)} {layout : Layout} {middle : World}
    (result : call world = createType mpi layout middle)
    (sameTypes : middle.types = world.types) : Builds mpi call world layout := by
  refine ⟨middle.types.next, _, result, ?_⟩
  rw [← sameTypes]
  exact TypeStore.creates_create middle.types _

theorem createElements_builds (live : world.types.object element = some old) :
    Builds mpi (createElements unbounded mpi desc count element arrayDatatype) world
      (old.layout.copies ((List.range count).map fun (n : Nat) => n * (desc.record 0).sm)) := by
  have counted : ¬ (count : Int) < 0 := by omega
  have result : createElements unbounded mpi desc count element arrayDatatype world =
      createType mpi
        (old.layout.copies ((List.range count).map fun (n : Nat) => n * (desc.record 0).sm))
        world := by
    simp [createElements, Run.bind_apply, pmpiTypeCreateHvector, live, createType,
      Layout.hvector_one, counted]
  exact builds_createType result rfl

private theorem createContiguousRows_builds {length rows : Nat} (positive : 0 < length)
    (whole : count = length * rows) (live : world.types.object element = some old) :
    Builds mpi (createContiguousRows unbounded mpi desc count length element arrayDatatype) world
      (old.layout.copies ((List.range count).map fun (n : Nat) =>
        ((n / length : Nat) : Int) * (desc.record 1).sm +
          ((n % length : Nat) : Int) * old.layout.extent)) := by
  have divided : (count : Int).tdiv length = rows := by
    rw [← Int.ofNat_tdiv, whole, Nat.mul_div_cancel_left rows positive]
  have nonzero : (length : Int) ≠ 0 := by omega
  have counted : ¬ (rows : Int) < 0 := by omega
  have blocked : ¬ (length : Int) < 0 := by omega
  have layout : old.layout.hvector rows length (desc.record 1).sm =
      old.layout.copies ((List.range count).map fun (n : Nat) =>
        ((n / length : Nat) : Int) * (desc.record 1).sm +
          ((n % length : Nat) : Int) * old.layout.extent) := by
    rw [whole, Layout.hvector]
    simp only [Layout.block]
    rw [MixedRadix.flatMap_rows length rows fun row column =>
      (row : Int) * (desc.record 1).sm + (column : Int) * old.layout.extent]
  have result : createContiguousRows unbounded mpi desc count length element arrayDatatype world =
      createType mpi (old.layout.hvector rows length (desc.record 1).sm)
        world := by
    simp only [createContiguousRows, Run.bind_apply, readDim_plain, plain_call, Run.pure_apply,
      Outcome.returned_bind, quotient, if_neg nonzero, divided, Run.pure_apply,
      pmpiTypeCreateHvector, counted, blocked, if_false, live, Int.toNat_natCast, createType,
      decide_true, vapaaAssert_true]
  rw [← layout]
  exact builds_createType result rfl

/-- The temporary vector is gone when the rows are built. -/
theorem createRows_builds {length rows : Nat} {stride0 : Int} (positive : 0 < length)
    (whole : count = length * rows) (live : world.types.object element = some old) :
    Builds mpi (createRows unbounded mpi desc count length stride0 element arrayDatatype) world
      (old.layout.copies ((List.range count).map fun (n : Nat) =>
        ((n / length : Nat) : Int) * (desc.record 1).sm +
          ((n % length : Nat) : Int) * stride0)) := by
  have divided : (count : Int).tdiv length = rows := by
    rw [← Int.ofNat_tdiv, whole, Nat.mul_div_cancel_left rows positive]
  have nonzero : (length : Int) ≠ 0 := by omega
  have counted : ¬ (rows : Int) < 0 := by omega
  have blocked : ¬ (length : Int) < 0 := by omega
  have unit : ¬ (1 : Int) < 0 := by omega
  let inner := (List.range length).map fun (column : Nat) => column * stride0
  let outer := (List.range rows).map fun (row : Nat) => row * (desc.record 1).sm
  have present : inner ≠ [] := by
    intro empty
    have none : length = 0 := by simpa [inner] using congrArg List.length empty
    omega
  have nested : (old.layout.hvector length 1 stride0).hvector rows 1 (desc.record 1).sm =
      old.layout.copies ((List.range count).map fun (n : Nat) =>
        ((n / length : Nat) : Int) * (desc.record 1).sm +
          ((n % length : Nat) : Int) * stride0) := by
    rw [Layout.hvector_one, Layout.hvector_one, Layout.copies_copies _ outer present, whole]
    have summed : Layout.sums outer inner =
        (List.range rows).flatMap fun (row : Nat) =>
          (List.range length).map fun (column : Nat) =>
            row * (desc.record 1).sm + column * stride0 := by
      simp [Layout.sums, outer, inner, List.flatMap_map, Function.comp_def]
    rw [summed, MixedRadix.flatMap_rows length rows fun row column =>
      (row : Int) * (desc.record 1).sm + (column : Int) * stride0]
  have kept (temporary created : TypeObject) :
      ((world.types.create temporary).create created).object world.types.next =
        some temporary := by
    have different : world.types.next ≠ (world.types.create temporary).next := by
      rw [TypeStore.create_next]
      omega
    rw [TypeStore.create_object_of_ne _ _ different, TypeStore.create_object_next]
  let temporary : TypeObject :=
    { combiner := .derived, layout := old.layout.hvector length 1 stride0, committed := false }
  let created : TypeObject := {
    combiner := .derived
    layout := (old.layout.hvector length 1 stride0).hvector rows 1 (desc.record 1).sm
    committed := false }
  have result : createRows unbounded mpi desc count length stride0 element arrayDatatype world =
      .returned ((mpi.errorClass .success, world.types.next + 1), {
        types := ((world.types.create temporary).create created).remove world.types.next
        warnings := world.warnings }) := by
    simp only [createRows, Run.bind_apply, readDim_plain, plain_call, Run.pure_apply,
      Outcome.returned_bind, quotient, if_neg nonzero, divided, Run.pure_apply,
      pmpiTypeCreateHvector, counted, blocked, unit, if_false, live, Int.toNat_natCast,
      Int.toNat_one, createType, decide_true, vapaaAssert_true, TypeStore.create_object_next,
      TypeStore.create_next, pmpiTypeFree, kept, temporary, created]
  rw [← nested]
  exact ⟨world.types.next + 1, _, result, TypeStore.creates_remove world.types temporary created⟩

theorem Builds.of_eq {call call' : Call (Int × Int)} {middle : World} {layout : Layout}
    (builds : Builds mpi call' middle layout) (same : call world = call' middle)
    (sameTypes : middle.types = world.types) : Builds mpi call world layout := by
  obtain ⟨handle, final, result, creates⟩ := builds
  rw [sameTypes] at creates
  exact ⟨handle, final, same.trans result, creates⟩

theorem Halts.of_eq {α : Type} {call call' : Call α} {middle : World}
    (halts : Halts call' middle) (same : call world = call' middle) : Halts call world := by
  rw [Halts, same]
  exact halts

theorem Builds.checked {call : Call (Int × Int)} {layout : Layout}
    (builds : Builds mpi call world layout) :
    Builds mpi (do
      let (rc, arrayDatatype) ← call
      vapaaAssert mpi (rc = mpi.errorClass .success)
      return (mpi.errorClass .success, arrayDatatype)) world layout := by
  obtain ⟨handle, final, result, creates⟩ := builds
  refine ⟨handle, final, ?_, creates⟩
  simp only [Run.bind_apply, result, Outcome.returned_bind, decide_true, vapaaAssert_true,
    Run.pure_apply]

theorem Halts.bind {α β : Type} {call : Call α} (halts : Halts call world)
    (next : α → Call β) : Halts (call >>= next) world := by
  obtain aborted | ⟨fault, divides, faulty⟩ := halts
  · exact Or.inl (by rw [Run.bind_apply, aborted, Outcome.aborted_bind])
  · exact Or.inr ⟨fault, divides, by rw [Run.bind_apply, faulty, Outcome.undefined_bind]⟩

private theorem createSingles_cases (arrayDatatype : Int) {values : List Int} {middle : World}
    {loops : (Int → Filling → Flow Filling) → Filling → Flow Filling}
    {elementDatatype : Call Int} (small : (count : Int) ≤ intMax) (positive : 0 < count)
    (enough : count ≤ values.length)
    (through : ∀ body state, loops body state = iterate body values state)
    (elementResult : elementDatatype world = .returned (element, middle))
    (sameTypes : middle.types = world.types)
    (live : world.types.object element = some old) :
    Builds mpi (createSingles unbounded mpi count loops elementDatatype arrayDatatype) world
        (old.layout.copies (values.take count)) ∧ mpi.AllocatesArrays count ∨
      Halts (createSingles unbounded mpi count loops elementDatatype arrayDatatype) world ∧
        ¬ mpi.AllocatesArrays count := by
  by_cases allocates : mpi.AllocatesArrays count
  · rw [← sameTypes] at live
    exact Or.inl ⟨builds_createType
      (createSingles_of_allocates allocates small positive enough through elementResult live)
      sameTypes, allocates⟩
  · refine Or.inr ⟨?_, allocates⟩
    have stopped := @createSingles_of_not_allocates mpi world count values loops elementDatatype
      arrayDatatype allocates small positive enough through
    split_ifs at stopped
    · exact Or.inl stopped
    · exact Or.inr ⟨.outOfBounds, by simp, stopped⟩

private theorem take_map_range {α : Type} (f : Nat → α) {count total : Nat}
    (within : count ≤ total) :
    ((List.range total).map f).take count = (List.range count).map f := by
  rw [← List.map_take, List.take_range, Nat.min_eq_left within]

/-- What a plane builds selects the first elements, provided that the length of
an element is the extent of its type. -/
theorem createPlane_cases (elemLen arrayDatatype : Int) {length width : Nat}
    (ranked : 2 ≤ desc.rank)
    (length_eq : (desc.record 0).extent = length) (width_eq : (desc.record 1).extent = width)
    (small : (count : Int) ≤ intMax) (beyond : length < count) (within : count ≤ length * width)
    (live : world.types.object element = some old) :
    (∃ displacements,
      Builds mpi
        (createPlane unbounded mpi desc count elemLen length width element arrayDatatype) world
        (old.layout.copies displacements) ∧
      displacements.length = count ∧
      (elemLen = old.layout.extent →
        displacements = (List.range count).map desc.displacement) ∧
      (count % length ≠ 0 → mpi.AllocatesArrays count)) ∨
    Halts (createPlane unbounded mpi desc count elemLen length width element arrayDatatype) world ∧
      count % length ≠ 0 ∧ ¬ mpi.AllocatesArrays count := by
  have positive : 0 < length := by
    rcases Nat.eq_zero_or_pos length with rfl | positive
    · simp at within
      omega
    · exact positive
  have nonzero : (length : Int) ≠ 0 := by omega
  have element_eq {n : Nat} (member : n ∈ List.range count) :
      desc.displacement n =
        (desc.record 0).sm * (n % length : Nat) + (desc.record 1).sm * (n / length : Nat) := by
    have below : n < (desc.record 0).extent.toNat * (desc.record 1).extent.toNat := by
      rw [length_eq, width_eq, Int.toNat_natCast, Int.toNat_natCast]
      exact lt_of_lt_of_le (List.mem_range.mp member) within
    rw [CDesc.displacement_of_lt_plane ranked below, length_eq, Int.toNat_natCast]
  have remains : remainder count length = pure ((count % length : Nat) : Int) := by
    rw [remainder, if_neg nonzero, Int.ofNat_tmod]
  by_cases partialRow : count % length = 0
  · have whole : count = length * (count / length) := by
      have divided := Nat.div_add_mod count length
      omega
    by_cases contiguous : (desc.record 0).sm = elemLen
    · have same : createPlane unbounded mpi desc count elemLen length width element arrayDatatype world =
          createContiguousRows unbounded mpi desc count length element arrayDatatype world := by
        simp only [createPlane, Run.bind_apply, remains, Run.pure_apply,
          Outcome.returned_bind, Nat.cast_eq_zero, partialRow, if_true,
          readDim_plain, plain_call, contiguous]
      refine Or.inl ⟨_, (createContiguousRows_builds positive whole live).of_eq same rfl,
        by simp, ?_, fun remainder => absurd partialRow remainder⟩
      intro extent_eq
      apply List.map_congr_left
      intro n member
      rw [element_eq member, contiguous, extent_eq]
      ring
    · have same : createPlane unbounded mpi desc count elemLen length width element arrayDatatype world =
          createRows unbounded mpi desc count length (desc.record 0).sm element arrayDatatype world := by
        simp only [createPlane, Run.bind_apply, remains, Run.pure_apply,
          Outcome.returned_bind, Nat.cast_eq_zero, partialRow, if_true,
          readDim_plain, plain_call, Run.pure_apply, contiguous, if_false]
      refine Or.inl ⟨_, (createRows_builds positive whole live).of_eq same rfl, by simp,
        ?_, fun remainder => absurd partialRow remainder⟩
      intro _
      apply List.map_congr_left
      intro n member
      rw [element_eq member]
      ring
  · have same : createPlane unbounded mpi desc count elemLen length width element arrayDatatype world =
        createSingles unbounded mpi count
          (loops2d unbounded desc length width) (pure element)
          arrayDatatype world := by
      simp only [createPlane, Run.bind_apply, remains, Run.pure_apply,
        Outcome.returned_bind, Nat.cast_eq_zero, partialRow, if_false,
        readDim_plain, plain_call]
    let plane (n : Nat) : Int :=
      (desc.record 0).sm * (n % length : Nat) + (desc.record 1).sm * (n / length : Nat)
    have through (body : Int → Filling → Flow Filling) (state : Filling) :
        loops2d unbounded desc length width body state =
          iterate body ((List.range (length * width)).map plane) state := by
      rw [loops2d_eq_iterate, Int.toNat_natCast, Int.toNat_natCast]
      congr 1
      apply List.map_congr_left
      intro n member
      have below : n / length < width := Nat.div_lt_of_lt_mul (List.mem_range.mp member)
      simp [MixedRadix.digits, plane, Nat.mod_eq_of_lt below]
    obtain ⟨built, allocates⟩ | ⟨halts, missing⟩ := createSingles_cases arrayDatatype small
      (by omega) (by simpa using within) through (Run.pure_apply element world) rfl live
    · rw [take_map_range plane within] at built
      refine Or.inl ⟨_, built.of_eq same rfl, by simp, ?_, fun _ => allocates⟩
      intro _
      apply List.map_congr_left
      intro n member
      exact (element_eq member).symm
    · exact Or.inr ⟨halts.of_eq same, partialRow, missing⟩

private theorem createSpace_cases (arrayDatatype : Int) (space : desc.rank = 3) (sized : desc.Sized)
    (countable : desc.Countable) (small : (count : Int) ≤ intMax) (positive : 0 < count)
    (within : count ≤ desc.elements) (live : world.types.object element = some old) :
    Builds mpi (createSpace unbounded mpi desc count (toInt (desc.record 0).extent)
        (toInt (desc.record 1).extent) element arrayDatatype) world
        (old.layout.copies ((List.range count).map desc.displacement)) ∧
      mpi.AllocatesArrays count ∨
    Halts (createSpace unbounded mpi desc count (toInt (desc.record 0).extent)
        (toInt (desc.record 1).extent) element arrayDatatype) world ∧
      ¬ mpi.AllocatesArrays count := by
  have fit (k : Nat) (inside : k < desc.rank) :
      toInt (desc.record k).extent = (desc.record k).extent := by
    rw [record_of_lt inside]
    exact countable.intExtents sized.wellFormed ⟨k, inside⟩
  have same : createSpace unbounded mpi desc count (toInt (desc.record 0).extent)
        (toInt (desc.record 1).extent) element arrayDatatype world =
      createSingles unbounded mpi count
        (loops3d unbounded desc (desc.record 0).extent (desc.record 1).extent
          (desc.record 2).extent)
        (pure element) arrayDatatype world := by
    simp only [createSpace, Run.bind_apply, readDim_plain, Run.pure_apply, Outcome.returned_bind,
      fit 0 (by omega), fit 1 (by omega), fit 2 (by omega)]
  have through (body : Int → Filling → Flow Filling) (state : Filling) :
      loops3d unbounded desc (desc.record 0).extent (desc.record 1).extent (desc.record 2).extent
          body state =
        iterate body ((List.range desc.elements).map desc.displacement) state := by
    rw [loops3d_eq_iterate, ← CDesc.elements_of_rank_three space]
    congr 1
    apply List.map_congr_left
    intro n member
    exact (CDesc.displacement_of_rank_three space (List.mem_range.mp member)).symm
  obtain ⟨built, allocates⟩ | ⟨halts, missing⟩ := createSingles_cases arrayDatatype small
    positive (by simpa using within) through (Run.pure_apply element world) rfl live
  · rw [take_map_range desc.displacement within] at built
    exact Or.inl ⟨built.of_eq same rfl, allocates⟩
  · exact Or.inr ⟨halts.of_eq same, missing⟩

theorem vapaaMpiDatatypeIsBuiltin_of_live {input : Int} {object : TypeObject}
    (live : world.types.object input = some object) :
    vapaaMpiDatatypeIsBuiltin mpi input world =
      .returned (decide (object.combiner = .named), world) := by
  simp only [vapaaMpiDatatypeIsBuiltin, Run.bind_apply, pmpiTypeGetEnvelope, live,
    Outcome.returned_bind, decide_true, vapaaAssert_true, Run.pure_apply, Run.readSet_some]

theorem vapaaCfiToMpiType_of_mapped {type : Int} (mapped : mappedType mpi type = some element)
    (world : World) : vapaaCfiToMpiType mpi type world = .returned (element, world) := by
  simp [vapaaCfiToMpiType, mapped]

theorem vapaaCfiCreateDatatype15d_cases {inputDatatype : Int} {input : TypeObject}
    (arrayDatatype : Int) (inputLive : world.types.object inputDatatype = some input)
    (named : input.combiner = .named) (mapped : mappedType mpi desc.type = some element)
    (fit : desc.IntExtents) (small : (count : Int) ≤ intMax) (positive : 0 < count)
    (within : count ≤ desc.elements) (live : world.types.object element = some old) :
    Builds mpi (vapaaCfiCreateDatatype15d mpi desc count inputDatatype arrayDatatype) world
        (old.layout.copies ((List.range count).map desc.displacement)) ∧
      mpi.AllocatesArrays count ∨
    Halts (vapaaCfiCreateDatatype15d mpi desc count inputDatatype arrayDatatype) world ∧
      ¬ mpi.AllocatesArrays count := by
  have same : vapaaCfiCreateDatatype15d mpi desc count inputDatatype arrayDatatype world =
      createSingles unbounded mpi count (loops15d unbounded desc (extents15d unbounded desc))
        (vapaaCfiToMpiType mpi desc.type)
        arrayDatatype world := by
    rw [vapaaCfiCreateDatatype15d, Builder.vapaaCfiCreateDatatype15d, plain_call,
      Run.bind_of_returned (vapaaMpiDatatypeIsBuiltin_of_live inputLive)]
    simp [named]
  obtain ⟨built, allocates⟩ | ⟨halts, missing⟩ := createSingles_cases arrayDatatype small
    positive (by simpa using within) (loops15d_eq_iterate fit)
    (vapaaCfiToMpiType_of_mapped mapped world) rfl live
  · rw [take_map_range desc.displacement within] at built
    exact Or.inl ⟨built.of_eq same rfl, allocates⟩
  · exact Or.inr ⟨halts.of_eq same, missing⟩

end Constructions

/-- The prefix lies in the first column, which every element shares in a vector. -/
def CDesc.InColumn (desc : CDesc) (count : Nat) : Prop :=
  desc.rank = 1 ∨ (count : Int) ≤ (desc.record 0).extent

def CDesc.InPlane (desc : CDesc) (count : Nat) : Prop :=
  desc.rank = 2 ∨ (count : Int) ≤ (desc.record 0).extent * (desc.record 1).extent

/-- The prefix is no vector of whole rows, so its elements are listed one by one. -/
def CDesc.Enumerates (desc : CDesc) (count : Nat) : Prop :=
  ¬ desc.InColumn count ∧
    (desc.InPlane count → count % (desc.record 0).extent.toNat ≠ 0)

instance (desc : CDesc) (count : Nat) : Decidable (desc.InColumn count) :=
  inferInstanceAs (Decidable (_ ∨ _))

instance (desc : CDesc) (count : Nat) : Decidable (desc.InPlane count) :=
  inferInstanceAs (Decidable (_ ∨ _))

instance (desc : CDesc) (count : Nat) : Decidable (desc.Enumerates count) :=
  inferInstanceAs (Decidable (_ ∧ (_ → _)))

section Prefix

variable {mpi : Mpi} {desc : CDesc} {world : World} {count : Nat} {elemLen : Int}
variable {element inputDatatype : Int} {old input : TypeObject}

theorem fitsPlane_eq (count : Nat) (ranked : 2 ≤ desc.rank) (sized : desc.Sized)
    (countable : desc.Countable)
    (world : World) :
    fitsPlane desc count (desc.record 0).extent (desc.record 1).extent world =
      .returned (decide (desc.InPlane count), world) := by
  by_cases matrix : desc.rank = 2
  · simp [fitsPlane, CDesc.InPlane, matrix]
  · have product : desc.leadingElements 2 = (desc.record 0).extent * (desc.record 1).extent := by
      rw [desc.leadingElements_succ, desc.leadingElements_succ, desc.leadingElements_zero, one_mul]
    have small := (countable 1 (by omega)).2
    have nonneg := sized.wellFormed.leadingElements_nonneg (k := 2) (by omega)
    rw [product] at small nonneg
    have result := intResult_of_bounds (by omega) small
    simp [fitsPlane, CDesc.InPlane, matrix, result, Run.bind_apply]

theorem createPrefix_of_column (mpi : Mpi) (world : World)
    (elemLen element inputDatatype arrayDatatype : Int)
    (fit0 : toInt (desc.record 0).extent = (desc.record 0).extent)
    (column : desc.InColumn count) :
    createPrefix unbounded mpi desc count elemLen element inputDatatype arrayDatatype world =
      createElements unbounded mpi desc count element arrayDatatype world := by
  rw [CDesc.InColumn] at column
  simp only [createPrefix, Run.bind_apply, readDim_plain, plain_call, Run.pure_apply,
    Outcome.returned_bind, fit0, if_pos column]

/-- Past the first column, the construction depends on whether a plane holds the prefix. -/
theorem createPrefix_of_not_column (mpi : Mpi) (world : World)
    (elemLen element inputDatatype arrayDatatype : Int) (ranked : 2 ≤ desc.rank)
    (sized : desc.Sized) (countable : desc.Countable)
    (column : ¬ desc.InColumn count) :
    createPrefix unbounded mpi desc count elemLen element inputDatatype arrayDatatype world =
      (if desc.InPlane count then
        createPlane unbounded mpi desc count elemLen (desc.record 0).extent (desc.record 1).extent
          element arrayDatatype
      else if desc.rank = 3 then
        createSpace unbounded mpi desc count (desc.record 0).extent (desc.record 1).extent element
          arrayDatatype
      else if desc.rank < 15 then do
        let (rc, arrayDatatype) ←
          vapaaCfiCreateDatatype15d mpi desc count inputDatatype arrayDatatype
        vapaaAssert mpi (rc = mpi.errorClass .success)
        return (mpi.errorClass .success, arrayDatatype)
      else do
        vapaaWarning s!"Unsupported dimension ({desc.rank}).\n"
        return (mpi.errorClass .errArg, arrayDatatype)) world := by
  have fit (k : Nat) (inside : k < desc.rank) :
      toInt (desc.record k).extent = (desc.record k).extent := by
    rw [record_of_lt inside]
    exact countable.intExtents sized.wellFormed ⟨k, inside⟩
  have planar := fitsPlane_eq count ranked sized countable world
  rw [CDesc.InColumn] at column
  simp only [createPrefix, Run.bind_apply, readDim_plain, plain_call, Run.pure_apply,
    Outcome.returned_bind, fit 0 (by omega), fit 1 (by omega), if_neg column, planar,
    decide_eq_true_eq]
  rfl

theorem createPrefix_cases (elemLen arrayDatatype : Int) (ranked : 1 ≤ desc.rank)
    (wellFormed : desc.WellFormed) (countable : desc.Countable)
    (within : (count : Int) ≤ desc.leadingElements desc.rank)
    (inputLive : world.types.object inputDatatype = some input) (named : input.combiner = .named)
    (mapped : mappedType mpi desc.type = some element)
    (live : world.types.object element = some old) :
    (∃ displacements,
      Builds mpi
        (createPrefix unbounded mpi desc count elemLen element inputDatatype arrayDatatype) world
        (old.layout.copies displacements) ∧
      displacements.length = count ∧
      (elemLen = old.layout.extent →
        displacements = (List.range count).map desc.displacement) ∧
      (desc.rank = 15 → desc.InColumn count ∨ desc.InPlane count) ∧
      (desc.Enumerates count → mpi.AllocatesArrays count)) ∨
    Halts (createPrefix unbounded mpi desc count elemLen element inputDatatype arrayDatatype) world ∧
      desc.Enumerates count ∧ ¬ mpi.AllocatesArrays count ∨
    desc.rank = 15 ∧ ¬ desc.InColumn count ∧ ¬ desc.InPlane count ∧
      ∃ final,
        createPrefix unbounded mpi desc count elemLen element inputDatatype arrayDatatype world =
          .returned ((mpi.errorClass .errArg, arrayDatatype), final) ∧
        final.types = world.types := by
  have small : (count : Int) ≤ intMax := by
    have last := (countable (desc.rank - 1) (by omega)).2
    rw [Nat.sub_add_cancel ranked] at last
    exact le_trans within last
  have fit (k : Nat) (inside : k < desc.rank) :
      toInt (desc.record k).extent = (desc.record k).extent := by
    rw [record_of_lt inside]
    exact countable.intExtents wellFormed ⟨k, inside⟩
  by_cases column : desc.InColumn count
  · have same := createPrefix_of_column mpi world elemLen element inputDatatype arrayDatatype
      (fit 0 ranked) column
    refine Or.inl ⟨_, (createElements_builds live).of_eq same rfl, by simp, ?_,
      fun _ => Or.inl column, fun listed => absurd column listed.1⟩
    intro _
    apply List.map_congr_left
    intro n member
    have below : n < count := List.mem_range.mp member
    rw [mul_comm]
    obtain vector | short := column
    · exact (CDesc.displacement_of_rank_one vector n).symm
    · exact (CDesc.displacement_of_lt_head ranked (by omega)).symm
  · obtain ⟨several, beyond⟩ := not_or.mp column
    have first : 0 ≤ (desc.record 0).extent := by
      obtain counts | ⟨last, -⟩ := wellFormed 0 (by omega)
      · exact counts
      · omega
    have sized : desc.Sized := wellFormed.sized (by omega)
    have inside : count ≤ desc.elements := by
      rw [sized.leadingElements_rank] at within
      exact_mod_cast within
    have same := createPrefix_of_not_column mpi world elemLen element inputDatatype
      arrayDatatype (by omega) sized countable column
    by_cases plane : desc.InPlane count
    · rw [if_pos plane] at same
      have fits : (count : Int) ≤ (desc.record 0).extent * (desc.record 1).extent := by
        obtain matrix | fits := plane
        · rw [matrix, desc.leadingElements_succ, desc.leadingElements_succ,
            desc.leadingElements_zero, one_mul] at within
          exact within
        · exact fits
      obtain ⟨length, length_eq⟩ := Int.eq_ofNat_of_zero_le first
      obtain ⟨width, width_eq⟩ := Int.eq_ofNat_of_zero_le (sized 1 (by omega))
      rw [length_eq, width_eq] at same fits
      have length_toNat : (desc.record 0).extent.toNat = length := by
        rw [length_eq, Int.toNat_natCast]
      obtain ⟨displacements, built, counted, exactly, allocates⟩ | ⟨halts, rest, missing⟩ :=
        createPlane_cases elemLen arrayDatatype (by omega) length_eq width_eq small (by omega)
          (by exact_mod_cast fits) live
      · refine Or.inl ⟨displacements, built.of_eq same rfl, counted, exactly,
          fun _ => Or.inr plane, ?_⟩
        intro listed
        exact allocates (length_toNat ▸ listed.2 plane)
      · exact Or.inr (Or.inl ⟨halts.of_eq same, ⟨column, fun _ => length_toNat.symm ▸ rest⟩,
          missing⟩)
    have listed : desc.Enumerates count := ⟨column, fun inPlane => absurd inPlane plane⟩
    rw [if_neg plane] at same
    by_cases space : desc.rank = 3
    · rw [if_pos space] at same
      obtain ⟨built, allocates⟩ | ⟨halts, missing⟩ := createSpace_cases arrayDatatype space
        sized countable small (by omega) inside live
      all_goals rw [fit 0 ranked, fit 1 (by omega)] at *
      · exact Or.inl ⟨_, built.of_eq same rfl, by simp, fun _ => rfl, by omega,
          fun _ => allocates⟩
      · exact Or.inr (Or.inl ⟨halts.of_eq same, listed, missing⟩)
    rw [if_neg space] at same
    by_cases supported : desc.rank < 15
    · rw [if_pos supported] at same
      obtain ⟨built, allocates⟩ | ⟨halts, missing⟩ := vapaaCfiCreateDatatype15d_cases
        arrayDatatype inputLive named mapped (countable.intExtents wellFormed) small
        (by omega) inside live
      · exact Or.inl ⟨_, built.checked.of_eq same rfl, by simp, fun _ => rfl, by omega,
          fun _ => allocates⟩
      · exact Or.inr (Or.inl ⟨(halts.bind _).of_eq same, listed, missing⟩)
    · rw [if_neg supported, Run.bind_of_returned (vapaaWarning_apply _)] at same
      have bounded := desc.rank_bounded
      exact Or.inr (Or.inr ⟨by omega, column, plane, _, same, rfl⟩)

end Prefix

/-- The requests for which the builder creates a datatype, when an element of the
array is described by a datatype of the given size. -/
structure CDesc.Acceptable (mpi : Mpi) (desc : CDesc) (count size : Nat) : Prop where
  countable : desc.Countable
  within : (count : Int) ≤ desc.leadingElements desc.rank
  supported : desc.rank = 15 → desc.InColumn count ∨ desc.InPlane count
  arrays : desc.Enumerates count → mpi.AllocatesArrays count
  exact_size : ((count * size : Nat) : Int) = count * toInt desc.elemLen
  small : ((count * size : Nat) : Int) ≤ intMax

def Refuses (mpi : Mpi) (call : Call (Int × Int)) (world : World) : Prop :=
  ∃ rc handle final, call world = .returned ((rc, handle), final) ∧
    rc ≠ mpi.errorClass .success

section Builder

variable {mpi : Mpi} {desc : CDesc} {world : World} {count : Nat}
variable {element inputDatatype : Int} {old input : TypeObject}

theorem verifySize_of_live {handle elemLen : Int} {created : TypeObject}
    (live : world.types.object handle = some created)
    (counted : created.layout.size = count * old.layout.size)
    (exactly : ((count * old.layout.size : Nat) : Int) = count * elemLen)
    (small : ((count * old.layout.size : Nat) : Int) ≤ intMax) :
    verifySize mpi count elemLen handle world =
      .returned ((mpi.errorClass .success, handle), world) := by
  have result : intResult (count * elemLen) = pure ((count * old.layout.size : Nat) : Int) := by
    rw [← exactly]
    exact intResult_of_bounds (by omega) small
  simp only [verifySize, Run.bind_apply, pmpiTypeSize, live, Outcome.returned_bind,
    Run.readSet_some, result, Run.pure_apply, counted, ne_eq, not_true_eq_false, if_false]

theorem verifySize_of_mismatch (mpi : Mpi) {handle elemLen : Int} {created : TypeObject}
    (live : world.types.object handle = some created)
    (counted : created.layout.size = count * old.layout.size)
    (wrong : ¬ (((count * old.layout.size : Nat) : Int) = count * elemLen ∧
      ((count * old.layout.size : Nat) : Int) ≤ intMax)) :
    Refuses mpi (verifySize mpi count elemLen handle) world ∨
      Halts (verifySize mpi count elemLen handle) world := by
  by_cases fits : -2147483648 ≤ count * elemLen ∧ count * elemLen ≤ intMax
  · have result := intResult_of_bounds fits.1 fits.2
    have different : (created.layout.size : Int) ≠ count * elemLen := by
      intro equal
      rw [counted] at equal
      exact wrong ⟨equal, equal ▸ fits.2⟩
    have warned : verifySize mpi count elemLen handle world =
        (do
          vapaaWarning
            s!"type_size ({(created.layout.size : Int)}) != count ({(count : Int)}) * elem_len ({elemLen}).\n"
          return (mpi.errorClass .errIntern, handle) : Call (Int × Int)) world := by
      simp only [verifySize, Run.bind_apply, pmpiTypeSize, live, Outcome.returned_bind,
        Run.readSet_some, result, Run.pure_apply, if_pos different]
    rw [Run.bind_of_returned (vapaaWarning_apply _)] at warned
    exact Or.inl ⟨mpi.errorClass .errIntern, handle, _, warned, by simp⟩
  · refine Or.inr (Or.inr ⟨.overflow, by simp, ?_⟩)
    simp only [verifySize, Run.bind_apply, pmpiTypeSize, live, Outcome.returned_bind,
      Run.readSet_some, intResult, if_neg fits, Run.undefined_apply, Outcome.undefined_bind]

theorem vapaaCfiCreateDatatype_of_named (arrayDatatype : Int)
    (inputLive : world.types.object inputDatatype = some input)
    (named : input.combiner = .named) :
    vapaaCfiCreateDatatype mpi desc count inputDatatype arrayDatatype world =
      createFromNamed unbounded mpi desc count inputDatatype arrayDatatype world := by
  rw [vapaaCfiCreateDatatype, Builder.vapaaCfiCreateDatatype, plain_call,
    Run.bind_of_returned (vapaaMpiDatatypeIsBuiltin_of_live inputLive)]
  simp [named]

private theorem createCounted_cases (count : Nat) (arrayDatatype : Int) (ranked : 1 ≤ desc.rank)
    (wellFormed : desc.WellFormed) (countable : desc.Countable)
    (inputLive : world.types.object inputDatatype = some input) (named : input.combiner = .named)
    (mapped : mappedType mpi desc.type = some element)
    (live : world.types.object element = some old) :
    desc.Acceptable mpi count old.layout.size ∧
      (∃ displacements,
        Builds mpi (createCounted unbounded mpi desc count (desc.leadingElements desc.rank) element
          inputDatatype arrayDatatype) world (old.layout.copies displacements) ∧
        displacements.length = count ∧
        (toInt desc.elemLen = old.layout.extent →
          displacements = (List.range count).map desc.displacement)) ∨
    ¬ desc.Acceptable mpi count old.layout.size ∧
      (Refuses mpi (createCounted unbounded mpi desc count (desc.leadingElements desc.rank) element
          inputDatatype arrayDatatype) world ∨
        Halts (createCounted unbounded mpi desc count (desc.leadingElements desc.rank) element
          inputDatatype arrayDatatype) world) := by
  by_cases overrun : desc.leadingElements desc.rank < count
  · refine Or.inr ⟨fun acceptable => absurd acceptable.within (by omega), Or.inl ?_⟩
    rw [Refuses, createCounted, if_pos overrun, plain_call,
      Run.bind_of_returned (vapaaWarning_apply _)]
    exact ⟨_, _, _, rfl, by simp⟩
  have within := not_lt.mp overrun
  have start : createCounted unbounded mpi desc count (desc.leadingElements desc.rank) element
        inputDatatype arrayDatatype world =
      (createPrefix unbounded mpi desc count (toInt desc.elemLen) element inputDatatype
          arrayDatatype >>=
        fun result =>
          if result.1 ≠ mpi.errorClass .success then return (result.1, result.2)
          else verifySize mpi count (toInt desc.elemLen) result.2) world := by
    rw [createCounted, if_neg overrun]
    rfl
  obtain ⟨displacements, ⟨handle, final, result, creates⟩, counted, exactly, supported, arrays⟩ |
    ⟨halts, listed, missing⟩ | ⟨rank_eq, column, plane, final, result, sameTypes⟩ :=
      createPrefix_cases (toInt desc.elemLen) arrayDatatype ranked wellFormed
        countable within inputLive named mapped live
  · rw [Run.bind_of_returned result] at start
    simp only [ne_eq, not_true_eq_false, if_false] at start
    have sizes : (old.layout.copies displacements).size = count * old.layout.size := by
      rw [Layout.size_copies, counted]
    by_cases exactSize : ((count * old.layout.size : Nat) : Int) = count * toInt desc.elemLen ∧
        ((count * old.layout.size : Nat) : Int) ≤ intMax
    · rw [verifySize_of_live creates.live sizes exactSize.1 exactSize.2] at start
      exact Or.inl ⟨⟨countable, within, supported, arrays, exactSize.1, exactSize.2⟩,
        displacements, ⟨handle, final, start, creates⟩, counted, exactly⟩
    · refine Or.inr ⟨fun acceptable => exactSize ⟨acceptable.exact_size, acceptable.small⟩, ?_⟩
      obtain ⟨rc, value, last, refused, failed⟩ | halts :=
        verifySize_of_mismatch mpi creates.live sizes exactSize
      · exact Or.inl ⟨rc, value, last, start.trans refused, failed⟩
      · exact Or.inr (halts.of_eq start)
  · refine Or.inr ⟨fun acceptable => missing (acceptable.arrays listed), Or.inr ?_⟩
    exact (halts.bind _).of_eq start
  · refine Or.inr ⟨?_, Or.inl ⟨mpi.errorClass .errArg, arrayDatatype, final, ?_, by simp⟩⟩
    · intro acceptable
      obtain inColumn | inPlane := acceptable.supported rank_eq
      · exact column inColumn
      · exact plane inPlane
    · rw [start, Run.bind_of_returned result]
      simp

/-- For a named datatype the builder creates a datatype exactly for acceptable
requests, and otherwise returns an error code or does not return. -/
theorem vapaaCfiCreateDatatype_cases (count : Nat) (arrayDatatype : Int) (ranked : 1 ≤ desc.rank)
    (wellFormed : desc.WellFormed)
    (inputLive : world.types.object inputDatatype = some input) (named : input.combiner = .named)
    (mapped : mappedType mpi desc.type = some element)
    (live : world.types.object element = some old) :
    desc.Acceptable mpi count old.layout.size ∧
      (∃ displacements,
        Builds mpi (vapaaCfiCreateDatatype mpi desc count inputDatatype arrayDatatype) world
          (old.layout.copies displacements) ∧
        displacements.length = count ∧
        (toInt desc.elemLen = old.layout.extent →
          displacements = (List.range count).map desc.displacement)) ∨
    ¬ desc.Acceptable mpi count old.layout.size ∧
      (Refuses mpi (vapaaCfiCreateDatatype mpi desc count inputDatatype arrayDatatype) world ∨
        Halts (vapaaCfiCreateDatatype mpi desc count inputDatatype arrayDatatype) world) := by
  have start : vapaaCfiCreateDatatype mpi desc count inputDatatype arrayDatatype world =
      createFromNamed unbounded mpi desc count inputDatatype arrayDatatype world :=
    vapaaCfiCreateDatatype_of_named arrayDatatype inputLive named
  simp only [createFromNamed, countedElements, plain_call, bind_assoc, pure_bind] at start
  rw [Run.bind_of_returned (vapaaCfiToMpiType_of_mapped mapped world)] at start
  obtain ⟨counted, counting, sameTypes, countable⟩ | ⟨rc, final, counting, -, failed, large⟩ |
    ⟨counting, large⟩ := countElements_whole mpi desc world
  · rw [Run.bind_of_returned counting] at start
    rw [← sameTypes] at inputLive live
    obtain ⟨acceptable, displacements, built, rest⟩ | ⟨rejected, refused | halts⟩ :=
      createCounted_cases count arrayDatatype ranked wellFormed countable inputLive
        named mapped live
    · exact Or.inl ⟨acceptable, displacements, built.of_eq start sameTypes, rest⟩
    · obtain ⟨rc, handle, final, result, failed⟩ := refused
      exact Or.inr ⟨rejected, Or.inl ⟨rc, handle, final, start.trans result, failed⟩⟩
    · exact Or.inr ⟨rejected, Or.inr (halts.of_eq start)⟩
  · rw [Run.bind_of_returned counting] at start
    exact Or.inr ⟨fun acceptable => large acceptable.countable,
      Or.inl ⟨rc, arrayDatatype, final, start, failed⟩⟩
  · rw [Run.bind_apply, counting, Outcome.undefined_bind] at start
    exact Or.inr ⟨fun acceptable => large wellFormed acceptable.countable,
      Or.inr (Or.inr ⟨.overflow, by simp, start⟩)⟩

end Builder

end Vapaa
