import Vapaa.FailedBuilds
import Vapaa.SelectionLoops

/-!
# Builds without undefined steps

When the branch of the builder for named datatypes stays within what its language defines.
-/

set_option autoImplicit false

namespace Vapaa

open Foundation Builder

section Steps

variable {mpi : Mpi} {desc : CDesc} {world : World} {count : Nat}
variable {element arrayDatatype : Int}

/-- An active assertion lets only what it asserts through. -/
theorem safe_vapaaAssert (active : mpi.seatbelts = true) {condition : Bool}
    {post : Unit → World → Prop} :
    Run.Safe (vapaaAssert mpi condition) world post ↔ (condition = true → post () world) := by
  cases condition with
  | true => exact ⟨fun safe _ => safe, fun holds => holds rfl⟩
  | false =>
      have stops : vapaaAssert mpi false world = .aborted := by simp [vapaaAssert, active]
      exact ⟨fun _ never => (by cases never), fun _ => Run.safe_of_aborted stops⟩

private theorem safe_checked (active : mpi.seatbelts = true) {run : Call (Int × Int)}
    (safe : Run.Safe run world fun _ _ => True) :
    Run.Safe (do
        let (rc, handle) ← run
        vapaaAssert mpi (rc = mpi.errorClass .success)
        return (mpi.errorClass .success, handle) : Call (Int × Int)) world fun _ _ => True := by
  rw [Run.safe_bind]
  refine safe.mono ?_
  rintro ⟨rc, handle⟩ middle -
  rw [Run.safe_bind, safe_vapaaAssert active]
  exact fun _ => trivial

private theorem safe_pmpiTypeCreateHvector (count blocklength stride oldtype newtype : Int) :
    Run.Safe (pmpiTypeCreateHvector mpi count blocklength stride oldtype newtype) world
      fun _ _ => True := by
  rw [Run.Safe, pmpiTypeCreateHvector]
  split_ifs
  · trivial
  · trivial
  · cases world.types.object oldtype with
    | none => trivial
    | some old => trivial

theorem pmpiTypeCreateHindexed_of_dead {oldtype newtype : Int} (displacements : List Int)
    (spareLengths spareStarts : Cells Int) (dead : world.types.object oldtype = none) :
    pmpiTypeCreateHindexed mpi displacements.length
        ((List.replicate displacements.length 1).map some ++ spareLengths)
        (displacements.map some ++ spareStarts) oldtype newtype world =
      .returned ((mpi.errorClass .errType, newtype), world) := by
  have lengths :=
    Cells.loadFirst_set_append (List.replicate displacements.length (1 : Int)) spareLengths
  rw [List.length_replicate] at lengths
  have starts := Cells.loadFirst_set_append displacements spareStarts
  have counted : ¬ (displacements.length : Int) < 0 := by omega
  simp only [pmpiTypeCreateHindexed, counted, if_false, Int.toNat_natCast, Run.bind_apply, lengths,
    starts, Run.ofOutcome_returned, Outcome.returned_bind]
  simp [dead]

private theorem safe_pmpiTypeCreateHindexed {oldtype newtype : Int} (displacements : List Int)
    (spareLengths spareStarts : Cells Int) :
    Run.Safe (pmpiTypeCreateHindexed mpi displacements.length
        ((List.replicate displacements.length 1).map some ++ spareLengths)
        (displacements.map some ++ spareStarts) oldtype newtype) world fun _ _ => True := by
  cases live : world.types.object oldtype with
  | none =>
      exact (Run.safe_of_returned (pmpiTypeCreateHindexed_of_dead displacements _ _ live)).mpr
        trivial
  | some old =>
      have created := @pmpiTypeCreateHindexed_of_set mpi world oldtype newtype old displacements
        spareLengths spareStarts live
      exact (Run.safe_of_returned created).mpr trivial

end Steps

section Constructions

variable {mpi : Mpi} {desc : CDesc} {world : World} {count : Nat}
variable {element arrayDatatype : Int}

private theorem safe_createElements (active : mpi.seatbelts = true) :
    Run.Safe (createElements unbounded mpi desc count element arrayDatatype) world fun _ _ => True := by
  simp only [createElements, readDim_plain, pure_bind, plain_call]
  exact safe_checked active (safe_pmpiTypeCreateHvector _ _ _ _ _)

private theorem safe_createContiguousRows (active : mpi.seatbelts = true) {extent0 : Int}
    (divides : extent0 ≠ 0) :
    Run.Safe (createContiguousRows unbounded mpi desc count extent0 element arrayDatatype) world
      fun _ _ => True := by
  rw [createContiguousRows, readDim_plain, pure_bind, plain_call, quotient,
    if_neg divides, Run.safe_bind_of_returned (Run.pure_apply _ _)]
  exact safe_checked active (safe_pmpiTypeCreateHvector _ _ _ _ _)

private theorem safe_pmpiTypeFree (handle : Int) :
    Run.Safe (pmpiTypeFree mpi handle) world fun _ _ => True := by
  rw [Run.Safe, pmpiTypeFree]
  split
  · trivial
  · trivial
  · next faulty =>
      split at faulty
      · cases faulty
      · cases faulty

private theorem safe_createRows (active : mpi.seatbelts = true) {extent0 stride0 : Int}
    (divides : extent0 ≠ 0) :
    Run.Safe (createRows unbounded mpi desc count extent0 stride0 element arrayDatatype) world
      fun _ _ => True := by
  simp only [createRows, readDim_plain, plain_call, pure_bind]
  rw [Run.safe_bind]
  refine (safe_pmpiTypeCreateHvector _ _ _ _ _).mono ?_
  rintro ⟨rc, temporary⟩ first -
  rw [Run.safe_bind, safe_vapaaAssert active]
  intro _
  rw [quotient, if_neg divides,
    Run.safe_bind_of_returned (Run.pure_apply _ _), Run.safe_bind]
  refine (safe_pmpiTypeCreateHvector _ _ _ _ _).mono ?_
  rintro ⟨rc, handle⟩ second -
  rw [Run.safe_bind, safe_vapaaAssert active]
  intro _
  rw [Run.safe_bind]
  refine (safe_pmpiTypeFree temporary).mono ?_
  rintro ⟨rc, freed⟩ third -
  rw [Run.safe_bind, safe_vapaaAssert active]
  exact fun _ => trivial

/-- An enumeration of enough displacements is safe: without memory the program ends. -/
theorem safe_createSingles (active : mpi.seatbelts = true) {values : List Int}
    {loops : (Int → Filling → Flow Filling) → Filling → Flow Filling}
    {elementDatatype : Call Int} {middle : World} (small : (count : Int) ≤ intMax)
    (positive : 0 < count) (enough : count ≤ values.length)
    (through : ∀ body state, loops body state = iterate body values state)
    (elementResult : elementDatatype world = .returned (element, middle)) :
    Run.Safe (createSingles unbounded mpi count loops elementDatatype arrayDatatype) world
      fun _ _ => True := by
  by_cases allocates : mpi.AllocatesArrays count
  · have filled := @createSingles_of_filled mpi world middle count values loops elementDatatype
      element arrayDatatype allocates small positive enough through elementResult
    have taken : (values.take count).length = count := by simpa using enough
    have indexed := @safe_pmpiTypeCreateHindexed mpi middle element arrayDatatype
      (values.take count) [] []
    rw [taken, List.append_nil, List.append_nil] at indexed
    rw [Run.safe_of_eq filled]
    exact safe_checked active indexed
  · exact Run.safe_of_aborted (createSingles_of_missing active allocates small)

private theorem safe_createPlane (active : mpi.seatbelts = true) {elemLen extent0 extent1 : Int}
    (small : (count : Int) ≤ intMax) (counts : 0 ≤ extent0) (beyond : extent0 < count)
    (within : (count : Int) ≤ extent0 * extent1) :
    Run.Safe (createPlane unbounded mpi desc count elemLen extent0 extent1 element arrayDatatype) world
      fun _ _ => True := by
  have divides : extent0 ≠ 0 := by
    rintro rfl
    omega
  rw [createPlane, plain_call, remainder, if_neg divides,
    Run.safe_bind_of_returned (Run.pure_apply _ _)]
  split_ifs
  · rw [readDim_plain, pure_bind]
    dsimp only
    split_ifs
    · exact safe_createContiguousRows active divides
    · exact safe_createRows active divides
  · refine safe_createSingles active small (by omega) ?_ (loops2d_eq_iterate _ _ _)
      (Run.pure_apply element _)
    obtain ⟨length, rfl⟩ := Int.eq_ofNat_of_zero_le counts
    have columns : 0 ≤ extent1 := by
      by_contra negative
      have product : (length : Int) * extent1 ≤ 0 :=
        Int.mul_nonpos_of_nonneg_of_nonpos counts (by omega)
      omega
    obtain ⟨width, rfl⟩ := Int.eq_ofNat_of_zero_le columns
    rw [List.length_map, List.length_range, Int.toNat_natCast, Int.toNat_natCast]
    exact_mod_cast within

private theorem safe_createSpace (active : mpi.seatbelts = true) (space : desc.rank = 3)
    (fit : desc.IntExtents) (small : (count : Int) ≤ intMax) (positive : 0 < count)
    (within : count ≤ desc.elements) :
    Run.Safe (createSpace unbounded mpi desc count (desc.record 0).extent (desc.record 1).extent element
      arrayDatatype) world fun _ _ => True := by
  have exactly : toInt (desc.record 2).extent = (desc.record 2).extent := by
    rw [record_of_lt (by omega : 2 < desc.rank)]
    exact fit ⟨2, by omega⟩
  rw [createSpace, readDim_plain, pure_bind, exactly]
  refine safe_createSingles active small positive ?_ (loops3d_eq_iterate _ _ _ _)
    (Run.pure_apply element _)
  rw [List.length_map, List.length_range, ← CDesc.elements_of_rank_three space]
  exact within

theorem safe_vapaaCfiToMpiType (type : Int) :
    ∃ element middle, vapaaCfiToMpiType mpi type world = .returned (element, middle) := by
  cases mapped : mappedType mpi type with
  | none =>
      rw [vapaaCfiToMpiType, mapped]
      exact ⟨_, _, rfl⟩
  | some element => exact ⟨element, world, vapaaCfiToMpiType_of_mapped mapped world⟩

private theorem safe_vapaaCfiCreateDatatype15d (active : mpi.seatbelts = true) {inputDatatype : Int}
    {input : TypeObject} (inputLive : world.types.object inputDatatype = some input)
    (fit : desc.IntExtents) (small : (count : Int) ≤ intMax) (positive : 0 < count)
    (within : count ≤ desc.elements) :
    Run.Safe (vapaaCfiCreateDatatype15d mpi desc count inputDatatype arrayDatatype) world
      fun _ _ => True := by
  rw [vapaaCfiCreateDatatype15d, Builder.vapaaCfiCreateDatatype15d, plain_call,
    Run.safe_bind_of_returned (vapaaMpiDatatypeIsBuiltin_of_live inputLive)]
  split_ifs
  · obtain ⟨element, middle, translated⟩ := @safe_vapaaCfiToMpiType mpi world desc.type
    refine safe_createSingles active small positive ?_ (loops15d_eq_iterate fit) translated
    rw [List.length_map, List.length_range]
    exact within
  · rw [plain_call, Run.safe_bind_of_returned (vapaaWarning_apply _)]
    trivial

private theorem safe_createPrefix (active : mpi.seatbelts = true) {elemLen inputDatatype : Int}
    {input : TypeObject} (inputLive : world.types.object inputDatatype = some input)
    (ranked : 1 ≤ desc.rank) (sized : desc.Sized) (countable : desc.Countable)
    (within : (count : Int) ≤ desc.leadingElements desc.rank) :
    Run.Safe (createPrefix unbounded mpi desc count elemLen element inputDatatype arrayDatatype) world
      fun _ _ => True := by
  have fit := countable.intExtents sized.wellFormed
  have small : (count : Int) ≤ intMax := by
    have last := (countable (desc.rank - 1) (by omega)).2
    rw [Nat.sub_add_cancel ranked] at last
    exact le_trans within last
  have fit0 : toInt (desc.record 0).extent = (desc.record 0).extent := by
    rw [record_of_lt ranked]
    exact fit ⟨0, ranked⟩
  by_cases column : desc.InColumn count
  · rw [Run.safe_of_eq (createPrefix_of_column mpi world elemLen element inputDatatype
      arrayDatatype fit0 column)]
    exact safe_createElements active
  · obtain ⟨several, beyond⟩ := not_or.mp column
    have inside : count ≤ desc.elements := by
      rw [sized.leadingElements_rank] at within
      exact_mod_cast within
    have counts := sized 0 ranked
    rw [Run.safe_of_eq (createPrefix_of_not_column mpi world elemLen element inputDatatype
      arrayDatatype (by omega) sized countable column)]
    split_ifs with plane space supported
    · refine safe_createPlane active small counts (by omega) ?_
      obtain matrix | fits := plane
      · rw [matrix, desc.leadingElements_succ, desc.leadingElements_succ,
          desc.leadingElements_zero, one_mul] at within
        exact within
      · exact fits
    · exact safe_createSpace active space fit small (by omega) inside
    · exact safe_checked active
        (safe_vapaaCfiCreateDatatype15d active inputLive fit small (by omega) inside)
    · rw [Run.safe_bind_of_returned (vapaaWarning_apply _)]
      trivial

end Constructions

section Scalars

variable {mpi : Mpi} {desc : CDesc} {world : World} {count : Nat}
variable {element inputDatatype arrayDatatype elemLen : Int} {input : TypeObject}

/-- The records behind the descriptor of a scalar keep the construction within bounds: their
product fits, and an enumeration has the one element that it needs, or no memory. -/
def CDesc.ScalarDefined (mpi : Mpi) (desc : CDesc) (count : Nat) : Prop :=
  (count : Int) ≤ toInt (desc.record 0).extent ∨
    -2147483648 ≤ toInt (desc.record 0).extent * toInt (desc.record 1).extent ∧
      toInt (desc.record 0).extent * toInt (desc.record 1).extent ≤ intMax ∧
      (¬ mpi.AllocatesArrays count ∨
        if (count : Int) ≤ toInt (desc.record 0).extent * toInt (desc.record 1).extent then
          (count : Int).tmod (toInt (desc.record 0).extent) = 0
        else count = 1)

/-- Loops without rounds leave the displacements unset. -/
theorem createSingles_of_idle {loops : (Int → Filling → Flow Filling) → Filling → Flow Filling}
    {elementDatatype : Call Int} {middle : World} (allocates : mpi.AllocatesArrays count)
    (small : (count : Int) ≤ intMax) (positive : 0 < count)
    (idle : ∀ body state, loops body state = .next state)
    (elementResult : elementDatatype world = .returned (element, middle)) :
    createSingles unbounded mpi count loops elementDatatype arrayDatatype world =
      .undefined .unsetValue := by
  obtain ⟨rest, rfl⟩ : ∃ rest, count = rest + 1 := ⟨count - 1, by omega⟩
  have lengths := Cells.loadFirst_set (List.replicate (rest + 1) (1 : Int))
  rw [List.length_replicate] at lengths
  have unset : Cells.loadFirst (rest + 1) (Cells.fresh (rest + 1) : Cells Int) =
      .undefined .unsetValue := rfl
  have counted : ¬ ((rest + 1 : Nat) : Int) < 0 := by omega
  rw [createSingles_of_arrays allocates small]
  simp only [idle, Flow.land_next, Run.bind_apply, Run.ofOutcome_returned, Outcome.returned_bind,
    elementResult, pmpiTypeCreateHindexed, counted, if_false, Int.toNat_natCast, lengths, unset,
    Run.ofOutcome_undefined, Outcome.undefined_bind]

/-- The one element of a scalar has no place in an array for none. -/
theorem vapaaCfiCreateDatatype15d_of_none (scalar : desc.rank = 0)
    (inputLive : world.types.object inputDatatype = some input) (named : input.combiner = .named)
    (allocates : mpi.AllocatesArrays (0 : Nat)) :
    vapaaCfiCreateDatatype15d mpi desc (0 : Nat) inputDatatype arrayDatatype world =
      .undefined .outOfBounds := by
  have fit : desc.IntExtents := fun i => absurd i.isLt (by omega)
  have single : desc.elements = 1 := by
    simp [CDesc.elements, CDesc.shape, CDesc.extents, scalar]
  have outside : loops15d unbounded desc (extents15d unbounded desc) (Filling.place (0 : Nat))
      { cells := (Cells.fresh 0 : Cells Int), offset := 0 } = .undefined .outOfBounds := by
    rw [loops15d_eq_iterate fit]
    exact Filling.iterate_place_nil (by simp [single])
  rw [vapaaCfiCreateDatatype15d, Builder.vapaaCfiCreateDatatype15d, plain_call,
    Run.bind_of_returned (vapaaMpiDatatypeIsBuiltin_of_live inputLive)]
  simp only [named, decide_true, if_true, plain_rounds, pure_bind, plain_call]
  rw [createSingles_of_arrays allocates (by decide), outside, Flow.land_undefined]
  rfl

/-- A scalar is built safely exactly when the records behind its descriptor keep the
construction within bounds. -/
theorem safe_createPrefix_scalar (active : mpi.seatbelts = true) (scalar : desc.rank = 0)
    (few : count ≤ 1) (inputLive : world.types.object inputDatatype = some input)
    (named : input.combiner = .named) :
    Run.Safe (createPrefix unbounded mpi desc count elemLen element inputDatatype arrayDatatype) world
        (fun _ _ => True) ↔ desc.ScalarDefined mpi count := by
  have small : (count : Int) ≤ intMax := by
    simp only [intMax]
    omega
  rw [Run.safe_of_eq (createPrefix_of_scalar mpi world count elemLen element inputDatatype
    arrayDatatype scalar), CDesc.ScalarDefined]
  generalize toInt (desc.record 0).extent = extent0
  generalize toInt (desc.record 1).extent = extent1
  by_cases column : (count : Int) ≤ extent0
  · rw [if_pos column]
    exact ⟨fun _ => Or.inl column, fun _ => safe_createElements active⟩
  rw [if_neg column]
  by_cases fits : -2147483648 ≤ extent0 * extent1 ∧ extent0 * extent1 ≤ intMax
  swap
  · rw [intResult, if_neg fits, Run.safe_bind]
    refine ⟨False.elim, ?_⟩
    rintro (inColumn | ⟨low, high, -⟩)
    · exact absurd inColumn column
    · exact absurd ⟨low, high⟩ fits
  rw [intResult_of_bounds fits.1 fits.2, Run.safe_bind_of_returned (Run.pure_apply _ _)]
  have inPlane : ((count : Int) ≤ extent0 ∨ -2147483648 ≤ extent0 * extent1 ∧
      extent0 * extent1 ≤ intMax ∧ (¬ mpi.AllocatesArrays count ∨
        if (count : Int) ≤ extent0 * extent1 then (count : Int).tmod extent0 = 0
        else count = 1)) ↔
      (¬ mpi.AllocatesArrays count ∨
        if (count : Int) ≤ extent0 * extent1 then (count : Int).tmod extent0 = 0
        else count = 1) := by
    simp only [column, fits.1, fits.2, true_and, false_or]
  rw [inPlane]
  by_cases planar : (count : Int) ≤ extent0 * extent1
  · rw [if_pos planar, if_pos planar]
    have negative : extent0 < 0 := by
      by_contra counts
      have first : extent0 = 0 := by omega
      rw [first] at planar
      omega
    have divides : extent0 ≠ 0 := by omega
    rw [createPlane, plain_call, remainder, if_neg divides,
      Run.safe_bind_of_returned (Run.pure_apply _ _)]
    by_cases whole : (count : Int).tmod extent0 = 0
    · rw [if_pos whole, readDim_plain, pure_bind]
      refine ⟨fun _ => Or.inr whole, fun _ => ?_⟩
      dsimp only
      split_ifs
      · exact safe_createContiguousRows active divides
      · exact safe_createRows active divides
    · rw [if_neg whole]
      have positive : 0 < count := by
        apply Nat.pos_of_ne_zero
        rintro rfl
        exact whole (Int.zero_tmod extent0)
      by_cases allocates : mpi.AllocatesArrays count
      · refine ⟨fun safe => absurd safe ?_, ?_⟩
        · exact Run.not_safe_of_undefined (createSingles_of_idle allocates small positive
            (loops2d_of_negative negative) (Run.pure_apply element _))
        · rintro (missing | divided)
          · exact absurd allocates missing
          · exact absurd divided whole
      · refine ⟨fun _ => Or.inl allocates, fun _ => ?_⟩
        exact Run.safe_of_aborted (createSingles_of_missing active allocates small)
  · rw [if_neg planar, if_neg planar]
    obtain rfl | rfl : count = 0 ∨ count = 1 := by omega
    · by_cases allocates : mpi.AllocatesArrays (0 : Nat)
      · refine ⟨fun safe => absurd safe ?_, ?_⟩
        · rw [Run.safe_bind]
          exact Run.not_safe_of_undefined
            (vapaaCfiCreateDatatype15d_of_none scalar inputLive named allocates)
        · rintro (missing | single)
          · exact absurd allocates missing
          · cases single
      · refine ⟨fun _ => Or.inl allocates, fun _ => ?_⟩
        refine safe_checked active ?_
        rw [vapaaCfiCreateDatatype15d, Builder.vapaaCfiCreateDatatype15d, plain_call,
          Run.safe_bind_of_returned (vapaaMpiDatatypeIsBuiltin_of_live inputLive)]
        simp only [named, decide_true, if_true, plain_rounds, pure_bind, plain_call]
        exact Run.safe_of_aborted (createSingles_of_missing active allocates small)
    · refine ⟨fun _ => Or.inr rfl, fun _ => ?_⟩
      have fit : desc.IntExtents := fun i => absurd i.isLt (by omega)
      have single : desc.elements = 1 := by
        simp [CDesc.elements, CDesc.shape, CDesc.extents, scalar]
      exact safe_checked active
        (safe_vapaaCfiCreateDatatype15d active inputLive fit small Nat.one_pos single.ge)

end Scalars

section Counting

variable {mpi : Mpi} {desc : CDesc}

/-- Before a product of leading extents exceeds what `ssize_t` can hold, an earlier one, or an
earlier extent, has exceeded `INT_MAX`. -/
def CDesc.CountsFit (desc : CDesc) : Prop :=
  ∀ k, k < desc.rank →
    (∀ i, i < k → (desc.record i).extent ≤ intMax ∧ desc.leadingElements (i + 1) ≤ intMax) →
      desc.leadingElements (k + 1) ≤ 9223372036854775807

private theorem countElements_overflow_iff (mpi : Mpi) (sized : desc.Sized) {k m : Nat}
    (covered : k + m = desc.rank)
    (passed : ∀ i, i < k →
      (desc.record i).extent ≤ intMax ∧ desc.leadingElements (i + 1) ≤ intMax) (world : World) :
    countElements unbounded mpi desc (List.range' k m) (desc.leadingElements k) world =
        .undefined .overflow ↔
      ∃ j, k ≤ j ∧ j < desc.rank ∧
        (∀ i, i < j →
          (desc.record i).extent ≤ intMax ∧ desc.leadingElements (i + 1) ≤ intMax) ∧
        9223372036854775807 < desc.leadingElements (j + 1) := by
  induction m generalizing k world with
  | zero =>
      constructor
      · intro overflows
        cases overflows
      · rintro ⟨j, above, below, -⟩
        omega
  | succ m ih =>
      have inside : k < desc.rank := by omega
      have next := desc.leadingElements_succ k
      have nonneg := sized.leadingElements_nonneg (k := k + 1) inside
      simp only [List.range'_succ, countElements, Run.bind_apply, readDim_plain, plain_call,
        Run.pure_apply, Outcome.returned_bind, ← next]
      by_cases fits : desc.leadingElements (k + 1) ≤ 9223372036854775807
      · rw [ssizeResult_of_bounds (by omega) fits]
        simp only [Run.pure_apply, Outcome.returned_bind]
        -- a product that was counted leaves only later ones to overflow
        have later {j : Nat} (above : k ≤ j)
            (large : 9223372036854775807 < desc.leadingElements (j + 1)) : k + 1 ≤ j := by
          rcases Nat.eq_or_lt_of_le above with rfl | above
          · omega
          · exact above
        split_ifs with largeExtent largeProduct
        · constructor
          · intro overflows
            cases overflows
          · rintro ⟨j, above, below, small, large⟩
            exact absurd (small k (later above large)).1 (not_le.mpr largeExtent)
        · constructor
          · intro overflows
            cases overflows
          · rintro ⟨j, above, below, small, large⟩
            exact absurd (small k (later above large)).2 (not_le.mpr largeProduct)
        · obtain ⟨warned, warning, -⟩ := warnLowerBounds_returned desc (List.range desc.rank)
            world
          rw [Run.bind_of_returned warning, ih (by omega) ?_ warned]
          · constructor
            · rintro ⟨j, above, rest⟩
              exact ⟨j, by omega, rest⟩
            · rintro ⟨j, above, below, small, large⟩
              exact ⟨j, later above large, below, small, large⟩
          · intro i below
            rcases Nat.lt_succ_iff_lt_or_eq.mp below with earlier | rfl
            · exact passed i earlier
            · exact ⟨not_lt.mp largeExtent, not_lt.mp largeProduct⟩
      · have outside : ¬ (-9223372036854775808 ≤ desc.leadingElements (k + 1) ∧
            desc.leadingElements (k + 1) ≤ 9223372036854775807) := fun bounds => fits bounds.2
        constructor
        · exact fun _ => ⟨k, le_refl k, inside, passed, not_le.mp fits⟩
        · intro _
          simp only [ssizeResult, if_neg outside, Run.undefined_apply, Outcome.undefined_bind]

private theorem countElements_eq_overflow (mpi : Mpi) (sized : desc.Sized) (world : World) :
    countElements unbounded mpi desc (List.range desc.rank) 1 world = .undefined .overflow ↔
      ¬ desc.CountsFit := by
  rw [List.range_eq_range', ← desc.leadingElements_zero,
    countElements_overflow_iff mpi sized (Nat.zero_add desc.rank) (fun i below => by omega) world,
    CDesc.CountsFit]
  push Not
  constructor
  · rintro ⟨j, -, below, small, large⟩
    exact ⟨j, below, small, large⟩
  · rintro ⟨j, below, small, large⟩
    exact ⟨j, Nat.zero_le j, below, small, large⟩

theorem countElements_fits (mpi : Mpi) (sized : desc.Sized) (world : World) :
    (∃ final, countElements unbounded mpi desc (List.range desc.rank) 1 world =
        .returned (.ok (desc.leadingElements desc.rank), final) ∧
      final.types = world.types ∧ desc.Countable ∧ desc.CountsFit) ∨
    (∃ rc final, countElements unbounded mpi desc (List.range desc.rank) 1 world =
        .returned (.error rc, final) ∧
      rc ≠ mpi.errorClass .success ∧ ¬ desc.Countable ∧ desc.CountsFit) ∨
    (countElements unbounded mpi desc (List.range desc.rank) 1 world = .undefined .overflow ∧
      ¬ desc.CountsFit) := by
  have overflow := countElements_eq_overflow mpi sized world
  have counts {result : Except Int Int × World}
      (returned : countElements unbounded mpi desc (List.range desc.rank) 1 world = .returned result) :
      desc.CountsFit := by
    by_contra unfit
    rw [overflow.mpr unfit] at returned
    cases returned
  obtain ⟨final, counting, sameTypes, countable⟩ | ⟨rc, final, counting, -, failed, large⟩ |
    ⟨counting, -⟩ := countElements_whole mpi desc world
  · exact Or.inl ⟨final, counting, sameTypes, countable, counts counting⟩
  · exact Or.inr (Or.inl ⟨rc, final, counting, failed, large, counts counting⟩)
  · exact Or.inr (Or.inr ⟨counting, overflow.mp counting⟩)

end Counting

section Named

variable {mpi : Mpi} {desc : CDesc} {world : World} {count : Nat}
variable {element inputDatatype arrayDatatype : Int} {input : TypeObject}

/-- The request gets past its construction, so that the sizes are compared. -/
structure CDesc.Completed (mpi : Mpi) (desc : CDesc) (count : Nat) : Prop where
  attempted : desc.Attempted mpi count
  arrays : 1 ≤ desc.rank → desc.Enumerates count → mpi.AllocatesArrays count

/-- What the branch for named datatypes needs of a request to stay within its language. -/
structure CDesc.NamedSafe (mpi : Mpi) (desc : CDesc) (count : Nat) : Prop where
  counts : desc.CountsFit
  scalar : desc.rank = 0 → count ≤ 1 → desc.ScalarDefined mpi count
  bytes : desc.Completed mpi count →
    -2147483648 ≤ count * toInt desc.elemLen ∧ count * toInt desc.elemLen ≤ intMax

private theorem safe_verifySize {handle elemLen : Int} {created : TypeObject}
    (live : world.types.object handle = some created) :
    Run.Safe (verifySize mpi count elemLen handle) world (fun _ _ => True) ↔
      -2147483648 ≤ count * elemLen ∧ count * elemLen ≤ intMax := by
  have size : pmpiTypeSize mpi handle world =
      .returned ((mpi.errorClass .success, some created.layout.size), world) := by
    simp only [pmpiTypeSize, live]
  rw [verifySize, Run.safe_bind_of_returned size,
    Run.safe_bind_of_returned (Run.readSet_some _ _)]
  by_cases fits : -2147483648 ≤ count * elemLen ∧ count * elemLen ≤ intMax
  · rw [intResult_of_bounds fits.1 fits.2, Run.safe_bind_of_returned (Run.pure_apply _ _)]
    refine ⟨fun _ => fits, fun _ => ?_⟩
    split_ifs
    · rw [Run.safe_bind_of_returned (vapaaWarning_apply _)]
      trivial
    · trivial
  · rw [intResult, if_neg fits, Run.safe_bind]
    exact ⟨False.elim, fun bounds => absurd bounds fits⟩

private theorem safe_verified_of_unbuilt (active : mpi.seatbelts = true) {run : Call (Int × Int)}
    {elemLen : Int} (unbuilt : Run.Ensures run world (Unbuilt mpi world.types arrayDatatype)) :
    Run.Safe (run >>= fun result =>
        if result.1 ≠ mpi.errorClass .success then return (result.1, result.2)
        else verifySize mpi count elemLen result.2) world (fun _ _ => True) ↔
      Run.Safe run world fun _ _ => True := by
  rw [Run.safe_bind]
  constructor
  · exact fun safe => safe.mono fun _ _ _ => trivial
  · intro safe
    refine (safe.and_ensures unbuilt).mono ?_
    rintro ⟨rc, handle⟩ middle ⟨-, -, -, off⟩
    have failed : rc ≠ mpi.errorClass .success := by
      intro succeeded
      rw [off succeeded] at active
      cases active
    simp only [ne_eq, failed, not_false_eq_true, if_true]
    trivial

/-- A construction that built a datatype of a live element type is compared with the bytes of
the request. -/
theorem safe_verified_of_builds {run : Call (Int × Int)} {elemLen : Int} {layout : Layout}
    (builds : Builds mpi run world layout) :
    Run.Safe (run >>= fun result =>
        if result.1 ≠ mpi.errorClass .success then return (result.1, result.2)
        else verifySize mpi count elemLen result.2) world (fun _ _ => True) ↔
      -2147483648 ≤ count * elemLen ∧ count * elemLen ≤ intMax := by
  obtain ⟨handle, final, returned, creates⟩ := builds
  rw [Run.safe_bind_of_returned returned]
  simp only [ne_eq, not_true_eq_false, if_false]
  exact safe_verifySize creates.live

theorem CDesc.Completed.scalar {count : Nat} (scalar : desc.rank = 0) :
    desc.Completed mpi count ↔
      (∃ element, mappedType mpi desc.type = some element) ∧ count ≤ 1 ∧
        desc.ScalarPassed mpi count := by
  constructor
  · rintro ⟨⟨mapped, -, passed, -⟩, -⟩
    obtain ⟨few, passed⟩ := passed scalar
    exact ⟨mapped, by omega, passed⟩
  · rintro ⟨mapped, few, passed⟩
    exact ⟨⟨mapped, Int.natCast_nonneg count, fun _ => ⟨by omega, passed⟩,
      fun ranked => absurd scalar (by omega)⟩, fun ranked => absurd scalar (by omega)⟩

private theorem safe_counted_scalar (active : mpi.seatbelts = true) (basic : world.types.Basic mpi)
    (scalar : desc.rank = 0) (few : count ≤ 1)
    (inputLive : world.types.object inputDatatype = some input) (named : input.combiner = .named)
    (translated : mappedType mpi desc.type = some element ∨
      mappedType mpi desc.type = none ∧ element = mpi.datatype .datatypeNull) :
    Run.Safe (createPrefix unbounded mpi desc count (toInt desc.elemLen) element inputDatatype
          arrayDatatype >>=
        fun result =>
          if result.1 ≠ mpi.errorClass .success then return (result.1, result.2)
          else verifySize mpi count (toInt desc.elemLen) result.2) world (fun _ _ => True) ↔
      desc.ScalarDefined mpi count ∧ (desc.Completed mpi count →
        -2147483648 ≤ count * toInt desc.elemLen ∧ count * toInt desc.elemLen ≤ intMax) := by
  rw [CDesc.Completed.scalar scalar, ← @safe_createPrefix_scalar mpi desc world count element
    inputDatatype arrayDatatype (toInt desc.elemLen) input active scalar few inputLive named]
  obtain mapped | ⟨unmapped, rfl⟩ := translated
  · obtain ⟨old, live, -⟩ := basic.elements _ element mapped
    obtain ⟨passed, builds⟩ | ⟨stopped, unbuilt⟩ :=
      @createPrefix_scalar_cases mpi desc world count element inputDatatype old input
        (toInt desc.elemLen) arrayDatatype scalar few inputLive named mapped live basic.null
    · rw [safe_verified_of_builds builds]
      obtain ⟨handle, final, returned, -⟩ := builds
      rw [Run.safe_of_returned returned]
      exact ⟨fun bytes => ⟨trivial, fun _ => bytes⟩,
        fun whole => whole.2 ⟨⟨element, mapped⟩, few, passed⟩⟩
    · rw [safe_verified_of_unbuilt active unbuilt]
      exact ⟨fun safe => ⟨safe, fun completed => absurd completed.2.2 stopped⟩, And.left⟩
  · rw [safe_verified_of_unbuilt active
      (createPrefix_unbuilt inputLive named unmapped basic.null)]
    refine ⟨fun safe => ⟨safe, ?_⟩, And.left⟩
    rintro ⟨⟨element, mapped⟩, -⟩
    rw [unmapped] at mapped
    cases mapped

private theorem safe_counted_array (active : mpi.seatbelts = true) (basic : world.types.Basic mpi)
    (ranked : 1 ≤ desc.rank) (sized : desc.Sized) (countable : desc.Countable)
    (within : (count : Int) ≤ desc.leadingElements desc.rank)
    (inputLive : world.types.object inputDatatype = some input) (named : input.combiner = .named)
    (translated : mappedType mpi desc.type = some element ∨
      mappedType mpi desc.type = none ∧ element = mpi.datatype .datatypeNull) :
    Run.Safe (createPrefix unbounded mpi desc count (toInt desc.elemLen) element inputDatatype
          arrayDatatype >>=
        fun result =>
          if result.1 ≠ mpi.errorClass .success then return (result.1, result.2)
          else verifySize mpi count (toInt desc.elemLen) result.2) world (fun _ _ => True) ↔
      (desc.Completed mpi count →
        -2147483648 ≤ count * toInt desc.elemLen ∧ count * toInt desc.elemLen ≤ intMax) := by
  have safe := @safe_createPrefix mpi desc world count element arrayDatatype active
    (toInt desc.elemLen) inputDatatype input inputLive ranked sized countable within
  obtain mapped | ⟨unmapped, rfl⟩ := translated
  · obtain ⟨old, live, -⟩ := basic.elements _ element mapped
    obtain ⟨displacements, builds, -, -, supported, arrays⟩ | ⟨halts, listed, missing⟩ |
      ⟨highest, column, plane, final, returned, -⟩ :=
        createPrefix_cases (toInt desc.elemLen) arrayDatatype ranked sized.wellFormed countable
          within inputLive named mapped live
    · rw [safe_verified_of_builds builds]
      refine ⟨fun bytes _ => bytes, fun bytes => bytes ⟨⟨⟨element, mapped⟩, Int.natCast_nonneg count,
        fun scalar => absurd scalar (by omega), fun _ => ⟨countable, within, supported⟩⟩,
        fun _ => arrays⟩⟩
    · have aborted := safe.aborted fun result returned =>
        @Halts.ensures world _ _ (fun _ _ => False) halts result.1 result.2 returned
      rw [Run.safe_bind]
      exact ⟨fun _ completed => absurd (completed.arrays ranked listed) missing,
        fun _ => Run.safe_of_aborted aborted⟩
    · rw [Run.safe_bind_of_returned returned]
      refine ⟨fun _ completed => ?_, fun _ => by simp [Run.safe_pure]⟩
      obtain inColumn | inPlane := (completed.attempted.array ranked).2.2 highest
      · exact absurd inColumn column
      · exact absurd inPlane plane
  · rw [safe_verified_of_unbuilt active
      (createPrefix_unbuilt inputLive named unmapped basic.null)]
    refine ⟨fun _ completed => ?_, fun _ => safe⟩
    obtain ⟨element, mapped⟩ := completed.attempted.mapped
    rw [unmapped] at mapped
    cases mapped

theorem vapaaCfiToMpiType_cases (mpi : Mpi) (type : Int) (world : World) :
    ∃ element first, vapaaCfiToMpiType mpi type world = .returned (element, first) ∧
      first.types = world.types ∧ (mappedType mpi type = some element ∨
        mappedType mpi type = none ∧ element = mpi.datatype .datatypeNull) := by
  cases mapped : mappedType mpi type with
  | some element =>
      exact ⟨element, world, vapaaCfiToMpiType_of_mapped mapped world, rfl, Or.inl rfl⟩
  | none =>
      obtain ⟨element, first, translation⟩ := @safe_vapaaCfiToMpiType mpi world type
      obtain ⟨null, same⟩ := vapaaCfiToMpiType_of_unmapped mapped _ _ translation
      exact ⟨element, first, translation, same, Or.inr ⟨rfl, null⟩⟩

/-- The branch for named datatypes stays within its language exactly for these requests. -/
theorem safe_createFromNamed (active : mpi.seatbelts = true) (basic : world.types.Basic mpi)
    (sized : desc.Sized) (inputLive : world.types.object inputDatatype = some input)
    (named : input.combiner = .named) :
    Run.Safe (createFromNamed unbounded mpi desc count inputDatatype arrayDatatype) world
        (fun _ _ => True) ↔ desc.NamedSafe mpi count := by
  obtain ⟨element, first, translation, same, translated⟩ :=
    vapaaCfiToMpiType_cases mpi desc.type world
  simp only [createFromNamed, countedElements, plain_call, bind_assoc, pure_bind]
  rw [Run.safe_bind_of_returned translation]
  rw [← same] at basic inputLive
  obtain ⟨second, counting, same, countable, counts⟩ | ⟨rc, second, counting, -, large, counts⟩ |
    ⟨counting, unfit⟩ := countElements_fits mpi sized first
  · rw [Run.safe_bind_of_returned counting]
    rw [← same] at basic inputLive
    simp only [createCounted, plain_call]
    split_ifs with overrun
    · rw [Run.safe_bind_of_returned (vapaaWarning_apply _)]
      refine ⟨fun _ => ⟨counts, fun scalar few => ?_, fun completed => ?_⟩, fun _ => trivial⟩
      · rw [scalar, desc.leadingElements_zero] at overrun
        omega
      · by_cases scalar : desc.rank = 0
        · have few := (completed.attempted.scalar scalar).1
          rw [scalar, desc.leadingElements_zero] at overrun
          omega
        · have within := (completed.attempted.array (Nat.one_le_iff_ne_zero.mpr scalar)).2.1
          omega
    · by_cases scalar : desc.rank = 0
      · have few : count ≤ 1 := by
          rw [scalar, desc.leadingElements_zero] at overrun
          omega
        refine (safe_counted_scalar active basic scalar few inputLive named translated).trans ?_
        exact ⟨fun safe => ⟨counts, fun _ _ => safe.1, safe.2⟩,
          fun safe => ⟨safe.scalar scalar few, safe.bytes⟩⟩
      · refine (safe_counted_array active basic (Nat.one_le_iff_ne_zero.mpr scalar) sized
          countable (not_lt.mp overrun) inputLive named translated).trans ?_
        exact ⟨fun bytes => ⟨counts, fun flat => absurd flat scalar, bytes⟩,
          fun safe => safe.bytes⟩
  · have ranked : desc.rank ≠ 0 := fun scalar => large (CDesc.Countable.of_scalar scalar)
    rw [Run.safe_bind_of_returned counting]
    refine ⟨fun _ => ⟨counts, fun scalar => absurd scalar ranked, fun completed => ?_⟩,
      fun _ => trivial⟩
    exact absurd (completed.attempted.array (Nat.one_le_iff_ne_zero.mpr ranked)).1 large
  · rw [Run.safe_bind]
    exact ⟨fun safe => absurd safe (Run.not_safe_of_undefined counting),
      fun safe => absurd safe.counts unfit⟩

end Named

end Vapaa
