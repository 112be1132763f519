import Vapaa.BuilderProperties

/-! The builder without an element datatype, and on descriptors without dimensions. -/

set_option autoImplicit false

namespace Vapaa

open Foundation Builder

/-- The call leaves every datatype and the caller's handle as they were, and reports
success only where assertions are off. -/
def Unbuilt (mpi : Mpi) (types : TypeStore) (handle : Int) (result : Int × Int)
    (final : World) : Prop :=
  final.types = types ∧ result.2 = handle ∧
    (result.1 = mpi.errorClass .success → mpi.seatbelts = false)

section Unbuilt

variable {mpi : Mpi} {desc : CDesc} {world : World} {count : Int}
variable {element arrayDatatype : Int}

theorem vapaaAssert_ensures (mpi : Mpi) (condition : Bool) (world : World) :
    Run.Ensures (vapaaAssert mpi condition) world fun _ final =>
      final = world ∧ (condition = true ∨ mpi.seatbelts = false) := by
  intro value final returned
  cases condition with
  | true =>
      cases returned
      exact ⟨rfl, Or.inl rfl⟩
  | false =>
      cases active : mpi.seatbelts with
      | true => simp [vapaaAssert, active] at returned
      | false =>
          simp only [vapaaAssert, active, Bool.false_eq_true, if_false] at returned
          cases returned
          exact ⟨rfl, Or.inr rfl⟩

theorem quotient_same (left right : Int) :
    Run.Ensures (quotient left right) world fun _ final => final = world := by
  rw [quotient]
  split_ifs with zero
  · exact Run.ensures_of_undefined rfl
  · exact Run.ensures_pure rfl

theorem pmpiTypeCreateHvector_refused {blocklength stride : Int}
    (rejected : count < 0 ∨ blocklength < 0 ∨ world.types.object element = none) :
    Run.Ensures (pmpiTypeCreateHvector mpi count blocklength stride element arrayDatatype) world
      fun result final => final = world ∧ result.2 = arrayDatatype ∧
        result.1 ≠ mpi.errorClass .success := by
  intro result final returned
  rw [pmpiTypeCreateHvector] at returned
  split_ifs at returned with negativeCount negativeLength
  · cases returned
    exact ⟨rfl, rfl, by simp⟩
  · cases returned
    exact ⟨rfl, rfl, by simp⟩
  · obtain negative | negative | dead := rejected
    · exact absurd negative negativeCount
    · exact absurd negative negativeLength
    · rw [dead] at returned
      cases returned
      exact ⟨rfl, rfl, by simp⟩

private theorem ensures_ofOutcome_returned {α : Type} (outcome : Outcome α) :
    Run.Ensures (Run.ofOutcome outcome) world fun value final =>
      final = world ∧ outcome = .returned value :=
  Run.ensures_ofOutcome fun _ returned => ⟨rfl, returned⟩

theorem ensures_ofOutcome_same {α : Type} (outcome : Outcome α) :
    Run.Ensures (Run.ofOutcome outcome) world fun _ final => final = world :=
  (ensures_ofOutcome_returned outcome).mono fun _ _ ends => ends.1

theorem pmpiTypeCreateHindexed_refused {blocklengths displacements : Cells Int}
    (dead : world.types.object element = none) :
    Run.Ensures (pmpiTypeCreateHindexed mpi count blocklengths displacements element
        arrayDatatype) world
      fun result final => final = world ∧ result.2 = arrayDatatype ∧
        result.1 ≠ mpi.errorClass .success := by
  rw [pmpiTypeCreateHindexed]
  split_ifs with negative
  · exact Run.ensures_pure ⟨rfl, rfl, by simp⟩
  · refine (ensures_ofOutcome_same _).bind ?_
    rintro lengths middle rfl
    refine (ensures_ofOutcome_same _).bind ?_
    rintro starts middle rfl
    split_ifs with short
    · exact Run.ensures_pure ⟨rfl, rfl, by simp⟩
    · intro result final returned
      simp only [dead] at returned
      cases returned
      exact ⟨rfl, rfl, by simp⟩

/-- Ends a construction: the assertion about its code, and its return. -/
theorem assertReturn_ensures {rc handle : Int} {types : TypeStore} (sameTypes : world.types = types)
    (failed : rc = mpi.errorClass .success → mpi.seatbelts = false) :
    Run.Ensures (do
        vapaaAssert mpi (rc = mpi.errorClass .success)
        return (mpi.errorClass .success, handle) : Call (Int × Int)) world
      (Unbuilt mpi types handle) := by
  refine (vapaaAssert_ensures mpi _ world).bind ?_
  rintro _ final ⟨rfl, asserted⟩
  refine Run.ensures_pure ⟨sameTypes, rfl, fun _ => ?_⟩
  obtain succeeded | off := asserted
  · exact failed (of_decide_eq_true succeeded)
  · exact off

private theorem createElements_unbuilt (dead : world.types.object element = none) :
    Run.Ensures (createElements unbounded mpi desc count element arrayDatatype) world
      (Unbuilt mpi world.types arrayDatatype) := by
  rw [createElements, readDim_plain, pure_bind]
  refine (pmpiTypeCreateHvector_refused (Or.inr (Or.inr dead))).bind ?_
  rintro ⟨rc, handle⟩ final ⟨rfl, rfl, failed⟩
  exact assertReturn_ensures rfl fun succeeded => absurd succeeded failed

theorem createContiguousRows_unbuilt {extent0 : Int}
    (rejected : extent0 < 0 ∨ world.types.object element = none) :
    Run.Ensures (createContiguousRows unbounded mpi desc count extent0 element arrayDatatype) world
      (Unbuilt mpi world.types arrayDatatype) := by
  rw [createContiguousRows, readDim_plain, pure_bind]
  refine (quotient_same _ _).bind ?_
  rintro rows middle rfl
  refine (pmpiTypeCreateHvector_refused (Or.inr rejected)).bind ?_
  rintro ⟨rc, handle⟩ final ⟨rfl, rfl, failed⟩
  exact assertReturn_ensures rfl fun succeeded => absurd succeeded failed

/-- Without the temporary vector, the null handle stands in for it. -/
theorem createRows_unbuilt {extent0 stride0 : Int}
    (rejected : extent0 < 0 ∨ world.types.object element = none)
    (nullDead : world.types.object (mpi.datatype .datatypeNull) = none) :
    Run.Ensures (createRows unbounded mpi desc count extent0 stride0 element arrayDatatype) world
      (Unbuilt mpi world.types arrayDatatype) := by
  have refused : extent0 < 0 ∨ (1 : Int) < 0 ∨ world.types.object element = none := by
    obtain negative | dead := rejected
    · exact Or.inl negative
    · exact Or.inr (Or.inr dead)
  rw [createRows]
  refine (pmpiTypeCreateHvector_refused refused).bind ?_
  rintro ⟨rc, temporary⟩ final ⟨rfl, rfl, -⟩
  refine (vapaaAssert_ensures mpi _ _).bind ?_
  rintro _ final ⟨rfl, -⟩
  rw [readDim_plain, pure_bind]
  refine (quotient_same _ _).bind ?_
  rintro rows middle rfl
  refine (pmpiTypeCreateHvector_refused (Or.inr (Or.inr nullDead))).bind ?_
  rintro ⟨rc, handle⟩ final ⟨rfl, rfl, -⟩
  refine (vapaaAssert_ensures mpi _ _).bind ?_
  rintro _ final ⟨rfl, -⟩
  have freed : pmpiTypeFree mpi (mpi.datatype .datatypeNull) final =
      .returned ((mpi.errorClass .errType, mpi.datatype .datatypeNull), final) := by
    simp only [pmpiTypeFree, nullDead]
  refine Run.ensures_bind_of_returned freed ?_
  exact assertReturn_ensures rfl fun succeeded => absurd succeeded (by simp)

/-- Filling the arrays of an enumeration changes nothing else. -/
theorem fillArrays_ensures (mpi : Mpi) (count : Int)
    (loops : (Int → Filling → Flow Filling) → Filling → Flow Filling) (world : World) :
    Run.Ensures (fillArrays unbounded mpi count loops) world fun arrays final =>
      final = world ∧ (loops (Filling.place count)
        { cells := (malloc mpi (toSizeT (count * 8)) 8).getD [], offset := 0 }).land =
          .returned arrays.2 := by
  rw [fillArrays]
  refine (vapaaAssert_ensures mpi _ _).bind ?_
  rintro _ final ⟨rfl, -⟩
  refine (ensures_ofOutcome_same _).bind ?_
  rintro lengths middle rfl
  refine (vapaaAssert_ensures mpi _ _).bind ?_
  rintro _ final ⟨rfl, -⟩
  rw [plain_rounds, pure_bind]
  refine (ensures_ofOutcome_returned _).bind ?_
  rintro filling last ⟨rfl, landed⟩
  exact Run.ensures_pure ⟨rfl, landed⟩

/-- An enumeration makes nothing of an element datatype that is none. -/
theorem createSingles_unbuilt {elementDatatype : Call Int}
    {loops : (Int → Filling → Flow Filling) → Filling → Flow Filling}
    (dead : Run.Ensures elementDatatype world fun element final =>
      final.types = world.types ∧ final.types.object element = none) :
    Run.Ensures (createSingles unbounded mpi count loops elementDatatype arrayDatatype) world
      (Unbuilt mpi world.types arrayDatatype) := by
  rw [createSingles]
  refine (fillArrays_ensures mpi count loops world).bind ?_
  rintro ⟨lengths, filling⟩ final ⟨rfl, -⟩
  refine dead.bind ?_
  rintro element middle ⟨sameTypes, missing⟩
  refine (pmpiTypeCreateHindexed_refused missing).bind ?_
  rintro ⟨rc, handle⟩ final ⟨rfl, rfl, failed⟩
  exact assertReturn_ensures sameTypes fun succeeded => absurd succeeded failed

/-- Enumerations whose loops store nothing do not return. -/
theorem createSingles_of_no_rounds {elementDatatype : Call Int}
    {loops : (Int → Filling → Flow Filling) → Filling → Flow Filling} (positive : 0 < count)
    (idle : ∀ body state, loops body state = .next state) :
    Run.Ensures (createSingles unbounded mpi count loops elementDatatype arrayDatatype) world
      fun _ _ => False := by
  obtain ⟨rest, counted⟩ : ∃ rest, count.toNat = rest + 1 := ⟨count.toNat - 1, by omega⟩
  have unset (size : Nat) :
      ∃ fault, Cells.loadFirst count.toNat (Cells.fresh size : Cells Int) = .undefined fault := by
    rw [counted]
    cases size with
    | zero => exact ⟨.outOfBounds, rfl⟩
    | succ size => exact ⟨.unsetValue, rfl⟩
  have cells (bytes : Nat) : ∃ size, (malloc mpi bytes 8 : Option (Cells Int)).getD [] =
      Cells.fresh size := by
    rw [malloc]
    split_ifs
    · exact ⟨bytes / 8, rfl⟩
    · exact ⟨0, rfl⟩
  rw [createSingles]
  refine (fillArrays_ensures mpi count loops world).bind ?_
  rintro ⟨lengths, filling⟩ final ⟨rfl, landed⟩
  rw [idle, Flow.land_next] at landed
  cases landed
  obtain ⟨size, allocated⟩ := cells (toSizeT (count * 8))
  obtain ⟨fault, faulty⟩ := unset size
  refine Run.ensures_bind_of_all ?_
  intro element last
  refine Run.ensures_bind_of_never ?_
  rw [pmpiTypeCreateHindexed, if_neg (by omega)]
  refine Run.ensures_bind_of_all ?_
  intro found last
  rw [allocated, faulty]
  exact Run.ensures_of_undefined rfl

theorem loops2d_of_negative {σ : Type} {extent0 extent1 : Int} (negative : extent0 < 0)
    (body : Int → σ → Flow σ) (state : σ) :
    loops2d unbounded desc extent0 extent1 body state = .next state := by
  have none : extent0.toNat = 0 := by omega
  rw [loops2d_eq_iterate, none]
  simp

private theorem createPlane_unbuilt {elemLen extent0 extent1 : Int}
    (rejected : (extent0 < 0 ∧ 0 ≤ count) ∨ world.types.object element = none)
    (nullDead : world.types.object (mpi.datatype .datatypeNull) = none) :
    Run.Ensures
      (createPlane unbounded mpi desc count elemLen extent0 extent1 element arrayDatatype) world
      (Unbuilt mpi world.types arrayDatatype) := by
  have refused : extent0 < 0 ∨ world.types.object element = none :=
    rejected.imp And.left id
  have divided : Run.Ensures (remainder count extent0) world fun partialRow final =>
      partialRow = count.tmod extent0 ∧ final = world := by
    rw [remainder]
    split_ifs with zero
    · exact Run.ensures_of_undefined rfl
    · exact Run.ensures_pure ⟨rfl, rfl⟩
  rw [createPlane]
  refine divided.bind ?_
  rintro _ final ⟨rfl, rfl⟩
  split_ifs with whole
  · rw [readDim_plain, pure_bind]
    dsimp only
    split_ifs
    · exact createContiguousRows_unbuilt refused
    · exact createRows_unbuilt refused nullDead
  · obtain ⟨negative, counted⟩ | dead := rejected
    · have positive : 0 < count := by
        rcases counted.eq_or_lt with zero | positive
        · rw [← zero, Int.zero_tmod] at whole
          exact absurd rfl whole
        · exact positive
      exact (createSingles_of_no_rounds positive (loops2d_of_negative negative)).mono
        fun _ _ impossible => impossible.elim
    · exact createSingles_unbuilt (Run.ensures_pure ⟨rfl, dead⟩)

private theorem createSpace_unbuilt {extent0 extent1 : Int}
    (dead : world.types.object element = none) :
    Run.Ensures (createSpace unbounded mpi desc count extent0 extent1 element arrayDatatype) world
      (Unbuilt mpi world.types arrayDatatype) := by
  rw [createSpace, readDim_plain, pure_bind]
  exact createSingles_unbuilt (Run.ensures_pure ⟨rfl, dead⟩)

theorem vapaaCfiToMpiType_of_unmapped {type : Int} (unmapped : mappedType mpi type = none) :
    Run.Ensures (vapaaCfiToMpiType mpi type) world fun element final =>
      element = mpi.datatype .datatypeNull ∧ final.types = world.types := by
  simp only [vapaaCfiToMpiType, unmapped]
  exact Run.ensures_bind_of_returned (vapaaWarning_apply _) (Run.ensures_pure ⟨rfl, rfl⟩)

private theorem vapaaCfiCreateDatatype15d_unbuilt {inputDatatype : Int} {input : TypeObject}
    (inputLive : world.types.object inputDatatype = some input) (named : input.combiner = .named)
    (unmapped : mappedType mpi desc.type = none)
    (nullDead : world.types.object (mpi.datatype .datatypeNull) = none) :
    Run.Ensures (vapaaCfiCreateDatatype15d mpi desc count inputDatatype arrayDatatype) world
      (Unbuilt mpi world.types arrayDatatype) := by
  rw [vapaaCfiCreateDatatype15d]
  refine Run.ensures_bind_of_returned (vapaaMpiDatatypeIsBuiltin_of_live inputLive) ?_
  simp only [named, decide_true, if_true]
  apply createSingles_unbuilt
  refine (vapaaCfiToMpiType_of_unmapped unmapped).mono ?_
  rintro element final ⟨rfl, sameTypes⟩
  exact ⟨sameTypes, by rw [sameTypes]; exact nullDead⟩

theorem fitsPlane_same {extent0 extent1 : Int} :
    Run.Ensures (fitsPlane desc count extent0 extent1) world fun _ final => final = world := by
  rw [fitsPlane]
  split_ifs
  · exact Run.ensures_pure rfl
  · rw [intResult]
    split_ifs
    · exact Run.ensures_pure rfl
    · exact Run.ensures_of_undefined rfl

theorem checked_unbuilt {run : Call (Int × Int)}
    (unbuilt : Run.Ensures run world (Unbuilt mpi world.types arrayDatatype)) :
    Run.Ensures (do
        let (rc, handle) ← run
        vapaaAssert mpi (rc = mpi.errorClass .success)
        return (mpi.errorClass .success, handle) : Call (Int × Int)) world
      (Unbuilt mpi world.types arrayDatatype) := by
  refine unbuilt.bind ?_
  rintro ⟨rc, handle⟩ final ⟨sameTypes, rfl, failed⟩
  exact assertReturn_ensures sameTypes failed

theorem createPrefix_unbuilt {elemLen inputDatatype : Int} {input : TypeObject}
    (inputLive : world.types.object inputDatatype = some input) (named : input.combiner = .named)
    (unmapped : mappedType mpi desc.type = none)
    (nullDead : world.types.object (mpi.datatype .datatypeNull) = none) :
    Run.Ensures (createPrefix unbounded mpi desc count elemLen (mpi.datatype .datatypeNull) inputDatatype
        arrayDatatype) world (Unbuilt mpi world.types arrayDatatype) := by
  rw [createPrefix, readDim_plain, readDim_plain, pure_bind, pure_bind]
  by_cases column : desc.rank = 1 ∨ count ≤ toInt (desc.record 0).extent
  · rw [if_pos column]
    exact createElements_unbuilt nullDead
  · rw [if_neg column]
    refine fitsPlane_same.bind ?_
    rintro planar middle rfl
    split_ifs
    · exact createPlane_unbuilt (Or.inr nullDead) nullDead
    · exact createSpace_unbuilt nullDead
    · exact checked_unbuilt
        (vapaaCfiCreateDatatype15d_unbuilt inputLive named unmapped nullDead)
    · exact Run.ensures_bind_of_returned (vapaaWarning_apply _)
        (Run.ensures_pure ⟨rfl, rfl, fun succeeded => absurd succeeded (by simp)⟩)

/-- The size of no datatype is never read. -/
theorem verifySize_of_dead {elemLen : Int} (dead : world.types.object arrayDatatype = none) :
    Run.Ensures (verifySize mpi count elemLen arrayDatatype) world fun _ _ => False := by
  rw [verifySize]
  have size : pmpiTypeSize mpi arrayDatatype world =
      .returned ((mpi.errorClass .errType, none), world) := by
    simp only [pmpiTypeSize, dead]
  refine Run.ensures_bind_of_returned size ?_
  exact Run.ensures_bind_of_never (Run.ensures_of_undefined (Run.readSet_none _))

private theorem verified_unbuilt {run : Call (Int × Int)} {elemLen : Int}
    (unbuilt : Run.Ensures run world (Unbuilt mpi world.types arrayDatatype))
    (unset : mpi.seatbelts = true ∨ world.types.object arrayDatatype = none) :
    Run.Ensures (run >>= fun result =>
        if result.1 ≠ mpi.errorClass .success then return (result.1, result.2)
        else verifySize mpi count elemLen result.2) world
      fun result _ => result.1 ≠ mpi.errorClass .success := by
  refine unbuilt.bind ?_
  rintro ⟨rc, handle⟩ final ⟨sameTypes, same, off⟩
  dsimp only at same off ⊢
  split_ifs with failed
  · exact Run.ensures_pure failed
  · obtain active | dead := unset
    · rw [off (not_ne_iff.mp failed)] at active
      exact absurd active (by decide)
    · rw [same]
      rw [← sameTypes] at dead
      exact (verifySize_of_dead dead).mono fun _ _ impossible => impossible.elim

theorem countElements_ensures (mpi : Mpi) (desc : CDesc) (world : World) :
    Run.Ensures (countElements unbounded mpi desc (List.range desc.rank) 1) world
      fun counted final =>
      final.types = world.types ∧
        (counted = .ok (desc.leadingElements desc.rank) ∨
          ∃ rc, counted = .error rc ∧ rc ≠ mpi.errorClass .success) := by
  obtain ⟨final, counting, sameTypes, -⟩ | ⟨rc, final, counting, sameTypes, failed, -⟩ |
    ⟨counting, -⟩ := countElements_whole mpi desc world
  · exact Run.ensures_of_returned counting ⟨sameTypes, Or.inl rfl⟩
  · exact Run.ensures_of_returned counting ⟨sameTypes, Or.inr ⟨rc, rfl, failed⟩⟩
  · exact Run.ensures_of_undefined counting

/-- Without an element datatype the builder does not succeed. -/
theorem vapaaCfiCreateDatatype_unmapped {count : Nat} {inputDatatype : Int} {input : TypeObject}
    (inputLive : world.types.object inputDatatype = some input) (named : input.combiner = .named)
    (unmapped : mappedType mpi desc.type = none)
    (nullDead : world.types.object (mpi.datatype .datatypeNull) = none)
    (unset : mpi.seatbelts = true ∨ world.types.object arrayDatatype = none) :
    Run.Ensures (vapaaCfiCreateDatatype mpi desc count inputDatatype arrayDatatype) world
      fun result _ => result.1 ≠ mpi.errorClass .success := by
  intro result final returned
  rw [vapaaCfiCreateDatatype_of_named arrayDatatype inputLive named] at returned
  revert result final
  change Run.Ensures (createFromNamed unbounded mpi desc count inputDatatype arrayDatatype) world _
  simp only [createFromNamed, countedElements, plain_call, bind_assoc, pure_bind]
  refine (vapaaCfiToMpiType_of_unmapped unmapped).bind ?_
  rintro element first ⟨rfl, sameTypes⟩
  rw [← sameTypes] at inputLive nullDead unset
  refine (countElements_ensures mpi desc first).bind ?_
  rintro counted second ⟨sameTypes, rfl | ⟨rc, rfl, failed⟩⟩
  · rw [← sameTypes] at inputLive nullDead unset
    simp only [createCounted]
    split_ifs
    · exact Run.ensures_bind_of_returned (vapaaWarning_apply _) (Run.ensures_pure (by simp))
    · exact verified_unbuilt (createPrefix_unbuilt inputLive named unmapped nullDead) unset
  · exact Run.ensures_pure failed

end Unbuilt

section Scalars

variable {mpi : Mpi} {desc : CDesc} {world : World} {count : Nat}
variable {element inputDatatype arrayDatatype : Int} {old input : TypeObject}

theorem Builds.ensures {run : Call (Int × Int)} {layout : Layout}
    (builds : Builds mpi run world layout) :
    Run.Ensures run world fun result final =>
      TypeStore.Creates world.types final.types result.2
        { combiner := .derived, layout := layout, committed := false } := by
  obtain ⟨handle, final, returned, creates⟩ := builds
  exact Run.ensures_of_returned returned creates

theorem Halts.ensures {α : Type} {run : Call α} {post : α → World → Prop}
    (halts : Halts run world) : Run.Ensures run world post := by
  obtain aborted | ⟨fault, -, faulty⟩ := halts
  · exact Run.ensures_of_aborted aborted
  · exact Run.ensures_of_undefined faulty

/-- The records behind the descriptor of a scalar lead past the constructions for planes. -/
def CDesc.ScalarPassed (mpi : Mpi) (desc : CDesc) (count : Nat) : Prop :=
  (count : Int) ≤ toInt (desc.record 0).extent ∨
    count = 1 ∧
      -2147483648 ≤ toInt (desc.record 0).extent * toInt (desc.record 1).extent ∧
      toInt (desc.record 0).extent * toInt (desc.record 1).extent < 1 ∧ mpi.AllocatesArrays 1

/-- The requests for which the builder creates a datatype of a scalar. -/
structure CDesc.ScalarAcceptable (mpi : Mpi) (desc : CDesc) (count size : Nat) : Prop where
  few : count ≤ 1
  passed : desc.ScalarPassed mpi count
  exact_size : ((count * size : Nat) : Int) = count * toInt desc.elemLen
  small : ((count * size : Nat) : Int) ≤ intMax

private theorem displacements_of_few {displacement : Nat → Int} (few : count ≤ 1)
    (zero : displacement 0 = 0) :
    (List.range count).map displacement = (List.range count).map desc.displacement := by
  apply List.map_congr_left
  intro n member
  have first : n = 0 := by
    have below := List.mem_range.mp member
    omega
  rw [first, zero, CDesc.displacement_zero]

/-- No array is allocated for the one element that the loops visit. -/
theorem vapaaCfiCreateDatatype15d_none (scalar : desc.rank = 0)
    (inputLive : world.types.object inputDatatype = some input)
    (named : input.combiner = .named) :
    Run.Ensures (vapaaCfiCreateDatatype15d mpi desc (0 : Nat) inputDatatype arrayDatatype) world
      fun _ _ => False := by
  have fit : desc.IntExtents := fun i => absurd i.isLt (by omega)
  have single : desc.elements = 1 := by
    simp [CDesc.elements, CDesc.shape, CDesc.extents, scalar]
  refine Run.ensures_bind_of_returned (vapaaMpiDatatypeIsBuiltin_of_live inputLive) ?_
  simp only [named, decide_true, if_true, plain_rounds, pure_bind]
  rw [createSingles]
  refine (fillArrays_ensures mpi _ _ _).bind ?_
  rintro ⟨lengths, filling⟩ final ⟨-, landed⟩
  have empty : (malloc mpi (toSizeT ((0 : Nat) * 8)) 8 : Option (Cells Int)).getD [] = [] := by
    rw [malloc]
    split_ifs <;> rfl
  rw [empty, loops15d_eq_iterate fit, Filling.iterate_place_nil (by simp [single]),
    Flow.land_undefined] at landed
  cases landed

/-- A scalar has no column and no plane, so the records behind its descriptor decide. -/
theorem createPrefix_of_scalar (mpi : Mpi) (world : World) (count : Nat)
    (elemLen element inputDatatype arrayDatatype : Int) (scalar : desc.rank = 0) :
    createPrefix unbounded mpi desc count elemLen element inputDatatype arrayDatatype world =
      (if (count : Int) ≤ toInt (desc.record 0).extent then
        createElements unbounded mpi desc count element arrayDatatype
      else do
        let plane ← intResult (toInt (desc.record 0).extent * toInt (desc.record 1).extent)
        if (count : Int) ≤ plane then
          createPlane unbounded mpi desc count elemLen (toInt (desc.record 0).extent)
            (toInt (desc.record 1).extent) element arrayDatatype
        else do
          let (rc, arrayDatatype) ←
            vapaaCfiCreateDatatype15d mpi desc count inputDatatype arrayDatatype
          vapaaAssert mpi (rc = mpi.errorClass .success)
          return (mpi.errorClass .success, arrayDatatype)) world := by
  have noVector : desc.rank ≠ 1 := by omega
  have noMatrix : desc.rank ≠ 2 := by omega
  have noSpace : desc.rank ≠ 3 := by omega
  have small : desc.rank < 15 := by omega
  simp only [createPrefix, Run.bind_apply, readDim_plain, plain_call, Run.pure_apply,
    Outcome.returned_bind, noVector, false_or]
  split_ifs
  · rfl
  · simp only [fitsPlane, if_neg noMatrix, Run.bind_apply]
    cases intResult (toInt (desc.record 0).extent * toInt (desc.record 1).extent) _ with
    | returned result =>
        simp
        rfl
    | aborted => rfl
    | undefined fault => rfl

theorem createPrefix_scalar_cases (elemLen arrayDatatype : Int) (scalar : desc.rank = 0)
    (few : count ≤ 1)
    (inputLive : world.types.object inputDatatype = some input) (named : input.combiner = .named)
    (mapped : mappedType mpi desc.type = some element)
    (live : world.types.object element = some old)
    (nullDead : world.types.object (mpi.datatype .datatypeNull) = none) :
    desc.ScalarPassed mpi count ∧
      Builds mpi
        (createPrefix unbounded mpi desc count elemLen element inputDatatype arrayDatatype) world
        (old.layout.copies ((List.range count).map desc.displacement)) ∨
    ¬ desc.ScalarPassed mpi count ∧
      Run.Ensures
        (createPrefix unbounded mpi desc count elemLen element inputDatatype arrayDatatype) world
        (Unbuilt mpi world.types arrayDatatype) := by
  have start := createPrefix_of_scalar mpi world count elemLen element inputDatatype arrayDatatype
    scalar
  generalize extent0_eq : toInt (desc.record 0).extent = extent0 at start
  generalize extent1_eq : toInt (desc.record 1).extent = extent1 at start
  rw [CDesc.ScalarPassed, extent0_eq, extent1_eq]
  by_cases column : (count : Int) ≤ extent0
  · rw [if_pos column] at start
    have builds : Builds mpi (createElements unbounded mpi desc count element arrayDatatype) world
        (old.layout.copies ((List.range count).map fun (n : Nat) => n * (desc.record 0).sm)) :=
      createElements_builds live
    rw [displacements_of_few few (by simp)] at builds
    exact Or.inl ⟨Or.inl column, builds.of_eq start rfl⟩
  rw [if_neg column] at start
  by_cases fits : -2147483648 ≤ extent0 * extent1 ∧ extent0 * extent1 ≤ intMax
  swap
  · refine Or.inr ⟨?_, Run.Ensures.of_eq ?_ start⟩
    · rintro (inColumn | ⟨-, low, high, -⟩)
      · exact column inColumn
      · simp only [intMax] at fits
        omega
    · rw [intResult, if_neg fits]
      exact Run.ensures_bind_of_never (Run.ensures_of_undefined rfl)
  rw [intResult_of_bounds fits.1 fits.2, Run.bind_of_returned (Run.pure_apply _ _)] at start
  by_cases planar : (count : Int) ≤ extent0 * extent1
  · rw [if_pos planar] at start
    refine Or.inr ⟨?_, Run.Ensures.of_eq ?_ start⟩
    · rintro (inColumn | ⟨single, -, below, -⟩)
      · exact column inColumn
      · omega
    · by_cases negative : extent0 < 0
      · exact createPlane_unbuilt (Or.inl ⟨negative, by omega⟩) nullDead
      · have zero : extent0 = 0 := by omega
        have divides : remainder count 0 world = .undefined .divisionByZero := rfl
        rw [createPlane, zero]
        exact Run.ensures_bind_of_never (Run.ensures_of_undefined divides)
  rw [if_neg planar] at start
  obtain rfl | rfl : count = 0 ∨ count = 1 := by omega
  · refine Or.inr ⟨?_, Run.Ensures.of_eq ?_ start⟩
    · rintro (inColumn | ⟨single, -⟩)
      · exact column inColumn
      · omega
    · exact Run.ensures_bind_of_never (vapaaCfiCreateDatatype15d_none scalar inputLive named)
  · have fit : desc.IntExtents := fun i => absurd i.isLt (by omega)
    have single : desc.elements = 1 := by
      simp [CDesc.elements, CDesc.shape, CDesc.extents, scalar]
    have unit : ((1 : Nat) : Int) ≤ intMax := by decide
    obtain ⟨builds, allocates⟩ | ⟨halts, missing⟩ := vapaaCfiCreateDatatype15d_cases arrayDatatype
      inputLive named mapped fit unit Nat.one_pos single.ge live
    · exact Or.inl ⟨Or.inr ⟨rfl, fits.1, by omega, allocates⟩, builds.checked.of_eq start rfl⟩
    · refine Or.inr ⟨?_, Run.Ensures.of_eq ?_ start⟩
      · rintro (inColumn | ⟨-, -, -, allocates⟩)
        · exact column inColumn
        · exact missing allocates
      · exact (halts.bind _).ensures

/-- For a scalar the builder creates a datatype exactly for acceptable requests. -/
theorem vapaaCfiCreateDatatype_scalar_cases (count : Nat) (scalar : desc.rank = 0)
    (inputLive : world.types.object inputDatatype = some input) (named : input.combiner = .named)
    (mapped : mappedType mpi desc.type = some element)
    (live : world.types.object element = some old)
    (nullDead : world.types.object (mpi.datatype .datatypeNull) = none) :
    desc.ScalarAcceptable mpi count old.layout.size ∧
      Builds mpi (vapaaCfiCreateDatatype mpi desc count inputDatatype arrayDatatype) world
        (old.layout.copies ((List.range count).map desc.displacement)) ∨
    ¬ desc.ScalarAcceptable mpi count old.layout.size ∧
      (mpi.seatbelts = true ∨ world.types.object arrayDatatype = none →
        Run.Ensures (vapaaCfiCreateDatatype mpi desc count inputDatatype arrayDatatype) world
          fun result _ => result.1 ≠ mpi.errorClass .success) := by
  have one : desc.leadingElements desc.rank = 1 := by rw [scalar, desc.leadingElements_zero]
  have counting : countElements unbounded mpi desc (List.range desc.rank) 1 world =
      .returned (.ok 1, world) := by
    rw [scalar]
    rfl
  have start : vapaaCfiCreateDatatype mpi desc count inputDatatype arrayDatatype world =
      createFromNamed unbounded mpi desc count inputDatatype arrayDatatype world :=
    vapaaCfiCreateDatatype_of_named arrayDatatype inputLive named
  simp only [createFromNamed, countedElements, plain_call, bind_assoc, pure_bind] at start
  rw [Run.bind_of_returned (vapaaCfiToMpiType_of_mapped mapped world),
    Run.bind_of_returned counting] at start
  simp only [createCounted] at start
  by_cases overrun : (1 : Int) < count
  · rw [if_pos overrun] at start
    refine Or.inr ⟨fun acceptable => ?_, fun _ => Run.Ensures.of_eq ?_ start⟩
    · have few := acceptable.few
      omega
    · exact Run.ensures_bind_of_returned (vapaaWarning_apply _) (Run.ensures_pure (by simp))
  rw [if_neg overrun] at start
  have few : count ≤ 1 := by omega
  obtain ⟨passed, handle, final, returned, creates⟩ | ⟨stopped, unbuilt⟩ :=
    createPrefix_scalar_cases (toInt desc.elemLen) arrayDatatype scalar few inputLive named
      mapped live nullDead
  · rw [Run.bind_of_returned returned] at start
    simp only [ne_eq, not_true_eq_false, if_false, plain_call] at start
    have sizes : (old.layout.copies ((List.range count).map desc.displacement)).size =
        count * old.layout.size := by
      rw [Layout.size_copies, List.length_map, List.length_range]
    by_cases exactSize : ((count * old.layout.size : Nat) : Int) = count * toInt desc.elemLen ∧
        ((count * old.layout.size : Nat) : Int) ≤ intMax
    · rw [verifySize_of_live creates.live sizes exactSize.1 exactSize.2] at start
      exact Or.inl ⟨⟨few, passed, exactSize.1, exactSize.2⟩, handle, final, start, creates⟩
    · refine Or.inr ⟨fun acceptable => exactSize ⟨acceptable.exact_size, acceptable.small⟩,
        fun _ => Run.Ensures.of_eq ?_ start⟩
      obtain ⟨rc, value, last, refused, failed⟩ | halts :=
        verifySize_of_mismatch mpi creates.live sizes exactSize
      · exact Run.ensures_of_returned refused failed
      · exact halts.ensures
  · refine Or.inr ⟨fun acceptable => stopped acceptable.passed, fun unset =>
      Run.Ensures.of_eq ?_ start⟩
    exact verified_unbuilt unbuilt unset

end Scalars

end Vapaa
