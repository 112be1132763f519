import Vapaa.SectionBounds

/-!
# How the construction of a section's datatype ends

For every section, count and datatype the builder makes a datatype, ends the program, or does
something undefined. Which of them is told by predicates on its arguments.
-/

set_option autoImplicit false

namespace Vapaa

open Foundation Builder

/-- The construction for derived datatypes succeeds, where its arrays are as long as for one
number of copies, and another number of copies is selected. -/
structure IndexedPasses (mpi : Mpi) (desc : CDesc) (input : TypeObject) (size copies : Nat) :
    Prop where
  arrays : ArraysAllocated mpi desc input size
  numbered : desc.SsizeElements
  addresses : mpi.allocates (toSizeT (desc.elements * 8)) = true
  selection : SelectionInside mpi desc input copies
  few : ((selected mpi desc input copies).length : Int) < intMax
  mapped : ∃ element, mappedType mpi desc.type = some element

namespace CDesc

/-- The builder succeeds for these arguments. -/
def Passes (mpi : Mpi) (types : TypeStore) (desc : CDesc) (count datatype : Int) : Prop :=
  ∃ input, types.object datatype = some input ∧
    if input.combiner = .named then 0 ≤ count ∧ desc.Accepted mpi types count.toNat
    else IndexedPasses mpi desc input (toSizeT count) count.toNat

/-- The builder stays within its language for these arguments. -/
def Defined (mpi : Mpi) (types : TypeStore) (desc : CDesc) (count datatype : Int) : Prop :=
  ∀ input, types.object datatype = some input →
    if input.combiner = .named then
      if 0 ≤ count then desc.NamedSafe mpi count.toNat else desc.CountsFit
    else DerivedDefined mpi desc input (toSizeT count) count.toNat

/-- The displacements of the elements that the builder selects. -/
def chosen (mpi : Mpi) (desc : CDesc) (count : Int) (input : TypeObject) : List Int :=
  if input.combiner = .named then (List.range count.toNat).map desc.displacement
  else selectedDisplacements mpi desc input count.toNat

/-- The layout of the datatype that the builder makes. -/
def built (mpi : Mpi) (types : TypeStore) (desc : CDesc) (count datatype : Int) :
    Option Layout := do
  let input ← types.object datatype
  let element ← mappedType mpi desc.type
  let old ← types.object element
  return old.layout.copies (desc.chosen mpi count input)

end CDesc

/-- A call stays within its language exactly where `defined` holds, and makes a datatype of
the layout exactly where `passes` does. -/
structure Settles (mpi : Mpi) (call : Call (Int × Int)) (world : World) (layout : Option Layout)
    (passes defined : Prop) : Prop where
  safe : Run.Safe call world (fun _ _ => True) ↔ defined
  builds : passes → ∃ made, layout = some made ∧ Builds mpi call world made
  refuses : ¬ passes → Run.Ensures call world fun result _ => result.1 ≠ mpi.errorClass .success

section Counts

private theorem toSizeT_mul (count value : Int) :
    toSizeT (count * value) = toSizeT (toSizeT count * value) := by
  have converted : (toSizeT count : Int) = count % 18446744073709551616 := by
    rw [toSizeT]
    omega
  rw [converted, toSizeT, toSizeT, Int.mul_emod (count % _), Int.emod_emod_of_dvd _ dvd_rfl,
    ← Int.mul_emod]

/-- The count as `size_t` is the number of copies, unless none are selected. -/
theorem toNat_eq_toSizeT {count : Int} (small : count ≤ intMax) :
    count.toNat = toSizeT count ∨ count.toNat = 0 := by
  simp only [toSizeT, intMax] at *
  omega

end Counts

section Indexed

variable {mpi : Mpi} {desc : CDesc} {world : World} {count : Int} {size : Nat}
variable {element inputDatatype arrayDatatype : Int} {input old : TypeObject}

private theorem createIndexed_builds (sized : desc.Sized)
    (same : ∀ value : Int, toSizeT (count * value) = toSizeT (size * value))
    (sizes : count.toNat = size ∨ count.toNat = 0)
    (live : world.types.object inputDatatype = some input)
    (mapped : mappedType mpi desc.type = some element)
    (elementLive : world.types.object element = some old)
    (passes : IndexedPasses mpi desc input size count.toNat) :
    Builds mpi (vapaaCfiCreateIndexed mpi desc count inputDatatype arrayDatatype) world
      (old.layout.copies (selectedDisplacements mpi desc input count.toNat)) := by
  obtain ⟨room, steps, lengthsFit, startsFit, lists⟩ :=
    (selectionInside_of_size sizes).mpr passes.selection
  have arrays := indexedArrays_of_allocated passes.arrays live
  -- the rooms are named, so that no division is left to unfold
  obtain ⟨lengths, lengthsSame⟩ : ∃ lengths : Nat,
      lengths = toSizeT (indexedElements mpi desc input size * 4) / 4 := ⟨_, rfl⟩
  obtain ⟨starts, startsSame⟩ : ∃ starts : Nat,
      starts = toSizeT (indexedElements mpi desc input size * 8) / 8 := ⟨_, rfl⟩
  rw [← lengthsSame] at lengthsFit arrays
  rw [← startsSame] at startsFit arrays
  obtain ⟨-, unset, listed, listing, sameTypes⟩ | ⟨unfit, -⟩ :=
    vapaaCfiCreateElementAddresses_cases sized passes.addresses world
  swap
  · exact absurd ⟨passes.numbered, room⟩ unfit
  obtain ⟨spareLengths, lengthsRoom⟩ := Nat.exists_eq_add_of_le lengthsFit
  obtain ⟨spareStarts, startsRoom⟩ := Nat.exists_eq_add_of_le startsFit
  have looped := selectElements_of_lists passes.arrays.divides steps lists unset spareLengths
    spareStarts
  rw [← lengthsRoom, ← startsRoom] at looped
  have start : Selection.filled [] lengths starts = {
      arrayOfBlocklengths := Cells.fresh lengths
      arrayOfDisplacements := Cells.fresh starts
      index := 0 } := rfl
  rw [start] at looped
  have few : ((selectedDisplacements mpi desc input count.toNat).length : Int) < intMax := by
    rw [selectedDisplacements, List.length_map]
    exact passes.few
  generalize selectedDisplacements mpi desc input count.toNat = displacements at looped few ⊢
  have exactly : toInt (displacements.length : Int) = displacements.length :=
    toInt_of_bounds (by omega) (by omega)
  have elementListed : listed.types.object element = some old := by
    rw [sameTypes, elementLive]
  apply builds_createType _ sameTypes
  rw [vapaaCfiCreateIndexed_eq_bind _ _ _ _ passes.arrays.available same,
    Run.bind_of_returned arrays]
  dsimp only
  rw [Run.bind_of_returned listing, selectElements_toNat, looped,
    Run.bind_of_returned (Run.ofOutcome_returned _ listed)]
  simp only [Selection.filled, few, decide_true, vapaaAssert_true, Run.bind_apply,
    Run.pure_apply, Outcome.returned_bind, vapaaCfiToMpiType_of_mapped mapped, exactly,
    pmpiTypeCreateHindexed_of_set displacements _ _ elementListed, createType]

/-- The loops finish only where their offsets are those of listed addresses, and their
arrays have room. -/
theorem selectElements_finished {copies unset lengths starts : Nat} {selection : Selection}
    (divides : toInt desc.elemLen ≠ 0)
    (finished : selectElements (desc.listed.map some ++ Cells.fresh unset) input.layout.extent
      (toInt desc.elemLen) (reportedSegments mpi input) copies
      (Selection.filled [] lengths starts) = .returned selection) :
    StepsFit input.layout.extent copies ∧ (selected mpi desc input copies).length ≤ lengths ∧
      (selected mpi desc input copies).length ≤ starts ∧ ListsSelected mpi desc input copies ∧
      selection.index = (selected mpi desc input copies).length := by
  have steps := stepsFit_of_selectElements finished
  have folded := finished
  rw [selectElements_eq_foldlM divides steps] at folded
  obtain ⟨lengthsFit, startsFit⟩ := room_of_foldlM_selectOffset folded
  rw [List.length_map] at lengthsFit startsFit
  have lists : ListsSelected mpi desc input copies := by
    intro visit member
    obtain ⟨address, loaded⟩ :=
      loads_of_foldlM_selectOffset folded _ (List.mem_map_of_mem member)
    rw [load_listed] at loaded
    rw [selectedAddress, loaded]
    rfl
  refine ⟨steps, lengthsFit, startsFit, lists, ?_⟩
  obtain ⟨spareLengths, rfl⟩ := Nat.exists_eq_add_of_le lengthsFit
  obtain ⟨spareStarts, rfl⟩ := Nat.exists_eq_add_of_le startsFit
  have looped := selectElements_of_lists divides steps lists unset spareLengths spareStarts
  have same := Outcome.returned.inj (finished.symm.trans looped)
  rw [same, Selection.filled, selectedDisplacements, List.length_map]

/-- The construction for derived datatypes succeeds only for these requests. -/
theorem createIndexed_passes (active : mpi.seatbelts = true) (basic : world.types.Basic mpi)
    (sized : desc.Sized)
    (same : ∀ value : Int, toSizeT (count * value) = toSizeT (size * value))
    (sizes : count.toNat = size ∨ count.toNat = 0)
    (live : world.types.object inputDatatype = some input) :
    Run.Ensures (vapaaCfiCreateIndexed mpi desc count inputDatatype arrayDatatype) world
      fun result _ => result.1 = mpi.errorClass .success →
        IndexedPasses mpi desc input size count.toNat := by
  cases support : mpi.iovSupport with
  | mpichTooOld =>
      rw [vapaaCfiCreateIndexed, Builder.vapaaCfiCreateIndexed, support]
      exact Run.ensures_of_undefined rfl
  | notMpich =>
      rw [vapaaCfiCreateIndexed, Builder.vapaaCfiCreateIndexed, support]
      refine Run.ensures_bind_of_returned (vapaaWarning_apply _) (Run.ensures_pure ?_)
      exact fun succeeded => absurd succeeded (by simp)
  | available =>
      rw [vapaaCfiCreateIndexed_eq_bind _ _ _ _ support same]
      rcases @indexedArrays_cases mpi desc world size inputDatatype input active support live with
        ⟨allocated, lengths, starts, lengthsSame, startsSame, returned⟩ | ⟨-, aborted⟩ |
        ⟨-, -, fault, faulty⟩
      · refine Run.ensures_bind_of_returned returned ?_
        dsimp only
        by_cases addresses : mpi.allocates (toSizeT (desc.elements * 8)) = true
        swap
        · refine Run.ensures_bind_of_never ?_
          rcases vapaaCfiCreateElementAddresses_of_missing active sized addresses world with
            ⟨-, aborted⟩ | ⟨-, faulty⟩
          · exact Run.ensures_of_aborted aborted
          · exact Run.ensures_of_undefined faulty
        rcases vapaaCfiCreateElementAddresses_cases sized addresses world with
          ⟨⟨numbered, room⟩, unset, listed, listing, sameTypes⟩ | ⟨-, fault, faulty⟩
        swap
        · exact Run.ensures_bind_of_never (Run.ensures_of_undefined faulty)
        refine Run.ensures_bind_of_returned listing ?_
        rw [selectElements_toNat]
        refine Run.Ensures.bind (?_ : Run.Ensures _ listed fun selection final => final = listed ∧
          StepsFit input.layout.extent count.toNat ∧
          (selected mpi desc input count.toNat).length ≤ lengths ∧
          (selected mpi desc input count.toNat).length ≤ starts ∧
          ListsSelected mpi desc input count.toNat ∧
          selection.index = (selected mpi desc input count.toNat).length) ?_
        · exact Run.ensures_ofOutcome fun selection finished =>
            ⟨rfl, selectElements_finished allocated.divides finished⟩
        rintro selection _ ⟨rfl, steps, lengthsFit, startsFit, lists, index⟩
        rw [lengthsSame] at lengthsFit
        rw [startsSame] at startsFit
        have inside : SelectionInside mpi desc input count.toNat :=
          (selectionInside_of_size sizes).mp ⟨room, steps, lengthsFit, startsFit, lists⟩
        refine (vapaaAssert_ensures mpi _ _).bind ?_
        rintro _ _ ⟨rfl, few⟩
        replace few := few.resolve_right (by simp [active])
        rw [decide_eq_true_eq, index] at few
        cases mapped : mappedType mpi desc.type with
        | some element =>
            intro result final _ _
            exact ⟨allocated, numbered, addresses, inside, few, element, mapped⟩
        | none =>
            refine (vapaaCfiToMpiType_of_unmapped mapped).bind ?_
            rintro _ translated ⟨rfl, sameTranslated⟩
            have dead : translated.types.object (mpi.datatype .datatypeNull) = none := by
              rw [sameTranslated, sameTypes, basic.null]
            refine (pmpiTypeCreateHindexed_refused dead).bind ?_
            rintro ⟨rc, handle⟩ _ ⟨-, -, failed⟩
            refine (vapaaAssert_ensures mpi _ _).bind ?_
            rintro _ _ ⟨-, succeeded⟩
            exact absurd (of_decide_eq_true (succeeded.resolve_right (by simp [active]))) failed
      · exact Run.ensures_bind_of_never (Run.ensures_of_aborted aborted)
      · exact Run.ensures_bind_of_never (Run.ensures_of_undefined faulty)

private theorem createIndexed_inside (active : mpi.seatbelts = true) (basic : world.types.Basic mpi)
    (sized : desc.Sized)
    (same : ∀ value : Int, toSizeT (count * value) = toSizeT (size * value))
    (sizes : count.toNat = size ∨ count.toNat = 0)
    (live : world.types.object inputDatatype = some input) :
    Run.Ensures (vapaaCfiCreateIndexed mpi desc count inputDatatype arrayDatatype) world
      (Inside mpi desc world.types) := by
  intro result final returned success
  have passes := createIndexed_passes active basic sized same sizes live _ _ returned success
  obtain ⟨element, mapped⟩ := passes.mapped
  obtain ⟨old, elementLive, -⟩ := basic.elements _ element mapped
  have builds := @createIndexed_builds mpi desc world count size element inputDatatype
    arrayDatatype input old sized same sizes live mapped elementLive passes
  obtain ⟨rc, handle⟩ := result
  cases success
  exact Inside.of_creates mapped elementLive (selectedDisplacements_inside sized passes.selection.lists)
    (builds.returned returned) rfl

end Indexed

section Builder

variable {mpi : Mpi} {desc : CDesc} {world : World} {count : Int}
variable {inputDatatype arrayDatatype : Int} {input : TypeObject}

private theorem vapaaCfiCreateDatatype_of_derived
    (live : world.types.object inputDatatype = some input)
    (derived : input.combiner ≠ .named) :
    vapaaCfiCreateDatatype mpi desc count inputDatatype arrayDatatype world =
      (do
        let (rc, arrayDatatype) ←
          vapaaCfiCreateIndexed mpi desc count inputDatatype arrayDatatype
        vapaaAssert mpi (rc = mpi.errorClass .success)
        return (mpi.errorClass .success, arrayDatatype) : Call (Int × Int)) world := by
  rw [vapaaCfiCreateDatatype, Builder.vapaaCfiCreateDatatype, plain_call,
    Run.bind_of_returned (vapaaMpiDatatypeIsBuiltin_of_live live)]
  simp only [derived, decide_false, Bool.false_eq_true, if_false]
  rfl

private theorem vapaaCfiCreateDatatype_settles_derived (active : mpi.seatbelts = true)
    (basic : world.types.Basic mpi) (sized : desc.Sized) (small : count ≤ intMax)
    (live : world.types.object inputDatatype = some input) (derived : input.combiner ≠ .named) :
    Settles mpi (vapaaCfiCreateDatatype mpi desc count inputDatatype arrayDatatype) world
      (desc.built mpi world.types count inputDatatype)
      (IndexedPasses mpi desc input (toSizeT count) count.toNat)
      (DerivedDefined mpi desc input (toSizeT count) count.toNat) := by
  have sizes := toNat_eq_toSizeT small
  have same := toSizeT_mul count
  have passed := @createIndexed_passes mpi desc world count _ inputDatatype arrayDatatype input
    active basic sized same sizes live
  have checked := @vapaaCfiCreateDatatype_of_derived mpi desc world count inputDatatype
    arrayDatatype input live derived
  constructor
  · rw [← @safe_createIndexed mpi desc world inputDatatype arrayDatatype input count _ active
      basic sized same sizes live, Run.safe_of_eq checked, Run.safe_bind]
    constructor
    · intro safe
      refine (safe.and_ensures (createIndexed_inside active basic sized same sizes live)).mono ?_
      exact fun _ _ both => both.2
    · intro safe
      refine safe.mono fun result middle _ => ?_
      rw [Run.safe_bind, safe_vapaaAssert active]
      exact fun _ => trivial
  · intro passes
    obtain ⟨element, mapped⟩ := passes.mapped
    obtain ⟨old, elementLive, -⟩ := basic.elements _ element mapped
    obtain ⟨handle, final, returned, creates⟩ := @createIndexed_builds mpi desc world count _
      element inputDatatype arrayDatatype input old sized same sizes live mapped elementLive passes
    refine ⟨_, ?_, handle, final, ?_, creates⟩
    · simp [CDesc.built, live, mapped, elementLive, CDesc.chosen, derived]
    · rw [checked, Run.bind_of_returned returned]
      simp
  · intro rejected
    refine Run.Ensures.of_eq (passed.bind ?_) checked
    rintro ⟨rc, handle⟩ middle passes
    refine (vapaaAssert_ensures mpi _ _).bind ?_
    rintro _ _ ⟨-, succeeded⟩
    exact absurd (passes (of_decide_eq_true (succeeded.resolve_right (by simp [active]))))
      rejected

private theorem vapaaCfiCreateDatatype_settles_named {count : Nat} (active : mpi.seatbelts = true)
    (basic : world.types.Basic mpi) (sized : desc.Sized)
    (live : world.types.object inputDatatype = some input) (named : input.combiner = .named) :
    Settles mpi (vapaaCfiCreateDatatype mpi desc count inputDatatype arrayDatatype) world
      (desc.built mpi world.types count inputDatatype)
      (desc.Accepted mpi world.types count) (desc.NamedSafe mpi count) := by
  have cases := @vapaaCfiCreateDatatype_named_cases mpi desc world inputDatatype input count
    arrayDatatype basic sized.wellFormed live named
  constructor
  · rw [Run.safe_of_eq (vapaaCfiCreateDatatype_of_named arrayDatatype live named)]
    exact safe_createFromNamed active basic sized live named
  · intro accepted
    obtain ⟨-, element, old, mapped, elementLive, -, -, builds⟩ | ⟨rejected, -⟩ := cases
    · refine ⟨_, ?_, builds⟩
      simp [CDesc.built, live, mapped, elementLive, CDesc.chosen, named]
    · exact absurd accepted rejected
  · intro rejected
    obtain ⟨accepted, -⟩ | ⟨-, fails⟩ := cases
    · exact absurd accepted rejected
    · exact fails (Or.inl active)

private theorem createElements_aborted {element : Int} (active : mpi.seatbelts = true)
    (negative : count < 0) :
    createElements unbounded mpi desc count element arrayDatatype world = .aborted := by
  have failed : ¬ mpi.errorClass .errCount = mpi.errorClass .success := by simp
  simp only [createElements, Run.bind_apply, readDim_plain, plain_call, Run.pure_apply,
    Outcome.returned_bind, pmpiTypeCreateHvector, if_pos negative, failed, vapaaAssert, active,
    decide_false, Bool.false_eq_true, if_false, if_true, Run.abort_apply, Outcome.aborted_bind]

/-- The construction for named datatypes ends the program at a negative count, once the elements
are counted. -/
theorem vapaaCfiCreateDatatype_settles_negative (active : mpi.seatbelts = true)
    (ranked : 1 ≤ desc.rank) (sized : desc.Sized) (negative : count < 0)
    (live : world.types.object inputDatatype = some input) (named : input.combiner = .named)
    (layout : Option Layout) :
    Settles mpi (vapaaCfiCreateDatatype mpi desc count inputDatatype arrayDatatype) world layout
      False desc.CountsFit := by
  have start : vapaaCfiCreateDatatype mpi desc count inputDatatype arrayDatatype world =
      createFromNamed unbounded mpi desc count inputDatatype arrayDatatype world := by
    rw [vapaaCfiCreateDatatype, Builder.vapaaCfiCreateDatatype, plain_call,
      Run.bind_of_returned (vapaaMpiDatatypeIsBuiltin_of_live live)]
    simp [named]
  obtain ⟨element, first, translation, -⟩ := vapaaCfiToMpiType_cases mpi desc.type world
  simp only [createFromNamed, countedElements, plain_call, bind_assoc, pure_bind] at start
  rw [Run.bind_of_returned translation] at start
  obtain ⟨second, counting, -, countable, counts⟩ | ⟨rc, second, counting, failed, -, counts⟩ |
    ⟨counting, unfit⟩ := countElements_fits mpi sized first
  · have elements : 0 ≤ desc.leadingElements desc.rank := by
      rw [sized.leadingElements_rank]
      exact Int.natCast_nonneg _
    have extent : toInt (desc.record 0).extent = (desc.record 0).extent :=
      toInt_of_bounds (by have := sized 0 ranked; omega) (countable 0 ranked).1
    have column : count ≤ toInt (desc.record 0).extent := by
      rw [extent]
      exact le_trans negative.le (sized 0 ranked)
    have aborted : vapaaCfiCreateDatatype mpi desc count inputDatatype arrayDatatype world =
        .aborted := by
      rw [start, Run.bind_of_returned counting]
      simp only [createCounted, if_neg (not_lt.mpr (negative.le.trans elements)), createPrefix,
        Run.bind_apply, readDim_plain, plain_call, Run.pure_apply, Outcome.returned_bind, column,
        or_true, if_true, createElements_aborted active negative, Outcome.aborted_bind]
    exact ⟨iff_of_true (Run.safe_of_aborted aborted) counts, fun impossible => impossible.elim,
      fun _ => Run.ensures_of_aborted aborted⟩
  · rw [Run.bind_of_returned counting] at start
    have returned : vapaaCfiCreateDatatype mpi desc count inputDatatype arrayDatatype world =
        .returned ((rc, arrayDatatype), second) := start
    exact ⟨iff_of_true ((Run.safe_of_returned returned).mpr trivial) counts,
      fun impossible => impossible.elim, fun _ => Run.ensures_of_returned returned failed⟩
  · rw [Run.bind_apply, counting, Outcome.undefined_bind] at start
    exact ⟨iff_of_false (Run.not_safe_of_undefined start) unfit,
      fun impossible => impossible.elim, fun _ => Run.ensures_of_undefined start⟩

private theorem vapaaCfiCreateDatatype_settles_dead (active : mpi.seatbelts = true)
    (dead : world.types.object inputDatatype = none) (layout : Option Layout) :
    Settles mpi (vapaaCfiCreateDatatype mpi desc count inputDatatype arrayDatatype) world layout
      False True := by
  have aborted : vapaaCfiCreateDatatype mpi desc count inputDatatype arrayDatatype world =
      .aborted := by
    simp [vapaaCfiCreateDatatype, Builder.vapaaCfiCreateDatatype, vapaaMpiDatatypeIsBuiltin,
      Run.bind_apply, pmpiTypeGetEnvelope, dead, vapaaAssert, active]
  exact ⟨iff_of_true (Run.safe_of_aborted aborted) trivial, fun impossible => impossible.elim,
    fun _ => Run.ensures_of_aborted aborted⟩

/-- The builder succeeds, and stays within its language, exactly where its arguments say so. -/
theorem vapaaCfiCreateDatatype_settles (active : mpi.seatbelts = true)
    (basic : world.types.Basic mpi) (ranked : 1 ≤ desc.rank) (sized : desc.Sized)
    (small : count ≤ intMax) (inputDatatype arrayDatatype : Int) :
    Settles mpi (vapaaCfiCreateDatatype mpi desc count inputDatatype arrayDatatype) world
      (desc.built mpi world.types count inputDatatype)
      (desc.Passes mpi world.types count inputDatatype)
      (desc.Defined mpi world.types count inputDatatype) := by
  cases live : world.types.object inputDatatype with
  | none =>
      have passes : desc.Passes mpi world.types count inputDatatype ↔ False := by
        simp [CDesc.Passes, live]
      have defined : desc.Defined mpi world.types count inputDatatype ↔ True := by
        simp [CDesc.Defined, live]
      rw [passes, defined]
      exact vapaaCfiCreateDatatype_settles_dead active live _
  | some input =>
      by_cases named : input.combiner = .named
      · by_cases counted : 0 ≤ count
        · have passes : desc.Passes mpi world.types count inputDatatype ↔
              desc.Accepted mpi world.types count.toNat := by
            simp [CDesc.Passes, live, named, counted]
          have defined : desc.Defined mpi world.types count inputDatatype ↔
              desc.NamedSafe mpi count.toNat := by
            simp [CDesc.Defined, live, named, counted]
          obtain ⟨copies, rfl⟩ := Int.eq_ofNat_of_zero_le counted
          rw [passes, defined]
          exact vapaaCfiCreateDatatype_settles_named active basic sized live named
        · have passes : desc.Passes mpi world.types count inputDatatype ↔ False := by
            simp [CDesc.Passes, live, named, counted]
          have defined : desc.Defined mpi world.types count inputDatatype ↔ desc.CountsFit := by
            simp [CDesc.Defined, live, named, counted]
          rw [passes, defined]
          exact vapaaCfiCreateDatatype_settles_negative active ranked sized (not_le.mp counted)
            live named _
      · have passes : desc.Passes mpi world.types count inputDatatype ↔
            IndexedPasses mpi desc input (toSizeT count) count.toNat := by
          simp [CDesc.Passes, live, named]
        have defined : desc.Defined mpi world.types count inputDatatype ↔
            DerivedDefined mpi desc input (toSizeT count) count.toNat := by
          simp [CDesc.Defined, live, named]
        rw [passes, defined]
        exact vapaaCfiCreateDatatype_settles_derived active basic sized small live named

end Builder

end Vapaa
