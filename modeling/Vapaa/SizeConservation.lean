import Vapaa.SectionArguments
import Vapaa.IndexedSections

/-! How the size of a created datatype relates to the size of the datatype that the
caller passes. -/

set_option autoImplicit false

namespace Vapaa

open Foundation Builder

section Counting

/-- A selection whose first cells hold blocks of length one, as many as were stored. -/
def Selection.Counted (selection : Selection) (stored : Nat) : Prop :=
  selection.index = stored ∧
    ∃ rest, selection.arrayOfBlocklengths = (List.replicate stored 1).map some ++ rest

theorem Selection.Counted.select {input : Cells Int} {selection next : Selection}
    {stored offset : Nat} (counted : selection.Counted stored)
    (round : selectOffset input selection offset = .returned next) : next.Counted (stored + 1) := by
  obtain ⟨rfl, rest, lengths⟩ := counted
  rw [selectOffset, Outcome.bind_eq_returned] at round
  obtain ⟨arrayOfBlocklengths, storing, loading⟩ := round
  rw [Outcome.bind_eq_returned] at loading
  obtain ⟨address, -, loading⟩ := loading
  rw [Outcome.bind_eq_returned] at loading
  obtain ⟨first, -, displacing⟩ := loading
  rw [Outcome.bind_eq_returned] at displacing
  obtain ⟨arrayOfDisplacements, -, finished⟩ := displacing
  cases finished
  refine ⟨rfl, rest.tail, ?_⟩
  rw [Cells.store, lengths] at storing
  split_ifs at storing with inside
  cases storing
  cases rest with
  | nil => simp at inside
  | cons cell rest => simp [List.replicate_succ']

/-- The loops store one block for each element that they visit. -/
theorem Selection.Counted.selectAll {input : Cells Int} {offsets : List Nat}
    {selection final : Selection} {stored : Nat} (counted : selection.Counted stored)
    (looped : offsets.foldlM (selectOffset input) selection = .returned final) :
    final.Counted (stored + offsets.length) := by
  induction offsets generalizing selection stored with
  | nil =>
      cases looped
      exact counted
  | cons offset offsets ih =>
      rw [List.foldlM_cons, Outcome.bind_eq_returned] at looped
      obtain ⟨middle, round, rest⟩ := looped
      have counts := ih (counted.select round) rest
      rw [List.length_cons]
      rwa [Nat.add_assoc, Nat.add_comm 1] at counts

end Counting

section Indexed

variable {mpi : Mpi} {desc : CDesc} {world : World} {count : Nat}
variable {handle inputDatatype arrayDatatype : Int} {object : TypeObject}

private theorem mpixTypeIov_ensures (iov : Cells Segment)
    (live : world.types.object handle = some object) :
    Run.Ensures (mpixTypeIov mpi handle iov (reportedSegments mpi object).length) world
      fun result final => final = world ∧ ∃ rest,
        result.2 = ((reportedSegments mpi object).map some ++ rest,
          some (reportedSegments mpi object).length) := by
  have taken : (mpi.typeIov object.layout).take (reportedSegments mpi object).length =
      reportedSegments mpi object := take_segmentsWithin _ _
  intro result final returned
  simp only [mpixTypeIov, live, taken] at returned
  split_ifs at returned with short
  cases returned
  exact ⟨rfl, _, rfl⟩

private theorem vapaaCreateMpixIov_ensures (live : world.types.object handle = some object) :
    Run.Ensures (vapaaCreateMpixIov mpi handle) world fun found final =>
      final.types = world.types ∧
        ∀ segments total, found = some (segments, total) →
          segments = reportedSegments mpi object := by
  rw [vapaaCreateMpixIov]
  cases mpi.iovSupport with
  | available =>
      have lengths : mpixTypeIovLen mpi handle intMax.toNat world =
          .returned ((mpi.errorClass .success, some ((reportedSegments mpi object).length,
            ((reportedSegments mpi object).map Segment.iovLen).sum)), world) := by
        simp only [mpixTypeIovLen, live, reportedSegments]
      refine Run.ensures_bind_of_returned lengths ?_
      refine (vapaaAssert_ensures mpi _ _).bind ?_
      rintro _ _ ⟨rfl, -⟩
      refine Run.ensures_bind_of_returned (Run.readSet_some _ _) ?_
      refine (vapaaAssert_ensures mpi _ _).bind ?_
      rintro _ _ ⟨rfl, -⟩
      refine (mpixTypeIov_ensures _ live).bind ?_
      rintro ⟨rc, iov, actual⟩ _ ⟨rfl, rest, same⟩
      cases same
      refine (vapaaAssert_ensures mpi _ _).bind ?_
      rintro _ _ ⟨rfl, -⟩
      refine Run.ensures_bind_of_returned (Run.readSet_some _ _) ?_
      rw [Cells.loadFirst_set_append]
      refine Run.ensures_bind_of_returned (Run.ofOutcome_returned _ _) (Run.ensures_pure ?_)
      refine ⟨rfl, ?_⟩
      rintro segments total found
      cases found
      rfl
  | mpichTooOld => exact Run.ensures_of_undefined rfl
  | notMpich =>
      refine Run.ensures_bind_of_returned (vapaaWarning_apply _) ?_
      exact Run.ensures_pure ⟨rfl, fun _ _ impossible => by cases impossible⟩

private theorem vapaaCfiGetTotalElements_same (dimensions : List Nat) (totalElems : Int) :
    Run.Ensures (vapaaCfiGetTotalElements desc dimensions totalElems) world
      fun _ final => final.types = world.types := by
  induction dimensions generalizing totalElems world with
  | nil => exact Run.ensures_pure rfl
  | cons i dimensions ih =>
      rw [vapaaCfiGetTotalElements_cons]
      have multiplied : Run.Ensures (ssizeResult (totalElems * (desc.record i).extent)) world
          fun _ final => final = world := by
        rw [ssizeResult]
        split_ifs
        · exact Run.ensures_pure rfl
        · exact Run.ensures_of_undefined rfl
      refine multiplied.bind ?_
      rintro product _ rfl
      exact ih product

private theorem vapaaCfiCreateElementAddresses_same :
    Run.Ensures (vapaaCfiCreateElementAddresses mpi desc) world
      fun _ final => final.types = world.types := by
  rw [vapaaCfiCreateElementAddresses, Builder.vapaaCfiCreateElementAddresses,
    vapaaCfiGetTotalElements_plain]
  simp only [plain_rounds, pure_bind]
  refine (vapaaCfiGetTotalElements_same _ _).bind ?_
  intro numElem middle sameTypes
  refine (vapaaAssert_ensures mpi _ _).bind ?_
  rintro _ _ ⟨rfl, -⟩
  refine (ensures_ofOutcome_same _).bind ?_
  rintro filling _ rfl
  exact Run.ensures_pure sameTypes

theorem Layout.size_hindexed (old : Layout) (blocks : List (Nat × Int)) :
    (old.hindexed blocks).size = (blocks.map Prod.fst).sum * old.size := by
  rw [Layout.hindexed, Layout.size_copies]
  simp [List.length_flatMap, Layout.block]

private theorem selectElements_counted {extent elemLen : Int} {segments : List Segment}
    {input : Cells Int} {start : Selection} {stored : Nat} (nonzero : elemLen ≠ 0)
    (counted : start.Counted stored) :
    Run.Ensures (Run.ofOutcome (selectElements input extent elemLen segments count start)) world
      fun final last =>
        final.Counted (stored + (visits (toSizeT elemLen) segments count).length) ∧
          last = world := by
  refine Run.ensures_ofOutcome fun final looped => ⟨?_, rfl⟩
  rw [selectElements_eq_foldlM nonzero (stepsFit_of_selectElements looped)] at looped
  have counts := counted.selectAll looped
  rwa [List.length_map] at counts

private theorem readSet_same {α : Type} (found : Option α) :
    Run.Ensures (Run.readSet found) world fun value final =>
      found = some value ∧ final = world :=
  Run.ensures_readSet fun _ same => ⟨same, rfl⟩

/-- The blocks that the loops stored are the blocks that the library copies. -/
theorem pmpiTypeCreateHindexed_size {stored : Nat} {lengths displacements : Cells Int}
    {element newtype : Int} (ones : ∃ rest, lengths = (List.replicate stored 1).map some ++ rest) :
    Run.Ensures (pmpiTypeCreateHindexed mpi stored lengths displacements element newtype) world
      fun result final => result.1 = mpi.errorClass .success →
        ∃ old created, world.types.object element = some old ∧
          final.types.object result.2 = some created ∧
          created.layout.size = stored * old.layout.size := by
  obtain ⟨rest, rfl⟩ := ones
  have loaded := Cells.loadFirst_set_append (List.replicate stored (1 : Int)) rest
  rw [List.length_replicate] at loaded
  rw [pmpiTypeCreateHindexed, if_neg (by omega), Int.toNat_natCast, loaded]
  refine Run.ensures_bind_of_returned (Run.ofOutcome_returned _ _) ?_
  have starts : Run.Ensures (Run.ofOutcome (Cells.loadFirst stored displacements)) world
      fun starts final => starts.length = stored ∧ final = world :=
    Run.ensures_ofOutcome fun starts loaded => ⟨Cells.length_of_loadFirst loaded, rfl⟩
  refine starts.bind ?_
  rintro starts world ⟨counted, rfl⟩
  split_ifs with negative
  · exact Run.ensures_pure fun succeeded => absurd succeeded (by simp)
  · intro result final returned succeeded
    cases live : world.types.object element with
    | none =>
        simp only [live] at returned
        cases returned
        exact absurd succeeded (by simp)
    | some old =>
        simp only [live, createType] at returned
        cases returned
        refine ⟨old, _, rfl, by simp; rfl, ?_⟩
        rw [Layout.size_hindexed, List.map_fst_zip (by simp [counted])]
        simp

/-- A created type has one element for each that the selection loops visit. -/
theorem vapaaCfiCreateIndexed_size (active : mpi.seatbelts = true)
    (live : world.types.object inputDatatype = some object)
    (nullDead : world.types.object (mpi.datatype .datatypeNull) = none) :
    Run.Ensures (vapaaCfiCreateIndexed mpi desc count inputDatatype arrayDatatype) world
      fun result final => result.1 = mpi.errorClass .success →
        ∃ element old created, mappedType mpi desc.type = some element ∧
          world.types.object element = some old ∧
          final.types.object result.2 = some created ∧
          created.layout.size =
            (visits (toSizeT (toInt desc.elemLen)) (reportedSegments mpi object) count).length *
              old.layout.size := by
  rw [vapaaCfiCreateIndexed, Builder.vapaaCfiCreateIndexed]
  cases mpi.iovSupport with
  | available =>
      simp only [plain_call, indexedArrays, bind_assoc]
      refine (vapaaCreateMpixIov_ensures live).bind ?_
      rintro found first ⟨sameTypes, reported⟩
      rw [← sameTypes] at live nullDead ⊢
      refine (vapaaAssert_ensures mpi _ _).bind ?_
      rintro _ first ⟨rfl, -⟩
      refine (readSet_same found).bind ?_
      rintro ⟨segments, total⟩ first ⟨rfl, rfl⟩
      obtain rfl := reported segments total rfl
      have extent : mpiTypeGetExtent mpi inputDatatype first =
          .returned ((mpi.errorClass .success, some (object.layout.lb, object.layout.extent)),
            first) := by
        simp only [mpiTypeGetExtent, live]
      refine Run.ensures_bind_of_returned extent ?_
      refine (vapaaAssert_ensures mpi _ _).bind ?_
      rintro _ first ⟨rfl, -⟩
      refine Run.ensures_bind_of_returned (Run.readSet_some _ _) ?_
      by_cases zero : toSizeT (toInt desc.elemLen) = 0
      · simp only [if_pos zero]
        exact Run.ensures_of_undefined rfl
      simp only [if_neg zero, bind_assoc, pure_bind]
      refine (vapaaAssert_ensures mpi _ _).bind ?_
      rintro _ first ⟨rfl, -⟩
      refine (vapaaAssert_ensures mpi _ _).bind ?_
      rintro _ first ⟨rfl, -⟩
      refine vapaaCfiCreateElementAddresses_same.bind ?_
      intro input second alsoSame
      rw [← alsoSame] at nullDead ⊢
      refine (selectElements_counted (mt toSizeT_toInt_eq_zero.mpr zero) ⟨rfl, _, rfl⟩).bind ?_
      rintro selection second ⟨⟨index_eq, ones⟩, rfl⟩
      rw [Nat.zero_add] at index_eq ones
      refine (vapaaAssert_ensures mpi _ _).bind ?_
      rintro _ second ⟨rfl, few | off⟩
      swap
      · rw [active] at off
        cases off
      have exactly : toInt selection.index = (visits (toSizeT (toInt desc.elemLen))
          (reportedSegments mpi object) count).length := by
        have bounded := of_decide_eq_true few
        rw [toInt_of_bounds (by omega) (by omega), index_eq]
      cases mapped : mappedType mpi desc.type with
      | none =>
          refine (vapaaCfiToMpiType_of_unmapped mapped).bind ?_
          rintro element third ⟨rfl, typesThird⟩
          rw [← typesThird] at nullDead
          refine (pmpiTypeCreateHindexed_refused nullDead).bind ?_
          rintro ⟨rc, handle⟩ third ⟨rfl, -, failed⟩
          refine (vapaaAssert_ensures mpi _ _).bind ?_
          rintro _ third ⟨rfl, succeeded | off⟩
          · exact absurd (of_decide_eq_true succeeded) failed
          · rw [active] at off
            cases off
      | some element =>
          refine Run.ensures_bind_of_returned (vapaaCfiToMpiType_of_mapped mapped second) ?_
          rw [exactly]
          refine (pmpiTypeCreateHindexed_size ones).bind ?_
          rintro ⟨rc, handle⟩ third sized
          refine (vapaaAssert_ensures mpi _ _).bind ?_
          rintro _ third ⟨rfl, succeeded | off⟩
          · refine Run.ensures_pure fun _ => ?_
            obtain ⟨old, created, alive, made, size⟩ := sized (of_decide_eq_true succeeded)
            exact ⟨element, old, created, rfl, alive, made, size⟩
          · rw [active] at off
            cases off
  | mpichTooOld => exact Run.ensures_of_undefined rfl
  | notMpich =>
      refine Run.ensures_bind_of_returned (vapaaWarning_apply _) ?_
      exact Run.ensures_pure fun succeeded => absurd succeeded (by simp)

end Indexed

section Sizes

variable {mpi : Mpi} {desc : CDesc} {world final : World} {count : Nat}
variable {handle inputDatatype arrayDatatype : Int} {input : TypeObject}

/-- The branch for named datatypes succeeds with `count * elem_len` bytes only. -/
theorem createFromNamed_size :
    Run.Ensures (createFromNamed unbounded mpi desc count inputDatatype arrayDatatype) world
      fun result final => result.1 = mpi.errorClass .success →
        ∃ created, final.types.object result.2 = some created ∧
          (created.layout.size : Int) = count * toInt desc.elemLen := by
  simp only [createFromNamed, countedElements, bind_assoc, pure_bind]
  refine Run.ensures_bind_of_all fun element first => ?_
  refine (countElements_ensures mpi desc first).bind ?_
  rintro counted second ⟨-, rfl | ⟨rc, rfl, failed⟩⟩
  swap
  · exact Run.ensures_pure fun succeeded => absurd succeeded failed
  simp only [createCounted]
  split_ifs
  · refine Run.ensures_bind_of_returned (vapaaWarning_apply _) ?_
    exact Run.ensures_pure fun succeeded => absurd succeeded (by simp)
  refine Run.ensures_bind_of_all fun result third => ?_
  split_ifs with failed
  · exact Run.ensures_pure fun succeeded => absurd succeeded failed
  rw [verifySize]
  cases live : third.types.object result.2 with
  | none =>
      exact (verifySize_of_dead live).mono fun _ _ impossible => impossible.elim
  | some created =>
      have size : pmpiTypeSize mpi result.2 third =
          .returned ((mpi.errorClass .success, some (created.layout.size : Int)), third) := by
        simp only [pmpiTypeSize, live]
      refine Run.ensures_bind_of_returned size ?_
      refine Run.ensures_bind_of_returned (Run.readSet_some _ _) ?_
      by_cases fits : -2147483648 ≤ count * toInt desc.elemLen ∧
          count * toInt desc.elemLen ≤ intMax
      · rw [intResult_of_bounds fits.1 fits.2]
        refine Run.ensures_bind_of_returned (Run.pure_apply _ _) ?_
        split_ifs with different
        · refine Run.ensures_bind_of_returned (vapaaWarning_apply _) ?_
          exact Run.ensures_pure fun succeeded => absurd succeeded (by simp)
        · exact Run.ensures_pure fun _ => ⟨created, live, not_ne_iff.mp different⟩
      · rw [intResult, if_neg fits]
        exact Run.ensures_bind_of_never (Run.ensures_of_undefined rfl)

/-- The created datatype has the size of `count` input datatypes. -/
def SizeConserved (types : TypeStore) (handle : Int) (count : Nat) (input : TypeObject) : Prop :=
  ∃ created, types.object handle = some created ∧
    created.layout.size = count * input.layout.size

/-- The elements of the section that stand for one input datatype have its size: one
element for a named datatype, and the whole elements within the reported segments of
a derived one. -/
def ElementsFill (mpi : Mpi) (types : TypeStore) (desc : CDesc) (input : TypeObject) : Prop :=
  match input.combiner with
  | .named => toInt desc.elemLen = input.layout.size
  | .derived => ∃ element old, mappedType mpi desc.type = some element ∧
      types.object element = some old ∧
        ((reportedSegments mpi input).map fun segment =>
          segment.iovLen / toSizeT (toInt desc.elemLen)).sum * old.layout.size = input.layout.size

/-- A successful build moves as many bytes as the contiguous path exactly when the
elements that it takes for one input datatype have the size of that datatype. -/
theorem vapaaCfiCreateDatatype_size_iff
    (inputLive : world.types.object inputDatatype = some input)
    (nullDead : world.types.object (mpi.datatype .datatypeNull) = none)
    (checked : input.combiner = .derived → mpi.seatbelts = true)
    (success : vapaaCfiCreateDatatype mpi desc count inputDatatype arrayDatatype world =
      .returned ((mpi.errorClass .success, handle), final)) :
    SizeConserved final.types handle count input ↔
      count = 0 ∨ ElementsFill mpi world.types desc input := by
  cases combiner : input.combiner with
  | named =>
      rw [vapaaCfiCreateDatatype_of_named arrayDatatype inputLive combiner] at success
      obtain ⟨created, live, size⟩ := createFromNamed_size _ final success rfl
      have conserved : SizeConserved final.types handle count input ↔
          (count : Int) * toInt desc.elemLen = count * input.layout.size := by
        constructor
        · rintro ⟨other, alive, exactly⟩
          rw [live] at alive
          cases alive
          rw [← size, exactly]
          push_cast
          rfl
        · intro exactly
          refine ⟨created, live, ?_⟩
          rw [exactly] at size
          exact_mod_cast size
      rw [conserved, ElementsFill, combiner]
      simp [or_comm]
  | derived =>
      rw [vapaaCfiCreateDatatype, Builder.vapaaCfiCreateDatatype, plain_call,
        Run.bind_of_returned (vapaaMpiDatatypeIsBuiltin_of_live inputLive)] at success
      simp only [combiner, reduceCtorEq, decide_false, Bool.false_eq_true, if_false,
        plain_call, Run.bind_eq_returned] at success
      obtain ⟨⟨rc, built⟩, middle, indexed, _, last, asserted, ended⟩ := success
      cases ended
      obtain ⟨rfl, succeeded | off⟩ := vapaaAssert_ensures mpi _ middle _ _ asserted
      swap
      · rw [checked combiner] at off
        cases off
      obtain ⟨element, old, created, mapped, live, made, size⟩ :=
        vapaaCfiCreateIndexed_size (checked combiner) inputLive nullDead _ _ indexed
          (of_decide_eq_true succeeded)
      rw [length_visits, Nat.mul_assoc] at size
      have conserved : SizeConserved final.types built count input ↔
          count * (((reportedSegments mpi input).map fun segment =>
            segment.iovLen / toSizeT (toInt desc.elemLen)).sum * old.layout.size) =
              count * input.layout.size := by
        constructor
        · rintro ⟨other, alive, exactly⟩
          rw [made] at alive
          cases alive
          rw [← size, exactly]
        · intro exactly
          exact ⟨created, made, size.trans exactly⟩
      have fills : ElementsFill mpi world.types desc input ↔
          ((reportedSegments mpi input).map fun segment =>
            segment.iovLen / toSizeT (toInt desc.elemLen)).sum * old.layout.size =
              input.layout.size := by
        rw [ElementsFill, combiner]
        constructor
        · rintro ⟨other, object, found, alive, exactly⟩
          rw [mapped] at found
          cases found
          rw [live] at alive
          cases alive
          exact exactly
        · intro exactly
          exact ⟨element, old, mapped, live, exactly⟩
      rw [conserved, fills, mul_eq_mul_left_iff, or_comm]

/-- Two integers of a section, sent as two bytes. -/
theorem vapaaCfiCreateDatatype_size_iff_bytes :
    ∃ handle final,
      vapaaCfiCreateDatatype mpich (integers 4096 2 8) 2 (Mpich.datatype .byte)
          (Mpich.datatype .datatypeNull) startWorld = .returned ((0, handle), final) ∧
        ¬ SizeConserved final.types handle 2 (Mpich.object .byte) := by
  have built : (vapaaCfiCreateDatatype mpich (integers 4096 2 8) 2 (Mpich.datatype .byte)
      (Mpich.datatype .datatypeNull) startWorld >>= fun result => .returned
        (result.1, (result.2.types.object result.1.2).map fun created => created.layout.size)) =
      .returned ((0, 2000000000), some 8) := by decide +kernel
  obtain ⟨⟨⟨rc, handle⟩, final⟩, success, same⟩ := Outcome.bind_eq_returned.mp built
  simp only [Outcome.returned.injEq, Prod.mk.injEq] at same
  obtain ⟨⟨rfl, rfl⟩, size⟩ := same
  refine ⟨_, final, success, ?_⟩
  rintro ⟨created, live, exactly⟩
  rw [live, Option.map_some, exactly] at size
  exact absurd size (by decide)

theorem vapaaCfiCreateDatatype_size_iff_integers :
    ∃ handle final,
      vapaaCfiCreateDatatype mpich (integers 4096 2 8) 2 (Mpich.datatype .integer)
          (Mpich.datatype .datatypeNull) startWorld = .returned ((0, handle), final) ∧
        SizeConserved final.types handle 2 (Mpich.object .integer) := by
  have built : (vapaaCfiCreateDatatype mpich (integers 4096 2 8) 2 (Mpich.datatype .integer)
      (Mpich.datatype .datatypeNull) startWorld >>= fun result => .returned result.1) =
      .returned (0, 2000000000) := by decide +kernel
  obtain ⟨⟨⟨rc, handle⟩, final⟩, success, same⟩ := Outcome.bind_eq_returned.mp built
  cases same
  have integer : startWorld.types.object (Mpich.datatype .integer) =
      some (Mpich.object .integer) := by decide
  exact ⟨_, final, success, (@vapaaCfiCreateDatatype_size_iff mpich _ _ _ 2 _ _ _ _ integer
    (by decide) (by decide) success).mpr (Or.inr (by
      change toInt 4 = ((Mpich.object .integer).layout.size : Int)
      decide))⟩

end Sizes

end Vapaa
