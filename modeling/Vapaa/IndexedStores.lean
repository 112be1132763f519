import Mathlib.Data.Nat.ModEq
import Vapaa.SectionBounds

/-!
# Stores of the indexed construction

`VAPAA_CFI_CREATE_INDEXED` sizes its arrays with one division of all bytes of the segments, and
stores one entry for each element that a division of every segment counts.
-/

set_option autoImplicit false

namespace Vapaa

open Foundation

section Loops

/-- What the selection loops read and compute on the way to their stores: the displacement of a
copy, and what is stored for an element. -/
structure SelectionReads where
  typeDisplacement : Nat → Outcome Int
  elementDisplacement : Int → Int → Nat → Outcome Int

/-- The reads from a vector of element addresses. -/
def vectorReads (input : Cells Int) (extent : Int) : SelectionReads where
  typeDisplacement j :=
    if -9223372036854775808 ≤ j * extent ∧ j * extent ≤ 9223372036854775807 then
      .returned (j * extent)
    else .undefined .overflow
  elementDisplacement typeDisplacement iovDisplacement k := do
    let address ← Cells.load input (toSizeT (k + iovDisplacement + typeDisplacement))
    let first ← Cells.load input 0
    return address - first

/-- One round of the innermost loop: a store into either array. -/
def storeElement (reads : SelectionReads) (typeDisplacement iovDisplacement : Int)
    (selection : Selection) (k : Nat) : Outcome Selection := do
  let arrayOfBlocklengths ← Cells.store selection.arrayOfBlocklengths selection.index 1
  let displacement ← reads.elementDisplacement typeDisplacement iovDisplacement k
  let arrayOfDisplacements ←
    Cells.store selection.arrayOfDisplacements selection.index displacement
  return {
    arrayOfBlocklengths := arrayOfBlocklengths
    arrayOfDisplacements := arrayOfDisplacements
    index := selection.index + 1 }

def storeSegment (reads : SelectionReads) (elemLen : Nat) (typeDisplacement : Int)
    (selection : Selection) (segment : Segment) : Outcome Selection :=
  (List.range (segment.iovLen / elemLen)).foldlM
    (storeElement reads typeDisplacement (segment.iovBase.tdiv elemLen)) selection

def storeCopy (reads : SelectionReads) (elemLen : Nat) (segments : List Segment)
    (selection : Selection) (j : Nat) : Outcome Selection := do
  let typeDisplacement ← reads.typeDisplacement j
  segments.foldlM (storeSegment reads elemLen typeDisplacement) selection

/-- The selection loops, whatever they read. -/
def storeElements (reads : SelectionReads) (elemLen : Nat) (segments : List Segment) (count : Nat)
    (start : Selection) : Outcome Selection :=
  (List.range count).foldlM (storeCopy reads elemLen segments) start

/-- With an address vector these are the loops of the construction. -/
theorem selectElements_eq_storeElements {elemLen : Nat} (positive : 0 < elemLen)
    (small : (elemLen : Int) ≤ intMax) (input : Cells Int) (extent : Int)
    (segments : List Segment) (count : Nat) (start : Selection) :
    selectElements input extent elemLen segments count start =
      storeElements (vectorReads input extent) elemLen segments count start := by
  have nonzero : (elemLen : Int) ≠ 0 := by omega
  have step : toSizeT elemLen = elemLen := by
    simp only [toSizeT, intMax] at *
    omega
  have round (typeDisplacement iovDisplacement : Int) :
      (fun selection (k : Nat) => selectElement input typeDisplacement iovDisplacement k selection) =
        storeElement (vectorReads input extent) typeDisplacement iovDisplacement := by
    funext selection k
    simp [selectElement, storeElement, vectorReads]
  rw [selectElements, storeElements, Int.toNat_natCast]
  congr 1
  funext selection j
  rw [storeCopy, vectorReads]
  dsimp only
  split_ifs
  · rw [Outcome.returned_bind]
    congr 1
    funext selection segment
    rw [storeSegment, step, round]
    rfl
  · rfl

end Loops

section Stores

variable {reads : SelectionReads} {α : Type}

/-- The outcome is that of a read, which ends the loops: whatever would follow, it stands. -/
def SelectionReads.Stops (reads : SelectionReads) (outcome : Outcome Selection) : Prop :=
  (∃ j, ∀ next, (reads.typeDisplacement j >>= next) = outcome) ∨
    ∃ typeDisplacement iovDisplacement k, ∀ next,
      (reads.elementDisplacement typeDisplacement iovDisplacement k >>= next) = outcome

theorem SelectionReads.Stops.bind {outcome : Outcome Selection} (stops : reads.Stops outcome)
    (rest : Selection → Outcome Selection) : reads.Stops (outcome >>= rest) := by
  rcases stops with ⟨j, ends⟩ | ⟨typeDisplacement, iovDisplacement, k, ends⟩
  · refine Or.inl ⟨j, fun next => ?_⟩
    rw [← ends fun value => .aborted, bind_assoc]
    have same := (ends next).trans (ends fun _ => .aborted).symm
    rw [same]
    cases read : reads.typeDisplacement j <;> rfl
  · refine Or.inr ⟨typeDisplacement, iovDisplacement, k, fun next => ?_⟩
    have same := (ends next).trans (ends fun _ => .aborted).symm
    rw [← ends fun value => .aborted, bind_assoc, same]
    cases read : reads.elementDisplacement typeDisplacement iovDisplacement k <;> rfl

theorem SelectionReads.Stops.ne_returned {outcome : Outcome Selection}
    (stops : reads.Stops outcome) (selection : Selection) : outcome ≠ .returned selection := by
  intro returned
  rcases stops with ⟨j, ends⟩ | ⟨typeDisplacement, iovDisplacement, k, ends⟩
  · have ended := (ends fun _ => .aborted).trans returned
    cases read : reads.typeDisplacement j <;> rw [read] at ended <;> cases ended
  · have ended := (ends fun _ => .aborted).trans returned
    cases read : reads.elementDisplacement typeDisplacement iovDisplacement k <;>
      rw [read] at ended <;> cases ended

/-- A part of the loops that stores a number of entries: from arrays with as many unset cells it
sets the next ones of both, unless a read stops it, and no store does. -/
def Stores (reads : SelectionReads) (part : Selection → Outcome Selection) (entries : Nat) :
    Prop :=
  ∀ (displacements : List Int) (lengths starts : Nat),
    (∃ more : List Int, more.length = entries ∧
      part (Selection.filled displacements (entries + lengths) (entries + starts)) =
        .returned (Selection.filled (displacements ++ more) lengths starts)) ∨
    reads.Stops (part (Selection.filled displacements (entries + lengths) (entries + starts)))

theorem Stores.foldlM {step : Selection → α → Outcome Selection} {entries : α → Nat}
    (each : ∀ value, Stores reads (fun selection => step selection value) (entries value))
    (list : List α) :
    Stores reads (fun selection => list.foldlM step selection) (list.map entries).sum := by
  induction list with
  | nil =>
      intro displacements lengths starts
      refine Or.inl ⟨[], rfl, ?_⟩
      simp
  | cons value list ih =>
      intro displacements lengths starts
      simp only [List.map_cons, List.sum_cons, List.foldlM_cons, Nat.add_assoc]
      rcases each value displacements ((list.map entries).sum + lengths)
        ((list.map entries).sum + starts) with ⟨first, firstStored, filled⟩ | stops
      · dsimp only at filled
        rw [filled, Outcome.returned_bind]
        rcases ih (displacements ++ first) lengths starts with ⟨rest, restStored, filled⟩ | stops
        · refine Or.inl ⟨first ++ rest, ?_, ?_⟩
          · rw [List.length_append, firstStored, restStored]
          · rw [← List.append_assoc]
            exact filled
        · exact Or.inr stops
      · exact Or.inr (stops.bind _)

private theorem storeElement_stores (typeDisplacement iovDisplacement : Int) (k : Nat) :
    Stores reads (fun selection => storeElement reads typeDisplacement iovDisplacement selection k)
      1 := by
  intro displacements lengths starts
  have next := Cells.store_next (List.replicate displacements.length (1 : Int)) 1 lengths
  rw [List.length_replicate] at next
  simp only [storeElement, Selection.filled, Nat.add_comm 1, next, Outcome.returned_bind]
  cases read : reads.elementDisplacement typeDisplacement iovDisplacement k with
  | returned displacement =>
      have placed := Cells.store_next displacements displacement starts
      refine Or.inl ⟨[displacement], rfl, ?_⟩
      simp only [Outcome.returned_bind, placed, Outcome.pure_eq, List.length_append,
        List.length_singleton, List.replicate_succ']
  | aborted => exact Or.inr (Or.inr ⟨typeDisplacement, iovDisplacement, k, fun _ => by rw [read]; rfl⟩)
  | undefined fault =>
      exact Or.inr (Or.inr ⟨typeDisplacement, iovDisplacement, k, fun _ => by rw [read]; rfl⟩)

private theorem storeSegment_stores (elemLen : Nat) (typeDisplacement : Int) (segment : Segment) :
    Stores reads (fun selection => storeSegment reads elemLen typeDisplacement selection segment)
      (segment.iovLen / elemLen) := by
  have stores := Stores.foldlM
    (@storeElement_stores reads typeDisplacement (segment.iovBase.tdiv elemLen))
    (List.range (segment.iovLen / elemLen))
  have counted : ((List.range (segment.iovLen / elemLen)).map fun _ => 1).sum =
      segment.iovLen / elemLen := by simp
  rw [counted] at stores
  exact stores

private theorem storeCopy_stores (elemLen : Nat) (segments : List Segment) (j : Nat) :
    Stores reads (fun selection => storeCopy reads elemLen segments selection j)
      (segments.map fun segment => segment.iovLen / elemLen).sum := by
  intro displacements lengths starts
  simp only [storeCopy]
  cases read : reads.typeDisplacement j with
  | returned typeDisplacement =>
      exact Stores.foldlM (@storeSegment_stores reads elemLen typeDisplacement) segments
        displacements lengths starts
  | aborted => exact Or.inr (Or.inl ⟨j, fun _ => by rw [read]; rfl⟩)
  | undefined fault => exact Or.inr (Or.inl ⟨j, fun _ => by rw [read]; rfl⟩)

/-- The loops store one entry for each element of each segment of each copy. -/
theorem storeElements_stores (elemLen : Nat) (segments : List Segment) (count : Nat) :
    Stores reads (storeElements reads elemLen segments count)
      (count * (segments.map fun segment => segment.iovLen / elemLen).sum) := by
  have stores := Stores.foldlM (@storeCopy_stores reads elemLen segments) (List.range count)
  have counted : ((List.range count).map fun _ =>
      (segments.map fun segment => segment.iovLen / elemLen).sum).sum =
        count * (segments.map fun segment => segment.iovLen / elemLen).sum := by simp
  rw [counted] at stores
  exact stores

end Stores

section Arrays

variable {mpi : Mpi} {desc : CDesc} {input : TypeObject} {world : World}
variable {inputDatatype arrayDatatype : Int} {elemLen count : Nat}

/-- No object that `malloc` gives has more bytes than `ptrdiff_t` can count. -/
def Mpi.ObjectsBounded (mpi : Mpi) : Prop :=
  ∀ bytes, mpi.allocates bytes = true → bytes ≤ 9223372036854775807

/-- There are assertions that notice when memory is missing, or there is memory for the segments
and for both arrays. -/
def MemoryChecked (mpi : Mpi) (desc : CDesc) (input : TypeObject) (count : Nat) : Prop :=
  mpi.seatbelts = true ∨
    mpi.allocates (toSizeT ((reportedSegments mpi input).length * 16)) = true ∧
      mpi.allocates (toSizeT (indexedElements mpi desc input count * 4)) = true ∧
      mpi.allocates (toSizeT (indexedElements mpi desc input count * 8)) = true

/-- Entries that the segments of all copies have. -/
def storedEntries (elemLen : Nat) (segments : List Segment) (count : Nat) : Nat :=
  count * (segments.map fun segment => segment.iovLen / elemLen).sum

/-- Entries that the arrays are meant to have room for. -/
def roomForEntries (elemLen : Nat) (segments : List Segment) (count : Nat) : Nat :=
  count * ((segments.map Segment.iovLen).sum / elemLen)

/-- A run of the indexed construction that reaches its loops: what the stages before them gave. -/
structure IndexedRun (mpi : Mpi) (desc : CDesc) (count : Nat) (inputDatatype : Int)
    (world : World) where
  segments : List Segment
  extent : Int
  lengths : Cells Int
  starts : Cells Int
  arranged : World
  vector : Cells Int
  addressed : World
  arrays : indexedArrays mpi desc count inputDatatype world =
    .returned ((segments, extent, lengths, starts), arranged)
  addresses : vapaaCfiCreateElementAddresses mpi desc arranged = .returned (vector, addressed)

/-- How the loops of the run end. -/
def IndexedRun.selected (run : IndexedRun mpi desc count inputDatatype world) : Outcome Selection :=
  selectElements run.vector run.extent (toInt desc.elemLen) run.segments count {
    arrayOfBlocklengths := run.lengths
    arrayOfDisplacements := run.starts
    index := 0 }

/-- The arrays have the room that they are meant to have, and the loops of the run, which set as
many entries of both as the segments have whatever they read, are only stopped by a read. -/
structure IndexedRun.StoresInside (run : IndexedRun mpi desc count inputDatatype world)
    (elemLen : Nat) : Prop where
  lengthsAllocated : run.lengths = Cells.fresh (roomForEntries elemLen run.segments count)
  startsAllocated : run.starts = Cells.fresh (roomForEntries elemLen run.segments count)
  within : storedEntries elemLen run.segments count ≤ roomForEntries elemLen run.segments count
  exactly : (∀ segment ∈ run.segments, elemLen ∣ segment.iovLen) →
    storedEntries elemLen run.segments count = roomForEntries elemLen run.segments count
  loops : run.selected = storeElements (vectorReads run.vector run.extent) elemLen run.segments
    count { arrayOfBlocklengths := run.lengths, arrayOfDisplacements := run.starts, index := 0 }
  stored : ∀ reads : SelectionReads,
    let outcome := storeElements reads elemLen run.segments count {
      arrayOfBlocklengths := run.lengths
      arrayOfDisplacements := run.starts
      index := 0 }
    (∃ displacements unset, displacements.length = storedEntries elemLen run.segments count ∧
      outcome = .returned (Selection.filled displacements unset unset)) ∨ reads.Stops outcome

/-- The datatype of the run is what the library makes of the arrays that its loops leave and of the
number of entries they stored, and these entries of both arrays are set. -/
structure IndexedRun.PassesStored (run : IndexedRun mpi desc count inputDatatype world)
    (elemLen : Nat) (arrayDatatype : Int) (selection : Selection) (result : Int × Int)
    (final : World) : Prop where
  selects : run.selected = .returned selection
  counted : selection.index = storedEntries elemLen run.segments count
  lengthsSet : Cells.loadFirst selection.index selection.arrayOfBlocklengths =
    .returned (List.replicate selection.index 1)
  startsSet : ∃ displacements,
    Cells.loadFirst selection.index selection.arrayOfDisplacements = .returned displacements
  passed : ∃ element typed rc,
    vapaaCfiToMpiType mpi desc.type run.addressed = .returned (element, typed) ∧
      pmpiTypeCreateHindexed mpi (toInt selection.index) selection.arrayOfBlocklengths
          selection.arrayOfDisplacements element arrayDatatype typed =
        .returned ((rc, result.2), final) ∧
      result.1 = mpi.errorClass .success ∧
      (mpi.seatbelts = true → rc = mpi.errorClass .success)

private theorem storedEntries_le (elemLen : Nat) (segments : List Segment) (count : Nat) :
    storedEntries elemLen segments count ≤ roomForEntries elemLen segments count :=
  Nat.mul_le_mul_left count (sum_div_le elemLen segments)

private theorem storedEntries_eq {segments : List Segment}
    (multiples : ∀ segment ∈ segments, elemLen ∣ segment.iovLen) :
    storedEntries elemLen segments count = roomForEntries elemLen segments count := by
  rw [storedEntries, roomForEntries]
  congr 1
  induction segments with
  | nil => simp
  | cons segment segments ih =>
      have whole := multiples segment (by simp)
      have rest := ih fun other member => multiples other (by simp [member])
      rw [List.map_cons, List.sum_cons, List.map_cons, List.sum_cons, rest,
        Nat.add_div_of_dvd_right whole]

private theorem stored_of_room {segments : List Segment} {room : Nat}
    (within : storedEntries elemLen segments count ≤ room) (reads : SelectionReads) :
    (∃ displacements unset, displacements.length = storedEntries elemLen segments count ∧
      storeElements reads elemLen segments count (Selection.filled [] room room) =
        .returned (Selection.filled displacements unset unset)) ∨
      reads.Stops (storeElements reads elemLen segments count (Selection.filled [] room room)) := by
  obtain ⟨unset, split⟩ := Nat.exists_eq_add_of_le within
  rw [split]
  rcases @storeElements_stores reads elemLen segments count [] unset unset with
    ⟨displacements, stored, filled⟩ | stops
  · exact Or.inl ⟨displacements, unset, stored, filled⟩
  · exact Or.inr stops

private theorem indexedElements_eq (converted : toInt desc.elemLen = elemLen) :
    indexedElements mpi desc input count =
      (roomForEntries elemLen (reportedSegments mpi input) count : Nat) := by
  have step : toSizeT (elemLen : Int) = elemLen := by
    simp only [toSizeT, toInt] at *
    omega
  rw [indexedElements, converted, step, roomForEntries, Nat.cast_mul]

/-- Memory that `malloc` gives for the lengths leaves no size of an array to wrap. -/
theorem rooms_of_allocated (bounded : mpi.ObjectsBounded) (counted : (count : Int) ≤ intMax)
    (converted : toInt desc.elemLen = elemLen)
    (lengths : mpi.allocates (toSizeT (indexedElements mpi desc input count * 4)) = true) :
    toSizeT (indexedElements mpi desc input count * 4) / 4 =
        roomForEntries elemLen (reportedSegments mpi input) count ∧
      toSizeT (indexedElements mpi desc input count * 8) / 8 =
        roomForEntries elemLen (reportedSegments mpi input) count := by
  have bytes := bounded _ lengths
  have limit : ((reportedSegments mpi input).map Segment.iovLen).sum ≤ 2147483647 :=
    sum_segmentsWithin_le intMax.toNat (mpi.typeIov input.layout)
  have most : roomForEntries elemLen (reportedSegments mpi input) count ≤
      2147483647 * 2147483647 := by
    refine Nat.mul_le_mul ?_ ((Nat.div_le_self _ _).trans limit)
    simp only [intMax] at counted
    omega
  rw [indexedElements_eq converted] at bytes ⊢
  generalize roomForEntries elemLen (reportedSegments mpi input) count = room at *
  simp only [toSizeT] at *
  omega

/-- Arrays that the construction gets have the room that they are meant to have. -/
theorem indexedArrays_room (bounded : mpi.ObjectsBounded)
    (counted : (count : Int) ≤ intMax) (converted : toInt desc.elemLen = elemLen)
    (positive : 1 ≤ elemLen) (available : mpi.iovSupport = .available)
    (memory : MemoryChecked mpi desc input count)
    (live : world.types.object inputDatatype = some input) :
    Run.Ensures (indexedArrays mpi desc count inputDatatype) world
      fun (segments, _, lengths, starts) _ => segments = reportedSegments mpi input ∧
        lengths = Cells.fresh (roomForEntries elemLen segments count) ∧
        starts = Cells.fresh (roomForEntries elemLen segments count) := by
  have inside (allocated : ArraysAllocated mpi desc input count) :
      Run.Ensures (indexedArrays mpi desc count inputDatatype) world
        fun (segments, _, lengths, starts) _ => segments = reportedSegments mpi input ∧
          lengths = Cells.fresh (roomForEntries elemLen segments count) ∧
          starts = Cells.fresh (roomForEntries elemLen segments count) := by
    obtain ⟨lengthsRoom, startsRoom⟩ :=
      rooms_of_allocated bounded counted converted allocated.lengths
    refine Run.ensures_of_returned (indexedArrays_of_allocated allocated live) ⟨rfl, ?_, ?_⟩
    · exact congrArg Cells.fresh lengthsRoom
    · exact congrArg Cells.fresh startsRoom
  cases memory with
  | inl active =>
      rcases indexedArrays_cases active available live with ⟨allocated, -⟩ | ⟨-, aborted⟩ |
        ⟨-, -, fault, faulty⟩
      · exact inside allocated
      · exact Run.ensures_of_aborted aborted
      · exact Run.ensures_of_undefined faulty
  | inr given =>
      obtain ⟨segments, lengths, starts⟩ := given
      rcases vapaaCreateMpixIov_cases available segments live with ⟨room, -⟩ | ⟨-, faulty⟩
      · have divides : toInt desc.elemLen ≠ 0 := by omega
        exact inside ⟨available, segments, room, divides, lengths, starts⟩
      · exact Run.ensures_of_undefined (by
          rw [indexedArrays, Run.bind_apply, faulty, Outcome.undefined_bind])

private theorem small_of_converted (converted : toInt desc.elemLen = elemLen) :
    (elemLen : Int) ≤ intMax := by
  rw [← converted]
  simp only [toInt, intMax]
  omega

theorem IndexedRun.storesInside (run : IndexedRun mpi desc count inputDatatype world)
    (converted : toInt desc.elemLen = elemLen) (positive : 1 ≤ elemLen)
    (lengths : run.lengths = Cells.fresh (roomForEntries elemLen run.segments count))
    (starts : run.starts = Cells.fresh (roomForEntries elemLen run.segments count)) :
    run.StoresInside elemLen where
  lengthsAllocated := lengths
  startsAllocated := starts
  within := storedEntries_le elemLen run.segments count
  exactly := storedEntries_eq
  loops := by
    rw [IndexedRun.selected, converted,
      selectElements_eq_storeElements positive (small_of_converted converted)]
  stored := by
    rw [lengths, starts]
    exact stored_of_room (storedEntries_le elemLen run.segments count)

/-- Loops that end have set as many entries as the segments have. -/
theorem IndexedRun.StoresInside.filled {run : IndexedRun mpi desc count inputDatatype world}
    (inside : run.StoresInside elemLen) {selection : Selection}
    (selected : run.selected = .returned selection) :
    ∃ displacements unset, displacements.length = storedEntries elemLen run.segments count ∧
      selection = Selection.filled displacements unset unset := by
  have loops := inside.loops
  rcases inside.stored (vectorReads run.vector run.extent) with
    ⟨displacements, unset, stored, filled⟩ | stops
  · rw [selected, filled] at loops
    cases loops
    exact ⟨displacements, unset, stored, rfl⟩
  · exact absurd (loops.symm.trans selected) (stops.ne_returned selection)

/-- The indexed construction stores inside its arrays, and passes on entries that are all set: of
every run that reaches the loops, and of every run that returns. -/
theorem createIndexed_storesInside (bounded : mpi.ObjectsBounded)
    (counted : (count : Int) ≤ intMax) (converted : toInt desc.elemLen = elemLen)
    (positive : 1 ≤ elemLen) (available : mpi.iovSupport = .available)
    (memory : MemoryChecked mpi desc input count)
    (live : world.types.object inputDatatype = some input) :
    (∀ run : IndexedRun mpi desc count inputDatatype world,
      run.segments = reportedSegments mpi input ∧ run.StoresInside elemLen ∧
        ∀ fault, run.selected = .undefined fault →
          vapaaCfiCreateIndexed mpi desc count inputDatatype arrayDatatype world =
            .undefined fault) ∧
    Run.Ensures (vapaaCfiCreateIndexed mpi desc count inputDatatype arrayDatatype) world
      fun result final => ∃ (run : IndexedRun mpi desc count inputDatatype world) (selection : Selection),
        run.PassesStored elemLen arrayDatatype selection result final := by
  have rooms := indexedArrays_room bounded counted converted positive available memory live
  have stages := vapaaCfiCreateIndexed_eq_bind mpi desc inputDatatype arrayDatatype available
    fun value => (rfl : toSizeT (count * value) = toSizeT (count * value))
  have inside (run : IndexedRun mpi desc count inputDatatype world) :
      run.segments = reportedSegments mpi input ∧ run.StoresInside elemLen := by
    obtain ⟨segments, lengths, starts⟩ := rooms _ _ run.arrays
    exact ⟨segments, run.storesInside converted positive lengths starts⟩
  refine ⟨fun run => ⟨(inside run).1, (inside run).2, fun fault stopped => ?_⟩, ?_⟩
  · rw [IndexedRun.selected] at stopped
    rw [stages, Run.bind_of_returned run.arrays]
    dsimp only
    rw [Run.bind_of_returned run.addresses, Run.bind_apply, stopped]
    rfl
  · rw [stages]
    intro result final returned
    obtain ⟨⟨segments, extent, lengths, starts⟩, arranged, arrays, rest⟩ :=
      Run.bind_eq_returned.mp returned
    obtain ⟨vector, addressed, addresses, rest⟩ := Run.bind_eq_returned.mp rest
    let run : IndexedRun mpi desc count inputDatatype world :=
      { segments, extent, lengths, starts, arranged, vector, addressed, arrays, addresses }
    obtain ⟨selection, selectedIn, selecting, rest⟩ := Run.bind_eq_returned.mp rest
    obtain ⟨_, selects, same⟩ := Outcome.bind_eq_returned.mp selecting
    cases same
    obtain ⟨_, checked, checking, passing⟩ := Run.bind_eq_returned.mp rest
    obtain ⟨element, typed, types, creating⟩ := Run.bind_eq_returned.mp passing
    obtain ⟨⟨rc, handle⟩, created, creates, ending⟩ := Run.bind_eq_returned.mp creating
    obtain ⟨_, asserted, asserting, ended⟩ := Run.bind_eq_returned.mp ending
    cases ended
    obtain ⟨rfl, -⟩ := vapaaAssert_ensures mpi _ _ _ _ checking
    obtain ⟨rfl, succeeds⟩ := vapaaAssert_ensures mpi _ _ _ _ asserting
    have selected : run.selected = .returned selection := selects
    obtain ⟨displacements, unset, stored, filled⟩ := (inside run).2.filled selected
    refine ⟨run, selection, selected, ?_, ?_, ?_, element, typed, rc, types, creates, rfl, ?_⟩
    · rw [filled]
      exact stored
    · rw [filled]
      have set := Cells.loadFirst_set_append (List.replicate displacements.length (1 : Int))
        (Cells.fresh unset)
      rwa [List.length_replicate] at set
    · rw [filled]
      exact ⟨displacements, Cells.loadFirst_set_append displacements (Cells.fresh unset)⟩
    · intro active
      rcases succeeds with success | inactive
      · exact of_decide_eq_true success
      · rw [active] at inactive
        cases inactive

/-- MPICH with a `malloc` that gives no more than `ptrdiff_t` can count. -/
def boundedMpich : Mpi :=
  { mpich with allocates := fun bytes => decide (bytes ≤ 9223372036854775807) }

theorem createIndexed_storesInside_two :
    (∀ run : IndexedRun boundedMpich spacedColumn 2 2000000000 paddedWorld,
      run.segments = reportedSegments boundedMpich paddedInteger ∧ run.StoresInside 4 ∧
        ∀ fault, run.selected = .undefined fault →
          vapaaCfiCreateIndexed boundedMpich spacedColumn (2 : Nat) 2000000000 201326592
            paddedWorld = .undefined fault) ∧
    Run.Ensures (vapaaCfiCreateIndexed boundedMpich spacedColumn (2 : Nat) 2000000000 201326592)
      paddedWorld fun result final =>
        ∃ (run : IndexedRun boundedMpich spacedColumn 2 2000000000 paddedWorld) (selection : Selection),
          run.PassesStored 4 201326592 selection result final :=
  createIndexed_storesInside (fun _ => of_decide_eq_true) (by decide) (by decide) (by decide) rfl
    (Or.inl rfl) (by decide)

end Arrays

end Vapaa
