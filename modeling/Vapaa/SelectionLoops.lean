import Vapaa.BuilderLoops
import Mathlib.Algebra.Order.BigOperators.Group.List
import Mathlib.Algebra.Order.Ring.Nat

/-! The vector of element addresses, the segments of a derived datatype, and the
loops that look up the elements of the segments in the vector. -/

set_option autoImplicit false

namespace Vapaa

open Foundation Builder

section Selecting

/-- Copy, segment and element within the segment that one round is about. -/
abbrev Visit := Nat × Segment × Nat

def visits (step : Nat) (segments : List Segment) (count : Nat) : List Visit :=
  (List.range count).flatMap fun j => segments.flatMap fun segment =>
    (List.range (segment.iovLen / step)).map fun k => (j, segment, k)

/-- Element number that the loops compute: the displacement of the copy stays in bytes. -/
def selectedOffset (extent elemLen : Int) (visit : Visit) : Nat :=
  toSizeT (visit.2.2 + visit.2.1.iovBase.tdiv elemLen + visit.1 * extent)

/-- Element number that the copy selects from the section packed contiguously. -/
def packedOffset (extent elemLen : Int) (visit : Visit) : Int :=
  (visit.2.1.iovBase + visit.1 * extent) / elemLen + visit.2.2

/-- Copies whose displacement in bytes `ptrdiff_t` can hold. -/
def StepsFit (extent : Int) (count : Nat) : Prop :=
  ∀ j : Nat, j < count →
    -9223372036854775808 ≤ j * extent ∧ j * extent ≤ 9223372036854775807

instance (extent : Int) (count : Nat) : Decidable (StepsFit extent count) :=
  inferInstanceAs (Decidable (∀ j : Nat, j < count → _))

/-- One round of the innermost loop, as a function of the element number. -/
def selectOffset (input : Cells Int) (selection : Selection) (offset : Nat) :
    Outcome Selection := do
  let arrayOfBlocklengths ← Cells.store selection.arrayOfBlocklengths selection.index 1
  let address ← Cells.load input offset
  let first ← Cells.load input 0
  let arrayOfDisplacements ←
    Cells.store selection.arrayOfDisplacements selection.index (address - first)
  return {
    arrayOfBlocklengths := arrayOfBlocklengths
    arrayOfDisplacements := arrayOfDisplacements
    index := selection.index + 1 }

private theorem foldlM_flatMap {σ α β : Type} (step : σ → β → Outcome σ) (inner : α → List β)
    (list : List α) (state : σ) :
    (list.flatMap inner).foldlM step state =
      list.foldlM (fun state value => (inner value).foldlM step state) state := by
  induction list generalizing state with
  | nil => simp
  | cons value list ih =>
      rw [List.flatMap_cons, List.foldlM_append, List.foldlM_cons]
      exact bind_congr fun middle => ih middle

private theorem foldlM_congr {σ α : Type} {first second : σ → α → Outcome σ} {list : List α}
    (same : ∀ value ∈ list, ∀ state, first state value = second state value) (state : σ) :
    list.foldlM first state = list.foldlM second state := by
  induction list generalizing state with
  | nil => rfl
  | cons value list ih =>
      rw [List.foldlM_cons, List.foldlM_cons, same value (by simp) state]
      exact bind_congr fun middle => ih (fun later member => same later (by simp [member])) middle

private theorem foldlM_step_returned {σ α : Type} {step : σ → α → Outcome σ} {list : List α}
    {start final : σ} (result : list.foldlM step start = .returned final) :
    ∀ value ∈ list, ∃ before after, step before value = .returned after := by
  induction list generalizing start with
  | nil => simp
  | cons value list ih =>
      rw [List.foldlM_cons, Outcome.bind_eq_returned] at result
      obtain ⟨middle, first, rest⟩ := result
      intro visited member
      obtain rfl | later := List.mem_cons.mp member
      · exact ⟨start, middle, first⟩
      · exact ih rest visited later

/-- The three nested loops are one loop over what they visit. -/
theorem selectElements_eq_foldlM {extent elemLen : Int} {count : Nat} (nonzero : elemLen ≠ 0)
    (steps : StepsFit extent count) (input : Cells Int) (segments : List Segment)
    (start : Selection) :
    selectElements input extent elemLen segments count start =
      ((visits (toSizeT elemLen) segments count).map (selectedOffset extent elemLen)).foldlM
        (selectOffset input) start := by
  simp only [selectElements, visits, Int.toNat_natCast, foldlM_flatMap, List.foldlM_map,
    if_neg nonzero]
  apply foldlM_congr
  intro j member state
  rw [if_pos (steps j (List.mem_range.mp member))]
  rfl

theorem stepsFit_of_selectElements {extent elemLen : Int} {count : Nat} {input : Cells Int}
    {segments : List Segment} {start final : Selection}
    (result : selectElements input extent elemLen segments count start = .returned final) :
    StepsFit extent count := by
  intro j below
  rw [selectElements, Int.toNat_natCast] at result
  obtain ⟨before, after, round⟩ := foldlM_step_returned result j (List.mem_range.mpr below)
  by_contra outside
  rw [if_neg outside] at round
  cases round

/-- A selection that has stored these displacements. -/
def Selection.holding (displacements : List Int) (room : Nat) : Selection where
  arrayOfBlocklengths :=
    (List.replicate displacements.length 1).map some ++ Cells.fresh room
  arrayOfDisplacements := displacements.map some ++ Cells.fresh room
  index := displacements.length

/-- The same with room of its own in each array. -/
def Selection.filled (displacements : List Int) (lengths starts : Nat) : Selection where
  arrayOfBlocklengths :=
    (List.replicate displacements.length 1).map some ++ Cells.fresh lengths
  arrayOfDisplacements := displacements.map some ++ Cells.fresh starts
  index := displacements.length

private theorem selectOffset_filled {input : Cells Int} {offset : Nat} {address first : Int}
    (displacements : List Int) (lengths starts : Nat)
    (found : Cells.load input offset = .returned address)
    (start : Cells.load input 0 = .returned first) :
    selectOffset input (Selection.filled displacements (lengths + 1) (starts + 1)) offset =
      .returned (Selection.filled (displacements ++ [address - first]) lengths starts) := by
  have next := Cells.store_next (List.replicate displacements.length (1 : Int)) 1 lengths
  rw [List.length_replicate] at next
  have placed := Cells.store_next displacements (address - first) starts
  simp only [selectOffset, Selection.filled, next, placed, found, start,
    Outcome.returned_bind, Outcome.pure_eq, List.length_append, List.length_singleton,
    List.replicate_succ']

/-- A round that returns has loaded two addresses and had room in both arrays. -/
theorem selectOffset_filled_returned {input : Cells Int} {offset lengths starts : Nat}
    {displacements : List Int} {after : Selection}
    (returned : selectOffset input (Selection.filled displacements lengths starts) offset =
      .returned after) :
    ∃ address first moreLengths moreStarts, lengths = moreLengths + 1 ∧ starts = moreStarts + 1 ∧
      Cells.load input offset = .returned address ∧
        after = Selection.filled (displacements ++ [address - first]) moreLengths moreStarts := by
  obtain ⟨_, stored, loading⟩ := Outcome.bind_eq_returned.mp returned
  obtain ⟨address, found, rest⟩ := Outcome.bind_eq_returned.mp loading
  obtain ⟨first, start, storing⟩ := Outcome.bind_eq_returned.mp rest
  obtain ⟨_, placed, -⟩ := Outcome.bind_eq_returned.mp storing
  cases lengths with
  | zero => simp [Selection.filled, Cells.store, Cells.fresh] at stored
  | succ lengths =>
      cases starts with
      | zero => simp [Selection.filled, Cells.store, Cells.fresh] at placed
      | succ starts =>
          rw [selectOffset_filled displacements lengths starts found start] at returned
          cases returned
          exact ⟨address, first, lengths, starts, rfl, rfl, found, rfl⟩

theorem foldlM_selectOffset_filled {input : Cells Int} {first : Int} {offsets : List Nat}
    {addresses : List Int} (start : offsets ≠ [] → Cells.load input 0 = .returned first)
    (found : List.Forall₂ (fun offset address => Cells.load input offset = .returned address)
      offsets addresses) (displacements : List Int) (lengths starts : Nat) :
    offsets.foldlM (selectOffset input)
        (Selection.filled displacements (offsets.length + lengths) (offsets.length + starts)) =
      .returned (Selection.filled
        (displacements ++ addresses.map fun address => address - first) lengths starts) := by
  induction found generalizing displacements with
  | nil => simp
  | cons loaded _ ih =>
      have loadable := start (by simp)
      rw [List.foldlM_cons, List.length_cons, Nat.succ_add, Nat.succ_add,
        selectOffset_filled displacements _ _ loaded loadable, Outcome.returned_bind,
        ih fun _ => loadable]
      simp

/-- Loops that return have had room for every element in both arrays. -/
theorem room_of_foldlM_selectOffset {input : Cells Int} {offsets : List Nat}
    {displacements : List Int} {lengths starts : Nat} {final : Selection}
    (result : offsets.foldlM (selectOffset input)
      (Selection.filled displacements lengths starts) = .returned final) :
    offsets.length ≤ lengths ∧ offsets.length ≤ starts := by
  induction offsets generalizing displacements lengths starts with
  | nil => simp
  | cons offset offsets ih =>
      rw [List.foldlM_cons] at result
      obtain ⟨middle, round, rest⟩ := Outcome.bind_eq_returned.mp result
      obtain ⟨address, first, lengths, starts, rfl, rfl, -, rfl⟩ :=
        selectOffset_filled_returned round
      obtain ⟨lengthsFit, startsFit⟩ := ih rest
      simp only [List.length_cons]
      omega

theorem selectElements_ne_aborted (input : Cells Int) (extent elemLen : Int)
    (segments : List Segment) (count : Int) (start : Selection) :
    selectElements input extent elemLen segments count start ≠ .aborted := by
  have stores {α : Type} (cells : Cells α) (index : Nat) (value : α) :
      Cells.store cells index value ≠ .aborted := by
    rw [Cells.store]
    split_ifs <;> simp
  have loads {α : Type} (cells : Cells α) (index : Nat) : Cells.load cells index ≠ .aborted := by
    rw [Cells.load]
    split <;> simp
  apply Outcome.foldlM_ne_aborted
  intro selection j
  dsimp only
  split_ifs
  · apply Outcome.foldlM_ne_aborted
    intro selection segment returned
    cases returned
  · apply Outcome.foldlM_ne_aborted
    intro selection segment
    apply Outcome.foldlM_ne_aborted
    intro selection k
    refine Outcome.bind_ne_aborted (stores _ _ _) fun lengths => ?_
    refine Outcome.bind_ne_aborted (loads _ _) fun address => ?_
    refine Outcome.bind_ne_aborted (loads _ _) fun first => ?_
    refine Outcome.bind_ne_aborted (stores _ _ _) fun starts returned => ?_
    cases returned
  · intro undefined
    cases undefined

theorem loads_of_foldlM_selectOffset {input : Cells Int} {offsets : List Nat}
    {start final : Selection}
    (result : offsets.foldlM (selectOffset input) start = .returned final) :
    ∀ offset ∈ offsets, ∃ address, Cells.load input offset = .returned address := by
  intro offset member
  obtain ⟨before, after, round⟩ := foldlM_step_returned result offset member
  rw [selectOffset, Outcome.bind_eq_returned] at round
  obtain ⟨_, _, loading⟩ := round
  rw [Outcome.bind_eq_returned] at loading
  obtain ⟨address, loaded, _⟩ := loading
  exact ⟨address, loaded⟩

end Selecting

section Addresses

variable {mpi : Mpi} {desc : CDesc}

/-- Products of leading extents that `ssize_t` can hold. -/
def CDesc.SsizeElements (desc : CDesc) : Prop :=
  ∀ k, k < desc.rank → desc.leadingElements (k + 1) ≤ 9223372036854775807

instance (desc : CDesc) : Decidable desc.SsizeElements :=
  inferInstanceAs (Decidable (∀ k, k < desc.rank → _))

theorem CDesc.Sized.leadingElements_nonneg (sized : desc.Sized) {k : Nat}
    (inside : k ≤ desc.rank) : 0 ≤ desc.leadingElements k := by
  rw [sized.leadingElements_eq inside]
  omega

theorem vapaaCfiGetTotalElements_cases (sized : desc.Sized) {k m : Nat}
    (covered : k + m = desc.rank) (world : World) :
    (∃ final, vapaaCfiGetTotalElements desc (List.range' k m) (desc.leadingElements k) world =
        .returned (desc.leadingElements desc.rank, final) ∧
      final.types = world.types ∧
      ∀ i, k ≤ i → i < desc.rank → desc.leadingElements (i + 1) ≤ 9223372036854775807) ∨
    (vapaaCfiGetTotalElements desc (List.range' k m) (desc.leadingElements k) world =
        .undefined .overflow ∧
      ¬ desc.SsizeElements) := by
  induction m generalizing k world with
  | zero =>
      have atEnd : k = desc.rank := by omega
      subst atEnd
      refine Or.inl ⟨world, rfl, rfl, ?_⟩
      intro i above below
      omega
  | succ m ih =>
      have inside : k < desc.rank := by omega
      have next := desc.leadingElements_succ k
      have nonneg := sized.leadingElements_nonneg (k := k + 1) inside
      simp only [List.range'_succ, vapaaCfiGetTotalElements_cons, Run.bind_apply, ← next]
      by_cases fits : desc.leadingElements (k + 1) ≤ 9223372036854775807
      · rw [ssizeResult_of_bounds (by omega) fits]
        simp only [Run.pure_apply, Outcome.returned_bind]
        obtain ⟨final, result, sameTypes, within⟩ | overflowed := @ih (k + 1) (by omega)
          world
        · refine Or.inl ⟨final, result, sameTypes, ?_⟩
          intro i above below
          by_cases here : i = k
          · subst here
            exact fits
          · exact within i (by omega) below
        · exact Or.inr overflowed
      · have outside : ¬ (-9223372036854775808 ≤ desc.leadingElements (k + 1) ∧
            desc.leadingElements (k + 1) ≤ 9223372036854775807) := fun bounds => fits bounds.2
        refine Or.inr ⟨?_, fun within => fits (within k inside)⟩
        simp only [ssizeResult, if_neg outside, Run.undefined_apply, Outcome.undefined_bind]

/-- The addresses that the builder lists, the elements being numbered by extents
converted to `int`. -/
def CDesc.listed (desc : CDesc) : List Int :=
  (List.range desc.convertedShape.prod).map fun n =>
    desc.baseAddr + MixedRadix.dot desc.strides (MixedRadix.digits desc.convertedShape n)

theorem toInt_le {value : Int} (nonneg : 0 ≤ value) : toInt value ≤ value := by
  simp only [toInt]
  omega

/-- The address vector has a cell for each listed address. -/
structure CDesc.AddressesFit (desc : CDesc) : Prop where
  numbered : desc.SsizeElements
  room : desc.listed.length ≤ toSizeT (desc.elements * 8) / 8

theorem vapaaCfiCreateElementAddresses_cases (sized : desc.Sized)
    (allocates : mpi.allocates (toSizeT (desc.elements * 8)) = true) (world : World) :
    desc.AddressesFit ∧
      (∃ unset final, vapaaCfiCreateElementAddresses mpi desc world =
          .returned (desc.listed.map some ++ Cells.fresh unset, final) ∧
        final.types = world.types) ∨
    ¬ desc.AddressesFit ∧
      ∃ fault, vapaaCfiCreateElementAddresses mpi desc world = .undefined fault := by
  have whole : List.range desc.rank = List.range' 0 desc.rank := List.range_eq_range'
  obtain ⟨final, counting, sameTypes, within⟩ | ⟨counting, large⟩ :=
    vapaaCfiGetTotalElements_cases sized (Nat.zero_add desc.rank) world
  · rw [desc.leadingElements_zero, sized.leadingElements_rank] at counting
    have cells : malloc mpi (toSizeT (desc.elements * 8)) 8 =
        some (Cells.fresh (toSizeT (desc.elements * 8) / 8) : Cells Int) := by
      rw [malloc, if_pos allocates]
    have pushed (state : Filling) :
        loops15d unbounded desc (extents15d unbounded desc)
            (pushAddress unbounded desc.baseAddr) state =
          iterate Filling.push desc.listed state := by
      rw [loops15d_eq_iterate_converted, CDesc.listed, iterate_map, iterate_map]
      rfl
    have started (size : Nat) : ({ cells := Cells.fresh size, offset := 0 } : Filling) =
        Filling.holding [] size := rfl
    have numbered : desc.SsizeElements := fun k inside => within k (Nat.zero_le k) inside
    rw [vapaaCfiCreateElementAddresses, Builder.vapaaCfiCreateElementAddresses,
      vapaaCfiGetTotalElements_plain, whole, Run.bind_of_returned counting, cells]
    simp only [plain_call, plain_rounds, Option.isSome_some, vapaaAssert_true, Run.bind_apply,
      Run.pure_apply, Outcome.returned_bind, Option.getD_some, pushed, started]
    by_cases room : desc.listed.length ≤ toSizeT (desc.elements * 8) / 8
    · obtain ⟨unset, split⟩ := Nat.exists_eq_add_of_le room
      refine Or.inl ⟨⟨numbered, room⟩, unset, final, ?_, sameTypes⟩
      rw [split, Filling.pushAll_holding [] desc.listed, Flow.land_next,
        Run.ofOutcome_returned]
      rfl
    · refine Or.inr ⟨fun fit => room fit.room, .outOfBounds, ?_⟩
      rw [Filling.pushAll_overrun [] (not_le.mp room), Flow.land_undefined,
        Run.ofOutcome_undefined, Outcome.undefined_bind]
  · rw [desc.leadingElements_zero] at counting
    refine Or.inr ⟨fun fit => large fit.numbered, .overflow, ?_⟩
    rw [vapaaCfiCreateElementAddresses, Builder.vapaaCfiCreateElementAddresses,
      vapaaCfiGetTotalElements_plain, whole, Run.bind_apply, counting, Outcome.undefined_bind]

end Addresses

section Segments

variable {mpi : Mpi} {world : World}

theorem segmentsWithin_of_le {limit : Nat} {segments : List Segment}
    (within : (segments.map Segment.iovLen).sum ≤ limit) :
    segmentsWithin limit segments = segments := by
  induction segments generalizing limit with
  | nil => rfl
  | cons segment segments ih =>
      simp only [List.map_cons, List.sum_cons] at within
      rw [segmentsWithin, if_pos (by omega), ih (by omega)]

/-- Segments are dropped from the end, and only when their bytes exceed the limit. -/
theorem segmentsWithin_prefix (limit : Nat) (segments : List Segment) :
    ∃ dropped, segments = segmentsWithin limit segments ++ dropped ∧
      (limit < (segments.map Segment.iovLen).sum →
        ∃ segment ∈ dropped, 0 < segment.iovLen) := by
  induction segments generalizing limit with
  | nil => exact ⟨[], rfl, by simp⟩
  | cons segment segments ih =>
      by_cases fits : segment.iovLen ≤ limit
      · obtain ⟨dropped, split, lost⟩ := ih (limit - segment.iovLen)
        refine ⟨dropped, ?_, ?_⟩
        · rw [segmentsWithin, if_pos fits, List.cons_append, ← split]
        · intro exceeds
          simp only [List.map_cons, List.sum_cons] at exceeds
          exact lost (by omega)
      · refine ⟨segment :: segments, ?_, fun _ => ⟨segment, by simp, by omega⟩⟩
        rw [segmentsWithin, if_neg fits, List.nil_append]

theorem take_segmentsWithin (limit : Nat) (segments : List Segment) :
    segments.take (segmentsWithin limit segments).length = segmentsWithin limit segments := by
  obtain ⟨dropped, split, -⟩ := segmentsWithin_prefix limit segments
  calc segments.take (segmentsWithin limit segments).length
      = (segmentsWithin limit segments ++ dropped).take
          (segmentsWithin limit segments).length := congrArg _ split
    _ = segmentsWithin limit segments := List.take_left

theorem sum_segmentsWithin_le (limit : Nat) (segments : List Segment) :
    ((segmentsWithin limit segments).map Segment.iovLen).sum ≤ limit := by
  induction segments generalizing limit with
  | nil => simp [segmentsWithin]
  | cons segment segments ih =>
      rw [segmentsWithin]
      split_ifs with fits
      · have rest := ih (limit - segment.iovLen)
        rw [List.map_cons, List.sum_cons]
        omega
      · simp

/-- The segments that the library reports, of at most `INT_MAX` bytes together. -/
def reportedSegments (mpi : Mpi) (object : TypeObject) : List Segment :=
  segmentsWithin intMax.toNat (mpi.typeIov object.layout)

/-- Where the array can be allocated, the library fills it. -/
theorem vapaaCreateMpixIov_of_allocates {handle : Int} {object : TypeObject}
    (available : mpi.iovSupport = .available)
    (allocates : mpi.allocates (toSizeT ((reportedSegments mpi object).length * 16)) = true)
    (live : world.types.object handle = some object) :
    vapaaCreateMpixIov mpi handle world =
      (do
        let (rc, iov, actualIovLen) ← mpixTypeIov mpi handle
          (Cells.fresh (toSizeT ((reportedSegments mpi object).length * 16) / 16))
          (reportedSegments mpi object).length
        vapaaAssert mpi (rc = mpi.errorClass .success)
        let actualIovLen ← Run.readSet actualIovLen
        let segments ← Run.ofOutcome (Cells.loadFirst actualIovLen iov)
        return some (segments, ((reportedSegments mpi object).map Segment.iovLen).sum) :
          Call (Option (List Segment × Nat))) world := by
  have cells : malloc mpi (toSizeT ((reportedSegments mpi object).length * 16)) 16 =
      some (Cells.fresh (toSizeT ((reportedSegments mpi object).length * 16) / 16) :
        Cells Segment) := by
    rw [malloc, if_pos allocates]
  rw [reportedSegments] at cells ⊢
  simp only [vapaaCreateMpixIov, available, Run.bind_apply, mpixTypeIovLen, live,
    Outcome.returned_bind, decide_true, vapaaAssert_true, Run.pure_apply, Run.readSet_some,
    cells, Option.isSome_some, Option.getD_some]

theorem vapaaCreateMpixIov_cases {handle : Int} {object : TypeObject}
    (available : mpi.iovSupport = .available)
    (allocates : mpi.allocates (toSizeT ((reportedSegments mpi object).length * 16)) = true)
    (live : world.types.object handle = some object) :
    (reportedSegments mpi object).length * 16 < 18446744073709551616 ∧
      vapaaCreateMpixIov mpi handle world =
        .returned (some (reportedSegments mpi object,
          ((reportedSegments mpi object).map Segment.iovLen).sum), world) ∨
    ¬ (reportedSegments mpi object).length * 16 < 18446744073709551616 ∧
      vapaaCreateMpixIov mpi handle world = .undefined .outOfBounds := by
  have taken := take_segmentsWithin intMax.toNat (mpi.typeIov object.layout)
  rw [vapaaCreateMpixIov_of_allocates available allocates live]
  rw [reportedSegments] at allocates ⊢
  generalize segmentsWithin intMax.toNat (mpi.typeIov object.layout) = kept
    at taken allocates ⊢
  by_cases fits : kept.length * 16 < 18446744073709551616
  · have bytes : toSizeT (kept.length * 16) = kept.length * 16 := by
      have converted := toSizeT_of_bounds fits
      push_cast at converted
      exact converted
    have room : ¬ (Cells.fresh kept.length : Cells Segment).length < kept.length := by
      simp [Cells.fresh]
    have nothing : (Cells.fresh kept.length : Cells Segment).drop kept.length = [] := by
      simp [Cells.fresh]
    refine Or.inl ⟨fits, ?_⟩
    rw [bytes, Nat.mul_div_cancel _ (by omega)]
    simp only [Run.bind_apply, mpixTypeIov, live, taken, if_neg room, nothing, List.append_nil,
      Outcome.returned_bind, decide_true, vapaaAssert_true, Run.pure_apply, Run.readSet_some,
      Cells.loadFirst_set, Run.ofOutcome_returned]
  · have short : (Cells.fresh (toSizeT (kept.length * 16) / 16) : Cells Segment).length <
        kept.length := by
      simp only [Cells.fresh, List.length_replicate, toSizeT]
      omega
    refine Or.inr ⟨fits, ?_⟩
    simp only [Run.bind_apply, mpixTypeIov, live, taken, if_pos short, Outcome.undefined_bind]

end Segments

section Visits

variable {step : Nat} {segments : List Segment} {count : Nat}

theorem length_visits :
    (visits step segments count).length =
      count * (segments.map fun segment => segment.iovLen / step).sum := by
  simp [visits, List.length_flatMap]

theorem mem_visits {visit : Visit} :
    visit ∈ visits step segments count ↔
      visit.1 < count ∧ visit.2.1 ∈ segments ∧ visit.2.2 < visit.2.1.iovLen / step := by
  obtain ⟨j, segment, k⟩ := visit
  simp only [visits, List.mem_flatMap, List.mem_map, List.mem_range, Prod.mk.injEq]
  constructor
  · rintro ⟨_, below, _, member, _, inside, rfl, rfl, rfl⟩
    exact ⟨below, member, inside⟩
  · rintro ⟨below, member, inside⟩
    exact ⟨j, below, segment, member, k, inside, rfl, rfl, rfl⟩

theorem sum_div_le (step : Nat) (segments : List Segment) :
    (segments.map fun segment => segment.iovLen / step).sum ≤
      (segments.map Segment.iovLen).sum / step := by
  induction segments with
  | nil => simp
  | cons segment segments ih =>
      rw [List.map_cons, List.sum_cons, List.map_cons, List.sum_cons]
      exact le_trans (Nat.add_le_add_left ih _) Nat.div_add_div_le_add_div

/-- The arrays have a cell for each visit, and their sizes do not wrap. -/
theorem visits_fit (positive : 0 < step) (counted : (count : Int) ≤ intMax)
    (within : (segments.map Segment.iovLen).sum ≤ intMax.toNat)
    (few : ((visits step segments count).length : Int) < intMax) :
    (visits step segments count).length ≤
        count * ((segments.map Segment.iovLen).sum / step) ∧
      count * ((segments.map Segment.iovLen).sum / step) * 8 < 18446744073709551616 := by
  have each := sum_div_le step segments
  simp only [length_visits] at few ⊢
  refine ⟨Nat.mul_le_mul_left count each, ?_⟩
  simp only [intMax] at *
  by_cases single : step = 1
  · have same : (segments.map fun segment => segment.iovLen / 1) =
        segments.map Segment.iovLen := List.map_congr_left fun _ _ => Nat.div_one _
    subst single
    rw [same] at few
    rw [Nat.div_one]
    omega
  · have halved : (segments.map Segment.iovLen).sum / step ≤ 1073741823 := by
      have larger : (segments.map Segment.iovLen).sum / step ≤
          (segments.map Segment.iovLen).sum / 2 := Nat.div_le_div_left (by omega) (by omega)
      omega
    have product : count * ((segments.map Segment.iovLen).sum / step) ≤
        2147483647 * 1073741823 := Nat.mul_le_mul (by omega) halved
    omega

end Visits

end Vapaa
