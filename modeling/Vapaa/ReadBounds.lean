import Vapaa.ErasedReads
import Vapaa.SectionEndings
import Vapaa.SendReceive

/-! Which dimension records the builder reads. -/

set_option autoImplicit false

namespace Vapaa

open Foundation Run Recorded Builder
open Reading (recording)

/-- Every read of a dimension record is one of the descriptor's records. -/
abbrev ReadsInside {σ α : Type} (run : Recorded DimRead σ α) (state : σ) : Prop :=
  run.Within DimRead.Inside state

section Guarded

variable {mpi : Mpi} {desc : CDesc} {world : World}

private theorem readDim_reads_inside_iff {i : Nat} :
    (Reading.readDim desc i).Within DimRead.Inside ↔ i < desc.rank :=
  List.forall_mem_singleton

private theorem reads_inside_rounds_bind_iff {α β : Type} {noted : Noted DimRead α}
    {next : α → Reading.Call β} :
    ReadsInside (recording.rounds noted >>= next) world ↔
      noted.Within DimRead.Inside ∧ ReadsInside (next noted.value) world :=
  within_noted_bind_iff

private theorem reads_inside_readDim_bind_iff {α : Type} {i : Nat} {next : Dim → Reading.Call α} :
    ReadsInside (readDim recording desc i >>= next) world ↔
      i < desc.rank ∧ ReadsInside (next (desc.record i)) world :=
  reads_inside_rounds_bind_iff.trans (and_congr_left fun _ => readDim_reads_inside_iff)

private theorem reads_inside_readDim_bind {α : Type} {i : Nat} {next : Dim → Reading.Call α}
    (inside : i < desc.rank) (rest : ReadsInside (next (desc.record i)) world) :
    ReadsInside (readDim recording desc i >>= next) world :=
  reads_inside_readDim_bind_iff.mpr ⟨inside, rest⟩

private theorem reads_inside_call_bind {α β : Type} {run : Call α} {next : α → Reading.Call β}
    (rest : ∀ value middle, ReadsInside (next value) middle) :
    ReadsInside (recording.call run >>= next) world :=
  within_run_bind rest

private theorem extentOr1_reads_inside (desc : CDesc) (k : Nat) :
    (extentOr1 recording desc k).Within DimRead.Inside := by
  unfold extentOr1
  split
  · exact Noted.within_bind_iff.mpr ⟨readDim_reads_inside_iff.mpr ‹_›, Noted.within_pure _⟩
  · exact Noted.within_pure _

private theorem strideOr0_reads_inside (desc : CDesc) (k : Nat) :
    (strideOr0 recording desc k).Within DimRead.Inside := by
  unfold strideOr0
  split
  · exact Noted.within_bind_iff.mpr ⟨readDim_reads_inside_iff.mpr ‹_›, Noted.within_pure _⟩
  · exact Noted.within_pure _

private theorem stride_reads_inside {k : Nat} (inside : k < desc.rank) :
    (stride recording desc k).Within DimRead.Inside :=
  Noted.within_bind_iff.mpr ⟨readDim_reads_inside_iff.mpr inside, Noted.within_pure _⟩

private theorem readExtents_reads_inside (desc : CDesc) (dimensions : List Nat) :
    (readExtents recording desc dimensions).Within DimRead.Inside := by
  induction dimensions with
  | nil => exact Noted.within_pure _
  | cons k dimensions ih =>
      exact Noted.within_bind_iff.mpr ⟨extentOr1_reads_inside desc k,
        Noted.within_bind_iff.mpr ⟨ih, Noted.within_pure _⟩⟩

/-- Loops read what their strides read. -/
theorem loopsOver_reads_inside {σ : Type} {strideOf : Nat → Noted DimRead Int} {count : Nat}
    (strides : ∀ k, k < count → (strideOf k).Within DimRead.Inside) (extents : List Int)
    (body : Int → σ → Flow σ) (passed : List Int) (index : List Nat) (state : σ) :
    (loopsOver recording strideOf extents body count passed index state).Within
      DimRead.Inside := by
  induction count generalizing passed index state with
  | zero => exact Noted.within_pure _
  | succ count ih =>
      refine within_forLoopNoted (fun i state => ?_) state
      exact Noted.within_bind_iff.mpr ⟨strides count count.lt_succ_self,
        ih (fun k below => strides k (Nat.lt_succ_of_lt below)) _ _ state⟩

private theorem createSingles_reads_inside {count arrayDatatype : Int} {elementDatatype : Call Int}
    {loops : (Int → Filling → Flow Filling) → Filling → Noted DimRead (Flow Filling)}
    (inside : ∀ body filling, (loops body filling).Within DimRead.Inside) :
    ReadsInside (createSingles recording mpi count loops elementDatatype arrayDatatype) world := by
  refine Within.bind ?_ fun _ _ => ?_
  · exact reads_inside_call_bind fun _ _ => reads_inside_call_bind fun _ _ =>
      reads_inside_call_bind fun _ _ => reads_inside_rounds_bind_iff.mpr
        ⟨inside _ _, reads_inside_call_bind fun _ _ => within_pure _⟩
  · exact reads_inside_call_bind fun _ _ => reads_inside_call_bind fun _ _ =>
      reads_inside_call_bind fun _ _ => within_pure _

private theorem vapaaCfiCreateDatatype15d_reads_inside (count inputDatatype arrayDatatype : Int) :
    ReadsInside (Reading.vapaaCfiCreateDatatype15d mpi desc count inputDatatype arrayDatatype)
      world := by
  refine reads_inside_call_bind fun builtin middle => ?_
  cases builtin with
  | true =>
      exact reads_inside_rounds_bind_iff.mpr ⟨readExtents_reads_inside desc _,
        createSingles_reads_inside fun body filling => loopsOver_reads_inside
          (fun k _ => strideOr0_reads_inside desc k) _ body _ _ filling⟩
  | false => exact reads_inside_call_bind fun _ _ => within_pure _

private theorem warnLowerBounds_reads_inside {dimensions : List Nat}
    (inside : ∀ i ∈ dimensions, i < desc.rank) :
    ReadsInside (warnLowerBounds recording desc dimensions) world := by
  induction dimensions generalizing world with
  | nil => exact within_pure ()
  | cons i dimensions ih =>
      have first : i < desc.rank := inside i List.mem_cons_self
      have rest : ∀ k ∈ dimensions, k < desc.rank :=
        fun k member => inside k (List.mem_cons_of_mem i member)
      refine reads_inside_readDim_bind first ?_
      split
      · exact reads_inside_readDim_bind first (reads_inside_call_bind fun _ _ => ih rest)
      · exact ih rest

private theorem countElements_reads_inside {dimensions : List Nat}
    (inside : ∀ i ∈ dimensions, i < desc.rank) (totalElems : Int) :
    ReadsInside (countElements recording mpi desc dimensions totalElems) world := by
  induction dimensions generalizing totalElems world with
  | nil => exact within_pure _
  | cons i dimensions ih =>
      refine reads_inside_readDim_bind (inside i List.mem_cons_self) ?_
      refine reads_inside_call_bind fun totalElems middle => ?_
      split
      · exact reads_inside_call_bind fun _ _ => within_pure _
      · split
        · exact reads_inside_call_bind fun _ _ => within_pure _
        · refine (warnLowerBounds_reads_inside fun k => List.mem_range.mp).bind fun _ _ => ?_
          exact ih (fun k member => inside k (List.mem_cons_of_mem i member)) totalElems

private theorem countedElements_reads_inside :
    ReadsInside (countedElements recording mpi desc) world :=
  reads_inside_call_bind fun _ _ =>
    (countElements_reads_inside (fun _ => List.mem_range.mp) 1).bind fun _ _ => within_pure _

private theorem vapaaCfiGetTotalElements_reads_inside {dimensions : List Nat}
    (inside : ∀ i ∈ dimensions, i < desc.rank) (totalElems : Int) :
    ReadsInside (Builder.vapaaCfiGetTotalElements recording desc dimensions totalElems) world := by
  induction dimensions generalizing totalElems world with
  | nil => exact within_pure totalElems
  | cons i dimensions ih =>
      refine reads_inside_readDim_bind (inside i List.mem_cons_self) ?_
      refine reads_inside_call_bind fun totalElems middle => ?_
      exact ih (fun k member => inside k (List.mem_cons_of_mem i member)) totalElems

private theorem vapaaCfiCreateElementAddresses_reads_inside :
    ReadsInside (Reading.vapaaCfiCreateElementAddresses mpi desc) world := by
  refine (vapaaCfiGetTotalElements_reads_inside (fun k => List.mem_range.mp) 1).bind fun _ _ => ?_
  refine reads_inside_call_bind fun _ _ =>
    reads_inside_rounds_bind_iff.mpr ⟨readExtents_reads_inside desc _, ?_⟩
  refine reads_inside_rounds_bind_iff.mpr ⟨loopsOver_reads_inside
    (fun k _ => strideOr0_reads_inside desc k) _ _ _ _ _, ?_⟩
  exact reads_inside_call_bind fun _ _ => within_pure _

private theorem vapaaCfiCreateIndexed_reads_inside (count inputDatatype arrayDatatype : Int) :
    ReadsInside (Builder.vapaaCfiCreateIndexed recording mpi desc count inputDatatype arrayDatatype)
      world := by
  unfold Builder.vapaaCfiCreateIndexed
  cases mpi.iovSupport with
  | available =>
      refine reads_inside_call_bind fun _ _ =>
        vapaaCfiCreateElementAddresses_reads_inside.bind fun _ _ => ?_
      exact reads_inside_call_bind fun _ _ => reads_inside_call_bind fun _ _ =>
        reads_inside_call_bind fun _ _ => reads_inside_call_bind fun _ _ =>
          reads_inside_call_bind fun _ _ => within_pure _
  | mpichTooOld => exact within_run _
  | notMpich => exact reads_inside_call_bind fun _ _ => within_pure _

end Guarded

section Unguarded

variable {mpi : Mpi} {desc : CDesc} {world : World}

private theorem createElements_reads_inside (vector : 1 ≤ desc.rank)
    (count elementDatatype arrayDatatype : Int) :
    ReadsInside (createElements recording mpi desc count elementDatatype arrayDatatype) world :=
  reads_inside_readDim_bind vector
    (reads_inside_call_bind fun _ _ => reads_inside_call_bind fun _ _ => within_pure _)

private theorem createContiguousRows_reads_inside (plane : 2 ≤ desc.rank)
    (count extent0 elementDatatype arrayDatatype : Int) :
    ReadsInside
      (createContiguousRows recording mpi desc count extent0 elementDatatype arrayDatatype) world :=
  reads_inside_readDim_bind plane (reads_inside_call_bind fun _ _ =>
    reads_inside_call_bind fun _ _ => reads_inside_call_bind fun _ _ => within_pure _)

private theorem createRows_reads_inside (plane : 2 ≤ desc.rank)
    (count extent0 stride0 elementDatatype arrayDatatype : Int) :
    ReadsInside
      (createRows recording mpi desc count extent0 stride0 elementDatatype arrayDatatype) world :=
  reads_inside_call_bind fun _ _ => reads_inside_call_bind fun _ _ =>
    reads_inside_readDim_bind plane (reads_inside_call_bind fun _ _ =>
      reads_inside_call_bind fun _ _ => reads_inside_call_bind fun _ _ =>
        reads_inside_call_bind fun _ _ => reads_inside_call_bind fun _ _ => within_pure _)

private theorem createPlane_reads_inside (plane : 2 ≤ desc.rank)
    (count elemLen extent0 extent1 elementDatatype arrayDatatype : Int) :
    ReadsInside
      (createPlane recording mpi desc count elemLen extent0 extent1 elementDatatype arrayDatatype)
      world := by
  unfold createPlane
  refine reads_inside_call_bind fun partialRow middle => ?_
  split
  · refine reads_inside_readDim_bind (by omega) ?_
    dsimp only
    split
    · exact createContiguousRows_reads_inside plane _ _ _ _
    · exact createRows_reads_inside plane _ _ _ _ _
  · exact createSingles_reads_inside fun body filling =>
      loopsOver_reads_inside (fun _ below => stride_reads_inside (by omega)) _ body _ _ filling

private theorem createSpace_reads_inside (space : 3 ≤ desc.rank)
    (count extent0 extent1 elementDatatype arrayDatatype : Int) :
    ReadsInside (createSpace recording mpi desc count extent0 extent1 elementDatatype arrayDatatype)
      world :=
  reads_inside_readDim_bind space
    (createSingles_reads_inside fun body filling =>
      loopsOver_reads_inside (fun _ below => stride_reads_inside (by omega)) _ body _ _ filling)

/-- The construction always reads the records of two dimensions. -/
theorem createPrefix_reads_inside_iff
    (count elemLen elementDatatype inputDatatype arrayDatatype : Int) :
    ReadsInside
      (createPrefix recording mpi desc count elemLen elementDatatype inputDatatype arrayDatatype)
      world ↔ 2 ≤ desc.rank := by
  unfold createPrefix
  rw [reads_inside_readDim_bind_iff, reads_inside_readDim_bind_iff]
  constructor
  · rintro ⟨-, second, -⟩
    exact second
  · intro plane
    refine ⟨by omega, plane, ?_⟩
    dsimp only
    split
    · exact createElements_reads_inside (by omega) _ _ _
    · refine reads_inside_call_bind fun fits middle => ?_
      cases fits with
      | true => exact createPlane_reads_inside plane _ _ _ _ _ _
      | false =>
          simp only [Bool.false_eq_true, if_false]
          split
          · exact createSpace_reads_inside (by omega) _ _ _ _ _
          · split
            · exact (vapaaCfiCreateDatatype15d_reads_inside _ _ _).bind fun _ _ =>
                reads_inside_call_bind fun _ _ => within_pure _
            · exact reads_inside_call_bind fun _ _ => within_pure _

private theorem createCounted_reads_inside_iff
    (count totalElems elementDatatype inputDatatype arrayDatatype : Int) :
    ReadsInside (createCounted recording mpi desc count totalElems elementDatatype inputDatatype
      arrayDatatype) world ↔ (count ≤ totalElems → 2 ≤ desc.rank) := by
  unfold createCounted
  dsimp only
  split
  · refine iff_of_true (reads_inside_call_bind fun _ _ => within_pure _) ?_
    omega
  · rw [ReadsInside, within_bind_iff]
    constructor
    · intro inside _
      exact (createPrefix_reads_inside_iff _ _ _ _ _).mp inside.1
    · intro plane
      refine ⟨(createPrefix_reads_inside_iff _ _ _ _ _).mpr (plane (by omega)), ?_⟩
      intro result middle _
      split
      · exact within_pure _
      · exact within_run _

end Unguarded

section Counting

variable {mpi : Mpi} {desc : CDesc} {world : World}

/-- Extents that the builder multiplies up without a refusal, where there are at most one. -/
def CDesc.FewExtents (desc : CDesc) : Prop :=
  ∀ k, k < desc.rank →
    -9223372036854775808 ≤ (desc.record k).extent ∧ (desc.record k).extent ≤ intMax

instance (desc : CDesc) : Decidable desc.FewExtents :=
  inferInstanceAs (Decidable (∀ k, k < desc.rank → _))

/-- Over at most one dimension, the loop over the dimensions ends with the number of elements
or with an error code. -/
theorem countElements_flat (mpi : Mpi) (flat : desc.rank ≤ 1) (world : World) :
    desc.FewExtents ∧ (∃ final,
      countElements unbounded mpi desc (List.range desc.rank) 1 world =
        .returned (.ok (desc.leadingElements desc.rank), final)) ∨
    ¬ desc.FewExtents ∧
      (countElements unbounded mpi desc (List.range desc.rank) 1).Ensures world
        fun counted _ => ∃ rc, counted = .error rc := by
  obtain scalar | vector : desc.rank = 0 ∨ desc.rank = 1 := by omega
  · rw [scalar]
    refine Or.inl ⟨?_, world, rfl⟩
    intro k inside
    omega
  · have whole : desc.leadingElements desc.rank = 1 * (desc.record 0).extent := by
      rw [vector, CDesc.leadingElements_succ, CDesc.leadingElements_zero]
    have few : desc.FewExtents ↔ -9223372036854775808 ≤ (desc.record 0).extent ∧
        (desc.record 0).extent ≤ intMax := by
      constructor
      · intro few
        exact few 0 (by omega)
      · intro bounds k inside
        obtain rfl : k = 0 := by omega
        exact bounds
    rw [whole, few, vector]
    simp only [List.range_one, countElements, readDim_plain, plain_call, pure_bind]
    by_cases fits : -9223372036854775808 ≤ (desc.record 0).extent ∧
        (desc.record 0).extent ≤ intMax
    · refine Or.inl ⟨fits, ?_⟩
      have product : ssizeResult (1 * (desc.record 0).extent) =
          pure (1 * (desc.record 0).extent) := by
        simp only [intMax] at fits
        exact ssizeResult_of_bounds (by omega) (by omega)
      obtain ⟨final, warned, -⟩ := warnLowerBounds_returned desc (List.range desc.rank) world
      rw [product, pure_bind, if_neg (by omega), if_neg (by omega), Run.bind_of_returned warned]
      exact ⟨final, rfl⟩
    · refine Or.inr ⟨fits, ?_⟩
      by_cases low : -9223372036854775808 ≤ (desc.record 0).extent
      · have large : intMax < (desc.record 0).extent := by omega
        refine ensures_bind_of_all fun totalElems middle => ?_
        rw [if_pos large]
        exact ensures_bind_of_all fun _ _ => ensures_pure ⟨_, rfl⟩
      · have overflow : ssizeResult (1 * (desc.record 0).extent) = Run.undefined .overflow := by
          unfold ssizeResult
          rw [if_neg (by omega)]
        rw [overflow]
        exact ensures_bind_of_never (ensures_of_undefined rfl)

end Counting

/-- A datatype that the library names. -/
def TypeStore.Named (types : TypeStore) (handle : Int) : Prop :=
  ∃ object, types.object handle = some object ∧ object.combiner = .named

section Builder

variable {mpi : Mpi} {desc : CDesc} {world : World}

private theorem createFromNamed_reads_inside_iff (count inputDatatype arrayDatatype : Int) :
    ReadsInside (createFromNamed recording mpi desc count inputDatatype arrayDatatype) world ↔
      (desc.rank ≤ 1 → desc.FewExtents → desc.leadingElements desc.rank < count) := by
  obtain ⟨element, first, translated, -⟩ := vapaaCfiToMpiType_cases mpi desc.type world
  have counts : countedElements unbounded mpi desc world =
      (countElements unbounded mpi desc (List.range desc.rank) 1 >>= fun totalElems =>
        return (element, totalElems)) first := Run.bind_of_returned translated
  have started (post : Int × Except Int Int → World → Prop) :
      (countedElements unbounded mpi desc).Ensures world post ↔
        (countElements unbounded mpi desc (List.range desc.rank) 1).Ensures first
          fun totalElems => post (element, totalElems) := by
    unfold Run.Ensures
    rw [counts]
    simp only [← Run.Ensures.eq_def, ensures_bind_iff, ensures_pure_iff]
  unfold createFromNamed
  rw [ReadsInside, within_bind_iff, and_iff_right countedElements_reads_inside,
    erasing.countedElements, started]
  by_cases plane : 2 ≤ desc.rank
  · refine iff_of_true ?_ (by omega)
    intro counted middle _
    cases counted with
    | error rc => exact within_pure _
    | ok totalElems => exact (createCounted_reads_inside_iff _ _ _ _ _).mpr fun _ => plane
  · have flat : desc.rank ≤ 1 := by omega
    rcases countElements_flat mpi flat first with ⟨few, final, counted⟩ | ⟨many, stops⟩
    · constructor
      · intro ensures _ _
        have inside := (createCounted_reads_inside_iff _ _ _ _ _).mp (ensures _ _ counted)
        omega
      · intro beyond
        have exceeds := beyond flat few
        refine ensures_of_returned counted ((createCounted_reads_inside_iff _ _ _ _ _).mpr ?_)
        omega
    · refine iff_of_true (stops.mono ?_) fun _ few => absurd few many
      intro counted middle stopped
      obtain ⟨rc, rfl⟩ := stopped
      exact within_pure _

/-- A named datatype is asked for, and so few elements of a scalar or a vector that the builder
goes on to read the records of two dimensions. -/
structure CDesc.ReadPastEnd (types : TypeStore) (desc : CDesc) (count inputDatatype : Int) :
    Prop where
  named : types.Named inputDatatype
  flat : desc.rank ≤ 1
  few : desc.FewExtents
  available : count ≤ desc.leadingElements desc.rank

theorem CDesc.readPastEnd_iff_of_named {types : TypeStore} {count inputDatatype : Int}
    {input : TypeObject} (live : types.object inputDatatype = some input)
    (named : input.combiner = .named) :
    ¬ desc.ReadPastEnd types count inputDatatype ↔
      (desc.rank ≤ 1 → desc.FewExtents → desc.leadingElements desc.rank < count) := by
  constructor
  · intro inside flat few
    by_contra available
    exact inside ⟨⟨input, live, named⟩, flat, few, by omega⟩
  · intro beyond past
    have exceeds := beyond past.flat past.few
    have available := past.available
    omega

private theorem vapaaMpiDatatypeIsBuiltin_of_dead {handle : Int}
    (dead : world.types.object handle = none) :
    (vapaaMpiDatatypeIsBuiltin mpi handle).Ensures world fun _ _ => False := by
  have looked : pmpiTypeGetEnvelope mpi handle world =
      .returned ((mpi.errorClass .errType, none), world) := by
    simp only [pmpiTypeGetEnvelope, dead]
  unfold vapaaMpiDatatypeIsBuiltin
  refine ensures_bind_of_returned looked (ensures_bind_of_all fun _ middle => ?_)
  exact ensures_bind_of_never (ensures_of_undefined rfl)

private theorem vapaaCfiCreateDatatype_reads_inside_iff (count inputDatatype arrayDatatype : Int) :
    ReadsInside (Reading.vapaaCfiCreateDatatype mpi desc count inputDatatype arrayDatatype)
      world ↔ ¬ desc.ReadPastEnd world.types count inputDatatype := by
  unfold Reading.vapaaCfiCreateDatatype Builder.vapaaCfiCreateDatatype
  cases live : world.types.object inputDatatype with
  | none =>
      refine iff_of_true (within_run_bind_iff.mpr ?_) ?_
      · exact (vapaaMpiDatatypeIsBuiltin_of_dead live).mono fun _ _ impossible => impossible.elim
      · rintro ⟨⟨object, found, -⟩, -, -, -⟩
        rw [live] at found
        cases found
  | some input =>
      rw [ReadsInside, Reading.recording_call,
        within_run_bind_iff_of_returned (vapaaMpiDatatypeIsBuiltin_of_live live)]
      by_cases named : input.combiner = .named
      · simp only [named, decide_true, if_true]
        rw [CDesc.readPastEnd_iff_of_named live named]
        exact createFromNamed_reads_inside_iff count inputDatatype arrayDatatype
      · simp only [named, decide_false, Bool.false_eq_true, if_false]
        refine iff_of_true ?_ ?_
        · exact (vapaaCfiCreateIndexed_reads_inside _ _ _).bind fun _ _ =>
            within_run_bind fun _ _ => within_pure _
        · rintro ⟨⟨object, found, combined⟩, -, -, -⟩
          rw [live] at found
          cases found
          exact named combined

end Builder

section NamedDatatypes

variable {α β : Type} {mpi : Mpi} {desc : CDesc}

/-- The call makes no named datatype and frees none. -/
def KeepsNamed (run : Call α) : Prop :=
  ∀ world, run.Ensures world fun _ final =>
    ∀ handle, final.types.Named handle ↔ world.types.Named handle

theorem Keeps.named {run : Call α} (keeps : Keeps run) : KeepsNamed run :=
  fun world => (keeps world).mono fun _ _ same handle => by rw [same]

theorem KeepsNamed.bind {run : Call α} {next : α → Call β} (first : KeepsNamed run)
    (rest : ∀ value, KeepsNamed (next value)) : KeepsNamed (run >>= next) := by
  intro world
  refine (first world).bind ?_
  intro value middle begun
  exact (rest value middle).mono fun _ _ kept handle => (kept handle).trans (begun handle)

theorem Keeps.named_bind {run : Call α} {next : α → Call β} (first : Keeps run)
    (rest : ∀ value, KeepsNamed (next value)) : KeepsNamed (run >>= next) :=
  first.named.bind rest

theorem TypeStore.Creates.named_iff {before after : TypeStore} {created handle : Int}
    {layout : Layout} {committed : Bool}
    (creates : TypeStore.Creates before after created
      { combiner := .derived, layout := layout, committed := committed }) :
    after.Named handle ↔ before.Named handle := by
  unfold TypeStore.Named
  by_cases same : handle = created
  · rw [same, creates.live, creates.unused]
    constructor
    · rintro ⟨object, found, named⟩
      cases found
      cases named
    · rintro ⟨object, found, -⟩
      cases found
  · rw [creates.others handle same]

private theorem keepsNamed_of_made {run : Call (Int × Int)} {initial : Int}
    (made : ∀ world, run.Ensures world (Made mpi world initial)) : KeepsNamed run := by
  intro world
  refine (made world).mono ?_
  intro result final attempt handle
  rcases attempt with ⟨rfl, -, -⟩ | ⟨-, layout, creates⟩
  · exact Iff.rfl
  · exact creates.named_iff

private theorem keepsNamed_of_constructed {run : Call (Int × Int)} {initial : Int}
    (constructed : ∀ world, run.Ensures world (Constructed mpi world.types initial)) :
    KeepsNamed run := by
  intro world
  refine (constructed world).mono ?_
  intro result final ended handle
  cases ended with
  | untouched restored same reported =>
      unfold TypeStore.Named
      rw [restored.object_eq]
  | created creates => exact creates.named_iff

private theorem keepsNamed_pmpiTypeFree (freed : Int) : KeepsNamed (pmpiTypeFree mpi freed) := by
  intro world value final returned handle
  unfold pmpiTypeFree at returned
  rcases found : world.types.object freed with _ | ⟨combiner, layout, committed⟩
  · rw [found] at returned
    cases returned
    exact Iff.rfl
  · rw [found] at returned
    cases combiner with
    | derived =>
        cases returned
        unfold TypeStore.Named
        by_cases same : handle = freed
        · simp [same, found]
        · rw [TypeStore.remove_object_of_ne _ same]
    | named =>
        cases returned
        exact Iff.rfl

theorem TypeStore.named_commit (types : TypeStore) (committed handle : Int) :
    (types.commit committed).Named handle ↔ types.Named handle := by
  unfold TypeStore.Named TypeStore.commit
  dsimp only
  cases types.object handle with
  | none => simp
  | some object =>
      simp only [Option.map_some, Option.some.injEq, exists_eq_left']
      split <;> rfl

private theorem keepsNamed_pmpiTypeCommit (committed : Int) :
    KeepsNamed (pmpiTypeCommit mpi committed) := by
  intro world value final returned handle
  unfold pmpiTypeCommit at returned
  cases found : world.types.object committed with
  | none =>
      rw [found] at returned
      cases returned
      exact Iff.rfl
  | some object =>
      rw [found] at returned
      cases returned
      exact TypeStore.named_commit world.types committed handle

private theorem keepsNamed_createRows (count extent0 stride0 element initial : Int) :
    KeepsNamed (createRows unbounded mpi desc count extent0 stride0 element initial) :=
  (keepsNamed_of_made fun _ => pmpiTypeCreateHvector_made 1 stride0).bind fun _ =>
    (keeps_assert _).named_bind fun _ => (keeps_readDim desc 1).named_bind fun dim =>
      (keeps_quotient _ _).named_bind fun _ =>
        (keepsNamed_of_made fun _ => pmpiTypeCreateHvector_made 1 dim.sm).bind fun _ =>
          (keeps_assert _).named_bind fun _ => (keepsNamed_pmpiTypeFree _).bind fun _ =>
            (keeps_assert _).named_bind fun _ => (keeps_pure _).named

private theorem keepsNamed_createPlane (count elemLen extent0 extent1 element initial : Int) :
    KeepsNamed (createPlane unbounded mpi desc count elemLen extent0 extent1 element initial) := by
  unfold createPlane
  refine (keeps_remainder count extent0).named_bind fun partialRow => ?_
  split
  · refine (keeps_readDim desc 0).named_bind fun dim => ?_
    dsimp only
    split
    · exact keepsNamed_of_constructed fun _ => createContiguousRows_constructed
    · exact keepsNamed_createRows _ _ _ _ _
  · exact (keeps_readDim desc 1).named_bind fun _ => (keeps_readDim desc 0).named_bind fun _ =>
      keepsNamed_of_constructed fun _ => createSingles_constructed (keeps_pure element)

private theorem keepsNamed_createPrefix (count elemLen element inputDatatype initial : Int) :
    KeepsNamed (createPrefix unbounded mpi desc count elemLen element inputDatatype initial) := by
  unfold createPrefix
  refine (keeps_readDim desc 0).named_bind fun dim0 =>
    (keeps_readDim desc 1).named_bind fun dim1 => ?_
  dsimp only
  split
  · exact keepsNamed_of_constructed fun _ => createElements_constructed
  · refine (keeps_fitsPlane desc count _ _).named_bind fun planar => ?_
    cases planar with
    | true => exact keepsNamed_createPlane _ _ _ _ _ _
    | false =>
        simp only [Bool.false_eq_true, if_false]
        split
        · exact keepsNamed_of_constructed fun _ => createSpace_constructed
        · split
          · exact keepsNamed_of_constructed fun _ =>
              Constructed.checked vapaaCfiCreateDatatype15d_constructed
          · exact (keeps_warning _).named_bind fun _ => (keeps_pure _).named

private theorem keepsNamed_createFromNamed (count inputDatatype initial : Int) :
    KeepsNamed (createFromNamed unbounded mpi desc count inputDatatype initial) := by
  have counts : Keeps (countElements unbounded mpi desc (List.range desc.rank) 1) :=
    fun world => (countElements_ensures mpi desc world).mono fun _ _ ended => ended.1
  have verifies (elemLen handle : Int) : Keeps (verifySize mpi count elemLen handle) :=
    fun _ => verifySize_same.mono fun _ _ ended => ended.1
  have counted : Keeps (countedElements unbounded mpi desc) :=
    (keeps_vapaaCfiToMpiType desc.type).bind fun _ => counts.bind fun _ => keeps_pure _
  refine counted.named_bind fun counted => ?_
  obtain ⟨element, totalElems⟩ := counted
  cases totalElems with
  | error rc => exact (keeps_pure _).named
  | ok totalElems =>
      unfold createCounted
      dsimp only
      split
      · exact (keeps_warning _).named_bind fun _ => (keeps_pure _).named
      · refine (keepsNamed_createPrefix _ _ _ _ _).bind fun result => ?_
        split
        · exact (keeps_pure _).named
        · exact (verifies _ _).named

/-- The builder makes no named datatype and frees none, assertions or not. -/
theorem keepsNamed_vapaaCfiCreateDatatype (count inputDatatype initial : Int) :
    KeepsNamed (vapaaCfiCreateDatatype mpi desc count inputDatatype initial) := by
  refine (keeps_isBuiltin inputDatatype).named_bind fun builtin => ?_
  cases builtin with
  | true => exact keepsNamed_createFromNamed _ _ _
  | false =>
      exact keepsNamed_of_constructed fun _ =>
        Constructed.checked vapaaCfiCreateIndexed_constructed

end NamedDatatypes

section Sendrecv

variable {α : Type} {mpi : Mpi} {sdesc rdesc : CDesc} {process : Process}

theorem CDesc.readPastEnd_congr {types types' : TypeStore} {desc : CDesc}
    {count inputDatatype : Int}
    (same : ∀ handle, types'.Named handle ↔ types.Named handle) :
    desc.ReadPastEnd types' count inputDatatype ↔ desc.ReadPastEnd types count inputDatatype := by
  constructor
  · intro past
    exact ⟨(same _).mp past.named, past.flat, past.few, past.available⟩
  · intro past
    exact ⟨(same _).mpr past.named, past.flat, past.few, past.available⟩

namespace Reading

/-- What the wrappers do before they communicate a section that is not contiguous. -/
def openSubarray (mpi : Mpi) (desc : CDesc) (count datatype initial : Int)
    (next : Int → Wrapper α) : Wrapper α := do
  let (rc, subarrayType) ← call (vapaaCfiCreateDatatype mpi desc count datatype initial)
  Vapaa.call (vapaaAssert mpi (rc = mpi.errorClass .success))
  let rc ← Vapaa.call (pmpiTypeCommit mpi subarrayType)
  Vapaa.call (vapaaAssert mpi (rc = mpi.errorClass .success))
  next subarrayType

end Reading

private theorem erase_openSubarray (desc : CDesc) (count datatype initial : Int) :
    (Reading.openSubarray mpi desc count datatype initial pure).erase =
      openSubarray mpi desc count datatype initial pure := by
  unfold Reading.openSubarray openSubarray
  simp only [erase_bind, erase_run, erase_pure, erase_call, erase_vapaaCfiCreateDatatype]

/-- What `CFI_MPI_Sendrecv` does with the datatypes of both sections. -/
def exchangeSections (mpi : Mpi) (reply : Reply) (sdesc : CDesc) (dest stag : Int) (rdesc : CDesc)
    (src rtag commF status subarrayTypeS subarrayTypeR : Int) : Wrapper Int := do
  let ierror ← mpiSendrecv mpi reply sdesc.baseAddr 1 subarrayTypeS dest stag rdesc.baseAddr 1
    subarrayTypeR src rtag (cMpiCommF2c mpi commF) (← statusArgument mpi status)
  closeSubarray mpi subarrayTypeS (closeSubarray mpi subarrayTypeR (return ierror))

/-- The datatype of a section is made and committed, and the wrapper goes on. -/
def Opens (mpi : Mpi) (desc : CDesc) (count datatype : Int) (process : Process) : Prop :=
  ∃ handle opened, openSubarray mpi desc count datatype (mpi.datatype .datatypeNull) pure process =
    .returned (handle, opened)

/-- With assertions, a section of an array opens exactly where the builder accepts its arguments. -/
theorem opens_iff_passes {desc : CDesc} {count datatype : Int} (active : mpi.seatbelts = true)
    (basic : process.world.types.Basic mpi) (ranked : 1 ≤ desc.rank) (sized : desc.Sized)
    (small : count ≤ intMax) :
    Opens mpi desc count datatype process ↔
      desc.Passes mpi process.world.types count datatype := by
  have settled := vapaaCfiCreateDatatype_settles active basic ranked sized small datatype
    (mpi.datatype .datatypeNull)
  constructor
  · rintro ⟨handle, opened, returned⟩
    by_contra refused
    obtain ⟨-, ended⟩ | ⟨-, fault, ended⟩ :=
      openSubarray_of_refuses active (settled.refuses refused) (pure : Int → Wrapper Int)
    · rw [ended] at returned
      cases returned
    · rw [ended] at returned
      cases returned
  · intro passes
    obtain ⟨layout, -, builds⟩ := settled.builds passes
    obtain ⟨handle, opened, -, goes⟩ := openSubarray_of_builds builds
    exact ⟨handle, { process with world := opened }, goes pure⟩

private theorem openSubarray_named (mpi : Mpi) (desc : CDesc) (count datatype initial : Int)
    (process : Process) :
    (openSubarray mpi desc count datatype initial pure).Ensures process fun _ opened =>
      ∀ handle, opened.world.types.Named handle ↔ process.world.types.Named handle := by
  unfold openSubarray
  refine (call_ensures (keepsNamed_vapaaCfiCreateDatatype count _ _ _)).bind ?_
  rintro ⟨rc, handle⟩ _ ⟨built, kept, rfl⟩
  refine (call_ensures (keeps_assert _ built)).bind ?_
  rintro _ _ ⟨asserted, sameAsserted, rfl⟩
  refine (call_ensures (keepsNamed_pmpiTypeCommit _ asserted)).bind ?_
  rintro _ _ ⟨committed, keptCommitted, rfl⟩
  refine (call_ensures (keeps_assert _ committed)).bind ?_
  rintro _ _ ⟨checked, sameChecked, rfl⟩
  refine ensures_pure fun other => ?_
  dsimp only
  rw [sameChecked, keptCommitted, sameAsserted, kept]

private theorem call_reads_inside_iff {reading : Reading.Call α} :
    (Reading.call reading).Within DimRead.Inside process ↔ ReadsInside reading process.world :=
  within_zoom_iff

/-- Opening a section reads what the builder reads, and then what follows it. -/
theorem openSubarray_reads_inside_iff {desc : CDesc} {count datatype : Int}
    {next : Int → Reading.Wrapper α} {allowed : TypeStore → Prop}
    (rest : ∀ handle opened, ReadsInside (next handle) opened ↔ allowed opened.world.types)
    (stable : ∀ types types', (∀ handle, types'.Named handle ↔ types.Named handle) →
      (allowed types' ↔ allowed types)) :
    ReadsInside (Reading.openSubarray mpi desc count datatype (mpi.datatype .datatypeNull) next)
      process ↔
      ¬ desc.ReadPastEnd process.world.types count datatype ∧
        (Opens mpi desc count datatype process → allowed process.world.types) := by
  have started : ReadsInside
      (Reading.openSubarray mpi desc count datatype (mpi.datatype .datatypeNull) next) process ↔
      ¬ desc.ReadPastEnd process.world.types count datatype ∧
        (Reading.openSubarray mpi desc count datatype
          (mpi.datatype .datatypeNull) pure).erase.Ensures process
          fun _ opened => allowed opened.world.types := by
    unfold Reading.openSubarray
    rw [ReadsInside, within_bind_iff, call_reads_inside_iff,
      vapaaCfiCreateDatatype_reads_inside_iff, erase_bind, ensures_bind_iff]
    refine and_congr_right fun _ => ensures_congr fun result middle _ => ?_
    obtain ⟨rc, handle⟩ := result
    dsimp only
    rw [within_run_bind_iff, erase_bind, erase_run, ensures_bind_iff]
    refine ensures_congr fun _ asserted _ => ?_
    rw [within_run_bind_iff, erase_bind, erase_run, ensures_bind_iff]
    refine ensures_congr fun _ committed _ => ?_
    rw [within_run_bind_iff, erase_bind, erase_run, ensures_bind_iff]
    refine ensures_congr fun _ opened _ => ?_
    rw [erase_pure, ensures_pure_iff]
    exact rest handle opened
  rw [started, erase_openSubarray]
  · refine and_congr_right fun _ => ?_
    constructor
    · intro ensures opens
      obtain ⟨handle, opened, returned⟩ := opens
      have named := openSubarray_named mpi desc count datatype _ process handle opened returned
      exact (stable _ _ named).mp (ensures handle opened returned)
    · intro reached handle opened returned
      have named := openSubarray_named mpi desc count datatype _ process handle opened returned
      exact (stable _ _ named).mpr (reached ⟨handle, opened, returned⟩)
private theorem reading_cfiMpiSendrecv_of_scattered (scattered : mpi.cfiIsContiguous sdesc ≠ 1)
    (reply : Reply) (scount sdatatypeF dest stag rcount rdatatypeF src rtag commF status : Int) :
    Reading.cfiMpiSendrecv mpi reply sdesc scount sdatatypeF dest stag rdesc rcount rdatatypeF src
        rtag commF status =
      (Reading.openSubarray mpi sdesc scount (cMpiTypeF2c mpi sdatatypeF)
          (mpi.datatype .datatypeNull)
          (fun subarrayTypeS =>
            Reading.openSubarray mpi rdesc rcount (cMpiTypeF2c mpi rdatatypeF)
              (mpi.datatype .datatypeNull)
              fun subarrayTypeR => liftM (exchangeSections mpi reply sdesc dest stag rdesc src
                rtag commF status subarrayTypeS subarrayTypeR)) >>=
        fun ierror => liftM (call (cMpiRcFix mpi ierror))) := by
  rw [Reading.cfiMpiSendrecv, sendrecvWith, if_neg fun both => scattered both.1]
  rfl

private theorem cfiMpiSendrecv_reads_inside_iff (reply : Reply)
    (scount sdatatypeF dest stag rcount rdatatypeF src rtag commF status : Int) :
    ReadsInside
      (Reading.cfiMpiSendrecv mpi reply sdesc scount sdatatypeF dest stag rdesc rcount rdatatypeF
        src rtag commF status) process ↔
      mpi.cfiIsContiguous sdesc = 1 ∨
        ¬ sdesc.ReadPastEnd process.world.types scount (cMpiTypeF2c mpi sdatatypeF) ∧
        (Opens mpi sdesc scount (cMpiTypeF2c mpi sdatatypeF) process →
          ¬ rdesc.ReadPastEnd process.world.types rcount (cMpiTypeF2c mpi rdatatypeF)) := by
  by_cases contiguous : mpi.cfiIsContiguous sdesc = 1
  · refine iff_of_true ?_ (Or.inl contiguous)
    rw [Reading.cfiMpiSendrecv, sendrecvWith, if_pos ⟨contiguous, contiguous⟩]
    exact within_run_bind fun _ _ => within_run _
  · rw [reading_cfiMpiSendrecv_of_scattered contiguous, or_iff_right contiguous, ReadsInside,
      within_bind_run_iff]
    have receives (subarrayTypeS : Int) (opened : Process) :=
      @openSubarray_reads_inside_iff Int mpi opened rdesc rcount (cMpiTypeF2c mpi rdatatypeF)
        (fun subarrayTypeR => liftM (exchangeSections mpi reply sdesc dest stag rdesc src rtag commF
          status subarrayTypeS subarrayTypeR))
        (fun _ => True) (fun _ _ => iff_true_intro (within_run _)) fun _ _ _ => Iff.rfl
    simp only [implies_true, and_true] at receives
    exact openSubarray_reads_inside_iff receives fun _ _ same =>
      not_congr (CDesc.readPastEnd_congr same)

end Sendrecv

/-- The builder reads past the end of a descriptor for named datatypes of scalars and vectors, and
the two enumerations never do. -/
theorem dimension_reads_inside_iff (mpi : Mpi) :
    (∀ (desc : CDesc) (count inputDatatype arrayDatatype : Int) (world : World),
      (ReadsInside (Reading.vapaaCfiCreateDatatype mpi desc count inputDatatype arrayDatatype)
        world ↔ ¬ desc.ReadPastEnd world.types count inputDatatype) ∧
      ReadsInside (Reading.vapaaCfiCreateDatatype15d mpi desc count inputDatatype arrayDatatype)
        world ∧
      ReadsInside (Reading.vapaaCfiCreateElementAddresses mpi desc) world) ∧
    ∀ (reply : Reply) (sdesc : CDesc) (scount sdatatypeF dest stag : Int) (rdesc : CDesc)
      (rcount rdatatypeF src rtag commF status : Int) (process : Process),
      ReadsInside
        (Reading.cfiMpiSendrecv mpi reply sdesc scount sdatatypeF dest stag rdesc rcount rdatatypeF
          src rtag commF status) process ↔
        mpi.cfiIsContiguous sdesc = 1 ∨
          ¬ sdesc.ReadPastEnd process.world.types scount (cMpiTypeF2c mpi sdatatypeF) ∧
          (Opens mpi sdesc scount (cMpiTypeF2c mpi sdatatypeF) process →
            ¬ rdesc.ReadPastEnd process.world.types rcount (cMpiTypeF2c mpi rdatatypeF)) :=
  ⟨fun _ _ _ _ _ => ⟨vapaaCfiCreateDatatype_reads_inside_iff _ _ _,
      vapaaCfiCreateDatatype15d_reads_inside _ _ _, vapaaCfiCreateElementAddresses_reads_inside⟩,
    fun reply _ _ _ _ _ _ _ _ _ _ _ _ _ =>
      cfiMpiSendrecv_reads_inside_iff reply _ _ _ _ _ _ _ _ _ _⟩

/-- Every second integer of two rows of an array. -/
def integerRows : CDesc :=
  sectionOf 4096 4 1025 [{ lowerBound := 0, extent := 2, sm := 8 },
    { lowerBound := 0, extent := 2, sm := 16 }] (by simp)

/-- Two integers that a vector holds, and one received into a scalar after every second integer of
two rows is sent. -/
theorem dimension_reads_past_end :
    ¬ ReadsInside (Reading.vapaaCfiCreateDatatype mpich (integers 8192 2 8) 2
      (cMpiTypeF2c mpich fortranInteger) (mpich.datatype .datatypeNull)) startWorld ∧
    ¬ ReadsInside (Reading.cfiMpiSendrecv mpich successfulReply integerRows 4 fortranInteger 1 7
      (sectionOf 8192 4 1025 [] (by simp)) 1 fortranInteger 1 7 0 64) startProcess := by
  have named : predefinedTypes.Named (cMpiTypeF2c mpich fortranInteger) := ⟨_, rfl, rfl⟩
  constructor
  · rw [vapaaCfiCreateDatatype_reads_inside_iff, not_not]
    exact ⟨named, by decide, by decide, by decide⟩
  · rw [cfiMpiSendrecv_reads_inside_iff]
    rintro (contiguous | ⟨-, inside⟩)
    · exact absurd contiguous (by decide)
    · refine inside ⟨_, _, rfl⟩ ⟨named, by decide, by decide, by decide⟩

section Behind

variable {mpi : Mpi} {desc : CDesc} {pastEnd : Nat → Dim}

/-- The descriptor with other memory behind its records. -/
def CDesc.before (desc : CDesc) (pastEnd : Nat → Dim) : CDesc :=
  { desc with pastEnd := pastEnd }

theorem CDesc.before_record {i : Nat} (inside : i < desc.rank) :
    (desc.before pastEnd).record i = desc.record i := by
  rw [record_of_lt inside]
  exact dif_pos inside

private theorem readDim_before {i : Nat} (inside : i < desc.rank) :
    readDim unbounded (desc.before pastEnd) i = readDim unbounded desc i := by
  rw [readDim_plain, readDim_plain, CDesc.before_record inside]

private theorem warnLowerBounds_before {dimensions : List Nat}
    (inside : ∀ i ∈ dimensions, i < desc.rank) :
    warnLowerBounds unbounded (desc.before pastEnd) dimensions =
      warnLowerBounds unbounded desc dimensions := by
  induction dimensions with
  | nil => rfl
  | cons i dimensions ih =>
      unfold warnLowerBounds
      rw [readDim_before (inside i List.mem_cons_self),
        ih fun k member => inside k (List.mem_cons_of_mem i member)]

private theorem countElements_before {dimensions : List Nat}
    (inside : ∀ i ∈ dimensions, i < desc.rank)
    (totalElems : Int) :
    countElements unbounded mpi (desc.before pastEnd) dimensions totalElems =
      countElements unbounded mpi desc dimensions totalElems := by
  induction dimensions generalizing totalElems with
  | nil => rfl
  | cons i dimensions ih =>
      have rest := ih fun k member => inside k (List.mem_cons_of_mem i member)
      have warned : warnLowerBounds unbounded (desc.before pastEnd)
          (List.range (desc.before pastEnd).rank) =
            warnLowerBounds unbounded desc (List.range desc.rank) :=
        warnLowerBounds_before fun k => List.mem_range.mp
      unfold countElements
      rw [readDim_before (inside i List.mem_cons_self), warned]
      simp only [rest]

private theorem vapaaCfiGetTotalElements_before {dimensions : List Nat}
    (inside : ∀ i ∈ dimensions, i < desc.rank) (totalElems : Int) :
    vapaaCfiGetTotalElements (desc.before pastEnd) dimensions totalElems =
      vapaaCfiGetTotalElements desc dimensions totalElems := by
  induction dimensions generalizing totalElems with
  | nil => rfl
  | cons i dimensions ih =>
      rw [vapaaCfiGetTotalElements_cons, vapaaCfiGetTotalElements_cons,
        CDesc.before_record (inside i List.mem_cons_self),
        funext (ih fun k member => inside k (List.mem_cons_of_mem i member))]

private theorem createElements_before (array : 1 ≤ desc.rank)
    (count elementDatatype arrayDatatype : Int) :
    createElements unbounded mpi (desc.before pastEnd) count elementDatatype arrayDatatype =
      createElements unbounded mpi desc count elementDatatype arrayDatatype := by
  unfold createElements
  rw [readDim_before array]

private theorem createPlane_before (plane : 2 ≤ desc.rank)
    (count elemLen extent0 extent1 elementDatatype arrayDatatype : Int) :
    createPlane unbounded mpi (desc.before pastEnd) count elemLen extent0 extent1 elementDatatype
        arrayDatatype =
      createPlane unbounded mpi desc count elemLen extent0 extent1 elementDatatype
        arrayDatatype := by
  have loops : (loops2d unbounded (desc.before pastEnd) extent0 extent1 :
      (Int → Filling → Flow Filling) → Filling → Flow Filling) =
        loops2d unbounded desc extent0 extent1 := by
    funext body state
    rw [loops2d_eq_nestPlaced, loops2d_eq_nestPlaced, CDesc.before_record (by omega),
      CDesc.before_record plane]
  simp only [createPlane, createContiguousRows, createRows, loops,
    @readDim_before desc pastEnd 0 (by omega), @readDim_before desc pastEnd 1 plane]

private theorem createSpace_before (space : 3 ≤ desc.rank)
    (count extent0 extent1 elementDatatype arrayDatatype : Int) :
    createSpace unbounded mpi (desc.before pastEnd) count extent0 extent1 elementDatatype
        arrayDatatype =
      createSpace unbounded mpi desc count extent0 extent1 elementDatatype arrayDatatype := by
  have loops (extent2 : Int) :
      (loops3d unbounded (desc.before pastEnd) extent0 extent1 extent2 :
        (Int → Filling → Flow Filling) → Filling → Flow Filling) =
          loops3d unbounded desc extent0 extent1 extent2 := by
    funext body state
    rw [loops3d_eq_nestPlaced, loops3d_eq_nestPlaced, CDesc.before_record (by omega),
      CDesc.before_record (by omega), CDesc.before_record space]
  simp only [createSpace, loops, @readDim_before desc pastEnd 2 space]

private theorem loops15d_before {σ : Type} (body : Int → σ → Flow σ) (state : σ) :
    loops15d unbounded (desc.before pastEnd) (extents15d unbounded (desc.before pastEnd)) body
        state =
      loops15d unbounded desc (extents15d unbounded desc) body state := by
  have strides : (desc.before pastEnd).strides = desc.strides :=
    List.map_congr_left fun k member =>
      congrArg Dim.sm (CDesc.before_record (List.mem_range.mp member))
  have extents : (List.range desc.rank).map
      (fun i => toInt ((desc.before pastEnd).record i).extent) =
        (List.range desc.rank).map fun i => toInt (desc.record i).extent :=
    List.map_congr_left fun k member =>
      congrArg (fun dim : Dim => toInt dim.extent) (CDesc.before_record (List.mem_range.mp member))
  have rank : (desc.before pastEnd).rank = desc.rank := rfl
  rw [loops15d_eq_nestPlaced, loops15d_eq_nestPlaced, extents15d_plain, extents15d_plain,
    CDesc.strides15d, CDesc.strides15d, strides, rank, extents]

private theorem vapaaCfiCreateDatatype15d_before (count inputDatatype arrayDatatype : Int) :
    Builder.vapaaCfiCreateDatatype15d unbounded mpi (desc.before pastEnd) count inputDatatype
        arrayDatatype =
      Builder.vapaaCfiCreateDatatype15d unbounded mpi desc count inputDatatype arrayDatatype := by
  have loops : (loops15d unbounded (desc.before pastEnd)
        (extents15d unbounded (desc.before pastEnd)) :
        (Int → Filling → Flow Filling) → Filling → Flow Filling) =
      loops15d unbounded desc (extents15d unbounded desc) := by
    funext body state
    exact loops15d_before body state
  have type : (desc.before pastEnd).type = desc.type := rfl
  simp only [Builder.vapaaCfiCreateDatatype15d, plain_call, plain_rounds, pure_bind, loops, type]

private theorem vapaaCfiCreateElementAddresses_before :
    Builder.vapaaCfiCreateElementAddresses unbounded mpi (desc.before pastEnd) =
      Builder.vapaaCfiCreateElementAddresses unbounded mpi desc := by
  have rank : (desc.before pastEnd).rank = desc.rank := rfl
  have base : (desc.before pastEnd).baseAddr = desc.baseAddr := rfl
  have totals := @vapaaCfiGetTotalElements_before desc pastEnd (List.range desc.rank)
    (fun k => List.mem_range.mp) 1
  simp only [Builder.vapaaCfiCreateElementAddresses, Builder.vapaaCfiGetTotalElements_plain,
    plain_call, plain_rounds, pure_bind, rank, base, totals, loops15d_before]

/-- A vector's second extent is read, but what is found there makes no difference. -/
theorem createPrefix_before (array : 1 ≤ desc.rank)
    (count elemLen elementDatatype inputDatatype arrayDatatype : Int) :
    createPrefix unbounded mpi (desc.before pastEnd) count elemLen elementDatatype inputDatatype
        arrayDatatype =
      createPrefix unbounded mpi desc count elemLen elementDatatype inputDatatype
        arrayDatatype := by
  have elements := @createElements_before mpi desc pastEnd array count elementDatatype
    arrayDatatype
  have rank : (desc.before pastEnd).rank = desc.rank := rfl
  unfold createPrefix
  rw [readDim_before array, rank, elements]
  obtain vector | plane : desc.rank = 1 ∨ 2 ≤ desc.rank := by omega
  · simp only [vector, true_or, if_true]
    simp only [readDim_plain, pure_bind]
  · have planes := @createPlane_before mpi desc pastEnd plane
    have fits (extent0 extent1 : Int) :
        fitsPlane (desc.before pastEnd) count extent0 extent1 =
          fitsPlane desc count extent0 extent1 := rfl
    by_cases space : desc.rank = 3
    · have spaces := @createSpace_before mpi desc pastEnd (by omega)
      simp only [readDim_before plane, fits, planes, spaces, if_pos space]
    · simp only [readDim_before plane, fits, planes, if_neg space,
        vapaaCfiCreateDatatype15d_before]

private theorem createFromNamed_before (array : 1 ≤ desc.rank)
    (count inputDatatype arrayDatatype : Int) :
    createFromNamed unbounded mpi (desc.before pastEnd) count inputDatatype arrayDatatype =
      createFromNamed unbounded mpi desc count inputDatatype arrayDatatype := by
  have rank : (desc.before pastEnd).rank = desc.rank := rfl
  have type : (desc.before pastEnd).type = desc.type := rfl
  have elemLen : (desc.before pastEnd).elemLen = desc.elemLen := rfl
  have counts := @countElements_before mpi desc pastEnd (List.range desc.rank)
    (fun k => List.mem_range.mp) 1
  have prefixes := @createPrefix_before mpi desc pastEnd array
  simp only [createFromNamed, countedElements, createCounted, rank, type, elemLen, counts,
    prefixes]

/-- Nothing that lies behind the descriptor of an array reaches the datatype built for it. -/
theorem vapaaCfiCreateDatatype_before (array : 1 ≤ desc.rank)
    (count inputDatatype arrayDatatype : Int) :
    vapaaCfiCreateDatatype mpi (desc.before pastEnd) count inputDatatype arrayDatatype =
      vapaaCfiCreateDatatype mpi desc count inputDatatype arrayDatatype := by
  have elemLen : (desc.before pastEnd).elemLen = desc.elemLen := rfl
  have type : (desc.before pastEnd).type = desc.type := rfl
  have indexed : Builder.vapaaCfiCreateIndexed unbounded mpi (desc.before pastEnd) count
      inputDatatype arrayDatatype =
        Builder.vapaaCfiCreateIndexed unbounded mpi desc count inputDatatype arrayDatatype := by
    simp only [Builder.vapaaCfiCreateIndexed, indexedArrays, elemLen, type,
      vapaaCfiCreateElementAddresses_before]
  simp only [Vapaa.vapaaCfiCreateDatatype, Builder.vapaaCfiCreateDatatype, indexed,
    createFromNamed_before array]

end Behind

end Vapaa
