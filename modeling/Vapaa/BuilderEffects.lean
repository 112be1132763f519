import Vapaa.UnmappedSections

/-! What the builder does to the datatypes of a process, whatever it is given. -/

set_option autoImplicit false

namespace Vapaa

open Foundation Builder

/-- The call leaves all datatypes as they are. -/
def Keeps {α : Type} (run : Call α) : Prop :=
  ∀ world, Run.Ensures run world fun _ final => final.types = world.types

section Keeping

variable {α β : Type} {mpi : Mpi}

theorem keeps_pure (value : α) : Keeps (pure value) :=
  fun _ => Run.ensures_pure rfl

theorem Keeps.bind {run : Call α} {next : α → Call β} (first : Keeps run)
    (rest : ∀ value, Keeps (next value)) : Keeps (run >>= next) := by
  intro world
  refine (first world).bind ?_
  intro value middle same
  exact (rest value middle).mono fun _ _ kept => kept.trans same

private theorem keeps_of_undefined (fault : Fault) : Keeps (Run.undefined fault : Call α) :=
  fun _ => Run.ensures_of_undefined rfl

private theorem keeps_ofOutcome (outcome : Outcome α) : Keeps (Run.ofOutcome outcome) :=
  fun _ => Run.ensures_ofOutcome fun _ _ => rfl

theorem keeps_readSet (found : Option α) : Keeps (Run.readSet found) :=
  fun _ => Run.ensures_readSet fun _ _ => rfl

theorem keeps_assert (condition : Bool) : Keeps (vapaaAssert mpi condition) :=
  fun world => (vapaaAssert_ensures mpi condition world).mono fun _ _ ended => ended.1 ▸ rfl

theorem keeps_warning (text : String) : Keeps (vapaaWarning text) :=
  fun _ => Run.ensures_of_returned (vapaaWarning_apply text) rfl

theorem keeps_readDim (desc : CDesc) (i : Nat) : Keeps (readDim unbounded desc i) :=
  keeps_pure _

private theorem keeps_intResult (value : Int) : Keeps (intResult value) := by
  rw [intResult]
  split_ifs
  · exact keeps_pure _
  · exact keeps_of_undefined _

private theorem keeps_ssizeResult (value : Int) : Keeps (ssizeResult value) := by
  rw [ssizeResult]
  split_ifs
  · exact keeps_pure _
  · exact keeps_of_undefined _

theorem keeps_quotient (left right : Int) : Keeps (quotient left right) :=
  fun _ => (quotient_same left right).mono fun _ _ same => same ▸ rfl

theorem keeps_remainder (left right : Int) : Keeps (remainder left right) := by
  rw [remainder]
  split_ifs
  · exact keeps_of_undefined _
  · exact keeps_pure _

theorem keeps_fitsPlane (desc : CDesc) (count extent0 extent1 : Int) :
    Keeps (fitsPlane desc count extent0 extent1) :=
  fun _ => fitsPlane_same.mono fun _ _ same => same ▸ rfl

theorem keeps_vapaaCfiToMpiType (type : Int) : Keeps (vapaaCfiToMpiType mpi type) := by
  rw [vapaaCfiToMpiType]
  cases mappedType mpi type with
  | some element => exact keeps_pure element
  | none => exact (keeps_warning _).bind fun _ => keeps_pure _

private theorem keeps_query {run : Call α} (handle : Int) (found : TypeObject → α) (missing : α)
    (asks : ∀ world, run world = match world.types.object handle with
      | some object => .returned (found object, world)
      | none => .returned (missing, world)) : Keeps run := by
  intro world result final returned
  rw [asks] at returned
  cases live : world.types.object handle with
  | some object =>
      rw [live] at returned
      cases returned
      rfl
  | none =>
      rw [live] at returned
      cases returned
      rfl

private theorem keeps_getEnvelope (handle : Int) : Keeps (pmpiTypeGetEnvelope mpi handle) :=
  keeps_query handle _ _ fun _ => rfl

private theorem keeps_typeSize (handle : Int) : Keeps (pmpiTypeSize mpi handle) :=
  keeps_query handle _ _ fun _ => rfl

private theorem keeps_getExtent (handle : Int) : Keeps (mpiTypeGetExtent mpi handle) :=
  keeps_query handle _ _ fun _ => rfl

private theorem keeps_typeIovLen (handle : Int) (limit : Nat) : Keeps
    (mpixTypeIovLen mpi handle limit) :=
  keeps_query handle _ _ fun _ => rfl

private theorem keeps_typeIov (handle : Int) (iov : Cells Segment) (room : Nat) :
    Keeps (mpixTypeIov mpi handle iov room) := by
  intro world result final returned
  rw [mpixTypeIov] at returned
  cases live : world.types.object handle with
  | some object =>
      rw [live] at returned
      dsimp only at returned
      split_ifs at returned
      cases returned
      rfl
  | none =>
      rw [live] at returned
      cases returned
      rfl

theorem keeps_isBuiltin (handle : Int) : Keeps (vapaaMpiDatatypeIsBuiltin mpi handle) :=
  (keeps_getEnvelope handle).bind fun _ => (keeps_assert _).bind fun _ =>
    (keeps_readSet _).bind fun _ => keeps_pure _

private theorem keeps_getTotalElements (desc : CDesc) (dimensions : List Nat) (totalElems : Int) :
    Keeps (vapaaCfiGetTotalElements desc dimensions totalElems) := by
  induction dimensions generalizing totalElems with
  | nil => exact keeps_pure _
  | cons i dimensions ih =>
      exact (keeps_readDim desc i).bind fun _ => (keeps_ssizeResult _).bind fun total => ih total

private theorem keeps_fillArrays (count : Int)
    (loops : (Int → Filling → Flow Filling) → Filling → Flow Filling) :
    Keeps (fillArrays unbounded mpi count loops) :=
  fun world => (fillArrays_ensures mpi count loops world).mono fun _ _ filled => filled.1 ▸ rfl

private theorem keeps_elementAddresses (desc : CDesc) :
    Keeps (vapaaCfiCreateElementAddresses mpi desc) :=
  (keeps_getTotalElements desc _ 1).bind fun _ => (keeps_assert _).bind fun _ =>
    (keeps_ofOutcome _).bind fun _ => keeps_pure _

private theorem keeps_createMpixIov (handle : Int) : Keeps (vapaaCreateMpixIov mpi handle) := by
  rw [vapaaCreateMpixIov]
  cases mpi.iovSupport with
  | available =>
      exact (keeps_typeIovLen _ _).bind fun _ => (keeps_assert _).bind fun _ =>
        (keeps_readSet _).bind fun _ => (keeps_assert _).bind fun _ =>
        (keeps_typeIov _ _ _).bind fun _ => (keeps_assert _).bind fun _ =>
        (keeps_readSet _).bind fun _ => (keeps_ofOutcome _).bind fun _ => keeps_pure _
  | mpichTooOld => exact keeps_of_undefined _
  | notMpich => exact (keeps_warning _).bind fun _ => keeps_pure _

private theorem keeps_indexedArrays (desc : CDesc) (count inputDatatype : Int) :
    Keeps (indexedArrays mpi desc count inputDatatype) := by
  refine (keeps_createMpixIov inputDatatype).bind fun _ => (keeps_assert _).bind fun _ =>
    (keeps_readSet _).bind fun iov => (keeps_getExtent inputDatatype).bind fun _ =>
    (keeps_assert _).bind fun _ => (keeps_readSet _).bind fun bounds => ?_
  dsimp only
  split_ifs
  · exact keeps_of_undefined _
  · exact (keeps_assert _).bind fun _ => (keeps_assert _).bind fun _ => keeps_pure _

end Keeping

/-- What a construction does: it leaves every datatype and the caller's handle as they
were, reporting success only without assertions, or it adds one datatype. -/
inductive Constructed (mpi : Mpi) (before : TypeStore) (initial : Int) (result : Int × Int)
    (final : World) : Prop where
  | untouched (restored : before.Restored final.types) (handle : result.2 = initial)
      (reported : result.1 = mpi.errorClass .success → mpi.seatbelts = false)
  | created {layout : Layout} (creates : TypeStore.Creates before final.types result.2
      { combiner := .derived, layout := layout, committed := false })

section Constructing

variable {mpi : Mpi} {desc : CDesc} {world : World} {before : TypeStore} {count : Int}
variable {element initial : Int}

theorem Unbuilt.constructed {result : Int × Int} {final : World}
    (unbuilt : Unbuilt mpi before initial result final) :
    Constructed mpi before initial result final := by
  obtain ⟨same, handle, reported⟩ := unbuilt
  exact .untouched (same ▸ TypeStore.Restored.refl _) handle reported

/-- Constructions look at nothing but the datatypes before them. -/
theorem Keeps.constructs {α : Type} {run : Call α} {next : α → Call (Int × Int)} (keeps : Keeps run)
    (rest : ∀ value middle, middle.types = world.types →
      Run.Ensures (next value) middle (Constructed mpi middle.types initial)) :
    Run.Ensures (run >>= next) world (Constructed mpi world.types initial) := by
  refine (keeps world).bind ?_
  intro value middle same
  have constructed := rest value middle same
  rw [same] at constructed
  exact constructed

/-- A constructor of the library refuses, or it makes a new datatype. -/
def Made (mpi : Mpi) (before : World) (initial : Int) (result : Int × Int) (final : World) : Prop :=
  (final = before ∧ result.2 = initial ∧ result.1 ≠ mpi.errorClass .success) ∨
    result.1 = mpi.errorClass .success ∧ ∃ layout,
      TypeStore.Creates before.types final.types result.2
        { combiner := .derived, layout := layout, committed := false }

private theorem pmpiTypeCreateHvector_of_accepted {old : TypeObject} (blocklength stride : Int)
    (counted : ¬ count < 0) (blocked : ¬ blocklength < 0)
    (live : world.types.object element = some old) :
    pmpiTypeCreateHvector mpi count blocklength stride element initial world =
      createType mpi (old.layout.hvector count.toNat blocklength.toNat stride) world := by
  simp only [pmpiTypeCreateHvector, if_neg counted, if_neg blocked, live]

theorem pmpiTypeCreateHvector_made (blocklength stride : Int) :
    Run.Ensures (pmpiTypeCreateHvector mpi count blocklength stride element initial) world
      (Made mpi world initial) := by
  by_cases refused : count < 0 ∨ blocklength < 0 ∨ world.types.object element = none
  · exact (pmpiTypeCreateHvector_refused refused).mono fun _ _ unchanged => Or.inl unchanged
  · obtain ⟨counted, blocked, present⟩ : ¬ count < 0 ∧ ¬ blocklength < 0 ∧
        world.types.object element ≠ none := by
      simpa only [not_or] using refused
    obtain ⟨old, live⟩ := Option.ne_none_iff_exists'.mp present
    exact Run.ensures_of_returned
      (pmpiTypeCreateHvector_of_accepted blocklength stride counted blocked live)
      (Or.inr ⟨rfl, _, TypeStore.creates_create _ _⟩)

private theorem pmpiTypeCreateHindexed_made (blocklengths displacements : Cells Int) :
    Run.Ensures (pmpiTypeCreateHindexed mpi count blocklengths displacements element initial) world
      (Made mpi world initial) := by
  cases live : world.types.object element with
  | none => exact (pmpiTypeCreateHindexed_refused live).mono fun _ _ unchanged => Or.inl unchanged
  | some old =>
      rw [pmpiTypeCreateHindexed]
      split_ifs
      · exact Run.ensures_pure (Or.inl ⟨rfl, rfl, by simp⟩)
      · refine (ensures_ofOutcome_same _).bind ?_
        rintro lengths middle rfl
        refine (ensures_ofOutcome_same _).bind ?_
        rintro starts middle rfl
        split_ifs
        · exact Run.ensures_pure (Or.inl ⟨rfl, rfl, by simp⟩)
        · intro result final returned
          simp only [live] at returned
          cases returned
          exact Or.inr ⟨rfl, _, TypeStore.creates_create _ _⟩

theorem Made.checked {run : Call (Int × Int)}
    (made : Run.Ensures run world (Made mpi world initial)) :
    Run.Ensures (do
        let (rc, handle) ← run
        vapaaAssert mpi (rc = mpi.errorClass .success)
        return (mpi.errorClass .success, handle) : Call (Int × Int)) world
      (Constructed mpi world.types initial) := by
  refine made.bind ?_
  rintro ⟨rc, handle⟩ middle attempt
  refine (vapaaAssert_ensures mpi _ middle).bind ?_
  rintro _ final ⟨rfl, asserted⟩
  refine Run.ensures_pure ?_
  cases attempt with
  | inl refused =>
      obtain ⟨rfl, same, failed⟩ := refused
      refine .untouched (TypeStore.Restored.refl _) same fun _ => ?_
      exact asserted.resolve_left fun succeeded => failed (of_decide_eq_true succeeded)
  | inr built =>
      obtain ⟨-, layout, creates⟩ := built
      exact .created creates

theorem createElements_constructed :
    Run.Ensures (createElements unbounded mpi desc count element initial) world
      (Constructed mpi world.types initial) :=
  (keeps_readDim desc 0).constructs fun dim _ _ =>
    Made.checked (pmpiTypeCreateHvector_made 1 dim.sm)

theorem createContiguousRows_constructed {extent0 : Int} :
    Run.Ensures (createContiguousRows unbounded mpi desc count extent0 element initial) world
      (Constructed mpi world.types initial) :=
  (keeps_readDim desc 1).constructs fun dim _ _ =>
    (keeps_quotient count extent0).constructs fun _ _ _ =>
      Made.checked (pmpiTypeCreateHvector_made extent0 dim.sm)

private theorem pmpiTypeFree_of_derived {handle : Int} {layout : Layout} {committed : Bool}
    (live : world.types.object handle =
      some { combiner := .derived, layout := layout, committed := committed }) :
    pmpiTypeFree mpi handle world =
      .returned ((mpi.errorClass .success, mpi.datatype .datatypeNull),
        { world with types := world.types.remove handle }) := by
  simp only [pmpiTypeFree, live]

/-- Two datatypes of which the first is freed again are one. -/
theorem TypeStore.Creates.remove_first {first second third : TypeStore} {temporary handle : Int}
    {inner outer : TypeObject} (creates : TypeStore.Creates first second temporary inner)
    (again : TypeStore.Creates second third handle outer) :
    TypeStore.Creates first (third.remove temporary) handle outer := by
  have other : handle ≠ temporary := by
    rintro rfl
    have unused := again.unused
    rw [creates.live] at unused
    cases unused
  refine ⟨le_trans creates.later again.fresh, le_trans creates.later again.later, ?_, ?_⟩
  · rw [TypeStore.remove_object_of_ne _ other, again.live]
  · intro found different
    by_cases removed : found = temporary
    · rw [removed, TypeStore.remove_object_removed, creates.unused]
    · rw [TypeStore.remove_object_of_ne _ removed, again.others found different,
        creates.others found removed]

private theorem active_or_off {condition : Bool}
    (asserted : condition = true ∨ mpi.seatbelts = false)
    (failed : condition = false) : mpi.seatbelts = false := by
  refine asserted.resolve_left fun holds => ?_
  rw [failed] at holds
  cases holds

/-- The temporary datatype of the rows is freed whether or not the array is built. -/
theorem createRows_constructed {extent0 stride0 : Int}
    (nullDead : mpi.seatbelts = true ∨ world.types.object (mpi.datatype .datatypeNull) = none) :
    Run.Ensures (createRows unbounded mpi desc count extent0 stride0 element initial) world
      (Constructed mpi world.types initial) := by
  by_cases refused : extent0 < 0 ∨ world.types.object element = none
  · cases nullDead with
    | inr dead => exact (createRows_unbuilt refused dead).mono fun _ _ => Unbuilt.constructed
    | inl active =>
        refine (pmpiTypeCreateHvector_refused (refused.imp_right Or.inr)).bind ?_
        rintro ⟨rc, temporary⟩ first ⟨rfl, -, failed⟩
        refine (vapaaAssert_ensures mpi _ first).bind ?_
        rintro _ final ⟨rfl, asserted⟩
        have off := active_or_off asserted (decide_eq_false failed)
        rw [active] at off
        cases off
  · obtain ⟨counted, present⟩ := not_or.mp refused
    obtain ⟨old, live⟩ := Option.ne_none_iff_exists'.mp present
    refine Run.ensures_bind_of_returned
      (pmpiTypeCreateHvector_of_accepted 1 stride0 counted (by decide) live) ?_
    have creates := TypeStore.creates_create world.types
      { combiner := .derived, layout := old.layout.hvector extent0.toNat (Int.toNat 1) stride0,
        committed := false }
    refine (keeps_assert _ _).bind ?_
    intro _ asserted sameAsserted
    refine (keeps_readDim desc 1 asserted).bind ?_
    intro dim read sameRead
    refine (keeps_quotient count extent0 read).bind ?_
    intro rows divided sameDivided
    have same : divided.types = world.types.create _ :=
      sameDivided.trans (sameRead.trans sameAsserted)
    refine (pmpiTypeCreateHvector_made 1 dim.sm).bind ?_
    rintro ⟨rc, handle⟩ outer attempt
    refine (vapaaAssert_ensures mpi _ outer).bind ?_
    rintro _ checked ⟨rfl, assertion⟩
    rw [← same] at creates
    cases attempt with
    | inl refusal =>
        obtain ⟨rfl, same, failed⟩ := refusal
        refine Run.ensures_bind_of_returned (pmpiTypeFree_of_derived creates.live) ?_
        refine (vapaaAssert_ensures mpi _ _).bind ?_
        rintro _ freed ⟨rfl, -⟩
        refine Run.ensures_pure (.untouched creates.remove same fun _ => ?_)
        exact active_or_off assertion (decide_eq_false failed)
    | inr built =>
        obtain ⟨-, layout, again⟩ := built
        refine Run.ensures_bind_of_returned
          (pmpiTypeFree_of_derived (again.keeps creates.live)) ?_
        refine (vapaaAssert_ensures mpi _ _).bind ?_
        rintro _ freed ⟨rfl, -⟩
        exact Run.ensures_pure (.created (creates.remove_first again))

theorem createSingles_constructed {elementDatatype : Call Int}
    {loops : (Int → Filling → Flow Filling) → Filling → Flow Filling}
    (keeps : Keeps elementDatatype) :
    Run.Ensures (createSingles unbounded mpi count loops elementDatatype initial) world
      (Constructed mpi world.types initial) :=
  (keeps_fillArrays count loops).constructs fun _ _ _ =>
    keeps.constructs fun _ _ _ => Made.checked (pmpiTypeCreateHindexed_made _ _)

private theorem createPlane_constructed {elemLen extent0 extent1 : Int}
    (nullDead : mpi.seatbelts = true ∨ world.types.object (mpi.datatype .datatypeNull) = none) :
    Run.Ensures (createPlane unbounded mpi desc count elemLen extent0 extent1 element initial) world
      (Constructed mpi world.types initial) := by
  refine (keeps_remainder count extent0).constructs fun partialRow first sameFirst => ?_
  split_ifs
  · refine (keeps_readDim desc 0).constructs fun dim second sameSecond => ?_
    dsimp only
    split_ifs
    · exact createContiguousRows_constructed
    · rw [← sameFirst, ← sameSecond] at nullDead
      exact createRows_constructed nullDead
  · exact createSingles_constructed (keeps_pure element)

theorem createSpace_constructed {extent0 extent1 : Int} :
    Run.Ensures (createSpace unbounded mpi desc count extent0 extent1 element initial) world
      (Constructed mpi world.types initial) :=
  (keeps_readDim desc 2).constructs fun _ _ _ => createSingles_constructed (keeps_pure element)

private theorem refused_constructed {rc : Int} {text : String}
    (failed : rc ≠ mpi.errorClass .success) :
    Run.Ensures (do
        vapaaWarning text
        return (rc, initial) : Call (Int × Int)) world (Constructed mpi world.types initial) :=
  (keeps_warning text).constructs fun _ _ _ =>
    Run.ensures_pure (.untouched (TypeStore.Restored.refl _) rfl fun same => absurd same failed)

theorem vapaaCfiCreateDatatype15d_constructed {inputDatatype : Int} :
    Run.Ensures (vapaaCfiCreateDatatype15d mpi desc count inputDatatype initial) world
      (Constructed mpi world.types initial) := by
  refine (keeps_isBuiltin inputDatatype).constructs fun named middle _ => ?_
  cases named with
  | true => exact createSingles_constructed (keeps_vapaaCfiToMpiType desc.type)
  | false => exact refused_constructed (by simp)

theorem Constructed.checked {run : Call (Int × Int)}
    (constructed : Run.Ensures run world (Constructed mpi world.types initial)) :
    Run.Ensures (do
        let (rc, handle) ← run
        vapaaAssert mpi (rc = mpi.errorClass .success)
        return (mpi.errorClass .success, handle) : Call (Int × Int)) world
      (Constructed mpi world.types initial) := by
  refine constructed.bind ?_
  rintro ⟨rc, handle⟩ middle ended
  refine (vapaaAssert_ensures mpi _ middle).bind ?_
  rintro _ final ⟨rfl, asserted⟩
  refine Run.ensures_pure ?_
  cases ended with
  | untouched restored same reported =>
      refine .untouched restored same fun _ => ?_
      obtain succeeded | off := asserted
      · exact reported (of_decide_eq_true succeeded)
      · exact off
  | created creates => exact .created creates

private theorem createPrefix_constructed {elemLen inputDatatype : Int}
    (nullDead : mpi.seatbelts = true ∨ world.types.object (mpi.datatype .datatypeNull) = none) :
    Run.Ensures (createPrefix unbounded mpi desc count elemLen element inputDatatype initial) world
      (Constructed mpi world.types initial) := by
  refine (keeps_readDim desc 0).constructs fun dim0 first sameFirst => ?_
  refine (keeps_readDim desc 1).constructs fun dim1 second sameSecond => ?_
  rw [← sameFirst, ← sameSecond] at nullDead
  dsimp only
  by_cases column : desc.rank = 1 ∨ count ≤ toInt dim0.extent
  · rw [if_pos column]
    exact createElements_constructed
  · rw [if_neg column]
    refine (keeps_fitsPlane desc count _ _).constructs fun planar third sameThird => ?_
    rw [← sameThird] at nullDead
    split_ifs
    · exact createPlane_constructed nullDead
    · exact createSpace_constructed
    · exact Constructed.checked vapaaCfiCreateDatatype15d_constructed
    · exact refused_constructed (by simp)

theorem verifySize_same {elemLen handle : Int} :
    Run.Ensures (verifySize mpi count elemLen handle) world fun result final =>
      final.types = world.types ∧ result.2 = handle := by
  refine (keeps_typeSize handle world).bind ?_
  intro size first sameFirst
  refine (keeps_readSet size.2 first).bind ?_
  intro typeSize second sameSecond
  refine (keeps_intResult (count * elemLen) second).bind ?_
  intro expected third sameThird
  have same := sameThird.trans (sameSecond.trans sameFirst)
  split_ifs
  · refine (keeps_warning _ third).bind ?_
    intro _ final sameFinal
    exact Run.ensures_pure ⟨sameFinal.trans same, rfl⟩
  · exact Run.ensures_pure ⟨same, rfl⟩

private theorem createCounted_constructed {totalElems inputDatatype : Int}
    (nullDead : mpi.seatbelts = true ∨ world.types.object (mpi.datatype .datatypeNull) = none) :
    Run.Ensures (createCounted unbounded mpi desc count totalElems element inputDatatype initial) world
      (Constructed mpi world.types initial) := by
  simp only [createCounted]
  split_ifs
  · exact refused_constructed (by simp)
  · refine (createPrefix_constructed nullDead).bind ?_
    rintro ⟨rc, handle⟩ middle ended
    dsimp only
    split_ifs with failed
    · exact Run.ensures_pure ended
    · refine verifySize_same.mono ?_
      rintro ⟨code, verified⟩ final ⟨sameTypes, rfl⟩
      cases ended with
      | untouched restored same reported =>
          exact .untouched (sameTypes ▸ restored) same fun _ => reported (not_ne_iff.mp failed)
      | created creates => exact .created (sameTypes ▸ creates)

private theorem createFromNamed_constructed {inputDatatype : Int}
    (nullDead : mpi.seatbelts = true ∨ world.types.object (mpi.datatype .datatypeNull) = none) :
    Run.Ensures (createFromNamed unbounded mpi desc count inputDatatype initial) world
      (Constructed mpi world.types initial) := by
  simp only [createFromNamed, countedElements, plain_call, bind_assoc, pure_bind]
  refine (keeps_vapaaCfiToMpiType desc.type).constructs fun element first sameFirst => ?_
  rw [← sameFirst] at nullDead
  refine (countElements_ensures mpi desc first).bind ?_
  rintro counted second ⟨same, rfl | ⟨rc, rfl, failed⟩⟩
  · rw [← same] at nullDead ⊢
    exact createCounted_constructed nullDead
  · exact Run.ensures_pure
      (.untouched (same ▸ TypeStore.Restored.refl _) rfl fun succeeded => absurd succeeded failed)

theorem vapaaCfiCreateIndexed_constructed {inputDatatype : Int} :
    Run.Ensures (vapaaCfiCreateIndexed mpi desc count inputDatatype initial) world
      (Constructed mpi world.types initial) := by
  rw [vapaaCfiCreateIndexed, Builder.vapaaCfiCreateIndexed]
  cases mpi.iovSupport with
  | mpichTooOld => exact Run.ensures_of_undefined rfl
  | notMpich => exact refused_constructed (by simp)
  | available =>
      dsimp only [plain_call]
      refine (keeps_indexedArrays desc count inputDatatype).constructs fun arrays _ _ => ?_
      refine (keeps_elementAddresses desc).constructs fun input _ _ => ?_
      refine (keeps_ofOutcome _).constructs fun selection _ _ => ?_
      refine (keeps_assert _).constructs fun _ _ _ => ?_
      refine (keeps_vapaaCfiToMpiType desc.type).constructs fun elemDt _ _ => ?_
      exact Made.checked (pmpiTypeCreateHindexed_made _ _)

/-- The builder leaves the datatypes alone or adds one, for every descriptor, count and
datatype. -/
theorem vapaaCfiCreateDatatype_constructed {inputDatatype : Int}
    (nullDead : mpi.seatbelts = true ∨ world.types.object (mpi.datatype .datatypeNull) = none) :
    Run.Ensures (vapaaCfiCreateDatatype mpi desc count inputDatatype initial) world
      (Constructed mpi world.types initial) := by
  refine (keeps_isBuiltin inputDatatype).constructs fun named middle same => ?_
  rw [← same] at nullDead
  cases named with
  | true => exact createFromNamed_constructed nullDead
  | false => exact Constructed.checked vapaaCfiCreateIndexed_constructed

end Constructing

end Vapaa
