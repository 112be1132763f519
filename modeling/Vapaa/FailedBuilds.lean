import Vapaa.TemporaryTypes

/-!
# Builds that fail

What a failing build leaves behind, and what the wrappers do after it.
-/

set_option autoImplicit false

namespace Vapaa

open Foundation Builder

/-- The request gets past every check before the construction: its datatype is created and
only then compared with the size of the elements. -/
structure CDesc.Attempted (mpi : Mpi) (desc : CDesc) (count : Int) : Prop where
  mapped : ∃ element, mappedType mpi desc.type = some element
  counted : 0 ≤ count
  scalar : desc.rank = 0 → count ≤ 1 ∧ desc.ScalarPassed mpi count.toNat
  array : 1 ≤ desc.rank → desc.Countable ∧ count ≤ desc.leadingElements desc.rank ∧
    (desc.rank = cfiMaxRank → desc.InColumn count.toNat ∨ desc.InPlane count.toNat)

section Builder

variable {mpi : Mpi} {desc : CDesc} {world : World} {count : Int}
variable {element initial inputDatatype : Int} {old input : TypeObject}

/-- The call leaves the datatypes and the caller's handle as they were. -/
def Untouched (types : TypeStore) (handle : Int) (result : Int × Int) (final : World) : Prop :=
  final.types = types ∧ result.2 = handle

private theorem createSingles_of_negative {elementDatatype : Call Int}
    {loops : (Int → Filling → Flow Filling) → Filling → Flow Filling} (negative : count < 0)
    (keeps : Keeps elementDatatype) :
    Run.Ensures (createSingles unbounded mpi count loops elementDatatype initial) world
      (Unbuilt mpi world.types initial) := by
  rw [createSingles]
  refine (fillArrays_ensures mpi count loops world).bind ?_
  rintro ⟨lengths, filling⟩ filled ⟨rfl, -⟩
  refine (keeps filled).bind ?_
  intro element found same
  have refused : pmpiTypeCreateHindexed mpi count lengths filling.cells element initial found =
      .returned ((mpi.errorClass .errCount, initial), found) := by
    rw [pmpiTypeCreateHindexed, if_pos negative]
    rfl
  refine Run.ensures_bind_of_returned refused ?_
  exact assertReturn_ensures same fun succeeded => absurd succeeded (by simp)

private theorem createElements_of_negative (negative : count < 0) :
    Run.Ensures (createElements unbounded mpi desc count element initial) world
      (Unbuilt mpi world.types initial) := by
  rw [createElements, readDim_plain, pure_bind]
  refine (pmpiTypeCreateHvector_refused (Or.inl negative)).bind ?_
  rintro ⟨rc, handle⟩ final ⟨rfl, rfl, failed⟩
  exact assertReturn_ensures rfl fun succeeded => absurd succeeded failed

theorem Keeps.unbuilt {α : Type} {run : Call α} {next : α → Call (Int × Int)} (keeps : Keeps run)
    (rest : ∀ value middle, middle.types = world.types →
      Run.Ensures (next value) middle (Unbuilt mpi middle.types initial)) :
    Run.Ensures (run >>= next) world (Unbuilt mpi world.types initial) := by
  refine (keeps world).bind ?_
  intro value middle same
  have unbuilt := rest value middle same
  rw [same] at unbuilt
  exact unbuilt

private theorem refused_unbuilt {rc : Int} {text : String} (failed : rc ≠ mpi.errorClass .success) :
    Run.Ensures (do
        vapaaWarning text
        return (rc, initial) : Call (Int × Int)) world (Unbuilt mpi world.types initial) :=
  (keeps_warning text).unbuilt fun _ _ _ =>
    Run.ensures_pure ⟨rfl, rfl, fun succeeded => absurd succeeded failed⟩

private theorem createPlane_of_negative {elemLen extent0 extent1 : Int} (negative : count < 0)
    (rows : extent0 < 0)
    (nullDead : world.types.object (mpi.datatype .datatypeNull) = none) :
    Run.Ensures (createPlane unbounded mpi desc count elemLen extent0 extent1 element initial) world
      (Unbuilt mpi world.types initial) := by
  refine (keeps_remainder count extent0).unbuilt fun partialRow first sameFirst => ?_
  split_ifs
  · refine (keeps_readDim desc 0).unbuilt fun dim second sameSecond => ?_
    dsimp only
    split_ifs
    · exact createContiguousRows_unbuilt (Or.inl rows)
    · rw [← sameFirst, ← sameSecond] at nullDead
      exact createRows_unbuilt (Or.inl rows) nullDead
  · exact createSingles_of_negative negative (keeps_pure element)

private theorem vapaaCfiCreateDatatype15d_of_negative (negative : count < 0) :
    Run.Ensures (vapaaCfiCreateDatatype15d mpi desc count inputDatatype initial) world
      (Unbuilt mpi world.types initial) := by
  refine (keeps_isBuiltin inputDatatype).unbuilt fun named middle _ => ?_
  cases named with
  | true => exact createSingles_of_negative negative (keeps_vapaaCfiToMpiType desc.type)
  | false => exact refused_unbuilt (by simp)

private theorem createPrefix_of_negative {elemLen : Int} (negative : count < 0)
    (nullDead : world.types.object (mpi.datatype .datatypeNull) = none) :
    Run.Ensures (createPrefix unbounded mpi desc count elemLen element inputDatatype initial) world
      (Unbuilt mpi world.types initial) := by
  refine (keeps_readDim desc 0).unbuilt fun dim0 first sameFirst => ?_
  refine (keeps_readDim desc 1).unbuilt fun dim1 second sameSecond => ?_
  rw [← sameFirst, ← sameSecond] at nullDead
  dsimp only
  by_cases column : desc.rank = 1 ∨ count ≤ toInt dim0.extent
  · rw [if_pos column]
    exact createElements_of_negative negative
  · rw [if_neg column]
    have rows : toInt dim0.extent < 0 := by
      have short := (not_or.mp column).2
      omega
    refine (keeps_fitsPlane desc count _ _).unbuilt fun planar third sameThird => ?_
    rw [← sameThird] at nullDead
    split_ifs
    · exact createPlane_of_negative negative rows nullDead
    · exact (keeps_readDim desc 2).unbuilt fun _ _ _ => (keeps_readDim desc 2).unbuilt fun _ _ _ =>
        (keeps_readDim desc 1).unbuilt fun _ _ _ => (keeps_readDim desc 0).unbuilt fun _ _ _ =>
        createSingles_of_negative negative (keeps_pure element)
    · exact checked_unbuilt (vapaaCfiCreateDatatype15d_of_negative negative)
    · exact refused_unbuilt (by simp)

private theorem verified_untouched {run : Call (Int × Int)} {elemLen : Int}
    (unbuilt : Run.Ensures run world (Unbuilt mpi world.types initial)) :
    Run.Ensures (run >>= fun result =>
        if result.1 ≠ mpi.errorClass .success then return (result.1, result.2)
        else verifySize mpi count elemLen result.2) world
      (Untouched world.types initial) := by
  refine unbuilt.bind ?_
  rintro ⟨rc, handle⟩ middle ⟨sameTypes, same, -⟩
  dsimp only at same ⊢
  split_ifs
  · exact Run.ensures_pure ⟨sameTypes, same⟩
  · exact verifySize_same.mono fun _ _ kept => ⟨kept.1.trans sameTypes, kept.2.trans same⟩

/-- Whatever stops a request before its construction, nothing is changed. -/
theorem createPrefix_of_not_attempted {elemLen : Int} (wellFormed : desc.WellFormed)
    (countable : desc.Countable) (within : count ≤ desc.leadingElements desc.rank)
    (inputLive : world.types.object inputDatatype = some input) (named : input.combiner = .named)
    (mapped : mappedType mpi desc.type = some element)
    (live : world.types.object element = some old)
    (nullDead : world.types.object (mpi.datatype .datatypeNull) = none)
    (stopped : ¬ desc.Attempted mpi count) :
    Run.Ensures (createPrefix unbounded mpi desc count elemLen element inputDatatype initial) world
      (Unbuilt mpi world.types initial) := by
  by_cases negative : count < 0
  · exact createPrefix_of_negative negative nullDead
  obtain ⟨count, rfl⟩ := Int.eq_ofNat_of_zero_le (not_lt.mp negative)
  by_cases scalar : desc.rank = 0
  · rw [scalar, desc.leadingElements_zero] at within
    have few : count ≤ 1 := by omega
    obtain ⟨passed, -⟩ | ⟨-, unbuilt⟩ := createPrefix_scalar_cases elemLen initial scalar few
      inputLive named mapped live nullDead
    · refine absurd ?_ stopped
      exact ⟨⟨element, mapped⟩, Int.natCast_nonneg count, fun _ => ⟨within, passed⟩,
        fun ranked => absurd scalar (by omega)⟩
    · exact unbuilt
  · have ranked : 1 ≤ desc.rank := Nat.one_le_iff_ne_zero.mpr scalar
    have unsupported : ¬ (desc.rank = cfiMaxRank → desc.InColumn count ∨ desc.InPlane count) :=
      fun supported => stopped ⟨⟨element, mapped⟩, Int.natCast_nonneg count,
        fun flat => absurd flat scalar, fun _ => ⟨countable, within, supported⟩⟩
    obtain ⟨-, -, -, -, supported, -⟩ | ⟨halts, -⟩ | ⟨-, -, -, final, returned, same⟩ :=
      createPrefix_cases elemLen initial ranked wellFormed countable within inputLive named mapped
        live
    · exact absurd supported unsupported
    · exact halts.ensures
    · exact Run.ensures_of_returned returned
        ⟨same, rfl, fun succeeded => absurd succeeded (by simp)⟩

private theorem createPrefix_of_attempted {elemLen : Int} (wellFormed : desc.WellFormed)
    (inputLive : world.types.object inputDatatype = some input) (named : input.combiner = .named)
    (mapped : mappedType mpi desc.type = some element)
    (live : world.types.object element = some old)
    (nullDead : world.types.object (mpi.datatype .datatypeNull) = none)
    (attempted : desc.Attempted mpi count) :
    Run.Ensures (createPrefix unbounded mpi desc count elemLen element inputDatatype initial) world
      fun result final => result.1 = mpi.errorClass .success ∧ ∃ layout,
        TypeStore.Creates world.types final.types result.2
          { combiner := .derived, layout := layout, committed := false } := by
  have built {layout : Layout} {run : Call (Int × Int)} (builds : Builds mpi run world layout) :
      Run.Ensures run world fun result final => result.1 = mpi.errorClass .success ∧ ∃ layout,
        TypeStore.Creates world.types final.types result.2
          { combiner := .derived, layout := layout, committed := false } := by
    obtain ⟨handle, final, returned, creates⟩ := builds
    exact Run.ensures_of_returned returned ⟨rfl, layout, creates⟩
  obtain ⟨count, rfl⟩ := Int.eq_ofNat_of_zero_le attempted.counted
  by_cases scalar : desc.rank = 0
  · obtain ⟨few, passed⟩ := attempted.scalar scalar
    obtain ⟨-, builds⟩ | ⟨stopped, -⟩ := createPrefix_scalar_cases elemLen initial scalar
      (by exact_mod_cast few) inputLive named mapped live nullDead
    · exact built builds
    · exact absurd passed stopped
  · have ranked : 1 ≤ desc.rank := Nat.one_le_iff_ne_zero.mpr scalar
    obtain ⟨countable, within, supported⟩ := attempted.array ranked
    obtain ⟨_, builds, -⟩ | ⟨halts, -⟩ | ⟨highest, column, plane, -⟩ :=
      createPrefix_cases elemLen initial ranked wellFormed countable within inputLive named mapped
        live
    · exact built builds
    · exact halts.ensures
    · obtain inColumn | inPlane := supported highest
      · exact absurd inColumn column
      · exact absurd inPlane plane

theorem CDesc.Countable.of_scalar (scalar : desc.rank = 0) : desc.Countable := by
  intro k inside
  omega

private theorem countElements_countable :
    Run.Ensures (countElements unbounded mpi desc (List.range desc.rank) 1) world
      fun counted final =>
      final.types = world.types ∧
        (counted = .ok (desc.leadingElements desc.rank) ∧ desc.Countable ∨
          ¬ desc.Countable ∧ ∃ rc, counted = .error rc ∧ rc ≠ mpi.errorClass .success) := by
  obtain ⟨final, counting, same, countable⟩ | ⟨rc, final, counting, same, failed, large⟩ |
    ⟨counting, -⟩ := countElements_whole mpi desc world
  · exact Run.ensures_of_returned counting ⟨same, Or.inl ⟨rfl, countable⟩⟩
  · exact Run.ensures_of_returned counting ⟨same, Or.inr ⟨large, rc, rfl, failed⟩⟩
  · exact Run.ensures_of_undefined counting

/-- A request for a named datatype creates one if it is attempted, and else changes nothing. -/
theorem createFromNamed_attempted (wellFormed : desc.WellFormed) (basic : world.types.Basic mpi)
    (inputLive : world.types.object inputDatatype = some input) (named : input.combiner = .named) :
    Run.Ensures (createFromNamed unbounded mpi desc count inputDatatype initial) world
      fun result final =>
      (desc.Attempted mpi count → ∃ layout,
        TypeStore.Creates world.types final.types result.2
          { combiner := .derived, layout := layout, committed := false }) ∧
      (¬ desc.Attempted mpi count → Untouched world.types initial result final) := by
  simp only [createFromNamed, countedElements, plain_call, bind_assoc, pure_bind]
  cases mapped : mappedType mpi desc.type with
  | none =>
      have stopped : ¬ desc.Attempted mpi count := by
        rintro ⟨⟨element, found⟩, -⟩
        rw [mapped] at found
        cases found
      refine (vapaaCfiToMpiType_of_unmapped mapped).bind ?_
      rintro _ first ⟨rfl, same⟩
      rw [← same] at inputLive basic ⊢
      refine (countElements_ensures mpi desc first).bind ?_
      rintro counted second ⟨same, rfl | ⟨rc, rfl, failed⟩⟩
      · rw [← same] at inputLive basic ⊢
        simp only [createCounted]
        split_ifs
        · refine Run.ensures_bind_of_returned (vapaaWarning_apply _) (Run.ensures_pure ?_)
          exact ⟨fun attempted => absurd attempted stopped, fun _ => ⟨rfl, rfl⟩⟩
        · refine (verified_untouched
            (createPrefix_unbuilt inputLive named mapped basic.null)).mono ?_
          exact fun _ _ kept => ⟨fun attempted => absurd attempted stopped, fun _ => kept⟩
      · exact Run.ensures_pure
          ⟨fun attempted => absurd attempted stopped, fun _ => ⟨same, rfl⟩⟩
  | some element =>
      obtain ⟨old, live, -⟩ := basic.elements _ element mapped
      refine Run.ensures_bind_of_returned (vapaaCfiToMpiType_of_mapped mapped world) ?_
      refine countElements_countable.bind ?_
      rintro counted second ⟨same, ⟨rfl, countable⟩ | ⟨large, rc, rfl, failed⟩⟩
      · rw [← same] at inputLive basic live ⊢
        simp only [createCounted]
        split_ifs with overrun
        · refine Run.ensures_bind_of_returned (vapaaWarning_apply _) (Run.ensures_pure ?_)
          refine ⟨fun attempted => ?_, fun _ => ⟨rfl, rfl⟩⟩
          by_cases scalar : desc.rank = 0
          · have few := (attempted.scalar scalar).1
            rw [scalar, desc.leadingElements_zero] at overrun
            omega
          · have within := (attempted.array (Nat.one_le_iff_ne_zero.mpr scalar)).2.1
            omega
        · by_cases attempted : desc.Attempted mpi count
          · refine (createPrefix_of_attempted wellFormed inputLive named mapped live basic.null
              attempted).bind ?_
            rintro ⟨_, handle⟩ middle ⟨rfl, layout, creates⟩
            simp only [ne_eq, not_true_eq_false, if_false]
            refine verifySize_same.mono ?_
            rintro ⟨rc, verified⟩ final ⟨sameTypes, rfl⟩
            rw [← sameTypes] at creates
            exact ⟨fun _ => ⟨layout, creates⟩, fun stopped => absurd attempted stopped⟩
          · refine (verified_untouched (createPrefix_of_not_attempted wellFormed countable
              (not_lt.mp overrun) inputLive named mapped live basic.null attempted)).mono ?_
            exact fun _ _ kept => ⟨fun tried => absurd tried attempted, fun _ => kept⟩
      · refine Run.ensures_pure ⟨fun attempted => ?_, fun _ => ⟨same, rfl⟩⟩
        by_cases scalar : desc.rank = 0
        · exact absurd (CDesc.Countable.of_scalar scalar) large
        · exact absurd (attempted.array (Nat.one_le_iff_ne_zero.mpr scalar)).1 large

private theorem vapaaCfiCreateDatatype_of_dead (dead : world.types.object inputDatatype = none) :
    Run.Ensures (vapaaCfiCreateDatatype mpi desc count inputDatatype initial) world
      fun _ _ => False := by
  have missing : pmpiTypeGetEnvelope mpi inputDatatype world =
      .returned ((mpi.errorClass .errType, none), world) := by
    simp only [pmpiTypeGetEnvelope, dead]
  refine Run.ensures_bind_of_never (Run.ensures_bind_of_returned missing ?_)
  exact Run.ensures_bind_of_all fun _ _ =>
    Run.ensures_bind_of_never (Run.ensures_of_undefined rfl)

/-- A failed build leaves the datatypes and the caller's handle alone exactly when it was not
attempted. -/
theorem vapaaCfiCreateDatatype_failed (wellFormed : desc.WellFormed)
    (basic : world.types.Basic mpi) :
    Run.Ensures (vapaaCfiCreateDatatype mpi desc count inputDatatype initial) world
      fun result final => result.1 ≠ mpi.errorClass .success →
        (desc.Attempted mpi count → ∃ layout,
          TypeStore.Creates world.types final.types result.2
            { combiner := .derived, layout := layout, committed := false }) ∧
        (¬ desc.Attempted mpi count → Untouched world.types initial result final) := by
  cases live : world.types.object inputDatatype with
  | none => exact (vapaaCfiCreateDatatype_of_dead live).mono fun _ _ never => never.elim
  | some input =>
      rw [vapaaCfiCreateDatatype]
      refine Run.ensures_bind_of_returned (vapaaMpiDatatypeIsBuiltin_of_live live) ?_
      by_cases named : input.combiner = .named
      · simp only [named, decide_true, if_true]
        exact (createFromNamed_attempted wellFormed basic live named).mono fun _ _ ended _ => ended
      · simp only [named, decide_false, Bool.false_eq_true, if_false]
        refine Run.ensures_bind_of_all fun created _ => Run.ensures_bind_of_all fun _ _ => ?_
        exact Run.ensures_pure fun failed => absurd rfl failed

end Builder

/-- One call of the builder: its arguments, and the value of `*array_datatype` before it. -/
structure BuildRequest where
  desc : CDesc
  count : Int
  datatype : Int
  initial : Int

namespace BuildRequest

def build (mpi : Mpi) (request : BuildRequest) : Call (Int × Int) :=
  vapaaCfiCreateDatatype mpi request.desc request.count request.datatype request.initial

def Fails (mpi : Mpi) (request : BuildRequest) (world : World) : Prop :=
  Run.Returns (request.build mpi) world fun result _ => result.1 ≠ mpi.errorClass .success

end BuildRequest

namespace SectionCall

/-- The request of a wrapper for one section. -/
def request (mpi : Mpi) (desc : CDesc) (count datatypeF : Int) :
    List (Wrapper Unit × BuildRequest) :=
  if mpi.cfiIsContiguous desc = 1 then []
  else [(pure (), ⟨desc, count, cMpiTypeF2c mpi datatypeF, mpi.datatype .datatypeNull⟩)]

/-- The requests of a block collective: the variable for the new datatype starts as the
datatype of the caller. -/
def blockRequests (mpi : Mpi) (input : CDesc) (scount stypeF : Int) (output : CDesc)
    (rcount rtypeF : Int) : List (Wrapper Unit × BuildRequest) :=
  (if mpi.cfiIsContiguous input = 1 then []
    else [(pure (), ⟨input, scount, cMpiTypeF2c mpi stypeF, cMpiTypeF2c mpi stypeF⟩)]) ++
  if mpi.cfiIsContiguous output = 1 then []
  else [(effect (openSide mpi input scount (cMpiTypeF2c mpi stypeF)),
    ⟨output, rcount, cMpiTypeF2c mpi rtypeF, cMpiTypeF2c mpi rtypeF⟩)]

/-- The requests that a wrapper makes of the builder, each with what it does before. -/
def requests (mpi : Mpi) : SectionCall → List (Wrapper Unit × BuildRequest)
  | send desc count datatypeF _ _ _ => request mpi desc count datatypeF
  | isend desc count datatypeF _ _ _ => request mpi desc count datatypeF
  | recv desc count datatypeF _ _ _ _ => request mpi desc count datatypeF
  | irecv desc count datatypeF _ _ _ => request mpi desc count datatypeF
  | mrecv desc count datatypeF _ _ => request mpi desc count datatypeF
  | imrecv desc count datatypeF _ => request mpi desc count datatypeF
  | sendrecv sdesc scount sdatatypeF _ _ rdesc rcount rdatatypeF _ _ _ _ =>
      if mpi.cfiIsContiguous sdesc = 1 then []
      else [
        (pure (), ⟨sdesc, scount, cMpiTypeF2c mpi sdatatypeF, mpi.datatype .datatypeNull⟩),
        (effect (openSubarray mpi sdesc scount (cMpiTypeF2c mpi sdatatypeF)
            (mpi.datatype .datatypeNull) pure),
          ⟨rdesc, rcount, cMpiTypeF2c mpi rdatatypeF, mpi.datatype .datatypeNull⟩)]
  | pack indesc incount datatypeF outdesc _ _ _ _ =>
      if mpi.cfiIsContiguous outdesc = 0 then [] else request mpi indesc incount datatypeF
  | unpack indesc _ _ outdesc outcount datatypeF _ _ =>
      if mpi.cfiIsContiguous indesc = 0 then [] else request mpi outdesc outcount datatypeF
  | bcast desc count datatypeF _ _ => request mpi desc count datatypeF
  | gather input scount stypeF output rcount rtypeF _ _ =>
      blockRequests mpi input scount stypeF output rcount rtypeF
  | allgather input scount stypeF output rcount rtypeF _ =>
      blockRequests mpi input scount stypeF output rcount rtypeF
  | scatter input scount stypeF output rcount rtypeF _ _ =>
      blockRequests mpi input scount stypeF output rcount rtypeF
  | alltoall input scount stypeF output rcount rtypeF _ =>
      blockRequests mpi input scount stypeF output rcount rtypeF

/-- Started in one state, the wrapper makes the request in another. -/
def Requests (mpi : Mpi) (callee : SectionCall) (before : Process) (request : BuildRequest)
    (during : Process) : Prop :=
  ∃ earlier, (earlier, request) ∈ callee.requests mpi ∧ earlier before = .returned ((), during)

/-- The library does not take a handle for a datatype that is none. -/
def RejectsDead (mpi : Mpi) (reply : Reply) (issued : List Issued) : Prop :=
  (∃ call ∈ issued, ∃ buffer ∈ call.buffers, buffer.object = none) →
    reply.rc ≠ mpi.errorClass .success ∧ reply.received = []

def Rejects (mpi : Mpi) (reply : Reply) (issued : List Issued) : SectionCall → Prop
  | pack _ _ _ _ _ _ _ answer => ∀ buffer process, buffer.object = none →
      (answer buffer process).1.1 ≠ mpi.errorClass .success ∧
        (answer buffer process).2 = process.memory
  | unpack _ _ _ _ _ _ _ answer => ∀ buffer process, buffer.object = none →
      (answer buffer process).1.1 ≠ mpi.errorClass .success ∧
        (answer buffer process).2 = process.memory
  | _ => RejectsDead mpi reply issued

/-- The wrapper ends the program, or it reports an error and has transferred nothing. -/
def NoTransfer (mpi : Mpi) (reply : Reply) (callee : SectionCall) (process : Process) : Prop :=
  Run.Ensures (callee.ierror mpi reply) process fun code final =>
    ∀ issued, final.issued = process.issued ++ issued → callee.Rejects mpi reply issued →
      code ≠ ErrorClass.success.vapaa ∧ final.memory = process.memory

end SectionCall

/-- A failed build has no effect: not on the datatypes, not on the variable of the caller, and
none through any wrapper that asked for it. -/
structure Harmless (mpi : Mpi) (request : BuildRequest) (during : Process) : Prop where
  untouched : Run.Ensures (request.build mpi) during.world fun result final =>
    Untouched during.world.types request.initial result final
  unsent : ∀ (callee : SectionCall) (reply : Reply) (before : Process),
    callee.Requests mpi before request during → callee.NoTransfer mpi reply before

section Wrappers

variable {α β : Type} {mpi : Mpi} {reply : Reply} {process : Process} {desc : CDesc}
variable {request : BuildRequest} {rejects : List Issued → Prop}

/-- Only the code of a success has the class of a success. -/
def Mpi.SuccessOnly (mpi : Mpi) : Prop :=
  ∀ rc, mpi.errorClassOf rc = some (mpi.errorClass .success) → rc = mpi.errorClass .success

/-- The run has not the code of a success, and leaves the memory alone. -/
def Declines (mpi : Mpi) (rejects : List Issued → Prop) (code : α → Int) (run : Wrapper α)
    (process : Process) : Prop :=
  Run.Ensures run process fun value final =>
    ∀ issued, final.issued = process.issued ++ issued → rejects issued →
      code value ≠ mpi.errorClass .success ∧ final.memory = process.memory

private theorem vapaaCode_failed (only : mpi.SuccessOnly) {rc code : Int}
    (failed : rc ≠ mpi.errorClass .success) (coded : VapaaCode mpi rc code) :
    code ≠ ErrorClass.success.vapaa := by
  have nonzero (errorClass : ErrorClass) (same : errorClass.vapaa = ErrorClass.success.vapaa) :
      errorClass = .success := by
    revert same
    cases errorClass <;> decide
  rw [VapaaCode, if_neg failed] at coded
  obtain ⟨error, classified, ⟨errorClass, -, number, rfl⟩ | ⟨-, rfl⟩⟩ := coded
  · intro same
    rw [nonzero errorClass same] at number
    rw [← number] at classified
    exact failed (only rc classified)
  · decide

/-- A code that is no success stays one. -/
theorem cMpiRcFix_failed (only : mpi.SuccessOnly) {rc : Int}
    (failed : rc ≠ mpi.errorClass .success) (world : World) :
    Run.Ensures (cMpiRcFix mpi rc) world fun code _ => code ≠ mpi.errorClass .success := by
  rw [cMpiRcFix, if_pos failed]
  refine (cMpiErrorCodeC2f_code failed world).mono fun code _ coded => ?_
  rw [mpi.success_eq]
  exact vapaaCode_failed only failed coded

private theorem call_frame (run : Call α) :
    Run.Ensures (call run) process fun _ final =>
      final.issued = process.issued ∧ final.memory = process.memory := by
  intro value final returned
  obtain ⟨world, -, rfl⟩ := Run.zoom_eq_returned.mp returned
  exact ⟨rfl, rfl⟩

/-- A code that is no success stays one through `C_MPI_RC_FIX`. -/
theorem Declines.fixed (only : mpi.SuccessOnly) {run : Wrapper Int}
    (declines : Declines mpi rejects id run process) :
    Run.Ensures (run >>= fun ierror => call (cMpiRcFix mpi ierror)) process fun code final =>
      ∀ issued, final.issued = process.issued ++ issued → rejects issued →
        code ≠ ErrorClass.success.vapaa ∧ final.memory = process.memory := by
  refine Run.Ensures.bind declines ?_
  intro rc middle declined
  refine ((call_frame _).and (cMpiRcFix_code rc)).mono ?_
  rintro code final ⟨⟨calls, memory⟩, coded⟩ issued listed rejected
  obtain ⟨failed, unchanged⟩ := declined issued (calls ▸ listed) rejected
  exact ⟨vapaaCode_failed only failed coded, memory.trans unchanged⟩

theorem Declines.fixed_with (only : mpi.SuccessOnly) {run : Wrapper α} {get : β → Int}
    {code : α → Int} {result : α → Int → β} (gets : ∀ value code, get (result value code) = code)
    (declines : Declines mpi rejects code run process) :
    Run.Ensures (get <$> (run >>= fun value => do
        return result value (← call (cMpiRcFix mpi (code value))))) process fun code final =>
      ∀ issued, final.issued = process.issued ++ issued → rejects issued →
        code ≠ ErrorClass.success.vapaa ∧ final.memory = process.memory := by
  refine Run.ensures_map (Run.Ensures.bind declines ?_)
  intro value middle declined
  refine ((call_frame _).and (cMpiRcFix_code (code value))).bind ?_
  rintro fixed final ⟨⟨calls, memory⟩, coded⟩
  refine Run.ensures_pure fun issued listed rejected => ?_
  obtain ⟨failed, unchanged⟩ := declined issued (calls ▸ listed) rejected
  rw [gets]
  exact ⟨vapaaCode_failed only failed coded, memory.trans unchanged⟩

/-- With assertions nothing follows a build that fails; without them the handle is the one
that the variable started with. -/
theorem openSubarray_failed {count datatype initial : Int} {next : Int → Wrapper α}
    {post : α → Process → Prop}
    (fails : BuildRequest.Fails mpi ⟨desc, count, datatype, initial⟩ process.world)
    (untouched : Run.Ensures (BuildRequest.build mpi ⟨desc, count, datatype, initial⟩)
      process.world fun result final => Untouched process.world.types initial result final)
    (dead : mpi.seatbelts = false → process.world.types.object initial = none)
    (rest : mpi.seatbelts = false → ∀ opened : World, opened.types = process.world.types →
      Run.Ensures (next initial) { process with world := opened } post) :
    Run.Ensures (openSubarray mpi desc count datatype initial next) process post := by
  obtain ⟨⟨rc, handle⟩, opened, returned, failed⟩ := fails
  obtain ⟨same, unchanged⟩ := untouched _ _ returned
  dsimp only at failed unchanged
  subst unchanged
  refine Run.ensures_bind_of_returned (call_of_returned returned) ?_
  refine (call_ensures (vapaaAssert_ensures mpi _ _)).bind ?_
  rintro _ final ⟨last, ⟨rfl, succeeded | off⟩, rfl⟩
  · exact absurd (of_decide_eq_true succeeded) failed
  · have refused : pmpiTypeCommit mpi handle last =
        .returned (mpi.errorClass .errType, last) := by
      simp only [pmpiTypeCommit, same, dead off]
    refine Run.ensures_bind_of_returned (call_of_returned refused) ?_
    refine (call_ensures (vapaaAssert_ensures mpi _ _)).bind ?_
    rintro _ after ⟨asserted, ⟨rfl, -⟩, rfl⟩
    exact rest off _ same

private theorem openSubarray_bind {count datatype initial : Int} (next : Int → Wrapper α) :
    openSubarray mpi desc count datatype initial next =
      openSubarray mpi desc count datatype initial pure >>= next := by
  simp only [openSubarray, bind_assoc, pure_bind]

private theorem closeSubarray_frame (handle : Int) (value : α) :
    Run.Ensures (closeSubarray mpi handle (pure value)) process fun result final =>
      result = value ∧ final.issued = process.issued ∧ final.memory = process.memory := by
  refine (call_frame _).bind ?_
  rintro ⟨rc, freed⟩ middle ⟨issued, memory⟩
  refine (call_frame _).bind ?_
  rintro _ final ⟨issued', memory'⟩
  exact Run.ensures_pure ⟨rfl, issued'.trans issued, memory'.trans memory⟩

/-- A section whose build failed is passed, if at all, with a handle for no datatype. -/
theorem withSection_declines {code : α → Int} {communicate : Int → Int → Int → Wrapper α}
    (scattered : mpi.cfiIsContiguous request.desc ≠ 1)
    (initial_eq : request.initial = mpi.datatype .datatypeNull)
    (nullDead : process.world.types.object request.initial = none)
    (fails : request.Fails mpi process.world)
    (untouched : Run.Ensures (request.build mpi) process.world fun result final =>
      Untouched process.world.types request.initial result final)
    (declines : ∀ middle : Process, middle.issued = process.issued →
      middle.memory = process.memory → middle.world.types.object request.initial = none →
        Declines mpi rejects code
          (communicate request.desc.baseAddr 1 request.initial) middle) :
    Declines mpi rejects code
      (withSection mpi request.desc request.count request.datatype communicate) process := by
  rw [withSection, if_neg scattered, withSubarrayType_eq, ← initial_eq]
  refine openSubarray_failed fails untouched (fun _ => nullDead) fun _ opened same => ?_
  refine (declines { process with world := opened } rfl rfl (by rw [same]; exact nullDead)).bind ?_
  intro value middle declined
  refine (closeSubarray_frame request.initial value).mono ?_
  rintro _ final ⟨rfl, calls, memory⟩ issued listed rejected
  obtain ⟨failed, unchanged⟩ := declined issued (calls ▸ listed) rejected
  exact ⟨failed, memory.trans unchanged⟩

private theorem declines_of_dead {run : Wrapper Int} {final : Process} {call : Issued}
    {handle : Int} (dead : process.world.types.object handle = none)
    (returned : run process = .returned (reply.rc, final))
    (listed : final.issued = process.issued ++ [call])
    (unreceived : reply.received = [] → final.memory = process.memory)
    (given : ∃ address count, process.world.types.buffer address count handle ∈ call.buffers) :
    Declines mpi (SectionCall.RejectsDead mpi reply) id run process := by
  refine Run.ensures_of_returned returned ?_
  intro issued same rejected
  have single : issued = [call] := List.append_cancel_left (same.symm.trans listed)
  subst single
  obtain ⟨address, count, given⟩ := given
  obtain ⟨failed, nothing⟩ :=
    rejected ⟨call, List.mem_singleton_self call, _, given, dead⟩
  exact ⟨failed, unreceived nothing⟩

theorem SectionCall.mem_request {earlier : Wrapper Unit} {count datatypeF : Int}
    (member : (earlier, request) ∈ SectionCall.request mpi desc count datatypeF) :
    mpi.cfiIsContiguous desc ≠ 1 ∧ earlier = pure () ∧
      request = ⟨desc, count, cMpiTypeF2c mpi datatypeF, mpi.datatype .datatypeNull⟩ := by
  rw [SectionCall.request] at member
  split_ifs at member with contiguous
  · cases member
  · obtain ⟨rfl, rfl⟩ := Prod.ext_iff.mp (List.mem_singleton.mp member)
    exact ⟨contiguous, rfl, rfl⟩

private theorem section_noTransfer {code : α → Int} {before during : Process}
    {count datatypeF : Int}
    {communicate : Int → Int → Int → Wrapper α}
    (basic : during.world.types.Basic mpi) (fails : request.Fails mpi during.world)
    (untouched : Run.Ensures (request.build mpi) during.world fun result final =>
      Untouched during.world.types request.initial result final)
    (asked : ∃ earlier, (earlier, request) ∈ SectionCall.request mpi desc count datatypeF ∧
      earlier before = .returned ((), during))
    (declines : ∀ (middle : Process) handle, middle.world.types.object handle = none →
      Declines mpi rejects code (communicate desc.baseAddr 1 handle) middle) :
    Declines mpi rejects code
      (withSection mpi desc count (cMpiTypeF2c mpi datatypeF) communicate) before := by
  obtain ⟨earlier, member, reached⟩ := asked
  obtain ⟨scattered, rfl, rfl⟩ := SectionCall.mem_request member
  cases reached
  exact withSection_declines scattered rfl basic.null fails untouched
    fun middle _ _ dead => declines middle _ dead

theorem BuildRequest.Fails.live (fails : request.Fails mpi process.world) :
    process.world.types.object request.datatype ≠ none := by
  intro dead
  obtain ⟨result, final, returned, -⟩ := fails
  exact vapaaCfiCreateDatatype_of_dead dead _ _ returned

private theorem statusArgument_same (status : Int) :
    Run.Ensures (statusArgument mpi status) process fun _ final => final = process :=
  Run.ensures_of_returned (statusArgument_apply mpi status process) rfl

private theorem inPlaceArgument_same (address : Int) :
    Run.Ensures (inPlaceArgument mpi address) process fun _ final => final = process :=
  Run.ensures_of_returned (inPlaceArgument_apply mpi address process) rfl

theorem Declines.after {first : Wrapper α} {next : α → Wrapper Int}
    (same : Run.Ensures first process fun _ final => final = process)
    (declines : ∀ value, Declines mpi rejects id (next value) process) :
    Declines mpi rejects id (first >>= next) process := by
  refine same.bind ?_
  rintro value _ rfl
  exact declines value

private theorem deliver_nothing (memory : Memory Int UInt8) (buffer : Buffer)
    {received : List UInt8}
    (nothing : received = []) : memory.writeAll (buffer.locations.zip received) = memory := by
  rw [nothing, List.zip_nil_right]
  rfl

theorem TypeStore.Basic.commit {types : TypeStore} (basic : types.Basic mpi) (handle : Int) :
    (types.commit handle).Basic mpi where
  elements := by
    intro type element mapped
    obtain ⟨old, live, solid⟩ := basic.elements type element mapped
    refine ⟨if element = handle then { old with committed := true } else old, ?_, ?_⟩
    · simp [TypeStore.commit, live]
    · split_ifs
      · exact solid
      · exact solid
  null := by simp [TypeStore.commit, basic.null]
  nullBelow := basic.nullBelow

private theorem openSubarray_basic {next : Int → Wrapper α} {post : α → Process → Prop}
    {count datatype initial : Int} (basic : process.world.types.Basic mpi)
    (rest : ∀ handle (opened : World), opened.types.Basic mpi →
      Run.Ensures (next handle) { process with world := opened } post) :
    Run.Ensures (openSubarray mpi desc count datatype initial next) process post := by
  refine (call_ensures (vapaaCfiCreateDatatype_constructed (Or.inr basic.null))).bind ?_
  rintro ⟨rc, handle⟩ middle ⟨built, constructed, rfl⟩
  have kept : built.types.Basic mpi := by
    cases constructed with
    | untouched restored _ _ => exact basic.of_restored restored
    | created creates => exact basic.of_creates creates
  refine (call_ensures (vapaaAssert_ensures mpi _ _)).bind ?_
  rintro _ final ⟨last, ⟨rfl, -⟩, rfl⟩
  have commits : Run.Ensures (pmpiTypeCommit mpi handle) last fun _ final =>
      final.types.Basic mpi := by
    intro rc final returned
    rw [pmpiTypeCommit] at returned
    cases live : last.types.object handle with
    | none =>
        rw [live] at returned
        cases returned
        exact kept
    | some object =>
        rw [live] at returned
        cases returned
        exact kept.commit handle
  refine (call_ensures commits).bind ?_
  rintro rc committed ⟨world, committedBasic, rfl⟩
  refine (call_ensures (vapaaAssert_ensures mpi _ _)).bind ?_
  rintro _ after ⟨asserted, ⟨rfl, -⟩, rfl⟩
  exact rest handle _ committedBasic

private theorem openSubarray_frame {count datatype initial : Int} :
    Run.Ensures (openSubarray mpi desc count datatype initial pure) process fun _ final =>
      final.issued = process.issued ∧ final.memory = process.memory := by
  refine (call_frame _).bind ?_
  rintro built middle ⟨calls, memory⟩
  refine (call_frame _).bind ?_
  rintro _ checked ⟨calls₁, memory₁⟩
  refine (call_frame _).bind ?_
  rintro _ committed ⟨calls₂, memory₂⟩
  refine (call_frame _).bind ?_
  rintro _ final ⟨calls₃, memory₃⟩
  refine Run.ensures_pure ⟨?_, ?_⟩
  · rw [calls₃, calls₂, calls₁, calls]
  · rw [memory₃, memory₂, memory₁, memory]

theorem Declines.closed {run : Wrapper Int} (first second : Int)
    (declines : Declines mpi rejects id run process) :
    Declines mpi rejects id
      (run >>= fun ierror => closeSubarray mpi first (closeSubarray mpi second (pure ierror)))
      process := by
  refine Run.Ensures.bind declines ?_
  intro rc middle declined
  refine (call_frame _).bind ?_
  rintro _ freed ⟨calls, memory⟩
  refine (call_frame _).bind ?_
  rintro _ asserted ⟨calls', memory'⟩
  refine (closeSubarray_frame second rc).mono ?_
  rintro _ final ⟨rfl, calls'', memory''⟩ issued listed rejected
  rw [calls'', calls', calls] at listed
  obtain ⟨failed, unchanged⟩ := declined issued listed rejected
  exact ⟨failed, memory''.trans (memory'.trans (memory.trans unchanged))⟩

private theorem cfiMpiSendrecv_noTransfer {before during : Process} (only : mpi.SuccessOnly)
    (basic : during.world.types.Basic mpi) (fails : request.Fails mpi during.world)
    (untouched : Run.Ensures (request.build mpi) during.world fun result final =>
      Untouched during.world.types request.initial result final)
    {sdesc rdesc : CDesc}
    {scount sdatatypeF dest stag rcount rdatatypeF src rtag commF status : Int}
    (asked : (SectionCall.sendrecv sdesc scount sdatatypeF dest stag rdesc rcount rdatatypeF src
      rtag commF status).Requests mpi before request during) :
    (SectionCall.sendrecv sdesc scount sdatatypeF dest stag rdesc rcount rdatatypeF src rtag commF
      status).NoTransfer mpi reply before := by
  obtain ⟨earlier, member, reached⟩ := asked
  rw [SectionCall.requests] at member
  split_ifs at member with contiguous
  · cases member
  -- either handle for no datatype makes the library reject the call
  have declines (middle : Process) (first second : Int)
      (dead : middle.world.types.object first = none ∨ middle.world.types.object second = none) :
      Declines mpi (SectionCall.RejectsDead mpi reply) id
        (statusArgument mpi status >>= fun pointer =>
          mpiSendrecv mpi reply sdesc.baseAddr 1 first dest stag rdesc.baseAddr 1 second src rtag
            (cMpiCommF2c mpi commF) pointer) middle := by
    refine Declines.after (statusArgument_same status) fun pointer => ?_
    cases dead with
    | inl dead =>
        refine declines_of_dead dead rfl rfl ?_ ⟨_, _, .head _⟩
        exact fun nothing => deliver_nothing _ _ nothing
    | inr dead =>
        refine declines_of_dead dead rfl rfl ?_ ⟨_, _, .tail _ (.head _)⟩
        exact fun nothing => deliver_nothing _ _ nothing
  rw [SectionCall.NoTransfer, SectionCall.ierror, cfiMpiSendrecv_of_scattered contiguous]
  refine Declines.fixed only ?_
  rcases List.mem_pair.mp member with same | same
  · obtain ⟨rfl, rfl⟩ := Prod.ext_iff.mp same
    cases reached
    refine openSubarray_failed fails untouched (fun _ => basic.null) fun _ opened same => ?_
    have kept : opened.types.Basic mpi := same ▸ basic
    refine openSubarray_basic kept fun second reopened again => ?_
    rw [← bind_assoc]
    refine Declines.closed _ _ (declines _ _ _ ?_)
    exact Or.inl again.null
  · obtain ⟨rfl, rfl⟩ := Prod.ext_iff.mp same
    obtain ⟨first, middle, opening, unit⟩ := Run.bind_eq_returned.mp reached
    cases unit
    obtain ⟨calls, memory⟩ := openSubarray_frame _ _ opening
    rw [openSubarray_bind]
    refine Run.ensures_bind_of_returned opening ?_
    refine openSubarray_failed fails untouched (fun _ => basic.null) fun _ opened same => ?_
    rw [← bind_assoc]
    have kept : opened.types.Basic mpi := same ▸ basic
    rw [← calls, ← memory]
    refine Declines.closed _ _ (declines { during with world := opened } _ _ ?_)
    exact Or.inr kept.null

private theorem cfiPacking_declines {before during : Process} (only : mpi.SuccessOnly)
    (basic : during.world.types.Basic mpi) (fails : request.Fails mpi during.world)
    (untouched : Run.Ensures (request.build mpi) during.world fun result final =>
      Untouched during.world.types request.initial result final)
    {warning : String} {packed : CDesc} {position count datatypeF : Int}
    {asks : Buffer → Issued} {answer : PackAnswer}
    (asked : ∃ earlier, (earlier, request) ∈
        (if mpi.cfiIsContiguous packed = 0 then [] else SectionCall.request mpi desc count datatypeF) ∧
      earlier before = .returned ((), during)) :
    Run.Ensures (Prod.snd <$> cfiPacking mpi warning packed position desc count datatypeF
        (answerPack asks answer)) before fun code final =>
      ∀ issued, final.issued = before.issued ++ issued →
        (∀ buffer process, buffer.object = none →
          (answer buffer process).1.1 ≠ mpi.errorClass .success ∧
            (answer buffer process).2 = process.memory) →
        code ≠ ErrorClass.success.vapaa ∧ final.memory = before.memory := by
  by_cases refused : mpi.cfiIsContiguous packed = 0
  · obtain ⟨earlier, member, -⟩ := asked
    rw [if_pos refused] at member
    cases member
  · rw [if_neg refused] at asked
    rw [cfiPacking, packing, if_neg refused]
    refine Declines.fixed_with only (fun _ _ => rfl)
      (section_noTransfer basic fails untouched asked ?_)
    intro middle handle dead
    refine Run.ensures_of_returned rfl fun issued _ rejected => ?_
    exact rejected (middle.world.types.buffer desc.baseAddr 1 handle) _ dead

/-- One side of a collective whose build fails: the variable held a datatype of the caller, so
the program ends. -/
theorem openSide_failed (active : mpi.seatbelts = true) {count datatype : Int}
    (scattered : mpi.cfiIsContiguous desc ≠ 1)
    (fails : BuildRequest.Fails mpi ⟨desc, count, datatype, datatype⟩ process.world)
    (untouched : Run.Ensures (BuildRequest.build mpi ⟨desc, count, datatype, datatype⟩)
      process.world fun result final => Untouched process.world.types datatype result final) :
    Run.Ensures (openSide mpi desc count datatype) process fun _ _ => False := by
  rw [openSide_of_scattered scattered]
  refine openSubarray_failed fails untouched (fun off => ?_) fun off => ?_
  · rw [active] at off
    cases off
  · rw [active] at off
    cases off

private theorem blockCollective_ends {before during : Process}
    (fails : request.Fails mpi during.world)
    (untouched : Run.Ensures (request.build mpi) during.world fun result final =>
      Untouched during.world.types request.initial result final)
    (dead : mpi.seatbelts = false → during.world.types.object request.initial = none)
    {input output : CDesc} {scount stypeF rcount rtypeF commF : Int}
    {communicate : Int → Int → Int → Int → Int → Int → Int → Wrapper Int}
    (asked : ∃ earlier,
      (earlier, request) ∈ SectionCall.blockRequests mpi input scount stypeF output rcount rtypeF ∧
        earlier before = .returned ((), during)) :
    Run.Ensures (blockCollective mpi input scount stypeF output rcount rtypeF commF communicate)
      before fun _ _ => False := by
  obtain ⟨earlier, member, reached⟩ := asked
  have active (same : request.initial = request.datatype) : mpi.seatbelts = true := by
    cases seatbelts : mpi.seatbelts with
    | true => rfl
    | false =>
        have gone := dead seatbelts
        rw [same] at gone
        exact absurd gone fails.live
  rw [blockCollective]
  refine (inPlaceArgument_same _).bind ?_
  rintro inAddr _ rfl
  refine (inPlaceArgument_same _).bind ?_
  rintro outAddr _ rfl
  rw [SectionCall.blockRequests, List.mem_append] at member
  cases member with
  | inl member =>
      split_ifs at member with contiguous
      · cases member
      · obtain ⟨rfl, rfl⟩ := Prod.ext_iff.mp (List.mem_singleton.mp member)
        cases reached
        exact Run.ensures_bind_of_never (openSide_failed (active rfl) contiguous fails untouched)
  | inr member =>
      split_ifs at member with contiguous
      · cases member
      · obtain ⟨rfl, rfl⟩ := Prod.ext_iff.mp (List.mem_singleton.mp member)
        obtain ⟨opened, middle, opening, unit⟩ := Run.bind_eq_returned.mp reached
        cases unit
        refine Run.ensures_bind_of_returned opening ?_
        exact Run.ensures_bind_of_never (openSide_failed (active rfl) contiguous fails untouched)

/-- A wrapper whose request failed transfers nothing: with assertions the program ends, and
without them the library is given a handle for no datatype. -/
theorem SectionCall.noTransfer_of_failed (only : mpi.SuccessOnly) {callee : SectionCall}
    {before during : Process} (basic : during.world.types.Basic mpi)
    (fails : request.Fails mpi during.world)
    (untouched : Run.Ensures (request.build mpi) during.world fun result final =>
      Untouched during.world.types request.initial result final)
    (dead : mpi.seatbelts = false → during.world.types.object request.initial = none)
    (asked : callee.Requests mpi before request during) :
    callee.NoTransfer mpi reply before := by
  cases callee with
  | send desc count datatypeF dest tag commF =>
      refine Declines.fixed only (section_noTransfer basic fails untouched asked ?_)
      intro middle handle dead
      refine declines_of_dead dead rfl rfl (fun _ => rfl) ?_
      exact ⟨_, _, List.mem_singleton_self _⟩
  | isend desc count datatypeF dest tag commF =>
      refine Declines.fixed_with only (fun _ _ => rfl)
        (section_noTransfer basic fails untouched asked ?_)
      intro middle handle dead
      refine declines_of_dead dead rfl rfl (fun _ => rfl) ?_
      exact ⟨_, _, List.mem_singleton_self _⟩
  | recv desc count datatypeF source tag commF status =>
      refine Declines.fixed only (section_noTransfer basic fails untouched asked ?_)
      intro middle handle dead
      refine Declines.after (statusArgument_same status) fun pointer => ?_
      refine declines_of_dead dead rfl rfl ?_ ⟨_, _, List.mem_singleton_self _⟩
      exact fun nothing => deliver_nothing _ _ nothing
  | irecv desc count datatypeF source tag commF =>
      refine Declines.fixed_with only (fun _ _ => rfl)
        (section_noTransfer basic fails untouched asked ?_)
      intro middle handle dead
      refine declines_of_dead dead rfl rfl (fun _ => rfl) ?_
      exact ⟨_, _, List.mem_singleton_self _⟩
  | mrecv desc count datatypeF messageF status =>
      refine Declines.fixed_with only (fun _ _ => rfl)
        (section_noTransfer basic fails untouched asked ?_)
      intro middle handle dead
      refine Declines.after (statusArgument_same status) fun pointer => ?_
      refine declines_of_dead dead rfl rfl ?_ ⟨_, _, List.mem_singleton_self _⟩
      exact fun nothing => deliver_nothing _ _ nothing
  | imrecv desc count datatypeF messageF =>
      refine Declines.fixed_with only (fun _ _ => rfl)
        (section_noTransfer basic fails untouched asked ?_)
      intro middle handle dead
      refine declines_of_dead dead rfl rfl (fun _ => rfl) ?_
      exact ⟨_, _, List.mem_singleton_self _⟩
  | sendrecv sdesc scount sdatatypeF dest stag rdesc rcount rdatatypeF src rtag commF status =>
      exact cfiMpiSendrecv_noTransfer only basic fails untouched asked
  | pack indesc incount datatypeF outdesc outsize position commF answer =>
      exact cfiPacking_declines only basic fails untouched asked
  | unpack indesc insize position outdesc outcount datatypeF commF answer =>
      exact cfiPacking_declines only basic fails untouched asked
  | bcast desc count datatypeF root commF =>
      refine Declines.fixed only (section_noTransfer basic fails untouched asked ?_)
      intro middle handle dead
      refine declines_of_dead dead rfl rfl (fun _ => rfl) ?_
      exact ⟨_, _, List.mem_singleton_self _⟩
  | gather input scount stypeF output rcount rtypeF root commF =>
      rw [NoTransfer, ierror, cfiMpiGather]
      exact (blockCollective_ends fails untouched dead asked).mono fun _ _ never => never.elim
  | allgather input scount stypeF output rcount rtypeF commF =>
      rw [NoTransfer, ierror, cfiMpiAllgather]
      exact (blockCollective_ends fails untouched dead asked).mono fun _ _ never => never.elim
  | scatter input scount stypeF output rcount rtypeF root commF =>
      rw [NoTransfer, ierror, cfiMpiScatter]
      exact (blockCollective_ends fails untouched dead asked).mono fun _ _ never => never.elim
  | alltoall input scount stypeF output rcount rtypeF commF =>
      rw [NoTransfer, ierror, cfiMpiAlltoall]
      exact (blockCollective_ends fails untouched dead asked).mono fun _ _ never => never.elim

private theorem vapaaAssert_off (off : mpi.seatbelts = false) (condition : Bool) :
    vapaaAssert mpi condition = pure () := by
  simp [vapaaAssert, off]

/-- Without assertions a section whose build failed is passed with the handle that its variable
started with. -/
theorem openSide_of_failed {count datatype : Int} {types : TypeStore} (off : mpi.seatbelts = false)
    (scattered : mpi.cfiIsContiguous desc ≠ 1) (live : types.object datatype ≠ none)
    (fails : BuildRequest.Fails mpi ⟨desc, count, datatype, datatype⟩ process.world)
    (untouched : Run.Ensures (BuildRequest.build mpi ⟨desc, count, datatype, datatype⟩)
      process.world fun result final => final.types = types ∧ result.2 = datatype) :
    Run.Returns (openSide mpi desc count datatype) process fun passed final =>
      passed.2 = datatype ∧ final.world.types.object datatype ≠ none ∧
        final.issued = process.issued := by
  obtain ⟨type, typed⟩ := Option.ne_none_iff_exists'.mp live
  obtain ⟨⟨rc, handle⟩, opened, returned, -⟩ := fails
  obtain ⟨same, unchanged⟩ := untouched _ _ returned
  dsimp only at unchanged
  subst unchanged same
  rw [openSide, if_neg scattered]
  refine Run.returns_bind_of_returned (call_of_returned returned) ?_
  have commits : pmpiTypeCommit mpi handle opened = .returned (mpi.errorClass .success,
      { opened with types := opened.types.commit handle }) := by
    simp only [pmpiTypeCommit, typed]
  dsimp only
  rw [vapaaAssert_off off]
  refine Run.returns_bind_of_returned rfl ?_
  refine Run.returns_bind_of_returned (call_of_returned commits) ?_
  rw [vapaaAssert_off off]
  refine Run.returns_bind_of_returned rfl (Run.returns_pure ⟨rfl, ?_, rfl⟩)
  simp [TypeStore.commit, typed]

private theorem closeSide_returned (off : mpi.seatbelts = false) (handle : Int) :
    Run.Returns (closeSide mpi desc handle) process fun _ final =>
      final.issued = process.issued := by
  rw [closeSide]
  split_ifs
  · exact Run.returns_pure rfl
  · have freed : ∃ result world,
        pmpiTypeFree mpi handle process.world = .returned (result, world) := by
      rw [pmpiTypeFree]
      split
      · exact ⟨_, _, rfl⟩
      · exact ⟨_, _, rfl⟩
    obtain ⟨result, world, freed⟩ := freed
    refine Run.returns_bind_of_returned (call_of_returned freed) ?_
    obtain ⟨rc, handle⟩ := result
    dsimp only
    rw [vapaaAssert_off off]
    exact Run.returns_of_returned rfl rfl

/-- So a collective without assertions succeeds on the datatype of the caller. -/
theorem gather_transfers {other : CDesc} {count datatypeF : Int} (off : mpi.seatbelts = false)
    (scattered : mpi.cfiIsContiguous desc ≠ 1) (contiguous : mpi.cfiIsContiguous other = 1)
    (fails : BuildRequest.Fails mpi
      ⟨desc, count, cMpiTypeF2c mpi datatypeF, cMpiTypeF2c mpi datatypeF⟩ process.world)
    (untouched : Run.Ensures (BuildRequest.build mpi
        ⟨desc, count, cMpiTypeF2c mpi datatypeF, cMpiTypeF2c mpi datatypeF⟩) process.world
      fun result final => Untouched process.world.types (cMpiTypeF2c mpi datatypeF) result final)
    (succeeds : reply.rc = mpi.errorClass .success) :
    ¬ (SectionCall.gather desc count datatypeF other 1 datatypeF 0 0).NoTransfer mpi reply
      process := by
  obtain ⟨inAddr, first⟩ : ∃ inAddr, inPlaceArgument mpi desc.baseAddr process =
      .returned (inAddr, process) := ⟨_, inPlaceArgument_apply mpi desc.baseAddr process⟩
  obtain ⟨outAddr, second⟩ : ∃ outAddr, inPlaceArgument mpi other.baseAddr process =
      .returned (outAddr, process) := ⟨_, inPlaceArgument_apply mpi other.baseAddr process⟩
  have transfers : Run.Returns (cfiMpiGather mpi reply desc count datatypeF other 1 datatypeF 0 0)
      process fun code final => code = ErrorClass.success.vapaa ∧
        ∃ call, final.issued = process.issued ++ [call] ∧
          ∀ buffer ∈ call.buffers, buffer.object ≠ none := by
    rw [cfiMpiGather, blockCollective]
    refine Run.returns_bind_of_returned first (Run.returns_bind_of_returned second ?_)
    refine (openSide_of_failed off scattered fails.live fails untouched).bind ?_
    rintro ⟨inCount, inType⟩ opened ⟨rfl, live, calls⟩
    rw [openSide, if_pos contiguous]
    refine Run.returns_bind_of_returned rfl (Run.returns_bind_of_returned rfl ?_)
    rw [succeeds]
    refine Run.returns_bind_of_returned (call_of_returned (cMpiRcFix_success _)) ?_
    refine (closeSide_returned off _).bind ?_
    intro _ closed calls₁
    refine (closeSide_returned off _).bind ?_
    intro _ final calls₂
    refine Run.returns_pure ⟨mpi.success_eq, .gather
      (opened.world.types.buffer inAddr inCount (cMpiTypeF2c mpi datatypeF))
      (opened.world.types.buffer outAddr 1 (cMpiTypeF2c mpi datatypeF)) 0 (cMpiCommF2c mpi 0),
      ?_, ?_⟩
    · rw [calls₂, calls₁, ← calls]
    · intro buffer member
      simp only [Issued.buffers, List.mem_cons, List.not_mem_nil, or_false] at member
      obtain rfl | rfl := member
      · exact live
      · exact live
  obtain ⟨code, final, returned, succeeded, call, listed, passable⟩ := transfers
  intro noTransfer
  refine (noTransfer code final returned [call] listed ?_).1 succeeded
  rintro ⟨_, member, buffer, passed, dead⟩
  rw [List.mem_singleton.mp member] at passed
  exact absurd dead (passable buffer passed)

theorem SectionCall.initial_of_requested {callee : SectionCall} {before during : Process}
    (asked : callee.Requests mpi before request during) :
    request.initial = mpi.datatype .datatypeNull ∨
      mpi.cfiIsContiguous request.desc ≠ 1 ∧ ∃ datatypeF,
        request.datatype = cMpiTypeF2c mpi datatypeF ∧
          request.initial = cMpiTypeF2c mpi datatypeF := by
  obtain ⟨earlier, member, -⟩ := asked
  have single {desc : CDesc} {count datatypeF : Int}
      (member : (earlier, request) ∈ SectionCall.request mpi desc count datatypeF) :
      request.initial = mpi.datatype .datatypeNull := by
    obtain ⟨-, -, rfl⟩ := mem_request member
    rfl
  have block {input output : CDesc} {scount stypeF rcount rtypeF : Int}
      (member : (earlier, request) ∈ blockRequests mpi input scount stypeF output rcount rtypeF) :
      mpi.cfiIsContiguous request.desc ≠ 1 ∧ ∃ datatypeF,
        request.datatype = cMpiTypeF2c mpi datatypeF ∧
          request.initial = cMpiTypeF2c mpi datatypeF := by
    rw [blockRequests, List.mem_append] at member
    cases member with
    | inl member =>
        split_ifs at member with contiguous
        · cases member
        · obtain ⟨-, rfl⟩ := Prod.ext_iff.mp (List.mem_singleton.mp member)
          exact ⟨contiguous, stypeF, rfl, rfl⟩
    | inr member =>
        split_ifs at member with contiguous
        · cases member
        · obtain ⟨-, rfl⟩ := Prod.ext_iff.mp (List.mem_singleton.mp member)
          exact ⟨contiguous, rtypeF, rfl, rfl⟩
  cases callee with
  | send => exact Or.inl (single member)
  | isend => exact Or.inl (single member)
  | recv => exact Or.inl (single member)
  | irecv => exact Or.inl (single member)
  | mrecv => exact Or.inl (single member)
  | imrecv => exact Or.inl (single member)
  | bcast => exact Or.inl (single member)
  | sendrecv =>
      rw [requests] at member
      split_ifs at member
      · cases member
      · rcases List.mem_pair.mp member with same | same
        · exact Or.inl (congrArg (fun asked => asked.2.initial) same)
        · exact Or.inl (congrArg (fun asked => asked.2.initial) same)
  | pack =>
      rw [requests] at member
      split_ifs at member
      · cases member
      · exact Or.inl (single member)
  | unpack =>
      rw [requests] at member
      split_ifs at member
      · cases member
      · exact Or.inl (single member)
  | gather => exact Or.inr (block member)
  | allgather => exact Or.inr (block member)
  | scatter => exact Or.inr (block member)
  | alltoall => exact Or.inr (block member)

/-- A failed build has no effect exactly when it fails before its datatype is created, and
assertions are on or the variable of the wrapper starts as a handle for no datatype. -/
theorem failedBuild_harmless_iff (only : mpi.SuccessOnly) {other : CDesc}
    (contiguous : mpi.cfiIsContiguous other = 1) {callee : SectionCall} {before during : Process}
    (wellFormed : request.desc.WellFormed) (basic : during.world.types.Basic mpi)
    (asked : callee.Requests mpi before request during) (fails : request.Fails mpi during.world) :
    Harmless mpi request during ↔
      ¬ request.desc.Attempted mpi request.count ∧
        (mpi.seatbelts = true ∨ during.world.types.object request.initial = none) := by
  obtain ⟨result, final, returned, failed⟩ := fails
  have outcome := vapaaCfiCreateDatatype_failed wellFormed basic _ _ returned failed
  constructor
  · rintro ⟨untouched, unsent⟩
    constructor
    · intro attempted
      obtain ⟨layout, creates⟩ := outcome.1 attempted
      -- the created datatype would have been there before the call
      have live := creates.live
      rw [(untouched _ _ returned).1, creates.unused] at live
      cases live
    · by_contra neither
      obtain ⟨active, live⟩ := not_or.mp neither
      obtain null | ⟨scattered, datatypeF, datatype, initial⟩ :=
        SectionCall.initial_of_requested asked
      · rw [null] at live
        exact live basic.null
      · obtain ⟨desc, count, _, _⟩ := request
        dsimp only at scattered datatype initial
        subst datatype initial
        refine gather_transfers (Bool.eq_false_iff.mpr active) scattered contiguous
          ⟨result, final, returned, failed⟩ untouched rfl
          (unsent _ { successfulReply with rc := mpi.errorClass .success } _
            ⟨pure (), List.mem_append.mpr (Or.inl ?_), rfl⟩)
        rw [if_neg scattered]
        exact List.mem_singleton_self _
  · rintro ⟨stopped, harmless⟩
    have untouched : Run.Ensures (request.build mpi) during.world fun result final =>
        Untouched during.world.types request.initial result final :=
      Run.ensures_of_returned returned (outcome.2 stopped)
    refine ⟨untouched, fun callee reply before asked => ?_⟩
    refine callee.noTransfer_of_failed only basic ⟨result, final, returned, failed⟩ untouched ?_
      asked
    intro off
    exact harmless.resolve_left (by simp [off])

end Wrappers

/-- Every second of four strings of eight characters. -/
def strings : CDesc :=
  sectionOf 4096 8 261 [{ lowerBound := 0, extent := 2, sm := 16 }] (by decide)

/-- A request of `CFI_MPI_Send` for both of them. -/
def stringsRequest : BuildRequest where
  desc := strings
  count := 2
  datatype := Mpich.datatype .character
  initial := Mpich.datatype .datatypeNull

/-- The datatype for two single characters is there when the sizes are compared. -/
theorem failedBuild_harmless_strings :
    (SectionCall.send strings 2 (Predefined.datatype .character).vapaa 1 5 0).Requests mpich
        startProcess stringsRequest startProcess ∧
      stringsRequest.Fails mpich startWorld ∧ ¬ Harmless mpich stringsRequest startProcess := by
  have built : (stringsRequest.build mpich startWorld >>= fun result => .returned
      (result.1.1, (result.2.types.object 2000000000).isSome)) =
      .returned (mpich.errorClass .errIntern, true) := by
    decide +kernel
  obtain ⟨⟨⟨rc, handle⟩, final⟩, returned, same⟩ := Outcome.bind_eq_returned.mp built
  simp only [Outcome.returned.injEq, Prod.mk.injEq] at same
  obtain ⟨rfl, created⟩ := same
  have failed : mpich.errorClass .errIntern ≠ mpich.errorClass .success := by decide
  refine ⟨⟨pure (), ?_, rfl⟩, ⟨_, _, returned, failed⟩, ?_⟩
  · rw [SectionCall.requests, SectionCall.request, if_neg (by decide)]
    exact List.mem_singleton_self _
  · rintro ⟨untouched, -⟩
    have none : startWorld.types.object 2000000000 = none := by decide
    have kept : final.types = startWorld.types := (untouched _ _ returned).1
    rw [kept, none] at created
    cases created

/-- Three integers of a section that has two. -/
def overrunRequest : BuildRequest where
  desc := integers 4096 2 8
  count := 3
  datatype := Mpich.datatype .integer
  initial := Mpich.datatype .datatypeNull

theorem failedBuild_harmless_overrun :
    overrunRequest.Fails mpich startWorld ∧
      (Harmless mpich overrunRequest startProcess ↔
        ¬ overrunRequest.desc.Attempted mpich overrunRequest.count ∧
          (mpich.seatbelts = true ∨
            startProcess.world.types.object overrunRequest.initial = none)) := by
  have built : (overrunRequest.build mpich startWorld >>= fun result => .returned result.1.1) =
      .returned (mpich.errorClass .errArg) := by
    decide +kernel
  obtain ⟨⟨⟨rc, handle⟩, final⟩, returned, same⟩ := Outcome.bind_eq_returned.mp built
  have failed : rc ≠ mpich.errorClass .success := by
    have code : rc = mpich.errorClass .errArg := (Outcome.returned.injEq _ _).mp same
    rw [code]
    decide
  have fails : overrunRequest.Fails mpich startWorld := ⟨_, _, returned, failed⟩
  refine ⟨fails, @failedBuild_harmless_iff mpich overrunRequest (fun _ => Option.some.inj)
    (integers 4096 2 4) (by decide) (.send (integers 4096 2 8) 3 fortranInteger 1 5 0)
    startProcess startProcess ?_ predefinedTypes_basic ⟨pure (), ?_, rfl⟩ fails⟩
  · decide
  · rw [SectionCall.requests, SectionCall.request, if_neg (by decide)]
    exact List.mem_singleton_self _

end Vapaa
