import Vapaa.Foundation.RankFolds
import Vapaa.Reductions
import Vapaa.VectorCollectives

/-!
# Programs of reductions

`C_MPI_Reduce` and `C_MPI_Allreduce`, with descriptors and without, called by all ranks one after
another, and what becomes of their data.
-/

set_option autoImplicit false

namespace Vapaa

open Foundation

/-- What operations make of two elements of a datatype, given by their C handles. -/
structure Operations where
  apply : Int → Int → List UInt8 → List UInt8 → List UInt8
  length_apply : ∀ op datatype left right, (apply op datatype left right).length = left.length

section Library

/-- The places of the elements of a buffer, each with those of its bytes. -/
def Buffer.items (buffer : Buffer) : List (List Int) :=
  match buffer.object with
  | some object => (List.range buffer.count.toNat).map fun (n : Nat) =>
      object.layout.locations (buffer.address + n * object.layout.extent) 1
  | none => []

namespace Reduction

def receivers (ranks : Nat) : Reduction → List Nat
  | .reduce _ _ _ _ _ root _ => [root.toNat]
  | .allreduce _ _ _ _ _ _ => List.range ranks

def combine (operations : Operations) : Reduction → List UInt8 → List UInt8 → List UInt8
  | .reduce _ _ _ datatype op _ _ | .allreduce _ _ _ datatype op _ => operations.apply op datatype

/-- Where a rank has its elements; in place, it is where the result would be stored. -/
def source (mpi : Mpi) (types : TypeStore) : Reduction → Buffer
  | .reduce input output count datatype _ _ _ | .allreduce input output count datatype _ _ =>
      types.buffer (if input = mpi.inPlace then output else input) count datatype

def target (types : TypeStore) : Reduction → Buffer
  | .reduce _ output count datatype _ _ _ | .allreduce _ output count datatype _ _ =>
      types.buffer output count datatype

end Reduction

/-- What the library does when all ranks have asked for the same reduction. -/
def libraryReduces (mpi : Mpi) (operations : Operations) (ranks : Nat) (types : Nat → TypeStore)
    (asked : Nat → Reduction) : Memory (Nat × Int) UInt8 → Memory (Nat × Int) UInt8 :=
  reduceAll ((asked 0).combine operations)
    (fun rank => ((asked rank).source mpi (types rank)).items)
    (fun rank => ((asked rank).target (types rank)).items) ((asked 0).receivers ranks) ranks

end Library

inductive ReductionCollective where
  | reduce (root : Nat)
  | allreduce

/-- The arguments of one rank. -/
structure ReductionArguments where
  input : CDesc
  output : CDesc
  datatypeF : Int
  opF : Int
  commF : Int

/-- A reduction, with the arguments of every rank; an element of its datatype is some elements of
the arrays that lie behind each other. -/
structure ReductionCall where
  collective : ReductionCollective
  interface : Interface
  count : Nat
  width : Nat
  arguments : Nat → ReductionArguments

/-- The guard refuses an operation of the user on a detected datatype. -/
def Guarded (mpi : Mpi) (datatypeF opF : Int) : Prop :=
  cMpiOpIsBuiltin mpi (cMpiOpF2c mpi opF) = false ∧
    cMpiTypeIsBuiltin mpi (cMpiTypeF2c mpi datatypeF) = true

instance (mpi : Mpi) (datatypeF opF : Int) : Decidable (Guarded mpi datatypeF opF) :=
  inferInstanceAs (Decidable (_ ∧ _))

def Reducing.setting (state : Reducing) : Setting where
  types := state.process.world.types
  inPlace := state.process.sentinels.inPlace

/-- Bytes of some elements from a position on, in array element order. -/
def CDesc.item (desc : CDesc) (width n : Nat) : List Int :=
  ((List.range width).map fun j => desc.address (n * width + j)).flatMap fun address =>
    span address desc.elemLen

def CDesc.items (desc : CDesc) (width count : Nat) : List (List Int) :=
  (List.range count).map (desc.item width)

/-- An array with a datatype for a number of its elements, which a call may reach where they lie. -/
structure CDesc.Carries (mpi : Mpi) (interface : Interface) (setting : Setting)
    (desc : CDesc) (datatype : Int) (width count : Nat) : Prop where
  solid : ∃ object, setting.types.object datatype = some object ∧
    object.layout.Solid (width * desc.elemLen)
  contiguous : mpi.cfiIsContiguous desc = 1 → desc.Consecutive (count * width)
  lies : interface = .addresses → desc.Consecutive (count * width)
  elsewhere : desc.baseAddr ≠ mpi.inPlace

namespace ReductionCall

variable (mpi : Mpi) (operations : Operations) (ranks : Nat) (settings : Nat → Setting)
variable (reductionCall : ReductionCall)

/-- The call of one rank, without its datatype and operation. -/
def reduceCall (rank : Nat) : ReduceCall :=
  let { input, output, commF, .. } := reductionCall.arguments rank
  let count := reductionCall.count
  match reductionCall.interface, reductionCall.collective with
  | .addresses, .reduce root => .reduce input.baseAddr output.baseAddr count root commF
  | .descriptors, .reduce root => .cfiReduce input output count root commF
  | .addresses, .allreduce => .allreduce input.baseAddr output.baseAddr count commF
  | .descriptors, .allreduce => .cfiAllreduce input output count commF

/-- The call of one rank. -/
def run (rank : Nat) : ReduceRun Int :=
  let { datatypeF, opF, .. } := reductionCall.arguments rank
  (reductionCall.reduceCall rank).run mpi (mpi.errorClass .success) datatypeF opF

def receivers : List Nat :=
  match reductionCall.collective with
  | .reduce root => [root]
  | .allreduce => List.range ranks

/-- A rank passes `MPI_IN_PLACE` for its input. -/
def InputInPlace (rank : Nat) : Prop :=
  (reductionCall.arguments rank).input.baseAddr = (settings rank).inPlace

instance (rank : Nat) : Decidable (reductionCall.InputInPlace settings rank) :=
  inferInstanceAs (Decidable (_ = _))

/-- The array that a rank reads. -/
def source (rank : Nat) : CDesc :=
  if reductionCall.InputInPlace settings rank then (reductionCall.arguments rank).output
  else (reductionCall.arguments rank).input

def sources (rank : Nat) : List (List Int) :=
  (reductionCall.source settings rank).items reductionCall.width reductionCall.count

def targets (rank : Nat) : List (List Int) :=
  (reductionCall.arguments rank).output.items reductionCall.width reductionCall.count

def combine : List UInt8 → List UInt8 → List UInt8 :=
  let { datatypeF, opF, .. } := reductionCall.arguments 0
  operations.apply (cMpiOpF2c mpi opF) (cMpiTypeF2c mpi datatypeF)

def RefusedAt (rank : Nat) : Prop :=
  Guarded mpi (reductionCall.arguments rank).datatypeF (reductionCall.arguments rank).opF

instance (rank : Nat) : Decidable (reductionCall.RefusedAt mpi rank) :=
  inferInstanceAs (Decidable (Guarded _ _ _))

/-- What all ranks together intend: the elements of the arrays that the receivers name become the
combined ones of all ranks. -/
def intended (memory : Memory (Nat × Int) UInt8) : Memory (Nat × Int) UInt8 :=
  if reductionCall.RefusedAt mpi 0 then memory
  else
    reduceAll (reductionCall.combine mpi operations) (reductionCall.sources settings)
      reductionCall.targets (reductionCall.receivers ranks) ranks memory

/-- The root is a rank, only receivers pass `MPI_IN_PLACE`, and every array that is read or written
has elements of one length. -/
structure Valid (length : Nat) : Prop where
  rooted : ∀ rank ∈ reductionCall.receivers ranks, rank < ranks
  reads : ∀ rank < ranks, reductionCall.InputInPlace settings rank →
    rank ∈ reductionCall.receivers ranks
  sends : ∀ rank < ranks, ¬ reductionCall.InputInPlace settings rank →
    let { input, datatypeF, .. } := reductionCall.arguments rank
    input.elemLen = length ∧ input.Carries mpi reductionCall.interface (settings rank)
      (cMpiTypeF2c mpi datatypeF) reductionCall.width reductionCall.count
  stores : ∀ rank ∈ reductionCall.receivers ranks,
    let { output, datatypeF, .. } := reductionCall.arguments rank
    output.baseAddr ≠ (settings rank).inPlace ∧ output.elemLen = length ∧
      output.Carries mpi reductionCall.interface (settings rank) (cMpiTypeF2c mpi datatypeF)
        reductionCall.width reductionCall.count

/-- Descriptors are only passed where they lie, those that a rank has no use for included. -/
def Passable : Prop :=
  reductionCall.interface = .descriptors → ∀ rank < ranks,
    mpi.cfiIsContiguous (reductionCall.arguments rank).input = 1 ∧
      mpi.cfiIsContiguous (reductionCall.arguments rank).output = 1

/-- All ranks are refused, or none is and all can pass their arrays. -/
def Admitted : Prop :=
  (∀ rank < ranks, reductionCall.RefusedAt mpi rank) ∨
    (∀ rank < ranks, ¬ reductionCall.RefusedAt mpi rank) ∧ reductionCall.Passable mpi ranks

end ReductionCall

/-- The memories of all ranks. -/
def reducingJoint (states : Nat → Reducing) : Memory (Nat × Int) UInt8 :=
  joint fun rank => (states rank).process

namespace ReductionCall

variable (mpi : Mpi) (operations : Operations) (ranks : Nat) (reductionCall : ReductionCall)

/-- All ranks call and return, and have either asked the library, which then reduces, or not. -/
inductive Performed (before : Nat → Reducing) : (Nat → Reducing) → Prop where
  | reduced (asked : Nat → Reduction) (returned : Nat → Reducing) (ierror : Nat → Int)
      (returns : ∀ rank < ranks, reductionCall.run mpi rank (before rank) =
        .returned (ierror rank, returned rank))
      (asks : ∀ rank < ranks,
        (returned rank).reductions = (before rank).reductions ++ [asked rank])
      (outside : ∀ rank, ranks ≤ rank → returned rank = before rank) :
      Performed before fun rank => { returned rank with
        process := { (returned rank).process with
          memory := fun address =>
            libraryReduces mpi operations ranks
              (fun rank => (returned rank).process.world.types) asked (reducingJoint returned)
              (rank, address) } }
  | refused (returned : Nat → Reducing) (ierror : Nat → Int)
      (returns : ∀ rank < ranks, reductionCall.run mpi rank (before rank) =
        .returned (ierror rank, returned rank))
      (silent : ∀ rank < ranks, (returned rank).reductions = (before rank).reductions)
      (outside : ∀ rank, ranks ≤ rank → returned rank = before rank) :
      Performed before returned

/-- The calls of a program are performed one after another. -/
inductive Program : (Nat → Reducing) → List ReductionCall → (Nat → Reducing) → Prop where
  | nil {states : Nat → Reducing} : Program states [] states
  | cons {before middle after : Nat → Reducing} {reductionCall : ReductionCall}
      {calls : List ReductionCall}
      (first : reductionCall.Performed mpi operations ranks before middle)
      (rest : Program middle calls after) : Program before (reductionCall :: calls) after

end ReductionCall

section Requests

variable {mpi : Mpi} {state : Reducing} {input output datatypeF opF commF : Int}
variable {inDesc outDesc : CDesc} {rest : ReduceRun Int}
variable {request : Int → Int → Int → Int → Int → Reduction}

private theorem onReducing_inPlaceArgument (address : Int) :
    onReducing (inPlaceArgument mpi address) state =
      .returned (VectorCall.passed mpi state.setting address, state) :=
  Run.zoom_of_returned (inPlaceArgument_apply mpi address state.process)

private theorem onReducing_rcFix :
    onReducing (call (cMpiRcFix mpi (mpi.errorClass .success))) state =
      .returned (mpi.errorClass .success, state) :=
  Run.zoom_of_returned (call_of_returned (cMpiRcFix_success _))

/-- The state after a request. -/
def Reducing.asking (state : Reducing) (reduction : Reduction) : Reducing :=
  { state with reductions := state.reductions ++ [reduction] }

/-- The state after a refusal, which is warned of. -/
def Reducing.warned (state : Reducing) : Reducing :=
  { state with process := { state.process with world := { state.process.world with
      warnings := state.process.world.warnings ++
        ["user-def reduce op with built-in type is not supported. See docs.\n"] } } }

private theorem guardReduction_guarded (coded : OpCoded mpi) (guarded : Guarded mpi datatypeF opF) :
    guardReduction mpi (cMpiOpF2c mpi opF) (cMpiTypeF2c mpi datatypeF) rest state =
      .returned (ErrorClass.errOp.vapaa, state.warned) := by
  have condition : ¬ cMpiOpIsBuiltin mpi (cMpiOpF2c mpi opF) ∧
      cMpiTypeIsBuiltin mpi (cMpiTypeF2c mpi datatypeF) := by
    simpa [Guarded] using guarded
  have written : onReducing (call (vapaaWarning
      "user-def reduce op with built-in type is not supported. See docs.\n")) state =
    .returned ((), state.warned) := rfl
  rw [guardReduction, if_pos condition, Run.bind_of_returned written]
  exact Run.zoom_of_returned (call_of_returned (cMpiRcFix_errOp coded _))

private theorem guardReduction_passes (free : ¬ Guarded mpi datatypeF opF) :
    guardReduction mpi (cMpiOpF2c mpi opF) (cMpiTypeF2c mpi datatypeF) rest = rest := by
  have condition : ¬ (¬ cMpiOpIsBuiltin mpi (cMpiOpF2c mpi opF) ∧
      cMpiTypeIsBuiltin mpi (cMpiTypeF2c mpi datatypeF)) := by
    simpa [Guarded] using free
  rw [guardReduction, if_neg condition]

private theorem cReduction_returns (free : ¬ Guarded mpi datatypeF opF) :
    cReduction mpi input output datatypeF opF commF (fun input output datatype op comm =>
        askReduction (mpi.errorClass .success) (request input output datatype op comm)) state =
      .returned (mpi.errorClass .success, state.asking
        (request (VectorCall.passed mpi state.setting input)
          (VectorCall.passed mpi state.setting output) (cMpiTypeF2c mpi datatypeF)
          (cMpiOpF2c mpi opF) (cMpiCommF2c mpi commF))) := by
  unfold cReduction
  dsimp only
  rw [guardReduction_passes free, Run.bind_of_returned (onReducing_inPlaceArgument input),
    Run.bind_of_returned (onReducing_inPlaceArgument output)]
  exact (Run.bind_of_returned rfl).trans onReducing_rcFix

private theorem cfiReduction_returns (free : ¬ Guarded mpi datatypeF opF)
    (lie : mpi.cfiIsContiguous inDesc = 1 ∧ mpi.cfiIsContiguous outDesc = 1) :
    cfiReduction mpi inDesc outDesc datatypeF opF commF (fun input output datatype op comm =>
        askReduction (mpi.errorClass .success) (request input output datatype op comm)) state =
      .returned (mpi.errorClass .success, state.asking
        (request (VectorCall.passed mpi state.setting inDesc.baseAddr)
          (VectorCall.passed mpi state.setting outDesc.baseAddr) (cMpiTypeF2c mpi datatypeF)
          (cMpiOpF2c mpi opF) (cMpiCommF2c mpi commF))) := by
  unfold cfiReduction
  rw [Run.bind_of_returned (onReducing_inPlaceArgument inDesc.baseAddr),
    Run.bind_of_returned (onReducing_inPlaceArgument outDesc.baseAddr)]
  dsimp only
  rw [guardReduction_passes free, if_pos lie]
  exact (Run.bind_of_returned rfl).trans onReducing_rcFix

private theorem cfiReduction_aborts {communicate : Int → Int → Int → Int → Int → ReduceRun Int}
    (free : ¬ Guarded mpi datatypeF opF)
    (scattered : ¬ (mpi.cfiIsContiguous inDesc = 1 ∧ mpi.cfiIsContiguous outDesc = 1)) :
    cfiReduction mpi inDesc outDesc datatypeF opF commF communicate state = .aborted := by
  unfold cfiReduction
  rw [Run.bind_of_returned (onReducing_inPlaceArgument inDesc.baseAddr),
    Run.bind_of_returned (onReducing_inPlaceArgument outDesc.baseAddr)]
  dsimp only
  rw [guardReduction_passes free, if_neg scattered]
  rfl

private theorem cfiReduction_guarded {communicate : Int → Int → Int → Int → Int → ReduceRun Int}
    (coded : OpCoded mpi) (guarded : Guarded mpi datatypeF opF) :
    cfiReduction mpi inDesc outDesc datatypeF opF commF communicate state =
      .returned (ErrorClass.errOp.vapaa, state.warned) := by
  unfold cfiReduction
  rw [Run.bind_of_returned (onReducing_inPlaceArgument inDesc.baseAddr),
    Run.bind_of_returned (onReducing_inPlaceArgument outDesc.baseAddr)]
  exact guardReduction_guarded coded guarded

end Requests

section Ranks

variable {mpi : Mpi} {ranks rank length : Nat} {settings : Nat → Setting} {state : Reducing}
variable {reductionCall : ReductionCall}

/-- What the library is asked for, with the arguments that the wrapper has converted. -/
def ReductionCall.request (reductionCall : ReductionCall) (input output datatype op comm : Int) :
    Reduction :=
  match reductionCall.collective with
  | .reduce root => .reduce input output reductionCall.count datatype op root comm
  | .allreduce => .allreduce input output reductionCall.count datatype op comm

/-- What the library is asked for by a rank. -/
def ReductionCall.asked (mpi : Mpi) (settings : Nat → Setting) (reductionCall : ReductionCall)
    (rank : Nat) : Reduction :=
  let { input, output, datatypeF, opF, commF } := reductionCall.arguments rank
  reductionCall.request (VectorCall.passed mpi (settings rank) input.baseAddr)
    (VectorCall.passed mpi (settings rank) output.baseAddr) (cMpiTypeF2c mpi datatypeF)
    (cMpiOpF2c mpi opF) (cMpiCommF2c mpi commF)

theorem ReductionCall.run_eq :
    reductionCall.run mpi rank =
      let { input, output, datatypeF, opF, commF } := reductionCall.arguments rank
      let ask := fun input output datatype op comm =>
        askReduction (mpi.errorClass .success) (reductionCall.request input output datatype op comm)
      match reductionCall.interface with
      | .addresses => cReduction mpi input.baseAddr output.baseAddr datatypeF opF commF ask
      | .descriptors => cfiReduction mpi input output datatypeF opF commF ask := by
  obtain ⟨collective, interface, count, width, arguments⟩ := reductionCall
  cases interface with
  | addresses =>
      cases collective with
      | reduce root | allreduce => rfl
  | descriptors =>
      cases collective with
      | reduce root | allreduce => rfl

theorem ReductionCall.run_refused (coded : OpCoded mpi)
    (refused : reductionCall.RefusedAt mpi rank) :
    reductionCall.run mpi rank state = .returned (ErrorClass.errOp.vapaa, state.warned) := by
  rw [ReductionCall.run_eq]
  cases reductionCall.interface with
  | addresses => exact guardReduction_guarded coded refused
  | descriptors => exact cfiReduction_guarded coded refused

/-- The arrays of a rank lie contiguous, where it matters. -/
def ReductionCall.Lies (mpi : Mpi) (reductionCall : ReductionCall) (rank : Nat) : Prop :=
  reductionCall.interface = .descriptors →
    mpi.cfiIsContiguous (reductionCall.arguments rank).input = 1 ∧
      mpi.cfiIsContiguous (reductionCall.arguments rank).output = 1

theorem ReductionCall.run_returns (free : ¬ reductionCall.RefusedAt mpi rank)
    (lies : reductionCall.Lies mpi rank) (here : settings rank = state.setting) :
    reductionCall.run mpi rank state =
      .returned (mpi.errorClass .success,
        state.asking (reductionCall.asked mpi settings rank)) := by
  unfold ReductionCall.asked
  rw [ReductionCall.run_eq, here]
  cases interface : reductionCall.interface with
  | addresses => exact cReduction_returns free
  | descriptors => exact cfiReduction_returns free (lies interface)

/-- What a rank that is not refused passes lies contiguous if it returns. -/
theorem ReductionCall.lies_of_returns (free : ¬ reductionCall.RefusedAt mpi rank) {ierror : Int}
    {final : Reducing}
    (returns : reductionCall.run mpi rank state = .returned (ierror, final)) :
    reductionCall.Lies mpi rank := by
  intro described
  by_contra scattered
  rw [ReductionCall.run_eq, described] at returns
  have aborted := returns.symm.trans (cfiReduction_aborts free scattered)
  cases aborted

/-- A rank that returns was refused, or its arrays lie and the library was asked. -/
theorem ReductionCall.returned_cases (coded : OpCoded mpi) {ierror : Int} {final : Reducing}
    (here : settings rank = state.setting)
    (returns : reductionCall.run mpi rank state = .returned (ierror, final)) :
    reductionCall.RefusedAt mpi rank ∧ final = state.warned ∨
      ¬ reductionCall.RefusedAt mpi rank ∧ reductionCall.Lies mpi rank ∧
        final = state.asking (reductionCall.asked mpi settings rank) := by
  by_cases refused : reductionCall.RefusedAt mpi rank
  · rw [ReductionCall.run_refused coded refused] at returns
    cases returns
    exact .inl ⟨refused, rfl⟩
  · have lies := ReductionCall.lies_of_returns refused returns
    rw [ReductionCall.run_returns refused lies here] at returns
    cases returns
    exact .inr ⟨refused, lies, rfl⟩

end Ranks

section Elements

variable {mpi : Mpi} {operations : Operations} {ranks rank length : Nat} {settings : Nat → Setting}
variable {reductionCall : ReductionCall} {desc : CDesc} {width count : Nat}

/-- Spans that lie behind each other are one. -/
theorem flatMap_spans (start : Int) (width size : Nat) :
    ((List.range width).map fun (j : Nat) => start + j * size).flatMap (fun address =>
      span address size) = span start (width * size) := by
  induction width with
  | zero => simp [span]
  | succ width ih =>
      rw [List.range_succ, List.map_append, List.flatMap_append, ih, Nat.succ_mul, span_add]
      simp

/-- The library finds the elements of an array where it lies. -/
theorem CDesc.Carries.items_eq {interface : Interface} {setting : Setting} {datatype : Int}
    (carries : desc.Carries mpi interface setting datatype width count)
    (lies : interface = .descriptors → mpi.cfiIsContiguous desc = 1) :
    (setting.types.buffer desc.baseAddr count datatype).items = desc.items width count := by
  have consecutive : desc.Consecutive (count * width) := by
    cases interface with
    | addresses => exact carries.lies rfl
    | descriptors => exact carries.contiguous (lies rfl)
  obtain ⟨object, live, solid⟩ := carries.solid
  simp only [Buffer.items, TypeStore.buffer, live, CDesc.items, Int.toNat_natCast]
  apply List.map_congr_left
  intro n member
  have below := List.mem_range.mp member
  have reached (j : Nat) (inside : j < width) : n * width + j < count * width := by
    calc
      n * width + j < (n + 1) * width := by
        rw [Nat.succ_mul]
        omega
      _ ≤ count * width := Nat.mul_le_mul_right _ below
  have placed : (List.range width).map (fun j => desc.address (n * width + j)) =
      (List.range width).map fun (j : Nat) =>
        (desc.baseAddr + n * (width * desc.elemLen : Nat)) + j * desc.elemLen := by
    apply List.map_congr_left
    intro j inside
    rw [CDesc.address, consecutive _ (reached j (List.mem_range.mp inside))]
    push_cast
    ring
  rw [CDesc.item, placed, flatMap_spans, Layout.locations_of_solid solid, solid.extent_eq]
  simp

theorem ReductionCall.receivers_asked :
    (reductionCall.asked mpi settings rank).receivers ranks = reductionCall.receivers ranks := by
  unfold ReductionCall.asked ReductionCall.request ReductionCall.receivers
  cases reductionCall.collective with
  | reduce root | allreduce => rfl

theorem ReductionCall.combine_asked :
    (reductionCall.asked mpi settings 0).combine operations =
      reductionCall.combine mpi operations := by
  unfold ReductionCall.asked ReductionCall.request ReductionCall.combine
  cases reductionCall.collective with
  | reduce root | allreduce => rfl

/-- A rank reads where its arrays say. -/
theorem ReductionCall.source_asked (valid : reductionCall.Valid mpi ranks settings length)
    (passable : reductionCall.Passable mpi ranks) (below : rank < ranks) :
    ((reductionCall.asked mpi settings rank).source mpi (settings rank).types).items =
      reductionCall.sources settings rank := by
  unfold ReductionCall.asked ReductionCall.request ReductionCall.sources ReductionCall.source
  by_cases inPlace : reductionCall.InputInPlace settings rank
  · obtain ⟨elsewhere, -, carries⟩ := valid.stores rank (valid.reads rank below inPlace)
    have found := carries.items_eq fun described => (passable described rank below).2
    rw [if_pos inPlace]
    cases reductionCall.collective with
    | reduce root | allreduce =>
        simp only [Reduction.source, VectorCall.passed_of_inPlace inPlace, if_true,
          VectorCall.passed_of_ne elsewhere]
        exact found
  · obtain ⟨-, carries⟩ := valid.sends rank below inPlace
    have found := carries.items_eq fun described => (passable described rank below).1
    rw [if_neg inPlace]
    cases reductionCall.collective with
    | reduce root | allreduce =>
        simp only [Reduction.source, VectorCall.passed_of_ne inPlace, if_neg carries.elsewhere]
        exact found

/-- A receiver stores the result where its array says. -/
theorem ReductionCall.target_asked (valid : reductionCall.Valid mpi ranks settings length)
    (passable : reductionCall.Passable mpi ranks) (member : rank ∈ reductionCall.receivers ranks) :
    ((reductionCall.asked mpi settings rank).target (settings rank).types).items =
      reductionCall.targets rank := by
  obtain ⟨elsewhere, -, carries⟩ := valid.stores rank member
  have found := carries.items_eq fun described =>
    (passable described rank (valid.rooted rank member)).2
  unfold ReductionCall.asked ReductionCall.request ReductionCall.targets
  cases reductionCall.collective with
  | reduce root | allreduce =>
      simp only [Reduction.target, VectorCall.passed_of_ne elsewhere]
      exact found

/-- Where all ranks ask for the call, the library does what they intend. -/
theorem ReductionCall.reduces_intended (valid : reductionCall.Valid mpi ranks settings length)
    (passable : reductionCall.Passable mpi ranks) (positive : 0 < ranks)
    (free : ¬ reductionCall.RefusedAt mpi 0) {asked : Nat → Reduction} {types : Nat → TypeStore}
    (asks : ∀ rank < ranks, asked rank = reductionCall.asked mpi settings rank)
    (same : ∀ rank, types rank = (settings rank).types) (memory : Memory (Nat × Int) UInt8) :
    libraryReduces mpi operations ranks types asked memory =
      reductionCall.intended mpi operations ranks settings memory := by
  rw [libraryReduces, ReductionCall.intended, if_neg free, asks 0 positive,
    ReductionCall.receivers_asked, ReductionCall.combine_asked]
  apply reduceAll_congr
  · intro rank below
    rw [asks rank below, same, ReductionCall.source_asked valid passable below]
  · intro rank member
    rw [asks rank (valid.rooted rank member), same,
      ReductionCall.target_asked valid passable member]

end Elements

section Programs

variable {mpi : Mpi} {operations : Operations} {ranks : Nat} {before after : Nat → Reducing}
variable {reductionCall : ReductionCall} {calls : List ReductionCall}

/-- What the ranks find in their processes. -/
def reducingSettings (states : Nat → Reducing) : Nat → Setting := fun rank => (states rank).setting

/-- A performed call does what its ranks intend, and leaves what they find. -/
theorem ReductionCall.Performed.reduces (coded : OpCoded mpi) (positive : 0 < ranks)
    (performed : reductionCall.Performed mpi operations ranks before after) {length : Nat}
    (valid : reductionCall.Valid mpi ranks (reducingSettings before) length) :
    reductionCall.Admitted mpi ranks ∧ reducingSettings after = reducingSettings before ∧
      reducingJoint after = reductionCall.intended mpi operations ranks (reducingSettings before)
        (reducingJoint before) := by
  cases performed with
  | reduced asked returned ierror returns asks outside =>
      have all (rank : Nat) (below : rank < ranks) : ¬ reductionCall.RefusedAt mpi rank ∧
          reductionCall.Lies mpi rank ∧ returned rank =
            (before rank).asking (reductionCall.asked mpi (reducingSettings before) rank) := by
        have found := ReductionCall.returned_cases coded
          (rfl : reducingSettings before rank = (before rank).setting) (returns rank below)
        cases found with
        | inl refused =>
            have grown := asks rank below
            rw [refused.2] at grown
            exact absurd (List.self_eq_append_right.mp grown) (List.cons_ne_nil _ _)
        | inr asking => exact asking
      have passable : reductionCall.Passable mpi ranks :=
        fun described rank below => (all rank below).2.1 described
      have free (rank : Nat) (below : rank < ranks) := (all rank below).1
      have wanted (rank : Nat) (below : rank < ranks) :
          asked rank = reductionCall.asked mpi (reducingSettings before) rank := by
        have here := asks rank below
        rw [(all rank below).2.2] at here
        exact (List.singleton_inj.mp (List.append_cancel_left here)).symm
      have same (rank : Nat) : (returned rank).process = (before rank).process := by
        by_cases below : rank < ranks
        · rw [(all rank below).2.2]
          rfl
        · rw [outside rank (not_lt.mp below)]
      refine ⟨.inr ⟨free, passable⟩, ?_, ?_⟩
      · funext rank
        simp only [reducingSettings, Reducing.setting, same]
      · have types (rank : Nat) : (returned rank).process.world.types =
            (reducingSettings before rank).types :=
          congrArg (fun process => process.world.types) (same rank)
        have effect : libraryReduces mpi operations ranks
            (fun rank => (returned rank).process.world.types) asked (reducingJoint returned) = _ :=
          ReductionCall.reduces_intended valid passable positive (free 0 positive) wanted types _
        have memories : reducingJoint returned = reducingJoint before := by
          simp only [reducingJoint, same]
        rw [← memories, ← effect]
        rfl
  | refused returned ierror returns silent outside =>
      have all (rank : Nat) (below : rank < ranks) : reductionCall.RefusedAt mpi rank ∧
          after rank = (before rank).warned := by
        have found := ReductionCall.returned_cases coded
          (rfl : reducingSettings before rank = (before rank).setting) (returns rank below)
        cases found with
        | inl refused => exact refused
        | inr asking =>
            have kept := silent rank below
            rw [asking.2.2] at kept
            exact absurd (List.self_eq_append_right.mp kept.symm) (List.cons_ne_nil _ _)
      have same (rank : Nat) : (after rank).setting = (before rank).setting ∧
          (after rank).process.memory = (before rank).process.memory := by
        by_cases below : rank < ranks
        · rw [(all rank below).2]
          exact ⟨rfl, rfl⟩
        · rw [outside rank (not_lt.mp below)]
          exact ⟨rfl, rfl⟩
      refine ⟨.inl fun rank below => (all rank below).1, ?_, ?_⟩
      · funext rank
        exact (same rank).1
      · rw [ReductionCall.intended, if_pos (all 0 positive).1]
        funext place
        exact congrFun (same place.1).2 place.2

theorem ReductionCall.performed_of_admitted (coded : OpCoded mpi)
    (admitted : reductionCall.Admitted mpi ranks) :
    ∃ after, reductionCall.Performed mpi operations ranks before after := by
  cases admitted with
  | inl refused =>
      let returned (rank : Nat) : Reducing :=
        if rank < ranks then (before rank).warned else before rank
      have here (rank : Nat) (below : rank < ranks) : returned rank = (before rank).warned :=
        if_pos below
      refine ⟨returned, .refused returned (fun _ => ErrorClass.errOp.vapaa) (fun rank below => ?_)
        (fun rank below => ?_) fun rank above => if_neg (not_lt.mpr above)⟩
      · rw [here rank below]
        exact ReductionCall.run_refused coded (refused rank below)
      · rw [here rank below]
        rfl
  | inr free =>
      let asked := reductionCall.asked mpi (reducingSettings before)
      let returned (rank : Nat) : Reducing :=
        if rank < ranks then (before rank).asking (asked rank) else before rank
      have here (rank : Nat) (below : rank < ranks) :
          returned rank = (before rank).asking (asked rank) := if_pos below
      refine ⟨_, .reduced asked returned (fun _ => mpi.errorClass .success) (fun rank below => ?_)
        (fun rank below => ?_) fun rank above => if_neg (not_lt.mpr above)⟩
      · rw [here rank below]
        exact ReductionCall.run_returns (free.1 rank below)
          (fun described => free.2 described rank below) rfl
      · rw [here rank below]
        rfl

theorem ReductionCall.Program.reduces (coded : OpCoded mpi) (positive : 0 < ranks)
    (program : ReductionCall.Program mpi operations ranks before calls after)
    (valid : ∀ reductionCall ∈ calls, ∃ length,
      reductionCall.Valid mpi ranks (reducingSettings before) length) :
    (∀ reductionCall ∈ calls, reductionCall.Admitted mpi ranks) ∧
      reducingSettings after = reducingSettings before ∧
      reducingJoint after =
        calls.foldl (fun memory reductionCall =>
          reductionCall.intended mpi operations ranks (reducingSettings before) memory)
          (reducingJoint before) := by
  induction program with
  | nil => exact ⟨by simp, rfl, rfl⟩
  | @cons before middle after reductionCall calls first rest ih =>
      obtain ⟨length, here⟩ := valid reductionCall List.mem_cons_self
      obtain ⟨admitted, settings, moved⟩ := first.reduces coded positive here
      rw [settings] at ih
      obtain ⟨others, keeps, finishes⟩ :=
        ih fun other member => valid other (List.mem_cons_of_mem _ member)
      refine ⟨List.forall_mem_cons.mpr ⟨admitted, others⟩, keeps, ?_⟩
      rw [finishes, moved]
      rfl

theorem ReductionCall.program_of_admitted (coded : OpCoded mpi)
    (admitted : ∀ reductionCall ∈ calls, reductionCall.Admitted mpi ranks) :
    ∃ after, ReductionCall.Program mpi operations ranks before calls after := by
  induction calls generalizing before with
  | nil => exact ⟨before, .nil⟩
  | cons reductionCall calls ih =>
      obtain ⟨middle, first⟩ := @ReductionCall.performed_of_admitted mpi operations ranks before
        reductionCall coded (admitted reductionCall List.mem_cons_self)
      obtain ⟨after, rest⟩ := @ih middle
        fun other member => admitted other (List.mem_cons_of_mem _ member)
      exact ⟨after, .cons first rest⟩

/-- Programs of reductions, with addresses or descriptors and in place or not: a program runs to its
end exactly when each call is refused on all ranks, or on none and every descriptor lies contiguous;
the receivers then have the elements of all ranks combined, call after call, and nothing else has
changed. -/
theorem reductionPrograms_run (coded : OpCoded mpi) (positive : 0 < ranks)
    (valid : ∀ reductionCall ∈ calls, ∃ length,
      reductionCall.Valid mpi ranks (reducingSettings before) length) :
    ((∃ after, ReductionCall.Program mpi operations ranks before calls after) ↔
      ∀ reductionCall ∈ calls, reductionCall.Admitted mpi ranks) ∧
    ∀ after, ReductionCall.Program mpi operations ranks before calls after →
      reducingSettings after = reducingSettings before ∧
      reducingJoint after =
        calls.foldl (fun memory reductionCall =>
          reductionCall.intended mpi operations ranks (reducingSettings before) memory)
          (reducingJoint before) := by
  refine ⟨⟨?_, ReductionCall.program_of_admitted coded⟩, ?_⟩
  · intro runs
    obtain ⟨after, program⟩ := runs
    exact (program.reduces coded positive valid).1
  · intro after program
    exact (program.reduces coded positive valid).2

end Programs

section Laws

variable {mpi : Mpi} {operations : Operations} {ranks length : Nat} {before : Nat → Reducing}
variable {settings : Nat → Setting} {reductionCall : ReductionCall}

@[simp] theorem CDesc.length_item (desc : CDesc) (width n : Nat) :
    (desc.item width n).length = width * desc.elemLen := by
  simp [CDesc.item, List.length_flatMap, Function.comp_def]

theorem CDesc.rectangular_items (desc : CDesc) (width count : Nat) :
    Rectangular count (width * desc.elemLen) (desc.items width count) := by
  constructor
  · simp [CDesc.items]
  · intro item member
    obtain ⟨n, -, same⟩ := List.mem_map.mp member
    rw [← same, CDesc.length_item]

theorem CDesc.flatten_items (desc : CDesc) (width count : Nat) :
    (desc.items width count).flatten = desc.elementBytes (count * width) := by
  induction count with
  | zero => simp [CDesc.items, CDesc.elementBytes]
  | succ count ih =>
      have split : desc.items width (count + 1) =
          desc.items width count ++ [desc.item width count] := by
        rw [CDesc.items, List.range_succ, List.map_append]
        rfl
      rw [split, List.flatten_append, ih, Nat.succ_mul, CDesc.elementBytes, CDesc.elementBytes,
        List.range_add, List.map_append, List.flatMap_append, List.map_map]
      simp [CDesc.item, Function.comp_def]

/-- Every array that is read or written has elements of one length. -/
theorem ReductionCall.Valid.reducible (valid : reductionCall.Valid mpi ranks settings length)
    (positive : 0 < ranks)
    (distinct : ∀ rank ∈ reductionCall.receivers ranks, (reductionCall.targets rank).flatten.Nodup) :
    Reducible (reductionCall.combine mpi operations) (reductionCall.sources settings)
      reductionCall.targets (reductionCall.receivers ranks) ranks reductionCall.count
      (reductionCall.width * length) := by
  constructor
  · exact operations.length_apply _ _
  · exact positive
  · intro rank below
    unfold ReductionCall.sources ReductionCall.source
    by_cases inPlace : reductionCall.InputInPlace settings rank
    · obtain ⟨-, same, -⟩ := valid.stores rank (valid.reads rank below inPlace)
      rw [if_pos inPlace, ← same]
      exact CDesc.rectangular_items _ _ _
    · rw [if_neg inPlace, ← (valid.sends rank below inPlace).1]
      exact CDesc.rectangular_items _ _ _
  · intro rank member
    rw [← (valid.stores rank member).2.1]
    exact CDesc.rectangular_items _ _ _
  · exact distinct

/-- The same arrays, for a root or for all ranks. -/
def ReductionCall.to (reductionCall : ReductionCall) (collective : ReductionCollective) :
    ReductionCall :=
  { reductionCall with collective := collective }

/-- A reduction to a root and a broadcast of the result from there, with datatypes for it that match
the elements, do what a reduction to all ranks does. -/
theorem reduce_bcast_allreduce {root other : Nat} {elementF otherF : Nat → Int}
    {middle once : Nat → Reducing} {twice : Nat → Process} (active : mpi.seatbelts = true)
    (coded : OpCoded mpi) (positive : 0 < ranks) (free : ¬ reductionCall.RefusedAt mpi 0)
    (validReduce : (reductionCall.to (.reduce root)).Valid mpi ranks (reducingSettings before) length)
    (validBcast : CollectiveCall.Valid mpi ranks (fun rank => (before rank).process)
      ⟨reductionCall.count * reductionCall.width, otherF, .bcast root fun rank =>
        ⟨(reductionCall.arguments rank).output, elementF rank⟩⟩ other)
    (validAllreduce : (reductionCall.to .allreduce).Valid mpi ranks (reducingSettings before) length)
    (distinct : ∀ rank < ranks, (reductionCall.targets rank).flatten.Nodup)
    (reduces : (reductionCall.to (.reduce root)).Performed mpi operations ranks before middle)
    (broadcasts : CollectiveCall.Performed mpi ranks
      ⟨reductionCall.count * reductionCall.width, otherF, .bcast root fun rank =>
        ⟨(reductionCall.arguments rank).output, elementF rank⟩⟩
      (fun rank => (middle rank).process) twice)
    (allreduces : (reductionCall.to .allreduce).Performed mpi operations ranks before once) :
    joint twice = reducingJoint once := by
  obtain ⟨-, settings, reduced⟩ := reduces.reduces coded positive validReduce
  obtain ⟨-, -, atOnce⟩ := allreduces.reduces coded positive validAllreduce
  have types (rank : Nat) : (middle rank).process.world.types =
      (before rank).process.world.types :=
    congrArg (fun settings => (settings rank).types) settings
  have validMiddle : CollectiveCall.Valid mpi ranks (fun rank => (middle rank).process)
      ⟨reductionCall.count * reductionCall.width, otherF, .bcast root fun rank =>
        ⟨(reductionCall.arguments rank).output, elementF rank⟩⟩ other := by
    refine ⟨validBcast.1, fun rank below => ?_⟩
    rw [types rank]
    exact validBcast.2 rank below
  obtain ⟨-, moved⟩ := broadcasts.moves active positive validMiddle trivial
  have reducible : Reducible (reductionCall.combine mpi operations)
      (reductionCall.sources (reducingSettings before)) reductionCall.targets (List.range ranks)
      ranks reductionCall.count (reductionCall.width * length) :=
    validAllreduce.reducible positive fun rank member => distinct rank (List.mem_range.mp member)
  have atRoot : reducingJoint middle = reduceAll (reductionCall.combine mpi operations)
      (reductionCall.sources (reducingSettings before)) reductionCall.targets [root] ranks
      (reducingJoint before) := reduced.trans (if_neg free)
  have everywhere : reducingJoint once = reduceAll (reductionCall.combine mpi operations)
      (reductionCall.sources (reducingSettings before)) reductionCall.targets (List.range ranks)
      ranks (reducingJoint before) := atOnce.trans (if_neg free)
  have bytes (rank : Nat) : (reductionCall.targets rank).flatten =
      (reductionCall.arguments rank).output.elementBytes
        (reductionCall.count * reductionCall.width) := CDesc.flatten_items _ _ _
  have law := @reduceAll_broadcast _ _ (reducingJoint before) _ _ _ _ _ _ _ root reducible
    validBcast.1
  simp only [bytes] at law
  rw [everywhere, ← law, ← atRoot, moved]
  rfl

/-- The elements of an array from a position on are those of another array. -/
def CDesc.Follows (whole part : CDesc) (skipped reach : Nat) : Prop :=
  part.elemLen = whole.elemLen ∧ ∀ j < reach, part.address j = whole.address (skipped + j)

/-- A call for the elements that remain of another after the first ones. -/
structure ReductionCall.Remains (ranks : Nat) (settings : Nat → Setting) (whole part : ReductionCall)
    (skipped : Nat) : Prop where
  collective : part.collective = whole.collective
  width : part.width = whole.width
  count : whole.count = skipped + part.count
  datatype : ∀ rank, (part.arguments rank).datatypeF = (whole.arguments rank).datatypeF
  op : ∀ rank, (part.arguments rank).opF = (whole.arguments rank).opF
  inPlace : ∀ rank < ranks, part.InputInPlace settings rank ↔ whole.InputInPlace settings rank
  input : ∀ rank < ranks, ¬ whole.InputInPlace settings rank →
    (whole.arguments rank).input.Follows (part.arguments rank).input (skipped * whole.width)
      (part.count * part.width)
  output : ∀ rank < ranks, (whole.arguments rank).output.Follows (part.arguments rank).output
    (skipped * whole.width) (part.count * part.width)

/-- A call for the first elements only. -/
def ReductionCall.first (reductionCall : ReductionCall) (count : Nat) : ReductionCall :=
  { reductionCall with count := count }

theorem CDesc.Follows.items_eq {whole part : CDesc} {skipped count width : Nat}
    (follows : whole.Follows part (skipped * width) (count * width)) :
    whole.items width (skipped + count) = whole.items width skipped ++ part.items width count := by
  rw [CDesc.items, CDesc.items, CDesc.items, List.range_add, List.map_append, List.map_map]
  congr 1
  apply List.map_congr_left
  intro n member
  have below := List.mem_range.mp member
  rw [Function.comp_apply, CDesc.item, CDesc.item, follows.1]
  congr 1
  apply List.map_congr_left
  intro j inside
  have reached : n * width + j < count * width := by
    calc
      n * width + j < (n + 1) * width := by
        rw [Nat.succ_mul]
        exact Nat.add_lt_add_left (List.mem_range.mp inside) _
      _ ≤ count * width := Nat.mul_le_mul_right _ below
  rw [follows.2 _ reached, Nat.add_mul, Nat.add_assoc]

section Remains

variable {whole part : ReductionCall} {skipped rank : Nat}

/-- The arrays that are read continue, too. -/
theorem ReductionCall.Remains.source (remains : whole.Remains ranks settings part skipped)
    (below : rank < ranks) :
    (whole.source settings rank).Follows (part.source settings rank) (skipped * whole.width)
      (part.count * part.width) := by
  unfold ReductionCall.source
  by_cases inPlace : whole.InputInPlace settings rank
  · rw [if_pos inPlace, if_pos ((remains.inPlace rank below).mpr inPlace)]
    exact remains.output rank below
  · rw [if_neg inPlace, if_neg (mt (remains.inPlace rank below).mp inPlace)]
    exact remains.input rank below inPlace

theorem ReductionCall.Remains.sources_eq (remains : whole.Remains ranks settings part skipped)
    (below : rank < ranks) : whole.sources settings rank =
      (whole.first skipped).sources settings rank ++ part.sources settings rank := by
  have follows := remains.source below
  rw [remains.width] at follows
  unfold ReductionCall.sources
  rw [remains.count, remains.width]
  exact follows.items_eq

theorem ReductionCall.Remains.targets_eq (remains : whole.Remains ranks settings part skipped)
    (below : rank < ranks) :
    whole.targets rank = (whole.first skipped).targets rank ++ part.targets rank := by
  have follows := remains.output rank below
  rw [remains.width] at follows
  unfold ReductionCall.targets
  rw [remains.count, remains.width]
  exact follows.items_eq

theorem ReductionCall.Remains.combine_eq (remains : whole.Remains ranks settings part skipped) :
    part.combine mpi operations = whole.combine mpi operations := by
  unfold ReductionCall.combine
  simp only [remains.datatype, remains.op]

theorem ReductionCall.Remains.refusedAt_iff (remains : whole.Remains ranks settings part skipped) :
    part.RefusedAt mpi rank ↔ whole.RefusedAt mpi rank := by
  unfold ReductionCall.RefusedAt
  rw [remains.datatype, remains.op]

theorem ReductionCall.Remains.receivers_eq (remains : whole.Remains ranks settings part skipped) :
    part.receivers ranks = whole.receivers ranks := by
  unfold ReductionCall.receivers
  rw [remains.collective]

theorem CDesc.Carries.first {interface : Interface} {setting : Setting} {desc : CDesc}
    {datatype : Int} {width count few : Nat}
    (carries : desc.Carries mpi interface setting datatype width count) (le : few ≤ count) :
    desc.Carries mpi interface setting datatype width few where
  solid := carries.solid
  contiguous := fun contiguous n below =>
    carries.contiguous contiguous n (below.trans_le (Nat.mul_le_mul_right width le))
  lies := fun addresses n below =>
    carries.lies addresses n (below.trans_le (Nat.mul_le_mul_right width le))
  elsewhere := carries.elsewhere

theorem ReductionCall.Valid.first {few : Nat} (valid : whole.Valid mpi ranks settings length)
    (le : few ≤ whole.count) : (whole.first few).Valid mpi ranks settings length where
  rooted := valid.rooted
  reads := valid.reads
  sends := fun rank below outOfPlace =>
    have ⟨same, carries⟩ := valid.sends rank below outOfPlace
    ⟨same, carries.first le⟩
  stores := fun rank member =>
    have ⟨elsewhere, same, carries⟩ := valid.stores rank member
    ⟨elsewhere, same, carries.first le⟩

/-- A reduction of the first elements, which stores nothing where the others are read, and one of
the others do what one reduction does. -/
theorem reductions_pieces {once twice : Nat → Reducing} (coded : OpCoded mpi)
    (positive : 0 < ranks)
    (remains : whole.Remains ranks (reducingSettings before) part skipped)
    (valid : whole.Valid mpi ranks (reducingSettings before) length)
    (validPart : part.Valid mpi ranks (reducingSettings before) length)
    (distinct : ∀ rank ∈ whole.receivers ranks, (whole.targets rank).flatten.Nodup)
    (unread : ∀ rank ∈ whole.receivers ranks,
      ∀ location ∈ ((whole.first skipped).targets rank).flatten,
        location ∉ (part.sources (reducingSettings before) rank).flatten)
    (one : whole.Performed mpi operations ranks before once)
    (two : ReductionCall.Program mpi operations ranks before [whole.first skipped, part] twice) :
    reducingJoint twice = reducingJoint once := by
  have validFirst := valid.first (remains.count ▸ Nat.le_add_right skipped part.count)
  obtain ⟨-, -, atOnce⟩ := one.reduces coded positive valid
  obtain ⟨-, -, moved⟩ := two.reduces coded positive (List.forall_mem_cons.mpr
    ⟨⟨length, validFirst⟩, List.forall_mem_singleton.mpr ⟨length, validPart⟩⟩)
  rw [atOnce, moved, List.foldl_cons, List.foldl_cons, List.foldl_nil]
  by_cases refused : whole.RefusedAt mpi 0
  · have refusedFirst : (whole.first skipped).RefusedAt mpi 0 := refused
    have refusedPart : part.RefusedAt mpi 0 := remains.refusedAt_iff.mpr refused
    rw [ReductionCall.intended, ReductionCall.intended, ReductionCall.intended, if_pos refused,
      if_pos refusedFirst, if_pos refusedPart]
  · have freeFirst : ¬ (whole.first skipped).RefusedAt mpi 0 := refused
    have freePart : ¬ part.RefusedAt mpi 0 := mt remains.refusedAt_iff.mp refused
    rw [ReductionCall.intended, ReductionCall.intended, ReductionCall.intended, if_neg refused,
      if_neg freeFirst, if_neg freePart, remains.combine_eq, remains.receivers_eq]
    have split (rank : Nat) (member : rank ∈ whole.receivers ranks) :
        ((whole.first skipped).targets rank).flatten ++ (part.targets rank).flatten =
          (whole.targets rank).flatten := by
      rw [remains.targets_eq (valid.rooted rank member), List.flatten_append]
    have apart (rank : Nat) (member : rank ∈ whole.receivers ranks) :
        (((whole.first skipped).targets rank).flatten ++ (part.targets rank).flatten).Nodup :=
      (split rank member).symm ▸ distinct rank member
    have reducible : Reducible (whole.combine mpi operations)
        ((whole.first skipped).sources (reducingSettings before)) (whole.first skipped).targets
        (whole.receivers ranks) ranks skipped (whole.width * length) :=
      validFirst.reducible positive fun rank member => (List.nodup_append.mp (apart rank member)).1
    have reduciblePart : Reducible (part.combine mpi operations)
        (part.sources (reducingSettings before)) part.targets (part.receivers ranks) ranks
        part.count (part.width * length) := by
      apply validPart.reducible positive
      intro rank member
      rw [remains.receivers_eq] at member
      exact (List.nodup_append.mp (apart rank member)).2.1
    rw [remains.combine_eq, remains.receivers_eq, remains.width] at reduciblePart
    calc
      _ = reduceAll (whole.combine mpi operations)
          (fun rank => (whole.first skipped).sources (reducingSettings before) rank ++
            part.sources (reducingSettings before) rank)
          (fun rank => (whole.first skipped).targets rank ++ part.targets rank)
          (whole.receivers ranks) ranks (reducingJoint before) :=
        reduceAll_pieces reducible reduciblePart apart fun rank member _ => unread rank member
      _ = _ := by
        apply reduceAll_congr
        · intro rank below
          rw [remains.sources_eq below]
        · intro rank member
          rw [remains.targets_eq (valid.rooted rank member)]

end Remains

/-- The call with inputs of their own for the ranks that have theirs in place. -/
def ReductionCall.outOfPlace (settings : Nat → Setting) (inputs : Nat → CDesc)
    (reductionCall : ReductionCall) : ReductionCall :=
  { reductionCall with
    arguments := fun rank =>
      if reductionCall.InputInPlace settings rank then
        { reductionCall.arguments rank with input := inputs rank }
      else reductionCall.arguments rank }

/-- The inputs hold what the ranks have in place. -/
def ReductionCall.CopiedTo (ranks : Nat) (before : Nat → Reducing) (inputs : Nat → CDesc)
    (reductionCall : ReductionCall) : Prop :=
  ∀ rank < ranks, reductionCall.InputInPlace (reducingSettings before) rank →
    let { width, count, .. } := reductionCall
    (inputs rank).baseAddr ≠ (reducingSettings before rank).inPlace ∧
      itemsAt (reducingJoint before) rank ((inputs rank).items width count) =
        itemsAt (reducingJoint before) rank
          ((reductionCall.arguments rank).output.items width count)

section OutOfPlace

variable {inputs : Nat → CDesc} {rank : Nat}

theorem ReductionCall.outOfPlace_arguments :
    ((reductionCall.outOfPlace settings inputs).arguments rank).output =
        (reductionCall.arguments rank).output ∧
      ((reductionCall.outOfPlace settings inputs).arguments rank).datatypeF =
        (reductionCall.arguments rank).datatypeF ∧
      ((reductionCall.outOfPlace settings inputs).arguments rank).opF =
        (reductionCall.arguments rank).opF := by
  unfold ReductionCall.outOfPlace
  by_cases inPlace : reductionCall.InputInPlace settings rank
  · simp only [if_pos inPlace, and_self]
  · simp only [if_neg inPlace, and_self]

theorem ReductionCall.source_outOfPlace
    (copied : reductionCall.CopiedTo ranks before inputs) (below : rank < ranks) :
    itemsAt (reducingJoint before) rank
        ((reductionCall.outOfPlace (reducingSettings before) inputs).sources
          (reducingSettings before) rank) =
      itemsAt (reducingJoint before) rank
        (reductionCall.sources (reducingSettings before) rank) := by
  unfold ReductionCall.sources ReductionCall.source
  by_cases inPlace : reductionCall.InputInPlace (reducingSettings before) rank
  · obtain ⟨elsewhere, same⟩ := copied rank below inPlace
    have arguments : (reductionCall.outOfPlace (reducingSettings before) inputs).arguments rank =
        { reductionCall.arguments rank with input := inputs rank } := if_pos inPlace
    have moved : ¬ (reductionCall.outOfPlace (reducingSettings before) inputs).InputInPlace
        (reducingSettings before) rank := by
      unfold ReductionCall.InputInPlace
      rw [arguments]
      exact elsewhere
    rw [if_neg moved, if_pos inPlace, arguments]
    exact same
  · have arguments : (reductionCall.outOfPlace (reducingSettings before) inputs).arguments rank =
        reductionCall.arguments rank := if_neg inPlace
    have stays : ¬ (reductionCall.outOfPlace (reducingSettings before) inputs).InputInPlace
        (reducingSettings before) rank := by
      unfold ReductionCall.InputInPlace
      rw [arguments]
      exact inPlace
    rw [if_neg stays, if_neg inPlace, arguments]
    rfl

end OutOfPlace

/-- Ranks that have their inputs in place end with the memories that they would have with copies of
these as inputs of their own. -/
theorem reductions_inPlace {inner outer : Nat → Reducing} {inputs : Nat → CDesc}
    (coded : OpCoded mpi) (positive : 0 < ranks)
    (valid : reductionCall.Valid mpi ranks (reducingSettings before) length)
    (validOut : (reductionCall.outOfPlace (reducingSettings before) inputs).Valid mpi ranks
      (reducingSettings before) length)
    (copied : reductionCall.CopiedTo ranks before inputs)
    (within : reductionCall.Performed mpi operations ranks before inner)
    (apart : (reductionCall.outOfPlace (reducingSettings before) inputs).Performed mpi operations
      ranks before outer) : reducingJoint inner = reducingJoint outer := by
  obtain ⟨-, -, moves⟩ := within.reduces coded positive valid
  obtain ⟨-, -, movesOut⟩ := apart.reduces coded positive validOut
  have same (rank : Nat) := @ReductionCall.outOfPlace_arguments (reducingSettings before)
    reductionCall inputs rank
  have refusals : (reductionCall.outOfPlace (reducingSettings before) inputs).RefusedAt mpi 0 ↔
      reductionCall.RefusedAt mpi 0 := by
    unfold ReductionCall.RefusedAt
    rw [(same 0).2.1, (same 0).2.2]
  have combines : (reductionCall.outOfPlace (reducingSettings before) inputs).combine mpi
      operations = reductionCall.combine mpi operations := by
    unfold ReductionCall.combine
    simp only [(same 0).2.1, (same 0).2.2]
  rw [moves, movesOut, ReductionCall.intended, ReductionCall.intended]
  refine if_congr refusals.symm rfl ?_
  rw [combines]
  apply reduceAll_congr
  · intro rank below
    exact (ReductionCall.source_outOfPlace copied below).symm
  · intro rank _
    unfold ReductionCall.targets
    rw [(same rank).1]
    rfl

end Laws

section Samples

/-- `MPI_BXOR`, byte by byte. -/
def xorOperations : Operations where
  apply := fun _ _ left right => left.mapIdx fun i byte => byte ^^^ right.getD i 0
  length_apply := by
    intro op datatype left right
    exact List.length_mapIdx

/-- Ranks whose memories hold the low byte of each address. -/
def reducingStart : Nat → Reducing := fun _ => {
  process := { startProcess with memory := fun location => UInt8.ofNat location.toNat }
  reductions := [] }

def integerReduction (collective : ReductionCollective) (opF : Int) (count : Nat)
    (inputAddr outputAddr : Int) : ReductionCall where
  collective := collective
  interface := .descriptors
  count := count
  width := 1
  arguments := fun _ => {
    input := integers inputAddr count 4
    output := integers outputAddr count 4
    datatypeF := fortranInteger
    opF := opF
    commF := 0 }

def bxorOp : Int := (Predefined.op .bxor).vapaa

private theorem integers_carries {baseAddr : Int} {count : Nat} (rank : Nat)
    (consecutive : (integers baseAddr count 4).Consecutive (count * 1))
    (elsewhere : baseAddr ≠ mpich.inPlace) :
    (integers baseAddr count 4).Carries mpich .descriptors (reducingSettings reducingStart rank)
      (cMpiTypeF2c mpich fortranInteger) 1 count := by
  obtain ⟨object, live, -, -, solid⟩ :=
    (@integers_matches baseAddr 4 count (count * 1) fun _ => consecutive).fills
  exact ⟨⟨object, live, solid⟩, fun _ => consecutive, fun _ => consecutive, elsewhere⟩

private theorem integerReduction_valid {collective : ReductionCollective} {opF : Int} {count : Nat}
    {inputAddr outputAddr : Int}
    (rooted : ∀ root, collective = .reduce root → root < 2)
    (input : inputAddr ≠ mpich.inPlace) (output : outputAddr ≠ mpich.inPlace)
    (elsewhere : outputAddr ≠ 48) (receives : inputAddr = 48 → collective = .allreduce)
    (consecutive : ∀ baseAddr, (integers baseAddr count 4).Consecutive (count * 1)) :
    (integerReduction collective opF count inputAddr outputAddr).Valid mpich 2
      (reducingSettings reducingStart) 4 where
  rooted := by
    intro rank member
    cases collective with
    | reduce root => exact List.mem_singleton.mp member ▸ rooted root rfl
    | allreduce => exact List.mem_range.mp member
  reads := by
    intro rank below inPlace
    cases receives inPlace
    exact List.mem_range.mpr below
  sends := fun rank _ _ => ⟨rfl, integers_carries rank (consecutive inputAddr) input⟩
  stores := fun rank _ => ⟨elsewhere, rfl, integers_carries rank (consecutive outputAddr) output⟩

private theorem integers_consecutive {count : Nat} (few : count ≤ 3) (baseAddr : Int) :
    (integers baseAddr count 4).Consecutive (count * 1) := by
  intro n below
  obtain rfl | rfl | rfl : n = 0 ∨ n = 1 ∨ n = 2 := by omega
  all_goals rfl

private theorem bxor_free (collective : ReductionCollective) (count : Nat)
    (inputAddr outputAddr : Int)
    (rank : Nat) :
    ¬ (integerReduction collective bxorOp count inputAddr outputAddr).RefusedAt mpich rank := by
  have builtin : cMpiOpIsBuiltin mpich (cMpiOpF2c mpich bxorOp) = true := by decide +kernel
  intro refused
  exact Bool.false_ne_true (refused.1.symm.trans builtin)

private theorem bxor_admitted (collective : ReductionCollective) (count : Nat)
    (inputAddr outputAddr : Int) (input : mpich.cfiIsContiguous (integers inputAddr count 4) = 1)
    (output : mpich.cfiIsContiguous (integers outputAddr count 4) = 1) :
    (integerReduction collective bxorOp count inputAddr outputAddr).Admitted mpich 2 :=
  .inr ⟨fun rank _ => bxor_free _ _ _ _ rank, fun _ _ _ => ⟨input, output⟩⟩

/-- An operation of the user is refused on integers, and exclusive or is not. -/
theorem reductionPrograms_run_xor : ∃ after,
    ReductionCall.Program mpich xorOperations 2 reducingStart
      [integerReduction .allreduce 2000000001 3 4096 8192,
        integerReduction (.reduce 1) bxorOp 3 4096 8192] after := by
  have refused : ∀ rank < 2,
      (integerReduction .allreduce 2000000001 3 4096 8192).RefusedAt mpich rank := by
    have user : cMpiOpIsBuiltin mpich (cMpiOpF2c mpich 2000000001) = false := by decide +kernel
    have builtin : cMpiTypeIsBuiltin mpich (cMpiTypeF2c mpich fortranInteger) = true := by
      decide +kernel
    intro rank _
    exact ⟨user, builtin⟩
  have valid {collective : ReductionCollective} {opF : Int}
      (rooted : ∀ root, collective = .reduce root → root < 2) :
      ∃ length, (integerReduction collective opF 3 4096 8192).Valid mpich 2
        (reducingSettings reducingStart) length :=
    ⟨4, integerReduction_valid rooted (by decide) (by decide) (by decide)
      (fun inPlace => absurd inPlace (by decide)) (integers_consecutive (le_refl 3))⟩
  refine (reductionPrograms_run mpich_opCoded Nat.two_pos ?_).1.mpr ?_
  · refine List.forall_mem_cons.mpr ⟨valid ?_, List.forall_mem_singleton.mpr (valid ?_)⟩
    · intro root same
      cases same
    · intro root same
      cases same
      decide
  · exact List.forall_mem_cons.mpr ⟨.inl refused,
      List.forall_mem_singleton.mpr (bxor_admitted _ _ _ _ rfl rfl)⟩


private theorem integerReduction_nodup {collective : ReductionCollective} {opF : Int} {count : Nat}
    {inputAddr outputAddr : Int} (rank : Nat)
    (distinct : ((integers outputAddr count 4).items 1 count).flatten.Nodup) :
    ((integerReduction collective opF count inputAddr outputAddr).targets rank).flatten.Nodup :=
  distinct

/-- Two ranks combine three integers at rank 1, which broadcasts them. -/
theorem reduce_bcast_allreduce_integers : ∃ twice once, joint twice = reducingJoint once := by
  have valid {collective : ReductionCollective}
      (rooted : ∀ root, collective = .reduce root → root < 2) :
      (integerReduction collective bxorOp 3 4096 8192).Valid mpich 2
        (reducingSettings reducingStart) 4 :=
    integerReduction_valid rooted (by decide) (by decide) (by decide)
      (fun inPlace => absurd inPlace (by decide)) (integers_consecutive (le_refl 3))
  have validReduce := @valid (.reduce 1) fun root same => by
    cases same
    decide
  have validAllreduce := @valid .allreduce fun root same => by cases same
  let bcast : CollectiveCall :=
    ⟨3 * 1, fun _ => 0, .bcast 1 fun _ => ⟨integers 8192 3 4, fortranInteger⟩⟩
  have validBcast (states : Nat → Process)
      (types : ∀ rank, (states rank).world.types = predefinedTypes) :
      bcast.Valid mpich 2 states 4 := by
    refine ⟨Nat.one_lt_two, fun rank _ => ?_⟩
    rw [types rank]
    exact ⟨predefinedTypes_basic, integers_matches fun _ => integers_consecutive (le_refl 3) 8192⟩
  obtain ⟨middle, reduces⟩ := @ReductionCall.performed_of_admitted mpich xorOperations 2
    reducingStart _ mpich_opCoded (bxor_admitted (.reduce 1) 3 4096 8192 rfl rfl)
  obtain ⟨once, allreduces⟩ := @ReductionCall.performed_of_admitted mpich xorOperations 2
    reducingStart _ mpich_opCoded (bxor_admitted .allreduce 3 4096 8192 rfl rfl)
  have kept : reducingSettings middle = reducingSettings reducingStart :=
    (reduces.reduces mpich_opCoded Nat.two_pos validReduce).2.1
  have types (rank : Nat) : (middle rank).process.world.types = predefinedTypes :=
    congrArg (fun settings => (settings rank).types) kept
  have passable : bcast.Passable mpich 2 fun rank => (middle rank).process := by
    intro rank below described
    rw [types rank]
    exact integers_accepted _ _ (by decide) (by decide)
  obtain ⟨twice, broadcasts⟩ :=
    CollectiveCall.performed_of_passable rfl (validBcast _ types) passable
  exact ⟨twice, once, reduce_bcast_allreduce rfl mpich_opCoded Nat.two_pos
    (bxor_free .allreduce 3 4096 8192 0) validReduce
    (validBcast (fun rank => (reducingStart rank).process) fun _ => rfl) validAllreduce
    (fun rank _ => integerReduction_nodup rank (by decide)) reduces broadcasts allreduces⟩

/-- Three integers are combined at once, or the first of them before the others. -/
theorem reductions_pieces_integers : ∃ twice once, reducingJoint twice = reducingJoint once := by
  let whole := integerReduction .allreduce bxorOp 3 4096 8192
  let part := integerReduction .allreduce bxorOp 2 4100 8196
  have follows (baseAddr : Int) :
      (integers baseAddr 3 4).Follows (integers (baseAddr + 4) 2 4) 1 2 := by
    refine ⟨rfl, fun j below => ?_⟩
    rw [CDesc.address, CDesc.address,
      integers_consecutive (by decide) _ j below,
      integers_consecutive (le_refl 3) _ (1 + j) (Nat.add_lt_add_left below 1)]
    change baseAddr + 4 + (j : Int) * 4 = baseAddr + ((1 + j : Nat) : Int) * 4
    push_cast
    ring
  have remains : whole.Remains 2 (reducingSettings reducingStart) part 1 := {
    collective := rfl
    width := rfl
    count := rfl
    datatype := fun _ => rfl
    op := fun _ => rfl
    inPlace := fun _ _ => iff_of_false (show (4100 : Int) ≠ 48 by decide)
      (show (4096 : Int) ≠ 48 by decide)
    input := fun _ _ _ => follows 4096
    output := fun _ _ => follows 8192 }
  have valid {count : Nat} {inputAddr outputAddr : Int} (few : count ≤ 3)
      (input : inputAddr ≠ 48 ∧ inputAddr ≠ mpich.inPlace)
      (output : outputAddr ≠ 48 ∧ outputAddr ≠ mpich.inPlace) :
      (integerReduction .allreduce bxorOp count inputAddr outputAddr).Valid mpich 2
        (reducingSettings reducingStart) 4 := by
    apply integerReduction_valid _ input.2 output.2 output.1
      (fun inPlace => absurd inPlace input.1) (integers_consecutive few)
    intro root same
    cases same
  obtain ⟨once, one⟩ := @ReductionCall.performed_of_admitted mpich xorOperations 2
    reducingStart _ mpich_opCoded (bxor_admitted .allreduce 3 4096 8192 rfl rfl)
  obtain ⟨twice, two⟩ := @ReductionCall.program_of_admitted mpich xorOperations 2
    reducingStart [whole.first 1, part] mpich_opCoded (List.forall_mem_cons.mpr
      ⟨bxor_admitted .allreduce 3 4096 8192 rfl rfl,
        List.forall_mem_singleton.mpr (bxor_admitted .allreduce 2 4100 8196 rfl rfl)⟩)
  have unread : ∀ location ∈ ((integers 8192 3 4).items 1 1).flatten,
      location ∉ ((integers 4100 2 4).items 1 2).flatten := by decide
  exact ⟨twice, once, reductions_pieces mpich_opCoded Nat.two_pos remains
    (valid (le_refl 3) (by decide) (by decide)) (valid (by decide) (by decide) (by decide))
    (fun rank _ => integerReduction_nodup rank (by decide)) (fun _ _ => unread) one two⟩

/-- Three integers in place, or their copies, which lie a page before them. -/
theorem reductions_inPlace_integers : ∃ inner outer, reducingJoint inner = reducingJoint outer := by
  let within := integerReduction .allreduce bxorOp 3 48 8192
  let inputs : Nat → CDesc := fun _ => integers 4096 3 4
  have never : ∀ root, ReductionCollective.allreduce = .reduce root → root < 2 := by
    intro root same
    cases same
  have apart : within.outOfPlace (reducingSettings reducingStart) inputs =
      integerReduction .allreduce bxorOp 3 4096 8192 := by
    have inPlace (rank : Nat) : within.InputInPlace (reducingSettings reducingStart) rank := rfl
    unfold ReductionCall.outOfPlace
    simp only [inPlace, if_true]
    rfl
  have bytes : ((integers 4096 3 4).items 1 3).map (fun item => item.map fun location =>
      UInt8.ofNat location.toNat) =
    ((integers 8192 3 4).items 1 3).map fun item => item.map fun location =>
      UInt8.ofNat location.toNat := by decide
  have copied : within.CopiedTo 2 reducingStart inputs := by
    intro rank below inPlace
    exact ⟨show (4096 : Int) ≠ 48 by decide, bytes⟩
  have valid : within.Valid mpich 2 (reducingSettings reducingStart) 4 :=
    integerReduction_valid never (by decide) (by decide) (by decide) (fun _ => rfl)
      (integers_consecutive (le_refl 3))
  have validOut : (within.outOfPlace (reducingSettings reducingStart) inputs).Valid mpich 2
      (reducingSettings reducingStart) 4 := by
    rw [apart]
    exact integerReduction_valid never (by decide) (by decide) (by decide)
      (fun inPlace => absurd inPlace (by decide)) (integers_consecutive (le_refl 3))
  have admitted : (within.outOfPlace (reducingSettings reducingStart) inputs).Admitted mpich 2 := by
    rw [apart]
    exact bxor_admitted .allreduce 3 4096 8192 rfl rfl
  obtain ⟨inner, inside⟩ := @ReductionCall.performed_of_admitted mpich xorOperations 2
    reducingStart within mpich_opCoded (bxor_admitted .allreduce 3 48 8192 rfl rfl)
  obtain ⟨outer, outside⟩ := @ReductionCall.performed_of_admitted mpich xorOperations 2
    reducingStart _ mpich_opCoded admitted
  exact ⟨inner, outer,
    reductions_inPlace mpich_opCoded Nat.two_pos valid validOut copied inside outside⟩

end Samples

end Vapaa
