import Mathlib.Data.Finset.Dedup
import Mathlib.Data.Finset.SDiff
import Vapaa.SendReceive

/-!
# Completion indices

`MPI_Waitany_f08`, `MPI_Testany_f08`, `MPI_Waitsome_f08` and `MPI_Testsome_f08` of
`mpi_p2p_f.F90`: what they tell a program about the requests that completed.
-/

set_option autoImplicit false

namespace Vapaa

open Foundation

section Wrappers

variable (mpi : Mpi) (reply : Reply)

/-- `if (index_c .ge. 0) then index = index_c + 1` -/
def indexC2f (indexC index : Int) : Int := if 0 ≤ indexC then indexC + 1 else index

/-- Returns `requests`, `outcount`, `indices` and `ierror`; `outcountC` is what the local
variable holds before the call. -/
def mpiTestsomeF08 (incount : Int) (requests : Nat → Int) (indices : List Int)
    (statuses outcountC : Int) : Wrapper ((Nat → Int) × Int × List Int × Int) := do
  let (requests, outcountC, indices, ierrorC) ←
    cMpiTestsome mpi reply incount requests outcountC indices statuses
  let outcount := outcountC
  return (requests, outcount, indices, ierrorC)

def mpiTestanyF08 (count : Int) (requests : Nat → Int) (index status indexC flagC : Int) :
    Wrapper ((Nat → Int) × Int × Bool × Int) := do
  let (requests, indexC, flagC, ierrorC) ←
    cMpiTestany mpi reply count requests indexC flagC status
  let index := indexC2f indexC index
  let flag := flagC ≠ 0
  return (requests, index, flag, ierrorC)

def mpiWaitsomeF08 (incount : Int) (requests : Nat → Int) (indices : List Int)
    (statuses outcountC : Int) : Wrapper ((Nat → Int) × Int × List Int × Int) := do
  let (requests, outcountC, indices, ierrorC) ←
    cMpiWaitsome mpi reply incount requests outcountC indices statuses
  let outcount := outcountC
  return (requests, outcount, indices, ierrorC)

def mpiWaitanyF08 (count : Int) (requests : Nat → Int) (index status indexC : Int) :
    Wrapper ((Nat → Int) × Int × Int) := do
  let (requests, indexC, ierrorC) ← cMpiWaitany mpi reply count requests indexC status
  let index := indexC2f indexC index
  return (requests, index, ierrorC)

end Wrappers

section Reports

/-- What the library reports about an array of requests: the positions that it completes, in
the order of its list, or that no request is active. -/
inductive Report (n : Nat) where
  | completed (positions : List (Fin n))
  | noneActive
  deriving DecidableEq, Repr

/-- The routines that complete some of their requests. -/
inductive Routine where
  | testsome | testany | waitsome | waitany
  deriving DecidableEq, Repr

/-- Reports that a routine may make. -/
def Routine.Reports {n : Nat} : Routine → Report n → Prop
  | .testsome, .completed positions => positions.Nodup
  | .testany, .completed positions => positions.length ≤ 1
  | .waitsome, .completed positions => positions.Nodup ∧ positions ≠ []
  | .waitany, .completed positions => positions.length = 1
  | _, .noneActive => True

/-- The position of a request in a C array. -/
def cPosition {n : Nat} (position : Fin n) : Int := (position : Nat)

/-- The position of a request in a Fortran array. -/
def fortranPosition {n : Nat} (position : Fin n) : Int := (position : Nat) + 1

/-- The reply with the output arguments that a report defines, in the numbering of C;
`undefined` is `MPI_UNDEFINED`. -/
def Report.answer {n : Nat} (undefined : Int) (indices : List Int) (reply : Reply) :
    Report n → Reply
  | .completed positions => { reply with
      index := match positions with
        | [] => undefined
        | position :: _ => cPosition position
      flag := if positions = [] then 0 else 1
      outcount := positions.length
      indices := positions.map cPosition ++
        indices.drop positions.length }
  | .noneActive => { reply with
      index := undefined, flag := 1, outcount := undefined, indices := indices }

/-- The variables of a program that the routines define. -/
structure CompletionVariables where
  index : Int
  flag : Bool
  outcount : Int
  indices : List Int
  deriving DecidableEq, Repr

/-- A call of a routine: the report and the rest of the reply, the address of the status or of
the statuses, and what the local variables hold that nothing initializes. -/
structure CompletionCall (mpi : Mpi) (n : Nat) where
  routine : Routine
  report : Report n
  reply : Reply
  status : Int
  indexC : Int
  flagC : Int
  outcountC : Int
  possible : routine.Reports report
  coded : mpi.Codes reply.rc

/-- The call, from the requests and the variables before it to those after it. -/
def CompletionCall.run {mpi : Mpi} {n : Nat} (undefined : Int) (call : CompletionCall mpi n)
    (requests : Nat → Int) (before : CompletionVariables) :
    Wrapper ((Nat → Int) × CompletionVariables) := do
  let reply := call.report.answer undefined before.indices call.reply
  match call.routine with
  | .testsome =>
      let (requests, outcount, indices, _) ←
        mpiTestsomeF08 mpi reply n requests before.indices call.status call.outcountC
      return (requests, { before with outcount := outcount, indices := indices })
  | .testany =>
      let (requests, index, flag, _) ←
        mpiTestanyF08 mpi reply n requests before.index call.status call.indexC call.flagC
      return (requests, { before with index := index, flag := flag })
  | .waitsome =>
      let (requests, outcount, indices, _) ←
        mpiWaitsomeF08 mpi reply n requests before.indices call.status call.outcountC
      return (requests, { before with outcount := outcount, indices := indices })
  | .waitany =>
      let (requests, index, _) ←
        mpiWaitanyF08 mpi reply n requests before.index call.status call.indexC
      return (requests, { before with index := index })

/-- The variables tell what the report says, in the numbering of Fortran. -/
def Report.Tells {n : Nat} (report : Report n) (routine : Routine)
    (after : CompletionVariables) : Prop :=
  match routine, report with
  | .testany, .completed (position :: _) | .waitany, .completed (position :: _) =>
      after.index = fortranPosition position
  | .testany, _ | .waitany, _ => after.index = vapaaMpiUndefined
  | .testsome, .completed positions | .waitsome, .completed positions =>
      after.outcount = positions.length ∧
        after.indices.take positions.length = positions.map fortranPosition
  | .testsome, .noneActive | .waitsome, .noneActive => after.outcount = vapaaMpiUndefined

variable {mpi : Mpi} {n : Nat} (undefined : Int) (call : CompletionCall mpi n)

/-- The call defines the variables as the report says, whatever they were before. -/
def CompletionCall.Defines (requests : Nat → Int) (process : Process) : Prop :=
  ∀ before, Run.Returns (call.run undefined requests before) process fun result _ =>
    call.report.Tells call.routine result.2

/-- The calls that need no conversion but that of `MPI_Testany` and `MPI_Waitany`. -/
def CompletionCall.Converted : Prop :=
  match call.routine, call.report with
  | .testany, .completed (_ :: _) | .waitany, .completed (_ :: _) => True
  | .testany, _ | .waitany, _ => False
  | .testsome, .completed positions | .waitsome, .completed positions => positions = []
  | .testsome, .noneActive | .waitsome, .noneActive => undefined = vapaaMpiUndefined

end Reports

section Calls

variable {mpi : Mpi} {n : Nat} {undefined : Int} {process : Process}

/-- The variables after a call that has memory for its requests. -/
def CompletionCall.after (undefined : Int) (call : CompletionCall mpi n)
    (before : CompletionVariables) : CompletionVariables :=
  let reply := call.report.answer undefined before.indices call.reply
  match call.routine with
  | .testsome | .waitsome => { before with outcount := reply.outcount, indices := reply.indices }
  | .testany => { before with
      index := indexC2f reply.index before.index, flag := reply.flag ≠ 0 }
  | .waitany => { before with index := indexC2f reply.index before.index }

theorem Report.answer_rc (report : Report n) (indices : List Int) (reply : Reply) :
    (report.answer undefined indices reply).rc = reply.rc := by
  cases report with
  | completed positions => rfl
  | noneActive => rfl

theorem CompletionCall.run_returns (call : CompletionCall mpi n)
    (allocated : allocatesRequests mpi n = true) (requests : Nat → Int)
    (before : CompletionVariables) :
    Run.Returns (call.run undefined requests before) process fun result _ =>
      result.2 = call.after undefined before := by
  have coded := call.coded
  rw [← @Report.answer_rc n undefined call.report before.indices call.reply] at coded
  obtain ⟨ierror, world, fixed, -⟩ := @cMpiRcFix_returned mpi process.world _ coded
  have pointer := statusArgument_apply mpi call.status process
  have several := statusesArgument_apply mpi call.status process
  rw [CompletionCall.run, CompletionCall.after]
  cases routine : call.routine with
  | testsome =>
      simp only [mpiTestsomeF08, cMpiTestsome, if_pos allocated, bind_assoc, pure_bind]
      refine Run.returns_bind_of_returned several (Run.returns_bind_of_returned rfl ?_)
      exact Run.returns_bind_of_returned (call_of_returned fixed) (Run.returns_pure rfl)
  | testany =>
      simp only [mpiTestanyF08, cMpiTestany, if_pos allocated, bind_assoc, pure_bind]
      refine Run.returns_bind_of_returned pointer (Run.returns_bind_of_returned rfl ?_)
      exact Run.returns_pure rfl
  | waitsome =>
      simp only [mpiWaitsomeF08, cMpiWaitsome, if_pos allocated, bind_assoc, pure_bind]
      refine Run.returns_bind_of_returned several (Run.returns_bind_of_returned rfl ?_)
      exact Run.returns_bind_of_returned (call_of_returned fixed) (Run.returns_pure rfl)
  | waitany =>
      simp only [mpiWaitanyF08, cMpiWaitany, if_pos allocated, bind_assoc, pure_bind]
      refine Run.returns_bind_of_returned pointer (Run.returns_bind_of_returned rfl ?_)
      exact Run.returns_bind_of_returned (call_of_returned fixed) (Run.returns_pure rfl)

theorem CompletionCall.defines_iff_tells (call : CompletionCall mpi n)
    (allocated : allocatesRequests mpi n = true) (requests : Nat → Int) (process : Process) :
    call.Defines undefined requests process ↔
      ∀ before, call.report.Tells call.routine (call.after undefined before) := by
  constructor
  · intro defines before
    obtain ⟨result, final, returned, tells⟩ := defines before
    obtain ⟨_, _, again, after⟩ :=
      @run_returns mpi n undefined process call allocated requests before
    rw [returned] at again
    cases again
    exact after ▸ tells
  · intro tells before
    refine (call.run_returns allocated requests before).mono ?_
    rintro ⟨requests, after⟩ final rfl
    exact tells before

/-- An undefined index of C is not converted. -/
theorem indexC2f_undefined : ¬ ∀ index, indexC2f undefined index = vapaaMpiUndefined := by
  intro converted
  have zero := converted 0
  simp only [indexC2f, vapaaMpiUndefined] at zero
  split_ifs at zero
  omega

/-- Positions of C are those of Fortran only where there are none. -/
theorem positions_converted_iff {positions : List (Fin n)} {indices : List Int} :
    (positions.map cPosition ++
        indices.drop positions.length).take positions.length = positions.map fortranPosition ↔
      positions = [] := by
  have length : positions.length =
      (positions.map cPosition).length := by simp
  rw [List.take_append_of_le_length length.le, List.take_of_length_le length.ge]
  cases positions with
  | nil => simp
  | cons position positions =>
      simp only [List.map_cons, List.cons.injEq, cPosition, fortranPosition, reduceCtorEq,
        iff_false]
      omega

theorem CompletionCall.tells_after_iff (call : CompletionCall mpi n) :
    (∀ before, call.report.Tells call.routine (call.after undefined before)) ↔
      call.Converted undefined := by
  have never {index : CompletionVariables → Int}
      (kept : ∀ before, index before = indexC2f undefined before.index) :
      ¬ ∀ before, index before = vapaaMpiUndefined := by
    intro converted
    refine @indexC2f_undefined undefined fun index => ?_
    rw [← kept { index := index, flag := false, outcount := 0, indices := [] }]
    exact converted _
  rw [CompletionCall.Converted]
  cases routine : call.routine with
  | testany | waitany =>
      cases report : call.report with
      | noneActive =>
          simp only [Report.Tells, iff_false]
          exact never fun before => by simp [CompletionCall.after, routine, report, Report.answer]
      | completed positions =>
          cases positions with
          | nil =>
              simp only [Report.Tells, iff_false]
              exact never fun before => by
                simp [CompletionCall.after, routine, report, Report.answer]
          | cons position positions =>
              simp only [Report.Tells, iff_true]
              intro before
              simp [CompletionCall.after, routine, report, Report.answer, indexC2f, cPosition,
                fortranPosition]
  | testsome | waitsome =>
      cases report : call.report with
      | noneActive =>
          simp only [Report.Tells, CompletionCall.after, routine, report, Report.answer]
          exact ⟨fun converted =>
            converted { index := 0, flag := false, outcount := 0, indices := [] },
              fun same _ => same⟩
      | completed positions =>
          simp only [Report.Tells, CompletionCall.after, routine, report, Report.answer,
            true_and, positions_converted_iff]
          exact ⟨fun converted =>
            converted { index := 0, flag := false, outcount := 0, indices := [] },
              fun same _ => same⟩

theorem CompletionCall.defines_iff (call : CompletionCall mpi n)
    (allocated : allocatesRequests mpi n = true) (requests : Nat → Int) (process : Process) :
    call.Defines undefined requests process ↔ call.Converted undefined :=
  (call.defines_iff_tells allocated requests process).trans call.tells_after_iff

end Calls

section Programs

variable {mpi : Mpi} {n : Nat}

/-- Positions that a program processes after a call, which it takes from its variables. -/
def CompletionCall.processed (call : CompletionCall mpi n) (after : CompletionVariables) :
    List Int :=
  match call.routine with
  | .testany | .waitany => if after.index ≠ vapaaMpiUndefined then [after.index] else []
  | .testsome | .waitsome =>
      if after.outcount ≠ vapaaMpiUndefined then after.indices.take after.outcount.toNat else []

/-- A program that completes requests call by call and processes what each call reports. -/
def completeAll (undefined : Int) :
    List (CompletionCall mpi n) → (Nat → Int) → CompletionVariables → List Int →
      Wrapper (List Int)
  | [], _, _, processed => return processed
  | call :: calls, requests, values, processed => do
      let (requests, values) ← call.run undefined requests values
      completeAll undefined calls requests values (processed ++ call.processed values)

def Report.positions : Report n → List (Fin n)
  | .completed positions => positions
  | .noneActive => []

/-- Requests that are active after some calls. -/
def remaining : Finset (Fin n) → List (CompletionCall mpi n) → Finset (Fin n)
  | active, [] => active
  | active, call :: calls => remaining (active \ call.report.positions.toFinset) calls

/-- Only active requests complete, and none is reported active exactly where none is. -/
def Consistent : Finset (Fin n) → List (CompletionCall mpi n) → Prop
  | _, [] => True
  | active, call :: calls =>
      (call.report = .noneActive ↔ active = ∅) ∧
        (∀ position ∈ call.report.positions, position ∈ active) ∧
        Consistent (active \ call.report.positions.toFinset) calls

variable {undefined : Int} {process : Process}

theorem Report.positions_nodup {routine : Routine} {report : Report n}
    (possible : routine.Reports report) : report.positions.Nodup := by
  have short {positions : List (Fin n)} (few : positions.length ≤ 1) : positions.Nodup := by
    match positions with
    | [] => exact List.nodup_nil
    | [position] => exact List.nodup_singleton position
  cases report with
  | noneActive => exact List.nodup_nil
  | completed positions =>
      cases routine with
      | testsome => exact possible
      | testany => exact short possible
      | waitsome => exact possible.1
      | waitany => exact short possible.le

/-- Variables that tell what the report says lead the program to what completed. -/
theorem CompletionCall.processed_of_tells (call : CompletionCall mpi n)
    {after : CompletionVariables} (tells : call.report.Tells call.routine after) :
    call.processed after = call.report.positions.map fortranPosition := by
  have counts (position : Fin n) : fortranPosition position ≠ vapaaMpiUndefined := by
    simp only [fortranPosition, vapaaMpiUndefined]
    omega
  have possible := call.possible
  rw [CompletionCall.processed]
  cases routine : call.routine with
  | testany | waitany =>
      rw [routine] at tells possible
      cases report : call.report with
      | noneActive =>
          rw [report] at tells
          have undefined : after.index = vapaaMpiUndefined := tells
          simp [undefined, Report.positions]
      | completed positions =>
          rw [report] at tells possible
          cases positions with
          | nil =>
              have undefined : after.index = vapaaMpiUndefined := tells
              simp [undefined, Report.positions]
          | cons position positions =>
              have index : after.index = fortranPosition position := tells
              have alone : positions = [] := by
                simpa [Routine.Reports] using possible
              simp [index, counts, Report.positions, alone]
  | testsome | waitsome =>
      rw [routine] at tells
      cases report : call.report with
      | noneActive =>
          rw [report] at tells
          have undefined : after.outcount = vapaaMpiUndefined := tells
          simp [undefined, Report.positions]
      | completed positions =>
          rw [report] at tells
          obtain ⟨counted, listed⟩ := tells
          have several : after.outcount ≠ vapaaMpiUndefined := by
            rw [counted, vapaaMpiUndefined]
            omega
          rw [if_pos several, counted, Int.toNat_natCast, listed, Report.positions]

private theorem completeAll_returns {calls : List (CompletionCall mpi n)}
    (allocated : allocatesRequests mpi n = true)
    (converted : ∀ call ∈ calls, call.Converted undefined) (requests : Nat → Int)
    (values : CompletionVariables) (processed : List Int) :
    Run.Returns (completeAll undefined calls requests values processed) process
      fun result _ => result = processed ++
        (calls.flatMap fun call => call.report.positions).map fortranPosition := by
  induction calls generalizing requests values processed process with
  | nil =>
      refine Run.returns_pure ?_
      simp
  | cons call calls ih =>
      have defines := (call.defines_iff allocated requests process).mpr
        (converted call List.mem_cons_self)
      refine (defines values).bind ?_
      rintro ⟨requests, after⟩ middle tells
      dsimp only
      rw [call.processed_of_tells tells, List.flatMap_cons, List.map_append, ← List.append_assoc]
      exact ih (fun other member => converted other (List.mem_cons_of_mem call member)) _ _ _

private theorem remaining_subset (active : Finset (Fin n)) (calls : List (CompletionCall mpi n)) :
    remaining active calls ⊆ active := by
  induction calls generalizing active with
  | nil => exact Finset.Subset.refl active
  | cons call calls ih => exact (ih _).trans Finset.sdiff_subset

/-- Over a consistent run each request that does not stay active completes once. -/
theorem completed_once {active : Finset (Fin n)} {calls : List (CompletionCall mpi n)}
    (consistent : Consistent active calls) :
    (calls.flatMap fun call => call.report.positions).Nodup ∧
      ∀ request, (request ∈ calls.flatMap fun call => call.report.positions) ↔
        request ∈ active \ remaining active calls := by
  induction calls generalizing active with
  | nil => exact ⟨List.nodup_nil, fun request => by simp [remaining]⟩
  | cons call calls ih =>
      obtain ⟨-, within, rest⟩ := consistent
      obtain ⟨once, later⟩ := ih rest
      have left := remaining_subset (active \ call.report.positions.toFinset) calls
      constructor
      · rw [List.flatMap_cons, List.nodup_append]
        refine ⟨Report.positions_nodup call.possible, once, ?_⟩
        intro request now other after same
        subst same
        have still := Finset.mem_sdiff.mp ((later request).mp after)
        exact (Finset.mem_sdiff.mp still.1).2 (List.mem_toFinset.mpr now)
      · intro request
        rw [List.flatMap_cons, List.mem_append, later, remaining]
        simp only [Finset.mem_sdiff, List.mem_toFinset]
        constructor
        · rintro (now | ⟨⟨present, -⟩, gone⟩)
          · exact ⟨within request now, fun stays =>
              (Finset.mem_sdiff.mp (left stays)).2 (List.mem_toFinset.mpr now)⟩
          · exact ⟨present, gone⟩
        · rintro ⟨present, gone⟩
          by_cases now : request ∈ call.report.positions
          · exact Or.inl now
          · exact Or.inr ⟨⟨present, now⟩, gone⟩

/-- A call defines its output variables as the report says exactly where they need no
conversion besides the index of `MPI_Testany` and `MPI_Waitany`; and a program all of whose
calls are of this kind processes each request that completes exactly once. -/
theorem completionIndices_iff (undefined : Int) (allocated : allocatesRequests mpi n = true) :
    (∀ (call : CompletionCall mpi n) (requests : Nat → Int) (process : Process),
      call.Defines undefined requests process ↔ call.Converted undefined) ∧
    ∀ (active : Finset (Fin n)) (calls : List (CompletionCall mpi n)),
      Consistent active calls → (∀ call ∈ calls, call.Converted undefined) →
        ∀ (requests : Nat → Int) (values : CompletionVariables) (process : Process),
          Run.Returns (completeAll undefined calls requests values []) process
            fun processed _ => processed.Nodup ∧ ∀ position, position ∈ processed ↔
              ∃ request ∈ active \ remaining active calls,
                position = fortranPosition request := by
  refine ⟨fun call requests process => call.defines_iff allocated requests process, ?_⟩
  intro active calls consistent converted requests values process
  obtain ⟨once, exactly⟩ := completed_once consistent
  refine (completeAll_returns allocated converted requests values []).mono ?_
  rintro processed final rfl
  rw [List.nil_append]
  constructor
  · refine once.map ?_
    intro first second same
    simp only [fortranPosition] at same
    omega
  · intro position
    simp only [List.mem_map, exactly]
    constructor
    · rintro ⟨request, member, rfl⟩
      exact ⟨request, member, rfl⟩
    · rintro ⟨request, member, rfl⟩
      exact ⟨request, member, rfl⟩

end Programs

section Pair

/-- A call for two requests. -/
def pairCall (routine : Routine) (report : Report 2) (possible : routine.Reports report) :
    CompletionCall mpich 2 where
  routine := routine
  report := report
  reply := successfulReply
  status := 16
  indexC := 0
  flagC := 0
  outcountC := 0
  possible := possible
  coded := Or.inl rfl

/-- The second request completes, and 1 is the index of the first; or there is none to wait for,
and the index is not defined. -/
theorem completionIndices_unconverted :
    ¬ (pairCall .waitsome (.completed [1]) ⟨by decide, by decide⟩).Defines (-32766)
        (fun _ => 0) startProcess ∧
      ¬ (pairCall .waitany .noneActive trivial).Defines (-32766) (fun _ => 0)
        startProcess := by
  constructor
  · rw [CompletionCall.defines_iff _ rfl]
    exact fun empty => by cases empty
  · rw [CompletionCall.defines_iff _ rfl]
    exact id

def pairCalls : List (CompletionCall mpich 2) :=
  [pairCall .waitany (.completed [1]) rfl, pairCall .testany (.completed [0]) (le_refl 1)]

theorem completionIndices_pair :
    Run.Returns (completeAll (-32766) pairCalls (fun _ => 0) ⟨0, false, 0, []⟩ []) startProcess
      fun processed _ => processed.Nodup ∧ ∀ position, position ∈ processed ↔
        ∃ request ∈ ({0, 1} : Finset (Fin 2)) \ remaining {0, 1} pairCalls,
          position = fortranPosition request := by
  refine (@completionIndices_iff mpich 2 (-32766) rfl).2 {0, 1} pairCalls ?_ ?_ _ _ _
  · exact ⟨by decide, by decide, by decide, by decide, trivial⟩
  · simp [pairCalls, pairCall, CompletionCall.Converted]

end Pair

end Vapaa
