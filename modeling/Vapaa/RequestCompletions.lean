import Mathlib.Data.List.GetD
import Vapaa.HandleCoherence
import Vapaa.Requests

/-!
# Calls that start and complete operations

What the wrappers ask the library for, what they leave in the request variables, and what a program
learns from them.
-/

set_option autoImplicit false

namespace Vapaa

open Foundation

section Calls

variable {Party : Type} {mpi : Mpi} {known : KnownCommunicators Party} {net : Network Party}
variable {posting : Posting Party} {reply : Reply}

def Posting.requestAfter (mpi : Mpi) (reply : Reply) (requestF : Int) (posting : Posting Party) :
    Int :=
  match posting.transfer with
  | .send | .recv => requestF
  | .isend | .irecv => mpi.c2f .request reply.request

theorem Posting.start_eq (requestF : Int) :
    posting.start mpi reply requestF =
      (fun ierror => (posting.requestAfter mpi reply requestF, ierror)) <$>
        posting.run mpi reply := by
  unfold start run requestAfter
  cases posting.transfer with
  | send => simp only [map_eq_pure_bind]
  | isend => simp only [map_eq_pure_bind, cfiMpiIsend, bind_assoc, pure_bind]
  | recv => simp only [map_eq_pure_bind]
  | irecv => simp only [map_eq_pure_bind, cfiMpiIrecv, bind_assoc, pure_bind]

theorem Posting.start_of_run {requestF ierror : Int} {process final : Process}
    (returns : posting.run mpi reply process = .returned (ierror, final)) :
    posting.start mpi reply requestF process =
      .returned ((posting.requestAfter mpi reply requestF, ierror), final) := by
  rw [posting.start_eq, map_eq_pure_bind]
  exact Run.bind_of_returned returns

theorem Posting.run_of_start {requestF request ierror : Int} {process final : Process}
    (returns : posting.start mpi reply requestF process = .returned ((request, ierror), final)) :
    posting.run mpi reply process = .returned (ierror, final) ∧
      request = posting.requestAfter mpi reply requestF := by
  rw [posting.start_eq, map_eq_pure_bind] at returns
  obtain ⟨code, middle, runs, rest⟩ := Run.bind_eq_returned.mp returns
  cases rest
  exact ⟨runs, rfl⟩

variable {slot : Nat} {issued : Issued} {final : Process}
variable {event : ChannelEvent Party Context Int UInt8}

/-- With assertions, a call that the library understands is meant so. -/
theorem Posting.means_of_returns (active : mpi.seatbelts = true) (valid : posting.Valid mpi net)
    (success : reply.rc = mpi.errorClass .success)
    (returns : posting.run mpi reply (net.processes posting.party) =
      .returned (mpi.errorClass .success, final))
    (asks : final.issued = (net.processes posting.party).issued ++ [issued])
    (understands : understood known posting.party issued = some event) :
    (NetworkEvent.call posting).meaning mpi known = some event ∧
      final.memory = posting.received reply (net.processes posting.party).memory ∧
      (net.processes posting.party).world.types.Restored final.world.types := by
  have passable := posting.passable_of_returns active valid returns
  obtain ⟨buffer, other, carries, again, issues, memory, restored⟩ :=
    posting.run_passes valid passable success
  rw [returns] at again
  cases again
  rw [asks] at issues
  cases List.singleton_inj.mp (List.append_cancel_left issues)
  exact ⟨(posting.understood_issued carries).symm.trans understands, memory, restored⟩

end Calls

section Completions

variable {Party : Type} {mpi : Mpi} {reply : Reply} {completing : Completing Party}
variable {requests : Nat → Int} {process final : Process}

namespace Completing

def requestsAfter (mpi : Mpi) (reply : Reply) (completing : Completing Party)
    (requests : Nat → Int) : Nat → Int :=
  match completing.routine with
  | .wait | .test => Function.update requests 0 (mpi.c2f .request reply.request)
  | _ => requestsC2f mpi reply completing.count requests

def learnt (reply : Reply) (completing : Completing Party) : List Nat :=
  match completing.routine with
  | .wait => [0]
  | .test => if reply.flag ≠ 0 then [0] else []
  | .waitall => List.range completing.count
  | .testall => if reply.flag ≠ 0 then List.range completing.count else []
  | .waitany => position (indexC2f reply.index 0)
  | .testany => if reply.flag ≠ 0 then position (indexC2f reply.index 0) else []
  | .waitsome | .testsome => []

/-- There is memory for what a routine allocates. -/
def Allocates (mpi : Mpi) (process : Process) (completing : Completing Party) : Prop :=
  match completing.routine with
  | .wait | .test => True
  | .waitall => allocatesRequests mpi completing.count = true ∧
      (completing.status ≠ process.sentinels.statusesIgnore →
        mpi.allocates (toSizeT (completing.count * sizeofStatus mpi.statusAbi)) = true)
  | _ => allocatesRequests mpi completing.count = true

/-- A process after the library has been asked: but for statuses it is as before. -/
structure Asked (completion : Completion) (handles : List Int) (before after : Process) :
    Prop where
  issued : after.issued = before.issued ++ [.complete completion handles]
  memory : after.memory = before.memory
  types : after.world.types = before.world.types

/-- A routine that has its memory asks the library and returns what it answers. -/
theorem run_returns (success : reply.rc = mpi.errorClass .success)
    (allocates : completing.Allocates mpi process) :
    Run.Returns (completing.run mpi reply requests) process fun result final =>
      result = (completing.requestsAfter mpi reply requests, completing.learnt reply,
        mpi.errorClass .success) ∧
      Asked completing.routine.completion (requestsF2c mpi completing.reach requests)
        process final := by
  have pointer (status : Int) := statusArgument_apply mpi status process
  have several (status : Int) := statusesArgument_apply mpi status process
  have fixed (process : Process) := @convert_success mpi reply process success
  obtain ⟨party, routine, first, count, status⟩ := completing
  have memory (given : allocatesRequests mpi count = true) {α : Type} (yes no : Wrapper α) :
      (if allocatesRequests mpi count then yes else no) = yes := if_pos given
  cases routine with
  | wait =>
      simp only [run, cMpiWait, bind_assoc, pure_bind]
      refine Run.returns_bind_of_returned (pointer _) (Run.returns_bind_of_returned rfl ?_)
      exact Run.returns_bind_of_returned (fixed _) (Run.returns_pure ⟨rfl, rfl, rfl, rfl⟩)
  | test =>
      simp only [run, cMpiTest, bind_assoc, pure_bind]
      refine Run.returns_bind_of_returned (pointer _) (Run.returns_bind_of_returned rfl ?_)
      exact Run.returns_bind_of_returned (fixed _) (Run.returns_pure ⟨rfl, rfl, rfl, rfl⟩)
  | testall =>
      simp only [run, cMpiTestall, memory allocates, bind_assoc, pure_bind]
      refine Run.returns_bind_of_returned (several _) (Run.returns_bind_of_returned rfl ?_)
      exact Run.returns_bind_of_returned (fixed _) (Run.returns_pure ⟨rfl, rfl, rfl, rfl⟩)
  | testsome =>
      simp only [run, mpiTestsomeF08, cMpiTestsome, memory allocates, bind_assoc, pure_bind]
      refine Run.returns_bind_of_returned (several _) (Run.returns_bind_of_returned rfl ?_)
      exact Run.returns_bind_of_returned (fixed _) (Run.returns_pure ⟨rfl, rfl, rfl, rfl⟩)
  | waitsome =>
      simp only [run, mpiWaitsomeF08, cMpiWaitsome, memory allocates, bind_assoc, pure_bind]
      refine Run.returns_bind_of_returned (several _) (Run.returns_bind_of_returned rfl ?_)
      exact Run.returns_bind_of_returned (fixed _) (Run.returns_pure ⟨rfl, rfl, rfl, rfl⟩)
  | waitany =>
      simp only [run, mpiWaitanyF08, cMpiWaitany, memory allocates, bind_assoc, pure_bind]
      refine Run.returns_bind_of_returned (pointer _) (Run.returns_bind_of_returned rfl ?_)
      exact Run.returns_bind_of_returned (fixed _) (Run.returns_pure ⟨rfl, rfl, rfl, rfl⟩)
  | testany =>
      simp only [run, mpiTestanyF08, cMpiTestany, memory allocates, bind_assoc, pure_bind]
      refine Run.returns_bind_of_returned (pointer _) (Run.returns_bind_of_returned rfl ?_)
      refine Run.returns_pure ⟨?_, rfl, rfl, rfl⟩
      rw [success]
      by_cases raised : reply.flag ≠ 0
      · simp [requestsAfter, learnt, raised]
      · simp [requestsAfter, learnt, raised]
  | waitall =>
      simp only [run, cMpiWaitall, memory allocates.1, bind_assoc]
      refine Run.returns_bind_of_returned rfl ?_
      by_cases ignored : status = process.sentinels.statusesIgnore
      · simp only [ignored, decide_true, if_true, bind_assoc, pure_bind]
        refine Run.returns_bind_of_returned rfl ?_
        exact Run.returns_bind_of_returned (fixed _) (Run.returns_pure ⟨rfl, rfl, rfl, rfl⟩)
      · simp only [ignored, decide_false, Bool.false_eq_true, if_false,
          if_pos (allocates.2 ignored), bind_assoc, pure_bind]
        refine Run.returns_bind_of_returned rfl (Run.returns_bind_of_returned rfl ?_)
        exact Run.returns_bind_of_returned (fixed _) (Run.returns_pure ⟨rfl, rfl, rfl, rfl⟩)

private theorem run_refuses (scarce : ¬ completing.Allocates mpi process) :
    Run.Ensures (completing.run mpi reply requests) process fun _ final =>
      final.issued = process.issued := by
  have fixed (code : Int) : Run.Ensures (call (cMpiRcFix mpi code)) process fun _ final =>
      final.issued = process.issued := by
    intro ierror final returned
    obtain ⟨part, -, same⟩ := Run.zoom_eq_returned.mp returned
    rw [← same]
  obtain ⟨party, routine, first, count, status⟩ := completing
  have memory (scarce : ¬ allocatesRequests mpi count = true) {α : Type} (yes no : Wrapper α) :
      (if allocatesRequests mpi count then yes else no) = no := if_neg scarce
  cases routine with
  | wait | test => exact absurd trivial scarce
  | testall =>
      simp only [run, cMpiTestall, memory scarce, bind_assoc, pure_bind]
      exact (fixed _).bind fun code middle same => Run.ensures_pure same
  | testsome =>
      simp only [run, mpiTestsomeF08, cMpiTestsome, memory scarce, bind_assoc, pure_bind]
      exact (fixed _).bind fun code middle same => Run.ensures_pure same
  | waitsome =>
      simp only [run, mpiWaitsomeF08, cMpiWaitsome, memory scarce, bind_assoc, pure_bind]
      exact (fixed _).bind fun code middle same => Run.ensures_pure same
  | waitany =>
      simp only [run, mpiWaitanyF08, cMpiWaitany, memory scarce, bind_assoc, pure_bind]
      exact (fixed _).bind fun code middle same => Run.ensures_pure same
  | testany =>
      simp only [run, mpiTestanyF08, cMpiTestany, memory scarce, bind_assoc, pure_bind]
      exact (fixed _).bind fun code middle same => Run.ensures_pure same
  | waitall =>
      by_cases given : allocatesRequests mpi count = true
      · have needed : status ≠ process.sentinels.statusesIgnore ∧
            ¬ mpi.allocates (toSizeT (count * sizeofStatus mpi.statusAbi)) = true := by
          by_contra other
          apply scarce
          refine ⟨given, fun described => ?_⟩
          by_contra none
          exact other ⟨described, none⟩
        have different : decide (status = process.sentinels.statusesIgnore) = false :=
          decide_eq_false needed.1
        simp only [run, cMpiWaitall, if_pos given, bind_assoc]
        refine Run.ensures_bind_of_returned rfl ?_
        simp only [different, Bool.false_eq_true, if_false, if_neg needed.2, bind_assoc, pure_bind]
        exact (fixed _).bind fun code middle same => Run.ensures_pure same
      · simp only [run, cMpiWaitall, memory given, bind_assoc, pure_bind]
        exact (fixed _).bind fun code middle same => Run.ensures_pure same

theorem allocates_of_returns {handles : List Int} {result : (Nat → Int) × List Nat × Int}
    (returns : completing.run mpi reply requests process = .returned (result, final))
    (asks : final.issued = process.issued ++ [.complete completing.routine.completion handles]) :
    completing.Allocates mpi process := by
  by_contra scarce
  have silent : final.issued = process.issued := run_refuses scarce result final returns
  rw [asks] at silent
  exact absurd (List.append_right_eq_self.mp silent) (List.cons_ne_nil _ _)

theorem asked_of_returns (success : reply.rc = mpi.errorClass .success) {handles : List Int}
    {result : (Nat → Int) × List Nat × Int}
    (returns : completing.run mpi reply requests process = .returned (result, final))
    (asks : final.issued = process.issued ++ [.complete completing.routine.completion handles]) :
    handles = requestsF2c mpi completing.reach requests ∧
      result = (completing.requestsAfter mpi reply requests, completing.learnt reply,
        mpi.errorClass .success) ∧
      Asked completing.routine.completion handles process final := by
  obtain ⟨found, last, again, same, asked⟩ := @run_returns Party mpi reply completing requests
    process success (allocates_of_returns returns asks)
  rw [returns] at again
  cases again
  have issued := asked.issued
  rw [asks] at issued
  cases List.singleton_inj.mp (List.append_cancel_left issued)
  exact ⟨rfl, same, asked⟩

@[simp] theorem length_requestsF2c : (requestsF2c mpi completing.reach requests).length =
    completing.reach := by
  simp [requestsF2c]

theorem getD_requestsF2c {i : Nat} (below : i < completing.reach) (other : Int) :
    (requestsF2c mpi completing.reach requests).getD i other = cMpiRequestF2c mpi (requests i) := by
  simp [requestsF2c, below]

variable {state : Requesting Party} {handles : List Int} {positions : List Nat}

theorem position_of_natural (j : Nat) : position (indexC2f j 0) = [j] := by
  have natural : (0 : Int) ≤ j := Int.natCast_nonneg j
  have after : (0 : Int) < j + 1 := Int.lt_add_one_of_le natural
  rw [indexC2f, if_pos natural, position, if_pos after]
  simp

theorem position_of_negative {index : Int} (negative : index < 0) :
    position (indexC2f index 0) = [] := by
  rw [indexC2f, if_neg (not_le.mpr negative)]
  rfl

/-- A request that a routine reports is completed by it, or null. -/
theorem learnt_cases (completes : state.Completes mpi completing handles positions reply)
    (reach : handles.length = completing.reach) {i : Nat} (learns : i ∈ completing.learnt reply) :
    i < handles.length ∧ (i ∈ positions ∨
      handles.getD i (mpi.handle .requestNull) = mpi.handle .requestNull) := by
  have finished (j : Nat) (member : j ∈ positions) : j < handles.length := by
    obtain ⟨handle, ticket, found, -, -⟩ := completes.complete j member
    exact (List.getElem?_eq_some_iff.mp found).1
  have every (below : i < handles.length)
      (all : ∀ j < handles.length, j ∉ positions →
        handles.getD j (mpi.handle .requestNull) = mpi.handle .requestNull) :
      i < handles.length ∧ (i ∈ positions ∨
        handles.getD i (mpi.handle .requestNull) = mpi.handle .requestNull) := by
    by_cases member : i ∈ positions
    · exact ⟨below, .inl member⟩
    · exact ⟨below, .inr (all i below member)⟩
  have indexed {idle : Prop} (named : i ∈ position (indexC2f reply.index 0))
      (one : (∃ j : Nat, positions = [j] ∧ reply.index = j) ∨ idle ∧ reply.index < 0) :
      i < handles.length ∧ i ∈ positions := by
    cases one with
    | inl found =>
        obtain ⟨j, same, index⟩ := found
        rw [index, position_of_natural] at named
        cases List.mem_singleton.mp named
        have member : i ∈ positions := same ▸ List.mem_singleton_self i
        exact ⟨finished i member, member⟩
    | inr none =>
        rw [position_of_negative none.2] at named
        cases named
  have reports := completes.reports
  obtain ⟨party, routine, first, count, status⟩ := completing
  cases routine with
  | wait =>
      cases List.mem_singleton.mp learns
      exact every (reach ▸ Nat.one_pos) reports
  | waitall => exact every (reach ▸ List.mem_range.mp learns) reports
  | test =>
      by_cases raised : reply.flag ≠ 0
      · simp only [CompletionRoutine.Reports, if_pos raised] at reports
        simp only [learnt, if_pos raised] at learns
        cases List.mem_singleton.mp learns
        exact every (reach ▸ Nat.one_pos) reports
      · simp only [learnt, if_neg raised] at learns
        cases learns
  | testall =>
      by_cases raised : reply.flag ≠ 0
      · simp only [CompletionRoutine.Reports, if_pos raised] at reports
        simp only [learnt, if_pos raised] at learns
        exact every (reach ▸ List.mem_range.mp learns) reports
      · simp only [learnt, if_neg raised] at learns
        cases learns
  | testsome | waitsome => cases learns
  | waitany => exact (indexed learns reports).imp_right Or.inl
  | testany =>
      by_cases raised : reply.flag ≠ 0
      · simp only [CompletionRoutine.Reports, if_pos raised] at reports
        simp only [learnt, if_pos raised] at learns
        exact (indexed learns reports).imp_right Or.inl
      · simp only [learnt, if_neg raised] at learns
        cases learns

theorem learnt_done (completes : state.Completes mpi completing handles positions reply)
    (reach : handles.length = completing.reach) {i : Nat} (learns : i ∈ completing.learnt reply) :
    i < handles.length ∧
      state.Done mpi completing.party (handles.getD i (mpi.handle .requestNull)) := by
  obtain ⟨below, reported⟩ := learnt_cases completes reach learns
  refine ⟨below, ?_⟩
  cases reported with
  | inl member =>
      obtain ⟨handle, ticket, found, active, complete⟩ := completes.complete i member
      refine .inr ⟨ticket, ?_, complete⟩
      rw [List.getD_eq_getElem?_getD, found]
      exact active
  | inr null => exact .inl null

/-- A request that a routine reports becomes null. -/
theorem handleAfter_learnt (completes : state.Completes mpi completing handles positions reply)
    (reach : handles.length = completing.reach) {i : Nat} (learns : i ∈ completing.learnt reply) :
    handleAfter mpi handles positions i = mpi.handle .requestNull := by
  rw [handleAfter]
  cases (learnt_cases completes reach learns).2 with
  | inl member => exact if_pos member
  | inr null => rw [null, ite_self]

/-- The variables that a routine was given have the handles that it answers with. -/
theorem handle_requestsAfter {library : Kind → Int → Prop} (convert : HandlesConvert mpi library)
    (completes : state.Completes mpi completing handles positions reply)
    (same : handles = requestsF2c mpi completing.reach requests)
    (own : ∀ handle ∈ handles, library .request handle) {i : Nat} (below : i < completing.reach) :
    cMpiRequestF2c mpi (completing.requestsAfter mpi reply requests i) =
      handleAfter mpi handles positions i := by
  have null : library .request (mpi.handle .requestNull) :=
    convert.predefined .request .requestNull (by decide) rfl
  have length : handles.length = completing.reach := by
    rw [same, length_requestsF2c]
  have inside : i < handles.length := length ▸ below
  have ownAfter : library .request (handleAfter mpi handles positions i) := by
    rw [handleAfter]
    by_cases member : i ∈ positions
    · rw [if_pos member]
      exact null
    · rw [if_neg member, List.getD_eq_getElem _ _ inside]
      exact own _ (List.getElem_mem inside)
  have converted : cMpiRequestF2c mpi (mpi.c2f .request (handleAfter mpi handles positions i)) =
      handleAfter mpi handles positions i := convert.denotes ownAfter
  have answers := completes.requests i inside
  have single (zero : i = 0) : reply.request = handleAfter mpi handles positions i :=
    zero ▸ completes.request
  have reports := completes.reports
  obtain ⟨party, routine, first, count, status⟩ := completing
  cases routine with
  | wait | test =>
      have zero : i = 0 := Nat.lt_one_iff.mp below
      rw [requestsAfter]
      simp only [zero, Function.update_self]
      rw [zero] at converted single
      rw [single rfl, converted]
  | waitall | testall | testsome | waitsome | waitany | testany =>
      have given : (i : Int) < count := Int.ofNat_lt.mpr below
      simp only [requestsAfter, requestsC2f, if_pos given, answers, converted]

theorem requestsAfter_of_le {i : Nat} (beyond : completing.reach ≤ i) :
    completing.requestsAfter mpi reply requests i = requests i := by
  obtain ⟨party, routine, first, count, status⟩ := completing
  cases routine with
  | wait | test =>
      have other : i ≠ 0 := Nat.one_le_iff_ne_zero.mp beyond
      exact Function.update_of_ne other _ _
  | waitall | testall | testsome | waitsome | waitany | testany =>
      have outside : ¬ (i : Int) < count := not_lt.mpr (Int.ofNat_le.mpr beyond)
      exact if_neg outside

end Completing

end Completions

end Vapaa
