import Vapaa.RequestConsistency

/-!
# What completes and what can be started

Which events can happen in a state of processes with requests, and what the routines of `mpi_p2p.c`
may report.
-/

set_option autoImplicit false

namespace Vapaa

open Foundation

section Progress

variable {Party : Type} (mpi : Mpi) (known : KnownCommunicators Party)
variable (library : Kind → Int → Prop)

/-- What a routine may report, by the requests of its variables. -/
def Requesting.Offers (state : Requesting Party) (completing : Completing Party)
    (seen : List Nat) : Prop :=
  let handle (i : Nat) := state.handle mpi completing.party (completing.first + i)
  let idle := ∀ i < completing.reach, handle i = mpi.handle .requestNull
  let all := ∀ i < completing.reach, state.Done mpi completing.party (handle i)
  let one (i : Nat) := i < completing.reach ∧ state.Finished completing.party (handle i)
  match completing.routine with
  | .wait | .waitall => all ∧ seen = List.range completing.reach
  | .test | .testall => all ∧ seen = List.range completing.reach ∨ seen = []
  | .waitany => (∃ i, one i ∧ seen = [i]) ∨ idle ∧ seen = []
  | .testany => (∃ i, one i ∧ seen = [i]) ∨ seen = []
  | .waitsome => ((∃ i, one i) ∨ idle) ∧ seen = []
  | .testsome => seen = []

/-- What a program and the library need for an event to happen. -/
def RequestEvent.Enabled (state : Requesting Party) [DecidableEq Party] :
    RequestEvent Party → Prop
  | .call posting _ => posting.Passable mpi state.net ∧
      ∃ meant, (NetworkEvent.call posting).meaning mpi known = some meant ∧
        (state.tracked.step meant).isSome ∧
        ((state.tracked.counts.ticket meant).isSome → ∃ handle, library .request handle ∧
          handle ≠ mpi.handle .requestNull ∧ state.active posting.party handle = Option.none)
  | .complete completing seen =>
      completing.Allocates mpi (state.net.processes completing.party) ∧
        state.Offers mpi completing seen
  | .transfer envelope => (state.tracked.step (.transfer envelope)).isSome
  | .buffer envelope n => (state.tracked.step (.buffer envelope n)).isSome
  | .store _ _ _ => True

/-- What the library answers when it completes the requests at some positions. -/
def completed (handles : List Int) (positions : List Nat) (flag index outcount : Int)
    (indices : List Int) : Reply :=
  { successfulReply with
    rc := mpi.errorClass .success
    request := handleAfter mpi handles positions 0
    requests := handleAfter mpi handles positions
    flag, index, outcount, indices }

variable {mpi known library} [DecidableEq Party] {state : Requesting Party}
variable {completing : Completing Party} {seen : List Nat}

theorem Requesting.step_completed {handles : List Int} (positions : List Nat)
    (flag index outcount : Int) (indices : List Int)
    (allocates : completing.Allocates mpi (state.net.processes completing.party))
    (given : handles = requestsF2c mpi completing.reach fun i =>
      state.slots completing.party (completing.first + i))
    (finished : ∀ i ∈ positions, i < completing.reach ∧
      state.Finished completing.party (state.handle mpi completing.party (completing.first + i)))
    (reports : completing.routine.Reports mpi handles positions
      (completed mpi handles positions flag index outcount indices))
    (learns : completing.learnt (completed mpi handles positions flag index outcount indices) =
      seen) :
    ∃ last, state.Step mpi known library (.complete completing seen) last := by
  have complete : ∀ i ∈ positions, ∃ handle ticket, handles[i]? = some handle ∧
      state.active completing.party handle = some ticket ∧ ticket.Complete state.tracked := by
    intro i member
    obtain ⟨below, ticket, active, done⟩ := finished i member
    refine ⟨_, ticket, ?_, active, done⟩
    have inside : i < handles.length := by
      rw [given, Completing.length_requestsF2c]
      exact below
    rw [List.getElem?_eq_getElem inside, ← Completing.given below, ← given,
      List.getD_eq_getElem _ _ inside]
  obtain ⟨result, final, returns, same, asked⟩ := @Completing.run_returns Party mpi
    (completed mpi handles positions flag index outcount indices) completing
    (fun i => state.slots completing.party (completing.first + i)) _ rfl allocates
  subst same
  rw [learns] at returns
  exact ⟨_, .complete _ ⟨rfl, complete, reports, rfl, fun _ _ => rfl⟩ returns
    (given ▸ asked.issued)⟩

omit [DecidableEq Party] in
/-- Requests that are null or complete are so after the complete ones are completed. -/
theorem Requesting.exists_positions
    (all : ∀ i < completing.reach, state.Done mpi completing.party
      (state.handle mpi completing.party (completing.first + i))) :
    ∃ positions : List Nat,
      (∀ i ∈ positions, i < completing.reach ∧ state.Finished completing.party
        (state.handle mpi completing.party (completing.first + i))) ∧
      ∀ i < completing.reach, i ∉ positions →
        state.handle mpi completing.party (completing.first + i) = mpi.handle .requestNull := by
  refine ⟨(List.range completing.reach).filter fun i =>
    state.handle mpi completing.party (completing.first + i) ≠ mpi.handle .requestNull, ?_, ?_⟩
  · intro i member
    obtain ⟨inside, busy⟩ := List.mem_filter.mp member
    have below := List.mem_range.mp inside
    exact ⟨below, (all i below).resolve_left (of_decide_eq_true busy)⟩
  · intro i below outside
    by_contra busy
    exact outside (List.mem_filter.mpr ⟨List.mem_range.mpr below, decide_eq_true busy⟩)

omit [DecidableEq Party] in
/-- The other handles that the library is given are null exactly when those of the variables are. -/
theorem Requesting.others_null_iff {handles : List Int} {positions : List Nat}
    (given : handles = requestsF2c mpi completing.reach fun i =>
      state.slots completing.party (completing.first + i)) :
    (∀ i < handles.length, i ∉ positions →
        handles.getD i (mpi.handle .requestNull) = mpi.handle .requestNull) ↔
      ∀ i < completing.reach, i ∉ positions →
        state.handle mpi completing.party (completing.first + i) = mpi.handle .requestNull := by
  subst given
  rw [Completing.length_requestsF2c]
  refine forall_congr' fun i => ?_
  constructor
  · intro null below outside
    rw [← Completing.given below]
    exact null below outside
  · intro null below outside
    rw [Completing.given below]
    exact null below outside

/-- What the requests of the variables allow, a routine may report. -/
theorem Requesting.step_of_offers
    (allocates : completing.Allocates mpi (state.net.processes completing.party))
    (offers : state.Offers mpi completing seen) :
    ∃ last, state.Step mpi known library (.complete completing seen) last := by
  obtain ⟨handles, same⟩ : ∃ handles, handles = requestsF2c mpi completing.reach fun i =>
    state.slots completing.party (completing.first + i) := ⟨_, rfl⟩
  have others {positions : List Nat}
      (null : ∀ i < completing.reach, i ∉ positions →
        state.handle mpi completing.party (completing.first + i) = mpi.handle .requestNull) :
      ∀ i < handles.length, i ∉ positions →
        handles.getD i (mpi.handle .requestNull) = mpi.handle .requestNull :=
    (Requesting.others_null_iff same).mpr null
  have none {p : Nat → Prop} : ∀ i ∈ ([] : List Nat), p i := by
    intro i member
    cases member
  have single {p : Nat → Prop} {i : Nat} (holds : p i) : ∀ j ∈ [i], p j := by
    intro j member
    cases List.mem_singleton.mp member
    exact holds
  have negative : (-1 : Int) < 0 := by decide
  cases kind : completing.routine with
  | wait | waitall =>
      simp only [Requesting.Offers, kind] at offers
      obtain ⟨all, rfl⟩ := offers
      obtain ⟨positions, finished, null⟩ := Requesting.exists_positions all
      refine Requesting.step_completed positions 0 0 0 [] allocates same finished ?_ ?_
      · rw [kind]
        exact others null
      · simp [Completing.learnt, Completing.reach, kind]
  | test | testall =>
      simp only [Requesting.Offers, kind] at offers
      cases offers with
      | inl raised =>
          obtain ⟨all, rfl⟩ := raised
          obtain ⟨positions, finished, null⟩ := Requesting.exists_positions all
          refine Requesting.step_completed positions 1 0 0 [] allocates same finished ?_ ?_
          · rw [kind]
            exact others null
          · simp [Completing.learnt, Completing.reach, kind, completed]
      | inr quiet =>
          refine Requesting.step_completed [] 0 0 0 [] allocates same none ?_ ?_
          · simp [kind, CompletionRoutine.Reports, completed]
          · simp [Completing.learnt, kind, quiet, completed]
  | waitany =>
      simp only [Requesting.Offers, kind] at offers
      cases offers with
      | inl found =>
          obtain ⟨i, finished, rfl⟩ := found
          refine Requesting.step_completed [i] 0 i 0 [] allocates same (single finished) ?_ ?_
          · rw [kind]
            exact Or.inl ⟨i, rfl, rfl⟩
          · simp only [Completing.learnt, kind, completed, Completing.position_of_natural]
      | inr absent =>
          obtain ⟨null, rfl⟩ := absent
          refine Requesting.step_completed [] 0 (-1) 0 [] allocates same none ?_ ?_
          · rw [kind]
            exact Or.inr ⟨⟨rfl, others fun i below _ => null i below⟩, negative⟩
          · simp only [Completing.learnt, kind, completed]
            exact Completing.position_of_negative negative
  | testany =>
      simp only [Requesting.Offers, kind] at offers
      cases offers with
      | inl found =>
          obtain ⟨i, finished, rfl⟩ := found
          refine Requesting.step_completed [i] 1 i 0 [] allocates same (single finished) ?_ ?_
          · rw [kind]
            exact Or.inl ⟨i, rfl, rfl⟩
          · simp [Completing.learnt, kind, completed, Completing.position_of_natural]
      | inr quiet =>
          refine Requesting.step_completed [] 0 (-1) 0 [] allocates same none ?_ ?_
          · simp [kind, CompletionRoutine.Reports, completed]
          · simp [Completing.learnt, kind, quiet, completed]
  | waitsome =>
      simp only [Requesting.Offers, kind] at offers
      obtain ⟨found | null, rfl⟩ := offers
      · obtain ⟨i, finished⟩ := found
        refine Requesting.step_completed [i] 0 0 1 [i] allocates same (single finished) ?_ ?_
        · rw [kind]
          exact Or.inl ⟨List.cons_ne_nil _ _, rfl, rfl⟩
        · simp only [Completing.learnt, kind]
      · refine Requesting.step_completed [] 0 0 (-1) [] allocates same none ?_ ?_
        · rw [kind]
          exact Or.inr ⟨⟨rfl, others fun i below _ => null i below⟩, negative⟩
        · simp only [Completing.learnt, kind]
  | testsome =>
      simp only [Requesting.Offers, kind] at offers
      refine Requesting.step_completed [] 0 0 0 [] allocates same none ?_ ?_
      · rw [kind]
        exact Or.inl ⟨rfl, rfl⟩
      · simp only [Completing.learnt, kind, offers]

omit [DecidableEq Party] in
theorem Requesting.Completes.offers {positions : List Nat} {reply : Reply}
    (completes : state.Completes mpi completing (requestsF2c mpi completing.reach fun i =>
      state.slots completing.party (completing.first + i)) positions reply) :
    state.Offers mpi completing (completing.learnt reply) := by
  have length := @Completing.length_requestsF2c _ mpi completing fun i =>
    state.slots completing.party (completing.first + i)
  have done (i : Nat) (learns : i ∈ completing.learnt reply) :
      state.Done mpi completing.party (state.handle mpi completing.party (completing.first + i)) := by
    obtain ⟨below, done⟩ := Completing.learnt_done completes length learns
    rw [length] at below
    rwa [Completing.given below] at done
  have every (whole : completing.learnt reply = List.range completing.reach) (i : Nat)
      (below : i < completing.reach) :
      state.Done mpi completing.party (state.handle mpi completing.party (completing.first + i)) :=
    done i (whole ▸ List.mem_range.mpr below)
  have finished (i : Nat) (member : i ∈ positions) : i < completing.reach ∧
      state.Finished completing.party
        (state.handle mpi completing.party (completing.first + i)) := by
    obtain ⟨handle, ticket, found, active, complete⟩ := completes.complete i member
    have below := (List.getElem?_eq_some_iff.mp found).1
    rw [length] at below
    rw [← Completing.given below, List.getD_eq_getElem?_getD, found]
    exact ⟨below, ticket, active, complete⟩
  have idle (none : positions = [])
      (null : ∀ i < (requestsF2c mpi completing.reach fun i =>
          state.slots completing.party (completing.first + i)).length, i ∉ positions →
        (requestsF2c mpi completing.reach fun i =>
          state.slots completing.party (completing.first + i)).getD i (mpi.handle .requestNull) =
            mpi.handle .requestNull) (i : Nat) (below : i < completing.reach) :
      state.handle mpi completing.party (completing.first + i) = mpi.handle .requestNull :=
    (Requesting.others_null_iff rfl).mp null i below (none ▸ List.not_mem_nil)
  have reports := completes.reports
  cases kind : completing.routine with
  | wait | waitall =>
      simp only [Requesting.Offers, kind]
      have whole : completing.learnt reply = List.range completing.reach := by
        simp [Completing.learnt, Completing.reach, kind]
      exact ⟨every whole, whole⟩
  | test | testall =>
      simp only [Requesting.Offers, kind]
      by_cases raised : reply.flag ≠ 0
      · have whole : completing.learnt reply = List.range completing.reach := by
          simp [Completing.learnt, Completing.reach, kind, raised]
        exact Or.inl ⟨every whole, whole⟩
      · exact Or.inr (by simp only [Completing.learnt, kind, if_neg raised])
  | waitany =>
      simp only [Requesting.Offers, Completing.learnt, kind]
      simp only [kind, CompletionRoutine.Reports] at reports
      cases reports with
      | inl one =>
          obtain ⟨i, same, index⟩ := one
          refine Or.inl ⟨i, finished i (same ▸ List.mem_singleton_self i), ?_⟩
          rw [index, Completing.position_of_natural]
      | inr absent =>
          exact Or.inr ⟨idle absent.1.1 absent.1.2, Completing.position_of_negative absent.2⟩
  | testany =>
      simp only [Requesting.Offers, Completing.learnt, kind]
      simp only [kind, CompletionRoutine.Reports] at reports
      by_cases raised : reply.flag ≠ 0
      · rw [if_pos raised] at reports ⊢
        cases reports with
        | inl one =>
            obtain ⟨i, same, index⟩ := one
            refine Or.inl ⟨i, finished i (same ▸ List.mem_singleton_self i), ?_⟩
            rw [index, Completing.position_of_natural]
        | inr absent => exact Or.inr (Completing.position_of_negative absent.2)
      · exact Or.inr (if_neg raised)
  | waitsome =>
      simp only [Requesting.Offers, Completing.learnt, kind, and_true]
      simp only [kind, CompletionRoutine.Reports] at reports
      cases reports with
      | inl some =>
          obtain ⟨i, member⟩ := List.exists_mem_of_ne_nil positions some.1
          exact Or.inl ⟨i, finished i member⟩
      | inr absent => exact Or.inr (idle absent.1.1 absent.1.2)
  | testsome => simp only [Requesting.Offers, Completing.learnt, kind]

/-- A call that the channels accept returns, with any handle for its request. -/
theorem Requesting.step_posting {posting : Posting Party} {slot : Nat} {handle : Int}
    {meant : ChannelEvent Party Context Int UInt8} {next : Tracked Party Context Int UInt8}
    (valid : posting.Valid mpi state.net) (passable : posting.Passable mpi state.net)
    (means : (NetworkEvent.call posting).meaning mpi known = some meant)
    (accepts : state.tracked.step meant = some next)
    (fresh : (state.tracked.counts.ticket meant).isSome → library .request handle ∧
      handle ≠ mpi.handle .requestNull ∧ state.active posting.party handle = none) :
    ∃ last, state.Step mpi known library (.call posting slot) last ∧
      last.active = match state.tracked.counts.ticket meant with
        | some ticket => assignIn state.active posting.party handle (some ticket)
        | none => state.active := by
  obtain ⟨channels, moves, -⟩ := Option.map_eq_some_iff.mp accepts
  obtain ⟨reply, success, answers⟩ := @Network.exists_answer _ mpi state.net meant channels _ moves
  let answer : Reply := { reply with request := handle }
  have succeeds : answer.rc = mpi.errorClass .success := success
  have answersToo : state.net.Answers answer meant := by
    cases meant with
    | recv envelope locations => exact answers
    | _ => trivial
  obtain ⟨buffer, final, carries, returns, asks, -, -⟩ :=
    posting.run_passes valid passable succeeds
  exact ⟨_, .call answer succeeds answersToo (posting.start_of_run returns) asks
    ((posting.understood_issued carries).trans means) accepts fresh, rfl⟩

theorem Requesting.step_complete_iff :
    (∃ last, state.Step mpi known library (.complete completing seen) last) ↔
      completing.Allocates mpi (state.net.processes completing.party) ∧
        state.Offers mpi completing seen := by
  constructor
  · intro steps
    obtain ⟨last, step⟩ := steps
    cases step with
    | complete reply completes returns asks =>
        have allocates := Completing.allocates_of_returns returns asks
        obtain ⟨same, result, -⟩ := Completing.asked_of_returns completes.success returns asks
        subst same
        cases result
        exact ⟨allocates, completes.offers⟩
  · intro enabled
    exact Requesting.step_of_offers enabled.1 enabled.2

end Progress

end Vapaa
