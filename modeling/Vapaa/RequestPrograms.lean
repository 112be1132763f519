import Vapaa.HandleRuns
import Vapaa.RequestProgress

/-!
# Programs with requests

Runs of processes that leave the sections of their operations alone: what is delivered, what a
completion tells, and when it returns.
-/

set_option autoImplicit false

namespace Vapaa

open Foundation

section Runs

variable {Party : Type} {mpi : Mpi} {known : KnownCommunicators Party}
variable {library : Kind → Int → Prop} [DecidableEq Party] {state next : Requesting Party}
variable {knowledge : Knowledge Party} {event : RequestEvent Party}
variable {events : List (RequestEvent Party)}

structure Requesting.Kept (mpi : Mpi) (known : KnownCommunicators Party)
    (library : Kind → Int → Prop) (state next : Requesting Party) (knowledge : Knowledge Party)
    (event : RequestEvent Party) : Prop where
  consistent : next.Consistent mpi library (knowledge.after mpi known event)
  restored : state.net.Restored next.net
  moves : ∀ meant, event.meaning mpi known = some meant →
    state.tracked.step meant = some next.tracked ∧ state.net.channels.Careful meant
  rests : event.meaning mpi known = Option.none → next.tracked = state.tracked

/-- A completion asks the library for what the variables hold and tells what it answers. -/
theorem Requesting.Step.leaves {completing : Completing Party} {seen : List Nat}
    (step : state.Step mpi known library (.complete completing seen) next) :
    state.net.Restored next.net ∧ ∃ positions reply,
      state.Completes mpi completing (requestsF2c mpi completing.reach fun i =>
        state.slots completing.party (completing.first + i)) positions reply ∧
      completing.Leaves mpi reply positions state next ∧ seen = completing.learnt reply := by
  cases step with
  | @complete completing requests seen final handles positions reply completes returns asks =>
      obtain ⟨same, result, asked⟩ := Completing.asked_of_returns completes.success returns asks
      subst same
      cases result
      have memories : (state.net.called completing.party final state.net.channels).channels =
          state.net.channels := by
        refine Channels.ext (funext fun party => ?_) rfl rfl
        by_cases here : party = completing.party
        · subst here
          simp [Network.called, Network.channels, asked.memory]
        · simp [Network.called, Network.channels, Function.update_of_ne here]
      have rests : (⟨(state.net.called completing.party final state.net.channels).channels,
          state.left⟩ : Tracked Party Context Int UInt8) = state.tracked := by
        rw [memories]
        rfl
      exact ⟨Network.restored_called (asked.types ▸ TypeStore.Restored.refl _), positions, reply,
        completes, ⟨rests, rfl, rfl⟩, rfl⟩

/-- What a completion reports is complete, and released. -/
theorem Requesting.Step.reports {completing : Completing Party} {seen : List Nat} {i : Nat}
    (convert : HandlesConvert mpi library) (consistent : state.Consistent mpi library knowledge)
    (step : state.Step mpi known library (.complete completing seen) next) (sees : i ∈ seen) :
    next.tracked = state.tracked ∧
      state.Done mpi completing.party
        (state.handle mpi completing.party (completing.first + i)) ∧
      next.handle mpi completing.party (completing.first + i) = mpi.handle .requestNull := by
  obtain ⟨-, positions, reply, completes, leaves, same⟩ := step.leaves
  subst same
  obtain ⟨below, done⟩ := Completing.learnt_done completes Completing.length_requestsF2c sees
  rw [Completing.length_requestsF2c] at below
  rw [Completing.given below] at done
  refine ⟨leaves.tracked, done, ?_⟩
  rw [leaves.handle_given convert consistent completes below]
  exact Completing.handleAfter_learnt completes Completing.length_requestsF2c sees

/-- What the library moves, or a program stores, leaves the requests alone. -/
theorem Requesting.Consistent.kept_of_library {meant : ChannelEvent Party Context Int UInt8}
    {after : Tracked Party Context Int UInt8}
    (consistent : state.Consistent mpi library knowledge)
    (steps : state.tracked.step meant = some after) (respects : Respects knowledge.tickets meant)
    (means : event.meaning mpi known = some meant)
    (silent : state.tracked.counts.ticket meant = Option.none)
    (counted : knowledge.counts.after meant = knowledge.counts)
    (knows : knowledge.after mpi known event = knowledge) :
    state.Kept mpi known library
      { state with net := state.net.withChannels after.channels, left := after.left } knowledge
      event where
  consistent := by
    rw [knows]
    exact consistent.moves respects steps silent rfl rfl rfl counted.symm
  restored := Network.Restored.refl _
  moves := by
    intro other means'
    cases means.symm.trans means'
    exact ⟨steps, consistent.accounts.careful respects⟩
  rests := fun none => absurd (means.symm.trans none) (Option.some_ne_none _)

theorem Requesting.Step.kept (active : mpi.seatbelts = true) (convert : HandlesConvert mpi library)
    (consistent : state.Consistent mpi library knowledge) (valid : event.Valid mpi state.net)
    (allows : knowledge.Allows mpi known event)
    (step : state.Step mpi known library event next) :
    state.Kept mpi known library next knowledge event := by
  cases step with
  | @call posting slot requestF final meant issued after reply success answers returns asks
      understands accepts fresh =>
      obtain ⟨runs, same⟩ := posting.run_of_start returns
      subst same
      obtain ⟨means, memory, restored⟩ :=
        posting.means_of_returns active valid success runs asks understands
      have respects := allows.1 meant means
      obtain ⟨channels, moves, advanced⟩ := Option.map_eq_some_iff.mp accepts
      have called : (state.net.called posting.party final after.channels).channels =
          after.channels := by
        rw [← advanced]
        exact posting.channels_called means answers moves memory
      have steps : state.tracked.step meant =
          some ⟨(state.net.called posting.party final after.channels).channels, after.left⟩ := by
        rw [called]
        exact accepts
      have knows : knowledge.after mpi known (.call posting slot) =
          { counts := knowledge.counts.after meant
            held := assignIn knowledge.held posting.party slot (knowledge.counts.ticket meant) } := by
        simp only [Knowledge.after, means]
      refine ⟨?_, Network.restored_called restored, ?_, ?_⟩
      · rw [knows]
        rcases posting.ticket_cases state.tracked.counts reply
          (state.slots posting.party slot) means with begun | silent
        · obtain ⟨ticket, begun, assigned⟩ := begun
          have known : knowledge.counts.ticket meant = some ticket := by
            rw [consistent.counts]
            exact begun
          refine consistent.begins convert respects allows.2 ?_ (fresh (begun ▸ rfl)) known ?_ ?_
            rfl rfl
          · exact steps
          · simp only [begun]
          · simp only [assigned]
        · refine consistent.moves respects ?_ silent.1 ?_ ?_ ?_ rfl
          · exact steps
          · simp only [silent.1]
          · simp only [silent.2, assignIn_eq_self]
          · rw [consistent.counts, silent.1, ← allows.2, assignIn_eq_self]
      · intro other means'
        have same : meant = other := Option.some.inj (means.symm.trans means')
        exact same ▸ ⟨steps, consistent.accounts.careful respects⟩
      · intro none
        exact absurd (means.symm.trans none) (Option.some_ne_none _)
  | complete reply completes returns asks =>
      have step : state.Step mpi known library _ _ := .complete reply completes returns asks
      obtain ⟨restored, positions, answer, completes, leaves, same⟩ := step.leaves
      subst same
      refine ⟨consistent.completes convert completes leaves, restored, ?_, fun _ => leaves.tracked⟩
      intro meant means
      cases means
  | transfer moves => exact consistent.kept_of_library moves trivial rfl rfl rfl rfl
  | buffer copies => exact consistent.kept_of_library copies trivial rfl rfl rfl rfl
  | store stores => exact consistent.kept_of_library stores allows rfl rfl rfl rfl

omit [DecidableEq Party] in
theorem Requesting.Initial.tracked (initial : state.Initial mpi) :
    state.tracked = state.net.channels.tracked := by
  rw [Requesting.tracked, initial.left]
  rfl

omit [DecidableEq Party] in
theorem Requesting.Initial.consistent (initial : state.Initial mpi) :
    state.Consistent mpi library Knowledge.none where
  accounts := by
    have none : (Knowledge.none : Knowledge Party).tickets = ∅ := by
      apply Set.eq_empty_of_forall_notMem
      intro ticket member
      obtain ⟨party, slot, holds⟩ := member
      cases holds
    rw [none, initial.tracked]
    exact initial.quiet.accounts
  counts := by
    rw [initial.tracked]
    simp only [Knowledge.none, Tracked.counts, Channels.tracked, (initial.quiet _).1,
      (initial.quiet _).2, List.length_nil, Nat.add_zero]
  own := by
    intro party handle ticket taken
    rw [initial.active] at taken
    cases taken
  live := fun party slot => Or.inl (initial.slots party slot)
  single := fun party slot _ _ _ => initial.slots party slot
  named := by
    intro party slot ticket holds
    cases holds
  released := fun party slot _ => Or.inl (initial.slots party slot)

omit [DecidableEq Party] in
theorem RequestEvent.Valid.restored {net later : Network Party} (valid : event.Valid mpi net)
    (restored : net.Restored later) : event.Valid mpi later := by
  cases event with
  | call posting slot =>
      exact ⟨valid.basic.of_restored (restored _), valid.argument.of_restored (restored _)⟩
  | complete completing seen => trivial
  | transfer envelope => trivial
  | buffer envelope n => trivial
  | store party location value => trivial

structure Requesting.RunKept (mpi : Mpi) (known : KnownCommunicators Party)
    (library : Kind → Int → Prop) (state last : Requesting Party) (knowledge : Knowledge Party)
    (events : List (RequestEvent Party)) : Prop where
  consistent : last.Consistent mpi library (knowledge.afterAll mpi known events)
  restored : state.net.Restored last.net
  moves : state.tracked.run (events.filterMap (RequestEvent.meaning mpi known)) =
    some last.tracked
  careful : state.net.channels.CarefulRun (events.filterMap (RequestEvent.meaning mpi known))

theorem Requesting.Runs.kept {last : Requesting Party} (active : mpi.seatbelts = true)
    (convert : HandlesConvert mpi library) (consistent : state.Consistent mpi library knowledge)
    (valid : ∀ event ∈ events, event.Valid mpi state.net)
    (disciplined : knowledge.Disciplined mpi known events)
    (runs : state.Runs mpi known library events last) :
    state.RunKept mpi known library last knowledge events := by
  induction runs generalizing knowledge with
  | nil => exact ⟨consistent, Network.Restored.refl _, rfl, trivial⟩
  | @cons state next last event events step rest ih =>
      have first := step.kept active convert consistent (valid event List.mem_cons_self)
        disciplined.1
      have others := ih first.consistent (fun other member =>
        (valid other (List.mem_cons_of_mem _ member)).restored first.restored) disciplined.2
      refine ⟨others.consistent, first.restored.trans others.restored, ?_, ?_⟩
      · cases means : event.meaning mpi known with
        | none =>
            rw [List.filterMap_cons_none means, ← first.rests means]
            exact others.moves
        | some meant =>
            rw [List.filterMap_cons_some means, Tracked.run, (first.moves meant means).1]
            exact others.moves
      · cases means : event.meaning mpi known with
        | none =>
            have same : next.net.channels = state.net.channels :=
              congrArg Tracked.channels (first.rests means)
            rw [List.filterMap_cons_none means, ← same]
            exact others.careful
        | some meant =>
            rw [List.filterMap_cons_some means]
            refine ⟨(first.moves meant means).2, fun channels moved => ?_⟩
            have steps := (first.moves meant means).1
            rw [Tracked.step, show state.tracked.channels.step meant = some channels from moved,
              Option.map_some] at steps
            have same : channels = next.net.channels :=
              congrArg Tracked.channels (Option.some.inj steps)
            rw [same]
            exact others.careful

end Runs

section Progress

variable {Party : Type} {mpi : Mpi} {known : KnownCommunicators Party}
variable {library : Kind → Int → Prop} [DecidableEq Party] {state : Requesting Party}
variable {completing : Completing Party} {seen : List Nat}

/-- With assertions, an event can happen exactly when the section of a call is accepted, the
channels let it happen and there is a handle for its request, or the requests that a routine is given allow
what it reports. -/
theorem requestPrograms_step_iff {event : RequestEvent Party} (active : mpi.seatbelts = true)
    (valid : event.Valid mpi state.net) :
    (∃ last, state.Step mpi known library event last) ↔ event.Enabled mpi known library state := by
  cases event with
  | call posting slot =>
      constructor
      · intro steps
        obtain ⟨last, step⟩ := steps
        cases step with
        | @call _ _ requestF final meant issued next reply success answers returns asks
            understands accepts fresh =>
            obtain ⟨runs, -⟩ := posting.run_of_start returns
            obtain ⟨means, -, -⟩ :=
              posting.means_of_returns active valid success runs asks understands
            refine ⟨posting.passable_of_returns active valid runs, meant, means, ?_, ?_⟩
            · rw [accepts]
              rfl
            · intro begins
              exact ⟨reply.request, fresh begins⟩
      · intro enabled
        obtain ⟨passable, meant, means, accepts, fresh⟩ := enabled
        obtain ⟨next, accepts⟩ := Option.isSome_iff_exists.mp accepts
        by_cases begins : (state.tracked.counts.ticket meant).isSome
        · obtain ⟨handle, own⟩ := fresh begins
          obtain ⟨last, step, -⟩ :=
            Requesting.step_posting valid passable means accepts fun _ => own
          exact ⟨last, step⟩
        · obtain ⟨last, step, -⟩ := @Requesting.step_posting _ mpi known library _ state posting slot
            0 meant next valid passable means accepts fun starts => absurd starts begins
          exact ⟨last, step⟩
  | complete completing seen => exact Requesting.step_complete_iff
  | transfer envelope =>
      constructor
      · intro steps
        obtain ⟨last, step⟩ := steps
        cases step with
        | transfer moves =>
            rw [RequestEvent.Enabled, moves]
            rfl
      · intro enabled
        obtain ⟨next, moves⟩ := Option.isSome_iff_exists.mp enabled
        exact ⟨_, .transfer moves⟩
  | buffer envelope n =>
      constructor
      · intro steps
        obtain ⟨last, step⟩ := steps
        cases step with
        | buffer copies =>
            rw [RequestEvent.Enabled, copies]
            rfl
      · intro enabled
        obtain ⟨next, copies⟩ := Option.isSome_iff_exists.mp enabled
        exact ⟨_, .buffer copies⟩
  | store party location value =>
      exact ⟨fun _ => trivial, fun _ => ⟨_, .store rfl⟩⟩

end Progress

section Samples

/-- Before the first call of two processes. -/
def startRequests : Requesting Nat where
  net := twoProcesses
  left := fun _ => []
  active := fun _ _ => none
  slots := fun _ _ => Predefined.requestNull.vapaa

def stridedSend : Posting Nat where
  party := 0
  transfer := .isend
  desc := integers 4096 2 8
  count := 2
  datatypeF := fortranInteger
  peer := 1
  tag := 7
  commF := 0
  status := 16

private theorem stridedSend_meaning : (NetworkEvent.call stridedSend).meaning mpich bothKnown =
    some (.isend ⟨0, 1, (0, 7)⟩ (span 4096 4 ++ span 4104 4)) := rfl

private theorem stridedSend_valid : stridedSend.Valid mpich startRequests.net :=
  ⟨predefinedTypes_basic, integers_matches (by decide)⟩

private theorem stridedSend_passable : stridedSend.Passable mpich startRequests.net :=
  fun _ => integers_accepted 4096 8 (by decide) (by decide)

theorem requestPrograms_step_strided :
    ∃ last, startRequests.Step mpich bothKnown (fun _ handle => 0 ≤ handle)
      (.call stridedSend 0) last := by
  have valid : (RequestEvent.call stridedSend 0).Valid mpich startRequests.net := stridedSend_valid
  exact (requestPrograms_step_iff rfl valid).mpr ⟨stridedSend_passable, _, stridedSend_meaning, rfl,
    fun _ => ⟨1, by decide, by decide, rfl⟩⟩

end Samples

end Vapaa
