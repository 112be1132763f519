import Vapaa.FailedBuilds
import Vapaa.Startup

/-!
# Programs that start and end the library

What `MPI_Init`, `MPI_Init_thread` and the queries tell a program in any order, and what a start
leaves behind.
-/

set_option autoImplicit false

namespace Vapaa

open Foundation

/-- Only what is printed and the warnings differ. -/
def Lifetime.Reports (life next : Lifetime) : Prop :=
  next = { life with printed := next.printed, world := next.world }

section Effects

variable {mpi : Mpi} {platform : Platform} {reply : StartReply} {life : Lifetime}

theorem Lifetime.Reports.refl (life : Lifetime) : life.Reports life := rfl

theorem Lifetime.Reports.trans {next last : Lifetime} (first : life.Reports next)
    (second : next.Reports last) : life.Reports last := by
  rw [Lifetime.Reports] at *
  rw [second, first]

private theorem checkFint_reports :
    Run.Ensures (checkFint platform) life fun _ next => life.Reports next := by
  rw [checkFint]
  split_ifs with wide
  · exact Run.ensures_of_returned rfl rfl
  · exact Run.ensures_pure (Lifetime.Reports.refl life)

private theorem fixCode_reports (only : mpi.SuccessOnly) (rc : Int) :
    Run.Ensures (fixCode mpi rc) life fun ierror next =>
      life.Reports next ∧ (ierror = mpi.errorClass .success ↔ rc = mpi.errorClass .success) := by
  intro ierror next returned
  obtain ⟨world, result, same⟩ := Run.zoom_eq_returned.mp returned
  subst same
  refine ⟨rfl, ?_⟩
  constructor
  · intro succeeded
    by_contra failed
    exact cMpiRcFix_failed only failed life.world ierror world result succeeded
  · intro succeeded
    rw [succeeded, cMpiRcFix_success] at result
    cases result
    rfl

private theorem violated_returns (what : String) (holds : Bool) :
    Run.Ensures (violated what holds) life fun _ next => next = life := by
  rw [violated]
  cases holds with
  | true => exact Run.ensures_pure rfl
  | false =>
      refine Run.ensures_bind_of_returned rfl (Run.ensures_of_aborted rfl)

/-- A program that goes on has found its types to be as wide as integers. -/
theorem fCheckDesignAssumptions_returns (sizes : FortranSizes) :
    Run.Ensures (fCheckDesignAssumptions sizes) life fun _ next => next = life := by
  have step {what : String} {holds : Bool} {rest : Run Lifetime Unit}
      (ensures : Run.Ensures rest life fun _ next => next = life) :
      Run.Ensures (violated what holds >>= fun _ => rest) life fun _ next => next = life :=
    (violated_returns what holds).bind fun _ _ same => same ▸ ensures
  exact step (step (step (step (step (step (step (violated_returns _ _)))))))

/-- What a call does to the library and tells the program. -/
structure CoreCall.Effect (mpi : Mpi) (platform : Platform) (reply : StartReply) (call : CoreCall)
    (life next : Lifetime) (told : Told) (ierror : Int) : Prop where
  told : told = call.told platform reply
  code : ierror = mpi.errorClass .success ↔ reply.rc = mpi.errorClass .success
  phase : next.phase =
    if reply.rc = mpi.errorClass .success then call.phaseAfter life.phase else life.phase
  level : next.level =
    if reply.rc = mpi.errorClass .success ∧ call.Starts then reply.provided else life.level
  required : next.required = call.asks platform (reply.rc = mpi.errorClass .success) life.required
  commWorld : next.commWorld =
    if call = .init ∧ next.phase = .running then .errorsReturn else life.commWorld
  commSelf : next.commSelf =
    if call = .init ∧ next.phase = .running then .errorsReturn else life.commSelf
  registry : next.registry = if call.Starts then
      fMpiInitAddressSentinels platform.haveCfi platform.placement reply.memory life.registry
    else life.registry

theorem Lifetime.Reports.fields {next : Lifetime} (reports : life.Reports next) :
    next.phase = life.phase ∧ next.level = life.level ∧ next.required = life.required ∧
      next.commWorld = life.commWorld ∧ next.commSelf = life.commSelf ∧
      next.registry = life.registry := by
  rw [Lifetime.Reports] at reports
  rw [reports]
  exact ⟨rfl, rfl, rfl, rfl, rfl, rfl⟩

theorem CoreCall.Effect.of_reports {call : CoreCall} {next : Lifetime} {told : Told} {ierror : Int}
    (reports : life.Reports next) (tells : told = call.told platform reply)
    (code : ierror = mpi.errorClass .success ↔ reply.rc = mpi.errorClass .success)
    (idle : ¬ call.Starts)
    (stays : (if reply.rc = mpi.errorClass .success then call.phaseAfter life.phase
      else life.phase) = life.phase) :
    call.Effect mpi platform reply life next told ierror := by
  obtain ⟨phase, level, required, commWorld, commSelf, registry⟩ := reports.fields
  have other : call ≠ .init := fun same => idle (same ▸ trivial)
  refine ⟨tells, code, phase.trans stays.symm, ?_, ?_, ?_, ?_, ?_⟩
  · rw [if_neg fun both => idle both.2, level]
  · rw [required]
    cases call with
    | init | initThread => exact absurd trivial idle
    | initialized | finalized | queryThread | finalize => rfl
  · rw [if_neg fun both => other both.1, commWorld]
  · rw [if_neg fun both => other both.1, commSelf]
  · rw [if_neg idle, registry]

/-- A call that starts the library, where it can be started, and registers the sentinels. -/
theorem CoreCall.Effect.of_start {call : CoreCall} {second next : Lifetime} {asked : Option Int}
    {told : Told} {ierror : Int} (starts : call.Starts)
    (tells : told = call.told platform reply)
    (code : ierror = mpi.errorClass .success ↔ reply.rc = mpi.errorClass .success)
    (asks : (if reply.rc = mpi.errorClass .success then asked else life.required) =
      call.asks platform (reply.rc = mpi.errorClass .success) life.required)
    (reports : Lifetime.Reports (if reply.rc = mpi.errorClass .success then
      { life with phase := .running, level := reply.provided, required := asked } else life) second)
    (kept : next.phase = second.phase ∧ next.level = second.level ∧
      next.required = second.required)
    (commWorld : next.commWorld =
      if call = .init ∧ second.phase = .running then .errorsReturn else second.commWorld)
    (commSelf : next.commSelf =
      if call = .init ∧ second.phase = .running then .errorsReturn else second.commSelf)
    (registry : next.registry = fMpiInitAddressSentinels platform.haveCfi platform.placement
      reply.memory second.registry) :
    call.Effect mpi platform reply life next told ierror := by
  have after (phase : Phase) : call.phaseAfter phase = .running := by
    cases call with
    | init | initThread => rfl
    | initialized | finalized | queryThread | finalize => exact starts.elim
  obtain ⟨samePhase, sameLevel, sameRequired, sameWorld, sameSelf, sameRegistry⟩ := reports.fields
  rw [← kept.1] at commWorld commSelf
  by_cases succeeded : reply.rc = mpi.errorClass .success
  · simp only [if_pos succeeded] at samePhase sameLevel sameRequired sameWorld sameSelf sameRegistry asks
    refine ⟨tells, code, ?_, ?_, ?_, sameWorld ▸ commWorld, sameSelf ▸ commSelf, ?_⟩
    · rw [kept.1, samePhase, if_pos succeeded, after]
    · rw [kept.2.1, sameLevel, if_pos ⟨succeeded, starts⟩]
    · exact kept.2.2.trans (sameRequired.trans asks)
    · rw [registry, sameRegistry, if_pos starts]
  · simp only [if_neg succeeded] at samePhase sameLevel sameRequired sameWorld sameSelf sameRegistry asks
    refine ⟨tells, code, ?_, ?_, ?_, sameWorld ▸ commWorld, sameSelf ▸ commSelf, ?_⟩
    · rw [kept.1, samePhase, if_neg succeeded]
    · rw [kept.2.1, sameLevel, if_neg fun both => succeeded both.1]
    · exact kept.2.2.trans (sameRequired.trans asks)
    · rw [registry, sameRegistry, if_pos starts]

theorem CoreCall.run_effect (only : mpi.SuccessOnly) (call : CoreCall) :
    Run.Ensures (call.run mpi platform reply) life fun result next =>
      call.Effect mpi platform reply life next result.1 result.2 := by
  cases call with
  | init =>
      simp only [run, mpiInitF08, cMpiInit, bind_assoc, pure_bind]
      refine Run.ensures_bind_of_returned rfl ?_
      refine checkFint_reports.bind fun _ first printed => ?_
      refine (fixCode_reports only _).bind fun ierror second fixed => ?_
      refine Run.ensures_bind_of_returned rfl (Run.ensures_bind_of_returned rfl ?_)
      refine Run.ensures_bind_of_returned rfl ?_
      refine (fCheckDesignAssumptions_returns _).bind fun _ last same => ?_
      refine Run.ensures_pure ?_
      subst same
      have reports := printed.trans fixed.1
      by_cases running : second.phase = .running
      · refine Effect.of_start trivial rfl fixed.2 (ite_self _) reports ?_ ?_ ?_ ?_
        · simp [running]
        · simp [running]
        · simp [running]
        · simp [running]
      · refine Effect.of_start trivial rfl fixed.2 (ite_self _) reports ?_ ?_ ?_ ?_
        · simp [running]
        · simp [running]
        · simp [running]
        · simp [running]
  | initThread requiredF =>
      simp only [run, mpiInitThreadF08, cMpiInitThread, bind_assoc, pure_bind]
      refine Run.ensures_bind_of_returned rfl ?_
      refine checkFint_reports.bind fun _ first printed => ?_
      refine (fixCode_reports only _).bind fun ierror second fixed => ?_
      refine Run.ensures_bind_of_returned rfl ?_
      refine (fCheckDesignAssumptions_returns _).bind fun _ last same => ?_
      refine Run.ensures_pure ?_
      subst same
      exact Effect.of_start trivial rfl fixed.2 rfl (printed.trans fixed.1) ⟨rfl, rfl, rfl⟩
        (by simp) (by simp) rfl
  | initialized =>
      simp only [run, mpiInitializedF08, cMpiInitialized, bind_assoc, pure_bind]
      refine (fixCode_reports only _).bind fun ierror next fixed => Run.ensures_pure ?_
      exact Effect.of_reports fixed.1 rfl fixed.2 id (by simp [phaseAfter])
  | finalized =>
      simp only [run, mpiFinalizedF08, cMpiFinalized, bind_assoc, pure_bind]
      refine (fixCode_reports only _).bind fun ierror next fixed => Run.ensures_pure ?_
      exact Effect.of_reports fixed.1 rfl fixed.2 id (by simp [phaseAfter])
  | queryThread =>
      simp only [run, mpiQueryThreadF08, cMpiQueryThread, bind_assoc, pure_bind]
      refine (fixCode_reports only _).bind fun ierror next fixed => Run.ensures_pure ?_
      exact Effect.of_reports fixed.1 rfl fixed.2 id (by simp [phaseAfter])
  | finalize =>
      simp only [run, mpiFinalizeF08, cMpiFinalize, bind_assoc]
      refine Run.ensures_bind_of_returned rfl ?_
      refine (fixCode_reports only _).bind fun ierror next fixed => Run.ensures_pure ?_
      by_cases succeeded : reply.rc = mpi.errorClass .success
      · have reports := fixed.1
        simp only [if_pos succeeded] at reports
        obtain ⟨phase, level, required, commWorld, commSelf, registry⟩ := reports.fields
        exact ⟨rfl, fixed.2, by simp [phase, succeeded, phaseAfter], by simp [level, Starts],
          by simp [required, asks], by simp [commWorld], by simp [commSelf], by simp [registry, Starts]⟩
      · have reports := fixed.1
        simp only [if_neg succeeded] at reports
        exact Effect.of_reports reports rfl fixed.2 id (by simp [succeeded])

end Effects

structure CoreEvent where
  call : CoreCall
  told : Told
  ierror : Int

section Machine

variable (mpi : Mpi) (platform : Platform)

/-- The library starts once, ends once, and knows what it provides. -/
def Lifetime.Answers (life : Lifetime) (reply : StartReply) (call : CoreCall) : Prop :=
  reply.rc = mpi.errorClass .success →
    match call with
    | .init | .initThread _ =>
        life.phase = .before ∧ ∃ level, reply.provided = platform.levels.value level
    | .queryThread => life.phase = .running ∧ reply.provided = life.level
    | .finalize => life.phase = .running
    | .initialized => reply.flag ≠ 0 ↔ life.phase ≠ .before
    | .finalized => reply.flag ≠ 0 ↔ life.phase = .ended

inductive Lifetime.Step (life : Lifetime) : CoreEvent → Lifetime → Prop where
  | call {event : CoreEvent} {next : Lifetime} (reply : StartReply)
      (answers : life.Answers mpi platform reply event.call)
      (returns : event.call.run mpi platform reply life =
        .returned ((event.told, event.ierror), next)) : Step life event next

/-- What has happened since the start of the program, the last event at the end. -/
inductive Lifetime.Runs (start : Lifetime) : List CoreEvent → Lifetime → Prop where
  | nil : Runs start [] start
  | snoc {life next : Lifetime} {events : List CoreEvent} {event : CoreEvent}
      (runs : Runs start events life) (step : life.Step mpi platform event next) :
      Runs start (events ++ [event]) next

def CoreEvent.Succeeds (event : CoreEvent) : Prop := event.ierror = mpi.errorClass .success

structure Lifetime.Fresh (life : Lifetime) : Prop where
  phase : life.phase = .before
  commWorld : life.commWorld = .errorsAreFatal
  commSelf : life.commSelf = .errorsAreFatal

/-- The sentinels that both sides pass in the same way are registered where they lie. -/
def Registry.Placed (registry : Registry) : Prop :=
  ∀ sentinel,
    (if platform.haveCfi then sentinel = .statusesIgnore else sentinel ≠ .statusesIgnore) →
      registry sentinel = platform.placement.address sentinel

/-- In every run, what a program is told of levels is what the library provides. -/
def TellsLevels : Prop :=
  ∀ (start life : Lifetime) (events : List CoreEvent), start.Fresh →
    start.Runs mpi platform events life → ∀ event ∈ events, event.Succeeds mpi →
      ∀ (provided : Int) (level : ThreadLevel), event.told = .level provided →
        life.level = platform.levels.value level → provided = level.vapaa

/-- The state of the library is told by what has happened. -/
structure Lifetime.Follows (events : List CoreEvent) (life : Lifetime) : Prop where
  started : life.phase ≠ .before ↔ ∃ event ∈ events, event.call.Starts ∧ event.Succeeds mpi
  ended : life.phase = .ended ↔ ∃ event ∈ events, event.call = .finalize ∧ event.Succeeds mpi
  level : life.phase ≠ .before → ∃ level, life.level = platform.levels.value level
  told : ∀ event ∈ events, event.Succeeds mpi → ∀ provided, event.told = .level provided →
    life.phase ≠ .before ∧ provided = cMpiThreadLevelF2c platform.levels life.level
  asked : ∀ event ∈ events, event.Succeeds mpi → ∀ level : ThreadLevel,
    event.call = .initThread level.vapaa →
      life.phase ≠ .before ∧ life.required = some (platform.levels.value level)
  fatal : (∀ event ∈ events, event.call ≠ .init) →
    life.commWorld = .errorsAreFatal ∧ life.commSelf = .errorsAreFatal
  returns : (∃ event ∈ events, event.call = .init ∧ event.Succeeds mpi) →
    life.commWorld = .errorsReturn ∧ life.commSelf = .errorsReturn
  sentinels : (∃ event ∈ events, event.call.Starts) → life.registry.Placed platform

variable {mpi platform} {life next : Lifetime} {events : List CoreEvent} {event : CoreEvent}

private theorem fMpiInitAddressSentinels_placed (memory : Sentinel → Memory Int UInt8)
    (registry : Registry) : (fMpiInitAddressSentinels platform.haveCfi platform.placement memory
      registry).Placed platform := by
  intro sentinel agreed
  rw [fMpiInitAddressSentinels_apply]
  cases cfi : platform.haveCfi with
  | true =>
      rw [cfi, if_pos rfl] at agreed
      subst agreed
      simp [baseAddrAt_descriptor]
  | false =>
      rw [cfi] at agreed
      cases sentinel with
      | statusesIgnore => exact absurd rfl agreed
      | _ => rfl

private theorem checkFint_returns (life : Lifetime) :
    ∃ next, checkFint platform life = .returned ((), next) ∧ life.Reports next := by
  rw [checkFint]
  cases platform.wideFint with
  | true => exact ⟨_, rfl, rfl⟩
  | false => exact ⟨life, rfl, Lifetime.Reports.refl life⟩

/-- A start that the library allows returns where the types are as wide as integers. -/
theorem initThread_returns {reply : StartReply} {required : Int} (agree : platform.sizes.Agree)
    (success : reply.rc = mpi.errorClass .success) :
    Run.Returns ((CoreCall.initThread required).run mpi platform reply) life fun result final =>
      result = (.level (cMpiThreadLevelF2c platform.levels reply.provided),
        mpi.errorClass .success) ∧ final.level = reply.provided := by
  have check : fCheckDesignAssumptions platform.sizes = pure () := by
    simp [fCheckDesignAssumptions, violated, agree.cInt, agree.comm, agree.datatype, agree.group,
      agree.message, agree.op, agree.request, agree.win]
  have fixes (life : Lifetime) :
      fixCode mpi reply.rc life = .returned (mpi.errorClass .success, life) := by
    rw [success]
    exact Run.zoom_of_returned (cMpiRcFix_success life.world)
  simp only [CoreCall.run, mpiInitThreadF08, cMpiInitThread, bind_assoc, pure_bind]
  refine Run.returns_bind_of_returned rfl ?_
  obtain ⟨first, checked, printed⟩ := @checkFint_returns platform _
  refine Run.returns_bind_of_returned checked ?_
  refine Run.returns_bind_of_returned (fixes first) (Run.returns_bind_of_returned rfl ?_)
  rw [check, pure_bind]
  refine Run.returns_pure ⟨rfl, ?_⟩
  rw [if_pos success] at printed
  exact printed.fields.2.1

private theorem exists_concat {α : Type} {items : List α} {last : α} {p : α → Prop} :
    (∃ item ∈ items ++ [last], p item) ↔ (∃ item ∈ items, p item) ∨ p last := by
  simp [or_and_right, exists_or]

theorem Lifetime.Fresh.follows (fresh : life.Fresh) : life.Follows mpi platform [] where
  started := by simp [fresh.phase]
  ended := by simp [fresh.phase]
  level := fun started => absurd fresh.phase started
  told := fun _ member => absurd member List.not_mem_nil
  asked := fun _ member => absurd member List.not_mem_nil
  fatal := fun _ => ⟨fresh.commWorld, fresh.commSelf⟩
  returns := by simp
  sentinels := by simp

section Transitions

variable {call : CoreCall} {reply : StartReply} {told : Told} {ierror : Int}

theorem CoreCall.Effect.started (effect : call.Effect mpi platform reply life next told ierror)
    (answers : life.Answers mpi platform reply call) :
    next.phase ≠ .before ↔
      life.phase ≠ .before ∨ call.Starts ∧ ierror = mpi.errorClass .success := by
  have phase := effect.phase
  rw [effect.code]
  by_cases succeeded : reply.rc = mpi.errorClass .success
  · rw [if_pos succeeded] at phase
    have answer := answers succeeded
    cases call with
    | init | initThread => simp [phase, phaseAfter, Starts, succeeded]
    | finalize =>
        have running : life.phase = .running := answer
        simp [phase, phaseAfter, running]
    | initialized | finalized | queryThread => simp [phase, phaseAfter, Starts]
  · rw [if_neg succeeded] at phase
    simp [phase, succeeded]

theorem CoreCall.Effect.ended (effect : call.Effect mpi platform reply life next told ierror)
    (answers : life.Answers mpi platform reply call) :
    next.phase = .ended ↔
      life.phase = .ended ∨ call = .finalize ∧ ierror = mpi.errorClass .success := by
  have phase := effect.phase
  rw [effect.code]
  by_cases succeeded : reply.rc = mpi.errorClass .success
  · rw [if_pos succeeded] at phase
    have answer := answers succeeded
    cases call with
    | init | initThread =>
        have before : life.phase = .before := answer.1
        simp [phase, phaseAfter, before]
    | finalize => simp [phase, phaseAfter, succeeded]
    | initialized | finalized | queryThread => simp [phase, phaseAfter]
  · rw [if_neg succeeded] at phase
    simp [phase, succeeded]

/-- A library that has started does not start again. -/
theorem CoreCall.Effect.not_restarted (answers : life.Answers mpi platform reply call)
    (started : life.phase ≠ .before) : ¬ (reply.rc = mpi.errorClass .success ∧ call.Starts) := by
  intro both
  obtain ⟨succeeded, starts⟩ := both
  have answer := answers succeeded
  cases call with
  | init | initThread => exact started answer.1
  | initialized | finalized | queryThread | finalize => exact starts

theorem CoreCall.Effect.keeps_level (effect : call.Effect mpi platform reply life next told ierror)
    (answers : life.Answers mpi platform reply call) (started : life.phase ≠ .before) :
    next.level = life.level := by
  rw [effect.level, if_neg (not_restarted answers started)]

theorem CoreCall.Effect.keeps_required
    (effect : call.Effect mpi platform reply life next told ierror)
    (answers : life.Answers mpi platform reply call) (started : life.phase ≠ .before) :
    next.required = life.required := by
  rw [effect.required]
  have again := not_restarted answers started
  cases call with
  | initThread requiredF => exact if_neg fun succeeded => again ⟨succeeded, trivial⟩
  | init | initialized | finalized | queryThread | finalize => rfl

/-- What a call tells of a level is the one that the library provides from then on. -/
theorem CoreCall.Effect.tells_level (effect : call.Effect mpi platform reply life next told ierror)
    (answers : life.Answers mpi platform reply call)
    (succeeds : ierror = mpi.errorClass .success) {provided : Int}
    (tells : told = .level provided) : next.phase ≠ .before ∧
      provided = cMpiThreadLevelF2c platform.levels next.level := by
  have succeeded := effect.code.mp succeeds
  have answer := answers succeeded
  have same := effect.told
  have level := effect.level
  cases call with
  | init | initialized | finalized | finalize =>
      rw [tells] at same
      cases same
  | initThread required =>
      rw [tells] at same
      cases same
      rw [if_pos ⟨succeeded, trivial⟩] at level
      exact ⟨(effect.started answers).mpr (.inr ⟨trivial, succeeds⟩), level ▸ rfl⟩
  | queryThread =>
      rw [tells] at same
      cases same
      have started : life.phase ≠ .before := by
        rw [answer.1]
        decide
      refine ⟨(effect.started answers).mpr (.inl started), ?_⟩
      rw [effect.keeps_level answers started, answer.2]

end Transitions

theorem Lifetime.Follows.step (only : mpi.SuccessOnly) (follows : life.Follows mpi platform events)
    (step : life.Step mpi platform event next) :
    next.Follows mpi platform (events ++ [event]) := by
  cases step with
  | call reply answers returns =>
      have effect := event.call.run_effect only _ _ returns
      constructor
      · rw [exists_concat, ← follows.started]
        exact effect.started answers
      · rw [exists_concat, ← follows.ended]
        exact effect.ended answers
      · intro started
        by_cases earlier : life.phase ≠ .before
        · rw [effect.keeps_level answers earlier]
          exact follows.level earlier
        · obtain ⟨starts, succeeds⟩ := ((effect.started answers).mp started).resolve_left earlier
          have succeeded := effect.code.mp succeeds
          have answer := answers succeeded
          rw [effect.level, if_pos ⟨succeeded, starts⟩]
          cases kind : event.call with
          | init | initThread =>
              rw [kind] at answer
              exact answer.2
          | initialized | finalized | queryThread | finalize =>
              rw [kind] at starts
              exact starts.elim
      · intro other member succeeds provided tells
        cases List.mem_append.mp member with
        | inl among =>
            obtain ⟨started, same⟩ := follows.told other among succeeds provided tells
            rw [effect.keeps_level answers started]
            exact ⟨(effect.started answers).mpr (.inl started), same⟩
        | inr last =>
            cases List.mem_singleton.mp last
            exact effect.tells_level answers succeeds tells
      · intro other member succeeds level kind
        cases List.mem_append.mp member with
        | inl among =>
            obtain ⟨started, same⟩ := follows.asked other among succeeds level kind
            rw [effect.keeps_required answers started]
            exact ⟨(effect.started answers).mpr (.inl started), same⟩
        | inr last =>
            cases List.mem_singleton.mp last
            refine ⟨(effect.started answers).mpr (.inr ⟨kind ▸ trivial, succeeds⟩), ?_⟩
            rw [effect.required, kind, CoreCall.asks, if_pos (effect.code.mp succeeds),
              cMpiThreadLevelF2c_vapaa]
      · intro never
        have handlers := follows.fatal fun other member => never other (List.mem_append_left _ member)
        have other : event.call ≠ .init := never event (by simp)
        rw [effect.commWorld, effect.commSelf, if_neg fun both => other both.1,
          if_neg fun both => other both.1]
        exact handlers
      · intro happened
        rw [effect.commWorld, effect.commSelf]
        cases exists_concat.mp happened with
        | inl earlier =>
            rw [(follows.returns earlier).1, (follows.returns earlier).2, ite_self]
            exact ⟨rfl, rfl⟩
        | inr now =>
            have running : next.phase = .running := by
              rw [effect.phase, if_pos (effect.code.mp now.2), now.1]
              rfl
            rw [if_pos ⟨now.1, running⟩, if_pos ⟨now.1, running⟩]
            exact ⟨rfl, rfl⟩
      · intro happened
        rw [effect.registry]
        by_cases starts : event.call.Starts
        · rw [if_pos starts]
          exact fMpiInitAddressSentinels_placed _ _
        · rw [if_neg starts]
          exact follows.sentinels ((exists_concat.mp happened).resolve_right starts)

theorem Lifetime.Runs.follows {start : Lifetime} (only : mpi.SuccessOnly) (fresh : start.Fresh)
    (runs : start.Runs mpi platform events life) : life.Follows mpi platform events := by
  induction runs with
  | nil => exact fresh.follows
  | snoc _ step ih => exact ih.step only step

def freshLifetime : Lifetime where
  phase := .before
  level := 0
  required := none
  commWorld := .errorsAreFatal
  commSelf := .errorsAreFatal
  registry := fun _ => 0
  printed := []
  world := startWorld

private theorem freshLifetime_fresh : freshLifetime.Fresh := ⟨rfl, rfl, rfl⟩

/-- In every run a program is told the right level of thread support, whatever the library provides,
exactly when the constants of the C library are those of Fortran. -/
theorem startup_levels_iff (only : mpi.SuccessOnly) (agree : platform.sizes.Agree) :
    TellsLevels mpi platform ↔ ∀ level, platform.levels.value level = level.vapaa := by
  constructor
  · intro right
    apply cMpiThreadLevelF2c_value_iff.mp
    intro level
    let reply : StartReply := {
      rc := mpi.errorClass .success
      provided := platform.levels.value level
      flag := 0
      memory := fun _ _ => 0 }
    obtain ⟨result, life, returns, same, provides⟩ :=
      @initThread_returns mpi platform freshLifetime reply 0 agree rfl
    subst same
    have step : freshLifetime.Step mpi platform ⟨.initThread 0, _, _⟩ life :=
      .call reply (fun _ => ⟨rfl, level, rfl⟩) returns
    exact right freshLifetime life _ freshLifetime_fresh (.snoc .nil step) _
      (List.mem_singleton_self _) rfl _ level rfl provides
  · intro same start life events fresh runs event member succeeds provided level tells provides
    have told := ((runs.follows only fresh).told event member succeeds provided tells).2
    rw [told, provides, same, cMpiThreadLevelF2c_vapaa, same]

/-- In every run the flags tell whether the library has been started and ended. -/
theorem startup_flags {start : Lifetime} {raised : Bool} (only : mpi.SuccessOnly)
    (fresh : start.Fresh) (runs : start.Runs mpi platform events life)
    (step : life.Step mpi platform event next) (succeeds : event.Succeeds mpi)
    (tells : event.told = .flag raised) :
    (event.call = .initialized →
      (raised = true ↔ ∃ earlier ∈ events, earlier.call.Starts ∧ earlier.Succeeds mpi)) ∧
    (event.call = .finalized →
      (raised = true ↔ ∃ earlier ∈ events, earlier.call = .finalize ∧ earlier.Succeeds mpi)) := by
  have follows := runs.follows only fresh
  cases step with
  | call reply answers returns =>
      have effect := event.call.run_effect only _ _ returns
      have answer := answers (effect.code.mp succeeds)
      have told := tells.symm.trans effect.told
      constructor
      · intro kind
        rw [kind] at answer told
        cases told
        rw [decide_eq_true_eq, ← follows.started]
        exact answer
      · intro kind
        rw [kind] at answer told
        cases told
        rw [decide_eq_true_eq, ← follows.ended]
        exact answer

/-- In every run, a program that was started by `MPI_Init` is handed the errors of the predefined
communicators, one that never called it is not, the library is asked for the level that the program
names, and after any start the sentinels that both sides pass in the same way are recognised
exactly. -/
theorem startup_leaves {start : Lifetime} (only : mpi.SuccessOnly) (fresh : start.Fresh)
    (runs : start.Runs mpi platform events life) :
    ((∃ event ∈ events, event.call = .init ∧ event.Succeeds mpi) →
        life.commWorld = .errorsReturn ∧ life.commSelf = .errorsReturn) ∧
      ((∀ event ∈ events, event.call ≠ .init) →
        life.commWorld = .errorsAreFatal ∧ life.commSelf = .errorsAreFatal) ∧
      (∀ event ∈ events, event.Succeeds mpi → ∀ level : ThreadLevel,
        event.call = .initThread level.vapaa →
          life.required = some (platform.levels.value level)) ∧
      ((∃ event ∈ events, event.call.Starts) → ∀ sentinel,
        (if platform.haveCfi then sentinel = .statusesIgnore else sentinel ≠ .statusesIgnore) →
          ∀ x, life.registry.cIs sentinel x = true ↔ x = platform.placement.address sentinel) := by
  have follows := runs.follows only fresh
  refine ⟨follows.returns, follows.fatal, ?_, ?_⟩
  · intro event member succeeds level kind
    exact (follows.asked event member succeeds level kind).2
  · intro started sentinel agreed
    exact life.registry.cIs_exact_iff.mpr (follows.sentinels started sentinel agreed)

end Machine

section Samples

private theorem vapaa_funneled : ThreadLevel.single.vapaa < ThreadLevel.funneled.vapaa := by decide

private theorem vapaa_serialized :
    ThreadLevel.funneled.vapaa < ThreadLevel.serialized.vapaa := by decide

private theorem vapaa_multiple :
    ThreadLevel.serialized.vapaa < ThreadLevel.multiple.vapaa := by decide

def equalLevels : ThreadConstants where
  value := ThreadLevel.vapaa
  funneled := vapaa_funneled
  serialized := vapaa_serialized
  multiple := vapaa_multiple

def smallPlatform : Platform where
  levels := equalLevels
  wideFint := false
  haveCfi := true
  placement := spacedPlacement
  sizes := ⟨4, 4, 4, 4, 4, 4, 4, 4, 4⟩

private theorem mpich_successOnly : mpich.SuccessOnly := fun _ same => Option.some.inj same

theorem startup_levels_equal : TellsLevels mpich smallPlatform :=
  (startup_levels_iff mpich_successOnly ⟨rfl, rfl, rfl, rfl, rfl, rfl, rfl, rfl⟩).mpr fun _ => rfl

def startedBy : List CoreEvent := [⟨.init, .nothing, 0⟩]

private theorem startedBy_runs : ∃ life, freshLifetime.Runs mpich smallPlatform startedBy life ∧
    life.phase = .running := by
  let reply : StartReply := { rc := 0, provided := 0, flag := 0, memory := fun _ _ => 0 }
  have answers : freshLifetime.Answers mpich smallPlatform reply .init :=
    fun _ => ⟨rfl, .single, rfl⟩
  exact ⟨_, .snoc .nil (.call reply answers rfl), rfl⟩

theorem startup_flags_started : ∃ life next,
    freshLifetime.Runs mpich smallPlatform startedBy life ∧
      life.Step mpich smallPlatform ⟨.initialized, .flag true, 0⟩ next ∧
      ∃ earlier ∈ startedBy, earlier.call.Starts ∧ earlier.Succeeds mpich := by
  obtain ⟨life, runs, running⟩ := startedBy_runs
  let reply : StartReply := { rc := 0, provided := 0, flag := 1, memory := fun _ _ => 0 }
  have answers : life.Answers mpich smallPlatform reply .initialized := by
    intro _
    simp [reply, running]
  have step : life.Step mpich smallPlatform ⟨.initialized, .flag true, 0⟩ life :=
    .call reply answers rfl
  exact ⟨life, life, runs, step, ((startup_flags mpich_successOnly freshLifetime_fresh runs step rfl
    rfl).1 rfl).mp rfl⟩

theorem startup_leaves_started : ∃ life, freshLifetime.Runs mpich smallPlatform startedBy life ∧
    life.commWorld = .errorsReturn ∧ life.registry.cIs .statusesIgnore 4224 = true := by
  obtain ⟨life, runs, -⟩ := startedBy_runs
  obtain ⟨handlers, -, -, sentinels⟩ := startup_leaves mpich_successOnly freshLifetime_fresh runs
  have started : (⟨.init, .nothing, 0⟩ : CoreEvent) ∈ startedBy := List.mem_singleton_self _
  refine ⟨life, runs, (handlers ⟨_, started, rfl, rfl⟩).1, ?_⟩
  exact (sentinels ⟨_, started, trivial⟩ .statusesIgnore rfl 4224).mpr (by decide)

end Samples

end Vapaa
