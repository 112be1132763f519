import Vapaa.HandleCalls
import Vapaa.Mpich

/-!
# Coherence of handles

When the handles that a program holds compare equal exactly if they denote the same object.
-/

set_option autoImplicit false

namespace Vapaa

open Foundation

section Steps

variable {mpi : Mpi} {constants : HandleConstants} {held : HandleStore} {program : Program}

/-- A call puts the Fortran forms of the C handles it is handed into their variables, and changes
no other. -/
structure HandsBack (mpi : Mpi) (handed : List Handed) (before after : HandleStore) : Prop where
  written : ∀ back ∈ handed, after back.kind back.target = mpi.c2f back.kind back.handle
  others : ∀ kind i, (∀ back ∈ handed, ¬ (back.kind = kind ∧ back.target = i)) →
    after kind i = before kind i

theorem HandleStore.set_same (held : HandleStore) (kind : Kind) (target : Nat) (value : Int) :
    held.set kind target value kind target = value := by
  simp [HandleStore.set]

theorem HandleStore.set_of_ne (held : HandleStore) {kind other : Kind} {target i : Nat}
    (value : Int) (different : ¬ (kind = other ∧ target = i)) :
    held.set kind target value other i = held other i := by
  have different : ¬ (other = kind ∧ i = target) := by
    rintro ⟨rfl, rfl⟩
    exact different ⟨rfl, rfl⟩
  simp only [HandleStore.set, if_neg different]

theorem HandleStore.set_held (held : HandleStore) (kind : Kind) (target : Nat) :
    held.set kind target (held kind target) = held := by
  funext other i
  by_cases same : kind = other ∧ target = i
  · obtain ⟨rfl, rfl⟩ := same
    exact held.set_same kind target _
  · exact held.set_of_ne _ same

private theorem handsBack_nil : HandsBack mpi [] held held :=
  ⟨nofun, fun _ _ _ => rfl⟩

private theorem handsBack_set (kind : Kind) (target : Nat) (handle : Int) :
    HandsBack mpi [⟨kind, target, handle⟩] held (held.set kind target (mpi.c2f kind handle)) := by
  constructor
  · intro back member
    cases List.mem_singleton.mp member
    exact held.set_same kind target _
  · intro other i different
    exact held.set_of_ne _ (different _ List.mem_cons_self)

private theorem handsBack_pair (newcomm request : Nat) (comm handle : Int) :
    HandsBack mpi [⟨.comm, newcomm, comm⟩, ⟨.request, request, handle⟩] held
      ((held.set .comm newcomm (mpi.c2f .comm comm)).set .request request
        (mpi.c2f .request handle)) := by
  constructor
  · intro back member
    rcases List.mem_pair.mp member with rfl | rfl
    · rw [HandleStore.set_of_ne _ _ (by simp)]
      exact held.set_same .comm newcomm _
    · exact HandleStore.set_same _ .request request _
  · intro other i different
    rw [HandleStore.set_of_ne _ _ (different ⟨.request, request, handle⟩ (by simp)),
      HandleStore.set_of_ne _ _ (different ⟨.comm, newcomm, comm⟩ (by simp))]

private theorem handsBack_setRequests (reply : Reply) (count : Int) (first : Nat)
    (requestsF : Nat → Int) :
    HandsBack mpi ((List.range count.toNat).map fun i => ⟨.request, first + i, reply.requests i⟩)
      held (held.setRequests first count (requestsC2f mpi reply count requestsF)) := by
  constructor
  · intro back member
    obtain ⟨i, inside, rfl⟩ := List.mem_map.mp member
    have below : (i : Int) < count := by
      have := List.mem_range.mp inside
      omega
    simp [HandleStore.setRequests, requestsC2f, below]
  · intro other i different
    rw [HandleStore.setRequests, if_neg]
    rintro ⟨rfl, from_, below⟩
    refine different ⟨.request, first + (i - first), reply.requests (i - first)⟩ ?_ ⟨rfl, ?_⟩
    · exact List.mem_map.mpr ⟨i - first, List.mem_range.mpr (by omega), rfl⟩
    · exact Nat.add_sub_cancel' from_

theorem HandleStore.setRequests_same (held : HandleStore) (first : Nat) (count : Int) :
    held.setRequests first count (HandleCall.requestsFrom held first) = held := by
  funext other i
  rw [setRequests]
  split_ifs with inside
  · obtain ⟨rfl, from_, -⟩ := inside
    rw [HandleCall.requestsFrom, Nat.add_sub_cancel' from_]
  · rfl

private theorem ensures_keep {α : Type} {post : α → Prop} {next : α → HandleStore}
    {part : Run Program α}
    {good : HandleStore → Prop} (ensures : Run.Ensures part program fun value _ => post value)
    (kept : ∀ value, post value → good (next value)) :
    Run.Ensures (part >>= fun value => keep (next value)) program
      fun _ final => good final.held := by
  intro _ final returned
  obtain ⟨value, middle, first, last⟩ := Run.bind_eq_returned.mp returned
  cases last
  exact kept value (ensures value middle first)

/-- The last lines of most wrappers: what they put first does not depend on what the library
answers. -/
theorem ensures_last {σ α β γ : Type} {state : σ} (library : Run σ β) (code : β → Run σ Int)
    (value : α) {rest : β → Int → γ} :
    Run.Ensures (do
      let answer ← library
      let ierror ← code answer
      return (value, rest answer ierror)) state fun result _ => result.1 = value := by
  refine Run.ensures_bind_of_all fun _ _ => ?_
  refine Run.ensures_bind_of_all fun _ _ => ?_
  exact Run.ensures_pure rfl

section Wrappers

variable {reply : Reply} {process : Process} {world : World}

private theorem cMpiTest_hands {requestF status : Int} :
    Run.Ensures (cMpiTest mpi reply requestF status) process fun result _ =>
      result.1 = mpi.c2f .request reply.request := by
  refine Run.ensures_bind_of_all fun _ _ => ?_
  exact ensures_last _ _ _

private theorem cMpiWait_hands {requestF status : Int} :
    Run.Ensures (cMpiWait mpi reply requestF status) process fun result _ =>
      result.1 = mpi.c2f .request reply.request := by
  refine Run.ensures_bind_of_all fun _ _ => ?_
  exact ensures_last _ _ _

private theorem cMpiMprobe_hands {source tag commF status : Int} :
    Run.Ensures (cMpiMprobe mpi reply source tag commF status) process fun result _ =>
      result.1 = mpi.c2f .message reply.message := by
  refine Run.ensures_bind_of_all fun _ _ => ?_
  exact ensures_last _ _ _

private theorem cMpiIsend_hands {buffer count datatypeF dest tag commF : Int} :
    Run.Ensures (cMpiIsend mpi reply buffer count datatypeF dest tag commF) process
      fun result _ => result.1 = mpi.c2f .request reply.request := by
  exact ensures_last _ _ _

private theorem cfiMpiIsend_hands {desc : CDesc} {count datatypeF dest tag commF : Int} :
    Run.Ensures (cfiMpiIsend mpi reply desc count datatypeF dest tag commF) process
      fun result _ => result.1 = mpi.c2f .request reply.request := by
  exact ensures_last _ _ _

private theorem cMpiIrecv_hands {buffer count datatypeF source tag commF : Int} :
    Run.Ensures (cMpiIrecv mpi reply buffer count datatypeF source tag commF) process
      fun result _ => result.1 = mpi.c2f .request reply.request := by
  exact ensures_last _ _ _

private theorem cfiMpiIrecv_hands {desc : CDesc} {count datatypeF source tag commF : Int} :
    Run.Ensures (cfiMpiIrecv mpi reply desc count datatypeF source tag commF) process
      fun result _ => result.1 = mpi.c2f .request reply.request := by
  exact ensures_last _ _ _

/-- The message that was received keeps its handle. -/
theorem cMpiMrecv_hands {buffer count datatypeF messageF status : Int} :
    Run.Ensures (cMpiMrecv mpi reply buffer count datatypeF messageF status) process
      fun result _ => result.1 = messageF := by
  refine Run.ensures_bind_of_all fun _ _ => ?_
  exact ensures_last _ _ _

private theorem cfiMpiMrecv_hands {desc : CDesc} {count datatypeF messageF status : Int} :
    Run.Ensures (cfiMpiMrecv mpi reply desc count datatypeF messageF status) process
      fun result _ => result.1 = messageF := by
  exact ensures_last _ _ _

private theorem cMpiImrecv_hands {buffer count datatypeF messageF : Int} :
    Run.Ensures (cMpiImrecv mpi reply buffer count datatypeF messageF) process
      fun result _ => result.1 = messageF ∧ result.2.1 = mpi.c2f .request reply.request := by
  refine Run.ensures_bind_of_all fun _ _ => ?_
  refine Run.ensures_bind_of_all fun _ _ => ?_
  exact Run.ensures_pure ⟨rfl, rfl⟩

private theorem cfiMpiImrecv_hands {desc : CDesc} {count datatypeF messageF : Int} :
    Run.Ensures (cfiMpiImrecv mpi reply desc count datatypeF messageF) process
      fun result _ => result.1 = messageF ∧ result.2.1 = mpi.c2f .request reply.request := by
  refine Run.ensures_bind_of_all fun _ _ => ?_
  refine Run.ensures_bind_of_all fun _ _ => ?_
  exact Run.ensures_pure ⟨rfl, rfl⟩

private theorem cMpiCommIdup_hands {mpiCommIdup : Int → Int → Int → HandleReply} {commF : Int} :
    Run.Ensures (cMpiCommIdup mpi mpiCommIdup commF) world fun result _ =>
      result.1 = mpi.c2f .comm (mpiCommIdup (cMpiCommF2c mpi commF) (mpi.handle .commNull)
        (mpi.handle .requestNull)).handle ∧
      result.2.1 = mpi.c2f .request (mpiCommIdup (cMpiCommF2c mpi commF) (mpi.handle .commNull)
        (mpi.handle .requestNull)).request := by
  refine Run.ensures_bind_of_all fun _ _ => ?_
  exact Run.ensures_pure ⟨rfl, rfl⟩

private theorem cMpiCommIdupWithInfo_hands
    {mpiCommIdupWithInfo : Int → Int → Int → Int → HandleReply}
    {commF infoF : Int} :
    Run.Ensures (cMpiCommIdupWithInfo mpi mpiCommIdupWithInfo commF infoF) world fun result _ =>
      result.1 = mpi.c2f .comm (mpiCommIdupWithInfo (cMpiCommF2c mpi commF)
        (cMpiInfoF2c mpi infoF) (mpi.handle .commNull) (mpi.handle .requestNull)).handle ∧
      result.2.1 = mpi.c2f .request (mpiCommIdupWithInfo (cMpiCommF2c mpi commF)
        (cMpiInfoF2c mpi infoF) (mpi.handle .commNull) (mpi.handle .requestNull)).request := by
  refine Run.ensures_bind_of_all fun _ _ => ?_
  exact Run.ensures_pure ⟨rfl, rfl⟩

private theorem cMpiInfoCreate_hands {state : InfoWorld} :
    Run.Ensures (cMpiInfoCreate mpi) state fun result _ =>
      result.1 = mpi.c2f .info state.infos.next := by
  refine Run.ensures_bind_of_returned rfl ?_
  refine Run.ensures_bind_of_all fun _ _ => ?_
  exact Run.ensures_pure rfl

private theorem cMpiInfoDup_hands {state : InfoWorld} {infoF : Int} :
    Run.Ensures (cMpiInfoDup mpi infoF) state fun result _ =>
      result.1 = mpi.c2f .info (match state.infos.object (cMpiInfoF2c mpi infoF) with
        | none => mpi.handle .infoNull
        | some _ => state.infos.next) := by
  rw [cMpiInfoDup]
  dsimp only
  cases live : state.infos.object (cMpiInfoF2c mpi infoF) with
  | none =>
      refine Run.ensures_bind_of_returned (by simp only [mpiInfoDup, live]; rfl) ?_
      refine Run.ensures_bind_of_all fun _ _ => ?_
      exact Run.ensures_pure rfl
  | some object =>
      refine Run.ensures_bind_of_returned (by simp only [mpiInfoDup, live]; rfl) ?_
      refine Run.ensures_bind_of_all fun _ _ => ?_
      exact Run.ensures_pure rfl

section Arrays

variable {count : Int} {requestsF : Nat → Int}

/-- The array of requests after a call that could allocate its copy, or could not. -/
def arrayAfter (mpi : Mpi) (reply : Reply) (count : Int) (requestsF : Nat → Int) : Nat → Int :=
  if allocatesRequests mpi count then requestsC2f mpi reply count requestsF else requestsF

private theorem cMpiTestall_hands {flagF statuses : Int} :
    Run.Ensures (cMpiTestall mpi reply count requestsF flagF statuses) process fun result _ =>
      result.1 = arrayAfter mpi reply count requestsF := by
  rw [cMpiTestall, arrayAfter]
  split_ifs with allocated
  · refine Run.ensures_bind_of_all fun _ _ => ?_
    exact ensures_last _ _ _
  · refine Run.ensures_bind_of_all fun _ _ => ?_
    exact Run.ensures_pure rfl

private theorem cMpiTestsome_hands {outcountF statuses : Int} {arrayOfIndices : List Int} :
    Run.Ensures (cMpiTestsome mpi reply count requestsF outcountF arrayOfIndices statuses) process
      fun result _ => result.1 = arrayAfter mpi reply count requestsF := by
  rw [cMpiTestsome, arrayAfter]
  split_ifs with allocated
  · refine Run.ensures_bind_of_all fun _ _ => ?_
    exact ensures_last _ _ _
  · refine Run.ensures_bind_of_all fun _ _ => ?_
    exact Run.ensures_pure rfl

private theorem cMpiTestany_hands {indexF flagF status : Int} :
    Run.Ensures (cMpiTestany mpi reply count requestsF indexF flagF status) process
      fun result _ => result.1 = arrayAfter mpi reply count requestsF := by
  rw [cMpiTestany, arrayAfter]
  split_ifs with allocated
  · refine Run.ensures_bind_of_all fun _ _ => ?_
    refine Run.ensures_bind_of_all fun _ _ => ?_
    exact Run.ensures_pure rfl
  · refine Run.ensures_bind_of_all fun _ _ => ?_
    exact Run.ensures_pure rfl

private theorem cMpiWaitsome_hands {outcountF statuses : Int} {arrayOfIndices : List Int} :
    Run.Ensures (cMpiWaitsome mpi reply count requestsF outcountF arrayOfIndices statuses) process
      fun result _ => result.1 = arrayAfter mpi reply count requestsF := by
  rw [cMpiWaitsome, arrayAfter]
  split_ifs with allocated
  · refine Run.ensures_bind_of_all fun _ _ => ?_
    exact ensures_last _ _ _
  · refine Run.ensures_bind_of_all fun _ _ => ?_
    exact Run.ensures_pure rfl

private theorem cMpiWaitany_hands {indexF status : Int} :
    Run.Ensures (cMpiWaitany mpi reply count requestsF indexF status) process
      fun result _ => result.1 = arrayAfter mpi reply count requestsF := by
  rw [cMpiWaitany, arrayAfter]
  split_ifs with allocated
  · refine Run.ensures_bind_of_all fun _ _ => ?_
    exact ensures_last _ _ _
  · refine Run.ensures_bind_of_all fun _ _ => ?_
    exact Run.ensures_pure rfl

/-- Without room for its statuses, the call leaves the requests alone, too. -/
theorem cMpiWaitall_hands {statuses : Int} :
    Run.Ensures (cMpiWaitall mpi reply count requestsF statuses) process fun result _ =>
      result.1 = if statuses = process.sentinels.statusesIgnore ∨
          mpi.allocates (toSizeT (count * sizeofStatus mpi.statusAbi)) then
        arrayAfter mpi reply count requestsF
      else requestsF := by
  rw [cMpiWaitall, arrayAfter]
  by_cases allocated : allocatesRequests mpi count = true
  · rw [if_pos allocated, if_pos allocated]
    refine Run.ensures_bind_of_returned rfl ?_
    by_cases ignored : statuses = process.sentinels.statusesIgnore
    · rw [if_pos (decide_eq_true ignored), if_pos (Or.inl ignored)]
      exact ensures_last _ _ _
    · rw [if_neg (by simp [ignored])]
      by_cases room : mpi.allocates (toSizeT (count * sizeofStatus mpi.statusAbi)) = true
      · rw [if_pos room, if_pos (Or.inr room)]
        refine Run.ensures_bind_of_all fun _ _ => ?_
        exact ensures_last _ _ _
      · rw [if_neg room, if_neg (by simp [ignored, room])]
        refine Run.ensures_bind_of_all fun _ _ => ?_
        exact Run.ensures_pure rfl
  · rw [if_neg allocated, if_neg allocated, ite_self]
    refine Run.ensures_bind_of_all fun _ _ => ?_
    exact Run.ensures_pure rfl

private theorem handsBack_array (reply : Reply) (count : Int) (first : Nat) :
    HandsBack mpi (HandleCall.requestsHanded mpi reply count first) held (held.setRequests first
      count (arrayAfter mpi reply count (HandleCall.requestsFrom held first))) := by
  rw [HandleCall.requestsHanded, arrayAfter]
  split_ifs with allocated
  · exact handsBack_setRequests reply count first _
  · rw [HandleStore.setRequests_same]
    exact handsBack_nil

end Arrays

end Wrappers

theorem HandleCall.step_handsBack (handleCall : HandleCall) :
    Run.Ensures (handleCall.step mpi constants) program fun _ final =>
      HandsBack mpi (handleCall.handed mpi constants program) program.held final.held := by
  refine @Run.Ensures.of_eq _ _ _ _ _ (handleCall.run mpi constants program.held) program ?_ rfl
  cases handleCall with
  | making made =>
      refine ensures_keep (Run.ensures_zoom (Run.ensures_zoom (made.run_ensures mpi constants))) ?_
      rintro ⟨handleF, ierror⟩ ⟨handle, handed, rfl⟩
      rw [HandleCall.handed, handed]
      exact handsBack_set made.target.1 made.target.2 handle
  | commIdup mpiCommIdup comm newcomm request =>
      refine ensures_keep (Run.ensures_zoom (Run.ensures_zoom cMpiCommIdup_hands)) ?_
      rintro ⟨newcommF, requestF, ierror⟩ ⟨rfl, rfl⟩
      exact handsBack_pair newcomm request _ _
  | commIdupWithInfo mpiCommIdupWithInfo comm info newcomm request =>
      refine ensures_keep (Run.ensures_zoom (Run.ensures_zoom cMpiCommIdupWithInfo_hands)) ?_
      rintro ⟨newcommF, requestF, ierror⟩ ⟨rfl, rfl⟩
      exact handsBack_pair newcomm request _ _
  | infoCreate info =>
      refine ensures_keep (Run.ensures_zoom cMpiInfoCreate_hands) ?_
      rintro ⟨infoF, ierror⟩ rfl
      exact handsBack_set .info info _
  | infoDup info newinfo =>
      refine ensures_keep (Run.ensures_zoom cMpiInfoDup_hands) ?_
      rintro ⟨newinfoF, ierror⟩ rfl
      rw [HandleCall.handed]
      cases program.infos.object (cMpiInfoF2c mpi (program.held .info info)) with
      | none => exact handsBack_set .info newinfo _
      | some object => exact handsBack_set .info newinfo _
  | mprobe reply source tag comm message status =>
      refine ensures_keep (Run.ensures_zoom cMpiMprobe_hands) ?_
      rintro ⟨messageF, ierror⟩ rfl
      exact handsBack_set .message message _
  | test reply request status =>
      refine ensures_keep (Run.ensures_zoom cMpiTest_hands) ?_
      rintro ⟨requestF, flag, ierror⟩ rfl
      exact handsBack_set .request request _
  | testall reply count first flag statuses =>
      refine ensures_keep (Run.ensures_zoom cMpiTestall_hands) ?_
      rintro ⟨requestsF, flag, ierror⟩ rfl
      exact handsBack_array reply count first
  | testsome reply incount first outcount arrayOfIndices statuses =>
      refine ensures_keep (Run.ensures_zoom cMpiTestsome_hands) ?_
      rintro ⟨requestsF, outcount, indices, ierror⟩ rfl
      exact handsBack_array reply incount first
  | testany reply count first index flag status =>
      refine ensures_keep (Run.ensures_zoom cMpiTestany_hands) ?_
      rintro ⟨requestsF, index, flag, ierror⟩ rfl
      exact handsBack_array reply count first
  | wait reply request status =>
      refine ensures_keep (Run.ensures_zoom cMpiWait_hands) ?_
      rintro ⟨requestF, ierror⟩ rfl
      exact handsBack_set .request request _
  | waitall reply count first statuses =>
      refine ensures_keep (Run.ensures_zoom cMpiWaitall_hands) ?_
      rintro ⟨requestsF, ierror⟩ rfl
      rw [HandleCall.handed]
      split_ifs with waited
      · exact handsBack_array reply count first
      · rw [HandleStore.setRequests_same]
        exact handsBack_nil
  | waitsome reply incount first outcount arrayOfIndices statuses =>
      refine ensures_keep (Run.ensures_zoom cMpiWaitsome_hands) ?_
      rintro ⟨requestsF, outcount, indices, ierror⟩ rfl
      exact handsBack_array reply incount first
  | waitany reply count first index status =>
      refine ensures_keep (Run.ensures_zoom cMpiWaitany_hands) ?_
      rintro ⟨requestsF, index, ierror⟩ rfl
      exact handsBack_array reply count first
  | isend reply buffer count datatype dest tag comm request =>
      refine ensures_keep (Run.ensures_zoom cMpiIsend_hands) ?_
      rintro ⟨requestF, ierror⟩ rfl
      exact handsBack_set .request request _
  | cfiIsend reply desc count datatype dest tag comm request =>
      refine ensures_keep (Run.ensures_zoom cfiMpiIsend_hands) ?_
      rintro ⟨requestF, ierror⟩ rfl
      exact handsBack_set .request request _
  | irecv reply buffer count datatype source tag comm request =>
      refine ensures_keep (Run.ensures_zoom cMpiIrecv_hands) ?_
      rintro ⟨requestF, ierror⟩ rfl
      exact handsBack_set .request request _
  | cfiIrecv reply desc count datatype source tag comm request =>
      refine ensures_keep (Run.ensures_zoom cfiMpiIrecv_hands) ?_
      rintro ⟨requestF, ierror⟩ rfl
      exact handsBack_set .request request _
  | mrecv reply buffer count datatype message status =>
      refine ensures_keep (Run.ensures_zoom cMpiMrecv_hands) ?_
      rintro ⟨messageF, ierror⟩ rfl
      dsimp only
      rw [HandleStore.set_held]
      exact handsBack_nil
  | cfiMrecv reply desc count datatype message status =>
      refine ensures_keep (Run.ensures_zoom cfiMpiMrecv_hands) ?_
      rintro ⟨messageF, ierror⟩ rfl
      dsimp only
      rw [HandleStore.set_held]
      exact handsBack_nil
  | imrecv reply buffer count datatype message request =>
      refine ensures_keep (Run.ensures_zoom cMpiImrecv_hands) ?_
      rintro ⟨messageF, requestF, ierror⟩ ⟨rfl, rfl⟩
      dsimp only
      rw [HandleStore.set_held]
      exact handsBack_set .request request _
  | cfiImrecv reply desc count datatype message request =>
      refine ensures_keep (Run.ensures_zoom cfiMpiImrecv_hands) ?_
      rintro ⟨messageF, requestF, ierror⟩ ⟨rfl, rfl⟩
      dsimp only
      rw [HandleStore.set_held]
      exact handsBack_set .request request _

end Steps

section Coherence

variable (mpi : Mpi)

/-- The C handle of a predefined object. -/
def IsPredefined (kind : Kind) (handle : Int) : Prop :=
  ∃ object ∈ Predefined.table kind, mpi.has object ∧ mpi.handle object = handle

/-- The conversions of the library go back and forth between its own handles, and make no VAPAA
constant of them. -/
structure HandlesConvert (library : Kind → Int → Prop) : Prop where
  predefined : ∀ kind, ∀ object ∈ Predefined.table kind, mpi.has object →
    library kind (mpi.handle object)
  inverts : ∀ kind handle, library kind handle →
    mpi.f2c kind (mpi.c2f kind handle) = handle
  foreign : ∀ kind handle, library kind handle →
    ∀ object ∈ Predefined.table kind, object.vapaa ≠ mpi.c2f kind handle

/-- The handles that a program can name: its variables and the constants. -/
def Holds (held : HandleStore) (kind : Kind) (value : Int) : Prop :=
  (∃ i, held kind i = value) ∨
    ∃ object ∈ Predefined.table kind, mpi.has object ∧ object.vapaa = value

/-- Handles compare equal exactly when they denote the same C handle. -/
def Coherent (held : HandleStore) : Prop :=
  ∀ kind a b, Holds mpi held kind a → Holds mpi held kind b →
    (handlesEqual kind a b = true ↔ handleF2c mpi kind a = handleF2c mpi kind b)

/-- The library has different handles for different predefined objects of a kind. -/
def Separate : Prop :=
  ∀ kind, ∀ object ∈ Predefined.table kind, ∀ other ∈ Predefined.table kind,
    mpi.has object → mpi.has other → mpi.handle object = mpi.handle other → object = other

/-- Each variable has a constant or the Fortran form of a handle of the library. -/
def Known (library : Kind → Int → Prop) (held : HandleStore) : Prop :=
  ∀ kind i, (∃ object ∈ Predefined.table kind, mpi.has object ∧ held kind i = object.vapaa) ∨
    ∃ handle, library kind handle ∧ held kind i = mpi.c2f kind handle

/-- No variable has the library's own Fortran form of a predefined handle. -/
def Unmixed (library : Kind → Int → Prop) (held : HandleStore) : Prop :=
  ∀ kind i handle, library kind handle → held kind i = mpi.c2f kind handle →
    ¬ IsPredefined mpi kind handle

/-- A call is handed a handle of the library, or one that leaves its variable as it is: a library
may let a handle that it does not know through. -/
def HandsOwn (library : Kind → Int → Prop) (handed : List Handed) (before : HandleStore) : Prop :=
  ∀ back ∈ handed, library back.kind back.handle ∨
    mpi.c2f back.kind back.handle = before back.kind back.target

variable {mpi} {library : Kind → Int → Prop} {held later : HandleStore} {handed : List Handed}

theorem HandlesConvert.denotes (convert : HandlesConvert mpi library) {kind : Kind} {handle : Int}
    (own : library kind handle) : handleF2c mpi kind (mpi.c2f kind handle) = handle := by
  rw [handleF2c_of_other mpi (convert.foreign kind handle own), convert.inverts kind handle own]

theorem HandlesConvert.injective (convert : HandlesConvert mpi library) {kind : Kind}
    {handle other : Int} (own : library kind handle) (own' : library kind other)
    (same : mpi.c2f kind handle = mpi.c2f kind other) : handle = other := by
  rw [← convert.inverts kind handle own, same, convert.inverts kind other own']

/-- What the program can name is a constant, or the Fortran form of a handle of the library that
a variable has. -/
theorem Known.cases (known : Known mpi library held) {kind : Kind} {value : Int}
    (holds : Holds mpi held kind value) :
    (∃ object ∈ Predefined.table kind, mpi.has object ∧ value = object.vapaa) ∨
      ∃ i handle, library kind handle ∧ held kind i = mpi.c2f kind handle ∧
        value = mpi.c2f kind handle := by
  obtain ⟨i, rfl⟩ | ⟨object, member, provided, rfl⟩ := holds
  · obtain constant | ⟨handle, own, same⟩ := known kind i
    · exact Or.inl constant
    · exact Or.inr ⟨i, handle, own, same, same⟩
  · exact Or.inl ⟨object, member, provided, rfl⟩

/-- Handles are coherent as long as none has two forms. -/
theorem coherent_iff (convert : HandlesConvert mpi library) (known : Known mpi library held) :
    Coherent mpi held ↔ Separate mpi ∧ Unmixed mpi library held := by
  constructor
  · intro coherent
    constructor
    · intro kind object member other member' provided provided' same
      apply Predefined.vapaa_inj member member'
      refine (handlesEqual_iff kind).mp ((coherent kind _ _ (Or.inr ⟨object, member, provided, rfl⟩)
        (Or.inr ⟨other, member', provided', rfl⟩)).mpr ?_)
      rw [handleF2c_vapaa mpi member provided, handleF2c_vapaa mpi member' provided', same]
    · rintro kind i handle own same ⟨object, member, provided, rfl⟩
      refine convert.foreign kind _ own object member ?_
      refine (handlesEqual_iff kind).mp ((coherent kind _ _ (Or.inr ⟨object, member, provided, rfl⟩)
        (Or.inl ⟨i, same⟩)).mpr ?_)
      rw [handleF2c_vapaa mpi member provided, convert.denotes own]
  · rintro ⟨separate, unmixed⟩ kind a b holds holds'
    rw [handlesEqual_iff]
    refine ⟨fun same => by rw [same], fun same => ?_⟩
    obtain ⟨object, member, provided, rfl⟩ | ⟨i, handle, own, kept, rfl⟩ := known.cases holds
    · obtain ⟨other, member', provided', rfl⟩ | ⟨i, handle, own, kept, rfl⟩ := known.cases holds'
      · rw [handleF2c_vapaa mpi member provided, handleF2c_vapaa mpi member' provided'] at same
        rw [separate kind object member other member' provided provided' same]
      · rw [handleF2c_vapaa mpi member provided, convert.denotes own] at same
        exact absurd ⟨object, member, provided, same⟩ (unmixed kind i handle own kept)
    · obtain ⟨object, member, provided, rfl⟩ | ⟨j, other, own', kept', rfl⟩ := known.cases holds'
      · rw [handleF2c_vapaa mpi member provided, convert.denotes own] at same
        exact absurd ⟨object, member, provided, same.symm⟩ (unmixed kind i handle own kept)
      · rw [convert.denotes own, convert.denotes own'] at same
        rw [same]

/-- After a call, a variable is as before or has what the call was handed. -/
theorem HandsBack.cases (hands : HandsBack mpi handed held later) (kind : Kind) (i : Nat) :
    later kind i = held kind i ∨
      ∃ back ∈ handed, back.kind = kind ∧ back.target = i ∧
        later kind i = mpi.c2f kind back.handle := by
  by_cases touched : ∃ back ∈ handed, back.kind = kind ∧ back.target = i
  · obtain ⟨back, member, rfl, rfl⟩ := touched
    exact Or.inr ⟨back, member, rfl, rfl, hands.written back member⟩
  · exact Or.inl (hands.others kind i fun back member same => touched ⟨back, member, same⟩)

theorem Known.next (known : Known mpi library held) (hands : HandsBack mpi handed held later)
    (own : HandsOwn mpi library handed held) : Known mpi library later := by
  intro kind i
  cases hands.cases kind i with
  | inl same =>
      rw [same]
      exact known kind i
  | inr written =>
      obtain ⟨back, member, rfl, rfl, same⟩ := written
      cases own back member with
      | inl library => exact Or.inr ⟨back.handle, library, same⟩
      | inr unchanged =>
          rw [same, unchanged]
          exact known back.kind back.target

/-- A call keeps the forms apart exactly when it is handed no predefined handle. -/
theorem Unmixed.next_iff (convert : HandlesConvert mpi library)
    (unmixed : Unmixed mpi library held) (hands : HandsBack mpi handed held later)
    (own : HandsOwn mpi library handed held) :
    Unmixed mpi library later ↔ ∀ back ∈ handed, ¬ IsPredefined mpi back.kind back.handle := by
  constructor
  · rintro kept back member ⟨object, listed, provided, same⟩
    refine kept back.kind back.target back.handle ?_ (hands.written back member)
      ⟨object, listed, provided, same⟩
    rw [← same]
    exact convert.predefined back.kind object listed provided
  · intro fresh kind i handle known same
    cases hands.cases kind i with
    | inl unchanged => exact unmixed kind i handle known (unchanged.symm.trans same)
    | inr written =>
        obtain ⟨back, member, rfl, rfl, written⟩ := written
        cases own back member with
        | inl known' =>
            rw [convert.injective known known' (same.symm.trans written)]
            exact fresh back member
        | inr unchanged =>
            exact unmixed _ _ handle known (unchanged.symm.trans (written.symm.trans same))

end Coherence

end Vapaa
