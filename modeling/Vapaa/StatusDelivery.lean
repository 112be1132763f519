import Vapaa.SendReceive

/-!
# Statuses

Which Fortran status variables the calls write, in which layout.
-/

set_option autoImplicit false

namespace Vapaa

open Foundation

/-- Calls with one status argument, with their other arguments. -/
inductive StatusCall where
  | probe (source tag commF : Int)
  | mprobe (source tag commF : Int)
  | test (requestF : Int)
  | testany (count : Int) (requestsF : Nat → Int) (indexF flagF : Int)
  | wait (requestF : Int)
  | waitany (count : Int) (requestsF : Nat → Int) (indexF : Int)
  | recv (buffer count datatypeF source tag commF : Int)
  | cfiRecv (desc : CDesc) (count : Nat) (datatypeF source tag commF : Int)
  | mrecv (buffer count datatypeF messageF : Int)
  | sendrecv (sbuffer scount sdatatypeF dest stag rbuffer rcount rdatatypeF src rtag commF : Int)
  | requestGetStatus (requestF : Int)

namespace StatusCall

def run (mpi : Mpi) (reply : Reply) (status : Int) : StatusCall → Wrapper Unit
  | probe source tag commF => effect (cMpiProbe mpi reply source tag commF status)
  | mprobe source tag commF => effect (cMpiMprobe mpi reply source tag commF status)
  | test requestF => effect (cMpiTest mpi reply requestF status)
  | testany count requestsF indexF flagF =>
      effect (cMpiTestany mpi reply count requestsF indexF flagF status)
  | wait requestF => effect (cMpiWait mpi reply requestF status)
  | waitany count requestsF indexF =>
      effect (cMpiWaitany mpi reply count requestsF indexF status)
  | recv buffer count datatypeF source tag commF =>
      effect (cMpiRecv mpi reply buffer count datatypeF source tag commF status)
  | cfiRecv desc count datatypeF source tag commF =>
      effect (cfiMpiRecv mpi reply desc count datatypeF source tag commF status)
  | mrecv buffer count datatypeF messageF =>
      effect (cMpiMrecv mpi reply buffer count datatypeF messageF status)
  | sendrecv sbuffer scount sdatatypeF dest stag rbuffer rcount rdatatypeF src rtag commF =>
      effect (cMpiSendrecv mpi reply sbuffer scount sdatatypeF dest stag rbuffer rcount
        rdatatypeF src rtag commF status)
  | requestGetStatus requestF => effect (cMpiRequestGetStatus mpi reply requestF status)

/-- Arrays of requests can be allocated, and sections are ones that the wrappers pass. -/
def Admissible (mpi : Mpi) (types : TypeStore) : StatusCall → Prop
  | testany count _ _ _ => allocatesRequests mpi count = true
  | waitany count _ _ => allocatesRequests mpi count = true
  | cfiRecv desc count datatypeF _ _ _ =>
      desc.Matches mpi types (cMpiTypeF2c mpi datatypeF) count ∧
        (mpi.cfiIsContiguous desc ≠ 1 → desc.Accepted mpi types count)
  | _ => True

/-- Where the call may write data. -/
def outputs (mpi : Mpi) (types : TypeStore) : StatusCall → List Int
  | recv buffer count datatypeF _ _ _ =>
      (types.buffer buffer count (cMpiTypeF2c mpi datatypeF)).locations
  | cfiRecv desc count _ _ _ _ => desc.elementBytes count
  | mrecv buffer count datatypeF _ =>
      (types.buffer buffer count (cMpiTypeF2c mpi datatypeF)).locations
  | sendrecv _ _ _ _ _ rbuffer rcount rdatatypeF _ _ _ =>
      (types.buffer rbuffer rcount (cMpiTypeF2c mpi rdatatypeF)).locations
  | _ => []

/-- The routines that pass their status argument to the library. -/
def PassesThrough : StatusCall → Prop
  | probe .. => False
  | requestGetStatus .. => False
  | _ => True

end StatusCall

/-- What the pass-through of a status argument comes to: the pointer that the library
gets, what it stores there, and no data outside the output buffer. -/
structure PassedThrough (mpi : Mpi) (reply : Reply) (process : Process) (pointer : StatusPointer)
    (outputs : List Int) (final : Process) : Prop where
  pointers : final.statusPointers = process.statusPointers ++ [pointer]
  words : final.statusWords = process.statusWords.writeAll (statusWrites mpi reply pointer)
  frame : ∀ location, location ∉ outputs → final.memory location = process.memory location

section PassingThrough

variable {mpi : Mpi} {reply : Reply} {process : Process} {status : Int}

/-- `C_IS_MPI_STATUS_IGNORE(status) ? MPI_STATUS_IGNORE : status`, as a function. -/
def statusPointer (mpi : Mpi) (process : Process) (status : Int) : StatusPointer :=
  if status = process.sentinels.statusIgnore then .ofArgument mpi.statusIgnore
  else .ofArgument status

private theorem deliver_frame {buffer : Buffer} {received : List UInt8} {location : Int}
    (outside : location ∉ buffer.locations) :
    process.memory.writeAll (buffer.locations.zip received) location = process.memory location := by
  apply Memory.writeAll_of_not_mem
  intro written
  obtain ⟨⟨address, value⟩, member, rfl⟩ := List.mem_map.mp written
  exact outside (List.of_mem_zip member).1

private theorem run_of_passesThrough {callee : StatusCall} (coded : mpi.Codes reply.rc)
    (basic : process.world.types.Basic mpi)
    (admissible : callee.Admissible mpi process.world.types)
    (passes : callee.PassesThrough) :
    Run.Returns (callee.run mpi reply status) process fun _ =>
      PassedThrough mpi reply process (statusPointer mpi process status)
        (callee.outputs mpi process.world.types) := by
  obtain ⟨ierror, world, fixed, -⟩ := @cMpiRcFix_returned mpi process.world reply.rc coded
  have pointer := statusArgument_apply mpi status process
  cases callee with
  | probe source tag commF => exact passes.elim
  | requestGetStatus requestF => exact passes.elim
  | mprobe source tag commF =>
      rw [StatusCall.run, effect, cMpiMprobe]
      simp only [bind_assoc, pure_bind]
      refine Run.returns_bind_of_returned pointer (Run.returns_bind_of_returned rfl ?_)
      refine Run.returns_bind_of_returned (call_of_returned fixed) (Run.returns_pure ?_)
      exact ⟨rfl, rfl, fun _ _ => rfl⟩
  | test requestF =>
      rw [StatusCall.run, effect, cMpiTest]
      simp only [bind_assoc, pure_bind]
      refine Run.returns_bind_of_returned pointer (Run.returns_bind_of_returned rfl ?_)
      refine Run.returns_bind_of_returned (call_of_returned fixed) (Run.returns_pure ?_)
      exact ⟨rfl, rfl, fun _ _ => rfl⟩
  | testany count requestsF indexF flagF =>
      have allocated : allocatesRequests mpi count = true := admissible
      rw [StatusCall.run, effect, cMpiTestany, if_pos allocated]
      simp only [bind_assoc, pure_bind]
      refine Run.returns_bind_of_returned pointer (Run.returns_bind_of_returned rfl ?_)
      exact Run.returns_pure ⟨rfl, rfl, fun _ _ => rfl⟩
  | wait requestF =>
      rw [StatusCall.run, effect, cMpiWait]
      simp only [bind_assoc, pure_bind]
      refine Run.returns_bind_of_returned pointer (Run.returns_bind_of_returned rfl ?_)
      refine Run.returns_bind_of_returned (call_of_returned fixed) (Run.returns_pure ?_)
      exact ⟨rfl, rfl, fun _ _ => rfl⟩
  | waitany count requestsF indexF =>
      have allocated : allocatesRequests mpi count = true := admissible
      rw [StatusCall.run, effect, cMpiWaitany, if_pos allocated]
      simp only [bind_assoc, pure_bind]
      refine Run.returns_bind_of_returned pointer (Run.returns_bind_of_returned rfl ?_)
      refine Run.returns_bind_of_returned (call_of_returned fixed) (Run.returns_pure ?_)
      exact ⟨rfl, rfl, fun _ _ => rfl⟩
  | recv buffer count datatypeF source tag commF =>
      rw [StatusCall.run, effect, cMpiRecv]
      simp only [bind_assoc]
      refine Run.returns_bind_of_returned pointer (Run.returns_bind_of_returned rfl ?_)
      refine Run.returns_bind_of_returned (call_of_returned fixed) (Run.returns_pure ?_)
      exact ⟨rfl, rfl, fun _ outside => deliver_frame outside⟩
  | cfiRecv desc count datatypeF source tag commF =>
      obtain ⟨argument, acceptable⟩ := admissible
      obtain ⟨passedCount, passedType, opened, carries, passed⟩ :=
        withSection_passes basic argument acceptable
      obtain ⟨closed, returned, -⟩ := passed (fun buffer count datatype => do
        mpiRecv mpi reply buffer count datatype source tag (cMpiCommF2c mpi commF)
          (← statusArgument mpi status)) _ _
        (Run.bind_of_returned (statusArgument_apply mpi status { process with world := opened }))
        rfl
      obtain ⟨ierror, last, fixed, -⟩ := @cMpiRcFix_returned mpi closed reply.rc coded
      rw [StatusCall.run, effect, cfiMpiRecv]
      simp only [bind_assoc]
      refine Run.returns_bind_of_returned returned ?_
      refine Run.returns_bind_of_returned (call_of_returned fixed) (Run.returns_pure ?_)
      refine ⟨rfl, rfl, fun location outside => deliver_frame ?_⟩
      rw [carries.locations_eq]
      exact outside
  | mrecv buffer count datatypeF messageF =>
      rw [StatusCall.run, effect, cMpiMrecv]
      simp only [bind_assoc, pure_bind]
      refine Run.returns_bind_of_returned pointer (Run.returns_bind_of_returned rfl ?_)
      refine Run.returns_bind_of_returned (call_of_returned fixed) (Run.returns_pure ?_)
      exact ⟨rfl, rfl, fun _ outside => deliver_frame outside⟩
  | sendrecv sbuffer scount sdatatypeF dest stag rbuffer rcount rdatatypeF src rtag commF =>
      rw [StatusCall.run, effect, cMpiSendrecv]
      simp only [bind_assoc]
      refine Run.returns_bind_of_returned pointer (Run.returns_bind_of_returned rfl ?_)
      refine Run.returns_bind_of_returned (call_of_returned fixed) (Run.returns_pure ?_)
      exact ⟨rfl, rfl, fun _ outside => deliver_frame outside⟩

end PassingThrough

section Layouts

variable {mpi : Mpi} {process : Process} {status : Int}

private theorem mem_wordsAt {address location value : Int} {words : List Int} :
    (location, value) ∈ wordsAt address words ↔
      ∃ k : Nat, words[k]? = some value ∧ location = address + 4 * (k : Int) := by
  simp only [wordsAt, List.mem_mapIdx, Prod.mk.injEq]
  constructor
  · rintro ⟨k, inside, rfl, rfl⟩
    exact ⟨k, List.getElem?_eq_getElem inside, rfl⟩
  · rintro ⟨k, found, rfl⟩
    obtain ⟨inside, same⟩ := List.getElem?_eq_some_iff.mp found
    exact ⟨k, inside, rfl, same⟩

def Status.visible (status : Status) : PublicFields where
  mpiSource := status.mpiSource
  mpiTag := status.mpiTag
  mpiError := status.mpiError

/-- What the conversion stores has the public fields in their places. -/
theorem publicFields_cMpiStatusC2f (abi : StatusAbi) (words : Memory Int Int) (c : Status)
    (f : Int) : publicFields (words.writeAll (cMpiStatusC2f abi c f)) f = c.visible := by
  cases abi with
  | mpich => simp [publicFields, cMpiStatusC2f, Memory.writeAll, Status.visible]
  | openMpi =>
      simp [publicFields, cMpiStatusC2f, Memory.writeAll, Status.visible, wordsAt, sizeWords,
        add_assoc]

/-- Statuses of the library behind each other, from an address on. -/
def statusesAt (abi : StatusAbi) (statuses : Nat → Status) (stored : Nat) (f : Int) :
    List (Int × Int) :=
  (List.range stored).flatMap fun (i : Nat) =>
    wordsAt (f + i * sizeofStatus abi) ((statuses i).words abi)

private theorem mem_statusesAt {abi : StatusAbi} {statuses : Nat → Status} {stored : Nat}
    {f location value : Int} :
    (location, value) ∈ statusesAt abi statuses stored f ↔
      ∃ i < stored, ∃ k : Nat, ((statuses i).words abi)[k]? = some value ∧
        location = f + i * sizeofStatus abi + 4 * (k : Int) := by
  simp only [statusesAt, List.mem_flatMap, List.mem_range, mem_wordsAt]

/-- A status that only its source distinguishes. -/
def markedStatus (value : Int) : Status :=
  { countLo := value, countHiAndCancelled := value, mpiSource := value + 1, mpiTag := value,
    mpiError := value, cancelled := value, ucount := 0 }

private theorem length_words (abi : StatusAbi) (status : Status) :
    (status.words abi).length = match abi with | .mpich => 5 | .openMpi => 6 := by
  cases abi <;> rfl

/-- A location that held the value of the marked statuses, and where they have none of
their sources, holds it still. -/
theorem writeAll_statusesAt_marked {abi : StatusAbi} {words : Memory Int Int} {stored : Nat}
    {f location : Int}
    (unmarked : ∀ i < stored, ∀ k : Nat, ∀ value,
      ((markedStatus (words location)).words abi)[k]? = some value →
        location = f + i * sizeofStatus abi + 4 * (k : Int) → value = words location) :
    words.writeAll (statusesAt abi (fun _ => markedStatus (words location)) stored f) location =
      words location := by
  by_cases written : location ∈
      (statusesAt abi (fun _ => markedStatus (words location)) stored f).map Prod.fst
  · obtain ⟨i, below, k, found, place⟩ := mem_statusesAt.mp (Memory.writeAll_of_mem words written)
    exact unmarked i below k _ found place
  · exact Memory.writeAll_of_not_mem written

/-- Statuses of the library have their public fields where Fortran looks for them only
if there is none, or a single one of MPICH. -/
theorem statusesAt_visible_iff (abi : StatusAbi) (words : Memory Int Int) (stored : Nat) (f : Int) :
    (∀ (statuses : Nat → Status) (i : Nat), i < stored →
      publicFields (words.writeAll (statusesAt abi statuses stored f))
        (f + i * sizeofFMpiStatus) = (statuses i).visible) ↔
      stored = 0 ∨ abi = .mpich ∧ stored = 1 := by
  constructor
  · intro shown
    by_contra several
    obtain ⟨present, rest⟩ := not_or.mp several
    cases abi with
    | openMpi =>
        have first := congrArg PublicFields.mpiSource
          (shown (fun _ => markedStatus (words (f + 8))) 0 (by omega))
        simp only [publicFields, Status.visible, markedStatus, Nat.cast_zero, zero_mul,
          add_zero] at first
        have kept := @writeAll_statusesAt_marked .openMpi words stored f (f + 8) (by
          intro i below k value found place
          have inside := (List.getElem?_eq_some_iff.mp found).1
          simp only [length_words] at inside
          simp only [sizeofStatus] at place
          obtain rfl : k = 2 := by omega
          cases found
          rfl)
        simp only [markedStatus] at kept
        omega
    | mpich =>
        have several : 2 ≤ stored := by
          by_contra few
          exact rest ⟨rfl, by omega⟩
        have second := congrArg PublicFields.mpiSource
          (shown (fun _ => markedStatus (words (f + 40))) 1 (by omega))
        have kept := @writeAll_statusesAt_marked .mpich words stored f (f + 40) (by
          intro i below k value found place
          have inside := (List.getElem?_eq_some_iff.mp found).1
          simp only [length_words] at inside
          simp only [sizeofStatus] at place
          obtain rfl : k = 0 := by omega
          cases found
          rfl)
        have address : f + ((1 : Nat) : Int) * sizeofFMpiStatus + 8 = f + 40 := by
          simp only [sizeofFMpiStatus]
          omega
        simp only [publicFields, Status.visible, address] at second
        simp only [markedStatus] at second kept
        omega
  · rintro (rfl | ⟨rfl, rfl⟩) statuses i below
    · omega
    · obtain rfl : i = 0 := by omega
      simp [statusesAt, wordsAt, Status.words, publicFields, Status.visible, Memory.writeAll]

end Layouts

section Reporting

variable {mpi : Mpi} {process : Process} {reply : Reply} {count : Int} {requestsF : Nat → Int}
variable {statuses status : Int} {stored : Nat}

/-- After a successful call that reports so many statuses, each is in its place. -/
def ReportsStatuses {α : Type} (mpi : Mpi) (run : Reply → Wrapper α) (process : Process)
    (statuses : Int) (stored : Nat) : Prop :=
  ∀ reply : Reply, reply.rc = mpi.errorClass .success → reply.stored = stored →
    Run.Returns (run reply) process fun _ final => ∀ i : Nat, i < stored →
      publicFields final.statusWords (statuses + i * sizeofFMpiStatus) =
        (reply.statuses i).visible

/-- The run returns with the statuses of the library written as they are. -/
def CastsStatuses {α : Type} (mpi : Mpi) (run : Reply → Wrapper α) (process : Process)
    (statuses : Int) : Prop :=
  ∀ reply : Reply, reply.rc = mpi.errorClass .success →
    Run.Returns (run reply) process fun _ final =>
      final.statusWords = process.statusWords.writeAll
        (statusesAt mpi.statusAbi reply.statuses reply.stored statuses)

theorem CastsStatuses.reportsStatuses_iff {α : Type} {run : Reply → Wrapper α}
    (casts : CastsStatuses mpi run process statuses) :
    ReportsStatuses mpi run process statuses stored ↔
      stored = 0 ∨ mpi.statusAbi = .mpich ∧ stored = 1 := by
  rw [← statusesAt_visible_iff mpi.statusAbi process.statusWords stored statuses]
  constructor
  · intro reports contents i below
    let reply : Reply := { successfulReply with
      rc := mpi.errorClass .success, statuses := contents, stored := stored }
    obtain ⟨value, final, returned, words⟩ := casts reply rfl
    obtain ⟨other, last, alsoReturned, shown⟩ := reports reply rfl rfl
    rw [returned] at alsoReturned
    cases alsoReturned
    rw [← shown i below, words]
  · intro shown reply succeeded counted
    refine (casts reply succeeded).mono fun _ final words i below => ?_
    rw [words, counted]
    exact shown reply.statuses i below

private theorem statusesArgument_of_ne (mpi : Mpi)
    (unignored : statuses ≠ process.sentinels.statusesIgnore) :
    statusesArgument mpi statuses process = .returned (.ofArgument statuses, process) := by
  rw [statusesArgument_apply, if_neg unignored]

private theorem statusesWrites_eq (real : statuses ≠ mpi.statusesIgnore) :
    statusesWrites mpi reply (.ofArgument statuses) =
      statusesAt mpi.statusAbi reply.statuses reply.stored statuses :=
  if_pos real

private theorem castsStatuses_of {α : Type} {completion : Completion} {requests : List Int}
    {run : Reply → Wrapper α} {finish : Reply → Int → α}
    (unignored : statuses ≠ process.sentinels.statusesIgnore)
    (real : statuses ≠ mpi.statusesIgnore)
    (passes : ∀ reply, run reply = do
      let pointer ← statusesArgument mpi statuses
      let ierror ← completeArray mpi reply completion requests pointer
      let ierror ← call (cMpiRcFix mpi ierror)
      return finish reply ierror) :
    CastsStatuses mpi run process statuses := by
  intro reply succeeded
  rw [passes]
  refine Run.returns_bind_of_returned (statusesArgument_of_ne mpi unignored) ?_
  refine Run.returns_bind_of_returned rfl ?_
  rw [succeeded]
  refine Run.returns_bind_of_returned (call_of_returned (cMpiRcFix_success _)) ?_
  exact Run.returns_pure (congrArg _ (statusesWrites_eq real))

private theorem cMpiTestall_casts (allocated : allocatesRequests mpi count = true)
    (unignored : statuses ≠ process.sentinels.statusesIgnore)
    (real : statuses ≠ mpi.statusesIgnore) (flagF : Int) :
    CastsStatuses mpi (fun reply => cMpiTestall mpi reply count requestsF flagF statuses) process
      statuses :=
  castsStatuses_of unignored real fun _ => if_pos allocated

private theorem cMpiTestsome_casts (allocated : allocatesRequests mpi count = true)
    (unignored : statuses ≠ process.sentinels.statusesIgnore)
    (real : statuses ≠ mpi.statusesIgnore) (outcountF : Int) (arrayOfIndices : List Int) :
    CastsStatuses mpi (fun reply =>
      cMpiTestsome mpi reply count requestsF outcountF arrayOfIndices statuses) process
      statuses :=
  castsStatuses_of unignored real fun _ => if_pos allocated

private theorem cMpiWaitsome_casts (allocated : allocatesRequests mpi count = true)
    (unignored : statuses ≠ process.sentinels.statusesIgnore)
    (real : statuses ≠ mpi.statusesIgnore) (outcountF : Int) (arrayOfIndices : List Int) :
    CastsStatuses mpi (fun reply =>
      cMpiWaitsome mpi reply count requestsF outcountF arrayOfIndices statuses) process
      statuses :=
  castsStatuses_of unignored real fun _ => if_pos allocated

private theorem cMpiStatusC2f_within {abi : StatusAbi} {c : Status} {f location value : Int}
    (written : (location, value) ∈ cMpiStatusC2f abi c f) :
    f ≤ location ∧ location < f + sizeofFMpiStatus := by
  cases abi with
  | mpich =>
      simp only [cMpiStatusC2f, List.mem_cons, Prod.mk.injEq, List.not_mem_nil, or_false,
        sizeofFMpiStatus] at written ⊢
      omega
  | openMpi =>
      simp only [cMpiStatusC2f, wordsAt, sizeWords, List.mapIdx_cons, List.mapIdx_nil,
        List.cons_append, List.nil_append, List.mem_cons, Prod.mk.injEq, List.not_mem_nil,
        or_false, sizeofFMpiStatus] at written ⊢
      omega

/-- Conversions one behind the other do not disturb each other. -/
theorem writeAll_conversions (abi : StatusAbi) (words : Memory Int Int) (contents : Nat → Status)
    (f : Int) {n i : Nat} (below : i < n) :
    ∃ before : Memory Int Int, ∀ location, f + i * sizeofFMpiStatus ≤ location →
      location < f + i * sizeofFMpiStatus + sizeofFMpiStatus →
      words.writeAll ((List.range n).flatMap fun (i : Nat) =>
          cMpiStatusC2f abi (contents i) (f + i * sizeofFMpiStatus)) location =
        before.writeAll (cMpiStatusC2f abi (contents i) (f + i * sizeofFMpiStatus)) location := by
  induction n with
  | zero => omega
  | succ n ih =>
      simp only [List.range_succ, List.flatMap_append, List.flatMap_cons, List.flatMap_nil,
        List.append_nil, Memory.writeAll_append]
      by_cases last : i = n
      · subst last
        exact ⟨_, fun location _ _ => rfl⟩
      · obtain ⟨before, agrees⟩ := ih (by omega)
        refine ⟨before, fun location from_ to_ => ?_⟩
        rw [← agrees location from_ to_]
        apply Memory.writeAll_of_not_mem
        intro written
        obtain ⟨⟨place, value⟩, member, rfl⟩ := List.mem_map.mp written
        have within := cMpiStatusC2f_within member
        have apart : (i : Int) + 1 ≤ n := by omega
        simp only [sizeofFMpiStatus] at within to_
        omega

private theorem publicFields_congr {words others : Memory Int Int} {f : Int}
    (agree : ∀ location, f ≤ location → location < f + sizeofFMpiStatus →
      words location = others location) :
    publicFields words f = publicFields others f := by
  simp only [sizeofFMpiStatus] at agree
  simp only [publicFields, PublicFields.mk.injEq]
  exact ⟨agree _ (by omega) (by omega), agree _ (by omega) (by omega),
    agree _ (by omega) (by omega)⟩

/-- Conversion element by element puts every status in its place. -/
theorem cMpiWaitall_returns {n : Nat} (allocates : ∀ bytes, mpi.allocates bytes = true)
    (unignored : statuses ≠ process.sentinels.statusesIgnore) (coded : mpi.Codes reply.rc) :
    Run.Returns (cMpiWaitall mpi reply n requestsF statuses) process fun _ final =>
      ∀ i : Nat, i < n → publicFields final.statusWords (statuses + i * sizeofFMpiStatus) =
        (reply.statuses i).visible := by
  have ignores : cIsMpiStatusesIgnore statuses process = .returned (false, process) := by
    simp [cIsMpiStatusesIgnore, unignored]
  obtain ⟨ierror, world, fixed, -⟩ := @cMpiRcFix_returned mpi process.world reply.rc coded
  rw [cMpiWaitall, if_pos (show allocatesRequests mpi n = true from allocates _)]
  refine Run.returns_bind_of_returned ignores ?_
  simp only [Bool.false_eq_true, if_false, if_pos (allocates _)]
  refine Run.returns_bind_of_returned rfl (Run.returns_bind_of_returned rfl ?_)
  refine Run.returns_bind_of_returned (call_of_returned fixed) ?_
  refine Run.returns_pure fun i below => ?_
  obtain ⟨before, agrees⟩ := writeAll_conversions mpi.statusAbi process.statusWords
    reply.statuses statuses below
  rw [← publicFields_cMpiStatusC2f mpi.statusAbi before]
  exact publicFields_congr agrees

private theorem cMpiWaitall_reports {n : Nat} (allocates : ∀ bytes, mpi.allocates bytes = true)
    (unignored : statuses ≠ process.sentinels.statusesIgnore) (within : stored ≤ n) :
    ReportsStatuses mpi (fun reply => cMpiWaitall mpi reply n requestsF statuses) process
      statuses stored := by
  intro reply succeeded counted
  exact (cMpiWaitall_returns allocates unignored (Or.inl succeeded)).mono
    fun _ final shown i below => shown i (lt_of_lt_of_le below within)

/-- After a successful call that reports a completion, its status is in its place. -/
def ReportsStatus (mpi : Mpi) (callee : StatusCall) (process : Process) (status : Int) : Prop :=
  ∀ reply : Reply, reply.rc = mpi.errorClass .success → reply.completed = true →
    Run.Returns (callee.run mpi reply status) process fun _ final =>
      publicFields final.statusWords status = reply.status.visible

/-- A status of the library has its public fields where Fortran looks for them only if
it is one of MPICH. -/
theorem words_visible_iff (abi : StatusAbi) (words : Memory Int Int) (f : Int) :
    (∀ c : Status, publicFields (words.writeAll (wordsAt f (c.words abi))) f = c.visible) ↔
      abi = .mpich := by
  constructor
  · intro shown
    obtain none | ⟨layout, -⟩ := (statusesAt_visible_iff abi words 1 f).mp (by
      intro statuses i below
      obtain rfl : i = 0 := by omega
      simpa [statusesAt] using shown (statuses 0))
    · omega
    · exact layout
  · rintro rfl c
    simp [wordsAt, Status.words, publicFields, Status.visible, Memory.writeAll]

private theorem reportsStatus_iff {callee : StatusCall} (basic : process.world.types.Basic mpi)
    (admissible : callee.Admissible mpi process.world.types) (passes : callee.PassesThrough)
    (unignored : status ≠ process.sentinels.statusIgnore) (real : status ≠ mpi.statusIgnore) :
    ReportsStatus mpi callee process status ↔ mpi.statusAbi = .mpich := by
  have written : ∀ reply : Reply, reply.completed = true →
      statusWrites mpi reply (statusPointer mpi process status) =
        wordsAt status (reply.status.words mpi.statusAbi) := by
    intro reply completed
    rw [statusPointer, if_neg unignored, statusWrites, if_pos ⟨completed, real⟩]
  rw [← words_visible_iff mpi.statusAbi process.statusWords status]
  constructor
  · intro reports c
    let reply : Reply := { successfulReply with rc := mpi.errorClass .success, status := c }
    obtain ⟨value, final, returned, passed⟩ := @run_of_passesThrough mpi reply process status callee
      (Or.inl rfl) basic admissible passes
    obtain ⟨other, last, alsoReturned, shown⟩ := reports reply rfl rfl
    rw [returned] at alsoReturned
    cases alsoReturned
    rw [← written reply rfl, ← passed.words, shown]
  · intro shown reply succeeded completed
    refine (run_of_passesThrough (Or.inl succeeded) basic admissible passes).mono
      fun _ final passed => ?_
    rw [passed.words, written reply completed]
    exact shown reply.status

/-- Statuses that are passed through agree with statuses that are converted: of an array,
if none or a single one of MPICH is reported; in the calls with one status, under
MPICH. -/
theorem statuses_agree_iff (basic : process.world.types.Basic mpi)
    (allocates : ∀ bytes, mpi.allocates bytes = true)
    (statusesUnignored : statuses ≠ process.sentinels.statusesIgnore)
    (statusesReal : statuses ≠ mpi.statusesIgnore)
    (unignored : status ≠ process.sentinels.statusIgnore) (real : status ≠ mpi.statusIgnore) :
    (∀ (words : Memory Int Int) (c : Status) (f : Int),
      publicFields (words.writeAll (cMpiStatusC2f mpi.statusAbi c f)) f = c.visible) ∧
    (∀ (n stored : Nat) requestsF, stored ≤ n →
      ReportsStatuses mpi (fun reply => cMpiWaitall mpi reply n requestsF statuses) process
        statuses stored) ∧
    (∀ count requestsF flagF stored,
      ReportsStatuses mpi (fun reply => cMpiTestall mpi reply count requestsF flagF statuses)
          process statuses stored ↔
        stored = 0 ∨ mpi.statusAbi = .mpich ∧ stored = 1) ∧
    (∀ incount requestsF outcountF arrayOfIndices stored,
      ReportsStatuses mpi
          (fun reply =>
            cMpiTestsome mpi reply incount requestsF outcountF arrayOfIndices statuses)
          process statuses stored ↔
        stored = 0 ∨ mpi.statusAbi = .mpich ∧ stored = 1) ∧
    (∀ incount requestsF outcountF arrayOfIndices stored,
      ReportsStatuses mpi
          (fun reply =>
            cMpiWaitsome mpi reply incount requestsF outcountF arrayOfIndices statuses)
          process statuses stored ↔
        stored = 0 ∨ mpi.statusAbi = .mpich ∧ stored = 1) ∧
    (∀ callee : StatusCall, callee.Admissible mpi process.world.types → callee.PassesThrough →
      (ReportsStatus mpi callee process status ↔ mpi.statusAbi = .mpich)) := by
  refine ⟨publicFields_cMpiStatusC2f mpi.statusAbi, fun n stored requestsF within => ?_,
    fun count requestsF flagF stored => ?_, fun incount requestsF outcountF indices stored => ?_,
    fun incount requestsF outcountF indices stored => ?_,
    fun callee admissible passes => reportsStatus_iff basic admissible passes unignored real⟩
  · exact cMpiWaitall_reports allocates statusesUnignored within
  · exact (cMpiTestall_casts (allocates _) statusesUnignored statusesReal flagF).reportsStatuses_iff
  · exact (cMpiTestsome_casts (allocates _) statusesUnignored statusesReal outcountF
      indices).reportsStatuses_iff
  · exact (cMpiWaitsome_casts (allocates _) statusesUnignored statusesReal outcountF
      indices).reportsStatuses_iff

/-- Two completions, from ranks 1 and 2. -/
def twoCompletions : Reply where
  rc := 0
  completed := true
  status := ⟨0, 0, 1, 5, 0, 0, 0⟩
  statuses := fun i => ⟨4, 0, i + 1, 5, 0, 0, 0⟩
  stored := 2
  received := []
  request := 0
  requests := fun _ => 0
  message := 0
  flag := 1
  index := 0
  outcount := 2
  indices := [0, 1]

/-- The second status of MPICH starts within the first one of Fortran. -/
theorem statuses_agree_two :
    ∃ final, effect (cMpiTestall mpich twoCompletions 2 (fun i => i) 0 1000) startProcess =
        .returned ((), final) ∧
      publicFields final.statusWords (1000 + 1 * sizeofFMpiStatus) ≠
        (twoCompletions.statuses 1).visible := by
  have run : (effect (cMpiTestall mpich twoCompletions 2 (fun i => i) 0 1000) startProcess >>=
      fun result => .returned (publicFields result.2.statusWords (1000 + 1 * sizeofFMpiStatus))) =
      .returned { mpiSource := 0, mpiTag := 0, mpiError := 0 } := by
    decide +kernel
  obtain ⟨⟨⟨⟩, final⟩, returned, fields⟩ := Outcome.bind_eq_returned.mp run
  refine ⟨final, returned, ?_⟩
  rw [Outcome.returned.inj fields]
  decide

theorem statuses_agree_mpich :
    ReportsStatus mpich (.wait 7) startProcess 2000 ∧
      ¬ ReportsStatuses mpich (fun reply => cMpiTestall mpich reply 2 (fun i => i) 0 1000)
        startProcess 1000 2 := by
  obtain ⟨-, -, testall, -, -, single⟩ := @statuses_agree_iff mpich startProcess 1000 2000
    predefinedTypes_basic (fun _ => rfl) (by decide) (by decide) (by decide) (by decide)
  refine ⟨(single (.wait 7) trivial trivial).mpr rfl, fun reports => ?_⟩
  obtain none | ⟨-, one⟩ := (testall 2 (fun i => i) 0 2).mp reports
  · cases none
  · cases one

end Reporting

section Delivery

variable {mpi : Mpi} {process : Process} {reply : Reply} {status : Int}

/-- What a call with a status argument owes its caller. -/
structure Delivered (mpi : Mpi) (reply : Reply) (process : Process) (status : Int)
    (outputs : List Int) (final : Process) : Prop where
  ignored : status = process.sentinels.statusIgnore →
    final.statusPointers = process.statusPointers ++ [.ofArgument mpi.statusIgnore] ∧
      final.statusWords = process.statusWords
  delivered : status ≠ process.sentinels.statusIgnore → reply.rc = mpi.errorClass .success →
    reply.completed = true →
      final.statusWords (status + 8) = reply.status.mpiSource ∧
        final.statusWords (status + 12) = reply.status.mpiTag
  framed : ∀ location, location < status ∨ status + sizeofFMpiStatus ≤ location →
    final.statusWords location = process.statusWords location
  unwritten : ∀ location, location ∉ outputs → final.memory location = process.memory location

/-- However the library answers, the call returns and keeps these promises. -/
def DeliversStatus (mpi : Mpi) (callee : StatusCall) (process : Process) (status : Int) : Prop :=
  ∀ reply : Reply, mpi.Codes reply.rc →
    Run.Returns (callee.run mpi reply status) process fun _ =>
      Delivered mpi reply process status (callee.outputs mpi process.world.types)

private theorem statusWrites_within {location value : Int}
    (written : (location, value) ∈ statusWrites mpi reply (.ofArgument status)) :
    status ≤ location ∧ location < status + sizeofFMpiStatus := by
  rw [statusWrites] at written
  split_ifs at written
  · obtain ⟨k, found, rfl⟩ := mem_wordsAt.mp written
    have inside := (List.getElem?_eq_some_iff.mp found).1
    rw [length_words] at inside
    simp only [sizeofFMpiStatus]
    cases layout : mpi.statusAbi with
    | mpich =>
        simp only [layout] at inside
        omega
    | openMpi =>
        simp only [layout] at inside
        omega
  · cases written

private theorem statusWrites_statusIgnore : statusWrites mpi reply (.ofArgument mpi.statusIgnore) =
    [] :=
  if_neg fun condition => condition.2 rfl

theorem PassedThrough.delivered {outputs : List Int} {final : Process}
    (passed : PassedThrough mpi reply process (statusPointer mpi process status) outputs final)
    (layout : mpi.statusAbi = .mpich) (real : status ≠ mpi.statusIgnore) :
    Delivered mpi reply process status outputs final where
  ignored := by
    intro ignored
    have pointer : statusPointer mpi process status = .ofArgument mpi.statusIgnore :=
      if_pos ignored
    rw [pointer] at passed
    exact ⟨passed.pointers, by rw [passed.words, statusWrites_statusIgnore, Memory.writeAll_nil]⟩
  delivered := by
    intro unignored _ completed
    have shown := (words_visible_iff mpi.statusAbi process.statusWords status).mpr layout
      reply.status
    have words := passed.words
    rw [statusPointer, if_neg unignored, statusWrites, if_pos ⟨completed, real⟩] at words
    rw [← words] at shown
    exact ⟨congrArg PublicFields.mpiSource shown, congrArg PublicFields.mpiTag shown⟩
  framed := by
    intro location outside
    rw [passed.words]
    apply Memory.writeAll_of_not_mem
    intro written
    obtain ⟨⟨place, value⟩, member, rfl⟩ := List.mem_map.mp written
    rw [statusPointer] at member
    split_ifs at member with ignored
    · rw [statusWrites_statusIgnore] at member
      cases member
    · have within := statusWrites_within member
      omega
  unwritten := passed.frame

/-- The library gets a local status where the caller wants none, and the status variable
of a caller who wants one keeps its source. -/
def Withheld (process : Process) (status : Int) (final : Process) : Prop :=
  if status = process.sentinels.statusIgnore then
    final.statusPointers = process.statusPointers ++ [.ofLocal]
  else final.statusWords (status + 8) = process.statusWords (status + 8)

private theorem cMpiProbe_withheld (succeeded : reply.rc = mpi.errorClass .success)
    (source tag commF : Int) :
    Run.Returns (effect (cMpiProbe mpi reply source tag commF status)) process fun _ =>
      Withheld process status := by
  rw [effect, cMpiProbe]
  simp only [bind_assoc]
  refine Run.returns_bind_of_returned rfl ?_
  by_cases ignored : status = process.sentinels.statusIgnore
  · simp only [ignored, decide_true, if_true, bind_assoc]
    refine Run.returns_bind_of_returned rfl (Run.returns_bind_of_returned rfl ?_)
    rw [succeeded]
    refine Run.returns_bind_of_returned (call_of_returned (cMpiRcFix_success _)) ?_
    refine Run.returns_pure ?_
    rw [Withheld, if_pos rfl]
  · simp only [ignored, decide_false, Bool.false_eq_true, if_false]
    refine Run.returns_bind_of_returned rfl ?_
    rw [succeeded]
    refine Run.returns_bind_of_returned (call_of_returned (cMpiRcFix_success _)) ?_
    refine Run.returns_pure ?_
    rw [Withheld, if_neg ignored]
    simp only [statusWrites_statusIgnore, Memory.writeAll_nil]

private theorem cMpiRequestGetStatus_withheld (succeeded : reply.rc = mpi.errorClass .success)
    (requestF : Int) :
    Run.Returns (effect (cMpiRequestGetStatus mpi reply requestF status)) process fun _ =>
      Withheld process status := by
  rw [effect, cMpiRequestGetStatus]
  simp only [bind_assoc]
  refine Run.returns_bind_of_returned rfl ?_
  rw [succeeded]
  refine Run.returns_bind_of_returned (call_of_returned (cMpiRcFix_success _)) ?_
  refine Run.returns_bind_of_returned rfl (Run.returns_pure ?_)
  rw [Withheld]
  split_ifs
  · rfl
  · -- the code lands in the first word
    have apart : status + 8 ≠ status := by omega
    exact Function.update_of_ne apart _ _

private theorem not_delivers_of_withheld {callee : StatusCall}
    (withheld : ∀ reply : Reply, reply.rc = mpi.errorClass .success →
      Run.Returns (callee.run mpi reply status) process fun _ => Withheld process status) :
    ¬ DeliversStatus mpi callee process status := by
  intro delivers
  let reply : Reply := { successfulReply with
    rc := mpi.errorClass .success
    status := markedStatus (process.statusWords (status + 8)) }
  obtain ⟨value, final, returned, kept⟩ := withheld reply rfl
  obtain ⟨other, last, alsoReturned, promises⟩ := delivers reply (Or.inl rfl)
  rw [returned] at alsoReturned
  cases alsoReturned
  rw [Withheld] at kept
  split_ifs at kept with ignored
  · have pointers := (promises.ignored ignored).1
    rw [kept] at pointers
    simp at pointers
  · have source := (promises.delivered ignored rfl rfl).1
    rw [kept] at source
    simp only [reply, markedStatus] at source
    omega

/-- Every routine that passes its status argument to the library delivers the status;
`MPI_Probe`, which tests for the sentinel the wrong way round, and
`MPI_Request_get_status`, which takes the status by value, do for no address. -/
theorem deliversStatus_iff {callee : StatusCall} (layout : mpi.statusAbi = .mpich)
    (real : status ≠ mpi.statusIgnore) (basic : process.world.types.Basic mpi)
    (admissible : callee.Admissible mpi process.world.types) :
    DeliversStatus mpi callee process status ↔ callee.PassesThrough := by
  constructor
  · intro delivers
    cases callee with
    | probe source tag commF =>
        refine not_delivers_of_withheld (fun reply succeeded => ?_) delivers
        exact cMpiProbe_withheld succeeded source tag commF
    | requestGetStatus requestF =>
        refine not_delivers_of_withheld (fun reply succeeded => ?_) delivers
        exact cMpiRequestGetStatus_withheld succeeded requestF
    | _ => trivial
  · intro passes reply coded
    exact (run_of_passesThrough coded basic admissible passes).mono fun _ final passed =>
      passed.delivered layout real

/-- A probe for a message from rank 1 leaves the caller's status as it was. -/
theorem deliversStatus_probe :
    ∃ final, effect (cMpiProbe mpich twoCompletions 1 5 0 2000) startProcess =
        .returned ((), final) ∧
      final.statusWords (2000 + 8) ≠ twoCompletions.status.mpiSource := by
  have run : (effect (cMpiProbe mpich twoCompletions 1 5 0 2000) startProcess >>=
      fun result => .returned (result.2.statusWords (2000 + 8))) = .returned 0 := by
    decide +kernel
  obtain ⟨⟨⟨⟩, final⟩, returned, word⟩ := Outcome.bind_eq_returned.mp run
  refine ⟨final, returned, ?_⟩
  rw [Outcome.returned.inj word]
  decide

theorem deliversStatus_recv :
    DeliversStatus mpich (.recv 4096 1 fortranInteger 1 5 0) startProcess 2000 :=
  (@deliversStatus_iff mpich startProcess 2000 (.recv 4096 1 fortranInteger 1 5 0) rfl (by decide)
    predefinedTypes_basic trivial).mpr trivial

end Delivery

end Vapaa
