import Vapaa.SectionArguments

/-! Sections that are sent, received, or both. -/

set_option autoImplicit false

namespace Vapaa

open Foundation

section Issuing

variable {α : Type} {mpi : Mpi} {reply : Reply} {process : Process}

/-- The run returns and has asked the library for one thing, of the given kind. -/
def Issues (run : Wrapper α) (process : Process) (describes : Issued → Prop) : Prop :=
  ∃ value final issued, run process = .returned (value, final) ∧
    final.issued = process.issued ++ [issued] ∧ describes issued

/-- A library call: what it was asked for, and no change of datatypes. -/
def LibraryCall (run : Wrapper Int) (process : Process) (rc : Int) (issued : Issued) : Prop :=
  ∃ final, run process = .returned (rc, final) ∧ final.world = process.world ∧
    final.issued = process.issued ++ [issued]

private theorem mpiSend_issues (buf count datatype dest tag comm : Int) :
    LibraryCall (mpiSend reply buf count datatype dest tag comm) process reply.rc
      (.send (process.world.types.buffer buf count datatype) dest tag comm) :=
  ⟨_, rfl, rfl, rfl⟩

private theorem mpiRecv_issues (buf count datatype source tag comm status : Int) :
    LibraryCall (do
        mpiRecv mpi reply buf count datatype source tag comm (← statusArgument mpi status))
      process reply.rc
      (.recv (process.world.types.buffer buf count datatype) source tag comm) := by
  rw [LibraryCall, Run.bind_of_returned (statusArgument_apply mpi status process)]
  exact ⟨_, rfl, rfl, rfl⟩

private theorem mpiSendrecv_issues
    (sendbuf sendcount sendtype dest sendtag recvbuf recvcount recvtype source recvtag comm
      status : Int) :
    LibraryCall (do
        mpiSendrecv mpi reply sendbuf sendcount sendtype dest sendtag recvbuf recvcount recvtype
          source recvtag comm (← statusArgument mpi status))
      process reply.rc
      (.sendrecv (process.world.types.buffer sendbuf sendcount sendtype) dest sendtag
        (process.world.types.buffer recvbuf recvcount recvtype) source recvtag comm) := by
  rw [LibraryCall, Run.bind_of_returned (statusArgument_apply mpi status process)]
  exact ⟨_, rfl, rfl, rfl⟩

/-- The conversion of the return code ends every wrapper and asks for nothing. -/
theorem issues_iff_of_returned {run : Wrapper Int} {final : Process} {rc : Int} {issued : Issued}
    {describes : Issued → Prop} (coded : mpi.Codes rc)
    (returned : run process = .returned (rc, final))
    (asked : final.issued = process.issued ++ [issued]) :
    Issues (run >>= fun ierror => call (cMpiRcFix mpi ierror)) process describes ↔
      describes issued := by
  obtain ⟨ierror, world, fixed, -⟩ := @cMpiRcFix_returned mpi final.world rc coded
  have ended : (run >>= fun ierror => call (cMpiRcFix mpi ierror)) process =
      .returned (ierror, { final with world := world }) := by
    rw [Run.bind_of_returned returned]
    exact call_of_returned fixed
  constructor
  · rintro ⟨value, last, other, result, alsoAsked, described⟩
    rw [ended] at result
    cases result
    have same := List.append_cancel_left (asked.symm.trans alsoAsked)
    rwa [List.singleton_inj.mp same]
  · intro described
    exact ⟨ierror, _, issued, ended, asked, described⟩

end Issuing

section Transfers

variable {mpi : Mpi} {reply : Reply} {process : Process} {desc : CDesc} {count : Nat}
variable {datatypeF commF : Int}

/-- A section is sent and received element by element, in array element order. -/
theorem withSection_issues {communicate : Int → Int → Int → Wrapper Int}
    {asks : Buffer → Issued} (coded : mpi.Codes reply.rc)
    (basic : process.world.types.Basic mpi)
    (argument : desc.Matches mpi process.world.types (cMpiTypeF2c mpi datatypeF) count)
    (acceptable : mpi.cfiIsContiguous desc ≠ 1 → desc.Accepted mpi process.world.types count)
    (library : ∀ address count datatype process,
      LibraryCall (communicate address count datatype) process reply.rc
        (asks (process.world.types.buffer address count datatype))) :
    Issues (do
        let ierror ← withSection mpi desc count (cMpiTypeF2c mpi datatypeF) communicate
        call (cMpiRcFix mpi ierror)) process
      fun issued => ∃ buffer, issued = asks buffer ∧
        buffer.Carries (desc.elementBytes count) := by
  obtain ⟨passedCount, passedType, opened, carries, passes⟩ :=
    withSection_passes basic argument acceptable
  obtain ⟨middle, asked, same, issued⟩ :=
    library desc.baseAddr passedCount passedType { process with world := opened }
  obtain ⟨world, returned, -⟩ := passes communicate reply.rc middle asked same
  exact (issues_iff_of_returned coded returned issued).mpr ⟨_, rfl, carries⟩

private theorem cfiMpiSend_issues {dest tag : Int} (coded : mpi.Codes reply.rc)
    (basic : process.world.types.Basic mpi)
    (argument : desc.Matches mpi process.world.types (cMpiTypeF2c mpi datatypeF) count)
    (acceptable : mpi.cfiIsContiguous desc ≠ 1 → desc.Accepted mpi process.world.types count) :
    Issues (cfiMpiSend mpi reply desc count datatypeF dest tag commF) process fun issued =>
      ∃ buffer, issued = .send buffer dest tag (cMpiCommF2c mpi commF) ∧
        buffer.Carries (desc.elementBytes count) :=
  @withSection_issues mpi reply process desc count datatypeF _
    (fun buffer => .send buffer dest tag (cMpiCommF2c mpi commF)) coded basic argument acceptable
    fun _ _ _ _ => mpiSend_issues _ _ _ _ _ _

private theorem cfiMpiRecv_issues {source tag status : Int}
    (coded : mpi.Codes reply.rc) (basic : process.world.types.Basic mpi)
    (argument : desc.Matches mpi process.world.types (cMpiTypeF2c mpi datatypeF) count)
    (acceptable : mpi.cfiIsContiguous desc ≠ 1 → desc.Accepted mpi process.world.types count) :
    Issues (cfiMpiRecv mpi reply desc count datatypeF source tag commF status) process
      fun issued => ∃ buffer, issued = .recv buffer source tag (cMpiCommF2c mpi commF) ∧
        buffer.Carries (desc.elementBytes count) :=
  @withSection_issues mpi reply process desc count datatypeF _
    (fun buffer => .recv buffer source tag (cMpiCommF2c mpi commF)) coded basic argument
    acceptable fun _ _ _ _ => mpiRecv_issues _ _ _ _ _ _ _

end Transfers

section Sendrecv

variable {mpi : Mpi} {reply : Reply} {process : Process} {sdesc rdesc : CDesc}
variable {scount rcount : Nat} {sdatatypeF dest stag rdatatypeF src rtag commF status : Int}

/-- What the branch of `CFI_MPI_Sendrecv` that the send section selects needs of the
receive section. -/
def CDesc.FollowsBranch (mpi : Mpi) (types : TypeStore) (sdesc rdesc : CDesc) (rcount : Nat) :
    Prop :=
  if mpi.cfiIsContiguous sdesc = 1 then rdesc.Consecutive rcount
  else rdesc.Accepted mpi types rcount

/-- The call passes the first elements of both sections. -/
def PassesBoth (mpi : Mpi) (reply : Reply) (process : Process) (sdesc : CDesc) (scount : Nat)
    (sdatatypeF dest stag : Int) (rdesc : CDesc) (rcount : Nat)
    (rdatatypeF src rtag commF status : Int) : Prop :=
  Issues (cfiMpiSendrecv mpi reply sdesc scount sdatatypeF dest stag rdesc rcount rdatatypeF src
      rtag commF status) process
    fun issued => ∃ sbuffer rbuffer,
      issued = .sendrecv sbuffer dest stag rbuffer src rtag (cMpiCommF2c mpi commF) ∧
        sbuffer.Carries (sdesc.elementBytes scount) ∧ rbuffer.Carries (rdesc.elementBytes rcount)

theorem cfiMpiSendrecv_of_contiguous (contiguous : mpi.cfiIsContiguous sdesc = 1)
    (scount rcount : Int) :
    cfiMpiSendrecv mpi reply sdesc scount sdatatypeF dest stag rdesc rcount rdatatypeF src rtag
        commF status =
      ((do
          mpiSendrecv mpi reply sdesc.baseAddr scount (cMpiTypeF2c mpi sdatatypeF) dest stag
            rdesc.baseAddr rcount (cMpiTypeF2c mpi rdatatypeF) src rtag (cMpiCommF2c mpi commF)
            (← statusArgument mpi status)) >>=
        fun ierror => call (cMpiRcFix mpi ierror)) := by
  rw [cfiMpiSendrecv, sendrecvWith, if_pos ⟨contiguous, contiguous⟩]

theorem cfiMpiSendrecv_of_scattered (scattered : mpi.cfiIsContiguous sdesc ≠ 1)
    (scount rcount : Int) :
    cfiMpiSendrecv mpi reply sdesc scount sdatatypeF dest stag rdesc rcount rdatatypeF src rtag
        commF status =
      (openSubarray mpi sdesc scount (cMpiTypeF2c mpi sdatatypeF) (mpi.datatype .datatypeNull)
          (fun subarrayTypeS =>
            openSubarray mpi rdesc rcount (cMpiTypeF2c mpi rdatatypeF)
              (mpi.datatype .datatypeNull) fun subarrayTypeR => do
                let ierror ← mpiSendrecv mpi reply sdesc.baseAddr 1 subarrayTypeS dest stag
                  rdesc.baseAddr 1 subarrayTypeR src rtag (cMpiCommF2c mpi commF)
                  (← statusArgument mpi status)
                closeSubarray mpi subarrayTypeS
                  (closeSubarray mpi subarrayTypeR (return ierror))) >>=
        fun ierror => call (cMpiRcFix mpi ierror)) := by
  rw [cfiMpiSendrecv, sendrecvWith, if_neg (fun both => scattered both.1)]
  rfl

private theorem passesBoth_of_contiguous (coded : mpi.Codes reply.rc)
    (sends : sdesc.Matches mpi process.world.types (cMpiTypeF2c mpi sdatatypeF) scount)
    (receives : rdesc.Matches mpi process.world.types (cMpiTypeF2c mpi rdatatypeF) rcount)
    (contiguous : mpi.cfiIsContiguous sdesc = 1) :
    PassesBoth mpi reply process sdesc scount sdatatypeF dest stag rdesc rcount rdatatypeF src
      rtag commF status ↔ rdesc.Consecutive rcount := by
  obtain ⟨middle, returned, -, asked⟩ := @mpiSendrecv_issues mpi reply process sdesc.baseAddr
    scount (cMpiTypeF2c mpi sdatatypeF) dest stag rdesc.baseAddr rcount
    (cMpiTypeF2c mpi rdatatypeF) src rtag (cMpiCommF2c mpi commF) status
  rw [PassesBoth, cfiMpiSendrecv_of_contiguous contiguous,
    issues_iff_of_returned coded returned asked]
  constructor
  · rintro ⟨sbuffer, rbuffer, same, -, carries⟩
    cases same
    exact receives.carries_iff.mp carries
  · intro consecutive
    exact ⟨_, _, rfl, sends.carries contiguous (le_refl _), receives.carries_iff.mpr consecutive⟩

private theorem passesBoth_of_scattered (coded : mpi.Codes reply.rc)
    (basic : process.world.types.Basic mpi)
    (sends : sdesc.Matches mpi process.world.types (cMpiTypeF2c mpi sdatatypeF) scount)
    (receives : rdesc.Matches mpi process.world.types (cMpiTypeF2c mpi rdatatypeF) rcount)
    (scattered : mpi.cfiIsContiguous sdesc ≠ 1)
    (sendable : sdesc.Accepted mpi process.world.types scount)
    (receivable : rdesc.Accepted mpi process.world.types rcount) :
    PassesBoth mpi reply process sdesc scount sdatatypeF dest stag rdesc rcount rdatatypeF src
      rtag commF status := by
  obtain ⟨shandle, opened, sdescribed, opensS⟩ := openSubarray_of_accepted
    (mpi.datatype .datatypeNull) basic sends sendable
  obtain ⟨slayout, screates⟩ := sdescribed.creates
  let middle : Process := { process with world := opened }
  have rbasic : middle.world.types.Basic mpi := basic.of_creates screates
  obtain ⟨rhandle, both, rdescribed, opensR⟩ := openSubarray_of_accepted
    (mpi.datatype .datatypeNull) rbasic (receives.of_creates screates)
    ((CDesc.accepted_iff_of_creates basic screates).mpr receivable)
  obtain ⟨rlayout, rcreates⟩ := rdescribed.creates
  obtain ⟨final, returned, same, asked⟩ := @mpiSendrecv_issues mpi reply
    { process with world := both } sdesc.baseAddr 1 shandle dest stag rdesc.baseAddr 1 rhandle
    src rtag (cMpiCommF2c mpi commF) status
  have slive := rcreates.keeps screates.live
  have distinct : rhandle ≠ shandle := by
    intro equal
    have unused := rcreates.unused
    rw [equal, screates.live] at unused
    cases unused
  have scarries : (both.types.buffer sdesc.baseAddr 1 shandle).Carries
      (sdesc.elementBytes scount) := by
    have kept : both.types.object shandle = opened.types.object shandle :=
      rcreates.others shandle distinct.symm
    rw [TypeStore.buffer, kept]
    exact sdescribed.carries
  rw [Run.bind_of_returned (statusArgument_apply mpi status _)] at returned
  have sclosed := @closeSubarray_of_live Int mpi final shandle slayout true (by rw [same, slive])
  have rlive : (final.world.types.remove shandle).object rhandle =
      some { combiner := .derived, layout := rlayout, committed := true } := by
    rw [TypeStore.remove_object_of_ne _ distinct, same]
    exact rcreates.live
  let sfreed : Process := { final with world :=
    { final.world with types := final.world.types.remove shandle } }
  let freed : Process := { sfreed with world :=
    { sfreed.world with types := sfreed.world.types.remove rhandle } }
  have rclosed := @closeSubarray_of_live Int mpi sfreed rhandle rlayout true rlive
  rw [PassesBoth, cfiMpiSendrecv_of_scattered scattered]
  refine (@issues_iff_of_returned mpi process _ freed reply.rc _ _ coded ?_ asked).mpr
    ⟨_, _, rfl, scarries, rdescribed.carries⟩
  rw [opensS, opensR, Run.bind_of_returned (statusArgument_apply mpi status _),
    Run.bind_of_returned returned, sclosed, rclosed]
  rfl

private theorem passesBoth_accepted (basic : process.world.types.Basic mpi)
    (sends : sdesc.Matches mpi process.world.types (cMpiTypeF2c mpi sdatatypeF) scount)
    (receives : rdesc.Matches mpi process.world.types (cMpiTypeF2c mpi rdatatypeF) rcount)
    (scattered : mpi.cfiIsContiguous sdesc ≠ 1)
    (sendable : sdesc.Accepted mpi process.world.types scount) (active : mpi.seatbelts = true)
    (passes : PassesBoth mpi reply process sdesc scount sdatatypeF dest stag rdesc rcount
      rdatatypeF src rtag commF status) : rdesc.Accepted mpi process.world.types rcount := by
  by_contra rejected
  obtain ⟨shandle, opened, sdescribed, opensS⟩ := openSubarray_of_accepted
    (mpi.datatype .datatypeNull) basic sends sendable
  obtain ⟨slayout, screates⟩ := sdescribed.creates
  let middle : Process := { process with world := opened }
  have stopped : ¬ rdesc.Accepted mpi middle.world.types rcount :=
    fun accepted => rejected ((CDesc.accepted_iff_of_creates basic screates).mp accepted)
  have rbasic : middle.world.types.Basic mpi := basic.of_creates screates
  obtain ⟨ierror, final, issued, returned, -⟩ := passes
  rw [cfiMpiSendrecv_of_scattered scattered, Run.bind_eq_returned] at returned
  obtain ⟨rc, last, sent, -⟩ := returned
  rw [opensS] at sent
  exact openSubarray_of_rejected _ rbasic (receives.of_creates screates) active stopped _ rc last
    sent

/-- One branch condition serves both sections: the call passes the receive section
only where the branch that the send section selects suits it as well. A separate
receive, or a separate send, passes its section in any case. -/
theorem cfiMpiSendrecv_passes (coded : mpi.Codes reply.rc)
    (basic : process.world.types.Basic mpi)
    (sends : sdesc.Matches mpi process.world.types (cMpiTypeF2c mpi sdatatypeF) scount)
    (receives : rdesc.Matches mpi process.world.types (cMpiTypeF2c mpi rdatatypeF) rcount)
    (sendable : mpi.cfiIsContiguous sdesc ≠ 1 → sdesc.Accepted mpi process.world.types scount)
    (receivable : mpi.cfiIsContiguous rdesc ≠ 1 →
      rdesc.Accepted mpi process.world.types rcount) :
    (Issues (cfiMpiSend mpi reply sdesc scount sdatatypeF dest stag commF) process fun issued =>
      ∃ buffer, issued = .send buffer dest stag (cMpiCommF2c mpi commF) ∧
        buffer.Carries (sdesc.elementBytes scount)) ∧
    (Issues (cfiMpiRecv mpi reply rdesc rcount rdatatypeF src rtag commF status) process
      fun issued => ∃ buffer, issued = .recv buffer src rtag (cMpiCommF2c mpi commF) ∧
        buffer.Carries (rdesc.elementBytes rcount)) ∧
    (CDesc.FollowsBranch mpi process.world.types sdesc rdesc rcount →
      PassesBoth mpi reply process sdesc scount sdatatypeF dest stag rdesc rcount rdatatypeF src
        rtag commF status) ∧
    (mpi.seatbelts = true →
      PassesBoth mpi reply process sdesc scount sdatatypeF dest stag rdesc rcount rdatatypeF src
        rtag commF status →
      CDesc.FollowsBranch mpi process.world.types sdesc rdesc rcount) := by
  refine ⟨cfiMpiSend_issues coded basic sends sendable,
    cfiMpiRecv_issues coded basic receives receivable, ?_, ?_⟩
  · intro follows
    by_cases contiguous : mpi.cfiIsContiguous sdesc = 1
    · rw [CDesc.FollowsBranch, if_pos contiguous] at follows
      exact (passesBoth_of_contiguous coded sends receives contiguous).mpr follows
    · rw [CDesc.FollowsBranch, if_neg contiguous] at follows
      exact passesBoth_of_scattered coded basic sends receives contiguous (sendable contiguous)
        follows
  · intro active passes
    by_cases contiguous : mpi.cfiIsContiguous sdesc = 1
    · rw [CDesc.FollowsBranch, if_pos contiguous]
      exact (passesBoth_of_contiguous coded sends receives contiguous).mp passes
    · rw [CDesc.FollowsBranch, if_neg contiguous]
      exact passesBoth_accepted basic sends receives contiguous (sendable contiguous) active passes

end Sendrecv

/-- Integers that lie consecutively are sent, and every second one is received. -/
theorem cfiMpiSendrecv_passes_scattered :
    (integers 4096 2 4).Matches mpich predefinedTypes (cMpiTypeF2c mpich fortranInteger) 2 ∧
    (integers 8192 2 8).Matches mpich predefinedTypes (cMpiTypeF2c mpich fortranInteger) 2 ∧
    (integers 8192 2 8).Accepted mpich predefinedTypes 2 ∧
    ¬ PassesBoth mpich successfulReply startProcess (integers 4096 2 4) 2 fortranInteger 1 7
      (integers 8192 2 8) 2 fortranInteger 1 7 0 64 := by
  have sends : (integers 4096 2 4).Matches mpich predefinedTypes
      (cMpiTypeF2c mpich fortranInteger) 2 := integers_matches (by decide)
  have receives : (integers 8192 2 8).Matches mpich predefinedTypes
      (cMpiTypeF2c mpich fortranInteger) 2 := integers_matches (by decide)
  refine ⟨sends, receives, integers_accepted 8192 8 (by decide) (by decide), ?_⟩
  intro passes
  have consecutive := (@passesBoth_of_contiguous mpich successfulReply startProcess _ _ 2 2 _ 1 7
    _ 1 7 0 64 (Or.inl rfl) sends receives (by decide)).mp passes
  exact absurd consecutive (by decide)

/-- Every second integer is sent and every third received. -/
theorem cfiMpiSendrecv_passes_strided :
    PassesBoth mpich successfulReply startProcess (integers 4096 2 8) 2 fortranInteger 1 7
      (integers 8192 2 12) 2 fortranInteger 1 7 0 64 :=
  (@cfiMpiSendrecv_passes mpich successfulReply startProcess (integers 4096 2 8)
    (integers 8192 2 12) 2 2 fortranInteger 1 7 fortranInteger 1 7 0 64
    (Or.inl rfl) predefinedTypes_basic (integers_matches (by decide)) (integers_matches (by decide))
    (fun _ => integers_accepted 4096 8 (by decide) (by decide))
    (fun _ => integers_accepted 8192 12 (by decide) (by decide))).2.2.1
    (by
      rw [CDesc.FollowsBranch, if_neg (by decide)]
      exact integers_accepted 8192 12 (by decide) (by decide))

end Vapaa
