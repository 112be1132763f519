import Vapaa.StatusDelivery

/-!
# Error codes

Which codes Fortran callers of the point-to-point wrappers see.
-/

set_option autoImplicit false

namespace Vapaa

open Foundation

/-- Whether the library has the class. -/
def Mpi.knows (mpi : Mpi) (errorClass : ErrorClass) : Prop :=
  errorClass ∉ ErrorClass.sinceMpi4 ∨ mpi.mpiVersion4 = true

/-- The code for Fortran callers that belongs to a return code of the library: the
`VAPAA_MPI_` constant of its class. -/
def VapaaCode (mpi : Mpi) (rc code : Int) : Prop :=
  if rc = mpi.errorClass .success then code = ErrorClass.success.vapaa
  else ∃ error, mpi.errorClassOf rc = some error ∧
    ((∃ errorClass, mpi.knows errorClass ∧ mpi.errorClass errorClass = error ∧
        code = errorClass.vapaa) ∨
      (∀ errorClass, mpi.knows errorClass → mpi.errorClass errorClass ≠ error) ∧
        code = ErrorClass.errUnknown.vapaa)

section Translation

variable {mpi : Mpi} {process : Process} {rc : Int}

theorem mem_errorTable (errorClass : ErrorClass) : errorClass ∈ ErrorClass.table := by
  cases errorClass <;> decide

theorem cMpiErrorCodeC2f_code (failed : rc ≠ mpi.errorClass .success) (world : World) :
    Run.Ensures (cMpiErrorCodeC2f mpi rc) world fun code _ => VapaaCode mpi rc code := by
  rw [cMpiErrorCodeC2f]
  refine Run.ensures_bind_of_all fun _ middle => ?_
  cases classified : mpi.errorClassOf rc with
  | none => exact Run.ensures_bind_of_never (Run.ensures_of_undefined rfl)
  | some error =>
      refine Run.ensures_bind_of_returned (Run.readSet_some error middle) ?_
      cases found : errorClassFound mpi error with
      | some errorClass =>
          refine Run.ensures_pure ?_
          rw [VapaaCode, if_neg failed]
          have tested := List.find?_some found
          simp only [Bool.decide_and, Bool.and_eq_true, decide_eq_true_eq] at tested
          exact ⟨error, classified, Or.inl ⟨errorClass, tested.1, tested.2, rfl⟩⟩
      | none =>
          refine Run.ensures_bind_of_all fun _ _ => Run.ensures_pure ?_
          rw [VapaaCode, if_neg failed]
          refine ⟨error, classified, Or.inr ⟨fun errorClass known same => ?_, rfl⟩⟩
          have untested := List.find?_eq_none.mp found errorClass (mem_errorTable errorClass)
          simp only [Bool.decide_and, Bool.and_eq_true, decide_eq_true_eq] at untested
          exact untested ⟨known, same⟩

/-- `C_MPI_RC_FIX` makes the code that Fortran callers should see. -/
theorem cMpiRcFix_code (rc : Int) :
    Run.Ensures (call (cMpiRcFix mpi rc)) process fun code _ => VapaaCode mpi rc code := by
  have fixes : Run.Ensures (cMpiRcFix mpi rc) process.world fun code _ => VapaaCode mpi rc code := by
    rw [cMpiRcFix]
    split_ifs with failed
    · exact cMpiErrorCodeC2f_code failed process.world
    · refine Run.ensures_pure ?_
      rw [VapaaCode, if_pos (not_not.mp failed), not_not.mp failed, mpi.success_eq]
      rfl
  refine (call_ensures fixes).mono ?_
  rintro code final ⟨world, holds, -⟩
  exact holds

end Translation

section Packing

/-- `C_MPI_Pack` and `C_MPI_Unpack`, given the call of the library. -/
def packing (mpi : Mpi) (transfer : Wrapper (Int × Int)) : Wrapper (Int × Int) := do
  let (ierror, position) ← transfer
  return (position, ← call (cMpiRcFix mpi ierror))

/-- `CFI_MPI_Pack` and `CFI_MPI_Unpack`, given the call of the library. -/
def cfiPacking (mpi : Mpi) (warning : String) (packed : CDesc) (position : Int) (desc : CDesc)
    (count datatypeF : Int) (transfer : Int → Int → Int → Wrapper (Int × Int)) :
    Wrapper (Int × Int) :=
  packing mpi
    (if mpi.cfiIsContiguous packed = 0 then do
      call (vapaaWarning warning)
      return (mpi.errorClass .errArg, position)
    else withSection mpi desc count (cMpiTypeF2c mpi datatypeF) transfer)

variable (mpi : Mpi) (inbuf outbuf count datatypeF size position commF : Int)
variable (indesc outdesc : CDesc)

theorem cMpiPack_eq :
    cMpiPack mpi inbuf count datatypeF outbuf size position commF =
      packing mpi (mpiPack mpi inbuf count (cMpiTypeF2c mpi datatypeF) outbuf size position
        (cMpiCommF2c mpi commF)) := rfl

theorem cMpiUnpack_eq :
    cMpiUnpack mpi inbuf size position outbuf count datatypeF commF =
      packing mpi (mpiUnpack mpi inbuf size position outbuf count (cMpiTypeF2c mpi datatypeF)
        (cMpiCommF2c mpi commF)) := rfl

theorem cfiMpiPack_eq :
    cfiMpiPack mpi indesc count datatypeF outdesc size position commF =
      cfiPacking mpi "MPI_Pack requires the output buffer be contiguous.\n" outdesc position indesc
        count datatypeF fun inbuf count datatype =>
          mpiPack mpi inbuf count datatype outdesc.baseAddr size position
            (cMpiCommF2c mpi commF) := rfl

theorem cfiMpiUnpack_eq :
    cfiMpiUnpack mpi indesc size position outdesc count datatypeF commF =
      cfiPacking mpi "MPI_Unpack requires the input buffer be contiguous.\n" indesc position
        outdesc count datatypeF fun outbuf count datatype =>
          mpiUnpack mpi indesc.baseAddr size position outbuf count datatype
            (cMpiCommF2c mpi commF) := rfl

end Packing

/-- The routines of `mpi_p2p.c`, with their arguments; those that pack and unpack with
the call of the library as well. -/
inductive P2pCall where
  | probe (source tag commF status : Int)
  | mprobe (source tag commF status : Int)
  | test (requestF status : Int)
  | testall (count : Int) (requestsF : Nat → Int) (flagF statuses : Int)
  | testsome (incount : Int) (requestsF : Nat → Int) (outcountF : Int)
      (arrayOfIndices : List Int) (statuses : Int)
  | testany (count : Int) (requestsF : Nat → Int) (indexF flagF status : Int)
  | wait (requestF status : Int)
  | waitall (count : Int) (requestsF : Nat → Int) (statusesF : Int)
  | waitsome (incount : Int) (requestsF : Nat → Int) (outcountF : Int)
      (arrayOfIndices : List Int) (statuses : Int)
  | waitany (count : Int) (requestsF : Nat → Int) (indexF status : Int)
  | send (buffer count datatypeF dest tag commF : Int)
  | cfiSend (desc : CDesc) (count datatypeF dest tag commF : Int)
  | isend (buffer count datatypeF dest tag commF : Int)
  | cfiIsend (desc : CDesc) (count datatypeF dest tag commF : Int)
  | recv (buffer count datatypeF source tag commF status : Int)
  | cfiRecv (desc : CDesc) (count datatypeF source tag commF status : Int)
  | irecv (buffer count datatypeF source tag commF : Int)
  | cfiIrecv (desc : CDesc) (count datatypeF source tag commF : Int)
  | mrecv (buffer count datatypeF messageF status : Int)
  | cfiMrecv (desc : CDesc) (count datatypeF messageF status : Int)
  | imrecv (buffer count datatypeF messageF : Int)
  | cfiImrecv (desc : CDesc) (count datatypeF messageF : Int)
  | sendrecv (sbuffer scount sdatatypeF dest stag rbuffer rcount rdatatypeF src rtag commF
      status : Int)
  | cfiSendrecv (sdesc : CDesc) (scount sdatatypeF dest stag : Int) (rdesc : CDesc)
      (rcount rdatatypeF src rtag commF status : Int)
  | packing (transfer : Wrapper (Int × Int))
  | cfiPacking (warning : String) (packed : CDesc) (position : Int) (desc : CDesc)
      (count datatypeF : Int) (transfer : Int → Int → Int → Wrapper (Int × Int))

namespace P2pCall

/-- The final value of `*ierror`. -/
def ierror (mpi : Mpi) (reply : Reply) : P2pCall → Wrapper Int
  | probe source tag commF status => cMpiProbe mpi reply source tag commF status
  | mprobe source tag commF status => Prod.snd <$> cMpiMprobe mpi reply source tag commF status
  | test requestF status => (fun results => results.2.2) <$> cMpiTest mpi reply requestF status
  | testall count requestsF flagF statuses =>
      (fun results => results.2.2) <$> cMpiTestall mpi reply count requestsF flagF statuses
  | testsome incount requestsF outcountF arrayOfIndices statuses =>
      (fun results => results.2.2.2) <$>
        cMpiTestsome mpi reply incount requestsF outcountF arrayOfIndices statuses
  | testany count requestsF indexF flagF status =>
      (fun results => results.2.2.2) <$>
        cMpiTestany mpi reply count requestsF indexF flagF status
  | wait requestF status => Prod.snd <$> cMpiWait mpi reply requestF status
  | waitall count requestsF statusesF =>
      Prod.snd <$> cMpiWaitall mpi reply count requestsF statusesF
  | waitsome incount requestsF outcountF arrayOfIndices statuses =>
      (fun results => results.2.2.2) <$>
        cMpiWaitsome mpi reply incount requestsF outcountF arrayOfIndices statuses
  | waitany count requestsF indexF status =>
      (fun results => results.2.2) <$> cMpiWaitany mpi reply count requestsF indexF status
  | send buffer count datatypeF dest tag commF =>
      cMpiSend mpi reply buffer count datatypeF dest tag commF
  | cfiSend desc count datatypeF dest tag commF =>
      cfiMpiSend mpi reply desc count datatypeF dest tag commF
  | isend buffer count datatypeF dest tag commF =>
      Prod.snd <$> cMpiIsend mpi reply buffer count datatypeF dest tag commF
  | cfiIsend desc count datatypeF dest tag commF =>
      Prod.snd <$> cfiMpiIsend mpi reply desc count datatypeF dest tag commF
  | recv buffer count datatypeF source tag commF status =>
      cMpiRecv mpi reply buffer count datatypeF source tag commF status
  | cfiRecv desc count datatypeF source tag commF status =>
      cfiMpiRecv mpi reply desc count datatypeF source tag commF status
  | irecv buffer count datatypeF source tag commF =>
      Prod.snd <$> cMpiIrecv mpi reply buffer count datatypeF source tag commF
  | cfiIrecv desc count datatypeF source tag commF =>
      Prod.snd <$> cfiMpiIrecv mpi reply desc count datatypeF source tag commF
  | mrecv buffer count datatypeF messageF status =>
      Prod.snd <$> cMpiMrecv mpi reply buffer count datatypeF messageF status
  | cfiMrecv desc count datatypeF messageF status =>
      Prod.snd <$> cfiMpiMrecv mpi reply desc count datatypeF messageF status
  | imrecv buffer count datatypeF messageF =>
      (fun results => results.2.2) <$> cMpiImrecv mpi reply buffer count datatypeF messageF
  | cfiImrecv desc count datatypeF messageF =>
      (fun results => results.2.2) <$> cfiMpiImrecv mpi reply desc count datatypeF messageF
  | sendrecv sbuffer scount sdatatypeF dest stag rbuffer rcount rdatatypeF src rtag commF status =>
      cMpiSendrecv mpi reply sbuffer scount sdatatypeF dest stag rbuffer rcount rdatatypeF src rtag
        commF status
  | cfiSendrecv sdesc scount sdatatypeF dest stag rdesc rcount rdatatypeF src rtag commF status =>
      cfiMpiSendrecv mpi reply sdesc scount sdatatypeF dest stag rdesc rcount rdatatypeF src rtag
        commF status
  | packing transfer => Prod.snd <$> Vapaa.packing mpi transfer
  | cfiPacking warning packed position desc count datatypeF transfer =>
      Prod.snd <$>
        Vapaa.cfiPacking mpi warning packed position desc count datatypeF transfer

/-- The code of the underlying call, or the one that the routine sets in its place. -/
def Code (mpi : Mpi) (reply : Reply) (process : Process) : P2pCall → Int → Prop
  | testall count _ _ _, rc =>
      rc = if allocatesRequests mpi count then reply.rc else mpi.errorClass .errOther
  | testsome incount _ _ _ _, rc =>
      rc = if allocatesRequests mpi incount then reply.rc else mpi.errorClass .errOther
  | testany count _ _ _ _, rc =>
      rc = if allocatesRequests mpi count then reply.rc else mpi.errorClass .errOther
  | waitall count _ statusesF, rc =>
      rc = if allocatesRequests mpi count = true ∧
          (statusesF = process.sentinels.statusesIgnore ∨
            mpi.allocates (toSizeT (count * sizeofStatus mpi.statusAbi)) = true) then reply.rc
        else mpi.errorClass .errOther
  | waitsome incount _ _ _ _, rc =>
      rc = if allocatesRequests mpi incount then reply.rc else mpi.errorClass .errOther
  | waitany count _ _ _, rc =>
      rc = if allocatesRequests mpi count then reply.rc else mpi.errorClass .errOther
  | packing transfer, rc =>
      ∃ position middle, transfer process = .returned ((rc, position), middle)
  | cfiPacking _ packed _ desc count datatypeF transfer, rc =>
      if mpi.cfiIsContiguous packed = 0 then rc = mpi.errorClass .errArg
      else ∃ position middle, withSection mpi desc count (cMpiTypeF2c mpi datatypeF) transfer
        process = .returned ((rc, position), middle)
  | _, rc => rc = reply.rc

/-- Where a routine leaves the code as it is, the numbers of the library agree. -/
def Agrees (mpi : Mpi) (reply : Reply) : P2pCall → Prop
  | testany count _ _ _ _ =>
      allocatesRequests mpi count = true → VapaaCode mpi reply.rc reply.rc
  | _ => True

end P2pCall

section Answers

variable {α : Type} {mpi : Mpi} {reply : Reply} {process : Process} {run : Wrapper Int} {rc : Int}

/-- Whatever the run returns is the code. -/
def Answers (run : Wrapper Int) (rc : Int) : Prop :=
  ∀ process, Run.Ensures run process fun value _ => value = rc

private theorem answers_of_returned {effect : Process → Process}
    (returned : ∀ process, run process = .returned (rc, effect process)) : Answers run rc :=
  fun process => Run.ensures_of_returned (returned process) rfl

theorem Answers.after {first : Wrapper α} {next : α → Wrapper Int}
    (answers : ∀ value, Answers (next value) rc) : Answers (first >>= next) rc :=
  fun _ => Run.ensures_bind_of_all fun value middle => answers value middle

private theorem ensures_withSection {desc : CDesc} {count datatype : Int} {post : α → Prop}
    {communicate : Int → Int → Int → Wrapper α}
    (ensures : ∀ buffer count datatype process,
      Run.Ensures (communicate buffer count datatype) process fun value _ => post value) :
    Run.Ensures (withSection mpi desc count datatype communicate) process
      fun value _ => post value := by
  rw [withSection]
  split_ifs
  · exact ensures _ _ _ _
  · refine Run.ensures_bind_of_all fun created _ => ?_
    refine Run.ensures_bind_of_all fun _ _ => Run.ensures_bind_of_all fun _ _ => ?_
    refine Run.ensures_bind_of_all fun _ _ => (ensures _ _ _ _).bind fun value _ holds => ?_
    refine Run.ensures_bind_of_all fun freed _ => ?_
    exact Run.ensures_bind_of_all fun _ _ => Run.ensures_pure holds

private theorem answers_withSection {desc : CDesc} {count datatype : Int}
    {communicate : Int → Int → Int → Wrapper Int}
    (answers : ∀ buffer count datatype, Answers (communicate buffer count datatype) rc) :
    Answers (withSection mpi desc count datatype communicate) rc :=
  fun _ => ensures_withSection fun buffer count datatype process =>
    answers buffer count datatype process

theorem Answers.fixed (answers : Answers run rc) :
    Run.Ensures (run >>= fun ierror => call (cMpiRcFix mpi ierror)) process
      fun code _ => VapaaCode mpi rc code := by
  refine (answers process).bind ?_
  rintro ierror middle rfl
  exact cMpiRcFix_code ierror

private theorem fixed_code {result : Int → α} {get : α → Int}
    (gets : ∀ code, get (result code) = code) :
    Run.Ensures (get <$> (do return result (← call (cMpiRcFix mpi rc)))) process
      fun code _ => VapaaCode mpi rc code := by
  refine Run.ensures_map ((cMpiRcFix_code rc).bind fun code final coded => Run.ensures_pure ?_)
  rw [gets]
  exact coded

theorem Answers.fixed_with {result : Int → α} {get : α → Int} (answers : Answers run rc)
    (gets : ∀ code, get (result code) = code) :
    Run.Ensures (get <$> (run >>= fun ierror => do return result (← call (cMpiRcFix mpi ierror))))
      process fun code _ => VapaaCode mpi rc code := by
  rw [map_bind]
  refine (answers process).bind ?_
  rintro ierror middle rfl
  exact fixed_code gets

private theorem answers_completeOne (completion : Completion) (requests : List Int) (status : Int) :
    Answers (statusArgument mpi status >>= fun pointer =>
      completeOne mpi reply completion requests pointer) reply.rc :=
  Answers.after fun _ => answers_of_returned fun _ => rfl

private theorem answers_completeArray (completion : Completion) (requests : List Int)
    (statuses : Int) :
    Answers (statusesArgument mpi statuses >>= fun pointer =>
      completeArray mpi reply completion requests pointer) reply.rc :=
  Answers.after fun _ => answers_of_returned fun _ => rfl

end Answers

section Routines

variable {mpi : Mpi} {reply : Reply} {process : Process}

theorem P2pCall.coded {callee : P2pCall} {rc : Int} (code : callee.Code mpi reply process rc)
    (agrees : callee.Agrees mpi reply)
    (ensures : Run.Ensures (callee.ierror mpi reply) process fun code _ => VapaaCode mpi rc code) :
    Run.Ensures (callee.ierror mpi reply) process fun code _ =>
      ∃ rc, callee.Code mpi reply process rc ∧
        (VapaaCode mpi rc code ↔ callee.Agrees mpi reply) :=
  ensures.mono fun _ _ coded => ⟨rc, code, iff_of_true coded agrees⟩

/-- Arrays of requests that cannot be allocated are an error of the routine's own. -/
theorem ensures_allocated {α : Type} {count : Int} {run failing : Wrapper α} {get : α → Int}
    (succeeds : Run.Ensures (get <$> run) process fun code _ => VapaaCode mpi reply.rc code)
    (fails : Run.Ensures (get <$> failing) process fun code _ =>
      VapaaCode mpi (mpi.errorClass .errOther) code) :
    Run.Ensures (get <$> (if allocatesRequests mpi count then run else failing)) process
      fun code _ => VapaaCode mpi
        (if allocatesRequests mpi count then reply.rc else mpi.errorClass .errOther) code := by
  split_ifs
  · exact succeeds
  · exact fails

private theorem cMpiTestany_code (count : Int) (requestsF : Nat → Int) (indexF flagF status : Int) :
    Run.Ensures ((fun results => results.2.2.2) <$>
        cMpiTestany mpi reply count requestsF indexF flagF status) process fun code _ =>
      ∃ rc, (P2pCall.testany count requestsF indexF flagF status).Code mpi reply process rc ∧
        (VapaaCode mpi rc code ↔
          (P2pCall.testany count requestsF indexF flagF status).Agrees mpi reply) := by
  rw [cMpiTestany]
  simp only [P2pCall.Code, P2pCall.Agrees, exists_eq_left]
  split_ifs with allocated
  · refine Run.ensures_map ?_
    rw [← bind_assoc]
    refine (answers_completeOne _ _ _ process).bind ?_
    rintro ierror middle rfl
    exact Run.ensures_pure (by simp only [allocated, true_implies])
  · refine (fixed_code fun _ => rfl).mono fun code final coded => ?_
    exact iff_of_true coded fun same => absurd same allocated

private theorem cMpiWaitall_code (count : Int) (requestsF : Nat → Int) (statusesF : Int) :
    Run.Ensures (Prod.snd <$> cMpiWaitall mpi reply count requestsF statusesF) process
      fun code _ => ∃ rc,
        (P2pCall.waitall count requestsF statusesF).Code mpi reply process rc ∧
          VapaaCode mpi rc code := by
  rw [cMpiWaitall]
  simp only [P2pCall.Code, exists_eq_left]
  by_cases allocated : allocatesRequests mpi count = true
  · simp only [allocated, true_and, if_true]
    refine Run.ensures_map (Run.ensures_bind_of_returned rfl ?_)
    by_cases ignored : statusesF = process.sentinels.statusesIgnore
    · simp only [ignored, decide_true, true_or, if_true]
      refine Run.ensures_bind_of_returned rfl ?_
      exact (cMpiRcFix_code _).bind fun _ _ coded => Run.ensures_pure coded
    · simp only [ignored, decide_false, Bool.false_eq_true, false_or, if_false]
      split_ifs
      · refine Run.ensures_bind_of_returned rfl (Run.ensures_bind_of_returned rfl ?_)
        exact (cMpiRcFix_code _).bind fun _ _ coded => Run.ensures_pure coded
      · exact (cMpiRcFix_code _).bind fun _ _ coded => Run.ensures_pure coded
  · simp only [allocated, Bool.false_eq_true, false_and, if_false]
    exact fixed_code fun _ => rfl

private theorem cfiMpiSendrecv_code (sdesc rdesc : CDesc)
    (scount sdatatypeF dest stag rcount rdatatypeF src rtag commF status : Int) :
    Run.Ensures (cfiMpiSendrecv mpi reply sdesc scount sdatatypeF dest stag rdesc rcount
        rdatatypeF src rtag commF status) process fun code _ => VapaaCode mpi reply.rc code := by
  rw [cfiMpiSendrecv, sendrecvWith]
  refine Answers.fixed fun process => ?_
  split_ifs
  · exact Answers.after (fun _ => answers_of_returned fun _ => rfl) process
  · refine Run.ensures_bind_of_all fun created _ => Run.ensures_bind_of_all fun _ _ => ?_
    refine Run.ensures_bind_of_all fun _ _ => Run.ensures_bind_of_all fun _ _ => ?_
    refine Run.ensures_bind_of_all fun created _ => Run.ensures_bind_of_all fun _ _ => ?_
    refine Run.ensures_bind_of_all fun _ _ => Run.ensures_bind_of_all fun _ _ => ?_
    refine Run.ensures_bind_of_all fun pointer _ => Run.ensures_bind_of_returned rfl ?_
    refine Run.ensures_bind_of_all fun freed _ => Run.ensures_bind_of_all fun _ _ => ?_
    refine Run.ensures_bind_of_all fun freed _ => Run.ensures_bind_of_all fun _ _ => ?_
    exact Run.ensures_pure rfl

private theorem packing_code (transfer : Wrapper (Int × Int)) :
    Run.Ensures (Prod.snd <$> packing mpi transfer) process fun code _ =>
      ∃ rc, (∃ position middle, transfer process = .returned ((rc, position), middle)) ∧
        VapaaCode mpi rc code := by
  refine Run.ensures_map fun results final returned => ?_
  obtain ⟨⟨rc, position⟩, middle, transferred, rest⟩ := Run.bind_eq_returned.mp returned
  refine ⟨rc, ⟨position, middle, transferred⟩, ?_⟩
  obtain ⟨code, last, fixed, result⟩ := Run.bind_eq_returned.mp rest
  cases result
  exact cMpiRcFix_code rc _ _ fixed

/-- Every routine translates its code exactly once, except that `MPI_Testany` leaves it
as it is unless it sets it itself. -/
theorem P2pCall.ierror_code (callee : P2pCall) :
    Run.Ensures (callee.ierror mpi reply) process fun code _ =>
      ∃ rc, callee.Code mpi reply process rc ∧
        (VapaaCode mpi rc code ↔ callee.Agrees mpi reply) := by
  cases callee with
  | probe source tag commF status =>
      refine coded rfl trivial ?_
      rw [P2pCall.ierror, cMpiProbe]
      refine Run.ensures_bind_of_returned rfl (Run.ensures_bind_of_returned rfl ?_)
      dsimp only
      split_ifs
      · exact Run.ensures_bind_of_all fun _ _ => cMpiRcFix_code _
      · exact cMpiRcFix_code _
  | mprobe source tag commF status =>
      refine coded rfl trivial ?_
      rw [P2pCall.ierror, cMpiMprobe, ← bind_assoc]
      refine (Answers.after fun _ => ?_).fixed_with fun _ => rfl
      exact answers_of_returned fun _ => rfl
  | test requestF status =>
      refine coded rfl trivial ?_
      rw [P2pCall.ierror, cMpiTest, ← bind_assoc]
      exact (answers_completeOne _ _ _).fixed_with fun _ => rfl
  | testall count requestsF flagF statuses =>
      refine coded rfl trivial (ensures_allocated ?_ (fixed_code fun _ => rfl))
      rw [← bind_assoc]
      exact (answers_completeArray _ _ _).fixed_with fun _ => rfl
  | testsome incount requestsF outcountF arrayOfIndices statuses =>
      refine coded rfl trivial (ensures_allocated ?_ (fixed_code fun _ => rfl))
      rw [← bind_assoc]
      exact (answers_completeArray _ _ _).fixed_with fun _ => rfl
  | testany count requestsF indexF flagF status => exact cMpiTestany_code _ _ _ _ _
  | wait requestF status =>
      refine coded rfl trivial ?_
      rw [P2pCall.ierror, cMpiWait, ← bind_assoc]
      exact (answers_completeOne _ _ _).fixed_with fun _ => rfl
  | waitall count requestsF statusesF =>
      refine (cMpiWaitall_code _ _ _).mono fun code _ found => ?_
      obtain ⟨rc, same, translated⟩ := found
      exact ⟨rc, same, iff_of_true translated trivial⟩
  | waitsome incount requestsF outcountF arrayOfIndices statuses =>
      refine coded rfl trivial (ensures_allocated ?_ (fixed_code fun _ => rfl))
      rw [← bind_assoc]
      exact (answers_completeArray _ _ _).fixed_with fun _ => rfl
  | waitany count requestsF indexF status =>
      refine coded rfl trivial (ensures_allocated ?_ (fixed_code fun _ => rfl))
      rw [← bind_assoc]
      exact (answers_completeOne _ _ _).fixed_with fun _ => rfl
  | send buffer count datatypeF dest tag commF =>
      exact coded rfl trivial (answers_of_returned fun _ => rfl).fixed
  | cfiSend desc count datatypeF dest tag commF =>
      refine coded rfl trivial (answers_withSection fun _ _ _ => ?_).fixed
      exact answers_of_returned fun _ => rfl
  | isend buffer count datatypeF dest tag commF =>
      refine coded rfl trivial (Answers.fixed_with ?_ fun _ => rfl)
      exact answers_of_returned fun _ => rfl
  | cfiIsend desc count datatypeF dest tag commF =>
      refine coded rfl trivial ((answers_withSection fun _ _ _ => ?_).fixed_with fun _ => rfl)
      exact answers_of_returned fun _ => rfl
  | recv buffer count datatypeF source tag commF status =>
      refine coded rfl trivial ?_
      rw [P2pCall.ierror, cMpiRecv, ← bind_assoc]
      exact (Answers.after fun _ => answers_of_returned fun _ => rfl).fixed
  | cfiRecv desc count datatypeF source tag commF status =>
      refine coded rfl trivial (answers_withSection fun _ _ _ => Answers.after fun _ => ?_).fixed
      exact answers_of_returned fun _ => rfl
  | irecv buffer count datatypeF source tag commF =>
      refine coded rfl trivial (Answers.fixed_with ?_ fun _ => rfl)
      exact answers_of_returned fun _ => rfl
  | cfiIrecv desc count datatypeF source tag commF =>
      refine coded rfl trivial ((answers_withSection fun _ _ _ => ?_).fixed_with fun _ => rfl)
      exact answers_of_returned fun _ => rfl
  | mrecv buffer count datatypeF messageF status =>
      refine coded rfl trivial ?_
      rw [P2pCall.ierror, cMpiMrecv, ← bind_assoc]
      refine (Answers.after fun _ => ?_).fixed_with fun _ => rfl
      exact answers_of_returned fun _ => rfl
  | cfiMrecv desc count datatypeF messageF status =>
      refine coded rfl trivial ((answers_withSection fun _ _ _ =>
        Answers.after fun _ => ?_).fixed_with fun _ => rfl)
      exact answers_of_returned fun _ => rfl
  | imrecv buffer count datatypeF messageF =>
      refine coded rfl trivial (Answers.fixed_with ?_ fun _ => rfl)
      exact answers_of_returned fun _ => rfl
  | cfiImrecv desc count datatypeF messageF =>
      refine coded rfl trivial ((answers_withSection fun _ _ _ => ?_).fixed_with fun _ => rfl)
      exact answers_of_returned fun _ => rfl
  | sendrecv sbuffer scount sdatatypeF dest stag rbuffer rcount rdatatypeF src rtag commF status =>
      refine coded rfl trivial ?_
      rw [P2pCall.ierror, cMpiSendrecv, ← bind_assoc]
      exact (Answers.after fun _ => answers_of_returned fun _ => rfl).fixed
  | cfiSendrecv sdesc scount sdatatypeF dest stag rdesc rcount rdatatypeF src rtag commF status =>
      exact coded rfl trivial (cfiMpiSendrecv_code _ _ _ _ _ _ _ _ _ _ _ _)
  | packing transfer =>
      refine (packing_code transfer).mono fun code _ found => ?_
      obtain ⟨rc, transferred, translated⟩ := found
      exact ⟨rc, transferred, iff_of_true translated trivial⟩
  | cfiPacking warning packed position desc count datatypeF transfer =>
      refine (packing_code _).mono fun code _ found => ?_
      obtain ⟨rc, ⟨reached, middle, transferred⟩, translated⟩ := found
      refine ⟨rc, ?_, iff_of_true translated trivial⟩
      rw [P2pCall.Code]
      split_ifs at transferred ⊢
      · cases transferred
        rfl
      · exact ⟨reached, middle, transferred⟩

/-- The codes that Fortran callers see: every routine translates its code once, save that
`MPI_Testany` passes the code of the library on; and `MPI_Waitall` stores the codes of
the single statuses as they are. -/
theorem codes_translated_iff (mpi : Mpi) :
    (∀ (callee : P2pCall) (reply : Reply) (process final : Process) (code : Int),
      callee.ierror mpi reply process = .returned (code, final) →
      ∃ rc, callee.Code mpi reply process rc ∧
        (VapaaCode mpi rc code ↔ callee.Agrees mpi reply)) ∧
    (∀ (reply : Reply) (process : Process) (n : Nat) (requestsF : Nat → Int) (statuses : Int),
      (∀ bytes, mpi.allocates bytes = true) → statuses ≠ process.sentinels.statusesIgnore →
      mpi.errorClassOf reply.rc = some (mpi.errorClass .errInStatus) →
      Run.Returns (cMpiWaitall mpi reply n requestsF statuses) process fun _ final =>
        ∀ i : Nat, i < n →
          (VapaaCode mpi (reply.statuses i).mpiError
              (publicFields final.statusWords (statuses + i * sizeofFMpiStatus)).mpiError ↔
            VapaaCode mpi (reply.statuses i).mpiError (reply.statuses i).mpiError)) := by
  constructor
  · intro callee reply process final code returned
    exact callee.ierror_code code final returned
  · intro reply process n requestsF statuses allocates unignored inStatus
    have coded : mpi.Codes reply.rc := Or.inr (by rw [inStatus]; rfl)
    refine (cMpiWaitall_returns allocates unignored coded).mono fun _ final shown i below => ?_
    rw [shown i below]
    rfl

end Routines

section Samples

/-- The first error classes have the numbers of MPICH. -/
def mpichErrorClass : ErrorClass → Int
  | .errRoot => 7
  | .errGroup => 8
  | .errOp => 9
  | .errTopology => 10
  | .errDims => 11
  | .errArg => 12
  | .errUnknown => 13
  | .errTruncate => 14
  | .errOther => 15
  | .errIntern => 16
  | .errInStatus => 17
  | .errPending => 18
  | .errRequest => 19
  | errorClass => errorClass.vapaa

def mpichNumbers : Mpi :=
  { mpich with
    errorClass := mpichErrorClass
    success_eq := rfl
    failure_ne := fun failure failed => by
      cases failure <;> first | exact absurd rfl failed | decide }

/-- An error in a request, which `MPI_Testany` reports as one in a status. -/
theorem codes_translated_testany :
    ∃ final, (P2pCall.testany 1 (fun i => i) 0 0 2000).ierror mpichNumbers
        { successfulReply with rc := mpichNumbers.errorClass .errRequest } startProcess =
          .returned (19, final) ∧
      ¬ VapaaCode mpichNumbers (mpichNumbers.errorClass .errRequest) 19 := by
  have run : ((P2pCall.testany 1 (fun i => i) 0 0 2000).ierror mpichNumbers
      { successfulReply with rc := mpichNumbers.errorClass .errRequest } startProcess >>=
        fun result => .returned result.1) = .returned 19 := by
    decide +kernel
  obtain ⟨⟨code, final⟩, returned, same⟩ := Outcome.bind_eq_returned.mp run
  cases same
  refine ⟨final, returned, ?_⟩
  have numbered : ∀ errorClass, mpichErrorClass errorClass = 19 → errorClass.vapaa ≠ 19 := by
    intro errorClass
    cases errorClass <;> decide
  rw [VapaaCode, if_neg (by decide)]
  rintro ⟨error, classified, ⟨errorClass, -, same, shown⟩ | ⟨outside, -⟩⟩
  · cases classified
    exact numbered errorClass same shown.symm
  · cases classified
    exact outside .errRequest (Or.inl (by decide)) rfl

/-- The same error in a receive. -/
theorem codes_translated_recv :
    ∃ final, (P2pCall.recv 4096 1 fortranInteger 1 5 0 2000).ierror mpichNumbers
        { successfulReply with rc := mpichNumbers.errorClass .errRequest } startProcess =
          .returned (7, final) ∧
      VapaaCode mpichNumbers (mpichNumbers.errorClass .errRequest) 7 := by
  have run : ((P2pCall.recv 4096 1 fortranInteger 1 5 0 2000).ierror mpichNumbers
      { successfulReply with rc := mpichNumbers.errorClass .errRequest } startProcess >>=
        fun result => .returned result.1) = .returned 7 := by
    decide +kernel
  obtain ⟨⟨code, final⟩, returned, same⟩ := Outcome.bind_eq_returned.mp run
  cases same
  obtain ⟨rc, rfl, translated⟩ := (codes_translated_iff mpichNumbers).1 _ _ _ _ _ returned
  exact ⟨final, returned, translated.mpr trivial⟩

end Samples

end Vapaa
