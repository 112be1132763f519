import Vapaa.SectionArguments

/-!
# Matching of messages

Which messages the receives and probes of the wrappers select, and where the sends go.
-/

set_option autoImplicit false

namespace Vapaa

open Foundation

/-- The integers that stand for no rank, any rank and any tag. -/
structure Wildcards where
  procNull : Int
  anySource : Int
  anyTag : Int

/-- The constants of Fortran callers. -/
def vapaaWildcards : Wildcards where
  procNull := vapaaMpiProcNull
  anySource := vapaaMpiAnySource
  anyTag := vapaaMpiAnyTag

def Mpi.wildcards (mpi : Mpi) : Wildcards where
  procNull := mpi.procNull
  anySource := mpi.anySource
  anyTag := mpi.anyTag

namespace Wildcards

/-- Whether a receive or a probe may match a message from a rank with a tag. -/
def Selects (wildcards : Wildcards) (source tag : Int) (s t : Nat) : Prop :=
  source ≠ wildcards.procNull ∧ (source = wildcards.anySource ∨ source = s) ∧
    (tag = wildcards.anyTag ∨ tag = t)

/-- Wildcards are no ranks and no tags. -/
structure Proper (wildcards : Wildcards) : Prop where
  procNull_neg : wildcards.procNull < 0
  anySource_neg : wildcards.anySource < 0
  anyTag_neg : wildcards.anyTag < 0
  anySource_ne_procNull : wildcards.anySource ≠ wildcards.procNull

def integers (wildcards : Wildcards) : List Int :=
  [wildcards.procNull, wildcards.anySource, wildcards.anyTag]

/-- No integer is a constant of both. -/
def Apart (left right : Wildcards) : Prop :=
  ∀ a ∈ left.integers, ∀ b ∈ right.integers, a ≠ b

instance (left right : Wildcards) : Decidable (left.Apart right) :=
  inferInstanceAs (Decidable (∀ a ∈ left.integers, ∀ b ∈ right.integers, a ≠ b))

/-- A source and a tag without a wildcard of either, unless one of them cannot be met. -/
def Neutral (left right : Wildcards) (source tag : Int) : Prop :=
  source ≠ left.anySource ∧ source ≠ right.anySource ∧
      (0 ≤ source → tag ≠ left.anyTag ∧ tag ≠ right.anyTag) ∨
    source = left.anySource ∧ tag < 0 ∧ tag ≠ left.anyTag ∨
    source = right.anySource ∧ tag < 0 ∧ tag ≠ right.anyTag

variable {left right : Wildcards} {source tag : Int}

theorem Apart.anySource_ne (apart : left.Apart right) : left.anySource ≠ right.anySource :=
  apart _ (by simp [integers]) _ (by simp [integers])

theorem Apart.anyTag_ne (apart : left.Apart right) : left.anyTag ≠ right.anyTag :=
  apart _ (by simp [integers]) _ (by simp [integers])

/-- Whoever asks for any source selects something, unless the tag cannot be met. -/
theorem exists_selects_anySource (proper : left.Proper) :
    (∃ s t, left.Selects left.anySource tag s t) ↔ tag = left.anyTag ∨ 0 ≤ tag := by
  constructor
  · rintro ⟨s, t, -, -, same | rfl⟩
    · exact Or.inl same
    · exact Or.inr (Int.natCast_nonneg t)
  · rintro (same | natural)
    · exact ⟨0, 0, proper.anySource_ne_procNull, Or.inl rfl, Or.inl same⟩
    · exact ⟨0, tag.toNat, proper.anySource_ne_procNull, Or.inl rfl,
        Or.inr (Int.toNat_of_nonneg natural).symm⟩

/-- A wildcard of others selects nothing. -/
theorem not_selects_of_negative {s t : Nat} (negative : source < 0)
    (other : source ≠ left.anySource) : ¬ left.Selects source tag s t := by
  rintro ⟨-, rfl | rfl, -⟩
  · exact other rfl
  · omega

private theorem selects_rank_iff {rank s t : Nat} (proper : left.Proper) :
    left.Selects rank tag s t ↔ rank = s ∧ (tag = left.anyTag ∨ tag = t) := by
  have null := proper.procNull_neg
  have any := proper.anySource_neg
  simp only [Selects]
  omega

private theorem anySource_agree_iff (leftProper : left.Proper)
    (apart : left.anySource ≠ right.anySource) :
    (∀ s t, left.Selects left.anySource tag s t ↔ right.Selects left.anySource tag s t) ↔
      tag < 0 ∧ tag ≠ left.anyTag := by
  have none : ∀ s t, ¬ right.Selects left.anySource tag s t := fun s t =>
    not_selects_of_negative leftProper.anySource_neg apart
  calc
    (∀ s t, left.Selects left.anySource tag s t ↔ right.Selects left.anySource tag s t) ↔
        ¬ ∃ s t, left.Selects left.anySource tag s t := by
      simp only [none, iff_false, not_exists]
    _ ↔ ¬ (tag = left.anyTag ∨ 0 ≤ tag) := not_congr (exists_selects_anySource leftProper)
    _ ↔ tag < 0 ∧ tag ≠ left.anyTag := by omega

private theorem rank_agree_iff {rank : Nat} (leftProper : left.Proper) (rightProper : right.Proper)
    (apart : left.anyTag ≠ right.anyTag) :
    (∀ s t, left.Selects rank tag s t ↔ right.Selects rank tag s t) ↔
      tag ≠ left.anyTag ∧ tag ≠ right.anyTag := by
  have leftTag := leftProper.anyTag_neg
  have rightTag := rightProper.anyTag_neg
  simp only [selects_rank_iff leftProper, selects_rank_iff rightProper]
  constructor
  · intro agree
    have zero := agree rank 0
    refine ⟨?_, ?_⟩
    · rintro rfl
      have matched := zero.mp ⟨rfl, Or.inl rfl⟩
      omega
    · rintro rfl
      have matched := zero.mpr ⟨rfl, Or.inl rfl⟩
      omega
  · rintro ⟨leftPlain, rightPlain⟩ s t
    simp only [leftPlain, rightPlain, false_or]

/-- The arguments select the same messages under both constants only if they are
neutral. -/
theorem agree_iff_neutral (leftProper : left.Proper) (rightProper : right.Proper)
    (apart : left.Apart right) :
    (∀ s t, left.Selects source tag s t ↔ right.Selects source tag s t) ↔
      left.Neutral right source tag := by
  have sources := apart.anySource_ne
  have leftSource := leftProper.anySource_neg
  have rightSource := rightProper.anySource_neg
  rw [Neutral]
  by_cases ofLeft : source = left.anySource
  · subst ofLeft
    rw [anySource_agree_iff leftProper sources]
    simp only [ne_eq, not_true_eq_false, false_and, true_and, sources, or_false, false_or]
  by_cases ofRight : source = right.anySource
  · subst ofRight
    have swapped : (∀ s t, left.Selects right.anySource tag s t ↔
        right.Selects right.anySource tag s t) ↔ tag < 0 ∧ tag ≠ right.anyTag := by
      rw [← anySource_agree_iff rightProper sources.symm]
      simp only [iff_comm]
    rw [swapped]
    simp only [ne_eq, not_true_eq_false, false_and, and_false, true_and, sources.symm, false_or]
  simp only [ofLeft, ofRight, ne_eq, not_false_eq_true, true_and, false_and, or_false]
  rcases lt_or_ge source 0 with negative | natural
  · have leftNone : ∀ s t, ¬ left.Selects source tag s t := fun s t =>
      not_selects_of_negative negative ofLeft
    have rightNone : ∀ s t, ¬ right.Selects source tag s t := fun s t =>
      not_selects_of_negative negative ofRight
    simp only [leftNone, rightNone, implies_true, true_iff]
    omega
  · obtain ⟨rank, rfl⟩ := Int.eq_ofNat_of_zero_le natural
    rw [rank_agree_iff leftProper rightProper apart.anyTag_ne]
    simp only [natural, true_implies, ne_eq]

end Wildcards

namespace Issued

/-- Source and tag of the messages that a call may receive or find. -/
def envelope : Issued → Option (Int × Int)
  | probe source tag _ => some (source, tag)
  | mprobe source tag _ => some (source, tag)
  | recv _ source tag _ => some (source, tag)
  | irecv _ source tag _ => some (source, tag)
  | sendrecv _ _ _ _ src rtag _ => some (src, rtag)
  | _ => none

/-- The rank that a call sends to. -/
def destination : Issued → Option Int
  | send _ dest _ _ => some dest
  | isend _ dest _ _ => some dest
  | sendrecv _ dest _ _ _ _ _ => some dest
  | _ => none

/-- Whether the library may match the call with a message. -/
def Matches (mpi : Mpi) (issued : Issued) (s t : Nat) : Prop :=
  ∃ source tag, issued.envelope = some (source, tag) ∧ mpi.wildcards.Selects source tag s t

/-- With no rank to receive from, the library completes the receiving at once. -/
def ReceivesNothing (mpi : Mpi) (issued : Issued) : Prop :=
  ∃ tag, issued.envelope = some (mpi.procNull, tag)

/-- With no rank to send to, it completes the sending at once. -/
def SendsNothing (mpi : Mpi) (issued : Issued) : Prop := issued.destination = some mpi.procNull

end Issued

/-- Calls with a source and a tag, with their other arguments. -/
inductive ReceivingCall where
  | probe (status : Int)
  | mprobe (status : Int)
  | recv (buffer count datatypeF status : Int)
  | cfiRecv (desc : CDesc) (count datatypeF status : Int)
  | irecv (buffer count datatypeF : Int)
  | cfiIrecv (desc : CDesc) (count datatypeF : Int)
  | sendrecv (sbuffer scount sdatatypeF dest stag rbuffer rcount rdatatypeF status : Int)
  | cfiSendrecv (sdesc : CDesc) (scount sdatatypeF dest stag : Int) (rdesc : CDesc)
      (rcount rdatatypeF status : Int)

namespace ReceivingCall

def run (mpi : Mpi) (reply : Reply) (source tag commF : Int) : ReceivingCall → Wrapper Unit
  | probe status => effect (cMpiProbe mpi reply source tag commF status)
  | mprobe status => effect (cMpiMprobe mpi reply source tag commF status)
  | recv buffer count datatypeF status =>
      effect (cMpiRecv mpi reply buffer count datatypeF source tag commF status)
  | cfiRecv desc count datatypeF status =>
      effect (cfiMpiRecv mpi reply desc count datatypeF source tag commF status)
  | irecv buffer count datatypeF =>
      effect (cMpiIrecv mpi reply buffer count datatypeF source tag commF)
  | cfiIrecv desc count datatypeF =>
      effect (cfiMpiIrecv mpi reply desc count datatypeF source tag commF)
  | sendrecv sbuffer scount sdatatypeF dest stag rbuffer rcount rdatatypeF status =>
      effect (cMpiSendrecv mpi reply sbuffer scount sdatatypeF dest stag rbuffer rcount
        rdatatypeF source tag commF status)
  | cfiSendrecv sdesc scount sdatatypeF dest stag rdesc rcount rdatatypeF status =>
      effect (cfiMpiSendrecv mpi reply sdesc scount sdatatypeF dest stag rdesc rcount
        rdatatypeF source tag commF status)

/-- The routines that look for `MPI_PROC_NULL`. -/
def DetectsProcNull : ReceivingCall → Prop
  | probe .. => True
  | mprobe .. => True
  | _ => False

/-- The source that a routine passes. -/
def sourcePassed (mpi : Mpi) (source : Int) : ReceivingCall → Int
  | probe .. => cMpiProcNullDetector mpi source
  | mprobe .. => cMpiProcNullDetector mpi source
  | _ => source

end ReceivingCall

/-- Calls with a destination, with their other arguments. -/
inductive SendingCall where
  | send (buffer count datatypeF tag : Int)
  | cfiSend (desc : CDesc) (count datatypeF tag : Int)
  | isend (buffer count datatypeF tag : Int)
  | cfiIsend (desc : CDesc) (count datatypeF tag : Int)
  | sendrecv (sbuffer scount sdatatypeF stag rbuffer rcount rdatatypeF src rtag status : Int)
  | cfiSendrecv (sdesc : CDesc) (scount sdatatypeF stag : Int) (rdesc : CDesc)
      (rcount rdatatypeF src rtag status : Int)

def SendingCall.run (mpi : Mpi) (reply : Reply) (dest commF : Int) :
    SendingCall → Wrapper Unit
  | send buffer count datatypeF tag =>
      effect (cMpiSend mpi reply buffer count datatypeF dest tag commF)
  | cfiSend desc count datatypeF tag =>
      effect (cfiMpiSend mpi reply desc count datatypeF dest tag commF)
  | isend buffer count datatypeF tag =>
      effect (cMpiIsend mpi reply buffer count datatypeF dest tag commF)
  | cfiIsend desc count datatypeF tag =>
      effect (cfiMpiIsend mpi reply desc count datatypeF dest tag commF)
  | sendrecv sbuffer scount sdatatypeF stag rbuffer rcount rdatatypeF src rtag status =>
      effect (cMpiSendrecv mpi reply sbuffer scount sdatatypeF dest stag rbuffer rcount
        rdatatypeF src rtag commF status)
  | cfiSendrecv sdesc scount sdatatypeF stag rdesc rcount rdatatypeF src rtag status =>
      effect (cfiMpiSendrecv mpi reply sdesc scount sdatatypeF dest stag rdesc rcount
        rdatatypeF src rtag commF status)

section Asking

variable {α β : Type} {describes : Issued → Prop}

/-- The run asks the library for nothing that concerns messages. -/
def Quiet (run : Wrapper α) : Prop :=
  ∀ process, Run.Ensures run process fun _ final => final.issued = process.issued

/-- The run asks for one thing, of the given kind. -/
def Asks (run : Wrapper α) (describes : Issued → Prop) : Prop :=
  ∀ process, Run.Ensures run process fun _ final =>
    ∃ issued, final.issued = process.issued ++ [issued] ∧ describes issued

private theorem quiet_pure (value : α) : Quiet
    (pure value : Wrapper α) := fun _ => Run.ensures_pure rfl

private theorem quiet_call (reached : Call α) : Quiet (call reached) := by
  intro process value final returned
  obtain ⟨world, -, rfl⟩ := Run.zoom_eq_returned.mp returned
  rfl

theorem Quiet.bind {run : Wrapper α} {next : α → Wrapper β} (first : Quiet run)
    (rest : ∀ value, Quiet (next value)) : Quiet (run >>= next) := by
  intro process
  refine (first process).bind fun value middle kept => ?_
  rw [← kept]
  exact rest value middle

theorem Quiet.asks {run : Wrapper α} {next : α → Wrapper β} (first : Quiet run)
    (rest : ∀ value, Asks (next value) describes) : Asks (run >>= next) describes := by
  intro process
  refine (first process).bind fun value middle kept => ?_
  rw [← kept]
  exact rest value middle

theorem Asks.quiet {run : Wrapper α} {next : α → Wrapper β} (first : Asks run describes)
    (rest : ∀ value, Quiet (next value)) : Asks (run >>= next) describes := by
  intro process
  refine (first process).bind fun value middle ⟨issued, asked, described⟩ => ?_
  intro result final returned
  exact ⟨issued, (rest value middle result final returned).trans asked, described⟩

theorem Asks.effect {run : Wrapper α} (asks : Asks run describes) : Asks (effect run) describes :=
  asks.quiet fun _ => quiet_pure ()

theorem Asks.fixed {mpi : Mpi} {run : Wrapper Int} (asks : Asks run describes) :
    Asks (run >>= fun ierror => call (cMpiRcFix mpi ierror)) describes :=
  asks.quiet fun _ => quiet_call _

private theorem quiet_statusArgument (mpi : Mpi) (status : Int) : Quiet
    (statusArgument mpi status) :=
  fun process => Run.ensures_of_returned (statusArgument_apply mpi status process) rfl

private theorem asks_withSection {mpi : Mpi} {desc : CDesc} {count datatype : Int}
    {communicate : Int → Int → Int → Wrapper α}
    (asks : ∀ buffer count datatype, Asks (communicate buffer count datatype) describes) :
    Asks (withSection mpi desc count datatype communicate) describes := by
  rw [withSection]
  split_ifs
  · exact asks _ _ _
  · refine (quiet_call _).asks fun created => ?_
    refine (quiet_call _).asks fun _ => (quiet_call _).asks fun _ => (quiet_call _).asks fun _ => ?_
    refine (asks _ _ _).quiet fun _ => ?_
    exact (quiet_call _).bind fun _ => (quiet_call _).bind fun _ => quiet_pure _

end Asking

section Wrappers

variable {mpi : Mpi} {reply : Reply} {describes : Issued → Prop}
variable {source dest tag commF status datatypeF : Int}

private theorem asks_mpiSendrecv {comm stag rtag src : Int} {pointer : StatusPointer}
    (described : ∀ sbuffer rbuffer,
      describes (.sendrecv sbuffer dest stag rbuffer src rtag comm))
    (sendbuf sendcount sendtype recvbuf recvcount recvtype : Int) :
    Asks (mpiSendrecv mpi reply sendbuf sendcount sendtype dest stag recvbuf recvcount recvtype
      src rtag comm pointer) describes :=
  fun _ => Run.ensures_of_returned rfl ⟨_, rfl, described _ _⟩

private theorem asks_mpiRecv {comm : Int} {pointer : StatusPointer}
    (described : ∀ buffer, describes (.recv buffer source tag comm)) (buf count datatype : Int) :
    Asks (mpiRecv mpi reply buf count datatype source tag comm pointer) describes :=
  fun _ => Run.ensures_of_returned rfl ⟨_, rfl, described _⟩

private theorem asks_cMpiProbe
    (described : describes (.probe (cMpiProcNullDetector mpi source) tag (cMpiCommF2c mpi commF))) :
    Asks (cMpiProbe mpi reply source tag commF status) describes := by
  rw [cMpiProbe]
  refine Quiet.asks (fun _ => Run.ensures_of_returned rfl rfl) fun needStatus => ?_
  refine Asks.quiet (fun _ => Run.ensures_of_returned rfl ⟨_, rfl, described⟩) fun ierror => ?_
  split_ifs
  · exact Quiet.bind (fun _ => Run.ensures_of_returned rfl rfl) fun _ => quiet_call _
  · exact quiet_call _

private theorem asks_cMpiMprobe
    (described : describes (.mprobe (cMpiProcNullDetector mpi source) tag (cMpiCommF2c mpi commF))) :
    Asks (cMpiMprobe mpi reply source tag commF status) describes := by
  rw [cMpiMprobe]
  refine (quiet_statusArgument mpi status).asks fun pointer => ?_
  refine Asks.quiet (fun _ => Run.ensures_of_returned rfl ⟨_, rfl, described⟩) fun ierror => ?_
  exact (quiet_call _).bind fun _ => quiet_pure _

private theorem asks_cMpiRecv
    (described : ∀ buffer, describes (.recv buffer source tag (cMpiCommF2c mpi commF)))
    (buffer count : Int) :
    Asks (cMpiRecv mpi reply buffer count datatypeF source tag commF status) describes :=
  (quiet_statusArgument mpi status).asks fun _ => (asks_mpiRecv described _ _ _).fixed

private theorem asks_cfiMpiRecv
    (described : ∀ buffer, describes (.recv buffer source tag (cMpiCommF2c mpi commF)))
    (desc : CDesc) (count : Int) :
    Asks (cfiMpiRecv mpi reply desc count datatypeF source tag commF status) describes :=
  Asks.fixed <| asks_withSection fun _ _ _ =>
    (quiet_statusArgument mpi status).asks fun _ => asks_mpiRecv described _ _ _

private theorem asks_cMpiIrecv
    (described : ∀ buffer, describes (.irecv buffer source tag (cMpiCommF2c mpi commF)))
    (buffer count : Int) :
    Asks (cMpiIrecv mpi reply buffer count datatypeF source tag commF) describes := by
  refine Asks.quiet (fun _ => Run.ensures_of_returned rfl ⟨_, rfl, described _⟩) fun ierror => ?_
  exact (quiet_call _).bind fun _ => quiet_pure _

private theorem asks_cfiMpiIrecv
    (described : ∀ buffer, describes (.irecv buffer source tag (cMpiCommF2c mpi commF)))
    (desc : CDesc) (count : Int) :
    Asks (cfiMpiIrecv mpi reply desc count datatypeF source tag commF) describes := by
  refine (asks_withSection fun _ _ _ _ => ?_).quiet fun ierror => ?_
  · exact Run.ensures_of_returned rfl ⟨_, rfl, described _⟩
  · exact (quiet_call _).bind fun _ => quiet_pure _

private theorem asks_cMpiSend
    (described : ∀ buffer, describes (.send buffer dest tag (cMpiCommF2c mpi commF)))
    (buffer count : Int) :
    Asks (cMpiSend mpi reply buffer count datatypeF dest tag commF) describes :=
  Asks.fixed fun _ => Run.ensures_of_returned rfl ⟨_, rfl, described _⟩

private theorem asks_cfiMpiSend
    (described : ∀ buffer, describes (.send buffer dest tag (cMpiCommF2c mpi commF)))
    (desc : CDesc) (count : Int) :
    Asks (cfiMpiSend mpi reply desc count datatypeF dest tag commF) describes :=
  Asks.fixed <| asks_withSection fun _ _ _ _ =>
    Run.ensures_of_returned rfl ⟨_, rfl, described _⟩

private theorem asks_cMpiIsend
    (described : ∀ buffer, describes (.isend buffer dest tag (cMpiCommF2c mpi commF)))
    (buffer count : Int) :
    Asks (cMpiIsend mpi reply buffer count datatypeF dest tag commF) describes := by
  refine Asks.quiet (fun _ => Run.ensures_of_returned rfl ⟨_, rfl, described _⟩) fun ierror => ?_
  exact (quiet_call _).bind fun _ => quiet_pure _

private theorem asks_cfiMpiIsend
    (described : ∀ buffer, describes (.isend buffer dest tag (cMpiCommF2c mpi commF)))
    (desc : CDesc) (count : Int) :
    Asks (cfiMpiIsend mpi reply desc count datatypeF dest tag commF) describes := by
  refine (asks_withSection fun _ _ _ _ => ?_).quiet fun ierror => ?_
  · exact Run.ensures_of_returned rfl ⟨_, rfl, described _⟩
  · exact (quiet_call _).bind fun _ => quiet_pure _

variable {sdatatypeF rdatatypeF stag rtag src : Int}

private theorem asks_cMpiSendrecv
    (described : ∀ sbuffer rbuffer,
      describes (.sendrecv sbuffer dest stag rbuffer src rtag (cMpiCommF2c mpi commF)))
    (sbuffer scount rbuffer rcount : Int) :
    Asks (cMpiSendrecv mpi reply sbuffer scount sdatatypeF dest stag rbuffer rcount rdatatypeF src
      rtag commF status) describes :=
  (quiet_statusArgument mpi status).asks fun _ => (asks_mpiSendrecv described _ _ _ _ _ _).fixed

private theorem asks_cfiMpiSendrecv
    (described : ∀ sbuffer rbuffer,
      describes (.sendrecv sbuffer dest stag rbuffer src rtag (cMpiCommF2c mpi commF)))
    (sdesc rdesc : CDesc) (scount rcount : Int) :
    Asks (cfiMpiSendrecv mpi reply sdesc scount sdatatypeF dest stag rdesc rcount rdatatypeF src
      rtag commF status) describes := by
  rw [cfiMpiSendrecv, sendrecvWith]
  apply Asks.fixed
  split_ifs
  · exact (quiet_statusArgument mpi status).asks fun _ => asks_mpiSendrecv described _ _ _ _ _ _
  · refine (quiet_call _).asks fun _ => (quiet_call _).asks fun _ => (quiet_call _).asks fun _ => ?_
    refine (quiet_call _).asks fun _ => (quiet_call _).asks fun _ => (quiet_call _).asks fun _ => ?_
    refine (quiet_call _).asks fun _ => (quiet_call _).asks fun _ => ?_
    refine (quiet_statusArgument mpi status).asks fun _ => ?_
    refine (asks_mpiSendrecv described _ _ _ _ _ _).quiet fun _ => ?_
    refine (quiet_call _).bind fun _ => (quiet_call _).bind fun _ => ?_
    exact (quiet_call _).bind fun _ => (quiet_call _).bind fun _ => quiet_pure _

theorem ReceivingCall.asks (callee : ReceivingCall) :
    Asks (callee.run mpi reply source tag commF) fun issued =>
      issued.envelope = some (callee.sourcePassed mpi source, tag) := by
  cases callee with
  | probe status =>
      refine Asks.effect (asks_cMpiProbe ?_)
      rfl
  | mprobe status =>
      refine Asks.effect (asks_cMpiMprobe ?_)
      rfl
  | recv buffer count datatypeF status => exact (asks_cMpiRecv (fun _ => rfl) _ _).effect
  | cfiRecv desc count datatypeF status => exact (asks_cfiMpiRecv (fun _ => rfl) _ _).effect
  | irecv buffer count datatypeF => exact (asks_cMpiIrecv (fun _ => rfl) _ _).effect
  | cfiIrecv desc count datatypeF => exact (asks_cfiMpiIrecv (fun _ => rfl) _ _).effect
  | sendrecv => exact (asks_cMpiSendrecv (fun _ _ => rfl) _ _ _ _).effect
  | cfiSendrecv => exact (asks_cfiMpiSendrecv (fun _ _ => rfl) _ _ _ _).effect

theorem SendingCall.asks (callee : SendingCall) :
    Asks (callee.run mpi reply dest commF) fun issued => issued.destination = some dest := by
  cases callee with
  | send buffer count datatypeF tag => exact (asks_cMpiSend (fun _ => rfl) _ _).effect
  | cfiSend desc count datatypeF tag => exact (asks_cfiMpiSend (fun _ => rfl) _ _).effect
  | isend buffer count datatypeF tag => exact (asks_cMpiIsend (fun _ => rfl) _ _).effect
  | cfiIsend desc count datatypeF tag => exact (asks_cfiMpiIsend (fun _ => rfl) _ _).effect
  | sendrecv => exact (asks_cMpiSendrecv (fun _ _ => rfl) _ _ _ _).effect
  | cfiSendrecv => exact (asks_cfiMpiSendrecv (fun _ _ => rfl) _ _ _ _).effect

end Wrappers

section Matching

variable {mpi : Mpi} {reply : Reply} {source tag commF dest : Int} {issued : Issued}

/-- The detection of `MPI_PROC_NULL` makes no difference to what is matched. -/
theorem matches_iff_selects {callee : ReceivingCall} {s t : Nat}
    (apart : mpi.wildcards.Apart vapaaWildcards)
    (passed : issued.envelope = some (callee.sourcePassed mpi source, tag)) :
    issued.Matches mpi s t ↔ mpi.wildcards.Selects source tag s t := by
  have foreign : vapaaMpiProcNull ≠ mpi.anySource :=
    (apart mpi.anySource (by simp [Wildcards.integers, Mpi.wildcards]) vapaaMpiProcNull
      (by simp [Wildcards.integers, vapaaWildcards])).symm
  have direct : issued.Matches mpi s t ↔
      mpi.wildcards.Selects (callee.sourcePassed mpi source) tag s t := by
    constructor
    · rintro ⟨other, label, envelope, selected⟩
      rw [passed] at envelope
      cases envelope
      exact selected
    · intro selected
      exact ⟨_, _, passed, selected⟩
  have detected : mpi.wildcards.Selects (cMpiProcNullDetector mpi source) tag s t ↔
      mpi.wildcards.Selects source tag s t := by
    rw [cMpiProcNullDetector]
    split_ifs with null
    · subst null
      refine iff_of_false (fun selected => selected.1 rfl) ?_
      exact Wildcards.not_selects_of_negative (by decide) foreign
    · exact Iff.rfl
  rw [direct]
  cases callee <;> first | exact detected | exact Iff.rfl

private theorem receivesNothing_iff {callee : ReceivingCall}
    (apart : mpi.wildcards.Apart vapaaWildcards)
    (passed : issued.envelope = some (callee.sourcePassed mpi source, tag)) :
    (source = vapaaMpiProcNull → issued.ReceivesNothing mpi) ↔
      (source = vapaaMpiProcNull → callee.DetectsProcNull) := by
  have foreign : vapaaMpiProcNull ≠ mpi.procNull :=
    (apart mpi.procNull (by simp [Wildcards.integers, Mpi.wildcards]) vapaaMpiProcNull
      (by simp [Wildcards.integers, vapaaWildcards])).symm
  refine forall_congr' fun null => ?_
  subst null
  rw [Issued.ReceivesNothing, passed]
  cases callee <;>
    simp [ReceivingCall.sourcePassed, ReceivingCall.DetectsProcNull, cMpiProcNullDetector, foreign]

/-- Wildcards are passed on as they are, and only the probes look for `MPI_PROC_NULL`: a
call selects what its caller asked for exactly when its source and tag mean the same to
both, and a transfer without a partner completes at once exactly when it is a probe. A
probe and a receive with one source and tag select the same in any case. -/
theorem wrappers_match_iff (proper : mpi.wildcards.Proper)
    (apart : mpi.wildcards.Apart vapaaWildcards) :
    (∀ (callee : ReceivingCall) (reply : Reply) (source tag commF : Int) (process final : Process),
      callee.run mpi reply source tag commF process = .returned ((), final) →
      ∃ issued, final.issued = process.issued ++ [issued] ∧
        ((∀ s t, issued.Matches mpi s t ↔ vapaaWildcards.Selects source tag s t) ∧
            (source = vapaaMpiProcNull → issued.ReceivesNothing mpi) ↔
          mpi.wildcards.Neutral vapaaWildcards source tag ∧
            (source = vapaaMpiProcNull → callee.DetectsProcNull))) ∧
    (∀ (callee : SendingCall) (reply : Reply) (dest commF : Int) (process final : Process),
      callee.run mpi reply dest commF process = .returned ((), final) →
      ∃ issued, final.issued = process.issued ++ [issued] ∧
        ((dest = vapaaMpiProcNull → issued.SendsNothing mpi) ↔ dest ≠ vapaaMpiProcNull)) ∧
    (∀ (probe receive : ReceivingCall) (found asked : Reply) (source tag commF : Int)
        (process middle waiting final : Process),
      probe.run mpi found source tag commF process = .returned ((), middle) →
      receive.run mpi asked source tag commF waiting = .returned ((), final) →
      ∃ first second, middle.issued = process.issued ++ [first] ∧
        final.issued = waiting.issued ++ [second] ∧
        ∀ s t, first.Matches mpi s t ↔ second.Matches mpi s t) := by
  have vapaaProper : vapaaWildcards.Proper :=
    ⟨by decide, by decide, by decide, by decide⟩
  refine ⟨?_, ?_, ?_⟩
  · intro callee reply source tag commF process final returned
    obtain ⟨issued, asked, passed⟩ := callee.asks process () final returned
    refine ⟨issued, asked, and_congr ?_ (receivesNothing_iff apart passed)⟩
    rw [← Wildcards.agree_iff_neutral proper vapaaProper apart]
    simp only [matches_iff_selects apart passed]
  · intro callee reply dest commF process final returned
    obtain ⟨issued, asked, passed⟩ := callee.asks process () final returned
    refine ⟨issued, asked, ?_⟩
    have foreign : vapaaMpiProcNull ≠ mpi.procNull :=
      (apart mpi.procNull (by simp [Wildcards.integers, Mpi.wildcards]) vapaaMpiProcNull
        (by simp [Wildcards.integers, vapaaWildcards])).symm
    rw [Issued.SendsNothing, passed, Option.some.injEq]
    constructor
    · rintro nothing rfl
      exact foreign (nothing rfl)
    · intro other null
      exact absurd null other
  · intro probe receive found asked source tag commF process middle waiting final probed received
    obtain ⟨first, asksFirst, passedFirst⟩ := probe.asks process () middle probed
    obtain ⟨second, asksSecond, passedSecond⟩ := receive.asks waiting () final received
    refine ⟨first, second, asksFirst, asksSecond, fun s t => ?_⟩
    rw [matches_iff_selects apart passedFirst, matches_iff_selects apart passedSecond]

/-- A receive from any source with tag 5 does not match the message of rank 1. -/
theorem wrappers_match_anySource :
    ∃ final issued, (ReceivingCall.recv 4096 1 fortranInteger 2000).run mpich successfulReply
        vapaaMpiAnySource 5 0 startProcess = .returned ((), final) ∧
      final.issued = [issued] ∧ vapaaWildcards.Selects vapaaMpiAnySource 5 1 5 ∧
      ¬ issued.Matches mpich 1 5 := by
  have run : ((ReceivingCall.recv 4096 1 fortranInteger 2000).run mpich successfulReply
      vapaaMpiAnySource 5 0 startProcess >>=
      fun result => .returned (result.2.issued.map Issued.envelope)) =
      .returned [some (-2000, 5)] := by
    decide +kernel
  obtain ⟨⟨⟨⟩, final⟩, returned, envelopes⟩ := Outcome.bind_eq_returned.mp run
  obtain ⟨issued, alone, envelope⟩ := List.map_eq_singleton_iff.mp (Outcome.returned.inj envelopes)
  refine ⟨final, issued, returned, alone, ⟨by decide, Or.inl rfl, Or.inr rfl⟩, ?_⟩
  rintro ⟨source, tag, passed, selected⟩
  rw [envelope] at passed
  cases passed
  exact absurd selected.2.1 (by decide)

/-- A receive from rank 1 with tag 5 matches what it should. -/
theorem wrappers_match_rank :
    ∃ final issued, (ReceivingCall.recv 4096 1 fortranInteger 2000).run mpich successfulReply
        1 5 0 startProcess = .returned ((), final) ∧
      final.issued = [issued] ∧
      ∀ s t, issued.Matches mpich s t ↔ vapaaWildcards.Selects 1 5 s t := by
  have run : ((ReceivingCall.recv 4096 1 fortranInteger 2000).run mpich successfulReply
      1 5 0 startProcess >>= fun result => .returned result.1) = .returned () := by
    decide +kernel
  obtain ⟨⟨⟨⟩, final⟩, returned, -⟩ := Outcome.bind_eq_returned.mp run
  obtain ⟨issued, alone, right⟩ :=
    (@wrappers_match_iff mpich ⟨by decide, by decide, by decide, by decide⟩ (by decide)).1
      (.recv 4096 1 fortranInteger 2000) successfulReply 1 5 0 startProcess final returned
  refine ⟨final, issued, returned, alone, (right.mpr ⟨?_, fun null => ?_⟩).1⟩
  · exact Or.inl ⟨by decide, by decide, fun _ => ⟨by decide, by decide⟩⟩
  · exact absurd null (by decide)

end Matching

end Vapaa
