import Vapaa.BlockCollectives
import Vapaa.BuilderEffects
import Vapaa.ErrorTranslation

/-!
# Temporary datatypes

The datatypes that the wrappers for sections create for the time of a call.
-/

set_option autoImplicit false

namespace Vapaa

open Foundation

/-- Buffers among the arguments of a call, those with a datatype. -/
def Issued.buffers : Issued → List Buffer
  | .complete _ _ | .probe _ _ _ | .mprobe _ _ _ => []
  | .send buffer _ _ _ | .isend buffer _ _ _ | .recv buffer _ _ _ | .irecv buffer _ _ _ => [buffer]
  | .mrecv buffer _ | .imrecv buffer _ => [buffer]
  | .sendrecv sbuffer _ _ rbuffer _ _ _ => [sbuffer, rbuffer]
  | .pack inbuf _ _ _ _ => [inbuf]
  | .unpack _ _ _ outbuf _ => [outbuf]
  | .bcast buffer _ _ => [buffer]
  | .gather input output _ _ | .scatter input output _ _ => [input, output]
  | .allgather input output _ | .alltoall input output _ => [input, output]

/-- What a packing routine of the library answers for a buffer: a code, a position and
the memory afterwards. -/
abbrev PackAnswer := Buffer → Process → (Int × Int) × Memory Int UInt8

/-- A packing routine of the library, whatever it answers. -/
def answerPack (issued : Buffer → Issued) (answer : PackAnswer) (address count datatype : Int) :
    Wrapper (Int × Int) := do
  let buffer ← bufferOf address count datatype
  issue (issued buffer)
  fun process =>
    .returned ((answer buffer process).1, { process with memory := (answer buffer process).2 })

/-- The wrappers that make datatypes for sections, with their arguments; those that pack
and unpack with the answer of the library as well. -/
inductive SectionCall where
  | send (desc : CDesc) (count datatypeF dest tag commF : Int)
  | isend (desc : CDesc) (count datatypeF dest tag commF : Int)
  | recv (desc : CDesc) (count datatypeF source tag commF status : Int)
  | irecv (desc : CDesc) (count datatypeF source tag commF : Int)
  | mrecv (desc : CDesc) (count datatypeF messageF status : Int)
  | imrecv (desc : CDesc) (count datatypeF messageF : Int)
  | sendrecv (sdesc : CDesc) (scount sdatatypeF dest stag : Int) (rdesc : CDesc)
      (rcount rdatatypeF src rtag commF status : Int)
  | pack (indesc : CDesc) (incount datatypeF : Int) (outdesc : CDesc)
      (outsize position commF : Int) (answer : PackAnswer)
  | unpack (indesc : CDesc) (insize position : Int) (outdesc : CDesc)
      (outcount datatypeF commF : Int) (answer : PackAnswer)
  | bcast (desc : CDesc) (count datatypeF root commF : Int)
  | gather (input : CDesc) (scount stypeF : Int) (output : CDesc) (rcount rtypeF root commF : Int)
  | allgather (input : CDesc) (scount stypeF : Int) (output : CDesc) (rcount rtypeF commF : Int)
  | scatter (input : CDesc) (scount stypeF : Int) (output : CDesc) (rcount rtypeF root commF : Int)
  | alltoall (input : CDesc) (scount stypeF : Int) (output : CDesc) (rcount rtypeF commF : Int)

namespace SectionCall

/-- The final value of `*ierror`. -/
def ierror (mpi : Mpi) (reply : Reply) : SectionCall → Wrapper Int
  | send desc count datatypeF dest tag commF =>
      cfiMpiSend mpi reply desc count datatypeF dest tag commF
  | isend desc count datatypeF dest tag commF =>
      Prod.snd <$> cfiMpiIsend mpi reply desc count datatypeF dest tag commF
  | recv desc count datatypeF source tag commF status =>
      cfiMpiRecv mpi reply desc count datatypeF source tag commF status
  | irecv desc count datatypeF source tag commF =>
      Prod.snd <$> cfiMpiIrecv mpi reply desc count datatypeF source tag commF
  | mrecv desc count datatypeF messageF status =>
      Prod.snd <$> cfiMpiMrecv mpi reply desc count datatypeF messageF status
  | imrecv desc count datatypeF messageF =>
      (fun results => results.2.2) <$> cfiMpiImrecv mpi reply desc count datatypeF messageF
  | sendrecv sdesc scount sdatatypeF dest stag rdesc rcount rdatatypeF src rtag commF status =>
      cfiMpiSendrecv mpi reply sdesc scount sdatatypeF dest stag rdesc rcount rdatatypeF src rtag
        commF status
  | pack indesc incount datatypeF outdesc outsize position commF answer =>
      Prod.snd <$> cfiPacking mpi "MPI_Pack requires the output buffer be contiguous.\n" outdesc
        position indesc incount datatypeF
        (answerPack (fun inbuf => .pack inbuf outdesc.baseAddr outsize position
          (cMpiCommF2c mpi commF)) answer)
  | unpack indesc insize position outdesc outcount datatypeF commF answer =>
      Prod.snd <$> cfiPacking mpi "MPI_Unpack requires the input buffer be contiguous.\n" indesc
        position outdesc outcount datatypeF
        (answerPack (fun outbuf => .unpack indesc.baseAddr insize position outbuf
          (cMpiCommF2c mpi commF)) answer)
  | bcast desc count datatypeF root commF =>
      cfiMpiBcast mpi reply desc count datatypeF root commF
  | gather input scount stypeF output rcount rtypeF root commF =>
      cfiMpiGather mpi reply input scount stypeF output rcount rtypeF root commF
  | allgather input scount stypeF output rcount rtypeF commF =>
      cfiMpiAllgather mpi reply input scount stypeF output rcount rtypeF commF
  | scatter input scount stypeF output rcount rtypeF root commF =>
      cfiMpiScatter mpi reply input scount stypeF output rcount rtypeF root commF
  | alltoall input scount stypeF output rcount rtypeF commF =>
      cfiMpiAlltoall mpi reply input scount stypeF output rcount rtypeF commF

/-- The datatypes of the caller, each with the descriptor that decides whether the wrapper
makes a temporary one in its place. -/
def datatypes (mpi : Mpi) : SectionCall → List (CDesc × Int)
  | send desc _ datatypeF _ _ _ => [(desc, cMpiTypeF2c mpi datatypeF)]
  | isend desc _ datatypeF _ _ _ => [(desc, cMpiTypeF2c mpi datatypeF)]
  | recv desc _ datatypeF _ _ _ _ => [(desc, cMpiTypeF2c mpi datatypeF)]
  | irecv desc _ datatypeF _ _ _ => [(desc, cMpiTypeF2c mpi datatypeF)]
  | mrecv desc _ datatypeF _ _ => [(desc, cMpiTypeF2c mpi datatypeF)]
  | imrecv desc _ datatypeF _ => [(desc, cMpiTypeF2c mpi datatypeF)]
  | sendrecv sdesc _ sdatatypeF _ _ _ _ rdatatypeF _ _ _ _ =>
      [(sdesc, cMpiTypeF2c mpi sdatatypeF), (sdesc, cMpiTypeF2c mpi rdatatypeF)]
  | pack indesc _ datatypeF _ _ _ _ _ => [(indesc, cMpiTypeF2c mpi datatypeF)]
  | unpack _ _ _ outdesc _ datatypeF _ _ => [(outdesc, cMpiTypeF2c mpi datatypeF)]
  | bcast desc _ datatypeF _ _ => [(desc, cMpiTypeF2c mpi datatypeF)]
  | gather input _ stypeF output _ rtypeF _ _ =>
      [(input, cMpiTypeF2c mpi stypeF), (output, cMpiTypeF2c mpi rtypeF)]
  | allgather input _ stypeF output _ rtypeF _ =>
      [(input, cMpiTypeF2c mpi stypeF), (output, cMpiTypeF2c mpi rtypeF)]
  | scatter input _ stypeF output _ rtypeF _ _ =>
      [(input, cMpiTypeF2c mpi stypeF), (output, cMpiTypeF2c mpi rtypeF)]
  | alltoall input _ stypeF output _ rtypeF _ =>
      [(input, cMpiTypeF2c mpi stypeF), (output, cMpiTypeF2c mpi rtypeF)]

end SectionCall

section Answers

variable (mpi : Mpi)

def packAnswer (outbuf outsize position : Int) : PackAnswer := fun buffer process =>
  match buffer.object with
  | none => ((mpi.errorClass .errType, position), process.memory)
  | some object =>
      let size : Int := buffer.count * object.layout.size
      if object.committed = false then ((mpi.errorClass .errType, position), process.memory)
      else if buffer.count < 0 then ((mpi.errorClass .errCount, position), process.memory)
      else if position < 0 ∨ outsize < position + size then
        ((mpi.errorClass .errArg, position), process.memory)
      else
        ((mpi.errorClass .success, position + size), process.memory.writeAll
          ((packedSpan outbuf position size).zip (buffer.locations.map process.memory)))

def unpackAnswer (inbuf insize position : Int) : PackAnswer := fun buffer process =>
  match buffer.object with
  | none => ((mpi.errorClass .errType, position), process.memory)
  | some object =>
      let size : Int := buffer.count * object.layout.size
      if object.committed = false then ((mpi.errorClass .errType, position), process.memory)
      else if buffer.count < 0 then ((mpi.errorClass .errCount, position), process.memory)
      else if position < 0 ∨ insize < position + size then
        ((mpi.errorClass .errArg, position), process.memory)
      else
        ((mpi.errorClass .success, position + size), process.memory.writeAll
          (buffer.locations.zip ((packedSpan inbuf position size).map process.memory)))

private theorem mpiPack_eq_answerPack (inbuf incount datatype outbuf outsize position comm : Int) :
    mpiPack mpi inbuf incount datatype outbuf outsize position comm =
      answerPack (fun buffer => .pack buffer outbuf outsize position comm)
        (packAnswer mpi outbuf outsize position) inbuf incount datatype := by
  funext process
  simp only [mpiPack, answerPack, Run.bind_apply, bufferOf, issue, Outcome.returned_bind,
    packAnswer, TypeStore.buffer]
  cases process.world.types.object datatype with
  | none => rfl
  | some object =>
      dsimp only
      split_ifs <;> rfl

private theorem mpiUnpack_eq_answerPack
    (inbuf insize position outbuf outcount datatype comm : Int) :
    mpiUnpack mpi inbuf insize position outbuf outcount datatype comm =
      answerPack (fun buffer => .unpack inbuf insize position buffer comm)
        (unpackAnswer mpi inbuf insize position) outbuf outcount datatype := by
  funext process
  simp only [mpiUnpack, answerPack, Run.bind_apply, bufferOf, issue, Outcome.returned_bind,
    unpackAnswer, TypeStore.buffer]
  cases process.world.types.object datatype with
  | none => rfl
  | some object =>
      dsimp only
      split_ifs <;> rfl

theorem ierror_pack (reply : Reply) (indesc outdesc : CDesc)
    (incount datatypeF outsize position commF : Int) :
    (SectionCall.pack indesc incount datatypeF outdesc outsize position commF
        (packAnswer mpi outdesc.baseAddr outsize position)).ierror mpi reply =
      Prod.snd <$> cfiMpiPack mpi indesc incount datatypeF outdesc outsize position commF := by
  rw [cfiMpiPack_eq]
  simp only [mpiPack_eq_answerPack]
  rfl

theorem ierror_unpack (reply : Reply) (indesc outdesc : CDesc)
    (insize position outcount datatypeF commF : Int) :
    (SectionCall.unpack indesc insize position outdesc outcount datatypeF commF
        (unpackAnswer mpi indesc.baseAddr insize position)).ierror mpi reply =
      Prod.snd <$> cfiMpiUnpack mpi indesc insize position outdesc outcount datatypeF commF := by
  rw [cfiMpiUnpack_eq]
  simp only [mpiUnpack_eq_answerPack]
  rfl

end Answers

/-- Datatypes before, during and after a call of the library: the temporary ones are new,
committed during the call and gone after it; all others are there throughout. -/
structure Lent (before during after : TypeStore) (temporaries : List Int) : Prop where
  distinct : temporaries.Nodup
  fresh : ∀ handle ∈ temporaries, before.next ≤ handle ∧ handle < after.next
  committed : ∀ handle ∈ temporaries, ∃ layout, during.object handle =
    some { combiner := .derived, layout := layout, committed := true }
  others : ∀ handle, handle ∉ temporaries → during.object handle = before.object handle
  restored : before.Restored after

/-- A buffer has the datatype of the caller where the descriptor is contiguous, and else a
temporary one. -/
def PassedAs (mpi : Mpi) (during : TypeStore) (temporaries : List Int) (datatype : CDesc × Int)
    (buffer : Buffer) : Prop :=
  ∃ handle, buffer.object = during.object handle ∧
    if mpi.cfiIsContiguous datatype.1 = 1 then handle = datatype.2 else handle ∈ temporaries

/-- What a wrapper for sections does to the datatypes, and what it passes. -/
structure Clean (mpi : Mpi) (datatypes : List (CDesc × Int)) (before after : Process) : Prop where
  lent : ∃ during temporaries issued,
    Lent before.world.types during after.world.types temporaries ∧
    after.issued = before.issued ++ issued ∧ issued.length ≤ 1 ∧
    ∀ call ∈ issued, List.Forall₂ (PassedAs mpi during temporaries) datatypes call.buffers

section Rules

variable {α β : Type} {mpi : Mpi} {reply : Reply} {process : Process}

/-- The run neither touches a datatype nor calls the library. -/
def Still (run : Wrapper α) : Prop :=
  ∀ process, Run.Ensures run process fun _ final =>
    final.world.types = process.world.types ∧ final.issued = process.issued

private theorem still_pure (value : α) : Still (pure value : Wrapper α) :=
  fun _ => Run.ensures_pure ⟨rfl, rfl⟩

private theorem still_call {run : Call α} (keeps : Keeps run) : Still (call run) := by
  intro process
  refine (call_ensures (keeps process.world)).mono ?_
  rintro value final ⟨world, same, rfl⟩
  exact ⟨same, rfl⟩

theorem Still.bind {run : Wrapper α} {next : α → Wrapper β} (first : Still run)
    (rest : ∀ value, Still (next value)) : Still (run >>= next) := by
  intro process
  refine (first process).bind ?_
  rintro value middle ⟨types, issued⟩
  exact (rest value middle).mono fun _ _ still => ⟨still.1.trans types, still.2.trans issued⟩

private theorem keeps_cMpiRcFix (rc : Int) : Keeps (cMpiRcFix mpi rc) := by
  rw [cMpiRcFix]
  split_ifs
  · refine (keeps_assert _).bind fun _ => (keeps_readSet _).bind fun error => ?_
    cases errorClassFound mpi error with
    | some errorClass => exact keeps_pure _
    | none => exact (keeps_warning _).bind fun _ => keeps_pure _
  · exact keeps_pure rc

private theorem still_statusArgument (status : Int) : Still (statusArgument mpi status) :=
  fun process => Run.ensures_of_returned (statusArgument_apply mpi status process) ⟨rfl, rfl⟩

private theorem still_inPlaceArgument (address : Int) : Still (inPlaceArgument mpi address) :=
  fun process => Run.ensures_of_returned (inPlaceArgument_apply mpi address process) ⟨rfl, rfl⟩

/-- The run calls the library once, with these buffers. -/
def Passes (run : Wrapper α) (buffers : TypeStore → List Buffer) : Prop :=
  ∀ process, Run.Ensures run process fun _ final => final.world.types = process.world.types ∧
    ∃ issued, final.issued = process.issued ++ [issued] ∧
      issued.buffers = buffers process.world.types

theorem Still.passes {run : Wrapper α} {next : α → Wrapper β} {buffers : TypeStore → List Buffer}
    (first : Still run) (rest : ∀ value, Passes (next value) buffers) :
    Passes (run >>= next) buffers := by
  intro process
  refine (first process).bind ?_
  rintro value middle ⟨types, issued⟩
  have passed := rest value middle
  rw [types, issued] at passed
  exact passed

private theorem openSubarray_ensures {desc : CDesc} {count datatype initial : Int}
    {next : Int → Wrapper α} {post : α → Process → Prop} (active : mpi.seatbelts = true)
    (rest : ∀ handle opened layout,
      TypeStore.Creates process.world.types opened.types handle
        { combiner := .derived, layout := layout, committed := true } →
      Run.Ensures (next handle) { process with world := opened } post) :
    Run.Ensures (openSubarray mpi desc count datatype initial next) process post := by
  refine (call_ensures (vapaaCfiCreateDatatype_constructed (Or.inl active))).bind ?_
  rintro ⟨rc, handle⟩ middle ⟨built, constructed, rfl⟩
  refine (call_ensures (vapaaAssert_ensures mpi _ _)).bind ?_
  rintro _ final ⟨last, ⟨rfl, succeeded | off⟩, rfl⟩
  swap
  · rw [active] at off
    cases off
  cases constructed with
  | untouched restored same reported =>
      have off := reported (of_decide_eq_true succeeded)
      rw [active] at off
      cases off
  | created creates =>
      have committed : pmpiTypeCommit mpi handle last =
          .returned (mpi.errorClass .success,
            { last with types := last.types.commit handle }) := by
        simp only [pmpiTypeCommit, creates.live]
      refine Run.ensures_bind_of_returned (call_of_returned committed) ?_
      refine (call_ensures (vapaaAssert_ensures mpi _ _)).bind ?_
      rintro _ after ⟨asserted, ⟨rfl, -⟩, rfl⟩
      exact rest handle _ _ creates.commit

end Rules

section Lending

variable {before middle during : TypeStore} {first second : Int} {inner outer : Layout}

theorem TypeStore.Creates.below_next {created : TypeObject} {handle : Int}
    (creates : TypeStore.Creates before during handle created) : handle < during.next := by
  by_contra beyond
  have free := during.free handle (not_lt.mp beyond)
  rw [creates.live] at free
  cases free

theorem TypeStore.Creates.ne_of_live {created object : TypeObject}
    (creates : TypeStore.Creates before during second created)
    (live : before.object first = some object) : second ≠ first := by
  rintro rfl
  have unused := creates.unused
  rw [live] at unused
  cases unused

private theorem lent_none (types : TypeStore) : Lent types types types [] where
  distinct := List.nodup_nil
  fresh := by simp
  committed := by simp
  others := fun _ _ => rfl
  restored := TypeStore.Restored.refl types

private theorem lent_one (creates : TypeStore.Creates before during first
      { combiner := .derived, layout := inner, committed := true }) :
    Lent before during (during.remove first) [first] where
  distinct := List.nodup_singleton first
  fresh := by
    intro handle member
    rw [List.mem_singleton.mp member]
    exact ⟨creates.fresh, creates.below_next⟩
  committed := by
    intro handle member
    rw [List.mem_singleton.mp member]
    exact ⟨inner, creates.live⟩
  others := fun handle absent => creates.others handle fun same => absent (by simp [same])
  restored := creates.remove

private theorem lent_two (creates : TypeStore.Creates before middle first
      { combiner := .derived, layout := inner, committed := true })
    (again : TypeStore.Creates middle during second
      { combiner := .derived, layout := outer, committed := true }) :
    Lent before during ((during.remove first).remove second) [first, second] := by
  have kept := again.keeps creates.live
  have different := again.ne_of_live creates.live
  refine ⟨by simp [different.symm], ?_, ?_, ?_, ?_⟩
  · intro handle member
    have later : during.next ≤ ((during.remove first).remove second).next := le_refl _
    cases member with
    | head => exact ⟨creates.fresh, lt_of_lt_of_le creates.below_next (le_trans again.later later)⟩
    | tail _ member =>
        rw [List.mem_singleton.mp member]
        exact ⟨le_trans creates.later again.fresh, lt_of_lt_of_le again.below_next later⟩
  · intro handle member
    cases member with
    | head => exact ⟨inner, kept⟩
    | tail _ member =>
        rw [List.mem_singleton.mp member]
        exact ⟨outer, again.live⟩
  · intro handle absent
    simp only [List.mem_cons, List.not_mem_nil, or_false, not_or] at absent
    rw [again.others handle absent.2, creates.others handle absent.1]
  · exact (creates.remove_first again).remove

end Lending

section Wrappers

variable {α β : Type} {mpi : Mpi} {reply : Reply} {process : Process} {desc : CDesc}
variable {datatypes : List (CDesc × Int)} {count datatype : Int}

/-- Whatever a run without effects on datatypes does afterwards. -/
theorem Clean.still {run : Wrapper α} {next : α → Wrapper β}
    (clean : Run.Ensures run process fun _ final => Clean mpi datatypes process final)
    (rest : ∀ value, Still (next value)) :
    Run.Ensures (run >>= next) process fun _ final => Clean mpi datatypes process final := by
  refine clean.bind ?_
  rintro value middle ⟨during, temporaries, issued, lent, listed, once, passed⟩
  refine (rest value middle).mono ?_
  rintro _ final ⟨types, unissued⟩
  rw [← types] at lent
  exact ⟨during, temporaries, issued, lent, unissued.trans listed, once, passed⟩

theorem Still.clean {run : Wrapper α} {next : α → Wrapper β} (first : Still run)
    (rest : ∀ value process, Run.Ensures (next value) process fun _ final =>
      Clean mpi datatypes process final) :
    Run.Ensures (run >>= next) process fun _ final => Clean mpi datatypes process final := by
  refine (first process).bind ?_
  rintro value middle ⟨types, issued⟩
  refine (rest value middle).mono ?_
  rintro _ final ⟨during, temporaries, calls, lent, listed, once, passed⟩
  rw [types] at lent
  rw [issued] at listed
  exact ⟨during, temporaries, calls, lent, listed, once, passed⟩

/-- A section passed to the library as one element of a temporary datatype, or as it is. -/
theorem withSection_clean (active : mpi.seatbelts = true)
    {communicate : Int → Int → Int → Wrapper α}
    (passes : ∀ buffer count datatype, Passes (communicate buffer count datatype) fun types =>
      [types.buffer buffer count datatype]) :
    Run.Ensures (withSection mpi desc count datatype communicate) process fun _ final =>
      Clean mpi [(desc, datatype)] process final := by
  by_cases contiguous : mpi.cfiIsContiguous desc = 1
  · rw [withSection, if_pos contiguous]
    refine (passes _ _ _ process).mono ?_
    rintro _ final ⟨types, issued, listed, buffers⟩
    refine ⟨process.world.types, [], [issued], types.symm ▸ lent_none _, listed, by simp, ?_⟩
    intro call member
    rw [List.mem_singleton.mp member, buffers]
    exact .cons ⟨datatype, rfl, by rw [if_pos contiguous]⟩ .nil
  · rw [withSection, if_neg contiguous, withSubarrayType_eq]
    refine openSubarray_ensures active fun handle opened layout creates => ?_
    refine (passes _ _ _ _).bind ?_
    rintro result middle ⟨types, issued, listed, buffers⟩
    dsimp only at types
    rw [← types] at creates
    refine Run.Ensures.of_eq ?_ (closeSubarray_of_live creates.live (pure result))
    refine Run.ensures_pure ⟨middle.world.types, [handle], [issued], lent_one creates, listed,
      by simp, ?_⟩
    intro call member
    rw [List.mem_singleton.mp member, buffers, types]
    exact .cons ⟨handle, rfl, by rw [if_neg contiguous]; simp⟩ .nil

private theorem cfiMpiSendrecv_clean (active : mpi.seatbelts = true) (sdesc rdesc : CDesc)
    (scount sdatatypeF dest stag rcount rdatatypeF src rtag commF status : Int) :
    Run.Ensures (cfiMpiSendrecv mpi reply sdesc scount sdatatypeF dest stag rdesc rcount
        rdatatypeF src rtag commF status) process fun _ final =>
      Clean mpi [(sdesc, cMpiTypeF2c mpi sdatatypeF), (sdesc, cMpiTypeF2c mpi rdatatypeF)]
        process final := by
  have passes (sbuffer scount stype rbuffer rcount rtype comm : Int) :
      Passes (statusArgument mpi status >>= fun pointer =>
          mpiSendrecv mpi reply sbuffer scount stype dest stag rbuffer rcount rtype src rtag comm
            pointer)
        fun types => [types.buffer sbuffer scount stype, types.buffer rbuffer rcount rtype] :=
    (still_statusArgument status).passes fun _ _ =>
      Run.ensures_of_returned rfl ⟨rfl, _, rfl, rfl⟩
  by_cases contiguous : mpi.cfiIsContiguous sdesc = 1
  · rw [cfiMpiSendrecv_of_contiguous contiguous]
    refine Clean.still ?_ fun ierror => still_call (keeps_cMpiRcFix ierror)
    refine (passes _ _ _ _ _ _ _ process).mono ?_
    rintro _ final ⟨types, issued, listed, buffers⟩
    refine ⟨process.world.types, [], [issued], types.symm ▸ lent_none _, listed, by simp, ?_⟩
    intro call member
    rw [List.mem_singleton.mp member, buffers]
    exact .cons ⟨_, rfl, by rw [if_pos contiguous]⟩ (.cons ⟨_, rfl, by rw [if_pos contiguous]⟩ .nil)
  · rw [cfiMpiSendrecv_of_scattered contiguous]
    refine Clean.still ?_ fun ierror => still_call (keeps_cMpiRcFix ierror)
    refine openSubarray_ensures active fun first opened inner creates => ?_
    refine openSubarray_ensures active fun second reopened outer again => ?_
    rw [← bind_assoc]
    refine (passes _ _ _ _ _ _ _ _).bind ?_
    rintro ierror middle ⟨types, issued, listed, buffers⟩
    dsimp only at types creates again
    rw [← types] at again
    refine Run.Ensures.of_eq ?_ (closeSubarray_of_live (again.keeps creates.live) _)
    have live : (middle.world.types.remove first).object second = _ :=
      (TypeStore.remove_object_of_ne _ (again.ne_of_live creates.live)).trans again.live
    refine Run.Ensures.of_eq ?_ (closeSubarray_of_live live _)
    refine Run.ensures_pure ⟨middle.world.types, [first, second], [issued],
      lent_two creates again, listed, by simp, ?_⟩
    intro call member
    rw [List.mem_singleton.mp member, buffers, types]
    exact .cons ⟨first, rfl, by rw [if_neg contiguous]; simp⟩
      (.cons ⟨second, rfl, by rw [if_neg contiguous]; simp⟩ .nil)

/-- One side of a collective: the handle that it passes, and the datatypes there are then. -/
inductive SideOpened (mpi : Mpi) (desc : CDesc) (datatype : Int) (before : Process) (passed : Int)
    (after : Process) : Prop where
  | own (contiguous : mpi.cfiIsContiguous desc = 1) (handle : passed = datatype)
      (same : after = before)
  | temporary (scattered : mpi.cfiIsContiguous desc ≠ 1) {layout : Layout} {opened : World}
      (creates : TypeStore.Creates before.world.types opened.types passed
        { combiner := .derived, layout := layout, committed := true })
      (same : after = { before with world := opened })

private theorem openSide_ensures (active : mpi.seatbelts = true) (desc : CDesc)
    (count datatype : Int) :
    Run.Ensures (openSide mpi desc count datatype) process fun passed final =>
      SideOpened mpi desc datatype process passed.2 final := by
  by_cases contiguous : mpi.cfiIsContiguous desc = 1
  · rw [openSide, if_pos contiguous]
    exact Run.ensures_pure (.own contiguous rfl rfl)
  · rw [openSide_of_scattered contiguous]
    exact openSubarray_ensures active fun handle opened layout creates =>
      Run.ensures_pure (.temporary contiguous creates rfl)

private theorem closeSide_of_contiguous (contiguous : mpi.cfiIsContiguous desc = 1) (handle : Int) :
    closeSide mpi desc handle = pure () := by
  rw [closeSide, if_pos contiguous]

private theorem closeSide_of_live {handle : Int} {layout : Layout}
    (scattered : mpi.cfiIsContiguous desc ≠ 1)
    (live : process.world.types.object handle =
      some { combiner := .derived, layout := layout, committed := true }) :
    closeSide mpi desc handle process = .returned ((), { process with world :=
      { process.world with types := process.world.types.remove handle } }) := by
  have closed := @closeSubarray_of_live Unit mpi process handle layout true live (pure ())
  simp only [closeSubarray, bind_pure_unit] at closed
  rw [closeSide, if_neg scattered]
  exact closed

/-- Each side of a collective has its own temporary datatype, or none. -/
theorem blockCollective_clean (active : mpi.seatbelts = true) {input output : CDesc}
    {scount stypeF rcount rtypeF commF : Int}
    {communicate : Int → Int → Int → Int → Int → Int → Int → Wrapper Int}
    (passes : ∀ inAddr inCount inType outAddr outCount outType comm,
      Passes (communicate inAddr inCount inType outAddr outCount outType comm) fun types =>
        [types.buffer inAddr inCount inType, types.buffer outAddr outCount outType]) :
    Run.Ensures (blockCollective mpi input scount stypeF output rcount rtypeF commF communicate)
      process fun _ final => Clean mpi
        [(input, cMpiTypeF2c mpi stypeF), (output, cMpiTypeF2c mpi rtypeF)] process final := by
  rw [blockCollective]
  refine (still_inPlaceArgument _).clean fun inAddr first => ?_
  refine (still_inPlaceArgument _).clean fun outAddr second => ?_
  refine (openSide_ensures active _ _ _).bind ?_
  rintro ⟨inCount, inType⟩ third openedIn
  refine (openSide_ensures active _ _ _).bind ?_
  rintro ⟨outCount, outType⟩ fourth openedOut
  refine (passes _ _ _ _ _ _ _ fourth).bind ?_
  rintro ierror fifth ⟨types, issued, listed, buffers⟩
  refine (still_call (keeps_cMpiRcFix ierror) fifth).bind ?_
  rintro code last ⟨fixedTypes, fixedIssued⟩
  have during := fixedTypes.trans types
  have calls := fixedIssued.trans listed
  dsimp only at openedIn openedOut buffers ⊢
  cases openedIn with
  | own contiguousIn handleIn sameIn =>
      subst sameIn handleIn
      rw [closeSide_of_contiguous contiguousIn, pure_bind]
      cases openedOut with
      | own contiguousOut handleOut sameOut =>
          subst sameOut handleOut
          rw [closeSide_of_contiguous contiguousOut, pure_bind]
          refine Run.ensures_pure ⟨last.world.types, [], [issued], ?_, calls, by simp, ?_⟩
          · rw [during]
            exact lent_none _
          intro call member
          rw [List.mem_singleton.mp member, buffers, during]
          exact .cons ⟨_, rfl, by rw [if_pos contiguousIn]⟩
            (.cons ⟨_, rfl, by rw [if_pos contiguousOut]⟩ .nil)
      | temporary scatteredOut creates sameOut =>
          subst sameOut
          rw [← during] at creates
          refine Run.ensures_bind_of_returned (closeSide_of_live scatteredOut creates.live) ?_
          refine Run.ensures_pure ⟨last.world.types, [outType], [issued], lent_one creates, calls,
            by simp, ?_⟩
          intro call member
          rw [List.mem_singleton.mp member, buffers, during]
          exact .cons ⟨_, rfl, by rw [if_pos contiguousIn]⟩
            (.cons ⟨outType, rfl, by rw [if_neg scatteredOut]; simp⟩ .nil)
  | temporary scatteredIn creates sameIn =>
      subst sameIn
      cases openedOut with
      | own contiguousOut handleOut sameOut =>
          subst sameOut handleOut
          rw [← during] at creates
          rw [closeSide_of_contiguous contiguousOut]
          refine Run.ensures_bind_of_returned (closeSide_of_live scatteredIn creates.live) ?_
          refine Run.ensures_pure ⟨last.world.types, [inType], [issued], lent_one creates, calls,
            by simp, ?_⟩
          intro call member
          rw [List.mem_singleton.mp member, buffers, during]
          exact .cons ⟨inType, rfl, by rw [if_neg scatteredIn]; simp⟩
            (.cons ⟨_, rfl, by rw [if_pos contiguousOut]⟩ .nil)
      | temporary scatteredOut again sameOut =>
          subst sameOut
          rw [← during] at again
          refine Run.ensures_bind_of_returned
            (closeSide_of_live scatteredIn (again.keeps creates.live)) ?_
          have live : (last.world.types.remove inType).object outType = _ :=
            (TypeStore.remove_object_of_ne _ (again.ne_of_live creates.live)).trans again.live
          refine Run.ensures_bind_of_returned (closeSide_of_live scatteredOut live) ?_
          refine Run.ensures_pure ⟨last.world.types, [inType, outType], [issued],
            lent_two creates again, calls, by simp, ?_⟩
          intro call member
          rw [List.mem_singleton.mp member, buffers, during]
          exact .cons ⟨inType, rfl, by rw [if_neg scatteredIn]; simp⟩
            (.cons ⟨outType, rfl, by rw [if_neg scatteredOut]; simp⟩ .nil)

private theorem cfiPacking_clean (active : mpi.seatbelts = true) {warning : String} {packed : CDesc}
    {position datatypeF : Int} {issued : Buffer → Issued} {answer : PackAnswer}
    (buffers : ∀ buffer, (issued buffer).buffers = [buffer]) :
    Run.Ensures (Prod.snd <$> cfiPacking mpi warning packed position desc count datatypeF
        (answerPack issued answer)) process fun _ final =>
      Clean mpi [(desc, cMpiTypeF2c mpi datatypeF)] process final := by
  refine Run.ensures_map (Clean.still ?_ fun results =>
    (still_call (keeps_cMpiRcFix _)).bind fun _ => still_pure _)
  split_ifs
  · refine ((still_call (keeps_warning warning)).bind fun _ => still_pure _) process |>.mono ?_
    rintro _ final ⟨types, unissued⟩
    exact ⟨process.world.types, [], [], types.symm ▸ lent_none _, by simp [unissued], by simp,
      by simp⟩
  · exact withSection_clean active fun _ _ _ _ =>
      Run.ensures_of_returned rfl ⟨rfl, _, rfl, buffers _⟩

theorem Clean.fixed {run : Wrapper Int} (clean : Run.Ensures run process fun _ final =>
      Clean mpi datatypes process final) :
    Run.Ensures (run >>= fun ierror => call (cMpiRcFix mpi ierror)) process fun _ final =>
      Clean mpi datatypes process final :=
  Clean.still clean fun ierror => still_call (keeps_cMpiRcFix ierror)

theorem Clean.fixed_with {run : Wrapper Int} {result : Int → α} {get : α → Int}
    (clean : Run.Ensures run process fun _ final => Clean mpi datatypes process final) :
    Run.Ensures (get <$> (run >>= fun ierror => do return result (← call (cMpiRcFix mpi ierror))))
      process fun _ final => Clean mpi datatypes process final :=
  Run.ensures_map (Clean.still clean fun ierror =>
    (still_call (keeps_cMpiRcFix ierror)).bind fun _ => still_pure _)

/-- What each wrapper does to the datatypes, whatever the library answers. -/
theorem SectionCall.clean (active : mpi.seatbelts = true) (callee : SectionCall) :
    Run.Ensures (callee.ierror mpi reply) process fun _ final =>
      Clean mpi (callee.datatypes mpi) process final := by
  cases callee with
  | send desc count datatypeF dest tag commF =>
      exact Clean.fixed (withSection_clean active fun _ _ _ _ =>
        Run.ensures_of_returned rfl ⟨rfl, _, rfl, rfl⟩)
  | isend desc count datatypeF dest tag commF =>
      exact Clean.fixed_with (withSection_clean active fun _ _ _ _ =>
        Run.ensures_of_returned rfl ⟨rfl, _, rfl, rfl⟩)
  | recv desc count datatypeF source tag commF status =>
      exact Clean.fixed (withSection_clean active fun _ _ _ =>
        (still_statusArgument status).passes fun _ _ =>
          Run.ensures_of_returned rfl ⟨rfl, _, rfl, rfl⟩)
  | irecv desc count datatypeF source tag commF =>
      exact Clean.fixed_with (withSection_clean active fun _ _ _ _ =>
        Run.ensures_of_returned rfl ⟨rfl, _, rfl, rfl⟩)
  | mrecv desc count datatypeF messageF status =>
      exact Clean.fixed_with (withSection_clean active fun _ _ _ =>
        (still_statusArgument status).passes fun _ _ =>
          Run.ensures_of_returned rfl ⟨rfl, _, rfl, rfl⟩)
  | imrecv desc count datatypeF messageF =>
      exact Clean.fixed_with (withSection_clean active fun _ _ _ _ =>
        Run.ensures_of_returned rfl ⟨rfl, _, rfl, rfl⟩)
  | sendrecv sdesc scount sdatatypeF dest stag rdesc rcount rdatatypeF src rtag commF status =>
      exact cfiMpiSendrecv_clean active _ _ _ _ _ _ _ _ _ _ _ _
  | pack indesc incount datatypeF outdesc outsize position commF answer =>
      exact cfiPacking_clean active fun _ => rfl
  | unpack indesc insize position outdesc outcount datatypeF commF answer =>
      exact cfiPacking_clean active fun _ => rfl
  | bcast desc count datatypeF root commF =>
      exact Clean.fixed (withSection_clean active fun _ _ _ _ =>
        Run.ensures_of_returned rfl ⟨rfl, _, rfl, rfl⟩)
  | gather input scount stypeF output rcount rtypeF root commF =>
      rw [SectionCall.ierror, cfiMpiGather]
      exact blockCollective_clean active fun _ _ _ _ _ _ _ _ =>
        Run.ensures_of_returned rfl ⟨rfl, _, rfl, rfl⟩
  | allgather input scount stypeF output rcount rtypeF commF =>
      rw [SectionCall.ierror, cfiMpiAllgather]
      exact blockCollective_clean active fun _ _ _ _ _ _ _ _ =>
        Run.ensures_of_returned rfl ⟨rfl, _, rfl, rfl⟩
  | scatter input scount stypeF output rcount rtypeF root commF =>
      rw [SectionCall.ierror, cfiMpiScatter]
      exact blockCollective_clean active fun _ _ _ _ _ _ _ _ =>
        Run.ensures_of_returned rfl ⟨rfl, _, rfl, rfl⟩
  | alltoall input scount stypeF output rcount rtypeF commF =>
      rw [SectionCall.ierror, cfiMpiAlltoall]
      exact blockCollective_clean active fun _ _ _ _ _ _ _ _ =>
        Run.ensures_of_returned rfl ⟨rfl, _, rfl, rfl⟩

end Wrappers

section Programs

/-- A program of these calls, with what the library answers to each: the process after
every call. -/
def sectionCalls (mpi : Mpi) : List (SectionCall × Reply) → Wrapper (List Process)
  | [] => return []
  | (callee, reply) :: calls => do
      let _ ← callee.ierror mpi reply
      let after ← get
      return after :: (← sectionCalls mpi calls)

/-- Every call is clean between the process before it and the process after it. -/
inductive CleanCalls (mpi : Mpi) : Process → List (SectionCall × Reply) → List Process → Prop where
  | nil (process : Process) : CleanCalls mpi process [] []
  | cons {before after : Process} {callee : SectionCall} {reply : Reply}
      {calls : List (SectionCall × Reply)} {trace : List Process}
      (clean : Clean mpi (callee.datatypes mpi) before after)
      (rest : CleanCalls mpi after calls trace) :
      CleanCalls mpi before ((callee, reply) :: calls) (after :: trace)

variable {mpi : Mpi} {process : Process}

theorem CleanCalls.restored {calls : List (SectionCall × Reply)} {trace : List Process}
    (clean : CleanCalls mpi process calls trace) :
    ∀ after ∈ trace, after.world.types.object = process.world.types.object := by
  induction clean with
  | nil => simp
  | cons clean _ ih =>
      obtain ⟨_, _, _, lent, -⟩ := clean.lent
      intro later member
      cases member with
      | head => exact lent.restored.object_eq
      | tail _ member => exact (ih later member).trans lent.restored.object_eq

/-- Every temporary datatype of a program is committed when it is passed and gone when its
call returns, and the datatypes after each call are those before the first. -/
theorem sectionCalls_clean (active : mpi.seatbelts = true) (calls : List (SectionCall × Reply))
    (process : Process) :
    Run.Ensures (sectionCalls mpi calls) process fun trace _ =>
      CleanCalls mpi process calls trace ∧
        ∀ after ∈ trace, after.world.types.object = process.world.types.object := by
  have clean : Run.Ensures (sectionCalls mpi calls) process fun trace _ =>
      CleanCalls mpi process calls trace := by
    induction calls generalizing process with
    | nil => exact Run.ensures_pure (.nil process)
    | cons step calls ih =>
        obtain ⟨callee, reply⟩ := step
        refine (callee.clean active).bind ?_
        intro _ middle clean
        refine Run.ensures_bind_of_returned rfl ?_
        refine (ih middle).bind ?_
        intro trace _ rest
        exact Run.ensures_pure (.cons clean rest)
  exact clean.mono fun _ _ cleaned => ⟨cleaned, cleaned.restored⟩

end Programs

/-- A send of every second integer that fails, and a gather into every third. -/
def sparseCalls : List (SectionCall × Reply) := [
  (.send (integers 4096 2 8) 2 fortranInteger 1 5 0,
    { successfulReply with rc := mpich.errorClass .errRank }),
  (.gather (integers 4096 2 8) 2 fortranInteger (integers 8192 2 12) 2 fortranInteger 0 0,
    successfulReply)]

theorem sectionCalls_clean_sparse :
    ∃ trace final, sectionCalls mpich sparseCalls startProcess = .returned (trace, final) ∧
      trace.length = 2 ∧ CleanCalls mpich startProcess sparseCalls trace := by
  have run : (sectionCalls mpich sparseCalls startProcess >>= fun result =>
      .returned result.1.length) = .returned 2 := by
    decide +kernel
  obtain ⟨⟨trace, final⟩, returned, counted⟩ := Outcome.bind_eq_returned.mp run
  exact ⟨trace, final, returned, (Outcome.returned.injEq _ _).mp counted,
    (sectionCalls_clean (by decide) sparseCalls startProcess trace final returned).1⟩

end Vapaa
