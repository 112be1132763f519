import Vapaa.Foundation.Recorded
import Vapaa.PointToPoint

/-!
# Reads of dimension records

The builder of `cfi_util.c` on a machine that notes every read of `desc->dim[i]`, where the source
makes it.
-/

set_option autoImplicit false

namespace Vapaa

open Foundation

/-- A read of `desc->dim[index]`, of a descriptor with that many records. -/
structure DimRead where
  rank : Nat
  index : Nat
  deriving DecidableEq, Repr

/-- The record read is one of the descriptor. -/
def DimRead.Inside (read : DimRead) : Prop := read.index < read.rank

instance (read : DimRead) : Decidable read.Inside :=
  inferInstanceAs (Decidable (read.index < read.rank))

namespace Reading

variable (mpi : Mpi)

abbrev Call := Recorded DimRead World

abbrev Wrapper := Recorded DimRead Process

/-- `desc->dim[i]` -/
def readDim (desc : CDesc) (i : Nat) : Noted DimRead Dim where
  events := [{ rank := desc.rank, index := i }]
  value := desc.record i

/-- Reads are noted, and displacements have no bounds. -/
def recording : Machine (Noted DimRead) Call where
  fits _ := True
  decidable := inferInstance
  call run := liftM run
  rounds noted := liftM noted
  record desc i := readDim desc i
  forLoop := forLoopNoted

def vapaaCfiCreateDatatype15d (desc : CDesc) (count inputDatatype arrayDatatype : Int) :
    Call (Int × Int) :=
  Builder.vapaaCfiCreateDatatype15d recording mpi desc count inputDatatype arrayDatatype

def vapaaCfiCreateElementAddresses (desc : CDesc) : Call (Cells Int) :=
  Builder.vapaaCfiCreateElementAddresses recording mpi desc

def vapaaCfiCreateDatatype (desc : CDesc) (count inputDatatype arrayDatatype : Int) :
    Call (Int × Int) :=
  Builder.vapaaCfiCreateDatatype recording mpi desc count inputDatatype arrayDatatype

/-- A call that reaches datatypes and warnings only. -/
def call {α : Type} : Call α → Wrapper α :=
  Recorded.zoom Process.world fun process world => { process with world := world }

def cfiMpiSendrecv (reply : Reply) (sdesc : CDesc) (scount sdatatypeF dest stag : Int)
    (rdesc : CDesc) (rcount rdatatypeF src rtag commF status : Int) : Wrapper Int :=
  sendrecvWith mpi (fun run => liftM run)
    (fun desc count datatype initial =>
      call (vapaaCfiCreateDatatype mpi desc count datatype initial))
    reply sdesc scount sdatatypeF dest stag rdesc rcount rdatatypeF src rtag commF status

section Recording

variable {α σ : Type}

@[simp] theorem recording_call (run : Vapaa.Call α) :
    recording.call run = (liftM run : Call α) := rfl

@[simp] theorem recording_rounds (noted : Noted DimRead α) :
    recording.rounds noted = (liftM noted : Call α) := rfl

@[simp] theorem recording_record (desc : CDesc) (i : Nat) :
    recording.record desc i = readDim desc i := rfl

@[simp] theorem recording_forLoop (bound : Int) (body : Nat → σ → Noted DimRead (Flow σ))
    (state : σ) : recording.forLoop bound body state = forLoopNoted bound body state := rfl

end Recording

end Reading

end Vapaa
