import Mathlib.Data.List.AList
import Vapaa.CStrings
import Vapaa.Conversion

/-!
# Info objects

`mpi_info_f.F90` and `mpi_info.c`, with descriptors and without, over a library whose info
objects map C strings to C strings.
-/

set_option autoImplicit false

namespace Vapaa

open Foundation

/-- Info objects by handle; handles from `next` on are free. -/
structure InfoStore (Object : Type) where
  object : Int → Option Object
  next : Int
  free : ∀ handle, next ≤ handle → object handle = none

namespace InfoStore

variable {Object : Type}

def create (infos : InfoStore Object) (created : Object) : InfoStore Object where
  object := fun handle => if handle = infos.next then some created else infos.object handle
  next := infos.next + 1
  free := by
    intro handle above
    have other : handle ≠ infos.next := by omega
    simp [other, infos.free handle (by omega)]

def modify (infos : InfoStore Object) (modified : Int) (change : Object → Object) :
    InfoStore Object where
  object := fun handle =>
    (infos.object handle).map fun object => if handle = modified then change object else object
  next := infos.next
  free := by
    intro handle above
    simp [infos.free handle above]

end InfoStore

abbrev InfoObject := AList fun _ : List UInt8 => List UInt8

structure InfoWorld where
  world : World
  infos : InfoStore InfoObject

abbrev InfoRun := Run InfoWorld

/-- A call that reaches warnings only. -/
def onWorld {α : Type} : Call α → InfoRun α :=
  Run.zoom InfoWorld.world fun state world => { state with world := world }

section Library

variable (mpi : Mpi)

def mpiInfoCreate : InfoRun (Int × Int) := fun state =>
  .returned ((mpi.errorClass .success, state.infos.next),
    { state with infos := state.infos.create ∅ })

def mpiInfoSet (info : Int) (key value : List UInt8) : InfoRun Int := do
  let key ← Run.ofOutcome (cString key)
  let value ← Run.ofOutcome (cString value)
  fun state =>
    match state.infos.object info with
    | none => .returned (mpi.errorClass .errInfo, state)
    | some _ => .returned (mpi.errorClass .success,
        { state with infos := state.infos.modify info (AList.insert key value) })

def mpiInfoDelete (info : Int) (key : List UInt8) : InfoRun Int := do
  let key ← Run.ofOutcome (cString key)
  fun state =>
    match state.infos.object info with
    | none => .returned (mpi.errorClass .errInfo, state)
    | some object =>
        if key ∈ object then .returned (mpi.errorClass .success,
          { state with infos := state.infos.modify info (AList.erase key) })
        else .returned (mpi.errorClass .errInfoNokey, state)

def mpiInfoDup (info newinfo : Int) : InfoRun (Int × Int) := fun state =>
  match state.infos.object info with
  | none => .returned ((mpi.errorClass .errInfo, newinfo), state)
  | some object => .returned ((mpi.errorClass .success, state.infos.next),
      { state with infos := state.infos.create object })

def mpiInfoGetNkeys (info nkeys : Int) : InfoRun (Int × Int) := fun state =>
  match state.infos.object info with
  | none => .returned ((mpi.errorClass .errInfo, nkeys), state)
  | some object => .returned ((mpi.errorClass .success, object.keys.length), state)

/-- `MPI_Info_get_string`, since version 4: the size of the buffer counts the terminator.
Returns the code, `buflen`, `value` and `flag`. -/
def mpiInfoGetString (info : Int) (key : List UInt8) (buflen : Int) (value : List UInt8)
    (flag : Int) : InfoRun (Int × Int × List UInt8 × Int) := do
  let key ← Run.ofOutcome (cString key)
  fun state =>
    match state.infos.object info with
    | none => .returned ((mpi.errorClass .errInfo, buflen, value, flag), state)
    | some object =>
        match object.lookup key with
        | none => .returned ((mpi.errorClass .success, buflen, value, 0), state)
        | some stored =>
            if buflen ≤ 0 then
              .returned ((mpi.errorClass .success, stored.length + 1, value, 1), state)
            else (do
              let value ← Run.ofOutcome
                (overwrite value (stored.take (buflen - 1).toNat ++ [nul]))
              return (mpi.errorClass .success, stored.length + 1, value, 1) :
                InfoRun (Int × Int × List UInt8 × Int)) state

/-- `MPI_Info_get`: the length of the value leaves room for a terminator behind it. Returns the
code, `value` and `flag`. -/
def mpiInfoGet (info : Int) (key : List UInt8) (valuelen : Int) (value : List UInt8)
    (flag : Int) : InfoRun (Int × List UInt8 × Int) := do
  let key ← Run.ofOutcome (cString key)
  fun state =>
    match state.infos.object info with
    | none => .returned ((mpi.errorClass .errInfo, value, flag), state)
    | some object =>
        match object.lookup key with
        | none => .returned ((mpi.errorClass .success, value, 0), state)
        | some stored => (do
            let value ← Run.ofOutcome (overwrite value (stored.take valuelen.toNat ++ [nul]))
            return (mpi.errorClass .success, value, 1) : InfoRun (Int × List UInt8 × Int)) state

def mpiInfoGetValuelen (info : Int) (key : List UInt8) (valuelen flag : Int) :
    InfoRun (Int × Int × Int) := do
  let key ← Run.ofOutcome (cString key)
  fun state =>
    match state.infos.object info with
    | none => .returned ((mpi.errorClass .errInfo, valuelen, flag), state)
    | some object =>
        match object.lookup key with
        | none => .returned ((mpi.errorClass .success, valuelen, 0), state)
        | some stored => .returned ((mpi.errorClass .success, stored.length, 1), state)

end Library

section CWrappers

variable (mpi : Mpi)

def cMpiInfoCreate : InfoRun (Int × Int) := do
  let (ierror, info) ← mpiInfoCreate mpi
  let infoF := mpi.c2f .info info
  return (infoF, ← onWorld (cMpiRcFix mpi ierror))

def cMpiInfoDelete (infoF : Int) (key : List UInt8) : InfoRun Int := do
  let info := cMpiInfoF2c mpi infoF
  let ierror ← mpiInfoDelete mpi info key
  onWorld (cMpiRcFix mpi ierror)

/-- The key is what lies at the `base_addr` of its descriptor. -/
def cfiMpiInfoDelete (infoF : Int) (keyD : List UInt8) : InfoRun Int :=
  cMpiInfoDelete mpi infoF keyD

def cMpiInfoDup (infoF : Int) : InfoRun (Int × Int) := do
  let newinfo := mpi.handle .infoNull
  let info := cMpiInfoF2c mpi infoF
  let (ierror, newinfo) ← mpiInfoDup mpi info newinfo
  let newinfoF := mpi.c2f .info newinfo
  return (newinfoF, ← onWorld (cMpiRcFix mpi ierror))

def cMpiInfoGetNkeys (infoF nkeysF : Int) : InfoRun (Int × Int) := do
  let info := cMpiInfoF2c mpi infoF
  let (ierror, nkeysF) ← mpiInfoGetNkeys mpi info nkeysF
  return (nkeysF, ← onWorld (cMpiRcFix mpi ierror))

def cMpiInfoGetString (infoF : Int) (key : List UInt8) (buflen : Int) (val : List UInt8)
    (flag : Int) : InfoRun (Int × List UInt8 × Int × Int) := do
  let info := cMpiInfoF2c mpi infoF
  let val ← Run.ofOutcome (overwrite val (List.replicate (toSizeT buflen) 0))
  if mpi.mpiVersion4 then
    let (ierror, buflen, val, flag) ← mpiInfoGetString mpi info key buflen val flag
    return (buflen, val, flag, ← onWorld (cMpiRcFix mpi ierror))
  else
    let (ierror, val, flag) ← mpiInfoGet mpi info key buflen val flag
    if ierror = mpi.errorClass .success then
      let (ierror, buflen, flag) ← mpiInfoGetValuelen mpi info key buflen flag
      let buflen ← onWorld (intResult (buflen + 1))
      return (buflen, val, flag, ← onWorld (cMpiRcFix mpi ierror))
    else return (buflen, val, flag, ← onWorld (cMpiRcFix mpi ierror))

/-- Key and value are what lies at the `base_addr` of their descriptors. -/
def cfiMpiInfoGetString (infoF : Int) (keyD : List UInt8) (buflen : Int) (valD : List UInt8)
    (flag : Int) : InfoRun (Int × List UInt8 × Int × Int) :=
  cMpiInfoGetString mpi infoF keyD buflen valD flag

def cMpiInfoSet (infoF : Int) (key val : List UInt8) : InfoRun Int := do
  let info := cMpiInfoF2c mpi infoF
  let ierror ← mpiInfoSet mpi info key val
  onWorld (cMpiRcFix mpi ierror)

/-- Key and value are what lies at the `base_addr` of their descriptors. -/
def cfiMpiInfoSet (infoF : Int) (keyD valD : List UInt8) : InfoRun Int :=
  cMpiInfoSet mpi infoF keyD valD

end CWrappers

section FortranWrappers

variable (mpi : Mpi)

def mpiInfoCreateF08 : InfoRun (Int × Int) := cMpiInfoCreate mpi

def mpiInfoDeleteF08 (info : Int) (key : FortranString) : InfoRun Int :=
  cMpiInfoDelete mpi info key.copied

def mpiInfoDeleteF08ts (info : Int) (key : FortranString) : InfoRun Int :=
  cfiMpiInfoDelete mpi info key.copied

def mpiInfoDupF08 (info : Int) : InfoRun (Int × Int) := cMpiInfoDup mpi info

/-- Returns `nkeys` and `ierror`; `nkeysC` is what the local variable holds before the call. -/
def mpiInfoGetNkeysF08 (info nkeysC : Int) : InfoRun (Int × Int) := do
  let (nkeysC, ierrorC) ← cMpiInfoGetNkeys mpi info nkeysC
  return (nkeysC, ierrorC)

/-- The key is passed as it lies in memory. Returns `buflen`, `value`, `flag` and `ierror`. -/
def mpiInfoGetStringF08 (info : Int) (key : FortranString) (buflen : Int) (value : List UInt8)
    (flagC : Int) : InfoRun (Int × List UInt8 × Bool × Int) := do
  let buflenC := buflen
  let (buflenC, value, flagC, ierrorC) ←
    cMpiInfoGetString mpi info key.inPlace buflenC value flagC
  return (buflenC, value, flagC ≠ 0, ierrorC)

def mpiInfoGetStringF08ts (info : Int) (key : FortranString) (buflen : Int) (value : List UInt8)
    (flagC : Int) : InfoRun (Int × List UInt8 × Bool × Int) := do
  let valueC := List.replicate (value.length + 1) nul
  let buflenC := buflen
  let (buflenC, valueC, flagC, ierrorC) ←
    cfiMpiInfoGetString mpi info key.copied buflenC valueC flagC
  return (buflenC, valueC.take value.length, flagC ≠ 0, ierrorC)

/-- Key and value are passed as they lie in memory. -/
def mpiInfoSetF08 (info : Int) (key value : FortranString) : InfoRun Int :=
  cMpiInfoSet mpi info key.inPlace value.inPlace

def mpiInfoSetF08ts (info : Int) (key value : FortranString) : InfoRun Int :=
  cfiMpiInfoSet mpi info key.copied value.copied

end FortranWrappers

section Interfaces

variable (mpi : Mpi) (haveCfi : Bool)

def mpiInfoDeleteCall (info : Int) (key : FortranString) : InfoRun Int :=
  if haveCfi then mpiInfoDeleteF08ts mpi info key else mpiInfoDeleteF08 mpi info key

def mpiInfoGetStringCall (info : Int) (key : FortranString) (buflen : Int) (value : List UInt8)
    (flagC : Int) : InfoRun (Int × List UInt8 × Bool × Int) :=
  if haveCfi then mpiInfoGetStringF08ts mpi info key buflen value flagC
  else mpiInfoGetStringF08 mpi info key buflen value flagC

def mpiInfoSetCall (info : Int) (key value : FortranString) : InfoRun Int :=
  if haveCfi then mpiInfoSetF08ts mpi info key value else mpiInfoSetF08 mpi info key value

/-- The calls that create and change info objects. -/
inductive InfoCall where
  | create
  | set (info : Int) (key value : FortranString)
  | delete (info : Int) (key : FortranString)
  | dup (info : Int)
  deriving DecidableEq, Repr

def InfoCall.run : InfoCall → InfoRun Unit
  | .create => do
      let _ ← mpiInfoCreateF08 mpi
      return ()
  | .set info key value => do
      let _ ← mpiInfoSetCall mpi haveCfi info key value
      return ()
  | .delete info key => do
      let _ ← mpiInfoDeleteCall mpi haveCfi info key
      return ()
  | .dup info => do
      let _ ← mpiInfoDupF08 mpi info
      return ()

def runInfoCalls : List InfoCall → InfoRun Unit
  | [] => return ()
  | infoCall :: calls => do
      infoCall.run mpi haveCfi
      runInfoCalls calls

end Interfaces

end Vapaa
