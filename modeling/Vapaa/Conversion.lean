import Vapaa.MpiLibrary

/-!
# Conversions between Fortran and C

Handles by `convert_handles.h`, ranks by `convert_constants.h` and error codes by
`mpi_error.c`.
-/

set_option autoImplicit false

namespace Vapaa

open Foundation

variable (mpi : Mpi)

section HandleConversion

/-- Whether the library has the object: the optional datatypes are guarded. -/
def Mpi.has : Predefined → Bool
  | .datatype type => type ∉ NamedType.optional ∨ mpi.provides type
  | _ => true

/-- The conversions of `convert_handles.h`, which differ in their constants only. -/
def handleF2c (kind : Kind) (handle : Int) : Int :=
  match (Predefined.table kind).find? fun object => mpi.has object ∧ object.vapaa = handle with
  | some object => mpi.handle object
  | none => mpi.f2c kind handle

def cMpiCommF2c : Int → Int := handleF2c mpi .comm
def cMpiTypeF2c : Int → Int := handleF2c mpi .datatype
def cMpiFileF2c : Int → Int := handleF2c mpi .file
def cMpiGroupF2c : Int → Int := handleF2c mpi .group
def cMpiInfoF2c : Int → Int := handleF2c mpi .info
def cMpiMessageF2c : Int → Int := handleF2c mpi .message
def cMpiOpF2c : Int → Int := handleF2c mpi .op
def cMpiRequestF2c : Int → Int := handleF2c mpi .request
def cMpiWinF2c : Int → Int := handleF2c mpi .win

/-- The only conversion to Fortran that looks for predefined objects. -/
def cMpiTypeC2f (handle : Int) : Int :=
  match (Predefined.table .datatype).find? fun object =>
    mpi.has object ∧ mpi.handle object = handle with
  | some object => object.vapaa
  | none => mpi.c2f .datatype handle

theorem Predefined.vapaa_inj {kind : Kind} {object other : Predefined}
    (member : object ∈ Predefined.table kind) (member' : other ∈ Predefined.table kind)
    (same : object.vapaa = other.vapaa) : object = other := by
  have different : ((Predefined.table kind).map Predefined.vapaa).Nodup := by
    cases kind <;> decide
  exact List.inj_on_of_nodup_map different member member' same

/-- A predefined constant stands for the predefined object. -/
theorem handleF2c_vapaa {kind : Kind} {object : Predefined}
    (member : object ∈ Predefined.table kind) (provided : mpi.has object) :
    handleF2c mpi kind object.vapaa = mpi.handle object := by
  rw [handleF2c]
  cases found : (Predefined.table kind).find? fun other =>
      mpi.has other ∧ other.vapaa = object.vapaa with
  | none =>
      have missing := List.find?_eq_none.mp found object member
      simp [provided] at missing
  | some other =>
      have same := List.find?_some found
      have equal := Predefined.vapaa_inj (List.mem_of_find?_eq_some found) member
        (of_decide_eq_true same).2
      rw [equal]

theorem handleF2c_of_other {kind : Kind} {handle : Int}
    (other : ∀ object ∈ Predefined.table kind, object.vapaa ≠ handle) :
    handleF2c mpi kind handle = mpi.f2c kind handle := by
  have missing : (Predefined.table kind).find? (fun object =>
      mpi.has object ∧ object.vapaa = handle) = none := by
    rw [List.find?_eq_none]
    intro object member
    simp [other object member]
  rw [handleF2c, missing]

theorem mem_table (type : NamedType) :
    Predefined.datatype type ∈ Predefined.table .datatype := by
  cases type <;> decide

theorem cMpiTypeF2c_vapaa {mpi : Mpi} {type : NamedType} (provided : mpi.has (.datatype type)) :
    cMpiTypeF2c mpi type.vapaa = mpi.datatype type :=
  handleF2c_vapaa mpi (mem_table type) provided

theorem cMpiOpF2c_vapaa {mpi : Mpi} (operation : NamedOp) :
    cMpiOpF2c mpi operation.vapaa = mpi.handle (.op operation) := by
  have member : Predefined.op operation ∈ Predefined.table .op := by
    cases operation <;> decide
  exact handleF2c_vapaa mpi member rfl

end HandleConversion

/-- `VAPAA_MPI_PROC_NULL` -/
def vapaaMpiProcNull : Int := -19

def vapaaMpiAnySource : Int := -2000

def vapaaMpiAnyTag : Int := -2001

def vapaaMpiUndefined : Int := -99999

def cMpiProcNullDetector (rank : Int) : Int :=
  if rank = vapaaMpiProcNull then mpi.procNull else rank

section ErrorCodes

/-- `%x` -/
def hex (value : Int) : String := String.ofList (Nat.toDigits 16 (value % 4294967296).toNat)

/-- The class that a C class number is compared equal to first. -/
def errorClassFound (error : Int) : Option ErrorClass :=
  ErrorClass.table.find? fun errorClass =>
    (errorClass ∉ ErrorClass.sinceMpi4 ∨ mpi.mpiVersion4) ∧ mpi.errorClass errorClass = error

def cMpiErrorCodeC2f (errorC : Int) : Call Int := do
  let error := mpi.errorClassOf errorC
  vapaaAssert mpi error.isSome
  let error ← Run.readSet error
  match errorClassFound mpi error with
  | some errorClass => return errorClass.vapaa
  | none =>
      let name := mpi.errorString error
      vapaaWarning
        s!"Unknown error class returned from the C library: code={errorC}={hex errorC}, class={error}={hex error}, name={name}\n"
      return ErrorClass.errUnknown.vapaa

def cMpiRcFix (rc : Int) : Call Int :=
  if rc ≠ mpi.errorClass .success then cMpiErrorCodeC2f mpi rc else pure rc

end ErrorCodes

/-- The code of a success, or one that the library has a class for. -/
def Mpi.Codes (mpi : Mpi) (rc : Int) : Prop :=
  rc = mpi.errorClass .success ∨ (mpi.errorClassOf rc).isSome

section ErrorRules

variable {mpi} {world : World}

theorem cMpiRcFix_success (world : World) :
    cMpiRcFix mpi (mpi.errorClass .success) world =
      .returned (mpi.errorClass .success, world) := by
  simp [cMpiRcFix]

/-- These codes are converted without a fault, each to one code. -/
theorem cMpiRcFix_converts {rc : Int} (coded : mpi.Codes rc) :
    ∃ ierror, ∀ world : World, ∃ final, cMpiRcFix mpi rc world = .returned (ierror, final) ∧
      final.types = world.types := by
  rcases coded with rfl | known
  · exact ⟨_, fun world => ⟨world, cMpiRcFix_success world, rfl⟩⟩
  obtain ⟨error, found⟩ := Option.isSome_iff_exists.mp known
  rw [cMpiRcFix]
  split_ifs with failed
  · rw [cMpiErrorCodeC2f, found]
    simp only [Option.isSome_some, vapaaAssert_true, Run.bind_apply, Run.pure_apply,
      Outcome.returned_bind, Run.readSet_some]
    cases errorClassFound mpi error with
    | some errorClass => exact ⟨_, fun _ => ⟨_, rfl, rfl⟩⟩
    | none => exact ⟨_, fun _ => ⟨_, rfl, rfl⟩⟩
  · exact ⟨_, fun _ => ⟨_, rfl, rfl⟩⟩

theorem cMpiRcFix_returned {rc : Int} (coded : mpi.Codes rc) :
    ∃ ierror final, cMpiRcFix mpi rc world = .returned (ierror, final) ∧
      final.types = world.types := by
  obtain ⟨ierror, converts⟩ := cMpiRcFix_converts coded
  exact ⟨ierror, converts world⟩

end ErrorRules

end Vapaa
