import Vapaa.Descriptor
import Vapaa.ErrorClass
import Vapaa.Handles
import Vapaa.Foundation.LoopNest
import Vapaa.Foundation.TypeMap

/-!
# The C library underneath

Everything VAPAA takes from its C compiler and its MPI library, and the datatype
calls it makes. A function returns its code first and then the values of its output
arguments; a subroutine of Fortran, and a wrapper for one, returns the values of its output
arguments, with `ierror` last.
-/

set_option autoImplicit false

namespace Vapaa

open Foundation

/-- Type codes of `ISO_Fortran_binding.h`, in the order of `VAPAA_CFI_GET_TYPE_NAME`. -/
inductive CfiType where
  | signedChar | short | int | long | longLong | sizeT | int8T | int16T | int32T | int64T
  | intmaxT | intptrT | ptrdiffT | float | double | longDouble | floatComplex
  | doubleComplex | longDoubleComplex | bool | char | cptr | struct | other
  deriving DecidableEq, Repr

/-- Whether the library has `MPIX_Type_iov`. -/
inductive IovSupport where
  | available
  | mpichTooOld
  | notMpich
  deriving DecidableEq, Repr

/-- `MPIX_Iov` -/
structure Segment where
  iovBase : Int
  iovLen : Nat
  deriving DecidableEq, Repr

namespace Segment

def bytes (segment : Segment) : List Int := span segment.iovBase segment.iovLen

end Segment

/-- Members of `MPI_Status` and their order. -/
inductive StatusAbi where
  | mpich
  | openMpi
  deriving DecidableEq, Repr

/-- The platform VAPAA is compiled for and the MPI library it is linked with. -/
structure Mpi where
  /-- False when compiled with `NO_SEATBELTS`. -/
  seatbelts : Bool
  iovSupport : IovSupport
  mpiVersion4 : Bool
  /-- The `HAVE_MPI_` macros of the optional datatypes. -/
  provides : NamedType → Bool
  /-- Whether an allocation of that many bytes succeeds. -/
  allocates : Nat → Bool
  cfiType : CfiType → Int
  cfiIsContiguous : CDesc → Int
  errorClass : ErrorClass → Int
  /-- `MPI_Error_class` -/
  errorClassOf : Int → Option Int
  errorString : Int → String
  /-- The C handles of predefined objects. -/
  handle : Predefined → Int
  /-- `MPI_Comm_f2c` and the like. -/
  f2c : Kind → Int → Int
  /-- `MPI_Comm_c2f` and the like. -/
  c2f : Kind → Int → Int
  procNull : Int
  anySource : Int
  anyTag : Int
  /-- The pointers `MPI_STATUS_IGNORE`, `MPI_STATUSES_IGNORE` and `MPI_IN_PLACE`. -/
  statusIgnore : Int
  statusesIgnore : Int
  inPlace : Int
  statusAbi : StatusAbi
  typeIov : Layout → List Segment
  success_eq : errorClass .success = 0
  failure_ne : ∀ failure, failure ≠ .success → errorClass failure ≠ 0
  typeIov_bytes : ∀ layout, (typeIov layout).flatMap Segment.bytes = layout.map.bytes

/-- The C handle of a predefined datatype. -/
def Mpi.datatype (mpi : Mpi) (type : NamedType) : Int := mpi.handle (.datatype type)

inductive Combiner where
  | named
  | derived
  deriving DecidableEq, Repr

structure TypeObject where
  combiner : Combiner
  layout : Layout
  committed : Bool
  deriving DecidableEq, Repr

/-- Datatypes by handle; handles from `next` on are free. -/
structure TypeStore where
  object : Int → Option TypeObject
  next : Int
  free : ∀ handle, next ≤ handle → object handle = none

namespace TypeStore

def create (types : TypeStore) (created : TypeObject) : TypeStore where
  object := fun handle => if handle = types.next then some created else types.object handle
  next := types.next + 1
  free := by
    intro handle above
    have other : handle ≠ types.next := by omega
    simp [other, types.free handle (by omega)]

def remove (types : TypeStore) (removed : Int) : TypeStore where
  object := fun handle => if handle = removed then none else types.object handle
  next := types.next
  free := by
    intro handle above
    simp [types.free handle above]

def commit (types : TypeStore) (committed : Int) : TypeStore where
  object := fun handle =>
    (types.object handle).map fun object =>
      if handle = committed then { object with committed := true } else object
  next := types.next
  free := by
    intro handle above
    simp [types.free handle above]

theorem unused (types : TypeStore) : types.object types.next = none :=
  types.free types.next (le_refl _)

@[simp] theorem create_next (types : TypeStore) (created : TypeObject) :
    (types.create created).next = types.next + 1 := rfl

@[simp] theorem create_object_next (types : TypeStore) (created : TypeObject) :
    (types.create created).object types.next = some created :=
  if_pos rfl

theorem create_object_of_ne (types : TypeStore) (created : TypeObject) {handle : Int}
    (other : handle ≠ types.next) : (types.create created).object handle = types.object handle :=
  if_neg other

theorem remove_object_of_ne (types : TypeStore) {removed handle : Int}
    (other : handle ≠ removed) : (types.remove removed).object handle = types.object handle :=
  if_neg other

@[simp] theorem remove_object_removed (types : TypeStore) (removed : Int) :
    (types.remove removed).object removed = none :=
  if_pos rfl

end TypeStore

/-- What a call changes besides its arguments. -/
structure World where
  types : TypeStore
  warnings : List String

abbrev Call := Run World

section Language

/-- `INT_MAX` -/
def intMax : Int := 2147483647

def toInt (value : Int) : Int := (value + 2147483648) % 4294967296 - 2147483648

def toSizeT (value : Int) : Nat := (value % 18446744073709551616).toNat

theorem toInt_of_bounds {value : Int} (low : -2147483648 ≤ value) (high : value ≤ intMax) :
    toInt value = value := by
  simp only [toInt, intMax] at *
  omega

theorem toSizeT_of_bounds {value : Nat} (high : value < 18446744073709551616) :
    toSizeT value = value := by
  simp only [toSizeT]
  omega

/-- The result of `int` arithmetic. -/
def intResult (value : Int) : Call Int :=
  if -2147483648 ≤ value ∧ value ≤ intMax then pure value else Run.undefined .overflow

/-- The result of `ssize_t` arithmetic. -/
def ssizeResult (value : Int) : Call Int :=
  if -9223372036854775808 ≤ value ∧ value ≤ 9223372036854775807 then pure value
  else Run.undefined .overflow

/-- `left / right` -/
def quotient (left right : Int) : Call Int :=
  if right = 0 then Run.undefined .divisionByZero else pure (left.tdiv right)

/-- `left % right` -/
def remainder (left right : Int) : Call Int :=
  if right = 0 then Run.undefined .divisionByZero else pure (left.tmod right)

/-- `malloc`, for cells of a given width. -/
def malloc {α : Type} (mpi : Mpi) (bytes width : Nat) : Option (Cells α) :=
  if mpi.allocates bytes then some (Cells.fresh (bytes / width)) else none

def vapaaWarning (text : String) : Call Unit := fun world =>
  .returned ((), { world with warnings := world.warnings ++ [text] })

def vapaaAssert (mpi : Mpi) (condition : Bool) : Call Unit :=
  if condition then pure () else if mpi.seatbelts then Run.abort else pure ()

end Language

section DatatypeCalls

variable (mpi : Mpi)

def pmpiTypeGetEnvelope (handle : Int) : Call (Int × Option Combiner) := fun world =>
  match world.types.object handle with
  | some object => .returned ((mpi.errorClass .success, some object.combiner), world)
  | none => .returned ((mpi.errorClass .errType, none), world)

def pmpiTypeSize (handle : Int) : Call (Int × Option Int) := fun world =>
  match world.types.object handle with
  | some object => .returned ((mpi.errorClass .success, some object.layout.size), world)
  | none => .returned ((mpi.errorClass .errType, none), world)

def mpiTypeGetExtent (handle : Int) : Call (Int × Option (Int × Int)) := fun world =>
  match world.types.object handle with
  | some object =>
      .returned
        ((mpi.errorClass .success, some (object.layout.lb, object.layout.extent)), world)
  | none => .returned ((mpi.errorClass .errType, none), world)

/-- A successful constructor: the new handle and nothing else changes. -/
def createType (layout : Layout) : Call (Int × Int) := fun world =>
  .returned
    ((mpi.errorClass .success, world.types.next),
      { world with
        types := world.types.create
          { combiner := .derived, layout := layout, committed := false } })

def pmpiTypeCreateHvector (count blocklength stride oldtype newtype : Int) :
    Call (Int × Int) := fun world =>
  if count < 0 then .returned ((mpi.errorClass .errCount, newtype), world)
  else if blocklength < 0 then .returned ((mpi.errorClass .errArg, newtype), world)
  else
    match world.types.object oldtype with
    | none => .returned ((mpi.errorClass .errType, newtype), world)
    | some old =>
        createType mpi (old.layout.hvector count.toNat blocklength.toNat stride) world

def pmpiTypeCreateHindexed (count : Int) (blocklengths displacements : Cells Int)
    (oldtype newtype : Int) : Call (Int × Int) := do
  if count < 0 then return (mpi.errorClass .errCount, newtype)
  else
    let lengths ← Run.ofOutcome (Cells.loadFirst count.toNat blocklengths)
    let starts ← Run.ofOutcome (Cells.loadFirst count.toNat displacements)
    if lengths.any (· < 0) then return (mpi.errorClass .errArg, newtype)
    else fun world =>
      match world.types.object oldtype with
      | none => .returned ((mpi.errorClass .errType, newtype), world)
      | some old =>
          createType mpi (old.layout.hindexed ((lengths.map Int.toNat).zip starts)) world

def pmpiTypeCommit (handle : Int) : Call Int := fun world =>
  match world.types.object handle with
  | some _ =>
      .returned (mpi.errorClass .success, { world with types := world.types.commit handle })
  | none => .returned (mpi.errorClass .errType, world)

def pmpiTypeFree (handle : Int) : Call (Int × Int) := fun world =>
  match world.types.object handle with
  | some { combiner := .derived, .. } =>
      .returned ((mpi.errorClass .success, mpi.datatype .datatypeNull),
        { world with types := world.types.remove handle })
  | _ => .returned ((mpi.errorClass .errType, handle), world)

/-- The first segments that together do not exceed a number of bytes. -/
def segmentsWithin : Nat → List Segment → List Segment
  | _, [] => []
  | limit, segment :: segments =>
      if segment.iovLen ≤ limit then
        segment :: segmentsWithin (limit - segment.iovLen) segments
      else []

/-- Returns the error code, the number of segments and their bytes. -/
def mpixTypeIovLen (handle : Int) (maxIovBytes : Nat) :
    Call (Int × Option (Nat × Nat)) := fun world =>
  match world.types.object handle with
  | some object =>
      let segments := segmentsWithin maxIovBytes (mpi.typeIov object.layout)
      .returned ((mpi.errorClass .success,
        some (segments.length, (segments.map Segment.iovLen).sum)), world)
  | none => .returned ((mpi.errorClass .errType, none), world)

/-- Stores at most `room` segments; returns the error code and their number. -/
def mpixTypeIov (handle : Int) (iov : Cells Segment) (room : Nat) :
    Call (Int × Cells Segment × Option Nat) := fun world =>
  match world.types.object handle with
  | some object =>
      let segments := (mpi.typeIov object.layout).take room
      if iov.length < segments.length then .undefined .outOfBounds
      else
        .returned ((mpi.errorClass .success,
          segments.map some ++ iov.drop segments.length, some segments.length), world)
  | none => .returned ((mpi.errorClass .errType, iov, none), world)

end DatatypeCalls

section CallRules

variable {mpi : Mpi} {world : World}

@[simp] theorem vapaaWarning_apply (text : String) :
    vapaaWarning text world =
      .returned ((), { world with warnings := world.warnings ++ [text] }) := rfl

@[simp] theorem vapaaAssert_true : vapaaAssert mpi true = pure () := rfl

@[simp] theorem errorClass_eq_success {failure : ErrorClass} :
    mpi.errorClass failure = mpi.errorClass .success ↔ failure = .success := by
  constructor
  · intro same
    by_contra failed
    exact mpi.failure_ne failure failed (same.trans mpi.success_eq)
  · rintro rfl
    rfl

theorem intResult_of_bounds {value : Int} (low : -2147483648 ≤ value) (high : value ≤ intMax) :
    intResult value = pure value :=
  if_pos ⟨low, high⟩

theorem ssizeResult_of_bounds {value : Int} (low : -9223372036854775808 ≤ value)
    (high : value ≤ 9223372036854775807) : ssizeResult value = pure value :=
  if_pos ⟨low, high⟩

theorem pmpiTypeCreateHindexed_of_set {oldtype newtype : Int} {old : TypeObject}
    (displacements : List Int) (spareLengths spareStarts : Cells Int)
    (live : world.types.object oldtype = some old) :
    pmpiTypeCreateHindexed mpi displacements.length
        ((List.replicate displacements.length 1).map some ++ spareLengths)
        (displacements.map some ++ spareStarts) oldtype newtype world =
      createType mpi (old.layout.copies displacements) world := by
  have lengths :=
    Cells.loadFirst_set_append (List.replicate displacements.length (1 : Int)) spareLengths
  rw [List.length_replicate] at lengths
  have starts := Cells.loadFirst_set_append displacements spareStarts
  have blocks : ((List.replicate displacements.length (1 : Int)).map Int.toNat).zip displacements =
      displacements.map fun displacement => (1, displacement) := by
    rw [List.map_replicate]
    exact List.ext_getElem (by simp) (by simp)
  have counted : ¬ (displacements.length : Int) < 0 := by omega
  simp only [pmpiTypeCreateHindexed, counted, if_false, Int.toNat_natCast, Run.bind_apply, lengths,
    starts, Run.ofOutcome_returned, Outcome.returned_bind, blocks, Layout.hindexed_singles]
  simp [createType, live]

theorem pmpiTypeCreateHindexed_of_live {oldtype newtype : Int} {old : TypeObject}
    (displacements : List Int) (live : world.types.object oldtype = some old) :
    pmpiTypeCreateHindexed mpi displacements.length
        ((List.replicate displacements.length 1).map some) (displacements.map some)
        oldtype newtype world =
      createType mpi (old.layout.copies displacements) world := by
  simpa using @pmpiTypeCreateHindexed_of_set mpi world oldtype newtype old displacements [] [] live

end CallRules

namespace TypeStore

/-- One type is added under an unused handle, and no other type changes. -/
structure Creates (before after : TypeStore) (handle : Int) (created : TypeObject) : Prop where
  fresh : before.next ≤ handle
  later : before.next ≤ after.next
  live : after.object handle = some created
  others : ∀ other, other ≠ handle → after.object other = before.object other

theorem creates_create (types : TypeStore) (created : TypeObject) :
    Creates types (types.create created) types.next created where
  fresh := le_refl _
  later := by simp
  live := by simp [create]
  others := by
    intro other different
    simp [create, different]

/-- Creating a type with the help of a temporary one that is removed again. -/
theorem creates_remove (types : TypeStore) (temporary created : TypeObject) :
    Creates types (((types.create temporary).create created).remove types.next)
      (types.next + 1) created := by
  have other : types.next + 1 ≠ types.next := by omega
  have later : types.next ≤ types.next + 1 + 1 := by omega
  refine ⟨by omega, later, ?_, ?_⟩
  · rw [remove_object_of_ne _ other]
    exact create_object_next (types.create temporary) created
  · intro handle notCreated
    by_cases removed : handle = types.next
    · subst removed
      rw [remove_object_removed, types.unused]
    · rw [remove_object_of_ne _ removed, create_object_of_ne _ _ notCreated,
        create_object_of_ne _ _ removed]

theorem Creates.unused {before after : TypeStore} {handle : Int} {created : TypeObject}
    (creates : Creates before after handle created) : before.object handle = none :=
  before.free handle creates.fresh

theorem Creates.keeps {before after : TypeStore} {handle other : Int}
    {created object : TypeObject} (creates : Creates before after handle created)
    (live : before.object other = some object) : after.object other = some object := by
  have different : other ≠ handle := by
    rintro rfl
    rw [creates.unused] at live
    cases live
  rw [creates.others other different, live]

theorem Creates.commit {before after : TypeStore} {handle : Int} {created : TypeObject}
    (creates : Creates before after handle created) :
    Creates before (after.commit handle) handle { created with committed := true } where
  fresh := creates.fresh
  later := creates.later
  live := by simp [TypeStore.commit, creates.live]
  others := by
    intro other different
    simp [TypeStore.commit, different, creates.others other different]

/-- The same types are live, and no used handle became free. -/
structure Restored (before after : TypeStore) : Prop where
  object_eq : after.object = before.object
  later : before.next ≤ after.next

theorem Restored.refl (types : TypeStore) : Restored types types := ⟨rfl, le_refl _⟩

theorem Restored.trans {first second third : TypeStore} (left : Restored first second)
    (right : Restored second third) : Restored first third :=
  ⟨right.object_eq.trans left.object_eq, left.later.trans right.later⟩

theorem Creates.remove {before after : TypeStore} {handle : Int} {created : TypeObject}
    (creates : Creates before after handle created) :
    Restored before (after.remove handle) where
  object_eq := by
    funext other
    by_cases removed : other = handle
    · rw [removed, remove_object_removed, creates.unused]
    · rw [remove_object_of_ne after removed, creates.others other removed]
  later := creates.later

/-- The datatypes that were there, or had been there, are as they were. -/
structure Extends (before after : TypeStore) : Prop where
  object_eq : ∀ handle, handle < before.next → after.object handle = before.object handle
  later : before.next ≤ after.next

theorem Extends.refl (types : TypeStore) : Extends types types := ⟨fun _ _ => rfl, le_refl _⟩

theorem Restored.extended {before after : TypeStore} (restored : Restored before after) :
    Extends before after :=
  ⟨fun handle _ => congrFun restored.object_eq handle, restored.later⟩

theorem Creates.extended {before after : TypeStore} {handle : Int} {created : TypeObject}
    (creates : Creates before after handle created) : Extends before after where
  object_eq := by
    intro other below
    have fresh := creates.fresh
    exact creates.others other (by omega)
  later := creates.later

private theorem below_of_live {types : TypeStore} {handle : Int} {object : TypeObject}
    (live : types.object handle = some object) : handle < types.next := by
  by_contra above
  rw [types.free handle (not_lt.mp above)] at live
  cases live

theorem Extends.keeps {before after : TypeStore} {handle : Int} {object : TypeObject}
    (extended : Extends before after) (live : before.object handle = some object) :
    after.object handle = some object := by
  rw [extended.object_eq handle (below_of_live live), live]

end TypeStore

end Vapaa
