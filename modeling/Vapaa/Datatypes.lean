import Vapaa.Conversion
import Vapaa.Foundation.TypeConstructors

/-!
# Datatypes

`mpi_datatype.c` and the library calls that it makes.
-/

set_option autoImplicit false

namespace Vapaa

open Foundation

/-- More constants of the library's `mpi.h`. -/
structure TypeConstants where
  orderC : Int
  orderFortran : Int
  undefined : Int
  orders_ne : orderC ≠ orderFortran

def vapaaMpiOrderC : Int := 321

def vapaaMpiOrderFortran : Int := 123

section Library

variable (mpi : Mpi) (constants : TypeConstants)

/-- Returns the error code and the value of `*size`, which cannot exceed an `int`. -/
def mpiTypeSize (handle size : Int) : Call (Int × Int) := fun world =>
  match world.types.object handle with
  | none => .returned ((mpi.errorClass .errType, size), world)
  | some object =>
      let size : Int := object.layout.size
      .returned ((mpi.errorClass .success, if size ≤ intMax then size else constants.undefined),
        world)

/-- Returns the error code and the value of `*newtype`, which need not be set before. -/
def mpiTypeDup (oldtype : Int) (newtype : Option Int) : Call (Int × Option Int) := fun world =>
  match world.types.object oldtype with
  | none => .returned ((mpi.errorClass .errType, newtype), world)
  | some old => .returned ((mpi.errorClass .success, some world.types.next),
      { world with types := world.types.create { old with combiner := .derived } })

def mpiTypeContiguous (count oldtype newtype : Int) : Call (Int × Int) := fun world =>
  if count < 0 then .returned ((mpi.errorClass .errCount, newtype), world)
  else
    match world.types.object oldtype with
    | none => .returned ((mpi.errorClass .errType, newtype), world)
    | some old => createType mpi (old.layout.contiguous count.toNat) world

def mpiTypeVector (count blocklength stride oldtype newtype : Int) : Call (Int × Int) :=
  fun world =>
    if count < 0 then .returned ((mpi.errorClass .errCount, newtype), world)
    else if blocklength < 0 then .returned ((mpi.errorClass .errArg, newtype), world)
    else
      match world.types.object oldtype with
      | none => .returned ((mpi.errorClass .errType, newtype), world)
      | some old =>
          createType mpi (old.layout.vector count.toNat blocklength.toNat stride) world

/-- One dimension of a subarray, unless its numbers do not describe a part of an array. -/
def slice? (dimension : Int × Int × Int) : Option Slice :=
  let (size, subsize, start) := dimension
  if 1 ≤ subsize ∧ 0 ≤ start ∧ start + subsize ≤ size then
    some { size := size.toNat, subsize := subsize.toNat, start := start.toNat }
  else none

def mpiTypeCreateSubarray (ndims : Int) (sizes subsizes starts : List Int)
    (order oldtype newtype : Int) : Call (Int × Int) := do
  let sizes ← Run.ofOutcome (Cells.loadFirst ndims.toNat (sizes.map some))
  let subsizes ← Run.ofOutcome (Cells.loadFirst ndims.toNat (subsizes.map some))
  let starts ← Run.ofOutcome (Cells.loadFirst ndims.toNat (starts.map some))
  if ndims < 1 ∨ (order ≠ constants.orderC ∧ order ≠ constants.orderFortran) then
    return (mpi.errorClass .errArg, newtype)
  else
    match (sizes.zip (subsizes.zip starts)).mapM slice? with
    | none => return (mpi.errorClass .errArg, newtype)
    | some slices => fun world =>
        match world.types.object oldtype with
        | none => .returned ((mpi.errorClass .errType, newtype), world)
        | some old => createType mpi
            (old.layout.subarray (if order = constants.orderC then slices.reverse else slices))
            world

end Library

section Wrappers

variable (mpi : Mpi) (constants : TypeConstants)

def cMpiTranslateMajor (f : Int) : Call Int :=
  if f = vapaaMpiOrderC then pure constants.orderC
  else if f = vapaaMpiOrderFortran then pure constants.orderFortran
  else Run.abort

def cMpiTypeCommit (typeF : Int) : Call (Int × Int) := do
  let type := mpi.f2c .datatype typeF
  let ierror ← pmpiTypeCommit mpi type
  let typeF := mpi.c2f .datatype type
  return (typeF, ← cMpiRcFix mpi ierror)

def cMpiTypeSize (typeF : Int) : Call (Int × Int) := do
  let size := 0
  let type := mpi.f2c .datatype typeF
  let (ierror, size) ← mpiTypeSize mpi constants type size
  let sizeF := size
  return (sizeF, ← cMpiRcFix mpi ierror)

def cMpiTypeDup (oldtypeF : Int) : Call (Int × Int) := do
  let newtype := none
  let oldtype := mpi.f2c .datatype oldtypeF
  let (ierror, newtype) ← mpiTypeDup mpi oldtype newtype
  let newtypeF := mpi.c2f .datatype (← Run.readSet newtype)
  return (newtypeF, ← cMpiRcFix mpi ierror)

def cMpiTypeFree (typeF : Int) : Call (Int × Int) := do
  let type := mpi.f2c .datatype typeF
  let (ierror, type) ← pmpiTypeFree mpi type
  let typeF := mpi.c2f .datatype type
  return (typeF, ← cMpiRcFix mpi ierror)

def cMpiTypeContiguous (count oldtypeF : Int) : Call (Int × Int) := do
  let newtype := mpi.datatype .datatypeNull
  let oldtype := cMpiTypeF2c mpi oldtypeF
  let (ierror, newtype) ← mpiTypeContiguous mpi count oldtype newtype
  let newtypeF := mpi.c2f .datatype newtype
  return (newtypeF, ← cMpiRcFix mpi ierror)

def cMpiTypeVector (count blocklength stride oldtypeF : Int) : Call (Int × Int) := do
  let newtype := mpi.datatype .datatypeNull
  let oldtype := cMpiTypeF2c mpi oldtypeF
  let (ierror, newtype) ← mpiTypeVector mpi count blocklength stride oldtype newtype
  let newtypeF := mpi.c2f .datatype newtype
  return (newtypeF, ← cMpiRcFix mpi ierror)

def cMpiTypeCreateSubarray (ndims : Int) (arrayOfSizes arrayOfSubsizes arrayOfStarts : List Int)
    (orderF oldtypeF : Int) : Call (Int × Int) := do
  let newtype := mpi.datatype .datatypeNull
  let oldtype := cMpiTypeF2c mpi oldtypeF
  let order ← cMpiTranslateMajor constants orderF
  let (ierror, newtype) ← mpiTypeCreateSubarray mpi constants ndims arrayOfSizes arrayOfSubsizes
    arrayOfStarts order oldtype newtype
  let newtypeF := mpi.c2f .datatype newtype
  return (newtypeF, ← cMpiRcFix mpi ierror)

end Wrappers

end Vapaa
