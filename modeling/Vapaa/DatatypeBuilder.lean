import Vapaa.MpiLibrary

/-!
# Datatypes for array sections

`cfi_util.c`: the datatype that selects from the memory of a section what a
count of a given datatype selects from the section packed contiguously. None of
these functions commits what it creates. They are written for any machine, which
has displacements of its own, and may note what is read of a descriptor.
-/

set_option autoImplicit false

namespace Vapaa

open Foundation

variable (mpi : Mpi)

section TypeNames

/-- The names `VAPAA_CFI_GET_TYPE_NAME` prints, in the order of its tests. -/
def cfiTypeNames : List (CfiType × String) := [
  (.signedChar, "signed char"), (.short, "short"), (.int, "int"), (.long, "long"),
  (.longLong, "long long"), (.sizeT, "size_t"), (.int8T, "int8_t"), (.int16T, "int16_t"),
  (.int32T, "int32_t"), (.int64T, "int64_t"), (.intmaxT, "intmax_t"),
  (.intptrT, "intptr_t"), (.ptrdiffT, "ptrdiff_t"), (.float, "float"),
  (.double, "double"), (.longDouble, "long double"), (.floatComplex, "float _Complex"),
  (.doubleComplex, "double _Complex"), (.longDoubleComplex, "long double _Complex"),
  (.bool, "Bool"), (.char, "char"), (.cptr, "cptr"), (.struct, "struct"),
  (.other, "other")]

def vapaaCfiGetTypeName (type : Int) : String :=
  match cfiTypeNames.find? fun entry => mpi.cfiType entry.1 = type with
  | some entry => entry.2
  | none =>
      let number := toString type
      "unknown (" ++ "".pushn ' ' (8 - number.length) ++ number ++ ")"

/-- The MPI types of `VAPAA_CFI_TO_MPI_TYPE`, in the order of its tests. -/
def cfiToMpiTypes : List (CfiType × NamedType) := [
  (.signedChar, .char), (.char, .char), (.int8T, .int8T), (.int16T, .int16T),
  (.int32T, .int32T), (.int64T, .int64T), (.float, .float), (.double, .double),
  (.floatComplex, .cFloatComplex), (.doubleComplex, .cDoubleComplex)]

/-- The MPI type of a type code, if it has one. -/
def mappedType (type : Int) : Option Int :=
  (cfiToMpiTypes.find? fun entry => mpi.cfiType entry.1 = type).map fun entry =>
    mpi.datatype entry.2

def vapaaCfiToMpiType (type : Int) : Call Int :=
  match mappedType mpi type with
  | some datatype => pure datatype
  | none => do
      let name := vapaaCfiGetTypeName mpi type
      vapaaWarning s!"Unknown CFI type = {name} ({type})\n"
      return mpi.datatype .datatypeNull

end TypeNames

def vapaaMpiDatatypeIsBuiltin (handle : Int) : Call Bool := do
  let (rc, combiner) ← pmpiTypeGetEnvelope mpi handle
  vapaaAssert mpi (rc = mpi.errorClass .success)
  let combiner ← Run.readSet combiner
  return combiner = .named

section Machines

/-- Numbers that `ptrdiff_t`, `intptr_t` and `MPI_Aint` have. -/
def Fits64 (value : Int) : Prop := -9223372036854775808 ≤ value ∧ value ≤ 9223372036854775807

instance : DecidablePred Fits64 := fun value =>
  inferInstanceAs (Decidable (-9223372036854775808 ≤ value ∧ value ≤ 9223372036854775807))

/-- What the builder runs on: the numbers that displacements and addresses can be, and what is done
with a call, with the rounds of loops, and with a read of `desc->dim[i]`. -/
structure Machine (loop run : Type → Type) where
  fits : Int → Prop
  decidable : DecidablePred fits
  call : {α : Type} → Call α → run α
  rounds : {α : Type} → loop α → run α
  record : CDesc → Nat → loop Dim
  forLoop : {σ : Type} → Int → (Nat → σ → loop (Flow σ)) → σ → loop (Flow σ)

instance {loop run : Type → Type} (on : Machine loop run) : DecidablePred on.fits := on.decidable

/-- Nothing is noted. -/
def plain (fits : Int → Prop) [decidable : DecidablePred fits] : Machine Id Call where
  fits := fits
  decidable := decidable
  call run := run
  rounds value := pure value
  record desc i := desc.record i
  forLoop := forLoop

section Plain

variable {fits : Int → Prop} [DecidablePred fits] {α σ : Type}

@[simp] theorem plain_call (run : Call α) : (plain fits).call run = run := rfl

@[simp] theorem plain_rounds (value : α) : (plain fits).rounds value = (pure value : Call α) := rfl

@[simp] theorem plain_record (desc : CDesc) (i : Nat) :
    (plain fits).record desc i = (desc.record i : Id Dim) := rfl

@[simp] theorem plain_forLoop (bound : Int) (body : Nat → σ → Flow σ) (state : σ) :
    (plain fits).forLoop bound body state = (forLoop bound body state : Flow σ) := rfl

end Plain

/-- Displacements have no bounds. -/
abbrev unbounded : Machine Id Call := plain fun _ => True

/-- Displacements are those of the source. -/
abbrev ptrdiff : Machine Id Call := plain Fits64

end Machines

namespace Builder

variable {loop run : Type → Type} [Monad loop] [Monad run] (on : Machine loop run)

/-- `desc->dim[i]` -/
def readDim (desc : CDesc) (i : Nat) : run Dim := on.rounds (on.record desc i)

@[simp] theorem readDim_plain (fits : Int → Prop) [DecidablePred fits] (desc : CDesc) (i : Nat) :
    readDim (plain fits) desc i = pure (desc.record i) := rfl

section Enumeration

/-- `(rank > k) ? desc->dim[k].extent : 1` -/
def extentOr1 (desc : CDesc) (k : Nat) : loop Int :=
  if k < desc.rank then do return toInt (← on.record desc k).extent else pure 1

/-- `(rank > k) ? desc->dim[k].sm : 0` -/
def strideOr0 (desc : CDesc) (k : Nat) : loop Int :=
  if k < desc.rank then do return (← on.record desc k).sm else pure 0

/-- `desc->dim[k].sm` -/
def stride (desc : CDesc) (k : Nat) : loop Int := do return (← on.record desc k).sm

/-- `stride0 * i0 + stride1 * i1 + ...` -/
def displace (strides : List Int) (index : List Nat) : Option Int :=
  MixedRadix.boundedDot on.fits strides index 0

/-- Loops over the first dimensions, the last of these outermost and each with its stride, around
what is done with the displacement of an element. -/
def loopsOver {σ : Type} (strideOf : Nat → loop Int) (extents : List Int)
    (body : Int → σ → Flow σ) : Nat → List Int → List Nat → σ → loop (Flow σ)
  | 0, strides, index, state =>
      pure (Flow.ofResult (displace on strides index) fun displacement => body displacement state)
  | k + 1, strides, index, state =>
      state |> on.forLoop (extents.getD k 0) fun i state => do
        let stride ← strideOf k
        loopsOver strideOf extents body k (stride :: strides) (i :: index) state

def readExtents (desc : CDesc) : List Nat → loop (List Int)
  | [] => pure []
  | k :: dimensions => do
      let extent ← extentOr1 on desc k
      return extent :: (← readExtents desc dimensions)

/-- `extent0` to `extent14` -/
def extents15d (desc : CDesc) : loop (List Int) := readExtents on desc (List.range 15)

/-- The fifteen loops that both enumerations of all elements are made of. -/
def loops15d {σ : Type} (desc : CDesc) (extents : List Int) (body : Int → σ → Flow σ) :
    σ → loop (Flow σ) :=
  loopsOver on (strideOr0 on desc) extents body 15 [] []

def loops2d {σ : Type} (desc : CDesc) (extent0 extent1 : Int) (body : Int → σ → Flow σ) :
    σ → loop (Flow σ) :=
  loopsOver on (stride on desc) [extent0, extent1] body 2 [] []

def loops3d {σ : Type} (desc : CDesc) (extent0 extent1 extent2 : Int)
    (body : Int → σ → Flow σ) : σ → loop (Flow σ) :=
  loopsOver on (stride on desc) [extent0, extent1, extent2] body 3 [] []

variable (mpi : Mpi)

/-- The arrays of an enumerating construction: a length of one, and a displacement, for each block
that the loops place. -/
def fillArrays (count : Int)
    (loops : (Int → Filling → Flow Filling) → Filling → loop (Flow Filling)) :
    run (Cells Int × Filling) := do
  let arrayOfBlocklengths := malloc mpi (toSizeT (count * 4)) 4
  on.call (vapaaAssert mpi arrayOfBlocklengths.isSome)
  let arrayOfBlocklengths ← on.call (Run.ofOutcome
    (forLoop count (assign 1) (arrayOfBlocklengths.getD [])).land)
  let arrayOfDisplacements := malloc mpi (toSizeT (count * 8)) 8
  on.call (vapaaAssert mpi arrayOfDisplacements.isSome)
  let left ← on.rounds (loops (Filling.place count)
    { cells := arrayOfDisplacements.getD [], offset := 0 })
  let filling ← on.call (Run.ofOutcome left.land)
  return (arrayOfBlocklengths, filling)

/-- The enumerating constructions: one block of one element for each of the
displacements that the loops place. -/
def createSingles (count : Int)
    (loops : (Int → Filling → Flow Filling) → Filling → loop (Flow Filling))
    (elementDatatype : Call Int) (arrayDatatype : Int) : run (Int × Int) := do
  let (arrayOfBlocklengths, filling) ← fillArrays on mpi count loops
  let elementDatatype ← on.call elementDatatype
  let (rc, arrayDatatype) ← on.call (pmpiTypeCreateHindexed mpi count arrayOfBlocklengths
    filling.cells elementDatatype arrayDatatype)
  on.call (vapaaAssert mpi (rc = mpi.errorClass .success))
  return (mpi.errorClass .success, arrayDatatype)

def vapaaCfiCreateDatatype15d (desc : CDesc) (count inputDatatype arrayDatatype : Int) :
    run (Int × Int) := do
  if ← on.call (vapaaMpiDatatypeIsBuiltin mpi inputDatatype) then
    let extents ← on.rounds (extents15d on desc)
    createSingles on mpi count (loops15d on desc extents) (vapaaCfiToMpiType mpi desc.type)
      arrayDatatype
  else
    on.call (vapaaWarning "input datatype is not a named datatype.\n")
    return (mpi.errorClass .errArg, arrayDatatype)

end Enumeration

end Builder

section NamedDatatypes

/-- `rank == 2 || count <= extent0*extent1` -/
def fitsPlane (desc : CDesc) (count extent0 extent1 : Int) : Call Bool := do
  if desc.rank = 2 then return true
  else
    let plane ← intResult (extent0 * extent1)
    return count ≤ plane

/-- Verifies that the created type holds the correct number of elements. -/
def verifySize (count elemLen arrayDatatype : Int) : Call (Int × Int) := do
  let (_, typeSize) ← pmpiTypeSize mpi arrayDatatype
  let typeSize ← Run.readSet typeSize
  let expected ← intResult (count * elemLen)
  if typeSize ≠ expected then
    vapaaWarning
      s!"type_size ({typeSize}) != count ({count}) * elem_len ({elemLen}).\n"
    return (mpi.errorClass .errIntern, arrayDatatype)
  else
    return (mpi.errorClass .success, arrayDatatype)

namespace Builder

variable {loop run : Type → Type} [Monad loop] [Monad run] (on : Machine loop run) (mpi : Mpi)

/-- Warns about each lower bound other than zero: it is read to test it, and again to print it. -/
def warnLowerBounds (desc : CDesc) : List Nat → run Unit
  | [] => pure ()
  | i :: dimensions => do
      if (← readDim on desc i).lowerBound ≠ 0 then
        let lowerBound := (← readDim on desc i).lowerBound
        on.call (vapaaWarning s!"non-zero lower-bounds ({lowerBound}) are not supported.\n")
      warnLowerBounds desc dimensions

/-- Counts the elements of the array, or stops with an error code. -/
def countElements (desc : CDesc) : List Nat → Int → run (Except Int Int)
  | [], totalElems => return .ok totalElems
  | i :: dimensions, totalElems => do
      let extent := (← readDim on desc i).extent
      let totalElems ← on.call (ssizeResult (totalElems * extent))
      if intMax < extent then
        on.call (vapaaWarning s!"extent ({extent}) > INT_MAX.\n")
        return .error (mpi.errorClass .errCount)
      -- tested per dimension, before an assumed-size array's extent of -1
      else if intMax < totalElems then
        on.call (vapaaWarning s!"total_elems ({totalElems}) > INT_MAX.\n")
        return .error (mpi.errorClass .errCount)
      else
        warnLowerBounds on desc (List.range desc.rank)
        countElements desc dimensions totalElems

/-- A prefix of the first dimension: single elements at its stride. -/
def createElements (desc : CDesc) (count elementDatatype arrayDatatype : Int) :
    run (Int × Int) := do
  let stride := (← readDim on desc 0).sm
  let (rc, arrayDatatype) ←
    on.call (pmpiTypeCreateHvector mpi count 1 stride elementDatatype arrayDatatype)
  on.call (vapaaAssert mpi (rc = mpi.errorClass .success))
  return (mpi.errorClass .success, arrayDatatype)

/-- Whole rows of contiguous elements. -/
def createContiguousRows (desc : CDesc) (count extent0 elementDatatype arrayDatatype : Int) :
    run (Int × Int) := do
  let stride1 := (← readDim on desc 1).sm
  let rows ← on.call (quotient count extent0)
  let (rc, arrayDatatype) ←
    on.call (pmpiTypeCreateHvector mpi rows extent0 stride1 elementDatatype arrayDatatype)
  on.call (vapaaAssert mpi (rc = mpi.errorClass .success))
  return (mpi.errorClass .success, arrayDatatype)

/-- Whole rows of separate elements: a vector of a temporary vector. -/
def createRows (desc : CDesc) (count extent0 stride0 elementDatatype arrayDatatype : Int) :
    run (Int × Int) := do
  let (rc, tempDatatype) ← on.call
    (pmpiTypeCreateHvector mpi extent0 1 stride0 elementDatatype (mpi.datatype .datatypeNull))
  on.call (vapaaAssert mpi (rc = mpi.errorClass .success))
  let stride1 := (← readDim on desc 1).sm
  let rows ← on.call (quotient count extent0)
  let (rc, arrayDatatype) ←
    on.call (pmpiTypeCreateHvector mpi rows 1 stride1 tempDatatype arrayDatatype)
  on.call (vapaaAssert mpi (rc = mpi.errorClass .success))
  let (rc, _) ← on.call (pmpiTypeFree mpi tempDatatype)
  on.call (vapaaAssert mpi (rc = mpi.errorClass .success))
  return (mpi.errorClass .success, arrayDatatype)

/-- A prefix of the first two dimensions. -/
def createPlane (desc : CDesc)
    (count elemLen extent0 extent1 elementDatatype arrayDatatype : Int) :
    run (Int × Int) := do
  let partialRow ← on.call (remainder count extent0)
  if partialRow = 0 then
    let stride0 := (← readDim on desc 0).sm
    if stride0 = elemLen then
      createContiguousRows on mpi desc count extent0 elementDatatype arrayDatatype
    else
      createRows on mpi desc count extent0 stride0 elementDatatype arrayDatatype
  else
    createSingles on mpi count (loops2d on desc extent0 extent1) (pure elementDatatype)
      arrayDatatype

/-- A prefix of a three-dimensional array that no plane holds. -/
def createSpace (desc : CDesc) (count extent0 extent1 elementDatatype arrayDatatype : Int) :
    run (Int × Int) := do
  let extent2 := toInt (← readDim on desc 2).extent
  createSingles on mpi count (loops3d on desc extent0 extent1 extent2) (pure elementDatatype)
    arrayDatatype

/-- The construction that the shape of the prefix selects. -/
def createPrefix (desc : CDesc) (count elemLen elementDatatype inputDatatype arrayDatatype : Int) :
    run (Int × Int) := do
  -- read whatever the rank
  let extent0 := toInt (← readDim on desc 0).extent
  let extent1 := toInt (← readDim on desc 1).extent
  if desc.rank = 1 ∨ count ≤ extent0 then
    createElements on mpi desc count elementDatatype arrayDatatype
  else if ← on.call (fitsPlane desc count extent0 extent1) then
    createPlane on mpi desc count elemLen extent0 extent1 elementDatatype arrayDatatype
  else if desc.rank = 3 then
    createSpace on mpi desc count extent0 extent1 elementDatatype arrayDatatype
  else if desc.rank < 15 then
    let (rc, arrayDatatype) ←
      vapaaCfiCreateDatatype15d on mpi desc count inputDatatype arrayDatatype
    on.call (vapaaAssert mpi (rc = mpi.errorClass .success))
    return (mpi.errorClass .success, arrayDatatype)
  else
    on.call (vapaaWarning s!"Unsupported dimension ({desc.rank}).\n")
    return (mpi.errorClass .errArg, arrayDatatype)

/-- The construction once the elements are counted. -/
def createCounted (desc : CDesc)
    (count totalElems elementDatatype inputDatatype arrayDatatype : Int) :
    run (Int × Int) := do
  let elemLen := toInt desc.elemLen
  -- invalid input that would cause buffer overrun
  if totalElems < count then
    on.call (vapaaWarning s!"count ({count}) > total_elems ({totalElems}).\n")
    return (mpi.errorClass .errArg, arrayDatatype)
  else
    let (rc, arrayDatatype) ←
      createPrefix on mpi desc count elemLen elementDatatype inputDatatype arrayDatatype
    if rc ≠ mpi.errorClass .success then return (rc, arrayDatatype)
    else on.call (verifySize mpi count elemLen arrayDatatype)

/-- The branch for named datatypes as far as the number of elements. -/
def countedElements (desc : CDesc) : run (Int × Except Int Int) := do
  let elementDatatype ← on.call (vapaaCfiToMpiType mpi desc.type)
  let totalElems ← countElements on mpi desc (List.range desc.rank) 1
  return (elementDatatype, totalElems)

/-- The branch of `VAPAA_CFI_CREATE_DATATYPE` for named datatypes. -/
def createFromNamed (desc : CDesc) (count inputDatatype arrayDatatype : Int) :
    run (Int × Int) := do
  let (elementDatatype, totalElems) ← countedElements on mpi desc
  match totalElems with
  | .error rc => return (rc, arrayDatatype)
  | .ok totalElems =>
      createCounted on mpi desc count totalElems elementDatatype inputDatatype arrayDatatype

end Builder

end NamedDatatypes

section DerivedDatatypes

/-- Returns the segments of the datatype and their bytes, or no array. -/
def vapaaCreateMpixIov (handle : Int) : Call (Option (List Segment × Nat)) := do
  match mpi.iovSupport with
  | .available =>
      let (rc, lengths) ← mpixTypeIovLen mpi handle intMax.toNat
      vapaaAssert mpi (rc = mpi.errorClass .success)
      let (iovLen, actualIovBytes) ← Run.readSet lengths
      let iov := malloc mpi (toSizeT (iovLen * 16)) 16
      vapaaAssert mpi iov.isSome
      let (rc, iov, actualIovLen) ← mpixTypeIov mpi handle (iov.getD []) iovLen
      vapaaAssert mpi (rc = mpi.errorClass .success)
      let actualIovLen ← Run.readSet actualIovLen
      let segments ← Run.ofOutcome (Cells.loadFirst actualIovLen iov)
      return some (segments, actualIovBytes)
  | .mpichTooOld =>
      -- the version number is an integer where the format has a string
      Run.undefined .invalidArgument
  | .notMpich => do
      vapaaWarning "Not MPICH so no MPIX_Iov support"
      return none

/-- The segments of the datatype, its extent, and the arrays for lengths and displacements. -/
def indexedArrays (desc : CDesc) (count inputDatatype : Int) :
    Call (List Segment × Int × Cells Int × Cells Int) := do
  let elemLen := toInt desc.elemLen
  let iov ← vapaaCreateMpixIov mpi inputDatatype
  vapaaAssert mpi iov.isSome
  let (segments, totalBytes) ← Run.readSet iov
  let (rc, bounds) ← mpiTypeGetExtent mpi inputDatatype
  vapaaAssert mpi (rc = mpi.errorClass .success)
  let (_, extent) ← Run.readSet bounds
  let iovElements := totalBytes / toSizeT elemLen
  if toSizeT elemLen = 0 then Run.undefined .divisionByZero
  else
    let arrayOfBlocklengths := malloc mpi (toSizeT (count * iovElements * 4)) 4
    vapaaAssert mpi arrayOfBlocklengths.isSome
    let arrayOfDisplacements := malloc mpi (toSizeT (count * iovElements * 8)) 8
    vapaaAssert mpi arrayOfDisplacements.isSome
    return (segments, extent, arrayOfBlocklengths.getD [], arrayOfDisplacements.getD [])

/-- What the selection loops store into, and where. -/
structure Selection where
  arrayOfBlocklengths : Cells Int
  arrayOfDisplacements : Cells Int
  index : Nat

/-- One round of the innermost selection loop. -/
def selectElement (input : Cells Int) (typeDisplacement iovDisplacement : Int) (k : Nat)
    (selection : Selection) : Outcome Selection := do
  let arrayOfBlocklengths ← Cells.store selection.arrayOfBlocklengths selection.index 1
  let offset := toSizeT (k + iovDisplacement + typeDisplacement)
  let address ← Cells.load input offset
  let first ← Cells.load input 0
  let arrayOfDisplacements ←
    Cells.store selection.arrayOfDisplacements selection.index (address - first)
  return {
    arrayOfBlocklengths := arrayOfBlocklengths
    arrayOfDisplacements := arrayOfDisplacements
    index := selection.index + 1 }

/-- `for (size_t k = 0; k < iov_len / elem_len; k++)` for each segment and copy. -/
def selectElements (input : Cells Int) (extent : Int) (elemLen : Int)
    (segments : List Segment) (count : Int) : Selection → Outcome Selection :=
  fun start =>
    (List.range count.toNat).foldlM (fun selection (j : Nat) =>
      let typeDisplacement := j * extent
      if -9223372036854775808 ≤ typeDisplacement ∧ typeDisplacement ≤ 9223372036854775807 then
        segments.foldlM (fun selection segment =>
          if elemLen = 0 then .undefined .divisionByZero
          else
            let iovDisplacement := segment.iovBase.tdiv elemLen
            (List.range (segment.iovLen / toSizeT elemLen)).foldlM (fun selection (k : Nat) =>
              selectElement input typeDisplacement iovDisplacement k selection) selection)
          selection
      else .undefined .overflow) start

namespace Builder

variable {loop run : Type → Type} [Monad loop] [Monad run] (on : Machine loop run) (mpi : Mpi)

def vapaaCfiGetTotalElements (desc : CDesc) : List Nat → Int → run Int
  | [], totalElems => return totalElems
  | i :: dimensions, totalElems => do
      let extent := (← readDim on desc i).extent
      let totalElems ← on.call (ssizeResult (totalElems * extent))
      vapaaCfiGetTotalElements desc dimensions totalElems

/-- `addresses[index] = (void*)((intptr_t)base + displacement); index++;` -/
def pushAddress (base displacement : Int) (filling : Filling) : Flow Filling :=
  if on.fits (base + displacement) then Filling.push (base + displacement) filling
  else .undefined .overflow

/-- The address of every element, in array element order. -/
def vapaaCfiCreateElementAddresses (desc : CDesc) : run (Cells Int) := do
  let numElem ← vapaaCfiGetTotalElements on desc (List.range desc.rank) 1
  let addresses := malloc mpi (toSizeT (numElem * 8)) 8
  on.call (vapaaAssert mpi addresses.isSome)
  let extents ← on.rounds (extents15d on desc)
  let left ← on.rounds (loops15d on desc extents (pushAddress on desc.baseAddr)
    { cells := addresses.getD [], offset := 0 })
  let filling ← on.call (Run.ofOutcome left.land)
  return filling.cells

def vapaaCfiCreateIndexed (desc : CDesc) (count inputDatatype arrayDatatype : Int) :
    run (Int × Int) := do
  match mpi.iovSupport with
  | .available =>
      let elemLen := toInt desc.elemLen
      let (segments, extent, arrayOfBlocklengths, arrayOfDisplacements) ←
        on.call (indexedArrays mpi desc count inputDatatype)
      let input ← vapaaCfiCreateElementAddresses on mpi desc
      let selection ← on.call (Run.ofOutcome
        (selectElements input extent elemLen segments count {
          arrayOfBlocklengths := arrayOfBlocklengths
          arrayOfDisplacements := arrayOfDisplacements
          index := 0 }))
      let n := selection.index
      on.call (vapaaAssert mpi ((n : Int) < intMax))
      let elemDt ← on.call (vapaaCfiToMpiType mpi desc.type)
      let (rc, arrayDatatype) ← on.call (pmpiTypeCreateHindexed mpi (toInt n)
        selection.arrayOfBlocklengths selection.arrayOfDisplacements elemDt arrayDatatype)
      on.call (vapaaAssert mpi (rc = mpi.errorClass .success))
      return (mpi.errorClass .success, arrayDatatype)
  | .mpichTooOld => on.call (Run.undefined .invalidArgument)
  | .notMpich =>
      on.call (vapaaWarning "Not MPICH so no MPIX_Iov support")
      return (mpi.errorClass .errIntern, arrayDatatype)

def vapaaCfiCreateDatatype (desc : CDesc) (count inputDatatype arrayDatatype : Int) :
    run (Int × Int) := do
  if ← on.call (vapaaMpiDatatypeIsBuiltin mpi inputDatatype) then
    createFromNamed on mpi desc count inputDatatype arrayDatatype
  else
    let (rc, arrayDatatype) ←
      vapaaCfiCreateIndexed on mpi desc count inputDatatype arrayDatatype
    on.call (vapaaAssert mpi (rc = mpi.errorClass .success))
    return (mpi.errorClass .success, arrayDatatype)

end Builder

end DerivedDatatypes

section Unbounded

def vapaaCfiCreateDatatype15d (desc : CDesc) (count inputDatatype arrayDatatype : Int) :
    Call (Int × Int) :=
  Builder.vapaaCfiCreateDatatype15d unbounded mpi desc count inputDatatype arrayDatatype

def vapaaCfiGetTotalElements (desc : CDesc) (dimensions : List Nat) (totalElems : Int) :
    Call Int :=
  Builder.vapaaCfiGetTotalElements unbounded desc dimensions totalElems

theorem vapaaCfiGetTotalElements_cons (desc : CDesc) (i : Nat) (dimensions : List Nat)
    (totalElems : Int) :
    vapaaCfiGetTotalElements desc (i :: dimensions) totalElems =
      ssizeResult (totalElems * (desc.record i).extent) >>=
        vapaaCfiGetTotalElements desc dimensions := rfl

/-- The elements are counted without displacements. -/
@[simp] theorem Builder.vapaaCfiGetTotalElements_plain (fits : Int → Prop) [DecidablePred fits]
    (desc : CDesc) (dimensions : List Nat) (totalElems : Int) :
    Builder.vapaaCfiGetTotalElements (plain fits) desc dimensions totalElems =
      Vapaa.vapaaCfiGetTotalElements desc dimensions totalElems := by
  induction dimensions generalizing totalElems with
  | nil => rfl
  | cons i dimensions ih =>
      rw [vapaaCfiGetTotalElements_cons]
      exact congrArg (ssizeResult (totalElems * (desc.record i).extent) >>= ·) (funext ih)

def vapaaCfiCreateElementAddresses (desc : CDesc) : Call (Cells Int) :=
  Builder.vapaaCfiCreateElementAddresses unbounded mpi desc

def vapaaCfiCreateIndexed (desc : CDesc) (count inputDatatype arrayDatatype : Int) :
    Call (Int × Int) :=
  Builder.vapaaCfiCreateIndexed unbounded mpi desc count inputDatatype arrayDatatype

def vapaaCfiCreateDatatype (desc : CDesc) (count inputDatatype arrayDatatype : Int) :
    Call (Int × Int) :=
  Builder.vapaaCfiCreateDatatype unbounded mpi desc count inputDatatype arrayDatatype

end Unbounded

namespace Ptrdiff

def vapaaCfiCreateElementAddresses (desc : CDesc) : Call (Cells Int) :=
  Builder.vapaaCfiCreateElementAddresses ptrdiff mpi desc

def vapaaCfiCreateDatatype (desc : CDesc) (count inputDatatype arrayDatatype : Int) :
    Call (Int × Int) :=
  Builder.vapaaCfiCreateDatatype ptrdiff mpi desc count inputDatatype arrayDatatype

end Ptrdiff

end Vapaa
