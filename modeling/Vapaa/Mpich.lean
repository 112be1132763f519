import Vapaa.MpiLibrary

/-! An MPICH on a 64-bit platform with a GNU compiler, to evaluate the model on. -/

set_option autoImplicit false

namespace Vapaa

open Foundation

namespace Mpich

/-- Type codes carry a class in the low byte and a kind above it. -/
def cfiType : CfiType → Int
  | .signedChar | .int8T => 257
  | .short | .int16T => 513
  | .int | .int32T => 1025
  | .long | .longLong | .sizeT | .int64T | .intmaxT | .intptrT | .ptrdiffT => 2049
  | .float => 1027
  | .double => 2051
  | .longDouble => 2563
  | .floatComplex => 1028
  | .doubleComplex => 2052
  | .longDoubleComplex => 2564
  | .bool => 258
  | .char => 261
  | .cptr => 7
  | .struct => 6
  | .other => -1

def datatype (type : NamedType) : Int :=
  match type with
  | .datatypeNull => 201326592
  | type => 1275068416 + (NamedType.table.idxOf type : Nat)

def handle : Predefined → Int
  | .datatype type => datatype type
  | .op .opNull => 402653184
  | .op operation => 1476395008 + (NamedOp.table.idxOf operation : Nat)
  | .commWorld => 1140850688
  | .commSelf => 1140850689
  | .commNull => 67108864
  | .fileNull => 0
  | .groupNull => 134217728
  | .infoNull => 469762048
  | .messageNull | .requestNull => 738197504
  | .messageNoProc => 1811939328
  | .winNull => 536870912

/-- Sizes of the basic values of a predefined datatype, at their displacements. -/
def parts : NamedType → List (Nat × Int)
  | .datatypeNull => []
  | .character | .integer1 | .byte | .char | .unsignedChar | .signedChar | .cBool | .int8T
  | .uint8T => [(1, 0)]
  | .integer2 | .real2 | .short | .unsignedShort | .int16T | .uint16T => [(2, 0)]
  | .logical | .integer | .real | .integer4 | .real4 | .complex4 | .wchar | .int | .unsigned
  | .float | .int32T | .uint32T => [(4, 0)]
  | .doublePrecision | .complex | .integer8 | .real8 | .complex8 | .aint | .count | .offset
  | .long | .unsignedLong | .longLongInt | .unsignedLongLong | .double | .int64T | .uint64T
  | .cComplex | .cFloatComplex => [(8, 0)]
  | .doubleComplex | .integer16 | .real16 | .complex16 | .longDouble | .cDoubleComplex =>
      [(16, 0)]
  | .complex32 | .cLongDoubleComplex => [(32, 0)]
  | .floatInt | .twoInt | .twoReal | .twoInteger => [(4, 0), (4, 4)]
  | .doubleInt | .longInt => [(8, 0), (4, 8)]
  | .shortInt => [(2, 0), (4, 4)]
  | .longDoubleInt => [(16, 0), (4, 16)]
  | .twoDoublePrecision => [(8, 0), (8, 8)]

def extent : NamedType → Int
  | .longDoubleInt => 32
  | .doubleInt | .longInt => 16
  | type => ((parts type).map fun part => part.2 + (part.1 : Int)).max?.getD 0

def object (type : NamedType) : TypeObject where
  combiner := .named
  layout := {
    map := (parts type).map fun part =>
      { basic := datatype type, size := part.1, displacement := part.2 }
    lb := 0
    extent := extent type }
  committed := true

def contiguous (desc : CDesc) : Bool :=
  decide (desc.Sized → ∀ n, n < desc.elements → desc.displacement n = n * desc.elemLen)

end Mpich

/-- The library with all its optional datatypes, and assertions compiled in. -/
def mpich : Mpi where
  seatbelts := true
  iovSupport := .available
  mpiVersion4 := true
  provides := fun _ => true
  allocates := fun _ => true
  cfiType := Mpich.cfiType
  cfiIsContiguous := fun desc => if Mpich.contiguous desc then 1 else 0
  errorClass := ErrorClass.vapaa
  errorClassOf := some
  errorString := fun _ => "error"
  handle := Mpich.handle
  f2c := fun _ handle => handle
  c2f := fun _ handle => handle
  procNull := -1
  anySource := -2
  anyTag := -1
  statusIgnore := 1
  statusesIgnore := 1
  inPlace := -1
  statusAbi := .mpich
  typeIov := fun layout => layout.map.map fun entry =>
    { iovBase := entry.displacement, iovLen := entry.size }
  success_eq := rfl
  failure_ne := fun _ failed zero => failed (ErrorClass.vapaa_eq_zero.mp zero)
  typeIov_bytes := by
    intro layout
    simp only [List.flatMap_map, TypeMap.bytes]
    rfl

/-- The predefined datatypes, before any other is created. -/
def predefinedTypes : TypeStore where
  object := fun handle =>
    (NamedType.table.find? fun type =>
      type ≠ .datatypeNull ∧ Mpich.datatype type = handle).map Mpich.object
  next := 2000000000
  free := by
    intro handle above
    rw [Option.map_eq_none_iff, List.find?_eq_none]
    intro type member
    have below : ∀ type ∈ NamedType.table, Mpich.datatype type < 2000000000 := by decide
    have small := below type member
    simp only [decide_eq_true_eq, not_and]
    omega

def startWorld : World where
  types := predefinedTypes
  warnings := []

/-- A section of a Fortran array that starts at an address. -/
def sectionOf (baseAddr : Int) (elemLen : Nat) (type : Int) (dims : List Dim)
    (few : dims.length ≤ 15) : CDesc where
  baseAddr := baseAddr
  elemLen := elemLen
  rank := dims.length
  type := type
  dim := fun i => dims.get i
  pastEnd := fun _ => { lowerBound := 0, extent := 0, sm := 0 }
  rank_le := few

end Vapaa
