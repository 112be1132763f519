import Mathlib.Tactic.Common

/-!
# Predefined datatypes

The table of `convert_handles.h` between the predefined datatypes of the C
library and the constants that Fortran callers pass.
-/

set_option autoImplicit false

namespace Vapaa

/-- Predefined datatypes in the order in which both conversions list them. -/
inductive NamedType where
  | datatypeNull | character | logical | integer | real | doublePrecision | complex
  | doubleComplex | integer1 | integer2 | integer4 | integer8 | integer16 | real2 | real4
  | real8 | real16 | complex4 | complex8 | complex16 | complex32 | aint | count | offset
  | byte | char | unsignedChar | signedChar | wchar | short | unsignedShort | int | long
  | unsigned | unsignedLong | longLongInt | unsignedLongLong | float | double | longDouble
  | cBool | int8T | int16T | int32T | int64T | uint8T | uint16T | uint32T | uint64T
  | cComplex | cFloatComplex | cDoubleComplex | cLongDoubleComplex | floatInt | doubleInt
  | longInt | twoInt | shortInt | longDoubleInt | twoReal | twoDoublePrecision | twoInteger
  deriving DecidableEq, Repr

namespace NamedType

/-- Every predefined datatype, in the order of the conversions. -/
def table : List NamedType := [
  .datatypeNull, .character, .logical, .integer, .real, .doublePrecision, .complex,
  .doubleComplex, .integer1, .integer2, .integer4, .integer8, .integer16, .real2, .real4,
  .real8, .real16, .complex4, .complex8, .complex16, .complex32, .aint, .count, .offset,
  .byte, .char, .unsignedChar, .signedChar, .wchar, .short, .unsignedShort, .int, .long,
  .unsigned, .unsignedLong, .longLongInt, .unsignedLongLong, .float, .double, .longDouble,
  .cBool, .int8T, .int16T, .int32T, .int64T, .uint8T, .uint16T, .uint32T, .uint64T,
  .cComplex, .cFloatComplex, .cDoubleComplex, .cLongDoubleComplex, .floatInt, .doubleInt,
  .longInt, .twoInt, .shortInt, .longDoubleInt, .twoReal, .twoDoublePrecision, .twoInteger]

/-- Datatypes that a C library need not have; each has a `HAVE_` guard. -/
def optional : List NamedType := [
  .integer16, .real2, .real16, .complex4, .complex32]

def vapaa : NamedType → Int
  | .datatypeNull => -11
  | .character => -10000
  | .logical => -10001
  | .integer => -10002
  | .real => -10003
  | .doublePrecision => -10004
  | .complex => -10005
  | .doubleComplex => -10006
  | .integer1 => -10007
  | .integer2 => -10008
  | .integer4 => -10009
  | .integer8 => -10010
  | .integer16 => -10011
  | .real2 => -10012
  | .real4 => -10013
  | .real8 => -10014
  | .real16 => -10015
  | .complex4 => -10016
  | .complex8 => -10017
  | .complex16 => -10018
  | .complex32 => -10019
  | .aint => -20000
  | .count => -20001
  | .offset => -20002
  | .byte => -30000
  | .char => -30001
  | .unsignedChar => -30002
  | .signedChar => -30003
  | .wchar => -30004
  | .short => -30005
  | .unsignedShort => -30006
  | .int => -30007
  | .long => -30008
  | .unsigned => -30009
  | .unsignedLong => -30010
  | .longLongInt => -30011
  | .unsignedLongLong => -30012
  | .float => -30013
  | .double => -30014
  | .longDouble => -30015
  | .cBool => -30016
  | .int8T => -30017
  | .int16T => -30018
  | .int32T => -30019
  | .int64T => -30020
  | .uint8T => -30021
  | .uint16T => -30022
  | .uint32T => -30023
  | .uint64T => -30024
  | .cComplex => -30025
  | .cFloatComplex => -30026
  | .cDoubleComplex => -30027
  | .cLongDoubleComplex => -30028
  | .floatInt => -40000
  | .doubleInt => -40001
  | .longInt => -40002
  | .twoInt => -40003
  | .shortInt => -40004
  | .longDoubleInt => -40005
  | .twoReal => -40006
  | .twoDoublePrecision => -40007
  | .twoInteger => -40008

end NamedType

end Vapaa
