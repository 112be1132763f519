import Vapaa.NamedType

/-!
# Handles

The constants of `vapaa_constants.h` for predefined objects other than datatypes,
and the conversions of `convert_handles.h`.
-/

set_option autoImplicit false

namespace Vapaa

/-- Predefined operations in the order of `C_MPI_OP_F2C`. -/
inductive NamedOp where
  | opNull | max | min | sum | prod | maxloc | minloc | band | bor | bxor | land | lor | lxor
  | replace | noOp
  deriving DecidableEq, Repr

namespace NamedOp

def table : List NamedOp := [
  .opNull, .max, .min, .sum, .prod, .maxloc, .minloc, .band, .bor, .bxor, .land, .lor, .lxor,
  .replace, .noOp]

def vapaa : NamedOp → Int
  | .opNull => -16
  | .max => -40000
  | .min => -40001
  | .sum => -40002
  | .prod => -40003
  | .maxloc => -40004
  | .minloc => -40005
  | .band => -40006
  | .bor => -40007
  | .bxor => -40008
  | .land => -40009
  | .lor => -40010
  | .lxor => -40011
  | .replace => -40012
  | .noOp => -40013

end NamedOp

inductive Kind where
  | comm | datatype | file | group | info | message | op | request | win
  deriving DecidableEq, Repr

/-- Predefined handles that the conversions know. -/
inductive Predefined where
  | datatype (type : NamedType)
  | op (operation : NamedOp)
  | commWorld | commSelf | commNull | fileNull | groupNull | infoNull | messageNull
  | messageNoProc | requestNull | winNull
  deriving DecidableEq, Repr

namespace Predefined

def vapaa : Predefined → Int
  | .datatype type => type.vapaa
  | .op operation => operation.vapaa
  | .commWorld => -1000
  | .commSelf => -100
  | .commNull => -10
  | .fileNull => -12
  | .groupNull => -13
  | .infoNull => -14
  | .messageNull => -15
  | .messageNoProc => -150
  | .requestNull => -17
  | .winNull => -18

/-- Predefined handles of a kind, in the order in which they are tested. -/
def table : Kind → List Predefined
  | .comm => [.commWorld, .commSelf, .commNull]
  | .datatype => NamedType.table.map .datatype
  | .file => [.fileNull]
  | .group => [.groupNull]
  | .info => [.infoNull]
  | .message => [.messageNull, .messageNoProc]
  | .op => NamedOp.table.map .op
  | .request => [.requestNull]
  | .win => [.winNull]

end Predefined

end Vapaa
