import Mathlib.Tactic.Common

/-!
# Error classes

The table of `mpi_error.c` between the error classes of the C library and the
numbers that Fortran callers see.
-/

set_option autoImplicit false

namespace Vapaa

/-- Error classes in the order in which both directions test them. -/
inductive ErrorClass where
  | success | errBuffer | errCount | errType | errTag | errComm | errRank | errRequest
  | errRoot | errGroup | errOp | errTopology | errDims | errArg | errUnknown | errTruncate
  | errOther | errIntern | errPending | errInStatus | errAccess | errAmode | errAssert
  | errBadFile | errBase | errConversion | errDisp | errDupDatarep | errFileExists
  | errFileInUse | errFile | errInfoKey | errInfoNokey | errInfoValue | errInfo | errIo
  | errKeyval | errLocktype | errName | errNoMem | errNotSame | errNoSpace | errNoSuchFile
  | errPort | errProcAborted | errQuota | errReadOnly | errRmaAttach | errRmaConflict
  | errRmaRange | errRmaShared | errRmaSync | errRmaFlavor | errService | errSession
  | errSize | errSpawn | errUnsupportedDatarep | errUnsupportedOperation | errValueTooLarge
  | errWin | tErrCannotInit | tErrNotInitialized | tErrNotSupported | tErrMemory
  | tErrInvalid | tErrInvalidIndex | tErrInvalidItem | tErrInvalidSession
  | tErrInvalidHandle | tErrInvalidName | tErrOutOfHandles | tErrOutOfSessions
  | tErrCvarSetNotNow | tErrCvarSetNever | tErrPvarNoWrite | tErrPvarNoStartstop
  | tErrPvarNoAtomic | errLastcode
  deriving DecidableEq, Repr

namespace ErrorClass

/-- Every class, in the order of the tests. -/
def table : List ErrorClass := [
  .success, .errBuffer, .errCount, .errType, .errTag, .errComm, .errRank, .errRequest,
  .errRoot, .errGroup, .errOp, .errTopology, .errDims, .errArg, .errUnknown, .errTruncate,
  .errOther, .errIntern, .errPending, .errInStatus, .errAccess, .errAmode, .errAssert,
  .errBadFile, .errBase, .errConversion, .errDisp, .errDupDatarep, .errFileExists,
  .errFileInUse, .errFile, .errInfoKey, .errInfoNokey, .errInfoValue, .errInfo, .errIo,
  .errKeyval, .errLocktype, .errName, .errNoMem, .errNotSame, .errNoSpace, .errNoSuchFile,
  .errPort, .errProcAborted, .errQuota, .errReadOnly, .errRmaAttach, .errRmaConflict,
  .errRmaRange, .errRmaShared, .errRmaSync, .errRmaFlavor, .errService, .errSession,
  .errSize, .errSpawn, .errUnsupportedDatarep, .errUnsupportedOperation, .errValueTooLarge,
  .errWin, .tErrCannotInit, .tErrNotInitialized, .tErrNotSupported, .tErrMemory,
  .tErrInvalid, .tErrInvalidIndex, .tErrInvalidItem, .tErrInvalidSession,
  .tErrInvalidHandle, .tErrInvalidName, .tErrOutOfHandles, .tErrOutOfSessions,
  .tErrCvarSetNotNow, .tErrCvarSetNever, .tErrPvarNoWrite, .tErrPvarNoStartstop,
  .tErrPvarNoAtomic, .errLastcode]

/-- Classes that are compared only when `MPI_VERSION >= 4`. -/
def sinceMpi4 : List ErrorClass := [
  .errProcAborted, .errSession, .errValueTooLarge, .tErrNotSupported]

def vapaa : ErrorClass → Int
  | .success => 0
  | .errBuffer => 1
  | .errCount => 2
  | .errType => 3
  | .errTag => 4
  | .errComm => 5
  | .errRank => 6
  | .errRequest => 7
  | .errRoot => 8
  | .errGroup => 9
  | .errOp => 10
  | .errTopology => 11
  | .errDims => 12
  | .errArg => 13
  | .errUnknown => 14
  | .errTruncate => 15
  | .errOther => 16
  | .errIntern => 17
  | .errPending => 18
  | .errInStatus => 19
  | .errAccess => 20
  | .errAmode => 21
  | .errAssert => 22
  | .errBadFile => 23
  | .errBase => 24
  | .errConversion => 25
  | .errDisp => 26
  | .errDupDatarep => 27
  | .errFileExists => 28
  | .errFileInUse => 29
  | .errFile => 30
  | .errInfoKey => 31
  | .errInfoNokey => 32
  | .errInfoValue => 33
  | .errInfo => 34
  | .errIo => 35
  | .errKeyval => 36
  | .errLocktype => 37
  | .errName => 38
  | .errNoMem => 39
  | .errNotSame => 40
  | .errNoSpace => 41
  | .errNoSuchFile => 42
  | .errPort => 43
  | .errProcAborted => 44
  | .errQuota => 45
  | .errReadOnly => 46
  | .errRmaAttach => 47
  | .errRmaConflict => 48
  | .errRmaRange => 49
  | .errRmaShared => 50
  | .errRmaSync => 51
  | .errRmaFlavor => 52
  | .errService => 53
  | .errSession => 54
  | .errSize => 55
  | .errSpawn => 56
  | .errUnsupportedDatarep => 57
  | .errUnsupportedOperation => 58
  | .errValueTooLarge => 59
  | .errWin => 60
  | .tErrCannotInit => 61
  | .tErrNotInitialized => 63
  | .tErrNotSupported => 64
  | .tErrMemory => 65
  | .tErrInvalid => 66
  | .tErrInvalidIndex => 67
  | .tErrInvalidItem => 68
  | .tErrInvalidSession => 69
  | .tErrInvalidHandle => 70
  | .tErrInvalidName => 71
  | .tErrOutOfHandles => 72
  | .tErrOutOfSessions => 73
  | .tErrCvarSetNotNow => 74
  | .tErrCvarSetNever => 75
  | .tErrPvarNoWrite => 76
  | .tErrPvarNoStartstop => 77
  | .tErrPvarNoAtomic => 78
  | .errLastcode => 79

theorem vapaa_eq_zero {errorClass : ErrorClass} :
    errorClass.vapaa = 0 ↔ errorClass = .success := by
  cases errorClass <;> simp [vapaa]

end ErrorClass

end Vapaa
