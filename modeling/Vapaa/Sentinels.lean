import Vapaa.Collectives
import Vapaa.Foundation.LittleEndian
import Vapaa.PointToPoint

/-!
# Sentinels

`detect_sentinels.c`: the addresses of the Fortran variables that stand for missing arguments,
as the start of the library registers them and as the wrappers compare against them.
-/

set_option autoImplicit false

namespace Vapaa

open Foundation

/-- Variables of `mpi_global_constants` that are detected by address. -/
inductive Sentinel where
  | bottom | statusIgnore | statusesIgnore | errcodesIgnore | inPlace | argvNull | argvsNull
  | unweighted | weightsEmpty
  deriving DecidableEq, Repr

/-- The variables `f08_MPI_…_address`. -/
abbrev Registry := Sentinel → Int

/-- Where the variables lie, and where the processor builds the descriptor of an assumed-rank
argument: somewhere else. `members` are the bytes of a descriptor after its `base_addr`. -/
structure Placement where
  address : Sentinel → Int
  descriptor : Int
  members : List UInt8
  distinct : Function.Injective address
  nonNull : ∀ sentinel, 0 < address sentinel
  addressable : ∀ sentinel, address sentinel < 18446744073709551616
  fresh : ∀ sentinel, descriptor ≠ address sentinel

section Registration

variable (haveCfi : Bool)

/-- `desc->base_addr`, the first member of a descriptor. -/
def baseAddrAt (memory : Memory Int UInt8) (desc : Int) : Int :=
  LittleEndian.value (memory.read desc 8)

/-- What the functions that register a sentinel share: with descriptors, the argument is taken
for the address of one. -/
def registerSentinel (sentinel : Sentinel) (argument : Int) (memory : Memory Int UInt8)
    (registry : Registry) : Registry :=
  let addr := if haveCfi then baseAddrAt memory argument else argument
  Function.update registry sentinel addr

def cMpiBottom := registerSentinel haveCfi .bottom

def cMpiStatusIgnore := registerSentinel haveCfi .statusIgnore

def cMpiStatusesIgnore := registerSentinel haveCfi .statusesIgnore

def cMpiErrcodesIgnore := registerSentinel haveCfi .errcodesIgnore

def cMpiInPlace := registerSentinel haveCfi .inPlace

def cMpiArgvNull := registerSentinel haveCfi .argvNull

def cMpiArgvsNull := registerSentinel haveCfi .argvsNull

def cMpiUnweighted := registerSentinel haveCfi .unweighted

def cMpiWeightsEmpty := registerSentinel haveCfi .weightsEmpty

variable (placement : Placement) (memory : Sentinel → Memory Int UInt8)

/-- A call whose interface declares `type(*) :: inplace`: the address of the variable is passed. -/
def callScalar (register : Int → Memory Int UInt8 → Registry → Registry) (sentinel : Sentinel) :
    Registry → Registry :=
  register (placement.address sentinel) (memory sentinel)

/-- A call whose interface declares `type(*) :: inplace(..)`: the address of a descriptor of the
variable is passed. -/
def callAssumedRank (register : Int → Memory Int UInt8 → Registry → Registry)
    (sentinel : Sentinel) : Registry → Registry :=
  register placement.descriptor ((memory sentinel).write placement.descriptor
    (LittleEndian.bytes 8 (placement.address sentinel).toNat ++ placement.members))

/-- `F_MPI_INIT_ADDRESS_SENTINELS`, with the interfaces of `detect_sentinels_c` and the contents
of the memory at each of its calls. -/
def fMpiInitAddressSentinels (registry : Registry) : Registry :=
  let registry := callScalar placement memory (cMpiBottom haveCfi) .bottom registry
  let registry := callScalar placement memory (cMpiStatusIgnore haveCfi) .statusIgnore registry
  let registry :=
    callAssumedRank placement memory (cMpiStatusesIgnore haveCfi) .statusesIgnore registry
  let registry :=
    callScalar placement memory (cMpiErrcodesIgnore haveCfi) .errcodesIgnore registry
  let registry := callScalar placement memory (cMpiInPlace haveCfi) .inPlace registry
  let registry := callScalar placement memory (cMpiArgvNull haveCfi) .argvNull registry
  let registry := callScalar placement memory (cMpiArgvsNull haveCfi) .argvsNull registry
  let registry := callScalar placement memory (cMpiUnweighted haveCfi) .unweighted registry
  callScalar placement memory (cMpiWeightsEmpty haveCfi) .weightsEmpty registry

end Registration

namespace Registry

variable (registry : Registry)

/-- What the functions that recognise a sentinel share. -/
def isSentinel (sentinel : Sentinel) (address : Int) : Bool := address = registry sentinel

def cIsMpiBottom := isSentinel registry .bottom

def cIsMpiStatusIgnore := isSentinel registry .statusIgnore

def cIsMpiStatusesIgnore := isSentinel registry .statusesIgnore

def cIsMpiErrcodesIgnore := isSentinel registry .errcodesIgnore

def cIsMpiInPlace := isSentinel registry .inPlace

def cIsMpiArgvNull := isSentinel registry .argvNull

def cIsMpiArgvsNull := isSentinel registry .argvsNull

def cIsMpiUnweighted := isSentinel registry .unweighted

def cIsMpiWeightsEmpty := isSentinel registry .weightsEmpty

/-- The function that recognises a sentinel. -/
def cIs : Sentinel → Int → Bool
  | .bottom => registry.cIsMpiBottom
  | .statusIgnore => registry.cIsMpiStatusIgnore
  | .statusesIgnore => registry.cIsMpiStatusesIgnore
  | .errcodesIgnore => registry.cIsMpiErrcodesIgnore
  | .inPlace => registry.cIsMpiInPlace
  | .argvNull => registry.cIsMpiArgvNull
  | .argvsNull => registry.cIsMpiArgvsNull
  | .unweighted => registry.cIsMpiUnweighted
  | .weightsEmpty => registry.cIsMpiWeightsEmpty

private theorem cIs_eq
    (sentinel : Sentinel) : registry.cIs sentinel = registry.isSentinel sentinel := by
  cases sentinel with
  | _ => rfl

/-- The addresses that the wrappers of sections compare with. -/
def sentinels : Sentinels where
  statusIgnore := registry .statusIgnore
  statusesIgnore := registry .statusesIgnore
  inPlace := registry .inPlace

/-- A sentinel is recognised exactly at the address registered for it. -/
theorem cIs_exact_iff {sentinel : Sentinel} {address : Int} :
    (∀ x, registry.cIs sentinel x = true ↔ x = address) ↔ registry sentinel = address := by
  simp only [cIs_eq, isSentinel, decide_eq_true_eq]
  constructor
  · exact fun exactly => (exactly _).mp rfl
  · rintro rfl x
    rfl

end Registry

/-- The wrappers of a process recognise what its registry does. -/
theorem cIsMpiInPlace_apply {process : Process} {registry : Registry}
    (registered : process.sentinels = registry.sentinels) (address : Int) :
    cIsMpiInPlace address process = .returned (registry.cIs .inPlace address, process) := by
  rw [cIsMpiInPlace, registered]
  rfl

theorem cIsMpiStatusIgnore_apply {process : Process} {registry : Registry}
    (registered : process.sentinels = registry.sentinels) (address : Int) :
    cIsMpiStatusIgnore address process =
      .returned (registry.cIs .statusIgnore address, process) := by
  rw [cIsMpiStatusIgnore, registered]
  rfl

section Exactness

variable {haveCfi : Bool} {placement : Placement} {memory : Sentinel → Memory Int UInt8}
variable {registry : Registry} {sentinel : Sentinel}

theorem fMpiInitAddressSentinels_apply :
    fMpiInitAddressSentinels haveCfi placement memory registry sentinel =
      match sentinel with
      | .statusesIgnore =>
          if haveCfi then baseAddrAt ((memory .statusesIgnore).write placement.descriptor
            (LittleEndian.bytes 8 (placement.address .statusesIgnore).toNat ++ placement.members))
              placement.descriptor
          else placement.descriptor
      | sentinel =>
          if haveCfi then baseAddrAt (memory sentinel) (placement.address sentinel)
          else placement.address sentinel := by
  cases sentinel with
  | _ => rfl

/-- A descriptor that the processor built leads to its variable. -/
theorem baseAddrAt_descriptor (memory : Memory Int UInt8) :
    baseAddrAt (memory.write placement.descriptor
      (LittleEndian.bytes 8 (placement.address sentinel).toNat ++ placement.members))
        placement.descriptor = placement.address sentinel := by
  have positive := placement.nonNull sentinel
  have addressable := placement.addressable sentinel
  have read := memory.read_write_append placement.descriptor
    (LittleEndian.bytes 8 (placement.address sentinel).toNat) placement.members
  rw [LittleEndian.length_bytes] at read
  rw [baseAddrAt, read, LittleEndian.value_bytes (by omega), Int.toNat_of_nonneg (by omega)]

/-- A sentinel is registered right where the two sides agree on what is passed, and otherwise
where the word at the variable happens to be the address of the variable. -/
theorem fMpiInitAddressSentinels_exact_iff :
    (∀ x, (fMpiInitAddressSentinels haveCfi placement memory registry).cIs sentinel x = true ↔
        x = placement.address sentinel) ↔
      if haveCfi then
        sentinel = .statusesIgnore ∨
          baseAddrAt (memory sentinel) (placement.address sentinel) = placement.address sentinel
      else sentinel ≠ .statusesIgnore := by
  rw [Registry.cIs_exact_iff, fMpiInitAddressSentinels_apply]
  cases haveCfi with
  | true =>
      by_cases ranked : sentinel = .statusesIgnore
      · subst ranked
        simp [baseAddrAt_descriptor]
      · cases sentinel with
        | statusesIgnore => exact absurd rfl ranked
        | _ => simp
  | false =>
      cases sentinel with
      | statusesIgnore => simpa using placement.fresh .statusesIgnore
      | _ => simp

end Exactness

/-- Variables 64 bytes apart from each other. -/
def spacedPlacement : Placement where
  address sentinel := 4096 + 64 * sentinel.ctorIdx
  descriptor := 65536
  members := []
  distinct := by
    intro first second same
    have indices : first.ctorIdx = second.ctorIdx := by
      dsimp only at same
      omega
    rw [← Sentinel.ofNat_ctorIdx first, ← Sentinel.ofNat_ctorIdx second, indices]
  nonNull sentinel := by omega
  addressable sentinel := by cases sentinel with | _ => decide
  fresh sentinel := by cases sentinel with | _ => decide

/-- With descriptors, a variable that holds zero makes a null address the sentinel; without
them, no array of ignored statuses is recognised. -/
theorem fMpiInitAddressSentinels_inexact :
    ¬ (∀ x, (fMpiInitAddressSentinels true spacedPlacement (fun _ _ => 0) fun _ => 0).cIs
        .bottom x = true ↔ x = spacedPlacement.address .bottom) ∧
      ¬ (∀ x, (fMpiInitAddressSentinels false spacedPlacement (fun _ _ => 0) fun _ => 0).cIs
        .statusesIgnore x = true ↔ x = spacedPlacement.address .statusesIgnore) := by
  constructor
  · intro exactly
    have null := (exactly 0).mp (by decide)
    exact absurd null (by decide)
  · intro exactly
    have recognised := (exactly (spacedPlacement.address .statusesIgnore)).mpr rfl
    exact absurd recognised (by decide)

end Vapaa
