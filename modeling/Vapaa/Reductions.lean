import Vapaa.BuilderProperties
import Vapaa.ErrorQueries

/-!
# Reductions

`C_MPI_Reduce` and `C_MPI_Allreduce` of `mpi_coll.c`, with descriptors and without, and the
detectors of `detect_builtins.h` that guard them.
-/

set_option autoImplicit false

namespace Vapaa

open Foundation

section Detectors

/-- The datatypes that `C_MPI_TYPE_IS_BUILTIN` tests for, in its order. -/
def detectedTypes : List NamedType := [
  .character, .logical, .integer, .real, .doublePrecision, .complex, .doubleComplex, .integer1,
  .integer2, .integer4, .integer8, .integer16, .real2, .real4, .real8, .real16, .complex4,
  .complex8, .complex16, .complex32, .aint, .count, .offset, .byte, .char, .unsignedChar,
  .signedChar, .wchar, .short, .unsignedShort, .int, .long, .unsigned, .unsignedLong,
  .longLongInt, .unsignedLongLong, .float, .double, .longDouble, .cBool, .int8T, .int16T,
  .int32T, .int64T, .uint8T, .uint16T, .uint32T, .uint64T, .cComplex, .cFloatComplex,
  .cDoubleComplex, .cLongDoubleComplex]

/-- The operations that `C_MPI_OP_IS_BUILTIN` tests for, in its order. -/
def detectedOps : List NamedOp := [
  .max, .min, .sum, .prod, .maxloc, .minloc, .band, .bor, .bxor, .land, .lor, .lxor]

variable (mpi : Mpi)

def cMpiTypeIsBuiltin (typeC : Int) : Bool :=
  if typeC = mpi.datatype .datatypeNull then false
  else detectedTypes.any fun type => mpi.has (.datatype type) ∧ typeC = mpi.datatype type

def cMpiOpIsBuiltin (opC : Int) : Bool :=
  if opC = mpi.handle (.op .opNull) then false
  else detectedOps.any fun operation => opC = mpi.handle (.op operation)

end Detectors

section Library

/-- A reduction that the library was asked for, with its arguments. -/
inductive Reduction where
  | reduce (input output count datatype op root comm : Int)
  | allreduce (input output count datatype op comm : Int)
  deriving DecidableEq, Repr

/-- A process, and the reductions it has asked for. -/
structure Reducing where
  process : Process
  reductions : List Reduction

abbrev ReduceRun := Run Reducing

/-- What a wrapper does besides. -/
def onReducing {α : Type} : Wrapper α → ReduceRun α :=
  Run.zoom Reducing.process fun state process => { state with process := process }

/-- The library is asked for a reduction, and answers with a code. -/
def askReduction (rc : Int) (reduction : Reduction) : ReduceRun Int := fun state =>
  .returned (rc, { state with reductions := state.reductions ++ [reduction] })

def mpiReduce (rc input output count datatype op root comm : Int) : ReduceRun Int :=
  askReduction rc (.reduce input output count datatype op root comm)

def mpiAllreduce (rc input output count datatype op comm : Int) : ReduceRun Int :=
  askReduction rc (.allreduce input output count datatype op comm)

end Library

section Wrappers

variable (mpi : Mpi)

/-- The test before a reduction, with what follows it. -/
def guardReduction (op datatype : Int) (rest : ReduceRun Int) : ReduceRun Int :=
  if ¬ cMpiOpIsBuiltin mpi op ∧ cMpiTypeIsBuiltin mpi datatype then do
    onReducing (call (vapaaWarning
      "user-def reduce op with built-in type is not supported. See docs.\n"))
    onReducing (call (cMpiRcFix mpi (mpi.errorClass .errOp)))
  else rest

/-- What `C_MPI_Reduce` and `C_MPI_Allreduce` do around their MPI call. -/
def cReduction (input output datatypeF opF commF : Int)
    (communicate : Int → Int → Int → Int → Int → ReduceRun Int) : ReduceRun Int :=
  let datatype := cMpiTypeF2c mpi datatypeF
  let op := cMpiOpF2c mpi opF
  guardReduction mpi op datatype do
    let comm := cMpiCommF2c mpi commF
    let input ← onReducing (inPlaceArgument mpi input)
    let output ← onReducing (inPlaceArgument mpi output)
    let ierror ← communicate input output datatype op comm
    onReducing (call (cMpiRcFix mpi ierror))

/-- What `CFI_MPI_Reduce` and `CFI_MPI_Allreduce` do around their MPI call; the case of a section
that is not contiguous ends in `MPI_Abort`. -/
def cfiReduction (input output : CDesc) (datatypeF opF commF : Int)
    (communicate : Int → Int → Int → Int → Int → ReduceRun Int) : ReduceRun Int := do
  let inAddr ← onReducing (inPlaceArgument mpi input.baseAddr)
  let outAddr ← onReducing (inPlaceArgument mpi output.baseAddr)
  let datatype := cMpiTypeF2c mpi datatypeF
  let op := cMpiOpF2c mpi opF
  guardReduction mpi op datatype do
    let comm := cMpiCommF2c mpi commF
    if mpi.cfiIsContiguous input = 1 ∧ mpi.cfiIsContiguous output = 1 then
      let ierror ← communicate inAddr outAddr datatype op comm
      onReducing (call (cMpiRcFix mpi ierror))
    else
      onReducing (call (vapaaWarning "FIXME: not contiguous case\n"))
      Run.abort

def cMpiReduce (rc input output count datatypeF opF root commF : Int) : ReduceRun Int :=
  cReduction mpi input output datatypeF opF commF fun input output datatype op comm =>
    mpiReduce rc input output count datatype op root comm

def cfiMpiReduce (rc : Int) (input output : CDesc) (count datatypeF opF root commF : Int) :
    ReduceRun Int :=
  cfiReduction mpi input output datatypeF opF commF fun inAddr outAddr datatype op comm =>
    mpiReduce rc inAddr outAddr count datatype op root comm

def cMpiAllreduce (rc input output count datatypeF opF commF : Int) : ReduceRun Int :=
  cReduction mpi input output datatypeF opF commF fun input output datatype op comm =>
    mpiAllreduce rc input output count datatype op comm

def cfiMpiAllreduce (rc : Int) (input output : CDesc) (count datatypeF opF commF : Int) :
    ReduceRun Int :=
  cfiReduction mpi input output datatypeF opF commF fun inAddr outAddr datatype op comm =>
    mpiAllreduce rc inAddr outAddr count datatype op comm

end Wrappers

section Calls

/-- A call of one of the four wrappers, but for its datatype and operation. -/
inductive ReduceCall where
  | reduce (input output count root comm : Int)
  | cfiReduce (input output : CDesc) (count root comm : Int)
  | allreduce (input output count comm : Int)
  | cfiAllreduce (input output : CDesc) (count comm : Int)

variable (mpi : Mpi)

def ReduceCall.run (rc datatypeF opF : Int) : ReduceCall → ReduceRun Int
  | .reduce input output count root comm =>
      cMpiReduce mpi rc input output count datatypeF opF root comm
  | .cfiReduce input output count root comm =>
      cfiMpiReduce mpi rc input output count datatypeF opF root comm
  | .allreduce input output count comm =>
      cMpiAllreduce mpi rc input output count datatypeF opF comm
  | .cfiAllreduce input output count comm =>
      cfiMpiAllreduce mpi rc input output count datatypeF opF comm

/-- The call returns `MPI_ERR_OP`, and the library was not asked. -/
def ReduceCall.Refuses (reduceCall : ReduceCall) (rc datatypeF opF : Int) (state : Reducing) :
    Prop :=
  Run.Returns (reduceCall.run mpi rc datatypeF opF) state fun ierror final =>
    ierror = ErrorClass.errOp.vapaa ∧ final.reductions = state.reductions

end Calls

section Handles

variable (mpi : Mpi) (types : TypeStore) (userOps : Int → Prop)

/-- The datatypes of pairs, for `MPI_MAXLOC` and `MPI_MINLOC`. -/
def pairTypes : List NamedType := [
  .floatInt, .doubleInt, .longInt, .twoInt, .shortInt, .longDoubleInt, .twoReal,
  .twoDoublePrecision, .twoInteger]

/-- The constant of a predefined datatype that the library has. -/
def PredefinedType (datatypeF : Int) : Prop :=
  ∃ type, type ≠ .datatypeNull ∧ mpi.has (.datatype type) = true ∧ datatypeF = type.vapaa

/-- A handle of a derived datatype. -/
def DerivedType (datatypeF : Int) : Prop :=
  ∃ object, types.object (cMpiTypeF2c mpi datatypeF) = some object ∧ object.combiner = .derived

/-- The constant of a datatype of pairs. -/
def PairType (datatypeF : Int) : Prop := ∃ type ∈ pairTypes, datatypeF = type.vapaa

/-- A handle that `MPI_Op_create` has made. -/
def UserOp (opF : Int) : Prop := userOps (cMpiOpF2c mpi opF)

/-- What the library says of its datatypes and operations: predefined datatypes are named, those of
pairs have handles of their own, and no operation but a predefined one has the handle of one. -/
structure NamesBuiltins : Prop where
  named : ∀ type, type ≠ .datatypeNull → mpi.has (.datatype type) = true →
    ∃ object, types.object (mpi.datatype type) = some object ∧ object.combiner = .named
  null : types.object (mpi.datatype .datatypeNull) = none
  pairs : ∀ pair ∈ pairTypes, ∀ type ∈ detectedTypes, mpi.datatype pair ≠ mpi.datatype type
  ops : ∀ operation ∈ detectedOps, mpi.handle (.op operation) ≠ mpi.handle (.op .opNull)
  users : ∀ op, userOps op → ∀ operation, mpi.handle (.op operation) ≠ op

/-- A call refuses user-defined operations on predefined datatypes, and neither derived datatypes
nor the predefined operations. -/
structure Guards (reduceCall : ReduceCall) (rc datatypeF opF : Int) (state : Reducing) : Prop where
  user : UserOp mpi userOps opF → PredefinedType mpi datatypeF →
    reduceCall.Refuses mpi rc datatypeF opF state
  derived : DerivedType mpi types datatypeF → ¬ reduceCall.Refuses mpi rc datatypeF opF state
  predefined : ∀ operation ∈ detectedOps, opF = operation.vapaa →
    ¬ reduceCall.Refuses mpi rc datatypeF opF state

/-- The detector, the envelope and the table of the conversion agree on a handle. -/
def DetectorsAgree (datatypeF : Int) (world : World) : Prop :=
  Run.Returns (vapaaMpiDatatypeIsBuiltin mpi (cMpiTypeF2c mpi datatypeF)) world fun builtin _ =>
    (cMpiTypeIsBuiltin mpi (cMpiTypeF2c mpi datatypeF) = true ↔ builtin = true) ∧
    (cMpiTypeIsBuiltin mpi (cMpiTypeF2c mpi datatypeF) = true ↔
      ∃ type, type ≠ .datatypeNull ∧ mpi.has (.datatype type) = true ∧
        mpi.datatype type = cMpiTypeF2c mpi datatypeF)

end Handles

section Detection

variable {mpi : Mpi} {types : TypeStore} {userOps : Int → Prop} {datatypeF opF : Int}

private theorem detectedTypes_or_pair {type : NamedType} (some : type ≠ .datatypeNull) :
    type ∈ detectedTypes ∨ type ∈ pairTypes := by
  revert some
  cases type <;> decide

private theorem cMpiTypeIsBuiltin_iff {typeC : Int} (live : typeC ≠ mpi.datatype .datatypeNull) :
    cMpiTypeIsBuiltin mpi typeC = true ↔
      ∃ type ∈ detectedTypes, mpi.has (.datatype type) = true ∧ typeC = mpi.datatype type := by
  rw [cMpiTypeIsBuiltin, if_neg live, List.any_eq_true]
  simp only [Bool.decide_and, Bool.and_eq_true, decide_eq_true_eq]

theorem NamesBuiltins.ne_null (names : NamesBuiltins mpi types userOps) {typeC : Int}
    {object : TypeObject} (live : types.object typeC = some object) :
    typeC ≠ mpi.datatype .datatypeNull := by
  rintro rfl
  exact absurd (names.null.symm.trans live) nofun

theorem NamesBuiltins.ne_derived (names : NamesBuiltins mpi types userOps)
    (derived : DerivedType mpi types datatypeF) {type : NamedType} (nonnull : type ≠ .datatypeNull)
    (provided : mpi.has (.datatype type) = true) :
    mpi.datatype type ≠ cMpiTypeF2c mpi datatypeF := by
  intro same
  obtain ⟨object, live, combined⟩ := derived
  obtain ⟨named, present, combined'⟩ := names.named type nonnull provided
  obtain rfl : named = object := Option.some.inj (present.symm.trans (same ▸ live))
  exact absurd (combined'.symm.trans combined) nofun

private theorem nonnull_of_pair {type : NamedType}
    (pair : type ∈ pairTypes) : type ≠ .datatypeNull := by
  rintro rfl
  exact absurd pair (by decide)

private theorem has_of_pair {type : NamedType} (pair : type ∈ pairTypes) :
    mpi.has (.datatype type) = true := by
  have required : ∀ pair ∈ pairTypes, pair ∉ NamedType.optional := by decide
  exact decide_eq_true (Or.inl (required type pair))

private theorem cMpiTypeIsBuiltin_of_predefined (names : NamesBuiltins mpi types userOps)
    (predefined : PredefinedType mpi datatypeF) :
    cMpiTypeIsBuiltin mpi (cMpiTypeF2c mpi datatypeF) = true ↔ ¬ PairType datatypeF := by
  obtain ⟨type, nonnull, provided, rfl⟩ := predefined
  obtain ⟨object, live, -⟩ := names.named type nonnull provided
  rw [cMpiTypeF2c_vapaa provided, cMpiTypeIsBuiltin_iff (names.ne_null live)]
  constructor
  · rintro ⟨detected, member, -, same⟩ ⟨pair, paired, alike⟩
    obtain rfl : type = pair :=
      Predefined.datatype.inj (Predefined.vapaa_inj (mem_table type) (mem_table pair) alike)
    exact names.pairs type paired detected member same
  · intro unpaired
    refine ⟨type, ?_, provided, rfl⟩
    exact (detectedTypes_or_pair nonnull).resolve_right fun pair => unpaired ⟨type, pair, rfl⟩

private theorem cMpiTypeIsBuiltin_of_derived (names : NamesBuiltins mpi types userOps)
    (derived : DerivedType mpi types datatypeF) :
    cMpiTypeIsBuiltin mpi (cMpiTypeF2c mpi datatypeF) = false := by
  have ⟨object, live, _⟩ := derived
  rw [← Bool.not_eq_true, cMpiTypeIsBuiltin_iff (names.ne_null live)]
  rintro ⟨type, member, provided, same⟩
  have nonnull : type ≠ .datatypeNull := by
    rintro rfl
    exact absurd member (by decide)
  exact names.ne_derived derived nonnull provided same.symm

private theorem cMpiOpIsBuiltin_of_user (names : NamesBuiltins mpi types userOps)
    (user : UserOp mpi userOps opF) : cMpiOpIsBuiltin mpi (cMpiOpF2c mpi opF) = false := by
  have other := names.users _ user
  rw [cMpiOpIsBuiltin, if_neg (other .opNull).symm, List.any_eq_false]
  intro operation _ same
  exact other operation (of_decide_eq_true same).symm

private theorem cMpiOpIsBuiltin_of_detected (names : NamesBuiltins mpi types userOps)
    {operation : NamedOp} (detected : operation ∈ detectedOps) :
    cMpiOpIsBuiltin mpi (cMpiOpF2c mpi operation.vapaa) = true := by
  rw [cMpiOpF2c_vapaa, cMpiOpIsBuiltin, if_neg (names.ops operation detected), List.any_eq_true]
  exact ⟨operation, detected, decide_eq_true rfl⟩

end Detection

section Refusals

variable {mpi : Mpi} {state : Reducing} {op datatype : Int} {rest : ReduceRun Int}

/-- The class of `MPI_ERR_OP` is that class, and no other class has its number. -/
structure OpCoded (mpi : Mpi) : Prop where
  classified : mpi.errorClassOf (mpi.errorClass .errOp) = some (mpi.errorClass .errOp)
  own : ∀ errorClass, mpi.errorClass errorClass = mpi.errorClass .errOp → errorClass = .errOp

theorem cMpiRcFix_errOp (coded : OpCoded mpi) (world : World) :
    cMpiRcFix mpi (mpi.errorClass .errOp) world = .returned (ErrorClass.errOp.vapaa, world) := by
  have known : ∃ errorClass, mpi.knows errorClass ∧
      mpi.errorClass errorClass = mpi.errorClass .errOp := ⟨.errOp, Or.inl (by decide), rfl⟩
  obtain ⟨errorClass, found, -, numbered, -⟩ := errorClassFound_of_known known
  obtain rfl := coded.own errorClass numbered
  rw [cMpiRcFix, if_pos (by rw [mpi.success_eq]; exact mpi.failure_ne .errOp (by decide))]
  exact cMpiErrorCodeC2f_of_found coded.classified found

private theorem guardReduction_refuses (coded : OpCoded mpi)
    (guarded : cMpiOpIsBuiltin mpi op = false ∧ cMpiTypeIsBuiltin mpi datatype = true) :
    Run.Returns (guardReduction mpi op datatype rest) state fun ierror final =>
      ierror = ErrorClass.errOp.vapaa ∧ final.reductions = state.reductions := by
  rw [guardReduction, if_pos ⟨by rw [guarded.1]; exact Bool.false_ne_true, guarded.2⟩]
  refine Run.returns_bind_of_returned rfl ?_
  refine Run.returns_of_returned (Run.zoom_of_returned (Run.zoom_of_returned
    (cMpiRcFix_errOp coded _))) ⟨rfl, rfl⟩

/-- A run that returns has asked the library for a reduction. -/
def AsksFor (run : ReduceRun Int) (state : Reducing) : Prop :=
  Run.Ensures run state fun _ final =>
    ∃ reduction, final.reductions = state.reductions ++ [reduction]

private theorem not_refuses_of_asks {run : ReduceRun Int} (asks : AsksFor run state) :
    ¬ Run.Returns run state fun ierror final =>
      ierror = ErrorClass.errOp.vapaa ∧ final.reductions = state.reductions := by
  intro refuses
  obtain ⟨_, final, -, ⟨-, same⟩, reduction, grown⟩ := refuses.and_ensures asks
  exact List.cons_ne_nil _ _ (List.self_eq_append_right.mp (same.symm.trans grown))

private theorem onReducing_keeps {α : Type} (run : Wrapper α) :
    Run.Ensures (onReducing run) state fun _ final => final.reductions = state.reductions := by
  intro value final returned
  obtain ⟨part, -, rfl⟩ := Run.zoom_eq_returned.mp returned
  rfl

/-- Steps before the question do not count. -/
theorem asks_bind {α : Type} {run : Wrapper α} {next : α → ReduceRun Int}
    (asks : ∀ value middle, middle.reductions = state.reductions → AsksFor (next value) middle) :
    AsksFor (onReducing run >>= next) state := by
  refine (onReducing_keeps run).bind fun value middle same => ?_
  exact (asks value middle same).mono fun _ final ⟨reduction, grown⟩ => ⟨reduction, same ▸ grown⟩

private theorem asks_askReduction {run : ReduceRun Int} {next : Int → Wrapper Int}
    (asked : ∃ rc reduction, run = askReduction rc reduction) :
    AsksFor (run >>= fun ierror => onReducing (next ierror)) state := by
  obtain ⟨rc, reduction, rfl⟩ := asked
  refine Run.ensures_bind_of_returned rfl ?_
  exact (onReducing_keeps _).mono fun _ final same => ⟨reduction, same⟩

variable {communicate : Int → Int → Int → Int → Int → ReduceRun Int} {datatypeF opF commF : Int}

/-- The wrappers of C refuse what the test before them refuses. -/
theorem cReduction_refuses_iff (coded : OpCoded mpi)
    (asks : ∀ input output datatype op comm, ∃ rc reduction,
      communicate input output datatype op comm = askReduction rc reduction) {input output : Int} :
    (Run.Returns (cReduction mpi input output datatypeF opF commF communicate) state
      fun ierror final =>
        ierror = ErrorClass.errOp.vapaa ∧ final.reductions = state.reductions) ↔
      cMpiOpIsBuiltin mpi (cMpiOpF2c mpi opF) = false ∧
        cMpiTypeIsBuiltin mpi (cMpiTypeF2c mpi datatypeF) = true := by
  by_cases guarded : cMpiOpIsBuiltin mpi (cMpiOpF2c mpi opF) = false ∧
      cMpiTypeIsBuiltin mpi (cMpiTypeF2c mpi datatypeF) = true
  · exact iff_of_true (guardReduction_refuses coded guarded) guarded
  · refine iff_of_false (not_refuses_of_asks ?_) guarded
    rw [cReduction]
    dsimp only
    rw [guardReduction, if_neg (by simpa using guarded)]
    exact asks_bind fun _ _ _ => asks_bind fun _ _ _ => asks_askReduction (asks _ _ _ _ _)

private theorem cfiReduction_refuses_iff (coded : OpCoded mpi)
    (asks : ∀ input output datatype op comm, ∃ rc reduction,
      communicate input output datatype op comm = askReduction rc reduction)
    {input output : CDesc} :
    (Run.Returns (cfiReduction mpi input output datatypeF opF commF communicate) state
      fun ierror final =>
        ierror = ErrorClass.errOp.vapaa ∧ final.reductions = state.reductions) ↔
      cMpiOpIsBuiltin mpi (cMpiOpF2c mpi opF) = false ∧
        cMpiTypeIsBuiltin mpi (cMpiTypeF2c mpi datatypeF) = true := by
  rw [cfiReduction]
  dsimp only
  by_cases guarded : cMpiOpIsBuiltin mpi (cMpiOpF2c mpi opF) = false ∧
      cMpiTypeIsBuiltin mpi (cMpiTypeF2c mpi datatypeF) = true
  · refine iff_of_true ?_ guarded
    refine Run.returns_bind_of_returned
      (Run.zoom_of_returned (inPlaceArgument_apply mpi input.baseAddr state.process)) ?_
    refine Run.returns_bind_of_returned
      (Run.zoom_of_returned (inPlaceArgument_apply mpi output.baseAddr state.process)) ?_
    exact guardReduction_refuses coded guarded
  · refine iff_of_false (not_refuses_of_asks ?_) guarded
    refine asks_bind fun _ _ _ => asks_bind fun _ _ _ => ?_
    rw [guardReduction, if_neg (by simpa using guarded)]
    by_cases contiguous : mpi.cfiIsContiguous input = 1 ∧ mpi.cfiIsContiguous output = 1
    · rw [if_pos contiguous]
      exact asks_askReduction (asks _ _ _ _ _)
    · rw [if_neg contiguous]
      exact asks_bind fun _ _ _ => Run.ensures_of_aborted rfl

theorem ReduceCall.refuses_iff (coded : OpCoded mpi) {rc : Int} (reduceCall : ReduceCall) :
    reduceCall.Refuses mpi rc datatypeF opF state ↔
      cMpiOpIsBuiltin mpi (cMpiOpF2c mpi opF) = false ∧
        cMpiTypeIsBuiltin mpi (cMpiTypeF2c mpi datatypeF) = true := by
  cases reduceCall with
  | reduce input output count root comm =>
      exact @cReduction_refuses_iff mpi state _ datatypeF opF comm coded
        (fun _ _ _ _ _ => ⟨_, _, rfl⟩) input output
  | cfiReduce input output count root comm =>
      exact @cfiReduction_refuses_iff mpi state _ datatypeF opF comm coded
        (fun _ _ _ _ _ => ⟨_, _, rfl⟩) input output
  | allreduce input output count comm =>
      exact @cReduction_refuses_iff mpi state _ datatypeF opF comm coded
        (fun _ _ _ _ _ => ⟨_, _, rfl⟩) input output
  | cfiAllreduce input output count comm =>
      exact @cfiReduction_refuses_iff mpi state _ datatypeF opF comm coded
        (fun _ _ _ _ _ => ⟨_, _, rfl⟩) input output

end Refusals

section Agreement

variable {mpi : Mpi} {types : TypeStore} {userOps : Int → Prop} {datatypeF opF rc : Int}
variable {state : Reducing}

private theorem guards_iff (coded : OpCoded mpi) (names : NamesBuiltins mpi types userOps)
    (datatype : PredefinedType mpi datatypeF ∨ DerivedType mpi types datatypeF)
    (reduceCall : ReduceCall) :
    Guards mpi types userOps reduceCall rc datatypeF opF state ↔
      (UserOp mpi userOps opF → ¬ PairType datatypeF) := by
  constructor
  · intro guards user pair
    obtain ⟨type, member, rfl⟩ := pair
    have predefined : PredefinedType mpi type.vapaa :=
      ⟨type, nonnull_of_pair member, has_of_pair member, rfl⟩
    have detected := ((reduceCall.refuses_iff coded).mp (guards.user user predefined)).2
    exact (cMpiTypeIsBuiltin_of_predefined names predefined).mp detected ⟨type, member, rfl⟩
  · intro unpaired
    constructor
    · intro user predefined
      exact (reduceCall.refuses_iff coded).mpr ⟨cMpiOpIsBuiltin_of_user names user,
        (cMpiTypeIsBuiltin_of_predefined names predefined).mpr (unpaired user)⟩
    · intro derived refuses
      have detected := ((reduceCall.refuses_iff coded).mp refuses).2
      rw [cMpiTypeIsBuiltin_of_derived names derived] at detected
      cases detected
    · intro operation member same refuses
      have undetected := ((reduceCall.refuses_iff coded).mp refuses).1
      rw [same, cMpiOpIsBuiltin_of_detected names member] at undetected
      cases undetected

private theorem detectorsAgree_iff (names : NamesBuiltins mpi types userOps) {world : World}
    (same : world.types = types)
    (datatype : PredefinedType mpi datatypeF ∨ DerivedType mpi types datatypeF) :
    DetectorsAgree mpi datatypeF world ↔ ¬ PairType datatypeF := by
  subst same
  cases datatype with
  | inl predefined =>
      have detected := cMpiTypeIsBuiltin_of_predefined names predefined
      obtain ⟨type, nonnull, provided, rfl⟩ := predefined
      obtain ⟨object, live, named⟩ := names.named type nonnull provided
      rw [cMpiTypeF2c_vapaa provided] at detected
      have known : ∃ other, other ≠ .datatypeNull ∧ mpi.has (.datatype other) = true ∧
          mpi.datatype other = mpi.datatype type := ⟨type, nonnull, provided, rfl⟩
      have asked := @vapaaMpiDatatypeIsBuiltin_of_live mpi world _ _ live
      rw [DetectorsAgree, cMpiTypeF2c_vapaa provided, ← detected]
      constructor
      · rintro ⟨_, _, -, -, agree⟩
        exact agree.mpr known
      · intro builtin
        exact Run.returns_of_returned asked
          ⟨iff_of_true builtin (decide_eq_true named), iff_of_true builtin known⟩
  | inr derived =>
      have undetected := cMpiTypeIsBuiltin_of_derived names derived
      have unpaired : ¬ PairType datatypeF := by
        rintro ⟨type, member, rfl⟩
        exact names.ne_derived derived (nonnull_of_pair member) (has_of_pair member)
          (cMpiTypeF2c_vapaa (has_of_pair member)).symm
      have ⟨object, live, combined⟩ := derived
      refine iff_of_true ?_ unpaired
      refine Run.returns_of_returned (vapaaMpiDatatypeIsBuiltin_of_live live) ⟨?_, ?_⟩
      · rw [undetected, combined]
        decide
      · refine iff_of_false (by rw [undetected]; exact Bool.false_ne_true) ?_
        rintro ⟨type, nonnull, provided, same⟩
        exact names.ne_derived derived nonnull provided same

/-- The guard holds exactly where it does not meet a user-defined operation on a datatype of pairs,
and the detectors agree on all datatypes but those: `C_MPI_TYPE_IS_BUILTIN` does not list them. -/
theorem builtins_guarded_iff (coded : OpCoded mpi)
    (names : NamesBuiltins mpi state.process.world.types userOps)
    (datatype : PredefinedType mpi datatypeF ∨ DerivedType mpi state.process.world.types datatypeF)
    (reduceCall : ReduceCall) :
    (Guards mpi state.process.world.types userOps reduceCall rc datatypeF opF state ↔
      (UserOp mpi userOps opF → ¬ PairType datatypeF)) ∧
    (DetectorsAgree mpi datatypeF state.process.world ↔ ¬ PairType datatypeF) :=
  ⟨guards_iff coded names datatype reduceCall, detectorsAgree_iff names rfl datatype⟩

end Agreement

section Examples

/-- A process that has asked for nothing. -/
def startReducing : Reducing where
  process := startProcess
  reductions := []

def createdOp (op : Int) : Prop := op = 2000000001

private theorem mpich_namesBuiltins : NamesBuiltins mpich predefinedTypes createdOp := by
  constructor
  · intro type nonnull _
    have known : ∀ type ∈ NamedType.table, type ≠ .datatypeNull →
        ((predefinedTypes.object (mpich.datatype type)).map TypeObject.combiner) =
          some .named := by decide
    exact Option.map_eq_some_iff.mp (known type (by cases type <;> decide) nonnull)
  · rfl
  · decide
  · decide
  · rintro op rfl operation
    cases operation <;> decide

theorem mpich_opCoded : OpCoded mpich where
  classified := rfl
  own := fun _ same => ErrorClass.vapaa_inj same

theorem builtins_guarded_integer :
    (Guards mpich predefinedTypes createdOp (.allreduce 4096 8192 10 (-1000)) 0
        NamedType.integer.vapaa 2000000001 startReducing) ∧
      DetectorsAgree mpich NamedType.integer.vapaa startWorld := by
  have unpaired : ¬ PairType NamedType.integer.vapaa := by
    rintro ⟨type, member, same⟩
    revert member same
    cases type <;> decide
  have predefined : PredefinedType mpich NamedType.integer.vapaa := ⟨.integer, nofun, rfl, rfl⟩
  have both := @builtins_guarded_iff mpich createdOp NamedType.integer.vapaa 2000000001 0
    startReducing mpich_opCoded mpich_namesBuiltins (Or.inl predefined)
    (.allreduce 4096 8192 10 (-1000))
  exact ⟨both.1.mpr fun _ => unpaired, both.2.mpr unpaired⟩

/-- The created operation is run on `MPI_2INTEGER`. -/
theorem builtins_unguarded :
    ((ReduceCall.allreduce 4096 8192 10 (-1000)).run mpich 0 NamedType.twoInteger.vapaa 2000000001
      startReducing >>= fun result => .returned (result.1, result.2.reductions)) =
        .returned (0, [.allreduce 4096 8192 10 (mpich.datatype .twoInteger) 2000000001
          (mpich.handle .commWorld)]) ∧
    ¬ Guards mpich predefinedTypes createdOp (.allreduce 4096 8192 10 (-1000)) 0
        NamedType.twoInteger.vapaa 2000000001 startReducing ∧
    ¬ DetectorsAgree mpich NamedType.twoInteger.vapaa startWorld := by
  have asked : ((ReduceCall.allreduce 4096 8192 10 (-1000)).run mpich 0 NamedType.twoInteger.vapaa
      2000000001 startReducing >>= fun result => .returned (result.1, result.2.reductions)) =
        .returned (0, [.allreduce 4096 8192 10 (mpich.datatype .twoInteger) 2000000001
          (mpich.handle .commWorld)]) := by
    decide +kernel
  have undetected : cMpiTypeIsBuiltin mpich (cMpiTypeF2c mpich NamedType.twoInteger.vapaa) =
      false := by
    decide +kernel
  have known : predefinedTypes.object (cMpiTypeF2c mpich NamedType.twoInteger.vapaa) =
      some (Mpich.object .twoInteger) := by
    rfl
  refine ⟨asked, fun guards => ?_, fun agree => ?_⟩
  · obtain ⟨_, final, run, -, same⟩ := guards.user rfl ⟨.twoInteger, nofun, rfl, rfl⟩
    rw [run] at asked
    have grown : final.reductions = _ := congrArg Prod.snd (Outcome.returned.inj asked)
    exact absurd (same.symm.trans grown) nofun
  · obtain ⟨_, _, run, agreed, -⟩ := agree
    have named := @vapaaMpiDatatypeIsBuiltin_of_live mpich startWorld _ _ known
    cases named.symm.trans run
    rw [undetected] at agreed
    exact absurd (agreed.mpr rfl) Bool.false_ne_true

end Examples

end Vapaa
