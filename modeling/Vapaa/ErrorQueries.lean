import Vapaa.CStrings
import Vapaa.ErrorTranslation

/-!
# Queries about error codes

`C_MPI_ERROR_CODE_F2C` and the routines that explain the codes the wrappers return.
-/

set_option autoImplicit false

namespace Vapaa

open Foundation

def vapaaMpiMaxErrorString : Nat := 512

section Wrappers

variable (mpi : Mpi)

/-- The class that a Fortran code is compared equal to first. -/
def errorCodeFound (errorF : Int) : Option ErrorClass :=
  ErrorClass.table.find? fun errorClass =>
    (errorClass ∉ ErrorClass.sinceMpi4 ∨ mpi.mpiVersion4) ∧ errorClass.vapaa = errorF

def cMpiErrorCodeF2c (errorF : Int) : Call Int :=
  match errorCodeFound mpi errorF with
  | some errorClass => return mpi.errorClass errorClass
  | none => do
      vapaaWarning s!"Unknown error code returned from the F library: {errorF}\n"
      return mpi.errorClass .errUnknown

/-- The characters of the library's text for a code. -/
def Mpi.errorText (errorcode : Int) : List UInt8 :=
  (mpi.errorString errorcode).toList.flatMap String.utf8EncodeChar

def mpiErrorString (errorcode : Int) (string : List UInt8) (resultlen : Int) :
    Call (Int × List UInt8 × Int) :=
  match mpi.errorClassOf errorcode with
  | none => return (mpi.errorClass .errArg, string, resultlen)
  | some _ => do
      let string ← Run.ofOutcome (overwrite string (mpi.errorText errorcode ++ [nul]))
      return (mpi.errorClass .success, string, (mpi.errorText errorcode).length)

def mpiErrorClass (errorcode errorclass : Int) : Int × Int :=
  match mpi.errorClassOf errorcode with
  | none => (mpi.errorClass .errArg, errorclass)
  | some error => (mpi.errorClass .success, error)

variable (maxErrorString : Nat)

/-- Returns `string`, `*resultlen` and `*ierror`; `maxErrorString` is the library's own
`MPI_MAX_ERROR_STRING`. -/
def cMpiErrorString (errorcodeF : Int) (string : List UInt8) (resultlen : Int) :
    Call (List UInt8 × Int × Int) := do
  if vapaaMpiMaxErrorString < maxErrorString then
    vapaaWarning
      s!"C_MPI_Error_string: Fortran buffer is not large enough - bad things are going to happen now!\nVAPAA_MPI_MAX_ERROR_STRING={vapaaMpiMaxErrorString}, MPI_MAX_ERROR_STRING={maxErrorString}\n"
  let errorcodeC ← cMpiErrorCodeF2c mpi errorcodeF
  let string ← Run.ofOutcome (overwrite string (List.replicate maxErrorString 0))
  let (ierror, string, resultlen) ← mpiErrorString mpi errorcodeC string resultlen
  return (string, resultlen, ← cMpiRcFix mpi ierror)

/-- The string is what lies at the `base_addr` of its descriptor. -/
def cfiMpiErrorString (errorcodeF : Int) (stringD : List UInt8) (resultlen : Int) :
    Call (List UInt8 × Int × Int) :=
  cMpiErrorString mpi maxErrorString errorcodeF stringD resultlen

def cMpiErrorClass (errorcodeF errorclass : Int) : Call (Int × Int) := do
  let errorcodeC ← cMpiErrorCodeF2c mpi errorcodeF
  let (ierror, errorclass) := mpiErrorClass mpi errorcodeC errorclass
  return (errorclass, ← cMpiRcFix mpi ierror)

/-- Returns `string`, `resultlen` and `ierror`; `resultlenC` is what the local variable holds
before the call. -/
def mpiErrorStringF08 (errorcode : Int) (string : List UInt8) (resultlenC : Int) :
    Call (List UInt8 × Int × Int) :=
  cMpiErrorString mpi maxErrorString errorcode string resultlenC

def mpiErrorStringF08ts (errorcode : Int) (string : List UInt8) (resultlenC : Int) :
    Call (List UInt8 × Int × Int) :=
  cfiMpiErrorString mpi maxErrorString errorcode string resultlenC

def mpiErrorStringCall (haveCfi : Bool) (errorcode : Int) (string : List UInt8)
    (resultlenC : Int) : Call (List UInt8 × Int × Int) :=
  if haveCfi then mpiErrorStringF08ts mpi maxErrorString errorcode string resultlenC
  else mpiErrorStringF08 mpi maxErrorString errorcode string resultlenC

def mpiErrorClassF08 (errorcode errorclassC : Int) : Call (Int × Int) :=
  cMpiErrorClass mpi errorcode errorclassC

end Wrappers

section Tables

variable {mpi : Mpi} {world : World} {rc error : Int}

theorem ErrorClass.table_sorted :
    ErrorClass.table.Pairwise fun first second => first.vapaa < second.vapaa := by
  decide +kernel

theorem ErrorClass.vapaa_inj {first second : ErrorClass} (same : first.vapaa = second.vapaa) :
    first = second := by
  have distinct : (ErrorClass.table.map ErrorClass.vapaa).Nodup :=
    List.pairwise_map.mpr (ErrorClass.table_sorted.imp fun below => ne_of_lt below)
  exact List.inj_on_of_nodup_map distinct (mem_errorTable first) (mem_errorTable second) same

/-- A class of the library is found in the table under its smallest constant. -/
theorem errorClassFound_of_known
    (known : ∃ errorClass, mpi.knows errorClass ∧ mpi.errorClass errorClass = error) :
    ∃ errorClass, errorClassFound mpi error = some errorClass ∧ mpi.knows errorClass ∧
      mpi.errorClass errorClass = error ∧
      ∀ other, mpi.knows other → mpi.errorClass other = error →
        errorClass.vapaa ≤ other.vapaa := by
  obtain ⟨present, knows, numbered⟩ := known
  cases found : errorClassFound mpi error with
  | none =>
      have untested := List.find?_eq_none.mp found present (mem_errorTable present)
      simp only [Bool.decide_and, Bool.and_eq_true, decide_eq_true_eq] at untested
      exact absurd ⟨knows, numbered⟩ untested
  | some errorClass =>
      obtain ⟨tested, earlier, later, split, passed⟩ := List.find?_eq_some_iff_append.mp found
      simp only [Bool.decide_and, Bool.and_eq_true, decide_eq_true_eq] at tested
      refine ⟨errorClass, rfl, tested.1, tested.2, ?_⟩
      intro other known same
      have sorted := ErrorClass.table_sorted
      have member := mem_errorTable other
      rw [split] at sorted member
      rcases List.mem_append.mp member with before | within
      · have untested := passed other before
        simp only [Bool.decide_and, Bool.not_eq_true', Bool.and_eq_false_iff,
          decide_eq_false_iff_not] at untested
        exact absurd (⟨known, same⟩ : _ ∧ _) (by tauto)
      · cases within with
        | head => exact le_refl _
        | tail _ after =>
            have ordered := (List.pairwise_append.mp sorted).2.1
            exact le_of_lt (List.rel_of_pairwise_cons ordered after)

theorem cMpiErrorCodeC2f_of_found {errorClass : ErrorClass}
    (classified : mpi.errorClassOf rc = some error)
    (found : errorClassFound mpi error = some errorClass) :
    cMpiErrorCodeC2f mpi rc world = .returned (errorClass.vapaa, world) := by
  simp only [cMpiErrorCodeC2f, classified, Option.isSome_some, vapaaAssert_true, pure_bind,
    Run.readSet]
  rw [found]
  rfl

/-- The code of a class goes back to the number of that class. -/
theorem cMpiErrorCodeF2c_vapaa {errorClass : ErrorClass} (knows : mpi.knows errorClass) :
    cMpiErrorCodeF2c mpi errorClass.vapaa world =
      .returned (mpi.errorClass errorClass, world) := by
  have found : errorCodeFound mpi errorClass.vapaa = some errorClass := by
    cases first : errorCodeFound mpi errorClass.vapaa with
    | none =>
        have untested := List.find?_eq_none.mp first errorClass (mem_errorTable errorClass)
        simp only [and_true, decide_eq_true_eq] at untested
        exact absurd knows untested
    | some other =>
        have tested := List.find?_some first
        simp only [Bool.decide_and, Bool.and_eq_true, decide_eq_true_eq] at tested
        rw [ErrorClass.vapaa_inj tested.2]
  rw [cMpiErrorCodeF2c, found]
  rfl

end Tables

section Queries

variable {mpi : Mpi} {maxErrorString : Nat} {world : World} {rc error : Int}

/-- What the queries should say of the code for Fortran that the wrappers return. -/
structure SurvivesQueries (mpi : Mpi) (maxErrorString : Nat) (rc error : Int) (world : World) :
    Prop where
  converted : Run.Returns (do
    let code ← cMpiErrorCodeC2f mpi rc
    cMpiErrorCodeF2c mpi code) world fun result _ => result = error
  explained : ∀ haveCfi string resultlenC, string.length = vapaaMpiMaxErrorString →
    Run.Returns (do
      let code ← cMpiErrorCodeC2f mpi rc
      mpiErrorStringCall mpi maxErrorString haveCfi code string resultlenC) world
      fun result _ => result.1.take (mpi.errorText error).length = mpi.errorText error ∧
        result.2.1 = (mpi.errorText error).length
  classified : ∀ errorclassC, Run.Returns (do
    let code ← cMpiErrorCodeC2f mpi rc
    let (errorclass, _) ← mpiErrorClassF08 mpi code errorclassC
    return (code, errorclass)) world fun result _ => result.2 = result.1

/-- The library's number of a class is the `VAPAA_MPI_` constant of it, and of no class with a
smaller one. -/
def NumberedAlike (mpi : Mpi) (error : Int) : Prop :=
  ∃ errorClass, mpi.knows errorClass ∧ mpi.errorClass errorClass = error ∧
    errorClass.vapaa = error ∧
    ∀ other, mpi.knows other → mpi.errorClass other = error → errorClass.vapaa ≤ other.vapaa

private theorem mpiErrorStringCall_eq (haveCfi : Bool) (errorcode : Int) (string : List UInt8)
    (resultlenC : Int) :
    mpiErrorStringCall mpi maxErrorString haveCfi errorcode string resultlenC =
      cMpiErrorString mpi maxErrorString errorcode string resultlenC := by
  cases haveCfi with
  | true => rfl
  | false => rfl

private theorem cMpiErrorString_of_fits {errorcodeF resultlen : Int} {string : List UInt8}
    (converted : cMpiErrorCodeF2c mpi errorcodeF world = .returned (error, world))
    (classified : mpi.errorClassOf error = some error)
    (text : (mpi.errorText error).length < maxErrorString)
    (fits : maxErrorString ≤ vapaaMpiMaxErrorString)
    (length : string.length = vapaaMpiMaxErrorString) :
    Run.Returns (cMpiErrorString mpi maxErrorString errorcodeF string resultlen) world
      fun result _ => result.1.take (mpi.errorText error).length = mpi.errorText error ∧
        result.2.1 = (mpi.errorText error).length := by
  have cleared : overwrite string (List.replicate maxErrorString 0) =
      .returned (List.replicate maxErrorString 0 ++ string.drop maxErrorString) := by
    rw [overwrite_of_le (by rw [List.length_replicate, length]; exact fits),
      List.length_replicate]
  have copied : overwrite (List.replicate maxErrorString 0 ++ string.drop maxErrorString)
      (mpi.errorText error ++ [nul]) = .returned ((mpi.errorText error ++ [nul]) ++
        (List.replicate maxErrorString 0 ++ string.drop maxErrorString).drop
          (mpi.errorText error ++ [nul]).length) := by
    apply overwrite_of_le
    rw [List.length_append, List.length_append, List.length_replicate, List.length_singleton]
    omega
  rw [cMpiErrorString, if_neg (not_lt.mpr fits)]
  refine Run.returns_bind_of_returned converted ?_
  rw [cleared]
  refine Run.returns_bind_of_returned (Run.ofOutcome_returned _ _) ?_
  simp only [mpiErrorString, classified, copied, bind_assoc, pure_bind]
  refine Run.returns_bind_of_returned (Run.ofOutcome_returned _ _) ?_
  refine Run.returns_bind_of_returned (cMpiRcFix_success world) (Run.returns_pure ⟨?_, rfl⟩)
  rw [List.append_assoc, List.take_left']
  rfl

/-- A library with longer texts has more bytes cleared than the buffer of the caller has. -/
theorem cMpiErrorString_of_long {errorcodeF resultlen : Int} {string : List UInt8}
    {post : List UInt8 × Int × Int → World → Prop}
    (converted : ∀ world, cMpiErrorCodeF2c mpi errorcodeF world = .returned (error, world))
    (long : vapaaMpiMaxErrorString < maxErrorString)
    (length : string.length = vapaaMpiMaxErrorString) :
    ¬ Run.Returns (cMpiErrorString mpi maxErrorString errorcodeF string resultlen) world post := by
  rw [cMpiErrorString, if_pos long, Run.returns_bind_iff_of_returned (vapaaWarning_apply _),
    Run.returns_bind_iff_of_returned (converted _),
    overwrite_of_lt (by rw [List.length_replicate, length]; exact long)]
  exact Run.not_returns_of_undefined rfl

private theorem cMpiErrorClass_returned {errorcodeF errorclass : Int}
    (converted : cMpiErrorCodeF2c mpi errorcodeF world = .returned (error, world))
    (classified : mpi.errorClassOf error = some error) :
    cMpiErrorClass mpi errorcodeF errorclass world =
      .returned ((error, mpi.errorClass .success), world) := by
  rw [cMpiErrorClass, Run.bind_of_returned converted]
  simp only [mpiErrorClass, classified]
  rw [Run.bind_of_returned (cMpiRcFix_success world)]
  rfl

/-- Codes survive exactly where the library numbers their class as `VAPAA` does:
`MPI_Error_class` returns the number of the library. -/
theorem errorQueries_survive_iff
    (classes : ∀ code error, mpi.errorClassOf code = some error →
      mpi.errorClassOf error = some error)
    (texts : ∀ code, (mpi.errorText code).length < maxErrorString)
    (classified : mpi.errorClassOf rc = some error)
    (known : ∃ errorClass, mpi.knows errorClass ∧ mpi.errorClass errorClass = error)
    (world : World) :
    SurvivesQueries mpi maxErrorString rc error world ↔
      maxErrorString ≤ vapaaMpiMaxErrorString ∧ NumberedAlike mpi error := by
  obtain ⟨errorClass, found, knows, numbered, smallest⟩ := errorClassFound_of_known known
  have coded (world : World) : cMpiErrorCodeC2f mpi rc world =
      .returned (errorClass.vapaa, world) := cMpiErrorCodeC2f_of_found classified found
  have converted (world : World) : cMpiErrorCodeF2c mpi errorClass.vapaa world =
      .returned (error, world) := numbered ▸ cMpiErrorCodeF2c_vapaa knows
  have itself := classes rc error classified
  have classifies (errorclassC : Int) : Run.Returns (do
      let code ← cMpiErrorCodeC2f mpi rc
      let (errorclass, _) ← mpiErrorClassF08 mpi code errorclassC
      return (code, errorclass)) world (fun result _ => result.2 = result.1) ↔
        error = errorClass.vapaa := by
    rw [Run.returns_bind_iff_of_returned (coded world), mpiErrorClassF08,
      Run.returns_bind_iff_of_returned (cMpiErrorClass_returned (converted world) itself)]
    exact Run.returns_pure_iff
  constructor
  · intro survives
    constructor
    · by_contra long
      have explained := survives.explained true (List.replicate vapaaMpiMaxErrorString 0) 0
        List.length_replicate
      rw [Run.returns_bind_iff_of_returned (coded world), mpiErrorStringCall_eq] at explained
      exact cMpiErrorString_of_long converted (not_le.mp long) List.length_replicate explained
    · have same := (classifies 0).mp (survives.classified 0)
      exact ⟨errorClass, knows, numbered, same.symm, smallest⟩
  · rintro ⟨fits, other, otherKnows, otherNumbered, alike, otherSmallest⟩
    have same : error = errorClass.vapaa := by
      rw [← alike]
      exact le_antisymm (otherSmallest errorClass knows numbered)
        (smallest other otherKnows otherNumbered)
    constructor
    · exact Run.returns_bind_of_returned (coded world)
        (Run.returns_of_returned (converted world) rfl)
    · intro haveCfi string resultlenC length
      refine Run.returns_bind_of_returned (coded world) ?_
      rw [mpiErrorStringCall_eq]
      exact cMpiErrorString_of_fits (converted world) itself (texts error) fits length
    · exact fun errorclassC => (classifies errorclassC).mpr same

/-- `MPI_ERR_BUFFER` has the same number in both languages. -/
theorem errorQueries_survive_buffer : SurvivesQueries mpichNumbers 512 1 1 startWorld := by
  refine (@errorQueries_survive_iff mpichNumbers 512 1 1 ?_ ?_ rfl ?_ startWorld).mpr ?_
  · intro code error same
    cases same
    rfl
  · have short : ("error".toList.flatMap String.utf8EncodeChar).length < 512 := by decide
    exact fun _ => short
  · exact ⟨.errBuffer, Or.inl (by decide), rfl⟩
  · refine ⟨le_refl _, .errBuffer, Or.inl (by decide), rfl, rfl, ?_⟩
    intro other _ same
    revert same
    cases other <;> decide

/-- `MPI_ERR_REQUEST` is 7 for Fortran callers and 19 in the library, and 19 is what
`MPI_Error_class` makes of 7. -/
theorem errorQueries_survive_request :
    cMpiErrorCodeC2f mpichNumbers 19 startWorld = .returned (7, startWorld) ∧
    cMpiErrorCodeF2c mpichNumbers 7 startWorld = .returned (19, startWorld) ∧
    mpiErrorClassF08 mpichNumbers 7 0 startWorld = .returned ((19, 0), startWorld) ∧
    ¬ SurvivesQueries mpichNumbers 512 19 19 startWorld := by
  have coded : cMpiErrorCodeC2f mpichNumbers 19 startWorld = .returned (7, startWorld) := by
    rfl
  have classified : mpiErrorClassF08 mpichNumbers 7 0 startWorld =
      .returned ((19, 0), startWorld) := by
    rfl
  refine ⟨coded, rfl, classified, fun survives => ?_⟩
  have queried := survives.classified 0
  rw [Run.returns_bind_iff_of_returned coded, Run.returns_bind_iff_of_returned classified]
    at queried
  exact absurd (Run.returns_pure_iff.mp queried) (by decide)

end Queries

end Vapaa
