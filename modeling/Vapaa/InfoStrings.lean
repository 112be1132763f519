import Vapaa.InfoMaps

/-!
# Strings of info objects

The two versions of `MPI_Info_get_string`, and the buffers that strings come back in.
-/

set_option autoImplicit false

namespace Vapaa

open Foundation

section Versions

/-- `C_MPI_Info_get_string` or `CFI_MPI_Info_get_string`, compiled for a library since version 4
or for an older one. -/
def getStringOfVersion (mpi : Mpi) (since4 haveCfi : Bool) (infoF : Int) (keyC : List UInt8)
    (buflen : Int) (val : List UInt8) (flag : Int) : InfoRun (Int × List UInt8 × Int × Int) :=
  if haveCfi then cfiMpiInfoGetString { mpi with mpiVersion4 := since4 } infoF keyC buflen val flag
  else cMpiInfoGetString { mpi with mpiVersion4 := since4 } infoF keyC buflen val flag

/-- Either version leaves the same in `*buflen`, `val` and `*flag`. -/
def VersionsAgree (mpi : Mpi) (haveCfi : Bool) (infoF : Int) (keyC : List UInt8) (buflen : Int)
    (val : List UInt8) (flag : Int) (state : InfoWorld) : Prop :=
  ∃ answer, ∀ since4,
    Run.Returns (getStringOfVersion mpi since4 haveCfi infoF keyC buflen val flag) state
      fun result _ => (result.1, result.2.1, result.2.2.1) = answer

variable {mpi : Mpi} {haveCfi : Bool} {infoF buflen flag : Int} {val : List UInt8}
variable {state : InfoWorld} {object : InfoObject} {key : FortranString} {copied : Bool}

private theorem getStringOfVersion_eq (since4 : Bool) (keyC : List UInt8) :
    getStringOfVersion mpi since4 haveCfi infoF keyC buflen val flag =
      cMpiInfoGetString { mpi with mpiVersion4 := since4 } infoF keyC buflen val flag := by
  cases haveCfi with
  | true => rfl
  | false => rfl

/-- One more character of the value comes with the older version, unless it ends before. -/
theorem written_pred_eq_iff {stored : List UInt8} {limit : Nat} (positive : 0 < limit)
    (plain : nul ∉ stored) :
    written (limit - 1) stored val = written limit stored val ↔ stored.length < limit := by
  constructor
  · intro same
    by_contra long
    have last : limit - 1 < stored.length := by omega
    have ends : (written (limit - 1) stored val)[limit - 1]? = some nul := by
      simp [written, Nat.min_eq_left last.le]
    have goesOn : (written limit stored val)[limit - 1]? = some stored[limit - 1] := by
      rw [written, List.append_assoc, List.getElem?_append_left (by simp; omega),
        List.getElem?_take_of_lt (by omega), List.getElem?_eq_getElem last]
    rw [same, goesOn] at ends
    exact plain (Option.some.inj ends ▸ List.getElem_mem last)
  · intro short
    have all : stored.take limit = stored := List.take_of_length_le short.le
    have all' : stored.take (limit - 1) = stored := List.take_of_length_le (by omega)
    rw [written, written, all, all', Nat.min_eq_right (by omega), Nat.min_eq_right (by omega)]

/-- A handle that the library does not know: neither version touches anything but the bytes that
are cleared. -/
theorem getStringOfVersion_of_dead (coded : mpi.Codes (mpi.errorClass .errInfo))
    (keyEnds : key.Ends copied) (dead : state.infos.object (cMpiInfoF2c mpi infoF) = none)
    (room : toSizeT buflen ≤ val.length) (since4 : Bool) :
    Run.Returns (getStringOfVersion mpi since4 haveCfi infoF (key.passed copied) buflen val flag)
      state fun result _ => (result.1, result.2.1, result.2.2.1) =
        (buflen, cleared buflen val, flag) := by
  have failed : mpi.errorClass .errInfo ≠ mpi.errorClass .success := by
    rw [ne_eq, errorClass_eq_success]
    exact nofun
  obtain ⟨ierror, final, fixed, -⟩ :=
    @onWorld_cMpiRcFix { mpi with mpiVersion4 := since4 } state _ coded
  rw [getStringOfVersion_eq, cMpiInfoGetString]
  dsimp only
  rw [overwrite_cleared room]
  refine Run.returns_bind_of_returned (Run.ofOutcome_returned _ _) ?_
  cases since4 with
  | true =>
      have asked : mpiInfoGetString { mpi with mpiVersion4 := true } (cMpiInfoF2c mpi infoF)
          (key.passed copied) buflen (cleared buflen val) flag state =
          .returned ((mpi.errorClass .errInfo, buflen, cleared buflen val, flag), state) := by
        rw [mpiInfoGetString, cString_of_ends keyEnds,
          Run.bind_of_returned (Run.ofOutcome_returned _ _)]
        simp only [dead]
      rw [if_pos rfl]
      refine Run.returns_bind_of_returned asked ?_
      exact Run.returns_bind_of_returned fixed (Run.returns_pure rfl)
  | false =>
      have asked : mpiInfoGet { mpi with mpiVersion4 := false } (cMpiInfoF2c mpi infoF)
          (key.passed copied) buflen (cleared buflen val) flag state =
          .returned ((mpi.errorClass .errInfo, cleared buflen val, flag), state) := by
        rw [mpiInfoGet, cString_of_ends keyEnds,
          Run.bind_of_returned (Run.ofOutcome_returned _ _)]
        simp only [dead]
      rw [if_neg Bool.false_ne_true]
      refine Run.returns_bind_of_returned asked ?_
      dsimp only
      rw [if_neg failed]
      exact Run.returns_bind_of_returned fixed (Run.returns_pure rfl)

private theorem getStringOfVersion_absent_iff (coded : mpi.Codes (mpi.errorClass .success))
    (keyEnds : key.Ends copied)
    (live : state.infos.object (cMpiInfoF2c mpi infoF) = some object)
    (absent : object.lookup (key.seen copied) = none) (room : toSizeT buflen ≤ val.length)
    (low : -2147483648 ≤ buflen) (since4 : Bool) {answer : Int × List UInt8 × Int} :
    Run.Returns (getStringOfVersion mpi since4 haveCfi infoF (key.passed copied) buflen val flag)
      state (fun result _ => (result.1, result.2.1, result.2.2.1) = answer) ↔
      (since4 = false → buflen < intMax) ∧
        (if since4 then buflen else buflen + 1, cleared buflen val, 0) = answer := by
  rw [getStringOfVersion_eq]
  exact @cMpiInfoGetString_of_absent { mpi with mpiVersion4 := since4 } state infoF buflen flag
    copied key val object (fun buflen val flag => (buflen, val, flag) = answer) coded keyEnds live
    absent room low

private theorem getStringOfVersion_found_iff {stored : List UInt8}
    (coded : mpi.Codes (mpi.errorClass .success)) (keyEnds : key.Ends copied)
    (live : state.infos.object (cMpiInfoF2c mpi infoF) = some object)
    (found : object.lookup (key.seen copied) = some stored) (room : toSizeT buflen ≤ val.length)
    (positive : 1 ≤ buflen) (bounded : buflen ≤ intMax) (since4 : Bool)
    {answer : Int × List UInt8 × Int} :
    Run.Returns (getStringOfVersion mpi since4 haveCfi infoF (key.passed copied) buflen val flag)
      state (fun result _ => (result.1, result.2.1, result.2.2.1) = answer) ↔
      (since4 = false → min buflen.toNat stored.length < val.length ∧ stored.length < intMax) ∧
        ((stored.length : Int) + 1, written (if since4 then buflen.toNat - 1 else buflen.toNat)
          stored (cleared buflen val), 1) = answer := by
  have run := @cMpiInfoGetString_of_found { mpi with mpiVersion4 := since4 } state infoF buflen
    flag copied key val object stored (fun buflen val flag => (buflen, val, flag) = answer) coded
    keyEnds live found room (by omega) bounded
  have cut : (buflen - 1).toNat = buflen.toNat - 1 := by omega
  rw [filled_of_pos (by omega), copyLimit, cut] at run
  rw [getStringOfVersion_eq]
  exact run

/-- The versions agree exactly where the key is there and its value ends within the buffer: else
the older one counts up a length that was not set, or copies a character more. -/
theorem getString_versions_agree_iff
    (coded : ∀ errorClass, mpi.Codes (mpi.errorClass errorClass)) {keyC : List UInt8}
    (keyEnds : nul ∈ keyC) (positive : 1 ≤ buflen) (bounded : buflen ≤ intMax)
    (within : buflen ≤ val.length)
    (strings : ∀ object, state.infos.object (cMpiInfoF2c mpi infoF) = some object →
      ∀ key stored, object.lookup key = some stored → nul ∉ stored) :
    VersionsAgree mpi haveCfi infoF keyC buflen val flag state ↔
      ∀ object, state.infos.object (cMpiInfoF2c mpi infoF) = some object →
        ∃ stored, object.lookup (keyC.takeWhile fun char => char ≠ nul) = some stored ∧
          (stored.length : Int) < buflen := by
  -- the key as a string argument that is passed in place
  obtain ⟨key, rfl⟩ : ∃ key : FortranString, keyC = key.passed false :=
    ⟨⟨keyC, []⟩, (List.append_nil keyC).symm⟩
  have ends : key.Ends false := keyEnds
  have room : toSizeT buflen ≤ val.length := by
    simp only [toSizeT, intMax] at *
    omega
  rw [VersionsAgree]
  cases live : state.infos.object (cMpiInfoF2c mpi infoF) with
  | none =>
      refine iff_of_true ⟨(buflen, cleared buflen val, flag), fun since4 => ?_⟩ ?_
      · exact getStringOfVersion_of_dead (coded .errInfo) ends live room since4
      · intro object missing
        cases missing
  | some object =>
      cases found : object.lookup (key.seen false) with
      | none =>
          constructor
          · rintro ⟨answer, agrees⟩
            simp only [getStringOfVersion_absent_iff (coded .success) ends live found room
              (by omega : -2147483648 ≤ buflen)] at agrees
            have same := congrArg Prod.fst ((agrees true).2.trans (agrees false).2.symm)
            dsimp only at same
            rw [if_pos rfl, if_neg Bool.false_ne_true] at same
            omega
          · intro shorter
            obtain ⟨stored, present, -⟩ := shorter object rfl
            cases found.symm.trans present
      | some stored =>
          have plain := strings object live (key.seen false) stored found
          simp only [getStringOfVersion_found_iff (coded .success) ends live found room positive
            bounded]
          constructor
          · rintro ⟨answer, agrees⟩ other same
            cases same
            have same := congrArg (fun answer => answer.2.1)
              ((agrees true).2.trans (agrees false).2.symm)
            dsimp only at same
            rw [if_pos rfl, if_neg Bool.false_ne_true, written_pred_eq_iff (by omega) plain]
              at same
            exact ⟨stored, found, by omega⟩
          · intro shorter
            obtain ⟨other, present, short⟩ := shorter object rfl
            obtain rfl : stored = other := Option.some.inj (found.symm.trans present)
            refine ⟨(stored.length + 1, written buflen.toNat stored (cleared buflen val), 1),
              fun since4 => ⟨fun _ => ?_, ?_⟩⟩
            · simp only [intMax] at *
              omega
            · cases since4 with
              | true =>
                  rw [if_pos rfl, (written_pred_eq_iff (by omega) plain).mpr (by omega)]
              | false => rw [if_neg Bool.false_ne_true]

/-- An info object with the value `on` for the key `k`. -/
def infoWithValue : InfoWorld :=
  { infoStart with infos := infoStart.infos.create (AList.insert [107] [111, 110] ∅) }

theorem getString_versions_agree_short :
    VersionsAgree mpich true 700000000 [107, nul] 4 [1, 2, 3, 4] 0 infoWithValue := by
  have strings : ∀ object,
      infoWithValue.infos.object (cMpiInfoF2c mpich 700000000) = some object →
        ∀ key stored, object.lookup key = some stored → nul ∉ stored := by
    intro object live key stored found
    obtain rfl : AList.insert [107] [111, 110] ∅ = object := Option.some.inj live
    by_cases same : key = [107]
    · rw [same, AList.lookup_insert] at found
      cases found
      decide
    · rw [AList.lookup_insert_ne same] at found
      cases found
  refine (@getString_versions_agree_iff mpich true 700000000 4 0 [1, 2, 3, 4] infoWithValue
    (fun _ => Or.inr rfl) [107, nul] (by decide) (by decide) (by decide) (by decide) strings).mpr ?_
  intro object live
  obtain rfl : AList.insert [107] [111, 110] ∅ = object := Option.some.inj live
  exact ⟨[111, 110], rfl, by decide⟩

/-- Without the key the size of the buffer stays 4 or becomes 5; a value of two characters comes
as one character or as two. -/
theorem getString_versions_differ :
    (∀ since4, (getStringOfVersion mpich since4 true 700000000 [120, nul] 4 [1, 2, 3, 4] 0
      infoWithValue >>= fun result => .returned result.1) =
        .returned (if since4 then 4 else 5, [0, 0, 0, 0], 0, 0)) ∧
    (∀ since4, (getStringOfVersion mpich since4 true 700000000 [107, nul] 2 [1, 2, 3, 4] 0
      infoWithValue >>= fun result => .returned result.1) =
        .returned (3, if since4 then [111, 0, 3, 4] else [111, 110, 0, 4], 1, 0)) ∧
    ¬ VersionsAgree mpich true 700000000 [120, nul] 4 [1, 2, 3, 4] 0 infoWithValue := by
  have absent : ∀ since4, (getStringOfVersion mpich since4 true 700000000 [120, nul] 4
      [1, 2, 3, 4] 0 infoWithValue >>= fun result => .returned result.1) =
        .returned (if since4 then 4 else 5, [0, 0, 0, 0], 0, 0) := by
    decide +kernel
  refine ⟨absent, by decide +kernel, ?_⟩
  rintro ⟨answer, agrees⟩
  have told : ∀ since4 : Bool, answer.1 = if since4 then 4 else 5 := by
    intro since4
    obtain ⟨first, final, run, same⟩ := agrees since4
    have evaluated := absent since4
    rw [run] at evaluated
    cases evaluated
    exact congrArg Prod.fst same.symm
  exact absurd ((told true).symm.trans (told false)) (by decide)

end Versions

end Vapaa
