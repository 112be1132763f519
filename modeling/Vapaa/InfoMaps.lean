import Vapaa.Foundation.MapCorrespondence
import Vapaa.Foundation.PaddedStrings
import Vapaa.InfoObjects
import Vapaa.Mpich

/-!
# Info objects as maps

Info objects as maps of stripped keys to the values last set, and when the wrappers keep to
them.
-/

set_option autoImplicit false

namespace Vapaa

open Foundation

/-- The key or value that a Fortran string stands for. -/
def FortranString.stripped (string : FortranString) : List UInt8 :=
  PaddedString.strip blank string.chars

/-- Values last set, as they were passed, by stripped key. -/
abbrev InfoMap := AList fun _ : List UInt8 => FortranString

section Specification

variable (mpi : Mpi)

/-- The maps before any call; objects that the library has filled by itself have none. -/
def emptyMaps (infos : InfoStore InfoObject) : InfoStore (Option InfoMap) where
  object := fun handle =>
    (infos.object handle).map fun object => if object.keys = [] then some ∅ else none
  next := infos.next
  free := by
    intro handle above
    rw [infos.free handle above]
    rfl

/-- What a call does to the maps. -/
def InfoCall.apply (maps : InfoStore (Option InfoMap)) : InfoCall → InfoStore (Option InfoMap)
  | .create => maps.create (some ∅)
  | .set info key value =>
      maps.modify (cMpiInfoF2c mpi info) (Option.map (AList.insert key.stripped value))
  | .delete info key =>
      maps.modify (cMpiInfoF2c mpi info) (Option.map (AList.erase key.stripped))
  | .dup info =>
      match maps.object (cMpiInfoF2c mpi info) with
      | none => maps
      | some map => maps.create map

def applyInfoCalls (calls : List InfoCall) (maps : InfoStore (Option InfoMap)) :
    InfoStore (Option InfoMap) :=
  calls.foldl (fun maps infoCall => infoCall.apply mpi maps) maps

end Specification

section Passing

/-- What C finds at the address that a string argument is passed by. -/
def FortranString.passed (copied : Bool) (string : FortranString) : List UInt8 :=
  if copied then string.copied else string.inPlace

/-- The C string there. -/
def FortranString.seen (copied : Bool) (string : FortranString) : List UInt8 :=
  (string.passed copied).takeWhile fun char => char ≠ nul

/-- Something ends the C string. -/
def FortranString.Ends (copied : Bool) (string : FortranString) : Prop :=
  nul ∈ string.passed copied

instance (copied : Bool) (string : FortranString) : Decidable (string.Ends copied) :=
  inferInstanceAs (Decidable (nul ∈ _))

/-- The key that a call passes, and whether it passes a copy. -/
def InfoCall.keyUse (haveCfi : Bool) : InfoCall → Option (Bool × FortranString)
  | .create | .dup _ => none
  | .set _ key _ => some (haveCfi, key)
  | .delete _ key => some (true, key)

/-- A key as C sees it, and what it stands for. -/
def keyPair (use : Bool × FortranString) : List UInt8 × List UInt8 :=
  (use.2.seen use.1, use.2.stripped)

/-- Keys that a run passes, and the key that is asked for at its end. -/
def keyUses (haveCfi : Bool) (calls : List InfoCall) (key : FortranString) :
    List (Bool × FortranString) :=
  (haveCfi, key) :: calls.filterMap (InfoCall.keyUse haveCfi)

/-- The strings of a run keep their meaning on their way to C: every string ends, the values
have no terminator of their own, and C tells the keys apart as their stripped forms. -/
structure StringsKept (haveCfi : Bool) (calls : List InfoCall) (key : FortranString) : Prop where
  keysEnd : ∀ use ∈ keyUses haveCfi calls key, use.2.Ends use.1
  keysAgree : KeysAgree ((keyUses haveCfi calls key).map keyPair)
  values : ∀ info key value, .set info key value ∈ calls →
    value.Ends haveCfi ∧ nul ∉ value.chars

theorem FortranString.seen_copied {string : FortranString} (plain : nul ∉ string.chars) :
    string.seen true = string.chars := by
  have kept : ∀ char ∈ string.chars, decide (char ≠ nul) = true := by
    rintro char member
    exact decide_eq_true fun same => plain (same ▸ member)
  rw [seen, passed, if_pos rfl, copied_eq, List.takeWhile_append_of_pos kept]
  simp

theorem cString_of_ends {copied : Bool} {string : FortranString} (ends : string.Ends copied) :
    cString (string.passed copied) = .returned (string.seen copied) :=
  if_pos ends

private theorem mpiInfoSetCall_eq (mpi : Mpi) (haveCfi : Bool) (info : Int)
    (key value : FortranString) :
    mpiInfoSetCall mpi haveCfi info key value =
      cMpiInfoSet mpi info (key.passed haveCfi) (value.passed haveCfi) := by
  cases haveCfi with
  | true => rfl
  | false => rfl

private theorem mpiInfoDeleteCall_eq (mpi : Mpi) (haveCfi : Bool) (info : Int)
    (key : FortranString) :
    mpiInfoDeleteCall mpi haveCfi info key = cMpiInfoDelete mpi info (key.passed true) := by
  cases haveCfi with
  | true => rfl
  | false => rfl

end Passing

section Stores

variable {Object : Type} {infos : InfoStore Object} {handle : Int}

theorem InfoStore.ext {other : InfoStore Object} (object : infos.object = other.object)
    (next : infos.next = other.next) : infos = other := by
  cases infos
  cases other
  simp_all

theorem InfoStore.modify_of_none {change : Object → Object} (dead : infos.object handle = none) :
    infos.modify handle change = infos := by
  refine InfoStore.ext (funext fun other => ?_) rfl
  by_cases same : other = handle
  · simp [modify, same, dead]
  · simp [modify, same]

theorem InfoStore.modify_of_fixed {change : Object → Object} {object : Object}
    (live : infos.object handle = some object) (fixed : change object = object) :
    infos.modify handle change = infos := by
  refine InfoStore.ext (funext fun other => ?_) rfl
  by_cases same : other = handle
  · simp [modify, same, live, fixed]
  · simp [modify, same]

end Stores

section Effects

variable {mpi : Mpi} {state : InfoWorld} {info : Int} {copied : Bool}

theorem onWorld_cMpiRcFix {rc : Int} (coded : mpi.Codes rc) :
    Run.Returns (onWorld (cMpiRcFix mpi rc)) state fun _ final => final.infos = state.infos := by
  obtain ⟨ierror, world, fixed, -⟩ := @cMpiRcFix_returned mpi state.world rc coded
  exact Run.returns_of_returned (Run.zoom_of_returned fixed) rfl

private theorem cMpiInfoSet_returns (coded : ∀ errorClass, mpi.Codes (mpi.errorClass errorClass))
    {key value : FortranString} (keyEnds : key.Ends copied) (valueEnds : value.Ends copied) :
    Run.Returns (cMpiInfoSet mpi info (key.passed copied) (value.passed copied)) state
      fun _ final => final.infos = state.infos.modify (cMpiInfoF2c mpi info)
        (AList.insert (key.seen copied) (value.seen copied)) := by
  have set : Run.Returns
      (mpiInfoSet mpi (cMpiInfoF2c mpi info) (key.passed copied) (value.passed copied)) state
      fun rc middle => (∃ errorClass, rc = mpi.errorClass errorClass) ∧
        middle.infos = state.infos.modify (cMpiInfoF2c mpi info)
          (AList.insert (key.seen copied) (value.seen copied)) := by
    rw [mpiInfoSet, cString_of_ends keyEnds, cString_of_ends valueEnds]
    refine Run.returns_bind_of_returned (Run.ofOutcome_returned _ _) ?_
    refine Run.returns_bind_of_returned (Run.ofOutcome_returned _ _) ?_
    cases live : state.infos.object (cMpiInfoF2c mpi info) with
    | none =>
        refine Run.returns_of_returned (by simp only [live]; rfl) ⟨⟨_, rfl⟩, ?_⟩
        exact (InfoStore.modify_of_none live).symm
    | some object =>
        refine Run.returns_of_returned (by simp only [live]; rfl) ⟨⟨_, rfl⟩, ?_⟩
        rfl
  refine set.bind ?_
  rintro rc middle ⟨⟨errorClass, rfl⟩, changed⟩
  exact (onWorld_cMpiRcFix (coded errorClass)).mono fun _ _ same => same.trans changed

private theorem cMpiInfoDelete_returns (coded : ∀ errorClass, mpi.Codes (mpi.errorClass errorClass))
    {key : FortranString} (keyEnds : key.Ends copied) :
    Run.Returns (cMpiInfoDelete mpi info (key.passed copied)) state
      fun _ final => final.infos = state.infos.modify (cMpiInfoF2c mpi info)
        (AList.erase (key.seen copied)) := by
  have deleted : Run.Returns (mpiInfoDelete mpi (cMpiInfoF2c mpi info) (key.passed copied)) state
      fun rc middle => (∃ errorClass, rc = mpi.errorClass errorClass) ∧
        middle.infos = state.infos.modify (cMpiInfoF2c mpi info)
          (AList.erase (key.seen copied)) := by
    rw [mpiInfoDelete, cString_of_ends keyEnds]
    refine Run.returns_bind_of_returned (Run.ofOutcome_returned _ _) ?_
    cases live : state.infos.object (cMpiInfoF2c mpi info) with
    | none =>
        refine Run.returns_of_returned (by simp only [live]; rfl) ⟨⟨_, rfl⟩, ?_⟩
        exact (InfoStore.modify_of_none live).symm
    | some object =>
        by_cases present : key.seen copied ∈ object
        · refine Run.returns_of_returned (by simp only [live, if_pos present]; rfl) ⟨⟨_, rfl⟩, ?_⟩
          rfl
        · refine Run.returns_of_returned (by simp only [live, if_neg present]; rfl) ⟨⟨_, rfl⟩, ?_⟩
          have kept : object.erase (key.seen copied) = object :=
            AList.ext (List.kerase_of_notMem_keys present)
          exact (InfoStore.modify_of_fixed live kept).symm
  refine deleted.bind ?_
  rintro rc middle ⟨⟨errorClass, rfl⟩, changed⟩
  exact (onWorld_cMpiRcFix (coded errorClass)).mono fun _ _ same => same.trans changed

private theorem cMpiInfoDup_returns (coded : ∀ errorClass, mpi.Codes (mpi.errorClass errorClass)) :
    Run.Returns (cMpiInfoDup mpi info) state fun _ final =>
      final.infos = match state.infos.object (cMpiInfoF2c mpi info) with
        | none => state.infos
        | some object => state.infos.create object := by
  rw [cMpiInfoDup]
  dsimp only
  cases live : state.infos.object (cMpiInfoF2c mpi info) with
  | none =>
      refine Run.returns_bind_of_returned (by simp only [mpiInfoDup, live]; rfl) ?_
      refine (onWorld_cMpiRcFix (coded .errInfo)).bind fun ierror final same => ?_
      exact Run.returns_pure same
  | some object =>
      refine Run.returns_bind_of_returned (by simp only [mpiInfoDup, live]; rfl) ?_
      refine (onWorld_cMpiRcFix (coded .success)).bind fun ierror final same => ?_
      exact Run.returns_pure same

private theorem cMpiInfoCreate_returns
    (coded : ∀ errorClass, mpi.Codes (mpi.errorClass errorClass)) :
    Run.Returns (cMpiInfoCreate mpi) state fun _ final =>
      final.infos = state.infos.create ∅ := by
  refine Run.returns_bind_of_returned rfl ?_
  refine (onWorld_cMpiRcFix (coded .success)).bind fun ierror final same => ?_
  exact Run.returns_pure same

end Effects

section Simulation

variable {mpi : Mpi} {haveCfi : Bool} {pairs : List (List UInt8 × List UInt8)}
variable {infos : InfoStore InfoObject} {maps : InfoStore (Option InfoMap)}

/-- The library holds what C sees of a value without terminators. -/
def Alike (haveCfi : Bool) (stored : List UInt8) (value : FortranString) : Prop :=
  stored = value.seen haveCfi ∧ nul ∉ value.chars

/-- An object of the library and its map correspond by keys of the run. -/
def Tracks (haveCfi : Bool) (pairs : List (List UInt8 × List UInt8)) (object : InfoObject)
    (tracked : Option InfoMap) : Prop :=
  ∀ map, tracked = some map → ∃ held ⊆ pairs, Corresponds (Alike haveCfi) object map held

/-- The objects of the library are those of the maps, and correspond to them. -/
structure Simulates (haveCfi : Bool) (pairs : List (List UInt8 × List UInt8))
    (infos : InfoStore InfoObject) (maps : InfoStore (Option InfoMap)) : Prop where
  next : infos.next = maps.next
  objects : ∀ handle, (infos.object handle = none ∧ maps.object handle = none) ∨
    ∃ object tracked, infos.object handle = some object ∧ maps.object handle = some tracked ∧
      Tracks haveCfi pairs object tracked

private theorem simulates_emptyMaps : Simulates haveCfi pairs infos (emptyMaps infos) := by
  constructor
  · rfl
  · intro handle
    cases live : infos.object handle with
    | none => exact Or.inl ⟨rfl, by simp only [emptyMaps, live, Option.map_none]⟩
    | some object =>
        refine Or.inr ⟨object, _, rfl, by simp only [emptyMaps, live, Option.map_some]; rfl, ?_⟩
        intro map started
        by_cases empty : object.keys = []
        · rw [if_pos empty] at started
          cases started
          have same : object = ∅ := AList.ext (List.map_eq_nil_iff.mp empty)
          exact ⟨[], List.nil_subset _, same ▸ Corresponds.empty⟩
        · rw [if_neg empty] at started
          cases started

theorem Simulates.create (simulates : Simulates haveCfi pairs infos maps) {object : InfoObject}
    {tracked : Option InfoMap} (tracks : Tracks haveCfi pairs object tracked) :
    Simulates haveCfi pairs (infos.create object) (maps.create tracked) := by
  constructor
  · simp only [InfoStore.create, simulates.next]
  · intro handle
    by_cases created : handle = maps.next
    · refine Or.inr ⟨object, tracked, ?_, ?_, tracks⟩
      · simp [InfoStore.create, simulates.next, created]
      · simp [InfoStore.create, created]
    · simpa [InfoStore.create, simulates.next, created] using simulates.objects handle

theorem Simulates.modify (simulates : Simulates haveCfi pairs infos maps) {info : Int}
    {change : InfoObject → InfoObject} {change' : InfoMap → InfoMap}
    (changes : ∀ object map held, held ⊆ pairs → Corresponds (Alike haveCfi) object map held →
      ∃ held' ⊆ pairs, Corresponds (Alike haveCfi) (change object) (change' map) held') :
    Simulates haveCfi pairs (infos.modify info change) (maps.modify info (Option.map change')) := by
  constructor
  · exact simulates.next
  · intro handle
    obtain ⟨dead, dead'⟩ | ⟨object, tracked, live, live', tracks⟩ := simulates.objects handle
    · exact Or.inl ⟨by simp [InfoStore.modify, dead], by simp [InfoStore.modify, dead']⟩
    · by_cases modified : handle = info
      · subst modified
        refine Or.inr ⟨change object, tracked.map change', ?_, ?_, ?_⟩
        · simp [InfoStore.modify, live]
        · simp [InfoStore.modify, live']
        · intro changed same
          obtain ⟨map, found, rfl⟩ := Option.map_eq_some_iff.mp same
          obtain ⟨held, within, corresponds⟩ := tracks map found
          exact changes object map held within corresponds
      · refine Or.inr ⟨object, tracked, ?_, ?_, tracks⟩
        · simp [InfoStore.modify, live, modified]
        · simp [InfoStore.modify, live', modified]

/-- What a run needs of one of its calls. -/
structure InfoCall.Kept (haveCfi : Bool) (pairs : List (List UInt8 × List UInt8))
    (infoCall : InfoCall) : Prop where
  key : ∀ use, infoCall.keyUse haveCfi = some use → use.2.Ends use.1 ∧ keyPair use ∈ pairs
  value : ∀ info key value, infoCall = .set info key value →
    value.Ends haveCfi ∧ nul ∉ value.chars

/-- A call keeps the correspondence of the objects with the maps. -/
theorem InfoCall.run_simulates (coded : ∀ errorClass, mpi.Codes (mpi.errorClass errorClass))
    {state : InfoWorld} {infoCall : InfoCall} (agree : KeysAgree pairs)
    (kept : infoCall.Kept haveCfi pairs) (simulates : Simulates haveCfi pairs state.infos maps) :
    Run.Returns (infoCall.run mpi haveCfi) state fun _ final =>
      Simulates haveCfi pairs final.infos (infoCall.apply mpi maps) := by
  cases infoCall with
  | create =>
      refine (cMpiInfoCreate_returns coded).bind fun _ final changed => Run.returns_pure ?_
      rw [changed]
      refine simulates.create fun map same => ?_
      cases same
      exact ⟨[], List.nil_subset _, Corresponds.empty⟩
  | set info key value =>
      obtain ⟨keyEnds, member⟩ := kept.key _ rfl
      obtain ⟨valueEnds, plain⟩ := kept.value info key value rfl
      rw [InfoCall.run, mpiInfoSetCall_eq]
      refine (cMpiInfoSet_returns coded keyEnds valueEnds).bind fun _ final changed =>
        Run.returns_pure ?_
      rw [changed]
      refine simulates.modify fun object map held within corresponds => ?_
      have inside : keyPair (haveCfi, key) :: held ⊆ pairs :=
        List.cons_subset.mpr ⟨member, within⟩
      refine ⟨_, ?_, corresponds.insert (agree.mono inside) ⟨rfl, plain⟩⟩
      exact List.cons_subset.mpr ⟨member, List.Subset.trans (List.filter_subset_self held) within⟩
  | delete info key =>
      obtain ⟨keyEnds, member⟩ := kept.key _ rfl
      rw [InfoCall.run, mpiInfoDeleteCall_eq]
      refine (cMpiInfoDelete_returns coded keyEnds).bind fun _ final changed =>
        Run.returns_pure ?_
      rw [changed]
      refine simulates.modify fun object map held within corresponds => ?_
      have inside : keyPair (true, key) :: held ⊆ pairs :=
        List.cons_subset.mpr ⟨member, within⟩
      refine ⟨_, ?_, corresponds.erase (agree.mono inside)⟩
      exact List.Subset.trans (List.filter_subset_self held) within
  | dup info =>
      refine (cMpiInfoDup_returns coded).bind fun _ final changed => Run.returns_pure ?_
      rw [changed, InfoCall.apply]
      obtain ⟨dead, dead'⟩ | ⟨object, tracked, live, live', tracks⟩ :=
        simulates.objects (cMpiInfoF2c mpi info)
      · rw [dead, dead']
        exact simulates
      · rw [live, live']
        exact simulates.create tracks

private theorem runInfoCalls_simulates (coded : ∀ errorClass, mpi.Codes (mpi.errorClass errorClass))
    {calls : List InfoCall} {state : InfoWorld} (agree : KeysAgree pairs)
    (kept : ∀ infoCall ∈ calls, infoCall.Kept haveCfi pairs)
    (simulates : Simulates haveCfi pairs state.infos maps) :
    Run.Returns (runInfoCalls mpi haveCfi calls) state fun _ final =>
      Simulates haveCfi pairs final.infos (applyInfoCalls mpi calls maps) := by
  induction calls generalizing state maps with
  | nil => exact Run.returns_pure simulates
  | cons infoCall calls ih =>
      refine (InfoCall.run_simulates coded agree (kept _ List.mem_cons_self) simulates).bind ?_
      intro _ middle simulates
      exact ih (fun other member => kept other (List.mem_cons_of_mem _ member)) simulates

theorem StringsKept.kept {calls : List InfoCall} {key : FortranString}
    (strings : StringsKept haveCfi calls key) {infoCall : InfoCall} (member : infoCall ∈ calls) :
    infoCall.Kept haveCfi ((keyUses haveCfi calls key).map keyPair) := by
  constructor
  · intro use used
    have within : use ∈ keyUses haveCfi calls key :=
      List.mem_cons_of_mem _ (List.mem_filterMap.mpr ⟨infoCall, member, used⟩)
    exact ⟨strings.keysEnd use within, List.mem_map_of_mem within⟩
  · rintro info key value rfl
    exact strings.values info key value member

end Simulation

section Queries

variable {mpi : Mpi} {state : InfoWorld} {info buflen flag : Int} {copied : Bool}
variable {key : FortranString} {val : List UInt8} {object : InfoObject}

/-- The room that `C_MPI_Info_get_string` gets for the characters of the value. -/
def copyLimit (mpi : Mpi) (buflen : Int) : Nat :=
  if mpi.mpiVersion4 then (buflen - 1).toNat else buflen.toNat

/-- The buffer behind the first bytes, which `memset` has cleared. -/
def cleared (buflen : Int) (val : List UInt8) : List UInt8 :=
  List.replicate (toSizeT buflen) 0 ++ val.drop (toSizeT buflen)

/-- The translation of the code decides nothing about the other results. -/
theorem returns_cMpiRcFix_bind {α : Type} {errorClass : ErrorClass} {answer : Int → α}
    {post : α → Prop} (coded : mpi.Codes (mpi.errorClass errorClass))
    (blind : ∀ ierror, post (answer ierror) ↔ post (answer 0)) :
    Run.Returns (onWorld (cMpiRcFix mpi (mpi.errorClass errorClass)) >>= fun ierror =>
      pure (answer ierror)) state (fun result _ => post result) ↔ post (answer 0) := by
  obtain ⟨ierror, final, fixed, -⟩ := @onWorld_cMpiRcFix mpi state _ coded
  rw [Run.returns_bind_iff_of_returned fixed, Run.returns_pure_iff]
  exact blind ierror

private theorem cMpiInfoGetNkeys_returns (coded : mpi.Codes (mpi.errorClass .success)) {nkeys : Int}
    (live : state.infos.object (cMpiInfoF2c mpi info) = some object) :
    Run.Returns (cMpiInfoGetNkeys mpi info nkeys) state fun result _ =>
      result.1 = object.keys.length := by
  refine Run.returns_bind_of_returned (by simp only [mpiInfoGetNkeys, live]; rfl) ?_
  dsimp only
  exact (returns_cMpiRcFix_bind coded fun _ => Iff.rfl).mpr rfl

private theorem length_cleared (room : toSizeT buflen ≤ val.length) :
    (cleared buflen val).length = val.length := by
  rw [cleared, List.length_append, List.length_replicate, List.length_drop]
  omega

theorem overwrite_cleared (room : toSizeT buflen ≤ val.length) :
    overwrite val (List.replicate (toSizeT buflen) 0) = .returned (cleared buflen val) := by
  rw [overwrite, List.length_replicate, if_pos room, cleared]

/-- A buffer after a value has been copied to it, with a terminator behind the copy. -/
def written (limit : Nat) (stored val : List UInt8) : List UInt8 :=
  stored.take limit ++ [nul] ++ val.drop (min limit stored.length + 1)

private theorem overwrite_written {limit : Nat} {stored : List UInt8}
    (room : min limit stored.length < val.length) :
    overwrite val (stored.take limit ++ [nul]) = .returned (written limit stored val) := by
  have length : (stored.take limit ++ [nul]).length = min limit stored.length + 1 := by
    rw [List.length_append, List.length_take, List.length_singleton]
  rw [overwrite_of_le (by omega), length, written]

private theorem mpiInfoGetString_of_absent (keyEnds : key.Ends copied)
    (live : state.infos.object info = some object)
    (absent : object.lookup (key.seen copied) = none) :
    mpiInfoGetString mpi info (key.passed copied) buflen val flag state =
      .returned ((mpi.errorClass .success, buflen, val, 0), state) := by
  rw [mpiInfoGetString, cString_of_ends keyEnds, Run.bind_of_returned (Run.ofOutcome_returned _ _)]
  simp only [live, absent]

private theorem mpiInfoGetString_of_found {stored : List UInt8} (keyEnds : key.Ends copied)
    (live : state.infos.object info = some object)
    (found : object.lookup (key.seen copied) = some stored) (positive : 0 < buflen)
    (room : min (buflen - 1).toNat stored.length < val.length) :
    mpiInfoGetString mpi info (key.passed copied) buflen val flag state =
      .returned ((mpi.errorClass .success, stored.length + 1,
        written (buflen - 1).toNat stored val, 1), state) := by
  rw [mpiInfoGetString, cString_of_ends keyEnds, Run.bind_of_returned (Run.ofOutcome_returned _ _)]
  simp only [live, found, if_neg (not_le.mpr positive), overwrite_written room]
  rfl

/-- Without room nothing is copied, but the size is told. -/
theorem mpiInfoGetString_of_empty {stored : List UInt8} (keyEnds : key.Ends copied)
    (live : state.infos.object info = some object)
    (found : object.lookup (key.seen copied) = some stored) (empty : buflen ≤ 0) :
    mpiInfoGetString mpi info (key.passed copied) buflen val flag state =
      .returned ((mpi.errorClass .success, stored.length + 1, val, 1), state) := by
  rw [mpiInfoGetString, cString_of_ends keyEnds, Run.bind_of_returned (Run.ofOutcome_returned _ _)]
  simp only [live, found, if_pos empty]

private theorem mpiInfoGet_of_absent (keyEnds : key.Ends copied)
    (live : state.infos.object info = some object)
    (absent : object.lookup (key.seen copied) = none) :
    mpiInfoGet mpi info (key.passed copied) buflen val flag state =
      .returned ((mpi.errorClass .success, val, 0), state) := by
  rw [mpiInfoGet, cString_of_ends keyEnds, Run.bind_of_returned (Run.ofOutcome_returned _ _)]
  simp only [live, absent]

private theorem mpiInfoGet_of_found {stored : List UInt8} (keyEnds : key.Ends copied)
    (live : state.infos.object info = some object)
    (found : object.lookup (key.seen copied) = some stored)
    (room : min buflen.toNat stored.length < val.length) :
    mpiInfoGet mpi info (key.passed copied) buflen val flag state =
      .returned ((mpi.errorClass .success, written buflen.toNat stored val, 1), state) := by
  rw [mpiInfoGet, cString_of_ends keyEnds, Run.bind_of_returned (Run.ofOutcome_returned _ _)]
  simp only [live, found, overwrite_written room]
  rfl

private theorem mpiInfoGet_overruns {stored : List UInt8} (keyEnds : key.Ends copied)
    (live : state.infos.object info = some object)
    (found : object.lookup (key.seen copied) = some stored)
    (overrun : ¬ min buflen.toNat stored.length < val.length) :
    mpiInfoGet mpi info (key.passed copied) buflen val flag state = .undefined .outOfBounds := by
  have length : (stored.take buflen.toNat ++ [nul]).length =
      min buflen.toNat stored.length + 1 := by
    rw [List.length_append, List.length_take, List.length_singleton]
  rw [mpiInfoGet, cString_of_ends keyEnds, Run.bind_of_returned (Run.ofOutcome_returned _ _)]
  simp only [live, found, overwrite, length]
  rw [if_neg (by omega)]
  rfl

private theorem mpiInfoGetValuelen_of_live (keyEnds : key.Ends copied)
    (live : state.infos.object info = some object) :
    mpiInfoGetValuelen mpi info (key.passed copied) buflen flag state =
      .returned ((mpi.errorClass .success, match object.lookup (key.seen copied) with
        | none => (buflen, 0)
        | some stored => (stored.length, 1)), state) := by
  rw [mpiInfoGetValuelen, cString_of_ends keyEnds,
    Run.bind_of_returned (Run.ofOutcome_returned _ _)]
  cases found : object.lookup (key.seen copied) with
  | none => simp only [live, found]
  | some stored => simp only [live, found]

private theorem onWorld_intResult_iff {α : Type} {next : Int → InfoRun α}
    {post : α → InfoWorld → Prop}
    (low : -2147483648 ≤ buflen) :
    Run.Returns (onWorld (intResult (buflen + 1)) >>= next) state post ↔
      buflen < intMax ∧ Run.Returns (next (buflen + 1)) state post := by
  by_cases fits : buflen < intMax
  · have same : onWorld (intResult (buflen + 1)) state = .returned (buflen + 1, state) := by
      rw [intResult_of_bounds (by omega) (by omega)]
      rfl
    rw [Run.returns_bind_iff_of_returned same]
    exact ⟨fun holds => ⟨fits, holds⟩, fun holds => holds.2⟩
  · constructor
    · intro returns
      refine absurd returns (@Run.not_returns_of_undefined _ _ _ _ _ .overflow ?_)
      have tooLarge : ¬ (-2147483648 ≤ buflen + 1 ∧ buflen + 1 ≤ intMax) := by omega
      rw [intResult, if_neg tooLarge]
      rfl
    · exact fun holds => absurd holds.1 fits

theorem cMpiInfoGetString_overruns {keyC : List UInt8}
    {post : Int × List UInt8 × Int × Int → InfoWorld → Prop}
    (overrun : ¬ toSizeT buflen ≤ val.length) :
    ¬ Run.Returns (cMpiInfoGetString mpi info keyC buflen val flag) state post := by
  apply @Run.not_returns_of_undefined _ _ _ _ _ .outOfBounds
  rw [cMpiInfoGetString]
  dsimp only
  rw [overwrite, List.length_replicate, if_neg overrun]
  rfl

/-- A key that is not there: only the increment of `*buflen` may fail. -/
theorem cMpiInfoGetString_of_absent {post : Int → List UInt8 → Int → Prop}
    (coded : mpi.Codes (mpi.errorClass .success)) (keyEnds : key.Ends copied)
    (live : state.infos.object (cMpiInfoF2c mpi info) = some object)
    (absent : object.lookup (key.seen copied) = none) (room : toSizeT buflen ≤ val.length)
    (low : -2147483648 ≤ buflen) :
    Run.Returns (cMpiInfoGetString mpi info (key.passed copied) buflen val flag) state
      (fun result _ => post result.1 result.2.1 result.2.2.1) ↔
      (mpi.mpiVersion4 = false → buflen < intMax) ∧
        post (if mpi.mpiVersion4 then buflen else buflen + 1) (cleared buflen val) 0 := by
  rw [cMpiInfoGetString]
  dsimp only
  rw [overwrite_cleared room, Run.returns_bind_iff_of_returned (Run.ofOutcome_returned _ _)]
  cases since4 : mpi.mpiVersion4 with
  | true =>
      rw [if_pos rfl,
        Run.returns_bind_iff_of_returned (mpiInfoGetString_of_absent keyEnds live absent)]
      dsimp only
      rw [returns_cMpiRcFix_bind coded fun _ => Iff.rfl]
      simp
  | false =>
      rw [if_neg Bool.false_ne_true,
        Run.returns_bind_iff_of_returned (mpiInfoGet_of_absent keyEnds live absent)]
      dsimp only
      rw [if_pos rfl, Run.returns_bind_iff_of_returned (mpiInfoGetValuelen_of_live keyEnds live),
        absent]
      dsimp only
      rw [onWorld_intResult_iff low, returns_cMpiRcFix_bind coded fun _ => Iff.rfl]
      simp

/-- The buffer behind a query of a key that is there. -/
def filled (mpi : Mpi) (buflen : Int) (stored val : List UInt8) : List UInt8 :=
  if mpi.mpiVersion4 ∧ buflen ≤ 0 then cleared buflen val
  else written (copyLimit mpi buflen) stored (cleared buflen val)

theorem filled_of_pos {stored : List UInt8} (positive : 0 < buflen) :
    filled mpi buflen stored val = written (copyLimit mpi buflen) stored (cleared buflen val) :=
  if_neg fun none => not_lt.mpr none.2 positive

/-- A key that is there, before version 4: the terminator must fit behind the value, too. -/
theorem cMpiInfoGetString_of_found {stored : List UInt8} {post : Int → List UInt8 → Int → Prop}
    (coded : mpi.Codes (mpi.errorClass .success)) (keyEnds : key.Ends copied)
    (live : state.infos.object (cMpiInfoF2c mpi info) = some object)
    (found : object.lookup (key.seen copied) = some stored) (room : toSizeT buflen ≤ val.length)
    (low : 0 ≤ buflen) (bounded : buflen ≤ intMax) :
    Run.Returns (cMpiInfoGetString mpi info (key.passed copied) buflen val flag) state
      (fun result _ => post result.1 result.2.1 result.2.2.1) ↔
      (mpi.mpiVersion4 = false →
        min buflen.toNat stored.length < val.length ∧ stored.length < intMax) ∧
      post (stored.length + 1) (filled mpi buflen stored val) 1 := by
  have size : toSizeT buflen = buflen.toNat := by
    simp only [toSizeT, intMax] at *
    omega
  rw [cMpiInfoGetString, filled, copyLimit]
  dsimp only
  rw [overwrite_cleared room, Run.returns_bind_iff_of_returned (Run.ofOutcome_returned _ _)]
  cases since4 : mpi.mpiVersion4 with
  | true =>
      rw [if_pos rfl, if_pos rfl]
      by_cases positive : 0 < buflen
      · have fits : min (buflen - 1).toNat stored.length < (cleared buflen val).length := by
          rw [length_cleared room]
          omega
        rw [if_neg fun none => not_lt.mpr none.2 positive, Run.returns_bind_iff_of_returned
          (mpiInfoGetString_of_found keyEnds live found positive fits)]
        dsimp only
        rw [returns_cMpiRcFix_bind coded fun _ => Iff.rfl]
        simp
      · rw [if_pos ⟨rfl, not_lt.mp positive⟩, Run.returns_bind_iff_of_returned
          (mpiInfoGetString_of_empty keyEnds live found (not_lt.mp positive))]
        dsimp only
        rw [returns_cMpiRcFix_bind coded fun _ => Iff.rfl]
        simp
  | false =>
      rw [if_neg Bool.false_ne_true, if_neg Bool.false_ne_true,
        if_neg fun none => Bool.false_ne_true none.1]
      by_cases fits : min buflen.toNat stored.length < val.length
      · rw [Run.returns_bind_iff_of_returned (mpiInfoGet_of_found keyEnds live found
          (by rw [length_cleared room]; exact fits))]
        dsimp only
        rw [if_pos rfl, Run.returns_bind_iff_of_returned (mpiInfoGetValuelen_of_live keyEnds live),
          found]
        dsimp only
        rw [onWorld_intResult_iff (by omega), returns_cMpiRcFix_bind coded fun _ => Iff.rfl]
        simp [fits]
      · have overrun := @mpiInfoGet_overruns mpi state _ _ flag _ _ _ _ _ keyEnds live found
          (by rw [length_cleared room]; exact fits)
        constructor
        · intro returns
          refine absurd returns (@Run.not_returns_of_undefined _ _ _ _ _ .outOfBounds ?_)
          rw [Run.bind_apply, overrun]
          rfl
        · exact fun holds => absurd (holds.1 rfl).1 fits

/-- The buffer that C fills for a value. -/
def valueBuffer (haveCfi : Bool) (value : List UInt8) : List UInt8 :=
  if haveCfi then List.replicate (value.length + 1) nul else value

/-- The value that the caller finds in it. -/
def received (haveCfi : Bool) (value buffer : List UInt8) : List UInt8 :=
  if haveCfi then buffer.take value.length else buffer

theorem mpiInfoGetStringCall_returns_iff {haveCfi : Bool} {value : List UInt8} {flagC : Int}
    {post : List UInt8 → Bool → Prop} :
    Run.Returns (mpiInfoGetStringCall mpi haveCfi info key buflen value flagC) state
      (fun result _ => post result.2.1 result.2.2.1) ↔
    Run.Returns (cMpiInfoGetString mpi info (key.passed haveCfi) buflen
      (valueBuffer haveCfi value) flagC) state
      fun result _ => post (received haveCfi value result.2.1) (result.2.2.1 ≠ 0) := by
  cases haveCfi with
  | true => exact Run.returns_bind_pure_iff
  | false => exact Run.returns_bind_pure_iff

theorem cleared_replicate {length : Nat} (room : toSizeT buflen ≤ length) :
    cleared buflen (List.replicate length nul) = List.replicate length nul := by
  rw [cleared, List.drop_replicate]
  change List.replicate _ nul ++ _ = _
  rw [← List.replicate_add, Nat.add_sub_cancel' room]

/-- The value reaches the caller when it fills the variable and starts with no blank. -/
theorem received_written_iff {string : FortranString} {value : List UInt8} {limit : Nat}
    (plain : nul ∉ string.chars) (room : toSizeT buflen ≤ value.length + 1)
    (fits : min limit string.chars.length ≤ value.length)
    (shorter : string.stripped.length < value.length) :
    PaddedString.Equal blank (received true value (written limit string.chars
      (cleared buflen (valueBuffer true value)))) string.stripped ↔
      min limit string.chars.length = value.length ∧ string.stripped <+: string.chars := by
  have buffer : written limit string.chars (cleared buflen (valueBuffer true value)) =
      string.chars.take limit ++
        List.replicate (value.length + 1 - min limit string.chars.length) nul := by
    rw [valueBuffer, if_pos rfl, cleared_replicate room, written, List.drop_replicate,
      List.append_assoc, List.singleton_append, ← List.replicate_succ]
    congr 2
    omega
  rw [received, if_pos rfl, buffer]
  by_cases full : min limit string.chars.length = value.length
  · rw [List.take_append_of_le_length (by rw [List.length_take, full]), List.take_take,
      Nat.min_eq_left (by omega),
      FortranString.stripped, PaddedString.take_equal_strip_iff (by omega) shorter.le]
    exact ⟨fun starts => ⟨full, starts⟩, fun both => both.2⟩
  · constructor
    · intro equal
      refine absurd equal (@PaddedString.not_equal_of_mem _ _ _ _ nul (by decide) ?_
        (mt PaddedString.mem_of_mem_strip plain))
      rw [List.take_append, List.mem_append, List.take_replicate, List.mem_replicate,
        List.length_take]
      exact Or.inr ⟨by omega, rfl⟩
    · exact fun both => absurd both.1 full

/-- Without descriptors, a terminator stays in the value. -/
theorem not_received_written {string value stored : List UInt8} {limit : Nat}
    (plain : nul ∉ string) :
    ¬ PaddedString.Equal blank (received false value (written limit stored
      (cleared buflen (valueBuffer false value)))) (PaddedString.strip blank string) := by
  refine PaddedString.not_equal_of_mem (by decide) ?_ (mt PaddedString.mem_of_mem_strip plain)
  simp [received, written]

/-- When a query of a key with such a value, or with none, can answer as the map does. -/
def Readable (mpi : Mpi) (haveCfi : Bool) (buflen : Int) (value : List UInt8) :
    Option FortranString → Prop
  | none => toSizeT buflen ≤ (valueBuffer haveCfi value).length ∧
      (mpi.mpiVersion4 = false → buflen < intMax)
  | some string => haveCfi = true ∧ toSizeT buflen ≤ value.length + 1 ∧
      min (copyLimit mpi buflen) string.chars.length = value.length ∧
      string.stripped <+: string.chars ∧
      (mpi.mpiVersion4 = false → string.chars.length < intMax)

/-- The flag tells whether the map has the key, and the value is the one last set for it. -/
def AnswersMap (map : InfoMap) (key : FortranString) (value : List UInt8) (flag : Bool) : Prop :=
  (flag = true ↔ key.stripped ∈ map) ∧
    ∀ string, map.lookup key.stripped = some string →
      PaddedString.Equal blank value string.stripped

/-- `MPI_Info_get_string` answers as the map does. -/
def ReadsMap (mpi : Mpi) (haveCfi : Bool) (info : Int) (key : FortranString) (buflen : Int)
    (value : List UInt8) (flagC : Int) (map : InfoMap) (state : InfoWorld) : Prop :=
  Run.Returns (mpiInfoGetStringCall mpi haveCfi info key buflen value flagC) state
    fun result _ => AnswersMap map key result.2.1 result.2.2.1

/-- `MPI_Info_get_nkeys` counts the keys of the map. -/
def CountsMap (mpi : Mpi) (info : Int) (map : InfoMap) (state : InfoWorld) : Prop :=
  ∀ nkeysC, Run.Returns (mpiInfoGetNkeysF08 mpi info nkeysC) state
    fun result _ => result.1 = map.keys.length

private theorem countsMap_of_corresponds (coded : mpi.Codes (mpi.errorClass .success))
    {haveCfi : Bool}
    {map : InfoMap} {held : List (List UInt8 × List UInt8)}
    (live : state.infos.object (cMpiInfoF2c mpi info) = some object)
    (corresponds : Corresponds (Alike haveCfi) object map held) : CountsMap mpi info map state := by
  intro nkeysC
  refine Run.returns_bind_pure_iff.mpr ?_
  refine (cMpiInfoGetNkeys_returns coded live).mono fun result _ counted => ?_
  rw [counted, corresponds.length_keys]

private theorem answersMap_of_absent {map : InfoMap} {value : List UInt8}
    (absent : map.lookup key.stripped = none) : AnswersMap map key value false := by
  constructor
  · exact ⟨nofun, fun member => absurd member (AList.lookup_eq_none.mp absent)⟩
  · intro string found
    rw [absent] at found
    cases found

private theorem answersMap_of_found {map : InfoMap} {value : List UInt8} {string : FortranString}
    (found : map.lookup key.stripped = some string) :
    AnswersMap map key value true ↔ PaddedString.Equal blank value string.stripped := by
  constructor
  · exact fun answers => answers.2 string found
  · intro equal
    refine ⟨iff_of_true rfl ?_, fun other found' => ?_⟩
    · exact AList.lookup_isSome.mp (Option.isSome_iff_exists.mpr ⟨string, found⟩)
    · rw [found] at found'
      cases found'
      exact equal

private theorem readsMap_iff (coded : mpi.Codes (mpi.errorClass .success)) {haveCfi : Bool}
    {map : InfoMap} {held : List (List UInt8 × List UInt8)} {value : List UInt8} {flagC : Int}
    (keyEnds : key.Ends haveCfi)
    (live : state.infos.object (cMpiInfoF2c mpi info) = some object)
    (corresponds : Corresponds (Alike haveCfi) object map held)
    (agree : KeysAgree (keyPair (haveCfi, key) :: held))
    (low : -2147483648 ≤ buflen) (high : buflen ≤ intMax)
    (larger : ∀ string, map.lookup key.stripped = some string →
      string.stripped.length < buflen ∧ string.stripped.length < value.length) :
    ReadsMap mpi haveCfi info key buflen value flagC map state ↔
      Readable mpi haveCfi buflen value (map.lookup key.stripped) := by
  rw [ReadsMap, @mpiInfoGetStringCall_returns_iff mpi state info buflen key haveCfi value flagC
    (AnswersMap map key)]
  let post := fun (buffer : List UInt8) (flag : Int) =>
    AnswersMap map key (received haveCfi value buffer) (flag ≠ 0)
  by_cases room : toSizeT buflen ≤ (valueBuffer haveCfi value).length
  · have entries := corresponds.lookup agree
    dsimp only [keyPair] at entries
    obtain ⟨absent, absent'⟩ | ⟨stored, string, found, found', rfl, plain⟩ := entries
    · rw [absent']
      refine (@cMpiInfoGetString_of_absent _ _ _ _ _ _ _ _ _ (fun _ => post) coded keyEnds live absent room
        low).trans ⟨fun holds => ⟨room, holds.1⟩, fun holds => ⟨holds.2, ?_⟩⟩
      exact answersMap_of_absent absent'
    · obtain ⟨shorter, shorter'⟩ := larger string found'
      rw [found']
      refine (@cMpiInfoGetString_of_found _ _ _ _ _ _ _ _ _ _ (fun _ => post) coded keyEnds live
        found room (by omega) high).trans ?_
      rw [filled_of_pos (by omega)]
      refine (and_congr_right fun _ => answersMap_of_found found').trans ?_
      cases haveCfi with
      | false =>
          exact iff_of_false (fun holds => not_received_written plain holds.2)
            fun readable => Bool.false_ne_true readable.1
      | true =>
          have size : (valueBuffer true value).length = value.length + 1 := by
            rw [valueBuffer, if_pos rfl, List.length_replicate]
          rw [size] at room
          rw [FortranString.seen_copied plain, size, Readable]
          cases since4 : mpi.mpiVersion4 with
          | true =>
              have limited : copyLimit mpi buflen ≤ value.length := by
                rw [copyLimit, if_pos since4]
                simp only [toSizeT, intMax] at *
                omega
              rw [received_written_iff plain room (by omega) shorter']
              simp [room]
          | false =>
              have limit : copyLimit mpi buflen = buflen.toNat := by
                rw [copyLimit, since4, if_neg Bool.false_ne_true]
              rw [limit]
              constructor
              · rintro ⟨counted, equal⟩
                obtain ⟨fits, counted⟩ := counted rfl
                obtain ⟨full, starts⟩ :=
                  (received_written_iff plain room (by omega) shorter').mp equal
                exact ⟨rfl, room, full, starts, fun _ => counted⟩
              · rintro ⟨-, -, full, starts, counted⟩
                refine ⟨fun _ => ⟨by omega, counted rfl⟩, ?_⟩
                exact (received_written_iff plain room (by omega) shorter').mpr ⟨full, starts⟩
  · refine iff_of_false (cMpiInfoGetString_overruns room) fun readable => room ?_
    cases found : map.lookup key.stripped with
    | none =>
        rw [found] at readable
        exact readable.1
    | some string =>
        rw [found] at readable
        obtain ⟨rfl, room, -⟩ := readable
        rw [valueBuffer, if_pos rfl, List.length_replicate]
        exact room

end Queries

/-- Runs whose strings keep their meaning: the objects count the keys of the maps, and a query
answers as its map does exactly when it can read the value. -/
theorem infoObjects_matchMaps {mpi : Mpi}
    (coded : ∀ errorClass, mpi.Codes (mpi.errorClass errorClass)) {haveCfi : Bool}
    {calls : List InfoCall} {key : FortranString} {state : InfoWorld}
    (strings : StringsKept haveCfi calls key) :
    Run.Returns (runInfoCalls mpi haveCfi calls) state fun _ final =>
      ∀ info map, (applyInfoCalls mpi calls (emptyMaps state.infos)).object
          (cMpiInfoF2c mpi info) = some (some map) →
        CountsMap mpi info map final ∧
        ∀ buflen value flagC, -2147483648 ≤ buflen → buflen ≤ intMax →
          (∀ string, map.lookup key.stripped = some string →
            string.stripped.length < buflen ∧ string.stripped.length < value.length) →
          (ReadsMap mpi haveCfi info key buflen value flagC map final ↔
            Readable mpi haveCfi buflen value (map.lookup key.stripped)) := by
  refine (runInfoCalls_simulates coded strings.keysAgree (fun _ => strings.kept)
    simulates_emptyMaps).mono ?_
  intro _ final simulates info map tracked
  obtain ⟨dead, dead'⟩ | ⟨object, found, live, live', tracks⟩ :=
    simulates.objects (cMpiInfoF2c mpi info)
  · rw [dead'] at tracked
    cases tracked
  · rw [live'] at tracked
    cases tracked
    obtain ⟨held, within, corresponds⟩ := tracks map rfl
    refine ⟨countsMap_of_corresponds (coded .success) live corresponds, ?_⟩
    intro buflen value flagC low high larger
    have asked : (haveCfi, key) ∈ keyUses haveCfi calls key := List.mem_cons_self
    have inside : keyPair (haveCfi, key) :: held ⊆ (keyUses haveCfi calls key).map keyPair :=
      List.cons_subset.mpr ⟨List.mem_map_of_mem asked, within⟩
    exact readsMap_iff (coded .success) (strings.keysEnd _ asked) live corresponds
      (strings.keysAgree.mono inside) low high larger

section Examples

/-- No info objects yet. -/
def infoStart : InfoWorld where
  world := startWorld
  infos := { object := fun _ => none, next := 700000000, free := fun _ _ => rfl }

/-- A literal, with what lies behind it. -/
def literal (chars : List Char) (following : List UInt8) : FortranString where
  chars := chars.map fun char => char.val.toUInt8
  following := following

/-- A key and a value in a new object. -/
def setNew (key value : FortranString) : List InfoCall :=
  [.create, .set 700000000 key value]

theorem infoObjects_matchMaps_blank :
    Run.Returns (runInfoCalls mpich true (setNew (literal ['k'] []) (literal ['o', 'n', ' '] [])))
      infoStart fun _ final =>
        CountsMap mpich 700000000
          ((∅ : InfoMap).insert [107] (literal ['o', 'n', ' '] [])) final ∧
        ReadsMap mpich true 700000000 (literal ['k'] []) 4 [32, 32, 32] 0
          ((∅ : InfoMap).insert [107] (literal ['o', 'n', ' '] [])) final := by
  have kept : StringsKept true (setNew (literal ['k'] []) (literal ['o', 'n', ' '] []))
      (literal ['k'] []) := by
    constructor
    · decide
    · decide
    · intro info key value member
      obtain ⟨rfl, rfl, rfl⟩ : info = 700000000 ∧ key = literal ['k'] [] ∧
          value = literal ['o', 'n', ' '] [] := by simpa [setNew] using member
      decide
  refine (@infoObjects_matchMaps mpich (fun _ => Or.inr rfl) true _ _ infoStart kept).mono ?_
  intro _ final holds
  obtain ⟨counts, reads⟩ := holds 700000000 _ rfl
  refine ⟨counts, (reads 4 [32, 32, 32] 0 (by decide) (by decide) ?_).mpr ?_⟩
  · intro string found
    cases found
    decide
  · exact ⟨rfl, by decide, by decide, by decide, nofun⟩

/-- The run ends, and the map has the key, but the query answers differently. -/
def Differs (haveCfi : Bool) (calls : List InfoCall) (key : FortranString) (buflen : Int)
    (value : List UInt8) : Prop :=
  Run.Returns (runInfoCalls mpich haveCfi calls) infoStart fun _ final =>
    ∃ map string, (applyInfoCalls mpich calls (emptyMaps infoStart.infos)).object 700000000 =
        some (some map) ∧ map.lookup key.stripped = some string ∧
      string.stripped.length < buflen ∧ string.stripped.length < value.length ∧
      ¬ ReadsMap mpich haveCfi 700000000 key buflen value 0 map final

private theorem differs_of_run {haveCfi : Bool} {calls : List InfoCall}
    {key string : FortranString} {buflen : Int} {value : List UInt8}
    {answer : Int × List UInt8 × Bool × Int} {map : InfoMap}
    (run : ((runInfoCalls mpich haveCfi calls >>= fun _ =>
      mpiInfoGetStringCall mpich haveCfi 700000000 key buflen value 0) infoStart >>= fun result =>
        .returned result.1) = .returned answer)
    (tracked : (applyInfoCalls mpich calls (emptyMaps infoStart.infos)).object 700000000 =
      some (some map))
    (found : map.lookup key.stripped = some string)
    (larger : string.stripped.length < buflen ∧ string.stripped.length < value.length)
    (wrong : answer.2.2.1 = false ∨ ¬ PaddedString.Equal blank answer.2.1 string.stripped) :
    Differs haveCfi calls key buflen value := by
  obtain ⟨⟨_, last⟩, ran, same⟩ := Outcome.bind_eq_returned.mp run
  cases same
  obtain ⟨_, final, first, query⟩ := Run.bind_eq_returned.mp ran
  refine Run.returns_of_returned first ⟨map, string, tracked, found, larger.1, larger.2, ?_⟩
  rintro ⟨_, _, other, flagged, valued⟩
  rw [query] at other
  cases other
  cases wrong with
  | inl unflagged =>
      have present : key.stripped ∈ map :=
        AList.lookup_isSome.mp (Option.isSome_iff_exists.mpr ⟨string, found⟩)
      exact Bool.false_ne_true (unflagged.symm.trans (flagged.mpr present))
  | inr unequal => exact unequal (valued string found)

/-- A value keeps the terminators behind it; a key that was set with a blank behind it is not
found without; and a key with no terminator behind it is read beyond its end. -/
theorem infoObjects_differ :
    Differs true (setNew (literal ['k'] []) (literal ['v'] [])) (literal ['k'] []) 4 [32, 32, 32] ∧
    Differs true (setNew (literal ['k', ' '] []) (literal ['v'] [])) (literal ['k'] []) 4
      [32, 32, 32] ∧
    runInfoCalls mpich false (setNew (literal ['k'] []) (literal ['v'] [])) infoStart =
      .undefined .outOfBounds := by
  refine ⟨@differs_of_run _ _ _ (literal ['v'] []) _ _ (2, [118, 0, 0], true, 0) _
      (by decide +kernel) rfl rfl ⟨by decide, by decide⟩ (Or.inr (by decide)),
    @differs_of_run _ _ _ (literal ['v'] []) _ _ (4, [0, 0, 0], false, 0) _
      (by decide +kernel) rfl rfl ⟨by decide, by decide⟩ (Or.inl rfl), rfl⟩

end Examples

end Vapaa
