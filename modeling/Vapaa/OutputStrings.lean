import Vapaa.InfoStrings

/-!
# Strings that come back

The routines of `mpi_info_f.F90` and `mpi_attr_f.F90` that give a string to their caller through a
temporary, which C fills.
-/

set_option autoImplicit false

namespace Vapaa

open Foundation

/-- Names that the library has stored: the keys of an info object by their number, and the names
of datatypes. -/
structure StoredNames where
  nthkey : InfoObject → Int → Option (List UInt8)
  typeName : Int → Option (List UInt8)

section Library

variable (mpi : Mpi) (names : StoredNames)

def mpiInfoGetNthkey (info n : Int) (key : List UInt8) : InfoRun (Int × List UInt8) := fun state =>
  match state.infos.object info with
  | none => .returned ((mpi.errorClass .errInfo, key), state)
  | some object =>
      match names.nthkey object n with
      | none => .returned ((mpi.errorClass .errArg, key), state)
      | some stored => (do
          let key ← Run.ofOutcome (overwrite key (stored ++ [nul]))
          return (mpi.errorClass .success, key) : InfoRun (Int × List UInt8)) state

def mpiTypeGetName (datatype : Int) (name : List UInt8) (resultlen : Int) :
    InfoRun (Int × List UInt8 × Int) :=
  match names.typeName datatype with
  | none => return (mpi.errorClass .errType, name, resultlen)
  | some stored => do
      let name ← Run.ofOutcome (overwrite name (stored ++ [nul]))
      return (mpi.errorClass .success, name, stored.length)

end Library

section Wrappers

variable (mpi : Mpi) (names : StoredNames)

/-- The key is what lies at the `base_addr` of its descriptor. Returns the key and `*ierror`. -/
def cfiMpiInfoGetNthkey (infoF n : Int) (keyD : List UInt8) : InfoRun (List UInt8 × Int) := do
  let info := cMpiInfoF2c mpi infoF
  let (ierror, key) ← mpiInfoGetNthkey mpi names info n keyD
  return (key, ← onWorld (cMpiRcFix mpi ierror))

/-- The name is what lies at the `base_addr` of its descriptor. Returns the name, `*resultlen` and
`*ierror`. -/
def cfiMpiTypeGetName (handleF : Int) (nameD : List UInt8) (resultlen : Int) :
    InfoRun (List UInt8 × Int × Int) := do
  let handle := cMpiTypeF2c mpi handleF
  let (ierror, name, resultlen) ← mpiTypeGetName mpi names handle nameD resultlen
  return (name, resultlen, ← onWorld (cMpiRcFix mpi ierror))

def mpiInfoGetNthkeyF08ts (info n : Int) (key : List UInt8) : InfoRun (List UInt8 × Int) := do
  let keyC := List.replicate (key.length + 1) nul
  let nC := n
  let (keyC, ierrorC) ← cfiMpiInfoGetNthkey mpi names info nC keyC
  return (keyC.take key.length, ierrorC)

/-- Returns `name`, `resultlen` and `ierror`; `resultlenC` is what the local variable holds before
the call. -/
def mpiTypeGetNameF08ts (datatype : Int) (name : List UInt8) (resultlenC : Int) :
    InfoRun (List UInt8 × Int × Int) := do
  let nameC := List.replicate (name.length + 1) nul
  let (nameC, resultlenC, ierrorC) ← cfiMpiTypeGetName mpi names datatype nameC resultlenC
  return (nameC.take name.length, resultlenC, ierrorC)

end Wrappers

section Queries

/-- A call that gives a string back. -/
inductive StringQuery where
  | nthkey (info n : Int)
  | string (info : Int) (key : FortranString) (buflen : Int)
  | typeName (datatype : Int)
  deriving DecidableEq, Repr

variable (mpi : Mpi) (names : StoredNames)

/-- The caller's character argument after the call; `unset` is what the variable of the wrapper
that the library sets holds before. -/
def StringQuery.run (argument : List UInt8) (unset : Int) : StringQuery → InfoRun (List UInt8)
  | .nthkey info n => do
      let (key, _) ← mpiInfoGetNthkeyF08ts mpi names info n argument
      return key
  | .string info key buflen => do
      let (_, value, _) ← mpiInfoGetStringF08ts mpi info key buflen argument unset
      return value
  | .typeName datatype => do
      let (name, _) ← mpiTypeGetNameF08ts mpi names datatype argument unset
      return name

/-- What the library has stored for a query: nothing when the key of a value is absent. -/
def StringQuery.Asks (state : InfoWorld) : StringQuery → Option (List UInt8) → Prop
  | .nthkey info n, stored => stored.isSome ∧
      ∃ object, state.infos.object (cMpiInfoF2c mpi info) = some object ∧
        names.nthkey object n = stored
  | .string info key _, stored =>
      ∃ object, state.infos.object (cMpiInfoF2c mpi info) = some object ∧
        object.lookup (key.seen true) = stored
  | .typeName datatype, stored => stored.isSome ∧
      names.typeName (cMpiTypeF2c mpi datatype) = stored

/-- The size that the caller gives for a value is an integer that is not negative. -/
def StringQuery.Sized : StringQuery → Prop
  | .string _ _ buflen => 0 ≤ buflen ∧ buflen ≤ intMax
  | _ => True

/-- The characters that the caller may get. -/
def StringQuery.limit (length : Nat) : StringQuery → Nat
  | .string _ _ buflen => min length buflen.toNat
  | _ => length

/-- The argument holds the start of what is stored, and keeps its value when nothing is. -/
def StringQuery.Holds (query : StringQuery) (argument : List UInt8) (stored : Option (List UInt8))
    (value : List UInt8) : Prop :=
  match stored with
  | none => value = argument
  | some stored => stored.take (query.limit argument.length) <+: value

/-- The call stays within the temporary, and delivers its string. -/
def StringQuery.Delivers (state : InfoWorld) (query : StringQuery) (argument : List UInt8)
    (unset : Int) (stored : Option (List UInt8)) : Prop :=
  Run.Returns (query.run mpi names argument unset) state fun value _ =>
    query.Holds argument stored value

/-- The lengths with which a string is delivered. -/
def StringQuery.Fits (argument : List UInt8) : StringQuery → Option (List UInt8) → Prop
  | .string _ _ buflen, none => buflen ≤ argument.length + 1 ∧
      argument = List.replicate argument.length nul ∧ (mpi.mpiVersion4 = false → buflen < intMax)
  | .string _ _ buflen, some stored => buflen ≤ argument.length + 1 ∧
      if mpi.mpiVersion4 then buflen = 0 ∨ stored.length < buflen ∨ argument.length < buflen
      else min buflen stored.length ≤ argument.length
  | _, none => True
  | _, some stored => stored.length ≤ argument.length

instance (argument : List UInt8) (query : StringQuery) (stored : Option (List UInt8)) :
    Decidable (query.Fits mpi argument stored) := by
  cases query <;> cases stored <;> unfold StringQuery.Fits <;> infer_instance

end Queries

section Buffers

variable {stored : List UInt8} {length limit : Nat}

/-- A write stays within its buffer, or the program has no behaviour. -/
theorem returns_overwrite_iff {α : Type} {buffer bytes : List UInt8} {state : InfoWorld}
    {next : List UInt8 → InfoRun α} {post : α → InfoWorld → Prop} :
    Run.Returns (Run.ofOutcome (overwrite buffer bytes) >>= next) state post ↔
      bytes.length ≤ buffer.length ∧
        Run.Returns (next (bytes ++ buffer.drop bytes.length)) state post := by
  by_cases room : bytes.length ≤ buffer.length
  · rw [overwrite_of_le room, Run.returns_bind_iff_of_returned (Run.ofOutcome_returned _ _)]
    exact ⟨fun returns => ⟨room, returns⟩, fun both => both.2⟩
  · refine iff_of_false (@Run.not_returns_of_undefined _ _ _ _ _ .outOfBounds ?_)
      fun both => room both.1
    rw [overwrite_of_lt (not_le.mp room)]
    rfl

/-- What the caller gets of a string that was written whole. -/
theorem take_prefix_take_whole {rest : List UInt8} :
    stored.take length <+: (stored ++ rest).take length := by
  rw [List.take_append]
  exact List.prefix_append _ _

/-- The terminator ends what the caller gets, unless the caller wants no more. -/
theorem take_prefix_written_iff {wanted : Nat} (plain : nul ∉ stored) (within : wanted ≤ length)
    {val : List UInt8} :
    stored.take wanted <+: (written limit stored val).take length ↔
      wanted ≤ limit ∨ stored.length ≤ limit := by
  constructor
  · intro starts
    by_contra cut
    rw [not_or, not_le, not_le] at cut
    have ends : (written limit stored val)[limit]? = some nul := by
      simp [written, Nat.min_eq_left cut.2.le]
    have inside : limit < (stored.take wanted).length := by
      rw [List.length_take]
      omega
    have same := List.prefix_iff_getElem?.mp starts limit inside
    rw [List.getElem?_take_of_lt (by omega), ends, List.getElem_take] at same
    exact plain (Option.some.inj same ▸ List.getElem_mem _)
  · intro enough
    have shorter : stored.take wanted <+: stored.take limit := by
      cases enough with
      | inl less => exact List.take_prefix_take_left less
      | inr all =>
          rw [List.take_of_length_le all]
          exact List.take_prefix _ _
    refine List.prefix_take_iff.mpr ⟨shorter.trans ?_, ?_⟩
    · rw [written, List.append_assoc]
      exact List.prefix_append _ _
    · rw [List.length_take]
      omega

end Buffers

section Delivery

variable {mpi : Mpi} {names : StoredNames} {state : InfoWorld} {argument stored : List UInt8}
variable {unset : Int}

private theorem returns_write_iff (coded : mpi.Codes (mpi.errorClass .success)) {α : Type}
    {answer : List UInt8 → Int → α} {buffer : List UInt8} {post : α → Prop}
    (blind : ∀ buffer ierror, post (answer buffer ierror) ↔ post (answer buffer 0)) :
    Run.Returns (Run.ofOutcome (overwrite buffer (stored ++ [nul])) >>= fun buffer =>
      onWorld (cMpiRcFix mpi (mpi.errorClass .success)) >>= fun ierror =>
        pure (answer buffer ierror)) state (fun result _ => post result) ↔
      stored.length < buffer.length ∧
        post (answer (stored ++ [nul] ++ buffer.drop (stored.length + 1)) 0) := by
  rw [returns_overwrite_iff, returns_cMpiRcFix_bind coded (blind _), List.length_append,
    List.length_singleton, Nat.add_one_le_iff]

private theorem cfiMpiInfoGetNthkey_returns_iff (coded : mpi.Codes (mpi.errorClass .success))
    {infoF n : Int} {object : InfoObject} {key : List UInt8} {post : List UInt8 → Prop}
    (live : state.infos.object (cMpiInfoF2c mpi infoF) = some object)
    (named : names.nthkey object n = some stored) :
    Run.Returns (cfiMpiInfoGetNthkey mpi names infoF n key) state (fun result _ => post result.1) ↔
      stored.length < key.length ∧ post (stored ++ [nul] ++ key.drop (stored.length + 1)) := by
  have called : cfiMpiInfoGetNthkey mpi names infoF n key state =
      (Run.ofOutcome (overwrite key (stored ++ [nul])) >>= fun key =>
        onWorld (cMpiRcFix mpi (mpi.errorClass .success)) >>= fun ierror =>
          pure (key, ierror)) state := by
    rw [cfiMpiInfoGetNthkey]
    dsimp only
    rw [Run.bind_apply]
    simp only [mpiInfoGetNthkey, live, named]
    cases overwrite key (stored ++ [nul]) with
    | returned written => rfl
    | aborted => rfl
    | undefined fault => rfl
  rw [Run.Returns, called]
  exact returns_write_iff coded fun _ _ => Iff.rfl

private theorem cfiMpiTypeGetName_returns_iff (coded : mpi.Codes (mpi.errorClass .success))
    {handleF resultlen : Int} {name : List UInt8} {post : List UInt8 → Prop}
    (named : names.typeName (cMpiTypeF2c mpi handleF) = some stored) :
    Run.Returns (cfiMpiTypeGetName mpi names handleF name resultlen) state
      (fun result _ => post result.1) ↔
      stored.length < name.length ∧ post (stored ++ [nul] ++ name.drop (stored.length + 1)) := by
  rw [cfiMpiTypeGetName]
  dsimp only
  simp only [mpiTypeGetName, named, bind_assoc, pure_bind]
  exact returns_write_iff coded fun _ _ => Iff.rfl

/-- A string that the library writes whole must fit the argument. -/
theorem delivers_nthkey_iff (coded : mpi.Codes (mpi.errorClass .success)) {info n : Int}
    (asks : (StringQuery.nthkey info n).Asks mpi names state (some stored)) :
    (StringQuery.nthkey info n).Delivers mpi names state argument unset (some stored) ↔
      stored.length ≤ argument.length := by
  obtain ⟨-, object, live, named⟩ := asks
  refine Run.returns_bind_pure_iff.trans (Run.returns_bind_pure_iff.trans ?_)
  refine (@cfiMpiInfoGetNthkey_returns_iff mpi names state stored coded info n object _
    (fun buffer => stored.take argument.length <+: buffer.take argument.length) live named).trans ?_
  rw [List.length_replicate, Nat.lt_succ_iff, List.append_assoc]
  exact and_iff_left take_prefix_take_whole

private theorem delivers_typeName_iff (coded : mpi.Codes (mpi.errorClass .success)) {datatype : Int}
    (asks : (StringQuery.typeName datatype).Asks mpi names state (some stored)) :
    (StringQuery.typeName datatype).Delivers mpi names state argument unset (some stored) ↔
      stored.length ≤ argument.length := by
  obtain ⟨-, named⟩ := asks
  refine Run.returns_bind_pure_iff.trans (Run.returns_bind_pure_iff.trans ?_)
  refine (@cfiMpiTypeGetName_returns_iff mpi names state stored coded datatype unset _
    (fun buffer => stored.take argument.length <+: buffer.take argument.length) named).trans ?_
  rw [List.length_replicate, Nat.lt_succ_iff, List.append_assoc]
  exact and_iff_left take_prefix_take_whole

private theorem ends_copied {key : FortranString} : key.Ends true := by
  rw [FortranString.Ends, FortranString.passed, if_pos rfl, FortranString.copied_eq]
  exact List.mem_append_right _ (List.mem_singleton_self _)

private theorem toSizeT_of_nonneg {buflen : Int} (low : 0 ≤ buflen) (bounded : buflen ≤ intMax) :
    toSizeT buflen = buflen.toNat := by
  simp only [toSizeT, intMax] at *
  omega

private theorem length_valueBuffer : (valueBuffer true argument).length = argument.length + 1 := by
  rw [valueBuffer, if_pos rfl, List.length_replicate]

/-- A value is copied as far as the size goes that the caller gives. -/
theorem delivers_string_found_iff (coded : mpi.Codes (mpi.errorClass .success)) {info buflen : Int}
    {key : FortranString} (asks : (StringQuery.string info key buflen).Asks mpi names state
      (some stored)) (low : 0 ≤ buflen) (bounded : buflen ≤ intMax) (plain : nul ∉ stored)
    (countable : stored.length < intMax) :
    (StringQuery.string info key buflen).Delivers mpi names state argument unset (some stored) ↔
      (StringQuery.string info key buflen).Fits mpi argument (some stored) := by
  obtain ⟨object, live, found⟩ := asks
  refine Run.returns_bind_pure_iff.trans ((@mpiInfoGetStringCall_returns_iff mpi state info buflen
    key true argument unset fun value _ => StringQuery.Holds _ argument (some stored) value).trans ?_)
  rw [StringQuery.Fits]
  by_cases room : buflen ≤ argument.length + 1
  · have within : toSizeT buflen ≤ (valueBuffer true argument).length := by
      rw [toSizeT_of_nonneg low bounded, length_valueBuffer]
      omega
    refine (@cMpiInfoGetString_of_found mpi state info buflen unset true key _ object stored
      (fun _ buffer _ => stored.take (min argument.length buflen.toNat) <+:
        received true argument buffer) coded ends_copied live found within low bounded).trans ?_
    rw [length_valueBuffer, received, if_pos rfl]
    cases since4 : mpi.mpiVersion4 with
    | true =>
        rw [if_pos rfl]
        by_cases positive : 0 < buflen
        · rw [filled_of_pos positive, copyLimit, since4, if_pos rfl,
            take_prefix_written_iff plain (Nat.min_le_left _ _)]
          refine (and_iff_right fun none => absurd none.symm Bool.false_ne_true).trans
            (Iff.trans ?_ (and_iff_right room).symm)
          omega
        · obtain rfl : buflen = 0 := by omega
          refine iff_of_true ⟨fun none => absurd none.symm Bool.false_ne_true, ?_⟩
            ⟨room, Or.inl rfl⟩
          rw [Int.toNat_zero, Nat.min_zero, List.take_zero]
          exact List.nil_prefix
    | false =>
        rw [if_neg Bool.false_ne_true, filled, since4, if_neg fun none => Bool.false_ne_true none.1,
          copyLimit, since4, if_neg Bool.false_ne_true,
          take_prefix_written_iff plain (Nat.min_le_left _ _)]
        simp only [forall_const, countable, and_true, room, true_and]
        omega
  · refine iff_of_false (cMpiInfoGetString_overruns ?_) fun fits => room fits.1
    rw [toSizeT_of_nonneg low bounded, length_valueBuffer]
    omega

/-- The temporary that comes back for an absent key holds null characters only. -/
theorem delivers_string_absent_iff (coded : mpi.Codes (mpi.errorClass .success)) {info buflen : Int}
    {key : FortranString}
    (asks : (StringQuery.string info key buflen).Asks mpi names state none) (low : 0 ≤ buflen)
    (bounded : buflen ≤ intMax) :
    (StringQuery.string info key buflen).Delivers mpi names state argument unset none ↔
      (StringQuery.string info key buflen).Fits mpi argument none := by
  obtain ⟨object, live, absent⟩ := asks
  refine Run.returns_bind_pure_iff.trans ((@mpiInfoGetStringCall_returns_iff mpi state info buflen
    key true argument unset fun value _ => StringQuery.Holds _ argument none value).trans ?_)
  rw [StringQuery.Fits]
  by_cases room : buflen ≤ argument.length + 1
  · have within : toSizeT buflen ≤ argument.length + 1 := by
      rw [toSizeT_of_nonneg low bounded]
      omega
    refine (@cMpiInfoGetString_of_absent mpi state info buflen unset true key _ object
      (fun _ buffer _ => received true argument buffer = argument) coded ends_copied live absent
      (length_valueBuffer.symm ▸ within) (by omega)).trans ?_
    rw [received, if_pos rfl, valueBuffer, if_pos rfl, cleared_replicate within,
      List.take_replicate, Nat.min_eq_left (Nat.le_succ _), and_comm, eq_comm]
    exact (and_iff_right room).symm
  · refine iff_of_false (cMpiInfoGetString_overruns ?_) fun fits => room fits.1
    rw [toSizeT_of_nonneg low bounded, length_valueBuffer]
    omega

/-- The strings that are delivered are exactly those whose lengths fit: a key or a name must not be
longer than the argument; a value needs a size that the temporary has room for, and, since
version 4, a terminator behind the characters; and no argument but one of null characters keeps its
value when a key is absent. -/
theorem outputStrings_delivered_iff (coded : mpi.Codes (mpi.errorClass .success))
    {query : StringQuery} {held : Option (List UInt8)} (asks : query.Asks mpi names state held)
    (sized : query.Sized)
    (strings : ∀ stored, held = some stored → nul ∉ stored ∧ stored.length < intMax) :
    query.Delivers mpi names state argument unset held ↔ query.Fits mpi argument held := by
  cases query with
  | nthkey info n =>
      obtain ⟨stored, rfl⟩ := Option.isSome_iff_exists.mp asks.1
      exact delivers_nthkey_iff coded asks
  | string info key buflen =>
      cases held with
      | none => exact delivers_string_absent_iff coded asks sized.1 sized.2
      | some stored =>
          obtain ⟨plain, countable⟩ := strings stored rfl
          exact delivers_string_found_iff coded asks sized.1 sized.2 plain countable
  | typeName datatype =>
      obtain ⟨stored, rfl⟩ := Option.isSome_iff_exists.mp asks.1
      exact delivers_typeName_iff coded asks

end Delivery

section Examples

/-- A library that numbers the keys of an object in their order, and has named `MPI_INTEGER`. -/
def namesOfMpich : StoredNames where
  nthkey := fun object n => object.keys[n.toNat]?
  typeName := fun datatype =>
    if datatype = mpich.handle (.datatype .integer) then
      some [77, 80, 73, 95, 73, 78, 84, 69, 71, 69, 82]
    else none

theorem outputStrings_delivered_fitting :
    (StringQuery.string 700000000 ⟨[107], []⟩ 3).Delivers mpich namesOfMpich infoWithValue
      [1, 2, 3] 0 (some [111, 110]) := by
  have asks : (StringQuery.string 700000000 ⟨[107], []⟩ 3).Asks mpich namesOfMpich infoWithValue
      (some [111, 110]) :=
    ⟨_, rfl, rfl⟩
  have strings : ∀ stored, some [111, 110] = some stored →
      nul ∉ stored ∧ (stored.length : Int) < intMax := by
    intro stored same
    cases same
    decide
  exact (outputStrings_delivered_iff (Or.inr rfl) asks ⟨by decide, by decide⟩ strings).mpr (by decide)

/-- The name of `MPI_INTEGER` runs over an argument of four characters, as does `memset` with a
size of five; with a size of two, one character of two comes back; and an absent key leaves null
characters. -/
theorem outputStrings_undelivered :
    (StringQuery.typeName (-10002)).run mpich namesOfMpich [1, 2, 3, 4] 0 infoWithValue =
      .undefined .outOfBounds ∧
    (StringQuery.string 700000000 ⟨[107], []⟩ 5).run mpich namesOfMpich [1, 2, 3] 0 infoWithValue =
      .undefined .outOfBounds ∧
    ¬ (StringQuery.string 700000000 ⟨[107], []⟩ 2).Delivers mpich namesOfMpich infoWithValue
      [1, 2, 3] 0 (some [111, 110]) ∧
    ¬ (StringQuery.string 700000000 ⟨[108], []⟩ 2).Delivers mpich namesOfMpich infoWithValue
      [1, 2, 3] 0 none := by
  refine ⟨rfl, rfl, ?_, ?_⟩
  · rintro ⟨value, final, run, holds⟩
    have evaluated : (StringQuery.string 700000000 ⟨[107], []⟩ 2).run mpich namesOfMpich [1, 2, 3] 0
        infoWithValue >>= (fun result => .returned result.1) = .returned [111, 0, 0] := by
      decide +kernel
    rw [run] at evaluated
    cases evaluated
    have starts : ([111, 110] : List UInt8) <+: [111, 0, 0] := holds
    exact absurd starts (by decide)
  · rintro ⟨value, final, run, holds⟩
    have evaluated : (StringQuery.string 700000000 ⟨[108], []⟩ 2).run mpich namesOfMpich [1, 2, 3] 0
        infoWithValue >>= (fun result => .returned result.1) = .returned [0, 0, 0] := by
      decide +kernel
    rw [run] at evaluated
    cases evaluated
    have kept : ([0, 0, 0] : List UInt8) = [1, 2, 3] := holds
    exact absurd kept (by decide)

end Examples

end Vapaa
