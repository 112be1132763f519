import Vapaa.FileWrappers
import Vapaa.HandleRuns

/-!
# Programs on files

Runs of the routines of `mpi_file_f.F90` on files that the library keeps.
-/

set_option autoImplicit false

namespace Vapaa

open Foundation

section Modes

/-- A mode is among those of a Fortran argument. -/
def FileMode.requested (amodeF : Int) (mode : FileMode) : Bool :=
  FileMode.table.any fun (other, vapaa) =>
    other = mode ∧ BitVec.ofInt 32 amodeF &&& BitVec.ofNat 32 vapaa ≠ 0

/-- A mode is among those of an argument of the library. -/
def FileMode.understood (constants : HandleConstants) (amode : Int) (mode : FileMode) : Bool :=
  BitVec.ofInt 32 amode &&& BitVec.ofInt 32 (constants.mode mode) ≠ 0

/-- The library has a bit of its own for every mode. -/
def HandleConstants.ModeBits (constants : HandleConstants) : Prop :=
  ∃ bit : FileMode → Nat, Function.Injective bit ∧
    ∀ mode, bit mode < 32 ∧ BitVec.ofInt 32 (constants.mode mode) = BitVec.twoPow 32 (bit mode)

def FileMode.access (given : FileMode → Bool) : AccessModes where
  append := given .append
  create := given .create
  deleteOnClose := given .deleteOnClose
  excl := given .excl
  readable := given .rdonly || given .rdwr
  writable := given .wronly || given .rdwr

end Modes

/-- The characters before the first that C takes for the end. -/
def FortranString.name (string : FortranString) : List UInt8 :=
  string.chars.takeWhile fun char => char ≠ nul

/-- What C finds at the address that it is given for a character argument. -/
def FortranString.passedBy (interface : Interface) (string : FortranString) : List UInt8 :=
  match interface with
  | .addresses => string.inPlace
  | .descriptors => string.copied

/-- `"native"`, the data representation in which files hold the bytes of the memory. -/
def native : List UInt8 := [110, 97, 116, 105, 118, 101]

/-- A call of a routine for files; a transfer has an offset if its routine takes one. -/
inductive FileCall where
  | open (commF : Int) (filename : FortranString) (amodeF infoF : Int)
  | close (fileF : Int)
  | delete (filename : FortranString) (infoF : Int)
  | setSize (fileF size : Int)
  | preallocate (fileF size : Int)
  | getSize (fileF : Int)
  | setView (fileF disp etypeF filetypeF : Int) (datarep : FortranString) (infoF : Int)
  | transfer (direction : Direction) (collective : Bool) (fileF : Int) (offset : Option Int)
      (desc : CDesc) (count : Nat) (datatypeF status : Int)

/-- A call, what the library answers, and what the program finds in the output argument. -/
structure FileEvent where
  fileCall : FileCall
  reply : FileReply
  output : Int

/-- The view for a displacement and two datatypes, if there is one. -/
def fileView (disp : Int) (etype filetype : Option TypeObject) : Option FileView := do
  let etype ← etype
  let filetype ← filetype
  let pattern := filetype.layout.map.bytes.map Int.toNat
  let extent := filetype.layout.extent.toNat
  if valid : pattern ≠ [] ∧ pattern.Pairwise (· < ·) ∧ ∀ place ∈ pattern, place < extent then
    if 0 ≤ disp ∧ ∀ byte ∈ filetype.layout.map.bytes, 0 ≤ byte then
      some {
        displacement := disp.toNat
        unit := etype.layout.size
        pattern := pattern
        extent := extent
        nonempty := valid.1
        rising := valid.2.1
        within := valid.2.2 }
    else none
  else none

def nonnegative (value : Int) : Option Nat := if 0 ≤ value then some value.toNat else none

/-- An offset, where there is one, is not negative. -/
def offsetPlace : Option Int → Option (Option Nat)
  | none => some none
  | some offset => (nonnegative offset).map some

abbrev FileDeed := FileAction (List UInt8) Int Int

section Library

variable (mpi : Mpi) (constants : HandleConstants)

/-- The C string at an address. -/
def stringAt (memory : List UInt8) : Option (List UInt8) :=
  match cString memory with
  | .returned string => some string
  | _ => none

/-- How the library understands a request that it answers. It sets views in the native data
representation. -/
def FileRequest.understood (reply : FileReply) (request : FileRequest) : Option FileDeed :=
  if reply.rc ≠ mpi.errorClass .success then some .refused
  else match request with
  | .open _ filename amode _ => (stringAt filename).map fun name =>
      .opens name (FileMode.access (FileMode.understood constants amode)) reply.handle
  | .close file => some (.closes file)
  | .delete filename _ => (stringAt filename).map .deletes
  | .setSize file size => (nonnegative size).map (.resizes file)
  | .preallocate file size => (nonnegative size).map (.preallocates file)
  | .getSize file => (reply.size.bind nonnegative).map (.measures file)
  | .setView file disp etype filetype datarep _ =>
      if stringAt datarep = some native then (fileView disp etype filetype).map (.views file)
      else none
  | .transfer direction _ file offset buffer _ => (offsetPlace offset).map fun offset =>
      .transfers direction file offset buffer.locations

end Library

namespace FileCall

variable (mpi : Mpi) (constants : HandleConstants) (characters : Nat → List UInt8)
variable (interface : Interface) (reply : FileReply)

/-- Returns the output argument, if there is one, and `ierror`. -/
def run : FileCall → FileRun (Int × Int)
  | .open commF filename amodeF infoF =>
      match interface with
      | .addresses =>
          Files.cMpiFileOpen mpi constants reply commF (filename.passedBy interface) amodeF infoF
      | .descriptors =>
          Files.cfiMpiFileOpen mpi constants reply commF (filename.passedBy interface) amodeF infoF
  | .close fileF => Files.cMpiFileClose mpi reply fileF
  | .delete filename infoF => do
      let ierror ← match interface with
        | .addresses => Files.cMpiFileDelete mpi reply (filename.passedBy interface) infoF
        | .descriptors => Files.cfiMpiFileDelete mpi reply (filename.passedBy interface) infoF
      return (0, ierror)
  | .setSize fileF size => do
      let ierror ← Files.cMpiFileSetSize mpi reply fileF (BitVec.ofInt 64 size)
      return (0, ierror)
  | .preallocate fileF size => do
      let ierror ← Files.cMpiFilePreallocate mpi reply fileF (BitVec.ofInt 64 size)
      return (0, ierror)
  | .getSize fileF => do
      let (size, ierror) ← Files.cMpiFileGetSize mpi reply fileF
      return (size.toInt, ierror)
  | .setView fileF disp etypeF filetypeF datarep infoF => do
      let disp := BitVec.ofInt 64 disp
      let ierror ← match interface with
        | .addresses =>
            Files.cMpiFileSetView mpi reply characters fileF disp etypeF filetypeF
              (datarep.passedBy interface) infoF
        | .descriptors =>
            Files.cfiMpiFileSetView mpi reply fileF disp etypeF filetypeF
              (datarep.passedBy interface) infoF
      return (0, ierror)
  | .transfer direction collective fileF offset desc count datatypeF status => do
      let buffer := desc.baseAddr
      let ierror ← match interface, direction, collective, offset.map (BitVec.ofInt 64) with
        | .addresses, .reading, false, some offset =>
            Files.cMpiFileReadAt mpi reply fileF offset buffer count datatypeF status
        | .addresses, .reading, true, some offset =>
            Files.cMpiFileReadAtAll mpi reply fileF offset buffer count datatypeF status
        | .addresses, .writing, false, some offset =>
            Files.cMpiFileWriteAt mpi reply fileF offset buffer count datatypeF status
        | .addresses, .writing, true, some offset =>
            Files.cMpiFileWriteAtAll mpi reply fileF offset buffer count datatypeF status
        | .addresses, .reading, false, none =>
            Files.cMpiFileRead mpi reply fileF buffer count datatypeF status
        | .addresses, .reading, true, none =>
            Files.cMpiFileReadAll mpi reply fileF buffer count datatypeF status
        | .addresses, .writing, false, none =>
            Files.cMpiFileWrite mpi reply fileF buffer count datatypeF status
        | .addresses, .writing, true, none =>
            Files.cMpiFileWriteAll mpi reply fileF buffer count datatypeF status
        | .descriptors, .reading, false, some offset =>
            Files.cfiMpiFileReadAt mpi reply fileF offset desc count datatypeF status
        | .descriptors, .reading, true, some offset =>
            Files.cfiMpiFileReadAtAll mpi reply fileF offset desc count datatypeF status
        | .descriptors, .writing, false, some offset =>
            Files.cfiMpiFileWriteAt mpi reply fileF offset desc count datatypeF status
        | .descriptors, .writing, true, some offset =>
            Files.cfiMpiFileWriteAtAll mpi reply fileF offset desc count datatypeF status
        | .descriptors, .reading, false, none =>
            Files.cfiMpiFileRead mpi reply fileF desc count datatypeF status
        | .descriptors, .reading, true, none =>
            Files.cfiMpiFileReadAll mpi reply fileF desc count datatypeF status
        | .descriptors, .writing, false, none =>
            Files.cfiMpiFileWrite mpi reply fileF desc count datatypeF status
        | .descriptors, .writing, true, none =>
            Files.cfiMpiFileWriteAll mpi reply fileF desc count datatypeF status
      return (0, ierror)

/-- What a successful call means for the files, by what the program sees of it. -/
def succeeds (types : TypeStore) (output : Int) : FileCall → Option FileDeed
  | .open _ filename amodeF _ =>
      some (.opens filename.name (FileMode.access (FileMode.requested amodeF))
        (cMpiFileF2c mpi output))
  | .close fileF => some (.closes (cMpiFileF2c mpi fileF))
  | .delete filename _ => some (.deletes filename.name)
  | .setSize fileF size => (nonnegative size).map (.resizes (cMpiFileF2c mpi fileF))
  | .preallocate fileF size => (nonnegative size).map (.preallocates (cMpiFileF2c mpi fileF))
  | .getSize fileF => (nonnegative output).map (.measures (cMpiFileF2c mpi fileF))
  | .setView fileF disp etypeF filetypeF _ _ =>
      (fileView disp (types.object (cMpiTypeF2c mpi etypeF))
        (types.object (cMpiTypeF2c mpi filetypeF))).map (.views (cMpiFileF2c mpi fileF))
  | .transfer direction _ fileF offset desc count _ _ =>
      (offsetPlace offset).map fun offset =>
        .transfers direction (cMpiFileF2c mpi fileF) offset (desc.elementBytes count)

/-- What the program finds in the output argument of a call. -/
def output (reply : FileReply) : FileCall → Int
  | .open _ _ _ _ | .close _ => mpi.c2f .file reply.handle
  | .getSize _ => reply.size.getD (-1)
  | _ => 0

/-- What the library is given for the name of a data representation. -/
def representation (datarep : FortranString) : List UInt8 :=
  match interface with
  | .addresses => characters (LittleEndian.value ((datarep.passedBy interface).take 8))
  | .descriptors => datarep.passedBy interface

/-- What the library is asked for. -/
def asked (types : TypeStore) (statusIgnore : Int) : FileCall → FileRequest
  | .open commF filename amodeF infoF =>
      .open (cMpiCommF2c mpi commF) (filename.passedBy interface)
        (cMpiTranslateAmode constants amodeF) (cMpiInfoF2c mpi infoF)
  | .close fileF => .close (cMpiFileF2c mpi fileF)
  | .delete filename infoF => .delete (filename.passedBy interface) (cMpiInfoF2c mpi infoF)
  | .setSize fileF size => .setSize (cMpiFileF2c mpi fileF) size
  | .preallocate fileF size => .preallocate (cMpiFileF2c mpi fileF) size
  | .getSize fileF => .getSize (cMpiFileF2c mpi fileF)
  | .setView fileF disp etypeF filetypeF datarep infoF =>
      .setView (cMpiFileF2c mpi fileF) disp (types.object (cMpiTypeF2c mpi etypeF))
        (types.object (cMpiTypeF2c mpi filetypeF)) (representation characters interface datarep)
        (cMpiInfoF2c mpi infoF)
  | .transfer direction collective fileF offset desc count datatypeF status =>
      .transfer direction collective (cMpiFileF2c mpi fileF) offset
        (types.buffer desc.baseAddr count (cMpiTypeF2c mpi datatypeF))
        (.ofArgument (if status = statusIgnore then mpi.statusIgnore else status))

/-- Descriptors are only transferred where they lie. -/
def Transferable : FileCall → Prop
  | .transfer _ _ _ _ desc _ _ _ => interface = .descriptors → mpi.cfiIsContiguous desc = 1
  | _ => True

/-- For a view that it sets, the library finds the name of the data representation: in a name that
is passed by address it looks for one at the address that the characters make. -/
def Represented : FileCall → Prop
  | .setView _ _ _ _ datarep _ => reply.rc = mpi.errorClass .success →
      stringAt (representation characters interface datarep) = some datarep.name
  | _ => True

structure Passable (fileCall : FileCall) : Prop where
  transferable : fileCall.Transferable mpi interface
  represented : fileCall.Represented mpi characters interface reply

/-- `integer(kind=MPI_OFFSET_KIND)` -/
def Offset (value : Int) : Prop := -2 ^ 63 ≤ value ∧ value < 2 ^ 63

/-- A name that C finds the end of. -/
def Named (filename : FortranString) : Prop := interface = .addresses → nul ∈ filename.chars

/-- Arguments as the routines take them, and an answer that the library can give. -/
def Valid (types : TypeStore) : FileCall → Prop
  | .open _ filename _ _ => Named interface filename ∧
      (reply.rc = mpi.errorClass .success →
        cMpiFileF2c mpi (mpi.c2f .file reply.handle) = reply.handle)
  | .close _ => True
  | .delete filename _ => Named interface filename
  | .setSize _ size | .preallocate _ size => Offset size
  | .getSize _ => (∀ size ∈ reply.size, Offset size) ∧
      (reply.size = none ↔ reply.rc ≠ mpi.errorClass .success)
  | .setView _ disp _ _ datarep _ => Offset disp ∧
      (reply.rc = mpi.errorClass .success → datarep.name = native)
  | .transfer _ _ _ offset desc count datatypeF _ => (∀ value ∈ offset, Offset value) ∧
      desc.Matches mpi types (cMpiTypeF2c mpi datatypeF) count ∧
      (interface = .addresses → desc.Consecutive count)

end FileCall

section Modes

variable {constants : HandleConstants} {amodeF : Int}

/-- One bit after another, the library's bit of a mode is set where the mode is requested. -/
theorem getLsbD_foldl_modes {bit : FileMode → Nat} (injective : Function.Injective bit)
    (own : ∀ mode, bit mode < 32 ∧
      BitVec.ofInt 32 (constants.mode mode) = BitVec.twoPow 32 (bit mode))
    (mode : FileMode) (entries : List (FileMode × Nat)) (start : BitVec 32) :
    (entries.foldl (fun (c : BitVec 32) (other, vapaa) =>
        if BitVec.ofInt 32 amodeF &&& BitVec.ofNat 32 vapaa ≠ 0 then
          c ||| BitVec.ofInt 32 (constants.mode other)
        else c) start).getLsbD (bit mode) =
      (start.getLsbD (bit mode) || entries.any fun (other, vapaa) =>
        other = mode ∧ BitVec.ofInt 32 amodeF &&& BitVec.ofNat 32 vapaa ≠ 0) := by
  induction entries generalizing start with
  | nil => simp
  | cons entry entries ih =>
      obtain ⟨other, vapaa⟩ := entry
      rw [List.foldl_cons, ih, List.any_cons]
      by_cases given : BitVec.ofInt 32 amodeF &&& BitVec.ofNat 32 vapaa ≠ 0
      · simp only [if_pos given, BitVec.getLsbD_or, (own other).2, BitVec.getLsbD_twoPow,
          Bool.or_assoc]
        congr 2
        simp only [(own other).1, injective.eq_iff, decide_true, Bool.true_and]
        exact decide_eq_decide.mpr (and_iff_left given).symm
      · have absent := not_not.mp given
        simp [absent]

/-- The modes that the library understands are those that were requested. -/
theorem understood_cMpiTranslateAmode (bits : constants.ModeBits) (mode : FileMode) :
    FileMode.understood constants (cMpiTranslateAmode constants amodeF) mode =
      FileMode.requested amodeF mode := by
  obtain ⟨bit, injective, own⟩ := bits
  have folded := @getLsbD_foldl_modes constants amodeF bit injective own mode FileMode.table 0
  have clear : (0 : BitVec 32).getLsbD (bit mode) = false := BitVec.getLsbD_zero
  rw [clear, Bool.false_or] at folded
  rw [FileMode.understood, cMpiTranslateAmode, BitVec.ofInt_toInt, (own mode).2,
    BitVec.and_twoPow, FileMode.requested, ← folded]
  split
  · rename_i given
    rw [given]
    have nonzero : BitVec.twoPow 32 (bit mode) ≠ 0 := by
      intro zero
      have set := @BitVec.getLsbD_twoPow 32 (bit mode) (bit mode)
      rw [zero, clear] at set
      simp [(own mode).1] at set
    exact decide_eq_true nonzero
  · rename_i absent
    rw [Bool.not_eq_true] at absent
    rw [absent]
    rfl

end Modes

section Calls

variable {mpi : Mpi} {constants : HandleConstants} {characters : Nat → List UInt8}
variable {interface : Interface} {reply : FileReply}
variable {state : Filing} {types : TypeStore} {fileCall : FileCall}

private theorem takeWhile_append_cons {α : Type} {p : α → Bool} {last : α} (stops : p last = false)
    (chars rest : List α) : (chars ++ last :: rest).takeWhile p = chars.takeWhile p := by
  induction chars with
  | nil => simp [stops]
  | cons char chars ih =>
      rw [List.cons_append, List.takeWhile_cons, List.takeWhile_cons, ih]

private theorem stringAt_append (chars rest : List UInt8) :
    stringAt (chars ++ nul :: rest) = some (chars.takeWhile fun char => char ≠ nul) := by
  have within : nul ∈ chars ++ nul :: rest := by simp
  rw [stringAt, cString, if_pos within, takeWhile_append_cons (by simp)]

/-- A name reaches the library as far as its first character that C takes for the end. -/
theorem stringAt_passedBy {filename : FortranString} (named : FileCall.Named interface filename) :
    stringAt (filename.passedBy interface) = some filename.name := by
  obtain ⟨chars, following⟩ := filename
  cases interface with
  | addresses =>
      obtain ⟨first, rest, rfl⟩ := List.append_of_mem (named rfl)
      have found := stringAt_append first (rest ++ following)
      rw [FortranString.passedBy, FortranString.inPlace, FortranString.name,
        takeWhile_append_cons (by simp), List.append_assoc]
      exact found
  | descriptors =>
      rw [FortranString.passedBy, FortranString.copied_eq]
      exact stringAt_append chars []

theorem FileCall.Offset.converts {value : Int} (inside : FileCall.Offset value) :
    mpiOffset (BitVec.ofInt 64 value) = value :=
  BitVec.toInt_ofInt_eq_self (by decide) inside.1 inside.2

/-- The state after a request. -/
def Filing.asking (state : Filing) (request : FileRequest) : Filing :=
  { state with requests := state.requests ++ [request] }

/-- The state after a call that has reached datatypes and warnings only. -/
def Filing.reported (state : Filing) (world : World) : Filing :=
  { state with process := { state.process with world := world } }

private theorem onFiling_rcFix {rc : Int} (coded : mpi.Codes rc) (state : Filing) :
    ∃ ierror world, onFiling (call (cMpiRcFix mpi rc)) state =
        .returned (ierror, state.reported world) ∧
      world.types = state.process.world.types := by
  obtain ⟨ierror, world, returned, kept⟩ := @cMpiRcFix_returned mpi state.process.world rc coded
  exact ⟨ierror, world, Run.zoom_of_returned (call_of_returned returned), kept⟩

private theorem onFiling_handBack (coded : mpi.Codes reply.rc) (state : Filing) :
    ∃ ierror world, onFiling (call (handBack mpi .file reply.handleReply)) state =
        .returned ((mpi.c2f .file reply.handle, ierror), state.reported world) ∧
      world.types = state.process.world.types := by
  obtain ⟨ierror, world, returned, kept⟩ := @cMpiRcFix_returned mpi state.process.world _ coded
  refine ⟨ierror, world, Run.zoom_of_returned (call_of_returned ?_), kept⟩
  exact Run.bind_of_returned returned

private theorem onFiling_statusArgument (status : Int) (state : Filing) :
    onFiling (statusArgument mpi status) state =
      .returned (.ofArgument (if status = state.process.sentinels.statusIgnore then mpi.statusIgnore
        else status), state) := by
  have chosen := statusArgument_apply mpi status state.process
  rw [← apply_ite StatusPointer.ofArgument] at chosen
  exact Run.zoom_of_returned chosen

/-- A call returns what the library has answered, and has asked it once. -/
def FileCall.Asks (run : FileRun (Int × Int)) (output : Int) (state : Filing)
    (request : FileRequest) : Prop :=
  ∃ ierror world, run state = .returned ((output, ierror), (state.asking request).reported world) ∧
    world.types = state.process.world.types

/-- A wrapper that asks the library and converts its code. -/
theorem FileCall.asks_of_convert {request : FileRequest} {run : FileRun Int}
    (coded : mpi.Codes reply.rc)
    (asks : run state = (onFiling (call (cMpiRcFix mpi reply.rc))) (state.asking request)) :
    FileCall.Asks (do let ierror ← run; return (0, ierror)) 0 state request := by
  obtain ⟨ierror, world, returned, kept⟩ := onFiling_rcFix coded (state.asking request)
  exact ⟨ierror, world, Run.bind_of_returned (asks.trans returned), kept⟩

private theorem cTransfer_asks {direction : Direction} {collective : Bool} {fileF : Int}
    {offset : Option Int} {offsetF : Option SizeT} {buffer count datatypeF status : Int}
    (places : offsetF.map mpiOffset = offset) :
    Files.cTransfer mpi direction collective reply fileF offsetF buffer count datatypeF status state =
      onFiling (call (cMpiRcFix mpi reply.rc)) (state.asking
        (.transfer direction collective (cMpiFileF2c mpi fileF) offset
          (state.process.world.types.buffer buffer count (cMpiTypeF2c mpi datatypeF))
          (.ofArgument (if status = state.process.sentinels.statusIgnore then mpi.statusIgnore
            else status)))) := by
  unfold Files.cTransfer
  rw [Run.bind_of_returned (onFiling_statusArgument status state), ← places]
  rfl

/-- A transfer, by any of the wrappers, with an address or a descriptor. -/
theorem FileCall.transfer_eq {direction : Direction} {collective : Bool} {fileF : Int}
    {offset : Option Int} {desc : CDesc} {count : Nat} {datatypeF status : Int} :
    (FileCall.transfer direction collective fileF offset desc count datatypeF status).run mpi
        constants characters interface reply =
      (match interface with
        | .addresses => Files.cTransfer mpi direction collective reply fileF
            (offset.map (BitVec.ofInt 64)) desc.baseAddr count datatypeF status
        | .descriptors => Files.cfiTransfer mpi direction collective reply fileF
            (offset.map (BitVec.ofInt 64)) desc count datatypeF status) >>= fun ierror =>
        pure (0, ierror) := by
  cases interface <;> cases direction <;> cases collective <;> cases offset <;> rfl

/-- A call that can be passed on is, and returns what the library answers. -/
theorem FileCall.run_asks (coded : mpi.Codes reply.rc)
    (valid : fileCall.Valid mpi interface reply types)
    (transferable : fileCall.Transferable mpi interface) :
    FileCall.Asks (fileCall.run mpi constants characters interface reply)
      (fileCall.output mpi reply) state
      (fileCall.asked mpi constants characters interface state.process.world.types
        state.process.sentinels.statusIgnore) := by
  cases fileCall with
  | «open» commF filename amodeF infoF =>
      obtain ⟨ierror, world, returned, kept⟩ := onFiling_handBack coded (state.asking
        (.open (cMpiCommF2c mpi commF) (filename.passedBy interface)
          (cMpiTranslateAmode constants amodeF) (cMpiInfoF2c mpi infoF)))
      refine ⟨ierror, world, ?_, kept⟩
      cases interface <;> exact returned
  | close fileF =>
      obtain ⟨ierror, world, returned, kept⟩ := onFiling_handBack coded
        (state.asking (.close (cMpiFileF2c mpi fileF)))
      exact ⟨ierror, world, returned, kept⟩
  | delete filename infoF =>
      cases interface <;> exact FileCall.asks_of_convert coded rfl
  | setSize fileF size =>
      have asks : FileCall.Asks
          ((FileCall.setSize fileF size).run mpi constants characters interface reply) 0 state
          (.setSize (cMpiFileF2c mpi fileF) (mpiOffset (BitVec.ofInt 64 size))) :=
        FileCall.asks_of_convert coded rfl
      rw [FileCall.Offset.converts valid] at asks
      exact asks
  | preallocate fileF size =>
      have asks : FileCall.Asks
          ((FileCall.preallocate fileF size).run mpi constants characters interface reply) 0 state
          (.preallocate (cMpiFileF2c mpi fileF) (mpiOffset (BitVec.ofInt 64 size))) :=
        FileCall.asks_of_convert coded rfl
      rw [FileCall.Offset.converts valid] at asks
      exact asks
  | getSize fileF =>
      have inside : FileCall.Offset (reply.size.getD (-1)) := by
        cases stored : reply.size with
        | none => exact ⟨by decide, by decide⟩
        | some size => exact valid.1 size stored
      have output : (BitVec.ofInt 64 (reply.size.getD (-1))).toInt = reply.size.getD (-1) :=
        inside.converts
      obtain ⟨ierror, world, returned, kept⟩ := onFiling_rcFix coded
        (state.asking (.getSize (cMpiFileF2c mpi fileF)))
      refine ⟨ierror, world, ?_, kept⟩
      have gets : Files.cMpiFileGetSize mpi reply fileF state =
          .returned ((BitVec.ofInt 64 (reply.size.getD (-1)), ierror), _) :=
        (Run.bind_of_returned rfl).trans (Run.bind_of_returned returned)
      refine (Run.bind_of_returned gets).trans ?_
      dsimp only
      rw [output]
      rfl
  | setView fileF disp etypeF filetypeF datarep infoF =>
      have asks : FileCall.Asks
          ((FileCall.setView fileF disp etypeF filetypeF datarep infoF).run mpi constants
            characters interface reply) 0 state
          (.setView (cMpiFileF2c mpi fileF) (mpiOffset (BitVec.ofInt 64 disp))
            (state.process.world.types.object (cMpiTypeF2c mpi etypeF))
            (state.process.world.types.object (cMpiTypeF2c mpi filetypeF))
            (FileCall.representation characters interface datarep) (cMpiInfoF2c mpi infoF)) := by
        cases interface <;> exact FileCall.asks_of_convert coded rfl
      rw [FileCall.Offset.converts valid.1] at asks
      exact asks
  | transfer direction collective fileF offset desc count datatypeF status =>
      have places : (offset.map (BitVec.ofInt 64)).map mpiOffset = offset := by
        cases offset with
        | none => rfl
        | some value => exact congrArg some (valid.1 value rfl).converts
      rw [FileCall.transfer_eq]
      cases interface with
      | addresses =>
          exact FileCall.asks_of_convert coded (cTransfer_asks places)
      | descriptors =>
          have same : Files.cfiTransfer mpi direction collective reply fileF
              (offset.map (BitVec.ofInt 64)) desc count datatypeF status =
            Files.cTransfer mpi direction collective reply fileF (offset.map (BitVec.ofInt 64))
              desc.baseAddr count datatypeF status := if_pos (transferable rfl)
          exact FileCall.asks_of_convert coded
            ((congrFun same state).trans (cTransfer_asks places))

theorem FileCall.transferable_of_returned {result : Int × Int} {final : Filing}
    (returned : fileCall.run mpi constants characters interface reply state =
      .returned (result, final)) : fileCall.Transferable mpi interface := by
  cases fileCall with
  | transfer direction collective fileF offset desc count datatypeF status =>
      intro described
      cases described
      by_contra scattered
      have aborts : Files.cfiTransfer mpi direction collective reply fileF
          (offset.map (BitVec.ofInt 64)) desc count datatypeF status state = .aborted := by
        unfold Files.cfiTransfer
        rw [if_neg scattered]
        rfl
      simp only [FileCall.transfer_eq, Run.bind_apply, aborts] at returned
      cases returned
  | «open» | close | delete | setSize | preallocate | getSize | setView => trivial

/-- A view that the library has set has the name that it was meant to have. -/
theorem FileCall.represented_of_understood {statusIgnore : Int} {deed : FileDeed}
    (valid : fileCall.Valid mpi interface reply types)
    (understands : (fileCall.asked mpi constants characters interface types
      statusIgnore).understood mpi constants reply = some deed) :
    fileCall.Represented mpi characters interface reply := by
  cases fileCall with
  | setView fileF disp etypeF filetypeF datarep infoF =>
      intro success
      unfold FileRequest.understood at understands
      rw [if_neg (not_not.mpr success)] at understands
      obtain ⟨found, -⟩ := Option.ite_none_right_eq_some.mp understands
      rw [found, valid.2 success]
  | «open» | close | delete | setSize | preallocate | getSize | transfer => trivial

end Calls

/-- What an event means for the files: nothing, if the library has refused the call. -/
def FileEvent.meaning (mpi : Mpi) (types : TypeStore) (event : FileEvent) : Option FileDeed :=
  if event.reply.rc ≠ mpi.errorClass .success then some .refused
  else event.fileCall.succeeds mpi types event.output

section Understanding

variable {mpi : Mpi} {constants : HandleConstants} {characters : Nat → List UInt8}
variable {interface : Interface} {reply : FileReply}
variable {types : TypeStore} {fileCall : FileCall} {statusIgnore : Int}

/-- The library understands a call as it is meant. -/
theorem FileCall.understood_asked (bits : constants.ModeBits)
    (valid : fileCall.Valid mpi interface reply types)
    (passable : fileCall.Passable mpi characters interface reply) :
    (fileCall.asked mpi constants characters interface types statusIgnore).understood mpi
        constants reply =
      FileEvent.meaning mpi types ⟨fileCall, reply, fileCall.output mpi reply⟩ := by
  unfold FileRequest.understood FileEvent.meaning
  by_cases refused : reply.rc ≠ mpi.errorClass .success
  · rw [if_pos refused, if_pos refused]
  · rw [if_neg refused, if_neg refused]
    have success := not_not.mp refused
    cases fileCall with
    | «open» commF filename amodeF infoF =>
        have modes : FileMode.understood constants (cMpiTranslateAmode constants amodeF) =
            FileMode.requested amodeF := funext (understood_cMpiTranslateAmode bits)
        simp only [FileCall.asked, FileCall.succeeds, stringAt_passedBy valid.1, modes,
          FileCall.output, valid.2 success, Option.map_some]
    | close fileF => rfl
    | delete filename infoF =>
        simp only [FileCall.asked, FileCall.succeeds, stringAt_passedBy valid, Option.map_some]
    | setSize fileF size => rfl
    | preallocate fileF size => rfl
    | getSize fileF =>
        cases stored : reply.size with
        | none => exact absurd (valid.2.mp stored) refused
        | some size =>
            simp only [FileCall.asked, FileCall.succeeds, FileCall.output, stored]
            rfl
    | setView fileF disp etypeF filetypeF datarep infoF =>
        have found : stringAt (FileCall.representation characters interface datarep) =
            some native := by
          rw [passable.represented success, valid.2 success]
        exact if_pos found
    | transfer direction collective fileF offset desc count datatypeF status =>
        have consecutive : desc.Consecutive count := by
          cases interface with
          | addresses => exact valid.2.2 rfl
          | descriptors => exact valid.2.1.consecutive (passable.transferable rfl)
        simp only [FileCall.asked, FileCall.succeeds,
          (valid.2.1.carries_iff.mpr consecutive).locations_eq]

end Understanding

section Runs

/-- A transfer between a file and a section, with the view and the pointer of its handle. -/
structure FileTransfer where
  collective : Bool
  fileF : Int
  offset : Option Int
  desc : CDesc
  count : Nat
  datatypeF : Int
  status : Int
  reply : FileReply

def FileTransfer.toEvent (transfer : FileTransfer) (direction : Direction) : FileEvent where
  fileCall := .transfer direction transfer.collective transfer.fileF transfer.offset transfer.desc
    transfer.count transfer.datatypeF transfer.status
  reply := transfer.reply
  output := 0

/-- The bytes of a section, in array element order. -/
def FileTransfer.bytes (transfer : FileTransfer) : List Int :=
  transfer.desc.elementBytes transfer.count

/-- The places of the file that a transfer reaches. -/
def FileTransfer.places (transfer : FileTransfer) (file : OpenFile (List UInt8)) : List Nat :=
  FileState.places file (transfer.offset.map Int.toNat) transfer.bytes.length

/-- The files and the memory that calls act on. -/
def Filing.fileState (state : Filing) : FileState (List UInt8) Int Int UInt8 where
  files := state.files
  handles := state.handles
  memory := state.process.memory

def Filing.withFileState (state : Filing) (after : FileState (List UInt8) Int Int UInt8) : Filing :=
  { state with
    files := after.files
    handles := after.handles
    process := { state.process with memory := after.memory } }

/-- A call returns, and the library has done what it was asked for. -/
inductive Filing.Step (mpi : Mpi) (constants : HandleConstants) (characters : Nat → List UInt8)
    (interface : Interface) (fill : Nat → UInt8) : Filing → FileEvent → Filing → Prop where
  | intro {state returned : Filing} {event : FileEvent} {ierror : Int} {request : FileRequest}
      {deed : FileDeed} {after : FileState (List UInt8) Int Int UInt8}
      (returns : event.fileCall.run mpi constants characters interface event.reply state =
        .returned ((event.output, ierror), returned))
      (asks : returned.requests = state.requests ++ [request])
      (understands : request.understood mpi constants event.reply = some deed)
      (does : returned.fileState.step fill deed = some after) :
      Step mpi constants characters interface fill state event (returned.withFileState after)

inductive Filing.Runs (mpi : Mpi) (constants : HandleConstants) (characters : Nat → List UInt8)
    (interface : Interface) (fill : Nat → UInt8) : Filing → List FileEvent → Filing → Prop where
  | nil {state : Filing} : Runs mpi constants characters interface fill state [] state
  | cons {state next last : Filing} {event : FileEvent} {events : List FileEvent}
      (step : Filing.Step mpi constants characters interface fill state event next)
      (rest : Runs mpi constants characters interface fill next events last) :
      Runs mpi constants characters interface fill state (event :: events) last

def FileEvent.Passable (mpi : Mpi) (characters : Nat → List UInt8) (interface : Interface)
    (event : FileEvent) : Prop :=
  event.fileCall.Passable mpi characters interface event.reply

/-- An answer that the library can give to a call, and the output that the program finds. -/
structure FileEvent.Valid (mpi : Mpi) (interface : Interface) (types : TypeStore)
    (event : FileEvent) : Prop where
  coded : mpi.Codes event.reply.rc
  fileCall : event.fileCall.Valid mpi interface event.reply types
  output : event.output = event.fileCall.output mpi event.reply

variable {mpi : Mpi} {constants : HandleConstants} {characters : Nat → List UInt8}
variable {interface : Interface} {fill : Nat → UInt8}
variable {state next last : Filing} {event : FileEvent} {events : List FileEvent}
variable {after final : FileState (List UInt8) Int Int UInt8} {deed : FileDeed}

theorem FileEvent.Valid.understood (bits : constants.ModeBits)
    (valid : event.Valid mpi interface state.process.world.types)
    (passable : event.Passable mpi characters interface) :
    (event.fileCall.asked mpi constants characters interface state.process.world.types
        state.process.sentinels.statusIgnore).understood mpi constants event.reply =
      event.meaning mpi state.process.world.types := by
  rw [FileCall.understood_asked bits valid.fileCall passable, ← valid.output]

/-- A step is what its event means. -/
theorem Filing.Step.happens (bits : constants.ModeBits)
    (valid : event.Valid mpi interface state.process.world.types)
    (step : state.Step mpi constants characters interface fill event next) :
    event.Passable mpi characters interface ∧
      next.process.world.types = state.process.world.types ∧
      ∃ deed, event.meaning mpi state.process.world.types = some deed ∧
        state.fileState.step fill deed = some next.fileState := by
  cases step with
  | intro returns asks understands does =>
      have transferable := FileCall.transferable_of_returned returns
      obtain ⟨code, world, again, kept⟩ :=
        @FileCall.run_asks mpi constants characters interface event.reply state _ event.fileCall
          valid.coded valid.fileCall transferable
      rw [returns] at again
      obtain ⟨-, rfl⟩ := Prod.mk.inj (Outcome.returned.inj again)
      obtain rfl := List.singleton_inj.mp (List.append_cancel_left asks)
      have passable : event.Passable mpi characters interface :=
        ⟨transferable, FileCall.represented_of_understood valid.fileCall understands⟩
      rw [valid.understood bits passable] at understands
      exact ⟨passable, kept, _, understands, does⟩

/-- The library can do what an event means. -/
theorem FileEvent.steps (bits : constants.ModeBits)
    (valid : event.Valid mpi interface state.process.world.types)
    (passable : event.Passable mpi characters interface)
    (means : event.meaning mpi state.process.world.types = some deed)
    (does : state.fileState.step fill deed = some after) :
    ∃ next, state.Step mpi constants characters interface fill event next ∧ next.fileState = after ∧
      next.process.world.types = state.process.world.types := by
  obtain ⟨ierror, world, returned, kept⟩ :=
    @FileCall.run_asks mpi constants characters interface event.reply state _ event.fileCall
      valid.coded valid.fileCall passable.transferable
  rw [← valid.output] at returned
  refine ⟨_, .intro returned rfl ?_ does, rfl, kept⟩
  rw [valid.understood bits passable, means]

theorem Filing.Runs.happens {types : TypeStore} (bits : constants.ModeBits)
    (same : state.process.world.types = types)
    (valid : ∀ event ∈ events, event.Valid mpi interface types)
    (runs : state.Runs mpi constants characters interface fill events last) :
    (∀ event ∈ events, event.Passable mpi characters interface) ∧
      last.process.world.types = types ∧
      ∃ deeds, events.mapM (FileEvent.meaning mpi types) = some deeds ∧
        state.fileState.run fill deeds = some last.fileState := by
  induction runs with
  | nil => exact ⟨by simp, same, [], rfl, rfl⟩
  | @cons state next last event events step rest ih =>
      obtain ⟨passable, kept, deed, means, does⟩ :=
        step.happens bits (same ▸ valid event List.mem_cons_self)
      obtain ⟨others, finally_, deeds, mean, finishes⟩ := ih (kept.trans same)
        fun other member => valid other (List.mem_cons_of_mem _ member)
      rw [same] at means
      refine ⟨?_, finally_, deed :: deeds, ?_, ?_⟩
      · intro other member
        cases List.mem_cons.mp member with
        | inl here => exact here ▸ passable
        | inr among => exact others other among
      · simp [List.mapM_cons, means, mean]
      · rw [FileState.run, List.foldlM_cons, does]
        exact finishes

theorem Filing.runs_of_meant {types : TypeStore} {deeds : List FileDeed}
    (bits : constants.ModeBits) (same : state.process.world.types = types)
    (valid : ∀ event ∈ events, event.Valid mpi interface types)
    (passable : ∀ event ∈ events, event.Passable mpi characters interface)
    (mean : events.mapM (FileEvent.meaning mpi types) = some deeds)
    (ran : state.fileState.run fill deeds = some final) :
    ∃ last, state.Runs mpi constants characters interface fill events last ∧
      last.fileState = final := by
  induction events generalizing state deeds with
  | nil =>
      cases mean
      cases ran
      exact ⟨state, .nil, rfl⟩
  | cons event events ih =>
      rw [List.mapM_cons] at mean
      obtain ⟨deed, means, rest⟩ := Option.bind_eq_some_iff.mp mean
      obtain ⟨others, meant, made⟩ := Option.bind_eq_some_iff.mp rest
      cases made
      obtain ⟨after, does, finishes⟩ := FileState.run_cons ran
      obtain ⟨next, step, rfl, kept⟩ := FileEvent.steps bits
        (same.symm ▸ valid event List.mem_cons_self) (passable event List.mem_cons_self)
        (same.symm ▸ means) does
      obtain ⟨last, follows, ends⟩ := ih (kept.trans same)
        (fun other member => valid other (List.mem_cons_of_mem _ member))
        (fun other member => passable other (List.mem_cons_of_mem _ member)) meant finishes
      exact ⟨last, .cons step follows, ends⟩

/-- Programs on files run as they are meant: names as far as their end, modes, offsets and sizes as
they are given, and the elements of sections in array element order. A run exists exactly where
every section that is transferred by a descriptor lies contiguous, and the library finds the name of
the data representation of each view that is set. -/
theorem fileRuns_iff (bits : constants.ModeBits)
    (valid : ∀ event ∈ events, event.Valid mpi interface state.process.world.types) :
    (∃ last, state.Runs mpi constants characters interface fill events last ∧
        last.fileState = final) ↔
      (∀ event ∈ events, event.Passable mpi characters interface) ∧
        ∃ deeds, events.mapM (FileEvent.meaning mpi state.process.world.types) = some deeds ∧
          state.fileState.run fill deeds = some final := by
  constructor
  · rintro ⟨last, runs, rfl⟩
    obtain ⟨passable, -, meant⟩ := runs.happens bits rfl valid
    exact ⟨passable, meant⟩
  · rintro ⟨passable, deeds, mean, ran⟩
    exact Filing.runs_of_meant bits rfl valid passable mean ran

variable {transfer : FileTransfer} {direction : Direction}

private theorem offsetPlace_eq_some {offset : Option Int} {place : Option Nat}
    (found : offsetPlace offset = some place) : place = offset.map Int.toNat := by
  cases offset with
  | none =>
      cases found
      rfl
  | some value =>
      rw [offsetPlace, nonnegative] at found
      split at found
      · cases found
        rfl
      · cases found

theorem FileTransfer.meaning_eq_some {types : TypeStore}
    (success : transfer.reply.rc = mpi.errorClass .success)
    (means : (transfer.toEvent direction).meaning mpi types = some deed) :
    deed = .transfers direction (cMpiFileF2c mpi transfer.fileF) (transfer.offset.map Int.toNat)
      transfer.bytes := by
  have done : ¬ (transfer.toEvent direction).reply.rc ≠ mpi.errorClass .success := not_not.mpr success
  rw [FileEvent.meaning, if_neg done] at means
  obtain ⟨place, found, made⟩ := Option.map_eq_some_iff.mp means
  rw [← made, offsetPlace_eq_some found]
  rfl

/-- What a program writes it reads back wherever it reads the same places of the file, through any
handles and views and with or without offsets, if no call in between has changed them. -/
theorem files_read_back {types : TypeStore} {written later : Filing}
    {between : List FileEvent} {deeds : List FileDeed} {writing reading : FileTransfer}
    {file otherFile : OpenFile (List UInt8)} (bits : constants.ModeBits)
    (same : state.process.world.types = types)
    (valid : (writing.toEvent .writing).Valid mpi interface types)
    (validBetween : ∀ event ∈ between, event.Valid mpi interface types)
    (validAgain : (reading.toEvent .reading).Valid mpi interface types)
    (wrote : writing.reply.rc = mpi.errorClass .success)
    (read : reading.reply.rc = mpi.errorClass .success)
    (first : state.Step mpi constants characters interface fill (writing.toEvent .writing) written)
    (runs : written.Runs mpi constants characters interface fill between later)
    (again : later.Step mpi constants characters interface fill (reading.toEvent .reading) last)
    (opened : state.fileState.lookup (cMpiFileF2c mpi writing.fileF) = some file)
    (openedAgain : later.fileState.lookup (cMpiFileF2c mpi reading.fileF) = some otherFile)
    (sameFile : otherFile.name = file.name)
    (samePlaces : reading.places otherFile = writing.places file)
    (mean : between.mapM (FileEvent.meaning mpi types) = some deeds)
    (spared : ∀ place ∈ writing.places file,
      FileState.SparedRun fill file.name place written.fileState deeds)
    (distinct : reading.bytes.Nodup) :
    reading.bytes.map last.process.memory = writing.bytes.map state.process.memory := by
  obtain ⟨-, kept, deed, means, writes⟩ := first.happens bits (same.symm ▸ valid)
  obtain rfl := FileTransfer.meaning_eq_some wrote means
  obtain ⟨-, keeps, others, meant, ran⟩ := runs.happens bits (kept.trans same) validBetween
  rw [mean] at meant
  cases meant
  obtain ⟨-, -, lastDeed, meansAgain, reads⟩ := again.happens bits (keeps.symm ▸ validAgain)
  obtain rfl := FileTransfer.meaning_eq_some read meansAgain
  exact FileState.read_back writes opened ran spared reads openedAgain sameFile samePlaces distinct

/-- A call that opens a file opens it only for reading, and no call deletes it. -/
def FileEvent.OnlyReads (name : List UInt8) (event : FileEvent) : Prop :=
  match event.fileCall with
  | .open _ filename amodeF _ => filename.name = name →
      ∀ mode ∈ [FileMode.wronly, .rdwr, .deleteOnClose], FileMode.requested amodeF mode = false
  | .delete filename _ => filename.name ≠ name
  | _ => True

theorem FileEvent.OnlyReads.means {name : List UInt8} {types : TypeStore}
    (reads : event.OnlyReads name) (means : event.meaning mpi types = some deed) :
    deed.OnlyReads name := by
  rw [FileEvent.meaning] at means
  split at means
  · cases means
    trivial
  · obtain ⟨fileCall, reply, output⟩ := event
    cases fileCall with
    | «open» commF filename amodeF infoF =>
        cases means
        intro named
        have without := reads named
        simp only [FileMode.access, without .wronly (by simp), without .rdwr (by simp),
          without .deleteOnClose (by simp), Bool.or_self, and_self]
    | delete filename infoF =>
        cases means
        exact reads
    | close fileF =>
        cases means
        trivial
    | setSize fileF size | preallocate fileF size | getSize fileF
    | setView fileF disp etypeF filetypeF datarep infoF
    | transfer direction collective fileF offset desc count datatypeF status =>
        obtain ⟨_, -, rfl⟩ := Option.map_eq_some_iff.mp means
        trivial

theorem FileEvent.onlyReads_deeds {name : List UInt8} {types : TypeStore} {deeds : List FileDeed}
    (reads : ∀ event ∈ events, event.OnlyReads name)
    (mean : events.mapM (FileEvent.meaning mpi types) = some deeds) :
    ∀ deed ∈ deeds, FileAction.OnlyReads name deed := by
  induction events generalizing deeds with
  | nil =>
      cases mean
      simp
  | cons event events ih =>
      rw [List.mapM_cons] at mean
      obtain ⟨deed, means, rest⟩ := Option.bind_eq_some_iff.mp mean
      obtain ⟨others, meant, made⟩ := Option.bind_eq_some_iff.mp rest
      cases made
      intro other member
      cases List.mem_cons.mp member with
      | inl same => exact same ▸ (reads event List.mem_cons_self).means means
      | inr among =>
          exact ih (fun event member => reads event (List.mem_cons_of_mem _ member)) meant other among

/-- A file that a program opens with `MPI_MODE_RDONLY` only, and does not delete, stays as it is,
whatever the program does with it and with other files. -/
theorem files_onlyRead {name content : List UInt8} (bits : constants.ModeBits)
    (valid : ∀ event ∈ events, event.Valid mpi interface state.process.world.types)
    (only : state.fileState.OnlyRead name) (stored : state.files name = some content)
    (reads : ∀ event ∈ events, event.OnlyReads name)
    (runs : state.Runs mpi constants characters interface fill events last) :
    last.files name = some content := by
  obtain ⟨-, -, deeds, mean, ran⟩ := runs.happens bits rfl valid
  exact only.run stored (FileEvent.onlyReads_deeds reads mean) ran

end Runs

section Samples

private theorem mpichHandles_modeBits : mpichHandles.ModeBits := by
  refine ⟨fun mode => (mpichHandles.mode mode).toNat.log2, ?_, ?_⟩
  · intro mode other same
    cases mode <;> cases other <;> first | rfl | exact absurd same (by decide)
  · intro mode
    cases mode <;> exact ⟨by decide, by decide⟩

/-- No address holds characters. -/
def unmapped : Nat → List UInt8 := fun _ => []

def dataName : FortranString where
  chars := [100, 97, 116, 97]
  following := []

/-- Nothing is open, and there is a file of three bytes. -/
def threeBytes : Filing where
  process := { startProcess with memory := fun location => UInt8.ofNat location.toNat }
  files := fun name => if name = dataName.name then some [1, 2, 3] else none
  handles := []
  requests := []

def fileAnswer (handle : Int) (size : Option Int) : FileReply where
  rc := 0
  handle := handle
  size := size

/-- The file is opened, as `amodeF` asks for. -/
def openData (amodeF : Int) : FileEvent where
  fileCall := .open Predefined.commWorld.vapaa dataName amodeF Predefined.infoNull.vapaa
  reply := fileAnswer 77 none
  output := 77

/-- Two integers at the beginning of the file. -/
def twoIntegers (baseAddr : Int) : FileTransfer where
  collective := false
  fileF := 77
  offset := some 0
  desc := integers baseAddr 2 4
  count := 2
  datatypeF := fortranInteger
  status := 16
  reply := fileAnswer 0 none

def measured : FileEvent where
  fileCall := .getSize 77
  reply := fileAnswer 0 (some 8)
  output := 8

def closed : FileEvent where
  fileCall := .close 77
  reply := fileAnswer 0 none
  output := 0

def notes : List FileEvent :=
  [openData 34, (twoIntegers 4096).toEvent .writing, (twoIntegers 8192).toEvent .reading, measured,
    closed]

private theorem openData_valid (amodeF : Int) :
    (openData amodeF).Valid mpich .descriptors predefinedTypes where
  coded := Or.inl rfl
  fileCall := by
    refine ⟨?_, fun _ => rfl⟩
    intro addressed
    cases addressed
  output := rfl

private theorem twoIntegers_valid {baseAddr : Int} (lies : (integers baseAddr 2 4).Consecutive 2)
    (direction : Direction) :
    ((twoIntegers baseAddr).toEvent direction).Valid mpich .descriptors predefinedTypes where
  coded := Or.inl rfl
  fileCall := by
    refine ⟨?_, integers_matches fun _ => lies, fun _ => lies⟩
    intro value member
    cases member
    exact ⟨by decide, by decide⟩
  output := rfl

private theorem notes_valid : ∀ event ∈ notes, event.Valid mpich .descriptors predefinedTypes := by
  intro event member
  simp only [notes, List.mem_cons, List.not_mem_nil, or_false] at member
  rcases member with rfl | rfl | rfl | rfl | rfl
  · exact openData_valid 34
  · exact twoIntegers_valid (by decide) .writing
  · exact twoIntegers_valid (by decide) .reading
  · refine ⟨Or.inl rfl, ⟨?_, by decide⟩, rfl⟩
    intro size member
    cases member
    exact ⟨by decide, by decide⟩
  · exact ⟨Or.inl rfl, trivial, rfl⟩

private theorem notes_passable : ∀ event ∈ notes, event.Passable mpich unmapped .descriptors := by
  intro event member
  simp only [notes, List.mem_cons, List.not_mem_nil, or_false] at member
  rcases member with rfl | rfl | rfl | rfl | rfl
  · exact ⟨trivial, trivial⟩
  · exact ⟨fun _ => by decide, trivial⟩
  · exact ⟨fun _ => by decide, trivial⟩
  · exact ⟨trivial, trivial⟩
  · exact ⟨trivial, trivial⟩

theorem fileRuns_notes : ∃ last,
    threeBytes.Runs mpich mpichHandles unmapped .descriptors (fun _ => 0) notes last ∧
      last.handles = [] ∧ last.files dataName.name = some [0, 1, 2, 3, 4, 5, 6, 7] := by
  obtain ⟨last, runs, same⟩ := (@fileRuns_iff mpich mpichHandles unmapped .descriptors (fun _ => 0)
    threeBytes notes _ mpichHandles_modeBits notes_valid).mpr ⟨notes_passable, _, rfl, rfl⟩
  have files : last.files = last.fileState.files := rfl
  have handles : last.handles = last.fileState.handles := rfl
  refine ⟨last, runs, ?_⟩
  rw [files, handles, same]
  decide

/-- The file, open for reading and writing. -/
def dataFile : OpenFile (List UInt8) where
  name := dataName.name
  modes := FileMode.access (FileMode.requested 32)
  view := .whole
  pointer := 0

def dataOpened : Filing where
  process := threeBytes.process
  files := threeBytes.files
  handles := [(77, dataFile)]
  requests := []

def shortened : FileEvent where
  fileCall := .setSize 77 8
  reply := fileAnswer 0 none
  output := 0

private theorem shortened_valid : ∀ event ∈
    [shortened], event.Valid mpich .descriptors predefinedTypes := by
  intro event member
  cases List.mem_singleton.mp member
  exact ⟨Or.inl rfl, ⟨by decide, by decide⟩, rfl⟩

theorem files_read_back_twoIntegers : ∃ written later last,
    dataOpened.Step mpich mpichHandles unmapped .descriptors (fun _ => 0)
      ((twoIntegers 4096).toEvent .writing) written ∧
    written.Runs mpich mpichHandles unmapped .descriptors (fun _ => 0) [shortened] later ∧
    later.Step mpich mpichHandles unmapped .descriptors (fun _ => 0)
      ((twoIntegers 8192).toEvent .reading) last ∧
    (span 8192 8).map last.process.memory = (span 4096 8).map dataOpened.process.memory := by
  have valid := @twoIntegers_valid 4096 (by decide) .writing
  have validAgain := @twoIntegers_valid 8192 (by decide) .reading
  obtain ⟨written, first, held, kept⟩ := @FileEvent.steps mpich mpichHandles unmapped .descriptors
    (fun _ => 0) dataOpened _ _ _ mpichHandles_modeBits valid ⟨fun _ => by decide, trivial⟩ rfl rfl
  obtain ⟨later, between, holds⟩ := @Filing.runs_of_meant mpich mpichHandles unmapped .descriptors
    (fun _ => 0) written [shortened] _ predefinedTypes _ mpichHandles_modeBits kept
    shortened_valid (List.forall_mem_singleton.mpr ⟨trivial, trivial⟩) rfl (by rw [held]; rfl)
  have keeps : later.process.world.types = predefinedTypes :=
    (between.happens mpichHandles_modeBits kept shortened_valid).2.1
  obtain ⟨last, again, -, -⟩ := @FileEvent.steps mpich mpichHandles unmapped .descriptors
    (fun _ => 0) later ((twoIntegers 8192).toEvent .reading) _ _ mpichHandles_modeBits
    (keeps.symm ▸ validAgain) ⟨fun _ => by decide, trivial⟩ (by rw [keeps]; rfl)
    (by rw [holds]; rfl)
  refine ⟨written, later, last, first, between, again, ?_⟩
  refine files_read_back mpichHandles_modeBits rfl valid shortened_valid validAgain rfl rfl first
    between again rfl (by rw [holds]; rfl) rfl (by decide) rfl ?_ (by decide)
  intro place member
  have inside : ∀ place ∈ (twoIntegers 4096).places dataFile, place < 8 := by decide
  exact ⟨fun _ _ _ => inside place member, fun _ _ => trivial⟩

/-- The file is opened for reading, read, and not cut to eight bytes. -/
def readings : List FileEvent :=
  [openData 16, (twoIntegers 8192).toEvent .reading,
    { shortened with reply := { rc := 45, handle := 0, size := none } }, closed]

theorem files_onlyRead_readings : ∃ last,
    threeBytes.Runs mpich mpichHandles unmapped .descriptors (fun _ => 0) readings last ∧
      last.files dataName.name = some [1, 2, 3] := by
  have valid : ∀ event ∈ readings, event.Valid mpich .descriptors predefinedTypes := by
    intro event member
    simp only [readings, List.mem_cons, List.not_mem_nil, or_false] at member
    rcases member with rfl | rfl | rfl | rfl
    · exact openData_valid 16
    · exact twoIntegers_valid (by decide) .reading
    · exact ⟨Or.inr rfl, ⟨by decide, by decide⟩, rfl⟩
    · exact ⟨Or.inl rfl, trivial, rfl⟩
  have passable : ∀ event ∈ readings, event.Passable mpich unmapped .descriptors := by
    intro event member
    simp only [readings, List.mem_cons, List.not_mem_nil, or_false] at member
    rcases member with rfl | rfl | rfl | rfl
    · exact ⟨trivial, trivial⟩
    · exact ⟨fun _ => by decide, trivial⟩
    · exact ⟨trivial, trivial⟩
    · exact ⟨trivial, trivial⟩
  obtain ⟨last, runs, -⟩ := @Filing.runs_of_meant mpich mpichHandles unmapped .descriptors
    (fun _ => 0) threeBytes readings _ predefinedTypes _ mpichHandles_modeBits rfl valid passable
    rfl rfl
  refine ⟨last, runs, files_onlyRead mpichHandles_modeBits valid (by simp [threeBytes,
    Filing.fileState, FileState.OnlyRead]) rfl ?_ runs⟩
  intro event member
  simp only [readings, List.mem_cons, List.not_mem_nil, or_false] at member
  rcases member with rfl | rfl | rfl | rfl
  · exact fun _ => by decide
  · trivial
  · trivial
  · trivial

end Samples

end Vapaa
