import Vapaa.CStrings
import Vapaa.Foundation.FileStores
import Vapaa.Foundation.LittleEndian
import Vapaa.HandleWrappers
import Vapaa.SectionArguments

/-!
# File wrappers

`mpi_file.c`, with descriptors and without. What the library is asked for is listed, as the wrappers
pass it on.
-/

set_option autoImplicit false

namespace Vapaa

open Foundation

/-- What the library answers to a call for a file: its code, the handle that is then in the variable
of the call, and the size that it has stored. -/
structure FileReply where
  rc : Int
  handle : Int
  size : Option Int

/-- A call that the library was asked for; strings are what memory holds at their addresses. -/
inductive FileRequest where
  | open (comm : Int) (filename : List UInt8) (amode info : Int)
  | close (file : Int)
  | delete (filename : List UInt8) (info : Int)
  | setSize (file size : Int)
  | preallocate (file size : Int)
  | getSize (file : Int)
  | setView (file disp : Int) (etype filetype : Option TypeObject) (datarep : List UInt8)
      (info : Int)
  | transfer (direction : Direction) (collective : Bool) (file : Int) (offset : Option Int)
      (buffer : Buffer) (status : StatusPointer)

/-- A process, the files that it can reach and those that it has open, and what it has asked the
library for. -/
structure Filing where
  process : Process
  files : List UInt8 → Option (List UInt8)
  handles : List (Int × OpenFile (List UInt8))
  requests : List FileRequest

abbrev FileRun := Run Filing

/-- What a wrapper does besides. -/
def onFiling {α : Type} : Wrapper α → FileRun α :=
  Run.zoom Filing.process fun state process => { state with process := process }

section Library

def askFile (request : TypeStore → FileRequest) : FileRun Unit := fun state =>
  .returned ((), { state with
    requests := state.requests ++ [request state.process.world.types] })

def FileReply.handleReply (reply : FileReply) : HandleReply where
  rc := reply.rc
  handle := reply.handle
  request := 0

def mpiFileOpen (reply : FileReply) (comm : Int) (filename : List UInt8) (amode info : Int) :
    FileRun HandleReply := do
  askFile fun _ => .open comm filename amode info
  return reply.handleReply

def mpiFileClose (reply : FileReply) (file : Int) : FileRun HandleReply := do
  askFile fun _ => .close file
  return reply.handleReply

def mpiFileDelete (reply : FileReply) (filename : List UInt8) (info : Int) : FileRun Int := do
  askFile fun _ => .delete filename info
  return reply.rc

def mpiFileSetSize (reply : FileReply) (file size : Int) : FileRun Int := do
  askFile fun _ => .setSize file size
  return reply.rc

def mpiFilePreallocate (reply : FileReply) (file size : Int) : FileRun Int := do
  askFile fun _ => .preallocate file size
  return reply.rc

/-- Returns the size as the variable holds it afterwards, and the code. -/
def mpiFileGetSize (reply : FileReply) (file size : Int) : FileRun (Int × Int) := do
  askFile fun _ => .getSize file
  return (reply.size.getD size, reply.rc)

def mpiFileSetView (reply : FileReply) (file disp etype filetype : Int) (datarep : List UInt8)
    (info : Int) : FileRun Int := do
  askFile fun types => .setView file disp (types.object etype) (types.object filetype) datarep info
  return reply.rc

def mpiFileTransfer (reply : FileReply) (direction : Direction) (collective : Bool) (file : Int)
    (offset : Option Int) (buffer count datatype : Int) (status : StatusPointer) : FileRun Int := do
  askFile fun types =>
    .transfer direction collective file offset (types.buffer buffer count datatype) status
  return reply.rc

end Library

/-- `size_t` -/
abbrev SizeT := BitVec 64

/-- `MPI_Offset offset = *offset_f;` -/
def mpiOffset (size : SizeT) : Int := size.toInt

namespace Files

variable (mpi : Mpi) (constants : HandleConstants)

def cMpiFileOpen (reply : FileReply) (commF : Int) (filename : List UInt8) (amodeF infoF : Int) :
    FileRun (Int × Int) := do
  let comm := cMpiCommF2c mpi commF
  let info := cMpiInfoF2c mpi infoF
  let amode := cMpiTranslateAmode constants amodeF
  let answer ← mpiFileOpen reply comm filename amode info
  onFiling (call (handBack mpi .file answer))

/-- The descriptor gives the address of the characters. -/
def cfiMpiFileOpen (reply : FileReply) (commF : Int) (filenameD : List UInt8)
    (amodeF infoF : Int) : FileRun (Int × Int) :=
  cMpiFileOpen mpi constants reply commF filenameD amodeF infoF

def cMpiFileClose (reply : FileReply) (fileF : Int) : FileRun (Int × Int) := do
  let file := cMpiFileF2c mpi fileF
  let answer ← mpiFileClose reply file
  onFiling (call (handBack mpi .file answer))

def cMpiFileDelete (reply : FileReply) (filename : List UInt8) (infoF : Int) : FileRun Int := do
  let info := cMpiInfoF2c mpi infoF
  let ierror ← mpiFileDelete reply filename info
  onFiling (call (cMpiRcFix mpi ierror))

def cfiMpiFileDelete (reply : FileReply) (filenameD : List UInt8) (infoF : Int) : FileRun Int :=
  cMpiFileDelete mpi reply filenameD infoF

def cMpiFileSetSize (reply : FileReply) (fileF : Int) (sizeF : SizeT) : FileRun Int := do
  let file := cMpiFileF2c mpi fileF
  let size := mpiOffset sizeF
  let ierror ← mpiFileSetSize reply file size
  onFiling (call (cMpiRcFix mpi ierror))

def cMpiFilePreallocate (reply : FileReply) (fileF : Int) (sizeF : SizeT) : FileRun Int := do
  let file := cMpiFileF2c mpi fileF
  let size := mpiOffset sizeF
  let ierror ← mpiFilePreallocate reply file size
  onFiling (call (cMpiRcFix mpi ierror))

/-- Returns `*size_f` and `*ierror`. -/
def cMpiFileGetSize (reply : FileReply) (fileF : Int) : FileRun (SizeT × Int) := do
  let size : Int := -1
  let file := cMpiFileF2c mpi fileF
  let (size, ierror) ← mpiFileGetSize reply file size
  let sizeF : SizeT := BitVec.ofInt 64 size
  let ierror ← onFiling (call (cMpiRcFix mpi ierror))
  return (sizeF, ierror)

/-- What both wrappers do with the name of a data representation. -/
def setView (reply : FileReply) (fileF : Int) (dispF : SizeT) (etypeF filetypeF : Int)
    (datarep : List UInt8) (infoF : Int) : FileRun Int := do
  let file := cMpiFileF2c mpi fileF
  let disp := mpiOffset dispF
  let etype := cMpiTypeF2c mpi etypeF
  let filetype := cMpiTypeF2c mpi filetypeF
  let info := cMpiInfoF2c mpi infoF
  let ierror ← mpiFileSetView reply file disp etype filetype datarep info
  onFiling (call (cMpiRcFix mpi ierror))

/-- `char * datarep = *pdatarep;` What the argument points to is taken for an address, of eight
bytes, and the library is given the characters that memory holds there. -/
def cMpiFileSetView (reply : FileReply) (characters : Nat → List UInt8) (fileF : Int)
    (dispF : SizeT) (etypeF filetypeF : Int) (pdatarep : List UInt8) (infoF : Int) : FileRun Int :=
  setView mpi reply fileF dispF etypeF filetypeF
    (characters (LittleEndian.value (pdatarep.take 8))) infoF

/-- `char * datarep = datarep_d -> base_addr;` -/
def cfiMpiFileSetView (reply : FileReply) (fileF : Int) (dispF : SizeT) (etypeF filetypeF : Int)
    (datarepD : List UInt8) (infoF : Int) : FileRun Int :=
  setView mpi reply fileF dispF etypeF filetypeF datarepD infoF

/-- What the wrappers for transfers do with an address. -/
def cTransfer (direction : Direction) (collective : Bool) (reply : FileReply) (fileF : Int)
    (offsetF : Option SizeT) (buffer countF datatypeF status : Int) : FileRun Int := do
  let file := cMpiFileF2c mpi fileF
  let offset := offsetF.map mpiOffset
  let datatype := cMpiTypeF2c mpi datatypeF
  let status ← onFiling (statusArgument mpi status)
  let ierror ← mpiFileTransfer reply direction collective file offset buffer countF datatype status
  onFiling (call (cMpiRcFix mpi ierror))

/-- What the wrappers for transfers do with a descriptor; a section that is not contiguous ends in
`MPI_Abort`. -/
def cfiTransfer (direction : Direction) (collective : Bool) (reply : FileReply) (fileF : Int)
    (offsetF : Option SizeT) (desc : CDesc) (countF datatypeF status : Int) : FileRun Int := do
  if mpi.cfiIsContiguous desc = 1 then
    cTransfer mpi direction collective reply fileF offsetF desc.baseAddr countF datatypeF status
  else
    onFiling (call (vapaaWarning "FIXME: not contiguous case\n"))
    Run.abort

def cMpiFileReadAt (reply : FileReply) (fileF : Int) (offsetF : SizeT) :=
  cTransfer mpi .reading false reply fileF (some offsetF)

def cfiMpiFileReadAt (reply : FileReply) (fileF : Int) (offsetF : SizeT) :=
  cfiTransfer mpi .reading false reply fileF (some offsetF)

def cMpiFileReadAtAll (reply : FileReply) (fileF : Int) (offsetF : SizeT) :=
  cTransfer mpi .reading true reply fileF (some offsetF)

def cfiMpiFileReadAtAll (reply : FileReply) (fileF : Int) (offsetF : SizeT) :=
  cfiTransfer mpi .reading true reply fileF (some offsetF)

def cMpiFileWriteAt (reply : FileReply) (fileF : Int) (offsetF : SizeT) :=
  cTransfer mpi .writing false reply fileF (some offsetF)

def cfiMpiFileWriteAt (reply : FileReply) (fileF : Int) (offsetF : SizeT) :=
  cfiTransfer mpi .writing false reply fileF (some offsetF)

def cMpiFileWriteAtAll (reply : FileReply) (fileF : Int) (offsetF : SizeT) :=
  cTransfer mpi .writing true reply fileF (some offsetF)

def cfiMpiFileWriteAtAll (reply : FileReply) (fileF : Int) (offsetF : SizeT) :=
  cfiTransfer mpi .writing true reply fileF (some offsetF)

def cMpiFileRead (reply : FileReply) (fileF : Int) := cTransfer mpi .reading false reply fileF none

def cfiMpiFileRead (reply : FileReply) (fileF : Int) :=
  cfiTransfer mpi .reading false reply fileF none

def cMpiFileReadAll (reply : FileReply) (fileF : Int) := cTransfer mpi .reading true reply fileF none

def cfiMpiFileReadAll (reply : FileReply) (fileF : Int) :=
  cfiTransfer mpi .reading true reply fileF none

def cMpiFileWrite (reply : FileReply) (fileF : Int) := cTransfer mpi .writing false reply fileF none

def cfiMpiFileWrite (reply : FileReply) (fileF : Int) :=
  cfiTransfer mpi .writing false reply fileF none

def cMpiFileWriteAll (reply : FileReply) (fileF : Int) :=
  cTransfer mpi .writing true reply fileF none

def cfiMpiFileWriteAll (reply : FileReply) (fileF : Int) :=
  cfiTransfer mpi .writing true reply fileF none

end Files

end Vapaa
