import Vapaa.HandleWrappers
import Vapaa.InfoObjects
import Vapaa.PointToPoint

/-!
# Programs that hold handles

Fortran programs with variables for handles, and the wrapper calls that change them.
-/

set_option autoImplicit false

namespace Vapaa

open Foundation

/-- The variables of each kind, in the order of an array that holds them all. -/
abbrev HandleStore := Kind → Nat → Int

def HandleStore.set (held : HandleStore) (kind : Kind) (target : Nat) (value : Int) :
    HandleStore := fun other i =>
  if other = kind ∧ i = target then value else held other i

/-- Writes an array of requests back to the variables that it was made of. -/
def HandleStore.setRequests (held : HandleStore) (first : Nat) (count : Int)
    (requestsF : Nat → Int) : HandleStore := fun other i =>
  if other = .request ∧ first ≤ i ∧ ((i - first : Nat) : Int) < count then requestsF (i - first)
  else held other i

structure Program where
  process : Process
  infos : InfoStore InfoObject
  held : HandleStore

/-- A C handle that a call puts into a variable, converted to Fortran. -/
structure Handed where
  kind : Kind
  target : Nat
  handle : Int

/-- Calls with one handle as their result, by the variables of the handles they take and set; a
call that takes the handle it sets has one variable for both. -/
inductive Making where
  | commDup (mpiCommDup : Int → Int → HandleReply) (comm newcomm : Nat)
  | commDupWithInfo (mpiCommDupWithInfo : Int → Int → Int → HandleReply) (comm info newcomm : Nat)
  | commCreate (mpiCommCreate : Int → Int → Int → HandleReply) (comm group newcomm : Nat)
  | commCreateGroup (mpiCommCreateGroup : Int → Int → Int → Int → HandleReply) (comm group : Nat)
      (tag : Int) (newcomm : Nat)
  | commSplit (mpiCommSplit : Int → Int → Int → Int → HandleReply) (comm : Nat) (color key : Int)
      (newcomm : Nat)
  | commSplitType (mpiCommSplitType : Int → Int → Int → Int → Int → HandleReply) (comm : Nat)
      (type key : Int) (info newcomm : Nat)
  | commFree (mpiCommFree : Int → HandleReply) (comm : Nat)
  | cartCreate (mpiCartCreate : Int → Int → Int → Int → Int → Int → HandleReply) (comm : Nat)
      (ndims dims periods reorder : Int) (newcomm : Nat)
  | commGroup (mpiCommGroup : Int → Int → HandleReply) (comm group : Nat)
  | groupUnion (mpiGroupUnion : Int → Int → Int → HandleReply) (group1 group2 newgroup : Nat)
  | groupIntersection (mpiGroupIntersection : Int → Int → Int → HandleReply)
      (group1 group2 newgroup : Nat)
  | groupDifference (mpiGroupDifference : Int → Int → Int → HandleReply)
      (group1 group2 newgroup : Nat)
  | groupIncl (mpiGroupIncl : Int → Int → Int → Int → HandleReply) (group : Nat) (n ranks : Int)
      (newgroup : Nat)
  | groupExcl (mpiGroupExcl : Int → Int → Int → Int → HandleReply) (group : Nat) (n ranks : Int)
      (newgroup : Nat)
  | groupFree (mpiGroupFree : Int → HandleReply) (group : Nat)
  | fileOpen (mpiFileOpen : Int → Int → Int → Int → Int → HandleReply) (comm : Nat)
      (filename amode : Int) (info file : Nat)
  | cfiFileOpen (mpiFileOpen : Int → Int → Int → Int → Int → HandleReply) (comm : Nat)
      (filename : CDesc) (amode : Int) (info file : Nat)
  | fileClose (mpiFileClose : Int → HandleReply) (file : Nat)
  | opCreate (mpiOpCreate : Int → Int → Int → HandleReply) (userFn commute : Int) (op : Nat)
  | opFree (mpiOpFree : Int → HandleReply) (op : Nat)
  | infoFree (mpiInfoFree : Int → HandleReply) (info : Nat)
  | requestFree (mpiRequestFree : Int → HandleReply) (request : Nat)
  | typeCommit (datatype : Nat)
  | typeDup (oldtype newtype : Nat)
  | typeFree (datatype : Nat)
  | typeContiguous (count : Int) (oldtype newtype : Nat)
  | typeVector (count blocklength stride : Int) (oldtype newtype : Nat)
  | typeCreateSubarray (ndims : Int) (sizes subsizes starts : List Int) (order : Int)
      (oldtype newtype : Nat)

variable (mpi : Mpi) (constants : HandleConstants)

namespace Making

/-- The kind of the handle that is set, and its variable. -/
def target : Making → Kind × Nat
  | .commDup _ _ newcomm | .commDupWithInfo _ _ _ newcomm | .commCreate _ _ _ newcomm
  | .commCreateGroup _ _ _ _ newcomm | .commSplit _ _ _ _ newcomm
  | .commSplitType _ _ _ _ _ newcomm | .commFree _ newcomm
  | .cartCreate _ _ _ _ _ _ newcomm => (.comm, newcomm)
  | .commGroup _ _ group | .groupUnion _ _ _ group | .groupIntersection _ _ _ group
  | .groupDifference _ _ _ group | .groupIncl _ _ _ _ group | .groupExcl _ _ _ _ group
  | .groupFree _ group => (.group, group)
  | .fileOpen _ _ _ _ _ file | .cfiFileOpen _ _ _ _ _ file | .fileClose _ file => (.file, file)
  | .opCreate _ _ _ op | .opFree _ op => (.op, op)
  | .infoFree _ info => (.info, info)
  | .requestFree _ request => (.request, request)
  | .typeCommit newtype | .typeDup _ newtype | .typeFree newtype | .typeContiguous _ _ newtype
  | .typeVector _ _ _ _ newtype | .typeCreateSubarray _ _ _ _ _ _ newtype => (.datatype, newtype)

def run (held : HandleStore) : Making → Call (Int × Int)
  | .commDup mpiCommDup comm _ => cMpiCommDup mpi mpiCommDup (held .comm comm)
  | .commDupWithInfo mpiCommDupWithInfo comm info _ =>
      cMpiCommDupWithInfo mpi mpiCommDupWithInfo (held .comm comm) (held .info info)
  | .commCreate mpiCommCreate comm group _ =>
      cMpiCommCreate mpi mpiCommCreate (held .comm comm) (held .group group)
  | .commCreateGroup mpiCommCreateGroup comm group tag _ =>
      cMpiCommCreateGroup mpi mpiCommCreateGroup (held .comm comm) (held .group group) tag
  | .commSplit mpiCommSplit comm color key _ =>
      cMpiCommSplit mpi mpiCommSplit (held .comm comm) color key
  | .commSplitType mpiCommSplitType comm type key info _ =>
      cMpiCommSplitType mpi constants mpiCommSplitType (held .comm comm) type key (held .info info)
  | .commFree mpiCommFree comm => cMpiCommFree mpi mpiCommFree (held .comm comm)
  | .cartCreate mpiCartCreate comm ndims dims periods reorder _ =>
      cMpiCartCreate mpi mpiCartCreate (held .comm comm) ndims dims periods reorder
  | .commGroup mpiCommGroup comm _ => cMpiCommGroup mpi mpiCommGroup (held .comm comm)
  | .groupUnion mpiGroupUnion group1 group2 _ =>
      cMpiGroupUnion mpi mpiGroupUnion (held .group group1) (held .group group2)
  | .groupIntersection mpiGroupIntersection group1 group2 _ =>
      cMpiGroupIntersection mpi mpiGroupIntersection (held .group group1) (held .group group2)
  | .groupDifference mpiGroupDifference group1 group2 _ =>
      cMpiGroupDifference mpi mpiGroupDifference (held .group group1) (held .group group2)
  | .groupIncl mpiGroupIncl group n ranks _ =>
      cMpiGroupIncl mpi mpiGroupIncl (held .group group) n ranks
  | .groupExcl mpiGroupExcl group n ranks _ =>
      cMpiGroupExcl mpi mpiGroupExcl (held .group group) n ranks
  | .groupFree mpiGroupFree group => cMpiGroupFree mpi mpiGroupFree (held .group group)
  | .fileOpen mpiFileOpen comm filename amode info _ =>
      cMpiFileOpen mpi constants mpiFileOpen (held .comm comm) filename amode (held .info info)
  | .cfiFileOpen mpiFileOpen comm filename amode info _ =>
      cfiMpiFileOpen mpi constants mpiFileOpen (held .comm comm) filename amode (held .info info)
  | .fileClose mpiFileClose file => cMpiFileClose mpi mpiFileClose (held .file file)
  | .opCreate mpiOpCreate userFn commute _ => cMpiOpCreate mpi mpiOpCreate userFn commute
  | .opFree mpiOpFree op => cMpiOpFree mpi mpiOpFree (held .op op)
  | .infoFree mpiInfoFree info => cMpiInfoFree mpi mpiInfoFree (held .info info)
  | .requestFree mpiRequestFree request =>
      cMpiRequestFree mpi mpiRequestFree (held .request request)
  | .typeCommit datatype => cMpiTypeCommit mpi (held .datatype datatype)
  | .typeDup oldtype _ => cMpiTypeDup mpi (held .datatype oldtype)
  | .typeFree datatype => cMpiTypeFree mpi (held .datatype datatype)
  | .typeContiguous count oldtype _ => cMpiTypeContiguous mpi count (held .datatype oldtype)
  | .typeVector count blocklength stride oldtype _ =>
      cMpiTypeVector mpi count blocklength stride (held .datatype oldtype)
  | .typeCreateSubarray ndims sizes subsizes starts order oldtype _ =>
      cMpiTypeCreateSubarray mpi constants.toTypeConstants ndims sizes subsizes starts order
        (held .datatype oldtype)

/-- The handle of a call of the library that returned one. -/
def handleOf (outcome : Outcome ((Int × Int) × World)) : Option Int :=
  match outcome with
  | .returned ((_, handle), _) => some handle
  | _ => none

/-- The C handle that the library hands back, unless the wrapper or the library stops before. -/
def handed (held : HandleStore) (world : World) : Making → Option Int
  | .commDup mpiCommDup comm _ =>
      some (mpiCommDup (cMpiCommF2c mpi (held .comm comm)) (mpi.handle .commNull)).handle
  | .commDupWithInfo mpiCommDupWithInfo comm info _ =>
      some (mpiCommDupWithInfo (cMpiCommF2c mpi (held .comm comm))
        (cMpiInfoF2c mpi (held .info info)) (mpi.handle .commNull)).handle
  | .commCreate mpiCommCreate comm group _ =>
      some (mpiCommCreate (cMpiCommF2c mpi (held .comm comm))
        (cMpiGroupF2c mpi (held .group group)) (mpi.handle .commNull)).handle
  | .commCreateGroup mpiCommCreateGroup comm group tag _ =>
      some (mpiCommCreateGroup (cMpiCommF2c mpi (held .comm comm))
        (cMpiGroupF2c mpi (held .group group)) tag (mpi.handle .commNull)).handle
  | .commSplit mpiCommSplit comm color key _ =>
      some (mpiCommSplit (cMpiCommF2c mpi (held .comm comm)) color key
        (mpi.handle .commNull)).handle
  | .commSplitType mpiCommSplitType comm type key info _ =>
      match cMpiTranslateSplitType mpi constants type world with
      | .returned (type, _) =>
          some (mpiCommSplitType (cMpiCommF2c mpi (held .comm comm)) type key
            (cMpiInfoF2c mpi (held .info info)) (mpi.handle .commNull)).handle
      | _ => none
  | .commFree mpiCommFree comm => some (mpiCommFree (cMpiCommF2c mpi (held .comm comm))).handle
  | .cartCreate mpiCartCreate comm ndims dims periods reorder _ =>
      some (mpiCartCreate (cMpiCommF2c mpi (held .comm comm)) ndims dims periods reorder
        (mpi.handle .commNull)).handle
  | .commGroup mpiCommGroup comm _ =>
      some (mpiCommGroup (cMpiCommF2c mpi (held .comm comm)) (mpi.handle .groupNull)).handle
  | .groupUnion combine group1 group2 _ | .groupIntersection combine group1 group2 _
  | .groupDifference combine group1 group2 _ =>
      some (combine (cMpiGroupF2c mpi (held .group group1))
        (cMpiGroupF2c mpi (held .group group2)) (mpi.handle .groupNull)).handle
  | .groupIncl choose group n ranks _ | .groupExcl choose group n ranks _ =>
      some (choose (cMpiGroupF2c mpi (held .group group)) n ranks
        (mpi.handle .groupNull)).handle
  | .groupFree mpiGroupFree group =>
      some (mpiGroupFree (cMpiGroupF2c mpi (held .group group))).handle
  | .fileOpen mpiFileOpen comm filename amode info _ =>
      some (mpiFileOpen (cMpiCommF2c mpi (held .comm comm)) filename
        (cMpiTranslateAmode constants amode) (cMpiInfoF2c mpi (held .info info))
        (mpi.handle .fileNull)).handle
  | .cfiFileOpen mpiFileOpen comm filename amode info _ =>
      some (mpiFileOpen (cMpiCommF2c mpi (held .comm comm)) filename.baseAddr
        (cMpiTranslateAmode constants amode) (cMpiInfoF2c mpi (held .info info))
        (mpi.handle .fileNull)).handle
  | .fileClose mpiFileClose file =>
      some (mpiFileClose (cMpiFileF2c mpi (held .file file))).handle
  | .opCreate mpiOpCreate userFn commute _ =>
      some (mpiOpCreate userFn commute (mpi.handle (.op .opNull))).handle
  | .opFree mpiOpFree op => some (mpiOpFree (mpi.f2c .op (held .op op))).handle
  | .infoFree mpiInfoFree info => some (mpiInfoFree (cMpiInfoF2c mpi (held .info info))).handle
  | .requestFree mpiRequestFree request =>
      some (mpiRequestFree (cMpiRequestF2c mpi (held .request request))).handle
  | .typeCommit datatype => some (mpi.f2c .datatype (held .datatype datatype))
  | .typeDup oldtype _ =>
      match mpiTypeDup mpi (mpi.f2c .datatype (held .datatype oldtype)) none world with
      | .returned ((_, newtype), _) => newtype
      | _ => none
  | .typeFree datatype =>
      handleOf (pmpiTypeFree mpi (mpi.f2c .datatype (held .datatype datatype)) world)
  | .typeContiguous count oldtype _ =>
      handleOf (mpiTypeContiguous mpi count (cMpiTypeF2c mpi (held .datatype oldtype))
        (mpi.datatype .datatypeNull) world)
  | .typeVector count blocklength stride oldtype _ =>
      handleOf (mpiTypeVector mpi count blocklength stride
        (cMpiTypeF2c mpi (held .datatype oldtype)) (mpi.datatype .datatypeNull) world)
  | .typeCreateSubarray ndims sizes subsizes starts order oldtype _ =>
      match cMpiTranslateMajor constants.toTypeConstants order world with
      | .returned (order, middle) =>
          handleOf (mpiTypeCreateSubarray mpi constants.toTypeConstants ndims sizes subsizes starts
            order (cMpiTypeF2c mpi (held .datatype oldtype)) (mpi.datatype .datatypeNull) middle)
      | _ => none

theorem handBack_ensures {kind : Kind} {reply : HandleReply} {world : World} :
    Run.Ensures (handBack mpi kind reply) world fun result _ =>
      result.1 = mpi.c2f kind reply.handle := by
  refine Run.ensures_bind_of_all fun ierror final => ?_
  exact Run.ensures_pure rfl

/-- The last lines of a wrapper with a library call of the model. -/
theorem ensures_convert {library : Call (Int × Int)} {world : World} :
    Run.Ensures (do
      let (ierror, newtype) ← library
      let newtypeF := mpi.c2f .datatype newtype
      return (newtypeF, ← cMpiRcFix mpi ierror) : Call (Int × Int)) world fun result _ =>
        ∃ handle, handleOf (library world) = some handle ∧
          result.1 = mpi.c2f .datatype handle := by
  rintro result final returned
  obtain ⟨⟨ierror, newtype⟩, middle, asked, rest⟩ := Run.bind_eq_returned.mp returned
  obtain ⟨_, _, _, last⟩ := Run.bind_eq_returned.mp rest
  cases last
  exact ⟨newtype, by rw [asked]; rfl, rfl⟩

/-- The wrapper returns the Fortran form of the handle that the library hands back. -/
theorem run_ensures (making : Making) {held : HandleStore} {world : World} :
    Run.Ensures (making.run mpi constants held) world fun result _ =>
      ∃ handle, making.handed mpi constants held world = some handle ∧
        result.1 = mpi.c2f making.target.1 handle := by
  cases making
  case commSplitType mpiCommSplitType comm type key info newcomm =>
    rintro result final returned
    obtain ⟨translated, middle, type', rest⟩ := Run.bind_eq_returned.mp returned
    refine ⟨_, ?_, handBack_ensures mpi _ _ rest⟩
    simp only [handed, type']
  case typeCommit datatype =>
    rintro result final returned
    obtain ⟨_, _, _, rest⟩ := Run.bind_eq_returned.mp returned
    obtain ⟨_, _, _, last⟩ := Run.bind_eq_returned.mp rest
    cases last
    exact ⟨_, rfl, rfl⟩
  case typeDup oldtype newtype =>
    rintro result final returned
    obtain ⟨⟨_, created⟩, _, asked, rest⟩ := Run.bind_eq_returned.mp returned
    cases created with
    | none => cases rest
    | some created =>
        obtain ⟨_, _, read, rest⟩ := Run.bind_eq_returned.mp rest
        cases read
        obtain ⟨_, _, _, last⟩ := Run.bind_eq_returned.mp rest
        cases last
        exact ⟨created, by simp only [handed, asked], rfl⟩
  case typeFree => exact ensures_convert mpi
  case typeContiguous => exact ensures_convert mpi
  case typeVector => exact ensures_convert mpi
  case typeCreateSubarray ndims sizes subsizes starts order oldtype newtype =>
    rintro result final returned
    obtain ⟨translated, middle, order', rest⟩ := Run.bind_eq_returned.mp returned
    obtain ⟨handle, asked, same⟩ := ensures_convert mpi _ _ rest
    refine ⟨handle, ?_, same⟩
    simp only [handed, order', asked]
  -- the others end in `handBack`
  all_goals exact (handBack_ensures mpi).mono fun _ _ same => ⟨_, rfl, same⟩

end Making

/-- Every call that sets a handle. The variables of an array of requests follow each other. -/
inductive HandleCall where
  | making (made : Making)
  | commIdup (mpiCommIdup : Int → Int → Int → HandleReply) (comm newcomm request : Nat)
  | commIdupWithInfo (mpiCommIdupWithInfo : Int → Int → Int → Int → HandleReply)
      (comm info newcomm request : Nat)
  | infoCreate (info : Nat)
  | infoDup (info newinfo : Nat)
  | mprobe (reply : Reply) (source tag : Int) (comm message : Nat) (status : Int)
  | test (reply : Reply) (request : Nat) (status : Int)
  | testall (reply : Reply) (count : Int) (first : Nat) (flag statuses : Int)
  | testsome (reply : Reply) (incount : Int) (first : Nat) (outcount : Int)
      (arrayOfIndices : List Int) (statuses : Int)
  | testany (reply : Reply) (count : Int) (first : Nat) (index flag status : Int)
  | wait (reply : Reply) (request : Nat) (status : Int)
  | waitall (reply : Reply) (count : Int) (first : Nat) (statuses : Int)
  | waitsome (reply : Reply) (incount : Int) (first : Nat) (outcount : Int)
      (arrayOfIndices : List Int) (statuses : Int)
  | waitany (reply : Reply) (count : Int) (first : Nat) (index status : Int)
  | isend (reply : Reply) (buffer count : Int) (datatype : Nat) (dest tag : Int)
      (comm request : Nat)
  | cfiIsend (reply : Reply) (desc : CDesc) (count : Int) (datatype : Nat) (dest tag : Int)
      (comm request : Nat)
  | irecv (reply : Reply) (buffer count : Int) (datatype : Nat) (source tag : Int)
      (comm request : Nat)
  | cfiIrecv (reply : Reply) (desc : CDesc) (count : Int) (datatype : Nat) (source tag : Int)
      (comm request : Nat)
  | mrecv (reply : Reply) (buffer count : Int) (datatype message : Nat) (status : Int)
  | cfiMrecv (reply : Reply) (desc : CDesc) (count : Int) (datatype message : Nat) (status : Int)
  | imrecv (reply : Reply) (buffer count : Int) (datatype message request : Nat)
  | cfiImrecv (reply : Reply) (desc : CDesc) (count : Int) (datatype message request : Nat)

section Runs

def onProcess {α : Type} : Wrapper α → Run Program α :=
  Run.zoom Program.process fun program process => { program with process := process }

def onInfos {α : Type} : InfoRun α → Run Program α :=
  Run.zoom (fun program => { world := program.process.world, infos := program.infos })
    fun program state => { program with
      process := { program.process with world := state.world }
      infos := state.infos }

/-- The variables at the end of a call. -/
def keep (held : HandleStore) : Run Program Unit := fun program =>
  .returned ((), { program with held := held })

namespace HandleCall

/-- The array of requests that starts at a variable. -/
def requestsFrom (held : HandleStore) (first : Nat) : Nat → Int := fun i =>
  held .request (first + i)

def run (held : HandleStore) : HandleCall → Run Program Unit
  | .making made => do
      let (handleF, _) ← onProcess (call (made.run mpi constants held))
      keep (held.set made.target.1 made.target.2 handleF)
  | .commIdup mpiCommIdup comm newcomm request => do
      let (newcommF, requestF, _) ← onProcess (call (cMpiCommIdup mpi mpiCommIdup (held .comm comm)))
      keep ((held.set .comm newcomm newcommF).set .request request requestF)
  | .commIdupWithInfo mpiCommIdupWithInfo comm info newcomm request => do
      let (newcommF, requestF, _) ← onProcess (call
        (cMpiCommIdupWithInfo mpi mpiCommIdupWithInfo (held .comm comm) (held .info info)))
      keep ((held.set .comm newcomm newcommF).set .request request requestF)
  | .infoCreate info => do
      let (infoF, _) ← onInfos (cMpiInfoCreate mpi)
      keep (held.set .info info infoF)
  | .infoDup info newinfo => do
      let (newinfoF, _) ← onInfos (cMpiInfoDup mpi (held .info info))
      keep (held.set .info newinfo newinfoF)
  | .mprobe reply source tag comm message status => do
      let (messageF, _) ← onProcess (cMpiMprobe mpi reply source tag (held .comm comm) status)
      keep (held.set .message message messageF)
  | .test reply request status => do
      let (requestF, _) ← onProcess (cMpiTest mpi reply (held .request request) status)
      keep (held.set .request request requestF)
  | .testall reply count first flag statuses => do
      let (requestsF, _) ← onProcess
        (cMpiTestall mpi reply count (requestsFrom held first) flag statuses)
      keep (held.setRequests first count requestsF)
  | .testsome reply incount first outcount arrayOfIndices statuses => do
      let (requestsF, _) ← onProcess
        (cMpiTestsome mpi reply incount (requestsFrom held first) outcount arrayOfIndices statuses)
      keep (held.setRequests first incount requestsF)
  | .testany reply count first index flag status => do
      let (requestsF, _) ← onProcess
        (cMpiTestany mpi reply count (requestsFrom held first) index flag status)
      keep (held.setRequests first count requestsF)
  | .wait reply request status => do
      let (requestF, _) ← onProcess (cMpiWait mpi reply (held .request request) status)
      keep (held.set .request request requestF)
  | .waitall reply count first statuses => do
      let (requestsF, _) ← onProcess
        (cMpiWaitall mpi reply count (requestsFrom held first) statuses)
      keep (held.setRequests first count requestsF)
  | .waitsome reply incount first outcount arrayOfIndices statuses => do
      let (requestsF, _) ← onProcess
        (cMpiWaitsome mpi reply incount (requestsFrom held first) outcount arrayOfIndices statuses)
      keep (held.setRequests first incount requestsF)
  | .waitany reply count first index status => do
      let (requestsF, _) ← onProcess
        (cMpiWaitany mpi reply count (requestsFrom held first) index status)
      keep (held.setRequests first count requestsF)
  | .isend reply buffer count datatype dest tag comm request => do
      let (requestF, _) ← onProcess
        (cMpiIsend mpi reply buffer count (held .datatype datatype) dest tag (held .comm comm))
      keep (held.set .request request requestF)
  | .cfiIsend reply desc count datatype dest tag comm request => do
      let (requestF, _) ← onProcess
        (cfiMpiIsend mpi reply desc count (held .datatype datatype) dest tag (held .comm comm))
      keep (held.set .request request requestF)
  | .irecv reply buffer count datatype source tag comm request => do
      let (requestF, _) ← onProcess
        (cMpiIrecv mpi reply buffer count (held .datatype datatype) source tag (held .comm comm))
      keep (held.set .request request requestF)
  | .cfiIrecv reply desc count datatype source tag comm request => do
      let (requestF, _) ← onProcess
        (cfiMpiIrecv mpi reply desc count (held .datatype datatype) source tag (held .comm comm))
      keep (held.set .request request requestF)
  | .mrecv reply buffer count datatype message status => do
      let (messageF, _) ← onProcess
        (cMpiMrecv mpi reply buffer count (held .datatype datatype) (held .message message) status)
      keep (held.set .message message messageF)
  | .cfiMrecv reply desc count datatype message status => do
      let (messageF, _) ← onProcess
        (cfiMpiMrecv mpi reply desc count (held .datatype datatype) (held .message message) status)
      keep (held.set .message message messageF)
  | .imrecv reply buffer count datatype message request => do
      let (messageF, requestF, _) ← onProcess
        (cMpiImrecv mpi reply buffer count (held .datatype datatype) (held .message message))
      keep ((held.set .message message messageF).set .request request requestF)
  | .cfiImrecv reply desc count datatype message request => do
      let (messageF, requestF, _) ← onProcess
        (cfiMpiImrecv mpi reply desc count (held .datatype datatype) (held .message message))
      keep ((held.set .message message messageF).set .request request requestF)

def step (handleCall : HandleCall) : Run Program Unit := fun program =>
  handleCall.run mpi constants program.held program

/-- The array that `MPI_Waitall` and the like hand back. -/
def requestsHanded (reply : Reply) (count : Int) (first : Nat) : List Handed :=
  if allocatesRequests mpi count then
    (List.range count.toNat).map fun i => ⟨.request, first + i, reply.requests i⟩
  else []

/-- The C handles that a call hands back. -/
def handed (program : Program) : HandleCall → List Handed
  | .making made =>
      (made.handed mpi constants program.held program.process.world).toList.map fun handle =>
        ⟨made.target.1, made.target.2, handle⟩
  | .commIdup mpiCommIdup comm newcomm request =>
      let reply := mpiCommIdup (cMpiCommF2c mpi (program.held .comm comm))
        (mpi.handle .commNull) (mpi.handle .requestNull)
      [⟨.comm, newcomm, reply.handle⟩, ⟨.request, request, reply.request⟩]
  | .commIdupWithInfo mpiCommIdupWithInfo comm info newcomm request =>
      let reply := mpiCommIdupWithInfo (cMpiCommF2c mpi (program.held .comm comm))
        (cMpiInfoF2c mpi (program.held .info info)) (mpi.handle .commNull)
        (mpi.handle .requestNull)
      [⟨.comm, newcomm, reply.handle⟩, ⟨.request, request, reply.request⟩]
  | .infoCreate info => [⟨.info, info, program.infos.next⟩]
  | .infoDup info newinfo =>
      match program.infos.object (cMpiInfoF2c mpi (program.held .info info)) with
      | none => [⟨.info, newinfo, mpi.handle .infoNull⟩]
      | some _ => [⟨.info, newinfo, program.infos.next⟩]
  | .mprobe reply _ _ _ message _ => [⟨.message, message, reply.message⟩]
  | .test reply request _ | .wait reply request _ | .isend reply _ _ _ _ _ _ request
  | .cfiIsend reply _ _ _ _ _ _ request | .irecv reply _ _ _ _ _ _ request
  | .cfiIrecv reply _ _ _ _ _ _ request | .imrecv reply _ _ _ _ request
  | .cfiImrecv reply _ _ _ _ request => [⟨.request, request, reply.request⟩]
  | .testall reply count first _ _ | .testsome reply count first _ _ _
  | .testany reply count first _ _ _ | .waitsome reply count first _ _ _
  | .waitany reply count first _ _ => requestsHanded mpi reply count first
  | .waitall reply count first statuses =>
      if statuses = program.process.sentinels.statusesIgnore ∨
          mpi.allocates (toSizeT (count * sizeofStatus mpi.statusAbi)) then
        requestsHanded mpi reply count first
      else []
  | .mrecv .. | .cfiMrecv .. => []

/-- The variable of the message that a call has consumed. -/
def consumed : HandleCall → Option Nat
  | .mrecv reply _ _ _ message _ | .cfiMrecv reply _ _ _ message _
  | .imrecv reply _ _ _ message _ | .cfiImrecv reply _ _ _ message _ =>
      if reply.message = mpi.handle .messageNull then some message else none
  | _ => none

end HandleCall

end Runs

end Vapaa
