import Vapaa.BlockCollectives
import Vapaa.SectionEndings

/-!
# Arguments that are significant only at the root

A rank that is not the root passes one side of a gather or a scatter that the library ignores.
The wrappers prepare it all the same, so that it decides how the call ends.
-/

set_option autoImplicit false

namespace Vapaa

open Foundation

namespace TypeStore.Extends

variable {mpi : Mpi} {before after : TypeStore} {desc : CDesc} {count datatype : Int}

end TypeStore.Extends

/-- The arguments for one side of a gather or a scatter. -/
structure Side where
  desc : CDesc
  count : Int
  datatypeF : Int

namespace Side

def datatype (mpi : Mpi) (side : Side) : Int := cMpiTypeF2c mpi side.datatypeF

/-- The count is an `int`, and the datatype is not one that is yet to be made. -/
structure Argument (mpi : Mpi) (types : TypeStore) (side : Side) : Prop where
  small : side.count ≤ intMax
  issued : side.datatype mpi < types.next

/-- How the preparation of a side ends. -/
noncomputable def ending (mpi : Mpi) (types : TypeStore) (side : Side) : Ending :=
  open Classical in
  if mpi.cfiIsContiguous side.desc = 1 then .returned
  else if side.desc.Passes mpi types side.count (side.datatype mpi) then .returned
  else if side.desc.Defined mpi types side.count (side.datatype mpi) then .aborted
  else .undefined

/-- The buffer that is passed for a side. -/
def buffer (mpi : Mpi) (process : Process) (side : Side) : Buffer where
  address :=
    if side.desc.baseAddr = process.sentinels.inPlace then mpi.inPlace else side.desc.baseAddr
  count := if mpi.cfiIsContiguous side.desc = 1 then side.count else 1
  object :=
    if mpi.cfiIsContiguous side.desc = 1 then process.world.types.object (side.datatype mpi)
    else (side.desc.built mpi process.world.types side.count (side.datatype mpi)).map
      fun layout => { combiner := .derived, layout := layout, committed := true }

/-- What the preparation of a side passes, and the datatypes that are there then. -/
def Opened (mpi : Mpi) (before after : TypeStore) (side : Side) (passed : Int × Int) : Prop :=
  if mpi.cfiIsContiguous side.desc = 1 then
    after = before ∧ passed = (side.count, side.datatype mpi)
  else passed.1 = 1 ∧ ∃ layout,
    side.desc.built mpi before side.count (side.datatype mpi) = some layout ∧
      TypeStore.Creates before after passed.2
        { combiner := .derived, layout := layout, committed := true }

section Opening

variable {mpi : Mpi} {side : Side} {process : Process} {before after later : TypeStore}
variable {passed : Int × Int}

namespace Opened

theorem extended (opened : side.Opened mpi before after passed) : before.Extends after := by
  rw [Opened] at opened
  split_ifs at opened with contiguous
  · rw [opened.1]
    exact TypeStore.Extends.refl before
  · obtain ⟨-, layout, -, creates⟩ := opened
    exact creates.extended

theorem live (opened : side.Opened mpi before after passed)
    (scattered : mpi.cfiIsContiguous side.desc ≠ 1) : ∃ layout committed,
    after.object passed.2 =
      some { combiner := .derived, layout := layout, committed := committed } := by
  rw [Opened, if_neg scattered] at opened
  obtain ⟨-, layout, -, creates⟩ := opened
  exact ⟨layout, true, creates.live⟩

theorem unused (opened : side.Opened mpi before after passed)
    (scattered : mpi.cfiIsContiguous side.desc ≠ 1) : before.object passed.2 = none := by
  rw [Opened, if_neg scattered] at opened
  obtain ⟨-, layout, -, creates⟩ := opened
  exact creates.unused

end Opened

theorem Argument.of_extends (argument : side.Argument mpi before)
    (extended : before.Extends after) : side.Argument mpi after where
  small := argument.small
  issued := lt_of_lt_of_le argument.issued extended.later

end Opening

end Side

inductive RootCollective where
  | gather
  | scatter
  deriving DecidableEq, Repr

/-- What a rank that is not the root asks the library to transfer. -/
structure RootTransfer where
  collective : RootCollective
  buffer : Buffer
  root : Int
  comm : Int
  deriving DecidableEq, Repr

/-- The part of a call of the library that is significant at a rank that is not the root. -/
def Issued.significant : Issued → Option RootTransfer
  | .gather input _ root comm => some ⟨.gather, input, root, comm⟩
  | .scatter _ output root comm => some ⟨.scatter, output, root, comm⟩
  | _ => none

namespace RootCollective

/-- The call, with the side that is significant at this rank and the other one. -/
def run (mpi : Mpi) (reply : Reply) (significant other : Side) (root commF : Int) :
    RootCollective → Wrapper Int
  | gather => cfiMpiGather mpi reply significant.desc significant.count significant.datatypeF
      other.desc other.count other.datatypeF root commF
  | scatter => cfiMpiScatter mpi reply other.desc other.count other.datatypeF
      significant.desc significant.count significant.datatypeF root commF

/-- The wrappers prepare the input before the output. -/
def input (significant other : Side) : RootCollective → Side
  | gather => significant
  | scatter => other

def output (significant other : Side) : RootCollective → Side
  | gather => other
  | scatter => significant

def communicate (reply : Reply) (root : Int) (collective : RootCollective)
    (inAddr inCount inType outAddr outCount outType comm : Int) : Wrapper Int :=
  match collective with
  | gather => mpiGather reply inAddr inCount inType outAddr outCount outType root comm
  | scatter => mpiScatter reply inAddr inCount inType outAddr outCount outType root comm

def issued (input output : Buffer) (root comm : Int) : RootCollective → Issued
  | gather => .gather input output root comm
  | scatter => .scatter input output root comm

/-- How the preparation of both sides ends. -/
noncomputable def ending (mpi : Mpi) (types : TypeStore) (significant other : Side)
    (collective : RootCollective) : Ending :=
  ((collective.input significant other).ending mpi types).andThen
    ((collective.output significant other).ending mpi types)

theorem run_eq (mpi : Mpi) (reply : Reply) (significant other : Side) (root commF : Int)
    (collective : RootCollective) :
    collective.run mpi reply significant other root commF =
      blockCollective mpi (collective.input significant other).desc
        (collective.input significant other).count
        (collective.input significant other).datatypeF
        (collective.output significant other).desc (collective.output significant other).count
        (collective.output significant other).datatypeF commF
        (collective.communicate reply root) := by
  cases collective <;> rfl

theorem communicate_apply (reply : Reply) (root : Int)
    (inAddr inCount inType outAddr outCount outType comm : Int) (process : Process)
    (collective : RootCollective) :
    collective.communicate reply root inAddr inCount inType outAddr outCount outType comm process =
      .returned (reply.rc, { process with
        issued := process.issued ++ [collective.issued
          (process.world.types.buffer inAddr inCount inType)
          (process.world.types.buffer outAddr outCount outType) root comm] }) := by
  cases collective <;> rfl

end RootCollective

section Calls

variable {mpi : Mpi} {process : Process} {reply : Reply} {input output significant other : Side}
variable {ierror root commF : Int} {collective : RootCollective}

end Calls

section Samples

end Samples

end Vapaa
