import Vapaa.BuilderSimulation
import Vapaa.DimensionReads

/-! The builder that notes its reads does what the builder does. -/

set_option autoImplicit false

namespace Vapaa

open Foundation Builder Recorded Reading

/-- A run whose notes are erased. -/
def erasing : Simulation recording unbounded where
  Reads noted value := noted.value = value
  Flows noted flow := noted.value = flow
  Runs recorded run := recorded.erase = run
  reads_pure _ := rfl
  reads_bind first next := by
    subst first
    exact next _
  reads_record _ _ := rfl
  flows_bind first next := by
    subst first
    exact next _
  flows_loop bound bodies state := by
    rw [recording_forLoop, value_forLoopNoted]
    exact congrArg (forLoop bound · state) (funext fun i => funext fun state => bodies i state)
  flows_pure _ := rfl
  flows_placed strides index _ bodies :=
    congrArg (Flow.ofResult (displace unbounded strides index)) (funext bodies)
  flows_pushed _ _ _ := rfl
  runs_pure _ := rfl
  runs_bind first next := by
    rw [erase_bind, first]
    exact congrArg _ (funext next)
  runs_call _ := rfl
  runs_rounds reads := by
    rw [recording_rounds, erase_noted, reads]
    rfl
  runs_landed flows next := by
    simp only [recording_rounds, recording_call, erase_bind, erase_noted, erase_run, flows, next]
    rfl

section Builder

variable {mpi : Mpi} {desc : CDesc}

/-- Without its notes, the builder above is the builder. -/
theorem erase_vapaaCfiCreateDatatype (count inputDatatype arrayDatatype : Int) :
    (Reading.vapaaCfiCreateDatatype mpi desc count inputDatatype arrayDatatype).erase =
      vapaaCfiCreateDatatype mpi desc count inputDatatype arrayDatatype :=
  erasing.vapaaCfiCreateDatatype mpi desc count inputDatatype arrayDatatype

@[simp] theorem erase_call {α : Type} (reading : Reading.Call α) :
    (Reading.call reading).erase = call reading.erase := rfl

theorem erase_cfiMpiSendrecv (reply : Reply) (sdesc : CDesc) (scount sdatatypeF dest stag : Int)
    (rdesc : CDesc) (rcount rdatatypeF src rtag commF status : Int) :
    (Reading.cfiMpiSendrecv mpi reply sdesc scount sdatatypeF dest stag rdesc rcount rdatatypeF
        src rtag commF status).erase =
      cfiMpiSendrecv mpi reply sdesc scount sdatatypeF dest stag rdesc rcount rdatatypeF src rtag
        commF status := by
  unfold Reading.cfiMpiSendrecv cfiMpiSendrecv sendrecvWith
  split
  · simp only [erase_bind, erase_run]
  · simp only [erase_bind, erase_run, erase_call, erase_vapaaCfiCreateDatatype]

end Builder

end Vapaa
