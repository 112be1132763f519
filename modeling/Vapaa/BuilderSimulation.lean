import Vapaa.DatatypeBuilder

/-!
# Builders on two machines

Relations between two machines that each of their steps keeps are kept by the builder.
-/

set_option autoImplicit false

namespace Vapaa

open Foundation Builder

variable {loop loop' run run' : Type → Type} [Monad loop] [Monad loop'] [Monad run] [Monad run']

/-- What relates the reads, the rounds and the calls of two machines, and is kept by what both put
them together with. -/
structure Simulation (left : Machine loop run) (right : Machine loop' run') where
  Reads : {α : Type} → loop α → loop' α → Prop
  Flows : {σ : Type} → loop (Flow σ) → loop' (Flow σ) → Prop
  Runs : {α : Type} → run α → run' α → Prop
  reads_pure : ∀ {α : Type} (value : α), Reads (pure value) (pure value)
  reads_bind : ∀ {α β : Type} {first : loop α} {first' : loop' α} {next : α → loop β}
    {next' : α → loop' β}, Reads first first' → (∀ value, Reads (next value) (next' value)) →
      Reads (first >>= next) (first' >>= next')
  reads_record : ∀ (desc : CDesc) (i : Nat), Reads (left.record desc i) (right.record desc i)
  flows_bind : ∀ {α σ : Type} {first : loop α} {first' : loop' α} {next : α → loop (Flow σ)}
    {next' : α → loop' (Flow σ)}, Reads first first' →
      (∀ value, Flows (next value) (next' value)) → Flows (first >>= next) (first' >>= next')
  flows_loop : ∀ {σ : Type} {body : Nat → σ → loop (Flow σ)} {body' : Nat → σ → loop' (Flow σ)}
    (bound : Int), (∀ i state, Flows (body i state) (body' i state)) →
      ∀ state, Flows (left.forLoop bound body state) (right.forLoop bound body' state)
  flows_pure : ∀ {σ : Type} (flow : Flow σ), Flows (pure flow) (pure flow)
  flows_placed : ∀ {σ : Type} {body body' : Int → σ → Flow σ} (strides : List Int)
    (index : List Nat) (state : σ),
    (∀ displacement, Flows (pure (body displacement state)) (pure (body' displacement state))) →
      Flows (pure (Flow.ofResult (displace left strides index) fun displacement =>
          body displacement state))
        (pure (Flow.ofResult (displace right strides index) fun displacement =>
          body' displacement state))
  flows_pushed : ∀ (base displacement : Int) (filling : Filling),
    Flows (pure (pushAddress left base displacement filling))
      (pure (pushAddress right base displacement filling))
  runs_pure : ∀ {α : Type} (value : α), Runs (pure value) (pure value)
  runs_bind : ∀ {α β : Type} {first : run α} {first' : run' α} {next : α → run β}
    {next' : α → run' β}, Runs first first' → (∀ value, Runs (next value) (next' value)) →
      Runs (first >>= next) (first' >>= next')
  runs_call : ∀ {α : Type} (call : Call α), Runs (left.call call) (right.call call)
  runs_rounds : ∀ {α : Type} {reads : loop α} {reads' : loop' α}, Reads reads reads' →
    Runs (left.rounds reads) (right.rounds reads')
  runs_landed : ∀ {α σ : Type} {flow : loop (Flow σ)} {flow' : loop' (Flow σ)} {next : σ → run α}
    {next' : σ → run' α}, Flows flow flow' → (∀ state, Runs (next state) (next' state)) →
      Runs (left.rounds flow >>= fun flow => left.call (Run.ofOutcome flow.land) >>= next)
        (right.rounds flow' >>= fun flow => right.call (Run.ofOutcome flow.land) >>= next')

namespace Simulation

variable {left : Machine loop run} {right : Machine loop' run'} (sim : Simulation left right)
variable (mpi : Mpi) (desc : CDesc)

section Rounds

variable {σ α : Type}

private theorem call_bind {β : Type} (call : Call α) {next : α → run β} {next' : α → run' β}
    (rest : ∀ value, sim.Runs (next value) (next' value)) :
    sim.Runs (left.call call >>= next) (right.call call >>= next') :=
  sim.runs_bind (sim.runs_call call) rest

private theorem runs_readDim (i : Nat) : sim.Runs (readDim left desc i) (readDim right desc i) :=
  sim.runs_rounds (sim.reads_record desc i)

private theorem readDim_bind {β : Type} (i : Nat) {next : Dim → run β} {next' : Dim → run' β}
    (rest : ∀ dim, sim.Runs (next dim) (next' dim)) :
    sim.Runs (readDim left desc i >>= next) (readDim right desc i >>= next') :=
  sim.runs_bind (sim.runs_readDim desc i) rest

private theorem reads_extentOr1 (k : Nat) : sim.Reads (extentOr1 left desc k)
    (extentOr1 right desc k) := by
  unfold extentOr1
  split
  · exact sim.reads_bind (sim.reads_record desc k) fun _ => sim.reads_pure _
  · exact sim.reads_pure 1

private theorem reads_strideOr0 (k : Nat) : sim.Reads (strideOr0 left desc k)
    (strideOr0 right desc k) := by
  unfold strideOr0
  split
  · exact sim.reads_bind (sim.reads_record desc k) fun _ => sim.reads_pure _
  · exact sim.reads_pure 0

private theorem reads_stride (k : Nat) : sim.Reads (stride left desc k) (stride right desc k) :=
  sim.reads_bind (sim.reads_record desc k) fun _ => sim.reads_pure _

private theorem flows_loopsOver {strideOf : Nat → loop Int} {strideOf' : Nat → loop' Int}
    {body body' : Int → σ → Flow σ} (strides : ∀ k, sim.Reads (strideOf k) (strideOf' k))
    (extents : List Int)
    (bodies : ∀ displacement state,
      sim.Flows (pure (body displacement state)) (pure (body' displacement state)))
    (count : Nat) (passed : List Int) (index : List Nat) (state : σ) :
    sim.Flows (loopsOver left strideOf extents body count passed index state)
      (loopsOver right strideOf' extents body' count passed index state) := by
  induction count generalizing passed index state with
  | zero => exact sim.flows_placed passed index state fun displacement => bodies displacement state
  | succ count ih =>
      exact sim.flows_loop _ (fun i state =>
        sim.flows_bind (strides count) fun stride => ih (stride :: passed) (i :: index) state) state

private theorem reads_readExtents (dimensions : List Nat) :
    sim.Reads (readExtents left desc dimensions) (readExtents right desc dimensions) := by
  induction dimensions with
  | nil => exact sim.reads_pure []
  | cons k dimensions ih =>
      exact sim.reads_bind (sim.reads_extentOr1 desc k) fun _ =>
        sim.reads_bind ih fun _ => sim.reads_pure _

private theorem runs_extents15d :
    sim.Runs (left.rounds (extents15d left desc)) (right.rounds (extents15d right desc)) :=
  sim.runs_rounds (sim.reads_readExtents desc _)

/-- Both loops place as loops of the same kind do. -/
def Looped (loops : (Int → Filling → Flow Filling) → Filling → loop (Flow Filling))
    (loops' : (Int → Filling → Flow Filling) → Filling → loop' (Flow Filling)) : Prop :=
  ∀ body body' state,
    (∀ displacement state,
      sim.Flows (pure (body displacement state)) (pure (body' displacement state))) →
      sim.Flows (loops body state) (loops' body' state)

private theorem looped15d (extents : List Int) :
    sim.Looped (loops15d left desc extents) (loops15d right desc extents) := by
  intro body body' state bodies
  exact sim.flows_loopsOver (sim.reads_strideOr0 desc) extents bodies 15 [] [] state

private theorem looped2d (extent0 extent1 : Int) :
    sim.Looped (loops2d left desc extent0 extent1)
      (loops2d right desc extent0 extent1) := by
  intro body body' state bodies
  exact sim.flows_loopsOver (sim.reads_stride desc) _ bodies 2 [] [] state

private theorem looped3d (extent0 extent1 extent2 : Int) :
    sim.Looped (loops3d left desc extent0 extent1 extent2)
      (loops3d right desc extent0 extent1 extent2) := by
  intro body body' state bodies
  exact sim.flows_loopsOver (sim.reads_stride desc) _ bodies 3 [] [] state

end Rounds

section Constructions

variable {loops : (Int → Filling → Flow Filling) → Filling → loop (Flow Filling)}
variable {loops' : (Int → Filling → Flow Filling) → Filling → loop' (Flow Filling)}
variable (count elementDatatype inputDatatype arrayDatatype : Int)

/-- Ends a construction: the assertion about its code, and its return. -/
theorem checked (result : Int × Int) :
    sim.Runs
      (do
        left.call (vapaaAssert mpi (result.1 = mpi.errorClass .success))
        return (mpi.errorClass .success, result.2))
      (do
        right.call (vapaaAssert mpi (result.1 = mpi.errorClass .success))
        return (mpi.errorClass .success, result.2)) :=
  sim.call_bind _ fun _ => sim.runs_pure _

theorem warned {α : Type} (text : String) (value : α) :
    sim.Runs
      (do
        left.call (vapaaWarning text)
        return value)
      (do
        right.call (vapaaWarning text)
        return value) :=
  sim.call_bind _ fun _ => sim.runs_pure _

theorem fillArrays (looped : sim.Looped loops loops') :
    sim.Runs (Builder.fillArrays left mpi count loops)
      (Builder.fillArrays right mpi count loops') := by
  refine sim.call_bind _ fun _ => sim.call_bind _ fun _ => sim.call_bind _ fun _ => ?_
  exact sim.runs_landed (looped _ _ _ fun displacement state => sim.flows_pure _) fun _ =>
    sim.runs_pure _

theorem createSingles (looped : sim.Looped loops loops') (element : Call Int) :
    sim.Runs (Builder.createSingles left mpi count loops element arrayDatatype)
      (Builder.createSingles right mpi count loops' element arrayDatatype) :=
  sim.runs_bind (sim.fillArrays mpi count looped) fun _ => sim.call_bind _ fun _ =>
    sim.call_bind _ fun result => sim.checked mpi result

theorem vapaaCfiCreateDatatype15d :
    sim.Runs (Builder.vapaaCfiCreateDatatype15d left mpi desc count inputDatatype arrayDatatype)
      (Builder.vapaaCfiCreateDatatype15d right mpi desc count inputDatatype arrayDatatype) := by
  refine sim.call_bind _ fun builtin => ?_
  cases builtin with
  | true =>
      exact sim.runs_bind (sim.runs_extents15d desc) fun extents =>
        sim.createSingles mpi count arrayDatatype (sim.looped15d desc extents) _
  | false => exact sim.warned _ _

theorem warnLowerBounds (dimensions : List Nat) :
    sim.Runs (Builder.warnLowerBounds left desc dimensions)
      (Builder.warnLowerBounds right desc dimensions) := by
  induction dimensions with
  | nil => exact sim.runs_pure ()
  | cons i dimensions ih =>
      refine sim.readDim_bind desc i fun dim => ?_
      split
      · exact sim.readDim_bind desc i fun _ => sim.call_bind _ fun _ => ih
      · exact ih

theorem countElements (dimensions : List Nat) (totalElems : Int) :
    sim.Runs (Builder.countElements left mpi desc dimensions totalElems)
      (Builder.countElements right mpi desc dimensions totalElems) := by
  induction dimensions generalizing totalElems with
  | nil => exact sim.runs_pure _
  | cons i dimensions ih =>
      refine sim.readDim_bind desc i fun dim => sim.call_bind _ fun total => ?_
      split
      · exact sim.warned _ _
      · split
        · exact sim.warned _ _
        · exact sim.runs_bind (sim.warnLowerBounds desc _) fun _ => ih total

theorem createElements :
    sim.Runs (Builder.createElements left mpi desc count elementDatatype arrayDatatype)
      (Builder.createElements right mpi desc count elementDatatype arrayDatatype) :=
  sim.readDim_bind desc 0 fun _ => sim.call_bind _ fun result => sim.checked mpi result

theorem createContiguousRows (extent0 : Int) :
    sim.Runs
      (Builder.createContiguousRows left mpi desc count extent0 elementDatatype arrayDatatype)
      (Builder.createContiguousRows right mpi desc count extent0 elementDatatype arrayDatatype) :=
  sim.readDim_bind desc 1 fun _ => sim.call_bind _ fun _ => sim.call_bind _ fun result =>
    sim.checked mpi result

theorem createRows (extent0 stride0 : Int) :
    sim.Runs
      (Builder.createRows left mpi desc count extent0 stride0 elementDatatype arrayDatatype)
      (Builder.createRows right mpi desc count extent0 stride0 elementDatatype arrayDatatype) :=
  sim.call_bind _ fun _ => sim.call_bind _ fun _ => sim.readDim_bind desc 1 fun _ =>
    sim.call_bind _ fun _ => sim.call_bind _ fun _ => sim.call_bind _ fun _ =>
      sim.call_bind _ fun _ => sim.call_bind _ fun _ => sim.runs_pure _

theorem createPlane (elemLen extent0 extent1 : Int) :
    sim.Runs
      (Builder.createPlane left mpi desc count elemLen extent0 extent1 elementDatatype
        arrayDatatype)
      (Builder.createPlane right mpi desc count elemLen extent0 extent1 elementDatatype
        arrayDatatype) := by
  refine sim.call_bind _ fun partialRow => ?_
  split
  · refine sim.readDim_bind desc 0 fun dim => ?_
    dsimp only
    split
    · exact sim.createContiguousRows mpi desc _ _ _ _
    · exact sim.createRows mpi desc _ _ _ _ _
  · exact sim.createSingles mpi count arrayDatatype (sim.looped2d desc extent0 extent1) _

theorem createSpace (extent0 extent1 : Int) :
    sim.Runs
      (Builder.createSpace left mpi desc count extent0 extent1 elementDatatype arrayDatatype)
      (Builder.createSpace right mpi desc count extent0 extent1 elementDatatype arrayDatatype) :=
  sim.readDim_bind desc 2 fun _ =>
    sim.createSingles mpi count arrayDatatype (sim.looped3d desc extent0 extent1 _) _

theorem createPrefix (elemLen : Int) :
    sim.Runs
      (Builder.createPrefix left mpi desc count elemLen elementDatatype inputDatatype
        arrayDatatype)
      (Builder.createPrefix right mpi desc count elemLen elementDatatype inputDatatype
        arrayDatatype) := by
  refine sim.readDim_bind desc 0 fun dim0 => sim.readDim_bind desc 1 fun dim1 => ?_
  dsimp only
  split
  · exact sim.createElements mpi desc _ _ _
  · refine sim.call_bind _ fun planar => ?_
    cases planar with
    | true => exact sim.createPlane mpi desc _ _ _ _ _ _
    | false =>
        simp only [Bool.false_eq_true, if_false]
        split
        · exact sim.createSpace mpi desc _ _ _ _ _
        · split
          · exact sim.runs_bind (sim.vapaaCfiCreateDatatype15d mpi desc _ _ _) fun result =>
              sim.checked mpi result
          · exact sim.warned _ _

theorem createCounted (totalElems : Int) :
    sim.Runs
      (Builder.createCounted left mpi desc count totalElems elementDatatype inputDatatype
        arrayDatatype)
      (Builder.createCounted right mpi desc count totalElems elementDatatype inputDatatype
        arrayDatatype) := by
  unfold Builder.createCounted
  dsimp only
  split
  · exact sim.warned _ _
  · refine sim.runs_bind (sim.createPrefix mpi desc _ _ _ _ _) fun result => ?_
    split
    · exact sim.runs_pure _
    · exact sim.runs_call _

theorem countedElements :
    sim.Runs (Builder.countedElements left mpi desc) (Builder.countedElements right mpi desc) :=
  sim.call_bind _ fun _ => sim.runs_bind (sim.countElements mpi desc _ 1) fun _ => sim.runs_pure _

theorem createFromNamed :
    sim.Runs (Builder.createFromNamed left mpi desc count inputDatatype arrayDatatype)
      (Builder.createFromNamed right mpi desc count inputDatatype arrayDatatype) := by
  refine sim.runs_bind (sim.countedElements mpi desc) fun counted => ?_
  obtain ⟨element, rc | totalElems⟩ := counted
  · exact sim.runs_pure _
  · exact sim.createCounted mpi desc _ _ _ _ _

theorem vapaaCfiGetTotalElements (dimensions : List Nat) (totalElems : Int) :
    sim.Runs (Builder.vapaaCfiGetTotalElements left desc dimensions totalElems)
      (Builder.vapaaCfiGetTotalElements right desc dimensions totalElems) := by
  induction dimensions generalizing totalElems with
  | nil => exact sim.runs_pure totalElems
  | cons i dimensions ih => exact sim.readDim_bind desc i fun _ => sim.call_bind _ ih

theorem vapaaCfiCreateElementAddresses :
    sim.Runs (Builder.vapaaCfiCreateElementAddresses left mpi desc)
      (Builder.vapaaCfiCreateElementAddresses right mpi desc) := by
  refine sim.runs_bind (sim.vapaaCfiGetTotalElements desc _ 1) fun _ => sim.call_bind _ fun _ =>
    sim.runs_bind (sim.runs_extents15d desc) fun extents => ?_
  exact sim.runs_landed (sim.looped15d desc extents _ _ _ (sim.flows_pushed desc.baseAddr))
    fun _ => sim.runs_pure _

theorem vapaaCfiCreateIndexed :
    sim.Runs (Builder.vapaaCfiCreateIndexed left mpi desc count inputDatatype arrayDatatype)
      (Builder.vapaaCfiCreateIndexed right mpi desc count inputDatatype arrayDatatype) := by
  unfold Builder.vapaaCfiCreateIndexed
  cases mpi.iovSupport with
  | available =>
      exact sim.call_bind _ fun _ =>
        sim.runs_bind (sim.vapaaCfiCreateElementAddresses mpi desc) fun _ =>
          sim.call_bind _ fun _ => sim.call_bind _ fun _ => sim.call_bind _ fun _ =>
            sim.call_bind _ fun result => sim.checked mpi result
  | mpichTooOld => exact sim.runs_call _
  | notMpich => exact sim.warned _ _

/-- What relates the steps of two machines relates their builders. -/
theorem vapaaCfiCreateDatatype :
    sim.Runs (Builder.vapaaCfiCreateDatatype left mpi desc count inputDatatype arrayDatatype)
      (Builder.vapaaCfiCreateDatatype right mpi desc count inputDatatype arrayDatatype) := by
  refine sim.call_bind _ fun builtin => ?_
  cases builtin with
  | true => exact sim.createFromNamed mpi desc _ _ _
  | false =>
      exact sim.runs_bind (sim.vapaaCfiCreateIndexed mpi desc _ _ _) fun result =>
        sim.checked mpi result

end Constructions

end Simulation

end Vapaa
