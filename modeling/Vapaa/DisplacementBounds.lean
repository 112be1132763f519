import Vapaa.BuilderProperties
import Vapaa.BuilderSimulation

/-!
# Builds whose displacements have 64 bits

The builder computes displacements as `MPI_Aint` and addresses as `intptr_t`, and an overflow of
these is undefined. Otherwise it builds as without bounds. Sections whose elements have addresses
never overflow.
-/

set_option autoImplicit false

namespace Vapaa

open Foundation Builder

section Overflow

/-- A run that ends in an overflow, or as another does. -/
def OverflowsOr {α : Type} (first second : Call α) : Prop :=
  ∀ world, first world = .undefined .overflow ∨ first world = second world

theorem OverflowsOr.bind {α β : Type} {first second : Call α} {next next' : α → Call β}
    (starts : OverflowsOr first second) (rest : ∀ value, OverflowsOr (next value) (next' value)) :
    OverflowsOr (first >>= next) (second >>= next') := by
  intro world
  rw [Run.bind_apply, Run.bind_apply]
  obtain overflows | same := starts world
  · rw [overflows]
    exact Or.inl rfl
  · rw [same]
    cases second world with
    | returned result => exact rest result.1 result.2
    | aborted => exact Or.inr rfl
    | undefined fault => exact Or.inr rfl

/-- Either the sums overflow, or they make no difference. -/
def overflowing : Simulation ptrdiff unbounded where
  Reads first second := first = second
  Flows first second := first = .undefined .overflow ∨ first = second
  Runs := OverflowsOr
  reads_pure _ := rfl
  reads_bind first next := by
    subst first
    exact congrArg _ (funext next)
  reads_record _ _ := rfl
  flows_bind first next := by
    subst first
    exact next _
  flows_loop bound bodies state := iterate_of_faults bodies _ state
  flows_pure _ := Or.inr rfl
  flows_placed {σ} body body' strides index state bodies := by
    have unboundedSum : displace unbounded strides index =
        some (0 + MixedRadix.dot strides index) :=
      MixedRadix.boundedDot_of_unbounded strides index 0
    cases result : displace ptrdiff strides index with
    | none => exact Or.inl rfl
    | some displacement =>
        obtain ⟨rfl, -⟩ := MixedRadix.boundedDot_eq_some result
        rw [unboundedSum]
        exact bodies _
  flows_pushed base displacement filling := by
    by_cases fits : Fits64 (base + displacement)
    · exact Or.inr (if_pos fits)
    · exact Or.inl (if_neg fits)
  runs_pure _ _ := Or.inr rfl
  runs_bind := OverflowsOr.bind
  runs_call _ _ := Or.inr rfl
  runs_rounds reads _ := by
    subst reads
    exact Or.inr rfl
  runs_landed {α σ flow flow' next next'} flows rest := by
    obtain rfl | rfl := flows
    · exact fun _ => Or.inl rfl
    · exact OverflowsOr.bind (fun _ => Or.inr rfl) fun _ =>
        OverflowsOr.bind (fun _ => Or.inr rfl) rest

/-- A build overflows, or does what the same build does without bounds. -/
theorem ptrdiff_createDatatype_overflowsOr (mpi : Mpi) (desc : CDesc)
    (count inputDatatype arrayDatatype : Int) :
    OverflowsOr (Ptrdiff.vapaaCfiCreateDatatype mpi desc count inputDatatype arrayDatatype)
      (vapaaCfiCreateDatatype mpi desc count inputDatatype arrayDatatype) :=
  overflowing.vapaaCfiCreateDatatype mpi desc count inputDatatype arrayDatatype

end Overflow

/-- Every element has a displacement and an address that the machine can compute. -/
def CDesc.Representable (desc : CDesc) : Prop :=
  ∀ n, n < desc.elements → Fits64 (desc.displacement n) ∧ Fits64 (desc.address n)

instance (desc : CDesc) : Decidable desc.Representable :=
  inferInstanceAs (Decidable (∀ n, n < desc.elements → _))

section Loops

variable {σ : Type} {desc : CDesc}

theorem CDesc.Representable.fits_within (representable : desc.Representable) {index : List Nat}
    (within : MixedRadix.Within desc.shape index) :
    Fits64 (MixedRadix.dot desc.strides index) ∧
      Fits64 (desc.baseAddr + MixedRadix.dot desc.strides index) := by
  have below : MixedRadix.number desc.shape index < desc.elements := MixedRadix.number_lt within
  have placed := representable _ below
  rwa [CDesc.address, CDesc.displacement_eq_dot below, MixedRadix.digits_number within] at placed

/-- The elements of an array are also those of its leading dimensions. -/
theorem CDesc.Representable.fits_leading (representable : desc.Representable)
    (present : 0 < desc.elements) {k : Nat} {index : List Nat}
    (within : MixedRadix.Within (desc.shape.take k) index) :
    Fits64 (MixedRadix.dot (desc.strides.take k) index) := by
  have rest : 0 < (desc.shape.drop k).prod := by
    rw [CDesc.elements, ← List.prod_take_mul_prod_drop desc.shape k] at present
    exact Nat.pos_of_mul_pos_left present
  have whole := MixedRadix.within_leading within rest
  rw [List.take_append_drop] at whole
  have sameLength : (desc.strides.take k).length = index.length := by
    rw [List.Forall₂.length_eq within, List.length_take, List.length_take,
      CDesc.length_strides, CDesc.length_shape]
  have placed := (representable.fits_within whole).1
  rwa [← List.take_append_drop k desc.strides, MixedRadix.dot_leading sameLength] at placed

/-- Extents do not grow by their conversion to `int`. -/
theorem toInt_toNat_le {extent : Int} (nonneg : 0 ≤ extent) :
    (toInt extent).toNat ≤ extent.toNat := by
  simp only [toInt]
  omega

theorem CDesc.Sized.convertedShape_le (sized : desc.Sized) :
    List.Forall₂ (· ≤ ·) desc.convertedShape desc.shape := by
  rw [CDesc.convertedShape, CDesc.shape, CDesc.extents, List.map_map, List.forall₂_map_left_iff,
    List.forall₂_map_right_iff, List.forall₂_same]
  intro k member
  exact toInt_toNat_le (sized k (List.mem_range.mp member))

private theorem within_of_le {smaller bases index : List Nat}
    (within : MixedRadix.Within smaller index) (below : List.Forall₂ (· ≤ ·) smaller bases) :
    MixedRadix.Within bases index := by
  induction within generalizing bases with
  | nil =>
      cases below
      exact List.Forall₂.nil
  | cons first _ ih =>
      cases below with
      | cons base rest => exact List.Forall₂.cons (lt_of_lt_of_le first base) (ih rest)

/-- The fifteen loops stay within the array. -/
theorem CDesc.Representable.fits_15d (sized : desc.Sized) (representable : desc.Representable)
    {index : List Nat}
    (within : MixedRadix.Within ((extents15d ptrdiff desc : List Int).map Int.toNat) index) :
    Fits64 (MixedRadix.dot desc.strides15d index) := by
  rw [extents15d_plain, map_toNat_extents15d] at within
  have below := MixedRadix.number_lt within
  rw [MixedRadix.prod_padded] at below
  rw [← MixedRadix.digits_number within, CDesc.strides15d,
    MixedRadix.dot_digits_padded (by simp [CDesc.convertedShape])]
  exact (representable.fits_within (within_of_le (MixedRadix.digits_within below)
    sized.convertedShape_le)).1

theorem ptrdiff_loops15d_eq (sized : desc.Sized) (representable : desc.Representable)
    (body : Int → σ → Flow σ) (state : σ) :
    loops15d ptrdiff desc (extents15d ptrdiff desc) body state =
      loops15d unbounded desc (extents15d unbounded desc) body state := by
  rw [loops15d_eq_nestPlaced, loops15d_eq_nestPlaced]
  exact nestPlaced_of_fits (fun _ => representable.fits_15d sized) body state

/-- Loops over leading dimensions stay within an array that has elements. -/
theorem nestPlaced_leading (sized : desc.Sized) (representable : desc.Representable)
    (present : 0 < desc.elements) {k : Nat} (ranked : k ≤ desc.rank) (body : Int → σ → Flow σ)
    (state : σ) :
    nestPlaced Fits64 ((List.range k).map fun i => toInt (desc.record i).extent)
        ((List.range k).map fun i => (desc.record i).sm) body state =
      nestPlaced (fun _ => True) ((List.range k).map fun i => toInt (desc.record i).extent)
        ((List.range k).map fun i => (desc.record i).sm) body state := by
  apply nestPlaced_of_fits
  intro index within
  have bases : desc.shape.take k = (List.range k).map fun i => (desc.record i).extent.toNat := by
    rw [CDesc.shape, CDesc.extents, List.map_map, ← List.map_take, List.take_range,
      Nat.min_eq_left ranked]
    rfl
  have strides : desc.strides.take k = (List.range k).map fun i => (desc.record i).sm := by
    rw [CDesc.strides, ← List.map_take, List.take_range, Nat.min_eq_left ranked]
  rw [← strides]
  apply representable.fits_leading present
  rw [bases]
  apply within_of_le within
  rw [List.map_map, List.forall₂_map_left_iff, List.forall₂_map_right_iff, List.forall₂_same]
  intro i member
  exact toInt_toNat_le (sized i (lt_of_lt_of_le (List.mem_range.mp member) ranked))

private theorem ptrdiff_loops2d_eq (sized : desc.Sized) (representable : desc.Representable)
    (present : 0 < desc.elements) (ranked : 2 ≤ desc.rank) :
    (loops2d ptrdiff desc (toInt (desc.record 0).extent) (toInt (desc.record 1).extent) :
        (Int → σ → Flow σ) → σ → Flow σ) =
      loops2d unbounded desc (toInt (desc.record 0).extent) (toInt (desc.record 1).extent) := by
  funext body state
  rw [loops2d_eq_nestPlaced, loops2d_eq_nestPlaced]
  exact nestPlaced_leading sized representable present ranked body state

private theorem ptrdiff_loops3d_eq (sized : desc.Sized) (representable : desc.Representable)
    (present : 0 < desc.elements) (ranked : 3 ≤ desc.rank) :
    (loops3d ptrdiff desc (toInt (desc.record 0).extent) (toInt (desc.record 1).extent)
        (toInt (desc.record 2).extent) : (Int → σ → Flow σ) → σ → Flow σ) =
      loops3d unbounded desc (toInt (desc.record 0).extent) (toInt (desc.record 1).extent)
        (toInt (desc.record 2).extent) := by
  funext body state
  rw [loops3d_eq_nestPlaced, loops3d_eq_nestPlaced]
  exact nestPlaced_leading sized representable present ranked body state

end Loops

section Equalities

variable {mpi : Mpi} {desc : CDesc}

private theorem ptrdiff_createDatatype15d_eq (sized : desc.Sized)
    (representable : desc.Representable)
    (count inputDatatype arrayDatatype : Int) :
    Builder.vapaaCfiCreateDatatype15d ptrdiff mpi desc count inputDatatype arrayDatatype =
      vapaaCfiCreateDatatype15d mpi desc count inputDatatype arrayDatatype := by
  have same : (loops15d ptrdiff desc (extents15d ptrdiff desc) :
        (Int → Filling → Flow Filling) → Filling → Flow Filling) =
      loops15d unbounded desc (extents15d unbounded desc) := by
    funext body state
    exact ptrdiff_loops15d_eq sized representable body state
  unfold Vapaa.vapaaCfiCreateDatatype15d Builder.vapaaCfiCreateDatatype15d
  simp only [plain_call, plain_rounds, pure_bind, same]
  rfl

/-- Addresses are computed as without bounds, and they fit too. -/
theorem ptrdiff_createElementAddresses_eq (sized : desc.Sized)
    (representable : desc.Representable) :
    Ptrdiff.vapaaCfiCreateElementAddresses mpi desc = vapaaCfiCreateElementAddresses mpi desc := by
  have same (state : Filling) :
      loops15d ptrdiff desc (extents15d ptrdiff desc) (pushAddress ptrdiff desc.baseAddr) state =
        loops15d unbounded desc (extents15d unbounded desc)
          (pushAddress unbounded desc.baseAddr) state := by
    rw [ptrdiff_loops15d_eq sized representable, loops15d_eq_iterate_converted,
      loops15d_eq_iterate_converted, iterate_map, iterate_map]
    apply iterate_congr
    intro n member
    have within := within_of_le (MixedRadix.digits_within (List.mem_range.mp member))
      sized.convertedShape_le
    funext filling
    exact if_pos (representable.fits_within within).2
  unfold Ptrdiff.vapaaCfiCreateElementAddresses Vapaa.vapaaCfiCreateElementAddresses
    Builder.vapaaCfiCreateElementAddresses
  simp only [plain_call, plain_rounds, pure_bind, Builder.vapaaCfiGetTotalElements_plain, same]

private theorem ptrdiff_createPlane_eq (sized : desc.Sized) (representable : desc.Representable)
    (present : 0 < desc.elements) (ranked : 2 ≤ desc.rank)
    (count elemLen elementDatatype arrayDatatype : Int) :
    createPlane ptrdiff mpi desc count elemLen (toInt (desc.record 0).extent)
        (toInt (desc.record 1).extent) elementDatatype arrayDatatype =
      createPlane unbounded mpi desc count elemLen (toInt (desc.record 0).extent)
        (toInt (desc.record 1).extent) elementDatatype arrayDatatype := by
  simp only [createPlane, ptrdiff_loops2d_eq sized representable present ranked]
  rfl

private theorem ptrdiff_createSpace_eq (sized : desc.Sized) (representable : desc.Representable)
    (present : 0 < desc.elements) (ranked : 3 ≤ desc.rank)
    (count elementDatatype arrayDatatype : Int) :
    createSpace ptrdiff mpi desc count (toInt (desc.record 0).extent)
        (toInt (desc.record 1).extent) elementDatatype arrayDatatype =
      createSpace unbounded mpi desc count (toInt (desc.record 0).extent)
        (toInt (desc.record 1).extent) elementDatatype arrayDatatype := by
  simp only [createSpace, readDim_plain, pure_bind,
    ptrdiff_loops3d_eq sized representable present ranked]
  rfl

/-- Beyond the first column, a prefix of an array is listed within the array. -/
theorem ptrdiff_createPrefix_eq (sized : desc.Sized) (representable : desc.Representable)
    (ranked : 1 ≤ desc.rank) {count : Int} (within : count ≤ desc.elements)
    (fit : desc.IntExtents) (elemLen elementDatatype inputDatatype arrayDatatype : Int) :
    createPrefix ptrdiff mpi desc count elemLen elementDatatype inputDatatype arrayDatatype =
      createPrefix unbounded mpi desc count elemLen elementDatatype inputDatatype
        arrayDatatype := by
  by_cases column : desc.rank = 1 ∨ count ≤ toInt (desc.record 0).extent
  · simp only [createPrefix, readDim_plain, pure_bind, if_pos column]
    rfl
  · obtain ⟨several, beyond⟩ := not_or.mp column
    have first : toInt (desc.record 0).extent = (desc.record 0).extent := by
      rw [record_of_lt ranked]
      exact fit ⟨0, ranked⟩
    have present : 0 < desc.elements := by
      have nonneg := sized 0 ranked
      omega
    simp only [createPrefix, readDim_plain, pure_bind, if_neg column,
      ptrdiff_createPlane_eq sized representable present (show 2 ≤ desc.rank by omega)]
    by_cases space : desc.rank = 3
    · simp only [if_pos space, ptrdiff_createSpace_eq sized representable present space.ge]
      rfl
    · simp only [if_neg space, ptrdiff_createDatatype15d_eq sized representable]
      rfl

private theorem ptrdiff_warnLowerBounds_eq (desc : CDesc) (dimensions : List Nat) :
    warnLowerBounds ptrdiff desc dimensions = warnLowerBounds unbounded desc dimensions := by
  induction dimensions with
  | nil => rfl
  | cons i dimensions ih => simp only [warnLowerBounds, readDim_plain, plain_call, ih]

private theorem ptrdiff_countElements_eq (desc : CDesc) (dimensions : List Nat) (totalElems : Int) :
    countElements ptrdiff mpi desc dimensions totalElems =
      countElements unbounded mpi desc dimensions totalElems := by
  induction dimensions generalizing totalElems with
  | nil => rfl
  | cons i dimensions ih =>
      simp only [countElements, readDim_plain, plain_call, ptrdiff_warnLowerBounds_eq, ih]

private theorem ptrdiff_createFromNamed_eq (sized : desc.Sized) (representable : desc.Representable)
    (ranked : 1 ≤ desc.rank) (count inputDatatype arrayDatatype : Int) :
    createFromNamed ptrdiff mpi desc count inputDatatype arrayDatatype =
      createFromNamed unbounded mpi desc count inputDatatype arrayDatatype := by
  simp only [createFromNamed, countedElements, plain_call, bind_assoc, pure_bind,
    ptrdiff_countElements_eq]
  refine congrArg (vapaaCfiToMpiType mpi desc.type >>= ·) ?_
  funext element world
  obtain ⟨counted, counting, -, countable⟩ | ⟨rc, counted, counting, -⟩ | ⟨counting, -⟩ :=
    countElements_whole mpi desc world
  · rw [Run.bind_of_returned counting, Run.bind_of_returned counting]
    by_cases overrun : desc.leadingElements desc.rank < count
    · simp only [createCounted, if_pos overrun]
      rfl
    · have within : count ≤ desc.elements := by
        rw [← sized.leadingElements_rank]
        exact not_lt.mp overrun
      simp only [createCounted, if_neg overrun, plain_call,
        ptrdiff_createPrefix_eq sized representable ranked within
          (countable.intExtents sized.wellFormed)]
  · rw [Run.bind_of_returned counting, Run.bind_of_returned counting]
  · simp only [Run.bind_apply, counting, Outcome.undefined_bind]

/-- Where every element has an address, the bounds of displacements make no difference. -/
theorem ptrdiff_createDatatype_eq (sized : desc.Sized) (representable : desc.Representable)
    (ranked : 1 ≤ desc.rank) (count inputDatatype arrayDatatype : Int) :
    Ptrdiff.vapaaCfiCreateDatatype mpi desc count inputDatatype arrayDatatype =
      vapaaCfiCreateDatatype mpi desc count inputDatatype arrayDatatype := by
  have addresses := @ptrdiff_createElementAddresses_eq mpi desc sized representable
  unfold Ptrdiff.vapaaCfiCreateElementAddresses Vapaa.vapaaCfiCreateElementAddresses at addresses
  have indexed : Builder.vapaaCfiCreateIndexed ptrdiff mpi desc count inputDatatype arrayDatatype =
      Builder.vapaaCfiCreateIndexed unbounded mpi desc count inputDatatype arrayDatatype := by
    unfold Builder.vapaaCfiCreateIndexed
    simp only [addresses, plain_call]
  unfold Ptrdiff.vapaaCfiCreateDatatype Vapaa.vapaaCfiCreateDatatype Builder.vapaaCfiCreateDatatype
  simp only [plain_call, ptrdiff_createFromNamed_eq sized representable ranked, indexed]

end Equalities

end Vapaa
