import Vapaa.DatatypeBuilder

/-! The displacements that the loops of the builder run through, and the type
that an enumeration makes of them. -/

set_option autoImplicit false

namespace Vapaa

open Foundation Builder

variable {σ : Type}

/-- Extents that an `int` can hold. -/
def CDesc.IntExtents (desc : CDesc) : Prop :=
  ∀ i : Fin desc.rank, toInt (desc.dim i).extent = (desc.dim i).extent

instance (desc : CDesc) : Decidable desc.IntExtents :=
  inferInstanceAs
    (Decidable (∀ i : Fin desc.rank, toInt (desc.dim i).extent = (desc.dim i).extent))

theorem record_of_lt {desc : CDesc} {k : Nat} (inside : k < desc.rank) :
    desc.record k = desc.dim ⟨k, inside⟩ :=
  dif_pos inside

private theorem map_range_15 {α : Type} (desc : CDesc) (f g : Nat → α) (unused : α)
    (within : ∀ k, k < desc.rank → f k = g k) (beyond : ∀ k, desc.rank ≤ k → f k = unused) :
    (List.range 15).map f =
      (List.range desc.rank).map g ++ List.replicate (15 - desc.rank) unused := by
  have rankBound : desc.rank ≤ 15 := desc.rank_le
  have split : 15 = desc.rank + (15 - desc.rank) := by omega
  have counted : List.range 15 =
      List.range desc.rank ++ (List.range (15 - desc.rank)).map (desc.rank + ·) := by
    conv_lhs => rw [split]
    exact List.range_add
  rw [counted, List.map_append, List.map_map]
  congr 1
  · apply List.map_congr_left
    intro k member
    exact within k (List.mem_range.mp member)
  · rw [List.eq_replicate_iff]
    refine ⟨by simp, ?_⟩
    intro value member
    obtain ⟨k, -, rfl⟩ := List.mem_map.mp member
    exact beyond (desc.rank + k) (by omega)

/-- The strides of the fifteen loops. -/
def CDesc.strides15d (desc : CDesc) : List Int :=
  desc.strides ++ List.replicate (15 - desc.rank) 0

private theorem strides15d_eq_map (desc : CDesc) :
    (List.range 15).map (fun k => if k < desc.rank then (desc.record k).sm else 0) =
      desc.strides15d := by
  apply map_range_15
  · intro k inside
    rw [if_pos inside]
  · intro k outside
    rw [if_neg (not_lt.mpr outside)]

section Nests

variable {fits : Int → Prop} [DecidablePred fits]

/-- Loops around a displacement, in an arithmetic that may not have it. -/
def nestPlaced (fits : Int → Prop) [DecidablePred fits] (bounds strides : List Int)
    (body : Int → σ → Flow σ) (state : σ) : Flow σ :=
  nest bounds (fun index state =>
    Flow.ofResult (MixedRadix.boundedDot fits strides index 0) fun displacement =>
      body displacement state) state

private theorem loopsOver_eq_nest (strideOf : Nat → Int) (extents : List Int)
    (body : Int → σ → Flow σ)
    (count : Nat) (strides : List Int) (index : List Nat) (state : σ) :
    loopsOver (plain fits) strideOf extents body count strides index state =
      nest ((List.range count).map fun k => extents.getD k 0)
        (fun inner state => Flow.ofResult (MixedRadix.boundedDot fits
            ((List.range count).map strideOf ++ strides) (inner ++ index) 0)
          fun displacement => body displacement state)
        state := by
  induction count generalizing strides index state with
  | zero => rfl
  | succ count ih =>
      simp only [List.range_succ, List.map_append, List.map_cons, List.map_nil,
        nest_append_singleton, List.append_assoc, List.cons_append, List.nil_append]
      exact congrArg (forLoop (extents.getD count 0) · state)
        (funext fun i => funext fun state => ih (strideOf count :: strides) (i :: index) state)

private theorem loopsOver_eq_nestPlaced (strideOf : Nat → Int) (extents : List Int)
    (body : Int → σ → Flow σ) (state : σ) :
    loopsOver (plain fits) strideOf extents body extents.length [] [] state =
      nestPlaced fits extents ((List.range extents.length).map strideOf) body state := by
  have bounds : ((List.range extents.length).map fun k => extents.getD k 0) = extents := by
    apply List.ext_getElem
    · simp
    · intro k below below'
      simp [List.getD_eq_getElem?_getD, List.getElem?_eq_getElem below']
  rw [loopsOver_eq_nest, bounds]
  simp only [List.append_nil, nestPlaced]

theorem extents15d_plain (desc : CDesc) :
    extents15d (plain fits) desc =
      ((List.range desc.rank).map fun i => toInt (desc.record i).extent) ++
        List.replicate (15 - desc.rank) 1 := by
  have read : extents15d (plain fits) desc =
      (List.range 15).map fun k => if k < desc.rank then toInt (desc.record k).extent else 1 := rfl
  rw [read]
  apply map_range_15
  · intro k inside
    rw [if_pos inside]
  · intro k outside
    rw [if_neg (not_lt.mpr outside)]

theorem loops15d_eq_nestPlaced (desc : CDesc) (body : Int → σ → Flow σ) (state : σ) :
    loops15d (plain fits) desc (extents15d (plain fits) desc) body state =
      nestPlaced fits (extents15d (plain fits) desc) desc.strides15d body state := by
  rw [← strides15d_eq_map]
  exact loopsOver_eq_nestPlaced (strideOr0 (plain fits) desc) (extents15d (plain fits) desc) body
    state

theorem loops2d_eq_nestPlaced (desc : CDesc) (extent0 extent1 : Int) (body : Int → σ → Flow σ)
    (state : σ) :
    loops2d (plain fits) desc extent0 extent1 body state =
      nestPlaced fits [extent0, extent1] [(desc.record 0).sm, (desc.record 1).sm] body state :=
  loopsOver_eq_nestPlaced (fun k => (desc.record k).sm) [extent0, extent1] body state

theorem loops3d_eq_nestPlaced (desc : CDesc) (extent0 extent1 extent2 : Int)
    (body : Int → σ → Flow σ) (state : σ) :
    loops3d (plain fits) desc extent0 extent1 extent2 body state =
      nestPlaced fits [extent0, extent1, extent2]
        [(desc.record 0).sm, (desc.record 1).sm, (desc.record 2).sm] body state :=
  loopsOver_eq_nestPlaced (fun k => (desc.record k).sm) [extent0, extent1, extent2] body state

/-- Placing loops run through the numbers below the product of their bounds. -/
theorem nestPlaced_eq_iterate (bounds strides : List Int) (body : Int → σ → Flow σ)
    (state : σ) :
    nestPlaced fits bounds strides body state =
      iterate (fun n state =>
          Flow.ofResult
            (MixedRadix.boundedDot fits strides (MixedRadix.digits (bounds.map Int.toNat) n) 0)
            fun displacement => body displacement state)
        (List.range (bounds.map Int.toNat).prod) state := by
  rw [nestPlaced, nest_eq_iterate, MixedRadix.indices_eq_map_digits, iterate_map]

/-- Without bounds they run through the displacements. -/
theorem nestPlaced_unbounded (bounds strides : List Int) (body : Int → σ → Flow σ) (state : σ) :
    nestPlaced (fun _ => True) bounds strides body state =
      iterate body
        ((List.range (bounds.map Int.toNat).prod).map fun n =>
          MixedRadix.dot strides (MixedRadix.digits (bounds.map Int.toNat) n))
        state := by
  rw [nestPlaced_eq_iterate, iterate_map]
  simp only [MixedRadix.boundedDot_of_unbounded, Flow.ofResult, zero_add]

/-- An arithmetic that has the sums of all multi-indices places as one without bounds. -/
theorem nestPlaced_of_fits {bounds strides : List Int}
    (placed : ∀ index, MixedRadix.Within (bounds.map Int.toNat) index →
      fits (MixedRadix.dot strides index))
    (body : Int → σ → Flow σ) (state : σ) :
    nestPlaced fits bounds strides body state =
      nestPlaced (fun _ => True) bounds strides body state := by
  rw [nestPlaced_eq_iterate, nestPlaced_eq_iterate]
  apply iterate_congr
  intro n member
  have within := MixedRadix.digits_within (List.mem_range.mp member)
  funext middle
  rw [MixedRadix.boundedDot_of_fits within placed (by simpa using placed),
    MixedRadix.boundedDot_of_unbounded]

end Nests

/-- Extents after their conversion to `int`, as the bases of element numbers. -/
def CDesc.convertedShape (desc : CDesc) : List Nat :=
  (List.range desc.rank).map fun i => (toInt (desc.record i).extent).toNat

theorem CDesc.IntExtents.convertedShape_eq {desc : CDesc} (fit : desc.IntExtents) :
    desc.convertedShape = desc.shape := by
  rw [convertedShape, shape, extents, List.map_map]
  apply List.map_congr_left
  intro k member
  have inside : k < desc.rank := List.mem_range.mp member
  rw [Function.comp_apply, record_of_lt inside]
  exact congrArg Int.toNat (fit ⟨k, inside⟩)

theorem map_toNat_extents15d (desc : CDesc) :
    (((List.range desc.rank).map fun i => toInt (desc.record i).extent) ++
        List.replicate (15 - desc.rank) 1).map Int.toNat =
      desc.convertedShape ++ List.replicate (15 - desc.rank) 1 := by
  simp [CDesc.convertedShape]

theorem loops15d_eq_iterate_converted (desc : CDesc) (body : Int → σ → Flow σ) (state : σ) :
    loops15d unbounded desc (extents15d unbounded desc) body state =
      iterate body
        ((List.range desc.convertedShape.prod).map fun n =>
          MixedRadix.dot desc.strides (MixedRadix.digits desc.convertedShape n))
        state := by
  rw [loops15d_eq_nestPlaced, nestPlaced_unbounded, extents15d_plain, map_toNat_extents15d,
    MixedRadix.prod_padded]
  congr 1
  apply List.map_congr_left
  intro n _
  exact MixedRadix.dot_digits_padded (by simp [CDesc.convertedShape]) _ n

/-- The fifteen loops run through the elements in array element order. -/
theorem loops15d_eq_iterate {desc : CDesc} (fit : desc.IntExtents)
    (body : Int → σ → Flow σ) (state : σ) :
    loops15d unbounded desc (extents15d unbounded desc) body state =
      iterate body ((List.range desc.elements).map desc.displacement) state := by
  rw [loops15d_eq_iterate_converted, fit.convertedShape_eq]
  congr 1
  apply List.map_congr_left
  intro n member
  exact (CDesc.displacement_eq_dot (List.mem_range.mp member)).symm

theorem loops2d_eq_iterate (desc : CDesc) (extent0 extent1 : Int) (body : Int → σ → Flow σ)
    (state : σ) :
    loops2d unbounded desc extent0 extent1 body state =
      iterate body
        ((List.range (extent0.toNat * extent1.toNat)).map fun n =>
          MixedRadix.dot [(desc.record 0).sm, (desc.record 1).sm]
            (MixedRadix.digits [extent0.toNat, extent1.toNat] n))
        state := by
  rw [loops2d_eq_nestPlaced, nestPlaced_unbounded]
  simp

theorem loops3d_eq_iterate (desc : CDesc) (extent0 extent1 extent2 : Int)
    (body : Int → σ → Flow σ) (state : σ) :
    loops3d unbounded desc extent0 extent1 extent2 body state =
      iterate body
        ((List.range (extent0.toNat * (extent1.toNat * extent2.toNat))).map fun n =>
          MixedRadix.dot [(desc.record 0).sm, (desc.record 1).sm, (desc.record 2).sm]
            (MixedRadix.digits [extent0.toNat, extent1.toNat, extent2.toNat] n))
        state := by
  rw [loops3d_eq_nestPlaced, nestPlaced_unbounded]
  simp

/-- Both arrays of an enumeration can be allocated. -/
def Mpi.AllocatesArrays (mpi : Mpi) (count : Int) : Prop :=
  mpi.allocates (toSizeT (count * 4)) = true ∧ mpi.allocates (toSizeT (count * 8)) = true

instance (mpi : Mpi) (count : Int) : Decidable (mpi.AllocatesArrays count) :=
  inferInstanceAs (Decidable (_ ∧ _))

section Singles

variable {mpi : Mpi} {world middle : World} {count : Nat} {values : List Int}
variable {loops : (Int → Filling → Flow Filling) → Filling → Flow Filling}
variable {elementDatatype : Call Int} {element arrayDatatype : Int} {old : TypeObject}

private theorem malloc_lengths (allocates : mpi.allocates (toSizeT (count * 4)) = true)
    (small : (count : Int) ≤ intMax) :
    malloc mpi (toSizeT (count * 4)) 4 = some (Cells.fresh count : Cells Int) := by
  have width : toSizeT (count * 4) / 4 = count := by
    simp only [toSizeT, intMax] at *
    omega
  rw [malloc, if_pos allocates, width]

private theorem malloc_arrays (allocates : mpi.AllocatesArrays count)
    (small : (count : Int) ≤ intMax) :
    malloc mpi (toSizeT (count * 4)) 4 = some (Cells.fresh count : Cells Int) ∧
      malloc mpi (toSizeT (count * 8)) 8 = some (Cells.fresh count : Cells Int) := by
  have width : toSizeT (count * 8) / 8 = count := by
    simp only [toSizeT, intMax] at *
    omega
  exact ⟨malloc_lengths allocates.1 small, by rw [malloc, if_pos allocates.2, width]⟩

/-- The first array is missing, or else the second. -/
theorem malloc_arrays_of_missing (missing : ¬ mpi.AllocatesArrays count)
    (small : (count : Int) ≤ intMax) :
    malloc mpi (toSizeT (count * 4)) 4 = (none : Option (Cells Int)) ∨
      malloc mpi (toSizeT (count * 4)) 4 = some (Cells.fresh count : Cells Int) ∧
        malloc mpi (toSizeT (count * 8)) 8 = (none : Option (Cells Int)) := by
  by_cases lengths : mpi.allocates (toSizeT (count * 4)) = true
  · have starts : ¬ mpi.allocates (toSizeT (count * 8)) = true := fun starts =>
      missing ⟨lengths, starts⟩
    exact Or.inr ⟨malloc_lengths lengths small, if_neg starts⟩
  · exact Or.inl (if_neg lengths)

theorem createSingles_of_arrays (allocates : mpi.AllocatesArrays count)
    (small : (count : Int) ≤ intMax) :
    createSingles unbounded mpi count loops elementDatatype arrayDatatype world =
      (do
        let filling ← Run.ofOutcome
          (loops (Filling.place count) { cells := Cells.fresh count, offset := 0 }).land
        let elementDatatype ← elementDatatype
        let (rc, arrayDatatype) ← pmpiTypeCreateHindexed mpi count
          ((List.replicate count 1).map some) filling.cells elementDatatype arrayDatatype
        vapaaAssert mpi (rc = mpi.errorClass .success)
        return (mpi.errorClass .success, arrayDatatype) : Call (Int × Int)) world := by
  obtain ⟨lengths, starts⟩ := malloc_arrays allocates small
  simp only [createSingles, fillArrays, plain_call, plain_rounds, lengths, starts,
    Option.isSome_some, vapaaAssert_true, Option.getD_some, forLoop_assign, Flow.land_next,
    bind_assoc, pure_bind]
  rw [Run.bind_apply, Run.ofOutcome_returned, Outcome.returned_bind]

/-- With both arrays, loops through enough displacements leave the first `count` of them. -/
theorem createSingles_of_filled
    (allocates : mpi.AllocatesArrays count) (small : (count : Int) ≤ intMax)
    (positive : 0 < count) (enough : count ≤ values.length)
    (through : ∀ body state, loops body state = iterate body values state)
    (elementResult : elementDatatype world = .returned (element, middle)) :
    createSingles unbounded mpi count loops elementDatatype arrayDatatype world =
      (do
        let (rc, arrayDatatype) ← pmpiTypeCreateHindexed mpi count
          ((List.replicate count 1).map some) ((values.take count).map some) element arrayDatatype
        vapaaAssert mpi (rc = mpi.errorClass .success)
        return (mpi.errorClass .success, arrayDatatype) : Call (Int × Int)) middle := by
  have placed := Filling.placeAll positive enough
  simp only [Filling.start] at placed
  rw [createSingles_of_arrays allocates small]
  simp only [Run.bind_apply, through, placed, Run.ofOutcome_returned,
    Outcome.returned_bind, elementResult, Filling.holding]
  have nothingUnset : (Cells.fresh 0 : Cells Int) = [] := rfl
  rw [nothingUnset, List.append_nil]

/-- The first `count` displacements give a type at them. -/
theorem createSingles_of_allocates
    (allocates : mpi.AllocatesArrays count) (small : (count : Int) ≤ intMax)
    (positive : 0 < count) (enough : count ≤ values.length)
    (through : ∀ body state, loops body state = iterate body values state)
    (elementResult : elementDatatype world = .returned (element, middle))
    (live : middle.types.object element = some old) :
    createSingles unbounded mpi count loops elementDatatype arrayDatatype world =
      createType mpi (old.layout.copies (values.take count)) middle := by
  have taken : (values.take count).length = count := by simpa using enough
  have created : pmpiTypeCreateHindexed mpi (values.take count).length
      ((List.replicate (values.take count).length 1).map some)
      ((values.take count).map some) element arrayDatatype middle =
        createType mpi (old.layout.copies (values.take count)) middle :=
    pmpiTypeCreateHindexed_of_live (values.take count) live
  rw [taken] at created
  rw [createSingles_of_filled allocates small positive enough through elementResult,
    Run.bind_apply, created]
  simp [createType, Run.bind_apply]

theorem createSingles_of_not_allocates
    (missing : ¬ mpi.AllocatesArrays count) (small : (count : Int) ≤ intMax)
    (positive : 0 < count) (enough : count ≤ values.length)
    (through : ∀ body state, loops body state = iterate body values state) :
    createSingles unbounded mpi count loops elementDatatype arrayDatatype world =
      if mpi.seatbelts then .aborted else .undefined .outOfBounds := by
  rcases malloc_arrays_of_missing missing small with lengths | ⟨lengths, starts⟩
  · simp only [createSingles, fillArrays, plain_call, plain_rounds, Run.bind_apply, lengths,
      Option.isSome_none, vapaaAssert, Option.getD_none, forLoop_assign_nil _ positive,
      Flow.land_undefined, Run.ofOutcome_undefined]
    cases mpi.seatbelts <;> simp
  · have present : values ≠ [] := by
      rintro rfl
      simp at enough
      omega
    simp only [createSingles, fillArrays, plain_call, plain_rounds, Run.bind_apply, lengths,
      starts, Option.isSome_some, Option.isSome_none, vapaaAssert, if_true, Run.pure_apply,
      Outcome.returned_bind, Option.getD_some, Option.getD_none, forLoop_assign, Flow.land_next,
      Run.ofOutcome_returned, through, Filling.iterate_place_nil present, Flow.land_undefined,
      Run.ofOutcome_undefined]
    cases mpi.seatbelts <;> simp

/-- With assertions an enumeration that lacks an array ends the program. -/
theorem createSingles_of_missing (active : mpi.seatbelts = true)
    (missing : ¬ mpi.AllocatesArrays count) (small : (count : Int) ≤ intMax) :
    createSingles unbounded mpi count loops elementDatatype arrayDatatype world = .aborted := by
  rcases malloc_arrays_of_missing missing small with lengths | ⟨lengths, starts⟩
  · simp [createSingles, fillArrays, Run.bind_apply, lengths, vapaaAssert, active]
  · simp [createSingles, fillArrays, Run.bind_apply, lengths, starts, vapaaAssert, active,
      forLoop_assign]

end Singles

end Vapaa
