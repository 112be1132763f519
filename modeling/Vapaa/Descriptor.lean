import Vapaa.Foundation.MixedRadix

/-!
# Descriptors of Fortran arrays

The C descriptor of an assumed-rank argument, and the array elements it stands for.
-/

set_option autoImplicit false

namespace Vapaa

open Foundation

/-- `CFI_dim_t` -/
structure Dim where
  lowerBound : Int
  extent : Int
  sm : Int
  deriving DecidableEq, Repr

def cfiMaxRank : Nat := 15

/-- `CFI_cdesc_t`. The descriptor carries one dimension record for each of its
dimensions; `pastEnd` is whatever memory lies where further records would. -/
structure CDesc where
  baseAddr : Int
  elemLen : Nat
  rank : Nat
  type : Int
  dim : Fin rank → Dim
  pastEnd : Nat → Dim
  rank_le : rank ≤ cfiMaxRank

namespace CDesc

/-- The record found at an index, inside the descriptor or behind it. -/
def record (desc : CDesc) (i : Nat) : Dim :=
  if inside : i < desc.rank then desc.dim ⟨i, inside⟩ else desc.pastEnd i

/-- Extents in order, the first running fastest. -/
def extents (desc : CDesc) : List Int := (List.range desc.rank).map fun i => (desc.record i).extent

/-- Extents as the bases of element numbers. -/
def shape (desc : CDesc) : List Nat := desc.extents.map Int.toNat

def strides (desc : CDesc) : List Int := (List.range desc.rank).map fun i => (desc.record i).sm

def elements (desc : CDesc) : Nat := desc.shape.prod

/-- Byte displacement of an element, numbered in array element order. The last
extent bounds nothing, so this also numbers the elements of assumed-size arrays. -/
def displacement (desc : CDesc) (n : Nat) : Int :=
  MixedRadix.position desc.shape desc.strides n

def address (desc : CDesc) (n : Nat) : Int := desc.baseAddr + desc.displacement n

@[simp] theorem length_extents (desc : CDesc) : desc.extents.length = desc.rank := by
  simp [extents]

@[simp] theorem length_shape (desc : CDesc) : desc.shape.length = desc.rank := by
  simp [shape]

@[simp] theorem length_strides (desc : CDesc) : desc.strides.length = desc.rank := by
  simp [strides]

@[simp] theorem displacement_zero (desc : CDesc) : desc.displacement 0 = 0 :=
  MixedRadix.position_zero desc.shape desc.strides

theorem displacement_eq_dot {desc : CDesc} {n : Nat} (below : n < desc.elements) :
    desc.displacement n =
      MixedRadix.dot desc.strides (MixedRadix.digits desc.shape n) :=
  MixedRadix.position_eq_dot_digits (by simp) below

def leadingElements (desc : CDesc) (k : Nat) : Int :=
  ((List.range k).map fun i => (desc.record i).extent).prod

/-- Extents count elements, except that the last one of an assumed-size array is -1. -/
def WellFormed (desc : CDesc) : Prop :=
  ∀ k, k < desc.rank →
    0 ≤ (desc.record k).extent ∨ k + 1 = desc.rank ∧ (desc.record k).extent = -1

/-- Descriptors whose extents all count elements. -/
def Sized (desc : CDesc) : Prop := ∀ k, k < desc.rank → 0 ≤ (desc.record k).extent

instance (desc : CDesc) : Decidable desc.WellFormed :=
  inferInstanceAs (Decidable (∀ k, k < desc.rank → _))

instance (desc : CDesc) : Decidable desc.Sized :=
  inferInstanceAs (Decidable (∀ k, k < desc.rank → _))

@[simp] theorem leadingElements_zero (desc : CDesc) : desc.leadingElements 0 = 1 := rfl

theorem leadingElements_succ (desc : CDesc) (k : Nat) :
    desc.leadingElements (k + 1) = desc.leadingElements k * (desc.record k).extent := by
  simp [leadingElements, List.range_succ]

theorem Sized.wellFormed {desc : CDesc} (sized : desc.Sized) : desc.WellFormed :=
  fun k inside => Or.inl (sized k inside)

theorem WellFormed.leadingElements_nonneg {desc : CDesc} (wellFormed : desc.WellFormed)
    {k : Nat} (inside : k < desc.rank) : 0 ≤ desc.leadingElements k := by
  induction k with
  | zero => simp
  | succ k ih =>
      rw [leadingElements_succ]
      apply Int.mul_nonneg (ih (by omega))
      obtain counted | ⟨last, -⟩ := wellFormed k (by omega)
      · exact counted
      · omega

/-- A positive number of elements leaves no extent of -1. -/
theorem WellFormed.sized {desc : CDesc} (wellFormed : desc.WellFormed)
    (positive : 0 < desc.leadingElements desc.rank) : desc.Sized := by
  intro k inside
  obtain counts | ⟨last, assumed⟩ := wellFormed k inside
  · exact counts
  · have before := wellFormed.leadingElements_nonneg inside
    rw [← last, leadingElements_succ, assumed] at positive
    omega

theorem Sized.leadingElements_eq {desc : CDesc} (sized : desc.Sized) {k : Nat}
    (inside : k ≤ desc.rank) : desc.leadingElements k = ((desc.shape.take k).prod : Nat) := by
  induction k with
  | zero => simp
  | succ k ih =>
      have bound : k < desc.shape.length := by
        rw [length_shape]
        omega
      have entry : desc.shape[k] = (desc.record k).extent.toNat := by
        simp [shape, extents]
      have counted := sized k (by omega)
      rw [leadingElements_succ, ih (by omega), List.prod_take_succ desc.shape k bound, entry]
      push_cast
      rw [Int.toNat_of_nonneg counted]

theorem Sized.leadingElements_rank {desc : CDesc} (sized : desc.Sized) :
    desc.leadingElements desc.rank = desc.elements := by
  have whole : desc.shape.take desc.rank = desc.shape :=
    List.take_of_length_le (by simp)
  rw [sized.leadingElements_eq (le_refl _), whole, elements]

theorem rank_bounded (desc : CDesc) : desc.rank ≤ 15 := desc.rank_le

theorem displacement_of_rank_three {desc : CDesc} (space : desc.rank = 3) {n : Nat}
    (below : n < desc.elements) :
    desc.displacement n =
      MixedRadix.dot [(desc.record 0).sm, (desc.record 1).sm, (desc.record 2).sm]
        (MixedRadix.digits [(desc.record 0).extent.toNat, (desc.record 1).extent.toNat,
          (desc.record 2).extent.toNat] n) := by
  rw [displacement_eq_dot below]
  simp [shape, extents, strides, space, List.range_succ_eq_map]

theorem elements_of_rank_three {desc : CDesc} (space : desc.rank = 3) :
    desc.elements = (desc.record 0).extent.toNat *
      ((desc.record 1).extent.toNat * (desc.record 2).extent.toNat) := by
  simp [elements, shape, extents, space, List.range_succ_eq_map]

theorem displacement_of_rank_one {desc : CDesc} (vector : desc.rank = 1) (n : Nat) :
    desc.displacement n = (desc.record 0).sm * n := by
  simp [displacement, shape, extents, strides, vector, MixedRadix.position]

theorem displacement_of_lt_head {desc : CDesc} {n : Nat} (ranked : 1 ≤ desc.rank)
    (below : n < (desc.record 0).extent.toNat) :
    desc.displacement n = (desc.record 0).sm * n := by
  obtain ⟨rest, rank_eq⟩ : ∃ rest, desc.rank = rest + 1 := ⟨desc.rank - 1, by omega⟩
  simp only [displacement, shape, extents, strides, rank_eq, List.range_succ_eq_map,
    List.map_cons]
  exact MixedRadix.position_of_lt_head below

theorem displacement_of_lt_plane {desc : CDesc} {n : Nat} (ranked : 2 ≤ desc.rank)
    (below : n < (desc.record 0).extent.toNat * (desc.record 1).extent.toNat) :
    desc.displacement n =
      (desc.record 0).sm * (n % (desc.record 0).extent.toNat : Nat) +
        (desc.record 1).sm * (n / (desc.record 0).extent.toNat : Nat) := by
  obtain ⟨rest, rank_eq⟩ : ∃ rest, desc.rank = rest + 2 := ⟨desc.rank - 2, by omega⟩
  simp only [displacement, shape, extents, strides, rank_eq, List.range_succ_eq_map,
    List.map_cons]
  exact MixedRadix.position_of_lt_two below

end CDesc

end Vapaa
