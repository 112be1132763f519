import Vapaa.Foundation.MixedRadix
import Vapaa.Foundation.TypeMap

/-!
# Type constructors

Layouts that count in copies of an old one: consecutive copies, blocks at a stride of copies, and
a part of an array of copies.
-/

set_option autoImplicit false

namespace Foundation

/-- One dimension of an array and the part of it that is taken. -/
structure Slice where
  size : Nat
  subsize : Nat
  start : Nat
  deriving DecidableEq, Repr

/-- The part is not empty and lies inside. -/
def Slice.Inside (slice : Slice) : Prop := 1 ≤ slice.subsize ∧ slice.start + slice.subsize ≤ slice.size

instance (slice : Slice) : Decidable slice.Inside := inferInstanceAs (Decidable (_ ∧ _))

namespace Layout

/-- Distances between neighbours along each dimension, the first dimension running fastest. -/
def strides : Int → List Slice → List Int
  | _, [] => []
  | unit, slice :: slices => unit :: strides (unit * slice.size) slices

def contiguous (old : Layout) (count : Nat) : Layout := old.copies (block old.extent 0 count)

def vector (old : Layout) (count blocklength : Nat) (stride : Int) : Layout :=
  old.hvector count blocklength (stride * old.extent)

/-- The part of an array; the first dimension runs fastest. -/
def subarray (old : Layout) (slices : List Slice) : Layout where
  map := old.map.copies ((MixedRadix.indices (slices.map Slice.subsize)).map fun index =>
    (MixedRadix.dot (strides 1 slices) (slices.map Slice.start) +
      MixedRadix.dot (strides 1 slices) index) * old.extent)
  lb := 0
  extent := (slices.map Slice.size).prod * old.extent

theorem length_block (extent start : Int) (length : Nat) :
    (block extent start length).length = length := by
  rw [block, List.length_map, List.length_range]

theorem size_contiguous (old : Layout) (count : Nat) :
    (old.contiguous count).size = count * old.size := by
  rw [contiguous, size_copies, length_block]

theorem size_hvector (old : Layout) (count blocklength : Nat) (stride : Int) :
    (old.hvector count blocklength stride).size = count * blocklength * old.size := by
  rw [hvector, size_copies, List.length_flatMap]
  simp [length_block]

theorem size_vector (old : Layout) (count blocklength : Nat) (stride : Int) :
    (old.vector count blocklength stride).size = count * blocklength * old.size :=
  size_hvector old count blocklength _

theorem size_subarray (old : Layout) (slices : List Slice) :
    (old.subarray slices).size = (slices.map Slice.subsize).prod * old.size := by
  rw [size, subarray, TypeMap.size_copies, List.length_map, MixedRadix.length_indices, size]

end Layout

end Foundation
