import Vapaa.Foundation.TypeConstructors

/-!
# Grids

Displacements along several dimensions, the first one running fastest, and the layouts that copy a
block of bytes to each of them.
-/

set_option autoImplicit false

namespace Foundation

/-- One dimension of a grid. -/
structure GridDim where
  extent : Nat
  stride : Int
  deriving DecidableEq, Repr

structure Grid where
  offset : Int
  dims : List GridDim
  deriving DecidableEq, Repr

namespace MixedRadix

/-- The positions of the inner bases run before those of the outer ones. -/
theorem indices_append (inner outer : List Nat) :
    indices (inner ++ outer) =
      (indices outer).flatMap fun rest => (indices inner).map (· ++ rest) := by
  induction inner with
  | nil => simp [indices]
  | cons base inner ih =>
      rw [List.cons_append, indices, ih, List.flatMap_assoc]
      apply List.flatMap_congr
      intro rest _
      rw [indices, List.map_flatMap, List.flatMap_map]
      apply List.flatMap_congr
      intro index _
      rw [List.map_map]
      rfl

theorem length_of_mem_indices {bases index : List Nat} (member : index ∈ indices bases) :
    index.length = bases.length := by
  induction bases generalizing index with
  | nil =>
      rw [indices, List.mem_singleton] at member
      rw [member]
  | cons base bases ih =>
      rw [indices, List.mem_flatMap] at member
      obtain ⟨rest, inner, chosen⟩ := member
      obtain ⟨first, -, rfl⟩ := List.mem_map.mp chosen
      rw [List.length_cons, ih inner, List.length_cons]

theorem dot_append {strides : List Int} {index : List Nat} (same : index.length = strides.length)
    (moreStrides : List Int) (rest : List Nat) :
    dot (strides ++ moreStrides) (index ++ rest) = dot strides index + dot moreStrides rest := by
  induction strides generalizing index with
  | nil =>
      obtain rfl := List.length_eq_zero_iff.mp same
      simp
  | cons stride strides ih =>
      cases index with
      | nil => cases same
      | cons first index =>
          have shorter : index.length = strides.length := Nat.succ.inj same
          rw [List.cons_append, List.cons_append, dot_cons, dot_cons, ih shorter, add_assoc]

theorem dot_map_mul (factor : Int) (strides : List Int) (index : List Nat) :
    dot (strides.map (· * factor)) index = dot strides index * factor := by
  induction strides generalizing index with
  | nil => simp
  | cons stride strides ih =>
      cases index with
      | nil => simp
      | cons first index =>
          rw [List.map_cons, dot_cons, dot_cons, ih]
          ring

end MixedRadix

namespace Grid

def shape (grid : Grid) : List Nat := grid.dims.map GridDim.extent

def strides (grid : Grid) : List Int := grid.dims.map GridDim.stride

def displacements (grid : Grid) : List Int :=
  (MixedRadix.indices grid.shape).map fun index =>
    grid.offset + MixedRadix.dot grid.strides index

/-- The grid whose only place is 0. -/
def point : Grid where
  offset := 0
  dims := []

/-- Copies of a grid at the places of another one. -/
def compose (inner outer : Grid) : Grid where
  offset := inner.offset + outer.offset
  dims := inner.dims ++ outer.dims

/-- Places in a row. -/
def line (extent : Nat) (stride : Int) : Grid where
  offset := 0
  dims := [{ extent := extent, stride := stride }]

def blocks (count blocklength : Nat) (stride unit : Int) : Grid where
  offset := 0
  dims := [{ extent := blocklength, stride := unit }, { extent := count, stride := stride }]

/-- A part of an array whose elements have an extent. -/
def part (slices : List Slice) (extent : Int) : Grid where
  offset := MixedRadix.dot (Layout.strides 1 slices) (slices.map Slice.start) * extent
  dims := List.zipWith (fun (slice : Slice) stride => ⟨slice.subsize, stride * extent⟩) slices
    (Layout.strides 1 slices)

@[simp] theorem displacements_point : point.displacements = [0] := by
  simp [displacements, point, shape, strides, MixedRadix.indices]

theorem displacements_compose (inner outer : Grid) :
    (inner.compose outer).displacements =
      outer.displacements.flatMap fun far => inner.displacements.map (far + ·) := by
  have shapes : (inner.compose outer).shape = inner.shape ++ outer.shape := List.map_append
  have strides : (inner.compose outer).strides = inner.strides ++ outer.strides := List.map_append
  have outside : outer.displacements = (MixedRadix.indices outer.shape).map fun index =>
      outer.offset + MixedRadix.dot outer.strides index := rfl
  rw [displacements, shapes, strides, MixedRadix.indices_append, List.map_flatMap, outside,
    List.flatMap_map]
  apply List.flatMap_congr
  intro rest _
  rw [displacements, List.map_map, List.map_map]
  apply List.map_congr_left
  intro index member
  have same : index.length = inner.strides.length := by
    rw [MixedRadix.length_of_mem_indices member, shape, Grid.strides, List.length_map,
      List.length_map]
  simp only [Function.comp_apply, MixedRadix.dot_append same, compose]
  ring

theorem displacements_line (extent : Nat) (stride : Int) :
    (line extent stride).displacements = Layout.block stride 0 extent := by
  simp [displacements, line, shape, Grid.strides, MixedRadix.indices, Layout.block,
    Function.comp_def, mul_comm]

theorem displacements_blocks (count blocklength : Nat) (stride unit : Int) :
    (blocks count blocklength stride unit).displacements =
      (List.range count).flatMap fun (i : Nat) => Layout.block unit (i * stride) blocklength := by
  simp only [displacements, blocks, shape, Grid.strides, List.map_cons, List.map_nil,
    MixedRadix.indices, List.flatMap_singleton, List.flatMap_map, List.map_flatMap, List.map_map,
    Layout.block]
  apply List.flatMap_congr
  intro i _
  apply List.map_congr_left
  intro j _
  simp only [Function.comp_apply, MixedRadix.dot_cons, MixedRadix.dot_nil_left]
  ring

theorem length_layoutStrides (unit : Int) (slices : List Slice) :
    (Layout.strides unit slices).length = slices.length := by
  induction slices generalizing unit with
  | nil => rfl
  | cons slice slices ih => rw [Layout.strides, List.length_cons, ih, List.length_cons]

theorem displacements_part (slices : List Slice) (extent : Int) :
    (part slices extent).displacements =
      (MixedRadix.indices (slices.map Slice.subsize)).map fun index =>
        (MixedRadix.dot (Layout.strides 1 slices) (slices.map Slice.start) +
          MixedRadix.dot (Layout.strides 1 slices) index) * extent := by
  have shapes : (part slices extent).shape = slices.map Slice.subsize := by
    rw [shape, part, List.map_zipWith]
    apply List.ext_getElem
    · simp [length_layoutStrides]
    · simp
  have strides : (part slices extent).strides = (Layout.strides 1 slices).map (· * extent) := by
    rw [Grid.strides, part, List.map_zipWith]
    apply List.ext_getElem
    · simp [length_layoutStrides]
    · simp
  rw [displacements, shapes, strides]
  apply List.map_congr_left
  intro index _
  rw [MixedRadix.dot_map_mul, part]
  ring

end Grid

namespace Layout

/-- The bytes of a layout are blocks of one length at the places of a grid. -/
def OnGrid (layout : Layout) (length : Nat) (grid : Grid) : Prop :=
  layout.map.bytes = grid.displacements.flatMap fun place => span place length

variable {layout : Layout} {length : Nat} {grid : Grid}

theorem Solid.onGrid (solid : layout.Solid length) : layout.OnGrid length .point := by
  rw [OnGrid, solid.bytes_eq, Grid.displacements_point, List.flatMap_singleton]

theorem OnGrid.bytes_copies (onGrid : layout.OnGrid length grid) (outer : Grid) :
    (layout.map.copies outer.displacements).bytes =
      (grid.compose outer).displacements.flatMap fun place => span place length := by
  rw [TypeMap.bytes_copies, onGrid, Grid.displacements_compose, List.flatMap_assoc]
  apply List.flatMap_congr
  intro far _
  rw [List.map_flatMap, List.flatMap_map]
  exact List.flatMap_congr fun near _ => map_add_span far near length

theorem OnGrid.contiguous (onGrid : layout.OnGrid length grid) (count : Nat) :
    (layout.contiguous count).OnGrid length (grid.compose (.line count layout.extent)) := by
  rw [OnGrid, ← onGrid.bytes_copies, Grid.displacements_line]
  rfl

theorem OnGrid.vector (onGrid : layout.OnGrid length grid) (count blocklength : Nat)
    (stride : Int) : (layout.vector count blocklength stride).OnGrid length
      (grid.compose (.blocks count blocklength (stride * layout.extent) layout.extent)) := by
  rw [OnGrid, ← onGrid.bytes_copies, Grid.displacements_blocks]
  rfl

theorem OnGrid.subarray (onGrid : layout.OnGrid length grid) (slices : List Slice) :
    (layout.subarray slices).OnGrid length (grid.compose (.part slices layout.extent)) := by
  rw [OnGrid, ← onGrid.bytes_copies, Grid.displacements_part]
  rfl

/-- Several copies lie on a grid with one dimension more. -/
theorem OnGrid.locations_eq (onGrid : layout.OnGrid length grid) (address : Int) (count : Nat) :
    layout.locations address count =
      (grid.compose (.line count layout.extent)).displacements.flatMap fun place =>
        span (address + place) length := by
  rw [Grid.displacements_compose, Grid.displacements_line, List.flatMap_assoc, Layout.block,
    List.flatMap_map, Layout.locations]
  apply List.flatMap_congr
  intro i _
  rw [onGrid, List.map_flatMap, List.flatMap_map]
  apply List.flatMap_congr
  intro place _
  rw [map_add_span]
  congr 1
  ring

end Layout

end Foundation
