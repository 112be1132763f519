import Mathlib.Algebra.BigOperators.Group.List.Basic
import Mathlib.Data.List.Nodup
import Mathlib.Tactic.Ring

/-!
# Type maps

A data layout is a sequence of basic values at byte displacements, with the
bounds that place consecutive copies of it. Vectors and indexed layouts place
copies of an old layout at a list of displacements.
-/

set_option autoImplicit false

namespace Foundation

/-- Addresses of consecutive bytes. -/
def span (start : Int) (length : Nat) : List Int :=
  (List.range length).map fun (k : Nat) => start + k

@[simp] theorem length_span (start : Int) (length : Nat) : (span start length).length = length := by
  simp [span]

theorem map_add_span (distance start : Int) (length : Nat) :
    (span start length).map (distance + ·) = span (distance + start) length := by
  simp [span, Function.comp_def, add_assoc]

theorem span_add (start : Int) (first second : Nat) :
    span start (first + second) = span start first ++ span (start + first) second := by
  rw [span, List.range_add, List.map_append, List.map_map]
  congr 1
  apply List.map_congr_left
  intro k _
  simp only [Function.comp_apply]
  push_cast
  ring

theorem mem_span {start address : Int} {length : Nat} :
    address ∈ span start length ↔ start ≤ address ∧ address < start + length := by
  simp only [span, List.mem_map, List.mem_range]
  constructor
  · rintro ⟨k, below, rfl⟩
    omega
  · rintro ⟨low, high⟩
    exact ⟨(address - start).toNat, by omega, by omega⟩

theorem nodup_span (start : Int) (length : Nat) : (span start length).Nodup := by
  apply List.Nodup.map _ List.nodup_range
  intro left right equal
  simpa using equal

/-- Spans of one positive length determine where they start. -/
theorem spans_injective {length : Nat} (positive : 0 < length) {left right : List Int}
    (same : (left.flatMap fun start => span start length) =
      right.flatMap fun start => span start length) : left = right := by
  induction left generalizing right with
  | nil =>
      cases right with
      | nil => rfl
      | cons start right =>
          have lengths := congrArg List.length same
          simp only [List.flatMap_nil, List.flatMap_cons, List.length_append, length_span,
            List.length_nil] at lengths
          omega
  | cons start left ih =>
      cases right with
      | nil =>
          have lengths := congrArg List.length same
          simp only [List.flatMap_nil, List.flatMap_cons, List.length_append, length_span,
            List.length_nil] at lengths
          omega
      | cons other right =>
          simp only [List.flatMap_cons] at same
          obtain ⟨heads, tails⟩ := List.append_inj same (by simp)
          have first := congrArg (fun addresses => addresses[0]?) heads
          simp only [span, List.getElem?_map, List.getElem?_range positive, Option.map_some,
            Option.some.injEq, Nat.cast_zero, add_zero] at first
          rw [first, ih tails]

/-- One basic value of a layout. -/
structure Entry where
  basic : Int
  size : Nat
  displacement : Int
  deriving DecidableEq, Repr

namespace Entry

def shift (distance : Int) (entry : Entry) : Entry :=
  { entry with displacement := distance + entry.displacement }

def bytes (entry : Entry) : List Int := span entry.displacement entry.size

@[simp] theorem shift_size (distance : Int) (entry : Entry) :
    (entry.shift distance).size = entry.size := rfl

@[simp] theorem shift_basic (distance : Int) (entry : Entry) :
    (entry.shift distance).basic = entry.basic := rfl

@[simp] theorem shift_displacement (distance : Int) (entry : Entry) :
    (entry.shift distance).displacement = distance + entry.displacement := rfl

@[simp] theorem shift_zero (entry : Entry) : entry.shift 0 = entry := by
  simp [shift]

theorem shift_shift (outer inner : Int) (entry : Entry) :
    (entry.shift inner).shift outer = entry.shift (outer + inner) := by
  simp [shift, add_assoc]

theorem bytes_shift (distance : Int) (entry : Entry) :
    (entry.shift distance).bytes = entry.bytes.map (distance + ·) := by
  simp [bytes, map_add_span]

end Entry

abbrev TypeMap := List Entry

namespace TypeMap

def shift (distance : Int) (map : TypeMap) : TypeMap := map.map (Entry.shift distance)

/-- Bytes of data in a layout; gaps do not count. -/
def size (map : TypeMap) : Nat := (map.map Entry.size).sum

/-- Byte displacements in transfer order. -/
def bytes (map : TypeMap) : List Int := map.flatMap Entry.bytes

/-- Copies of a map at a list of displacements. -/
def copies (map : TypeMap) (displacements : List Int) : TypeMap :=
  displacements.flatMap fun distance => shift distance map

@[simp] theorem shift_zero (map : TypeMap) : shift 0 map = map := by
  have unmoved : Entry.shift 0 = id := funext Entry.shift_zero
  rw [shift, unmoved, List.map_id]

theorem shift_shift (outer inner : Int) (map : TypeMap) :
    shift outer (shift inner map) = shift (outer + inner) map := by
  simp [shift, Function.comp_def, Entry.shift_shift]

theorem size_shift (distance : Int) (map : TypeMap) : size (shift distance map) = size map := by
  simp [size, shift, Function.comp_def]

theorem bytes_shift (distance : Int) (map : TypeMap) :
    bytes (shift distance map) = (bytes map).map (distance + ·) := by
  simp only [bytes, shift, List.flatMap_map, List.map_flatMap, Entry.bytes_shift]

theorem length_bytes (map : TypeMap) : (bytes map).length = size map := by
  simp [bytes, size, List.length_flatMap, Entry.bytes]

theorem size_copies (map : TypeMap) (displacements : List Int) :
    size (copies map displacements) = displacements.length * size map := by
  induction displacements with
  | nil => simp [copies, size]
  | cons distance displacements ih =>
      have split : size (copies map (distance :: displacements)) =
          size (shift distance map) + size (copies map displacements) := by
        simp [copies, size]
      rw [split, size_shift, ih, List.length_cons]
      ring

theorem bytes_copies (map : TypeMap) (displacements : List Int) :
    bytes (copies map displacements) =
      displacements.flatMap fun distance => (bytes map).map (distance + ·) := by
  rw [copies, bytes, List.flatMap_assoc]
  exact List.flatMap_congr fun distance _ => bytes_shift distance map

/-- Copies of copies are copies at the summed displacements. -/
theorem copies_copies (map : TypeMap) (inner outer : List Int) :
    copies (copies map inner) outer =
      copies map (outer.flatMap fun far => inner.map (far + ·)) := by
  simp only [copies, List.flatMap_assoc, List.flatMap_map]
  apply List.flatMap_congr
  intro far _
  simp only [shift, List.map_flatMap]
  apply List.flatMap_congr
  intro near _
  exact shift_shift far near map

theorem shift_injective {map : TypeMap} (present : map ≠ []) {left right : Int}
    (same : shift left map = shift right map) : left = right := by
  cases map with
  | nil => exact absurd rfl present
  | cons entry map =>
      have heads : entry.shift left = entry.shift right := (List.cons.inj same).1
      have displacements := congrArg Entry.displacement heads
      simpa using displacements

/-- Copies of a map with entries determine where they were made. -/
theorem copies_injective {map : TypeMap} (present : map ≠ []) {left right : List Int}
    (same : copies map left = copies map right) : left = right := by
  have grows (distance : Int) : shift distance map ≠ [] := by
    simpa [shift] using present
  induction left generalizing right with
  | nil =>
      cases right with
      | nil => rfl
      | cons distance right => simp [copies, grows] at same
  | cons distance left ih =>
      cases right with
      | nil => simp [copies, grows] at same
      | cons other right =>
          have split : shift distance map ++ copies map left =
              shift other map ++ copies map right := same
          obtain ⟨heads, tails⟩ := List.append_inj split (by simp [shift])
          rw [shift_injective present heads, ih tails]

end TypeMap

/-- A type map together with its lower bound and extent. -/
structure Layout where
  map : TypeMap
  lb : Int
  extent : Int
  deriving DecidableEq, Repr

namespace Layout

def size (layout : Layout) : Nat := layout.map.size

/-- Largest minus smallest displacement. -/
def spread (displacements : List Int) : Int :=
  displacements.max?.getD 0 - displacements.min?.getD 0

/-- Copies of a layout, bounded by the outermost bounds of the copies. -/
def copies (old : Layout) (displacements : List Int) : Layout where
  map := old.map.copies displacements
  lb := if displacements = [] then 0 else displacements.min?.getD 0 + old.lb
  extent := if displacements = [] then 0 else spread displacements + old.extent

/-- Displacements of a block of consecutive copies. -/
def block (extent start : Int) (length : Nat) : List Int :=
  (List.range length).map fun (j : Nat) => start + j * extent

/-- Blocks of equal length at a constant byte stride. -/
def hvector (old : Layout) (count blocklength : Nat) (stride : Int) : Layout :=
  old.copies ((List.range count).flatMap fun (i : Nat) => block old.extent (i * stride) blocklength)

/-- Blocks of given lengths at given byte displacements. -/
def hindexed (old : Layout) (blocks : List (Nat × Int)) : Layout :=
  old.copies (blocks.flatMap fun (length, start) => block old.extent start length)

/-- Addresses that `count` consecutive copies transfer, in order. -/
def locations (layout : Layout) (address : Int) (count : Nat) : List Int :=
  (List.range count).flatMap fun (i : Nat) =>
    layout.map.bytes.map fun byte => address + i * layout.extent + byte

/-- A layout that fills a given number of bytes without gaps, in order. -/
structure Solid (layout : Layout) (length : Nat) : Prop where
  bytes_eq : layout.map.bytes = span 0 length
  lb_eq : layout.lb = 0
  extent_eq : layout.extent = length

theorem min?_getD_mem {displacements : List Int} (present : displacements ≠ []) :
    displacements.min?.getD 0 ∈ displacements ∧
      ∀ displacement ∈ displacements, displacements.min?.getD 0 ≤ displacement := by
  cases least : displacements.min? with
  | none => exact absurd (List.min?_eq_none_iff.mp least) present
  | some value => simpa using List.min?_eq_some_iff.mp least

theorem max?_getD_mem {displacements : List Int} (present : displacements ≠ []) :
    displacements.max?.getD 0 ∈ displacements ∧
      ∀ displacement ∈ displacements, displacement ≤ displacements.max?.getD 0 := by
  cases greatest : displacements.max? with
  | none => exact absurd (List.max?_eq_none_iff.mp greatest) present
  | some value => simpa using List.max?_eq_some_iff.mp greatest

/-- Displacements of copies of copies. -/
def sums (outer inner : List Int) : List Int :=
  outer.flatMap fun far => inner.map (far + ·)

theorem mem_sums {outer inner : List Int} {displacement : Int} :
    displacement ∈ sums outer inner ↔
      ∃ far ∈ outer, ∃ near ∈ inner, far + near = displacement := by
  simp [sums]

/-- Copies of copies have the bounds of the copies at the summed displacements. -/
theorem copies_copies (old : Layout) {inner : List Int} (outer : List Int)
    (present : inner ≠ []) :
    (old.copies inner).copies outer = old.copies (sums outer inner) := by
  by_cases empty : outer = []
  · subst empty
    simp [copies, sums, TypeMap.copies]
  · obtain ⟨far, farMember⟩ := List.exists_mem_of_ne_nil outer empty
    obtain ⟨near, nearMember⟩ := List.exists_mem_of_ne_nil inner present
    have summed : sums outer inner ≠ [] :=
      List.ne_nil_of_mem (mem_sums.mpr ⟨far, farMember, near, nearMember, rfl⟩)
    obtain ⟨outerLow, outerLeast⟩ := min?_getD_mem empty
    obtain ⟨innerLow, innerLeast⟩ := min?_getD_mem present
    obtain ⟨sumLow, sumLeast⟩ := min?_getD_mem summed
    obtain ⟨outerHigh, outerGreatest⟩ := max?_getD_mem empty
    obtain ⟨innerHigh, innerGreatest⟩ := max?_getD_mem present
    obtain ⟨sumHigh, sumGreatest⟩ := max?_getD_mem summed
    have low : (sums outer inner).min?.getD 0 = outer.min?.getD 0 + inner.min?.getD 0 := by
      obtain ⟨far, farMember, near, nearMember, sum⟩ := mem_sums.mp sumLow
      have farAbove := outerLeast far farMember
      have nearAbove := innerLeast near nearMember
      have below := sumLeast _ (mem_sums.mpr ⟨_, outerLow, _, innerLow, rfl⟩)
      omega
    have high : (sums outer inner).max?.getD 0 = outer.max?.getD 0 + inner.max?.getD 0 := by
      obtain ⟨far, farMember, near, nearMember, sum⟩ := mem_sums.mp sumHigh
      have farBelow := outerGreatest far farMember
      have nearBelow := innerGreatest near nearMember
      have above := sumGreatest _ (mem_sums.mpr ⟨_, outerHigh, _, innerHigh, rfl⟩)
      omega
    simp only [copies, TypeMap.copies_copies, spread, if_neg empty, if_neg present,
      if_neg summed, low, high, Layout.mk.injEq]
    refine ⟨rfl, ?_, ?_⟩ <;> ring

theorem size_copies (old : Layout) (displacements : List Int) :
    (old.copies displacements).size = displacements.length * old.size :=
  TypeMap.size_copies old.map displacements

@[simp] theorem block_one (extent start : Int) : block extent start 1 = [start] := by
  simp [block]

theorem hvector_one (old : Layout) (count : Nat) (stride : Int) :
    old.hvector count 1 stride =
      old.copies ((List.range count).map fun (i : Nat) => i * stride) := by
  simp [hvector, List.map_eq_flatMap]

theorem hindexed_singles (old : Layout) (displacements : List Int) :
    old.hindexed (displacements.map fun displacement => (1, displacement)) =
      old.copies displacements := by
  simp [hindexed, List.flatMap_map, List.flatMap_singleton']

theorem Solid.size_eq {layout : Layout} {length : Nat} (solid : layout.Solid length) :
    layout.size = length := by
  rw [size, ← TypeMap.length_bytes, solid.bytes_eq]
  simp

/-- Transferring copies of a solid layout walks through the bytes of each copy. -/
theorem Solid.bytes_copies {layout : Layout} {length : Nat} (solid : layout.Solid length)
    (displacements : List Int) :
    (layout.copies displacements).map.bytes =
      displacements.flatMap fun distance => span distance length := by
  simp [copies, TypeMap.bytes_copies, solid.bytes_eq, map_add_span]

end Layout

end Foundation
