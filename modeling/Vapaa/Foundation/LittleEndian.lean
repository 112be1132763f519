import Mathlib.Data.Nat.Digits.Defs
import Vapaa.Foundation.Memory

/-!
# Bytes of values

Values as bytes from the lowest, and runs of consecutive locations of a memory.
-/

set_option autoImplicit false

namespace Foundation

namespace LittleEndian

/-- The value of bytes of which the first is the lowest. -/
def value (bytes : List UInt8) : Nat := Nat.ofDigits 256 (bytes.map UInt8.toNat)

/-- The lowest bytes of a value. -/
def bytes : Nat → Nat → List UInt8
  | 0, _ => []
  | width + 1, value => UInt8.ofNat value :: bytes width (value / 256)

@[simp] theorem length_bytes (width n : Nat) : (bytes width n).length = width := by
  induction width generalizing n with
  | zero => rfl
  | succ width ih => rw [bytes, List.length_cons, ih]

theorem value_bytes {width n : Nat} (small : n < 256 ^ width) : value (bytes width n) = n := by
  induction width generalizing n with
  | zero =>
      have zero : n = 0 := by simpa using small
      rw [zero]
      rfl
  | succ width ih =>
      have rest : n / 256 < 256 ^ width := by
        rw [pow_succ] at small
        omega
      have low : (UInt8.ofNat n).toNat = n % 256 := UInt8.toNat_ofNat'
      have step : value (bytes (width + 1) n) = n % 256 + 256 * (n / 256) := by
        rw [value, bytes, List.map_cons, Nat.ofDigits_cons, ← value, ih rest, low]
      rw [step, Nat.mod_add_div]

end LittleEndian

namespace Memory

variable {V : Type}

def span (start : Int) (length : Nat) : List Int := 
  (List.range length).map fun (i : Nat) => start + i

theorem nodup_span (start : Int) (length : Nat) : (span start length).Nodup := by
  refine List.Nodup.map ?_ List.nodup_range
  intro i j same
  dsimp only at same
  omega

def read (memory : Memory Int V) (start : Int) (length : Nat) : List V :=
  (span start length).map memory

def write (memory : Memory Int V) (start : Int) (values : List V) : Memory Int V :=
  memory.writeAll ((span start values.length).zip values)

theorem read_write (memory : Memory Int V) (start : Int) (values : List V) :
    (memory.write start values).read start values.length = values :=
  map_writeAll_zip memory (nodup_span _ _) (by simp [span])

theorem read_take (memory : Memory Int V) (start : Int) {fewer length : Nat}
    (within : fewer ≤ length) :
    memory.read start fewer = (memory.read start length).take fewer := by
  rw [read, read, span, span, ← List.map_take, ← List.map_take, List.take_range,
    Nat.min_eq_left within]

/-- The first of the values written are read back. -/
theorem read_write_append (memory : Memory Int V) (start : Int) (values rest : List V) :
    (memory.write start (values ++ rest)).read start values.length = values := by
  rw [read_take _ start (List.length_append ▸ Nat.le_add_right _ _ :
    values.length ≤ (values ++ rest).length), read_write, List.take_left]

end Memory

end Foundation
