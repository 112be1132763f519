import Vapaa.Foundation.Outcome

/-!
# Characters in memory

Buffers of characters, and strings as they pass between Fortran and C.
-/

set_option autoImplicit false

namespace Vapaa

open Foundation

def nul : UInt8 := 0

def blank : UInt8 := 32

/-- The C string at the start of a piece of memory. -/
def cString (memory : List UInt8) : Outcome (List UInt8) :=
  if nul ∈ memory then .returned (memory.takeWhile fun char => char ≠ nul)
  else .undefined .outOfBounds

/-- Writes bytes to the start of a buffer. -/
def overwrite (buffer bytes : List UInt8) : Outcome (List UInt8) :=
  if bytes.length ≤ buffer.length then .returned (bytes ++ buffer.drop bytes.length)
  else .undefined .outOfBounds

theorem overwrite_of_le {buffer bytes : List UInt8} (room : bytes.length ≤ buffer.length) :
    overwrite buffer bytes = .returned (bytes ++ buffer.drop bytes.length) :=
  if_pos room

theorem overwrite_of_lt {buffer bytes : List UInt8} (overrun : buffer.length < bytes.length) :
    overwrite buffer bytes = .undefined .outOfBounds :=
  if_neg (Nat.not_le.mpr overrun)

/-- A `character(len=*)` argument: its characters, and the readable memory behind them. -/
structure FortranString where
  chars : List UInt8
  following : List UInt8
  deriving DecidableEq, Repr

/-- What C finds at the address of the argument itself. -/
def FortranString.inPlace (string : FortranString) : List UInt8 :=
  string.chars ++ string.following

/-- `allocate( key_c(ls+1) )`, filled with `c_null_char`, then with the characters of `key`. -/
def FortranString.copied (string : FortranString) : List UInt8 :=
  (List.range (string.chars.length + 1)).map fun i => string.chars.getD i nul

theorem FortranString.copied_eq (string : FortranString) :
    string.copied = string.chars ++ [nul] := by
  apply List.ext_getElem
  · simp [copied]
  · intro i _ _
    simp only [copied, List.getElem_map, List.getElem_range, List.getD_eq_getElem?_getD]
    by_cases inside : i < string.chars.length
    · simp [inside]
    · have last : i = string.chars.length := by simp_all [copied]; omega
      simp [last]

end Vapaa
