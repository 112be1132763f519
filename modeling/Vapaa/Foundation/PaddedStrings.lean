import Mathlib.Data.List.DropRight
import Mathlib.Tactic.Common

/-!
# Padded strings

Strings of declared lengths, which compare equal when blanks make them so.
-/

set_option autoImplicit false

namespace Foundation

namespace PaddedString

variable {α : Type} [DecidableEq α] {blank : α}

/-- The string without leading and trailing blanks. -/
def strip (blank : α) (string : List α) : List α :=
  (string.dropWhile fun char => char = blank).rdropWhile fun char => char = blank

def pad (blank : α) (length : Nat) (string : List α) : List α :=
  string ++ List.replicate (length - string.length) blank

/-- Comparison of strings of different lengths: blanks fill up the shorter one. -/
def Equal (blank : α) (left right : List α) : Prop :=
  pad blank (max left.length right.length) left = pad blank (max left.length right.length) right

instance (left right : List α) : Decidable (Equal blank left right) :=
  inferInstanceAs (Decidable (_ = _))

theorem strip_split (string : List α) :
    ∃ leading trailing, string =
      List.replicate leading blank ++ (strip blank string ++ List.replicate trailing blank) := by
  let isBlank : α → Bool := fun char => char = blank
  have lead : string.takeWhile isBlank =
      List.replicate (string.takeWhile isBlank).length blank := by
    refine List.eq_replicate_of_mem fun char member => ?_
    have found : isBlank char = true := List.mem_takeWhile_imp member
    exact of_decide_eq_true found
  have trail : (string.dropWhile isBlank).rtakeWhile isBlank =
      List.replicate ((string.dropWhile isBlank).rtakeWhile isBlank).length blank := by
    refine List.eq_replicate_of_mem fun char member => ?_
    have found : isBlank char = true := List.mem_rtakeWhile_imp member
    exact of_decide_eq_true found
  refine ⟨(string.takeWhile isBlank).length,
    ((string.dropWhile isBlank).rtakeWhile isBlank).length, ?_⟩
  rw [← lead, ← trail, strip, List.rdropWhile_append_rtakeWhile, List.takeWhile_append_dropWhile]

theorem strip_eq_cons {string rest : List α} {char : α}
    (stripped : strip blank string = char :: rest) : char ≠ blank := by
  obtain ⟨others, split⟩ : strip blank string <+: string.dropWhile fun char => char = blank :=
    List.rdropWhile_prefix _ _
  rw [stripped, List.cons_append] at split
  have kept := List.head?_dropWhile_not (fun char => decide (char = blank)) string
  rw [← split] at kept
  simpa using kept

theorem mem_of_mem_strip {string : List α} {char : α} (member : char ∈ strip blank string) :
    char ∈ string :=
  (List.dropWhile_suffix _).subset ((List.rdropWhile_prefix _ _).subset member)

/-- What follows the stripped string in a string that starts with it is blank. -/
theorem rest_of_strip_prefix {string rest : List α} (starts : string = strip blank string ++ rest) :
    rest = List.replicate rest.length blank := by
  obtain ⟨leading, trailing, split⟩ := @strip_split α _ blank string
  cases stripped : strip blank string with
  | nil =>
      rw [stripped, List.nil_append] at starts split
      rw [← starts, split, ← List.replicate_add, List.length_replicate]
  | cons char others =>
      rw [stripped] at starts split
      cases leading with
      | zero =>
          rw [List.replicate_zero, List.nil_append, starts] at split
          rw [List.append_cancel_left split, List.length_replicate]
      | succ leading =>
          rw [starts, List.replicate_succ, List.cons_append, List.cons_append,
            List.cons.injEq] at split
          exact absurd split.1 (strip_eq_cons stripped)

omit [DecidableEq α] in
theorem not_equal_of_mem {left right : List α} {char : α} (visible : char ≠ blank)
    (inside : char ∈ left) (outside : char ∉ right) : ¬ Equal blank left right := by
  intro equal
  have member : char ∈ pad blank (max left.length right.length) left :=
    List.mem_append_left _ inside
  rw [equal, pad, List.mem_append] at member
  cases member with
  | inl within => exact outside within
  | inr padding => exact visible (List.eq_of_mem_replicate padding)

omit [DecidableEq α] in
theorem equal_iff_of_le {left right : List α} (shorter : right.length ≤ left.length) :
    Equal blank left right ↔
      left = right ++ List.replicate (left.length - right.length) blank := by
  rw [Equal, Nat.max_eq_left shorter, pad, pad, Nat.sub_self, List.replicate_zero, List.append_nil]

/-- The start of a string equals the stripped string where that is the start of the string. -/
theorem take_equal_strip_iff {string : List α} {length : Nat} (within : length ≤ string.length)
    (beyond : (strip blank string).length ≤ length) :
    Equal blank (string.take length) (strip blank string) ↔ strip blank string <+: string := by
  have taken : (string.take length).length = length := List.length_take_of_le within
  rw [equal_iff_of_le (taken.symm ▸ beyond), taken]
  constructor
  · intro same
    exact (same ▸ List.prefix_append _ _).trans (List.take_prefix length string)
  · rintro ⟨rest, split⟩
    have blanks := rest_of_strip_prefix split.symm
    have counted : string.length = (strip blank string).length + rest.length := by
      rw [← List.length_append, split]
    have padding : rest.take (length - (strip blank string).length) =
        List.replicate (length - (strip blank string).length) blank := by
      rw [blanks, List.take_replicate, Nat.min_eq_left (by omega)]
    conv_lhs => rw [← split]
    rw [List.take_append, List.take_of_length_le beyond, padding]

end PaddedString

end Foundation
