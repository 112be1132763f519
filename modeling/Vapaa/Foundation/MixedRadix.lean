import Mathlib.Algebra.BigOperators.Group.List.Basic
import Mathlib.Algebra.BigOperators.Ring.Finset
import Mathlib.Tactic.Ring

/-!
# Mixed-radix counting

Numbers below a product of bases, their digits with the first position running
fastest, and the enumeration that nested counted loops perform.
-/

set_option autoImplicit false

namespace Foundation.MixedRadix

/-- Digits of a number in the given bases, least significant first. -/
def digits : List Nat → Nat → List Nat
  | [], _ => []
  | base :: bases, n => n % base :: digits bases (n / base)

/-- All multi-indices below the bases, the first position running fastest. -/
def indices : List Nat → List (List Nat)
  | [] => [[]]
  | base :: bases =>
      (indices bases).flatMap fun rest => (List.range base).map (· :: rest)

/-- Weighted sum of a multi-index. -/
def dot : List Int → List Nat → Int
  | stride :: strides, index :: rest => stride * index + dot strides rest
  | _, _ => 0

/-- Weighted position whose last digit is the whole remaining quotient, so that
the last base bounds nothing. -/
def position : List Nat → List Int → Nat → Int
  | base :: next :: bases, stride :: strides, n =>
      stride * (n % base : Nat) + position (next :: bases) strides (n / base)
  | [_], stride :: _, n => stride * n
  | _, _, _ => 0

@[simp] theorem dot_nil_left (index : List Nat) : dot [] index = 0 := by
  simp [dot]

@[simp] theorem dot_nil_right (strides : List Int) : dot strides [] = 0 := by
  cases strides <;> simp [dot]

@[simp] theorem dot_cons (stride : Int) (strides : List Int) (index : Nat) (rest : List Nat) :
    dot (stride :: strides) (index :: rest) = stride * index + dot strides rest := rfl

/-- Counting to a product visits, for each quotient, every remainder in order. -/
theorem map_range_mul {α : Type} (base count : Nat) (f : Nat → α) :
    (List.range (base * count)).map f =
      (List.range count).flatMap fun quotient =>
        (List.range base).map fun remainder => f (base * quotient + remainder) := by
  induction count with
  | zero => simp
  | succ count ih =>
      rw [Nat.mul_succ, List.range_add, List.map_append, ih, List.range_succ]
      simp [List.flatMap_append, Function.comp_def]

theorem flatMap_rows {α : Type} (length rows : Nat) (f : Nat → Nat → α) :
    ((List.range rows).flatMap fun row => (List.range length).map fun column => f row column) =
      (List.range (length * rows)).map fun n => f (n / length) (n % length) := by
  rw [map_range_mul]
  apply List.flatMap_congr
  intro row _
  apply List.map_congr_left
  intro column member
  have below : column < length := List.mem_range.mp member
  have positive : 0 < length := by omega
  rw [Nat.mul_add_mod, Nat.mod_eq_of_lt below, Nat.mul_add_div positive,
    Nat.div_eq_of_lt below, Nat.add_zero]

/-- Nested enumeration lists exactly the digit vectors, in counting order. -/
theorem indices_eq_map_digits (bases : List Nat) :
    indices bases = (List.range bases.prod).map (digits bases) := by
  induction bases with
  | nil => rfl
  | cons base bases ih =>
      have rows := flatMap_rows base bases.prod fun rest first => first :: digits bases rest
      rw [List.prod_cons, indices, ih, List.flatMap_map, rows]
      rfl

theorem length_indices (bases : List Nat) : (indices bases).length = bases.prod := by
  rw [indices_eq_map_digits, List.length_map, List.length_range]

@[simp] theorem dot_digits_zero (strides : List Int) (bases : List Nat) :
    dot strides (digits bases 0) = 0 := by
  induction bases generalizing strides with
  | nil => simp [digits]
  | cons base bases ih =>
      cases strides with
      | nil => simp
      | cons stride strides => simp [digits, ih]

/-- Unused trailing positions of base one and weight zero change nothing. -/
theorem dot_digits_padded {strides : List Int} {bases : List Nat}
    (sameLength : strides.length = bases.length) (unused n : Nat) :
    dot (strides ++ List.replicate unused 0)
      (digits (bases ++ List.replicate unused 1) n) = dot strides (digits bases n) := by
  induction bases generalizing strides n with
  | nil =>
      have empty : strides = [] := List.length_eq_zero_iff.mp sameLength
      subst empty
      induction unused generalizing n with
      | zero => simp [digits]
      | succ unused ih => simpa [List.replicate_succ, digits] using ih (n / 1)
  | cons base bases ih =>
      cases strides with
      | nil => simp at sameLength
      | cons stride strides =>
          have tailLength : strides.length = bases.length := by simpa using sameLength
          simp [digits, ih tailLength]

theorem prod_padded (bases : List Nat) (unused : Nat) :
    (bases ++ List.replicate unused 1).prod = bases.prod := by
  simp

/-- Below the product of all bases the unbounded last digit is an ordinary one. -/
theorem position_eq_dot_digits {bases : List Nat} {strides : List Int} {n : Nat}
    (sameLength : strides.length = bases.length) (below : n < bases.prod) :
    position bases strides n = dot strides (digits bases n) := by
  induction bases generalizing strides n with
  | nil => simp [position, digits]
  | cons base bases ih =>
      cases strides with
      | nil => simp at sameLength
      | cons stride strides =>
          have tailLength : strides.length = bases.length := by simpa using sameLength
          have quotient : n / base < bases.prod := Nat.div_lt_of_lt_mul (by simpa using below)
          cases bases with
          | nil =>
              have small : n < base := by simpa using below
              simp [position, digits, Nat.mod_eq_of_lt small]
          | cons next bases =>
              simp only [position, digits, dot_cons]
              rw [ih tailLength quotient, digits]

@[simp] theorem position_zero (bases : List Nat) (strides : List Int) :
    position bases strides 0 = 0 := by
  induction bases generalizing strides with
  | nil => simp [position]
  | cons base bases ih =>
      cases strides with
      | nil => cases bases <;> simp [position]
      | cons stride strides =>
          cases bases with
          | nil => simp [position]
          | cons next bases => simp [position, ih]

/-- Digits below smaller bases are the digits of some number in larger ones. -/
theorem exists_digits_eq {smaller bases : List Nat} (below : List.Forall₂ (· ≤ ·) smaller bases)
    {n : Nat} (inside : n < smaller.prod) :
    ∃ m, m < bases.prod ∧ digits bases m = digits smaller n := by
  induction below generalizing n with
  | nil => exact ⟨0, by simp, rfl⟩
  | @cons small base smaller bases least _ ih =>
      rw [List.prod_cons] at inside
      have positive : 0 < small := by
        apply Nat.pos_of_ne_zero
        rintro rfl
        rw [Nat.zero_mul] at inside
        omega
      have digit : n % small < base := lt_of_lt_of_le (Nat.mod_lt n positive) least
      obtain ⟨m, bounded, same⟩ := ih (Nat.div_lt_of_lt_mul inside)
      refine ⟨n % small + base * m, ?_, ?_⟩
      · calc n % small + base * m < base + base * m := by omega
          _ = base * (m + 1) := by ring
          _ ≤ base * bases.prod := Nat.mul_le_mul_left base bounded
          _ = (base :: bases).prod := List.prod_cons.symm
      · have quotient : (n % small + base * m) / base = m := by
          rw [Nat.add_mul_div_left _ _ (by omega), Nat.div_eq_of_lt digit, Nat.zero_add]
        rw [digits, digits, Nat.add_mul_mod_self_left, Nat.mod_eq_of_lt digit, quotient, same]

theorem position_of_lt_head {base : Nat} {bases : List Nat} {stride : Int}
    {strides : List Int} {n : Nat} (below : n < base) :
    position (base :: bases) (stride :: strides) n = stride * n := by
  cases bases with
  | nil => rfl
  | cons next bases =>
      simp [position, Nat.mod_eq_of_lt below, Nat.div_eq_of_lt below]

/-- Below the product of the first two bases only the first two strides count. -/
theorem position_of_lt_two {base next : Nat} {bases : List Nat} {first second : Int}
    {strides : List Int} {n : Nat} (below : n < base * next) :
    position (base :: next :: bases) (first :: second :: strides) n =
      first * (n % base : Nat) + second * (n / base : Nat) := by
  rw [position, position_of_lt_head (Nat.div_lt_of_lt_mul below)]

section Numbers

/-- Number of a multi-index, the first position running fastest. -/
def number : List Nat → List Nat → Nat
  | base :: bases, index :: rest => index + base * number bases rest
  | _, _ => 0

/-- A multi-index with every position below its base. -/
def Within (bases index : List Nat) : Prop := List.Forall₂ (· < ·) index bases

theorem number_lt {bases index : List Nat} (within : Within bases index) :
    number bases index < bases.prod := by
  induction within with
  | nil => exact Nat.one_pos
  | @cons digit base index bases below _ ih =>
      calc digit + base * number bases index < base * (number bases index + 1) := by
            rw [Nat.mul_succ]
            omega
        _ ≤ (base :: bases).prod := by
            rw [List.prod_cons]
            exact Nat.mul_le_mul_left base ih

theorem digits_number {bases index : List Nat} (within : Within bases index) :
    digits bases (number bases index) = index := by
  induction within with
  | nil => rfl
  | @cons digit base index bases below _ ih =>
      have first : (digit + base * number bases index) % base = digit := by
        rw [Nat.add_mul_mod_self_left, Nat.mod_eq_of_lt below]
      have quotient : (digit + base * number bases index) / base = number bases index := by
        rw [Nat.add_mul_div_left _ _ (Nat.zero_lt_of_lt below), Nat.div_eq_of_lt below,
          Nat.zero_add]
      rw [number, digits, first, quotient, ih]

theorem digits_within {bases : List Nat} {n : Nat} (below : n < bases.prod) :
    Within bases (digits bases n) := by
  induction bases generalizing n with
  | nil => exact List.Forall₂.nil
  | cons base bases ih =>
      rw [List.prod_cons] at below
      have positive : 0 < base := by
        apply Nat.pos_of_ne_zero
        rintro rfl
        omega
      exact List.Forall₂.cons (Nat.mod_lt n positive) (ih (Nat.div_lt_of_lt_mul below))

/-- A multi-index of leading positions is one of all positions whose others are zero. -/
theorem within_leading {bases rest index : List Nat} (within : Within bases index)
    (positive : 0 < rest.prod) : Within (bases ++ rest) (index ++ digits rest 0) :=
  List.rel_append within (digits_within positive)

theorem dot_leading {strides : List Int} {index : List Nat}
    (sameLength : strides.length = index.length) (others : List Int) (rest : List Nat) :
    dot (strides ++ others) (index ++ digits rest 0) = dot strides index := by
  induction index generalizing strides with
  | nil =>
      have empty : strides = [] := List.length_eq_zero_iff.mp sameLength
      rw [empty, List.nil_append, List.nil_append, dot_digits_zero, dot_nil_left]
  | cons first index ih =>
      cases strides with
      | nil => simp at sameLength
      | cons stride strides =>
          have tailLength : strides.length = index.length := by simpa using sameLength
          rw [List.cons_append, List.cons_append, dot_cons, dot_cons, ih tailLength]

theorem number_range (base index : Nat → Nat) (rank : Nat) :
    number ((List.range rank).map base) ((List.range rank).map index) =
      ∑ k ∈ Finset.range rank, index k * ∏ m ∈ Finset.range k, base m := by
  induction rank generalizing base index with
  | zero => rfl
  | succ rank ih =>
      have rest := ih (fun k => base (k + 1)) fun k => index (k + 1)
      simp only [List.range_succ_eq_map, List.map_cons, List.map_map, number] at rest ⊢
      rw [Function.comp_def, Function.comp_def, rest, Finset.sum_range_succ', Finset.mul_sum,
        Nat.add_comm]
      congr 1
      · apply Finset.sum_congr rfl
        intro k _
        rw [Finset.prod_range_succ']
        ring
      · simp

theorem dot_range (stride : Nat → Int) (index : Nat → Nat) (rank : Nat) :
    dot ((List.range rank).map stride) ((List.range rank).map index) =
      ∑ k ∈ Finset.range rank, index k * stride k := by
  induction rank generalizing stride index with
  | zero => rfl
  | succ rank ih =>
      have rest := ih (fun k => stride (k + 1)) fun k => index (k + 1)
      simp only [List.range_succ_eq_map, List.map_cons, List.map_map, dot_cons] at rest ⊢
      rw [Function.comp_def, Function.comp_def, rest, Finset.sum_range_succ']
      ring

end Numbers

section Bounded

variable {fits : Int → Prop} [DecidablePred fits]

variable (fits) in
/-- Weighted sum, term by term, in an arithmetic that does not have every result. -/
def boundedDot : List Int → List Nat → Int → Option Int
  | stride :: strides, index :: rest, sum =>
      if fits (stride * index) ∧ fits (sum + stride * index) then
        boundedDot strides rest (sum + stride * index)
      else none
  | _, _, sum => some sum

/-- Without bounds it is the weighted sum. -/
theorem boundedDot_of_unbounded (strides : List Int) (index : List Nat) (sum : Int) :
    boundedDot (fun _ => True) strides index sum = some (sum + dot strides index) := by
  induction strides generalizing index sum with
  | nil => simp [boundedDot]
  | cons stride strides ih =>
      cases index with
      | nil => simp [boundedDot]
      | cons first rest => simp [boundedDot, ih, dot_cons, add_assoc]

theorem boundedDot_eq_some {strides : List Int} {index : List Nat} {sum total : Int}
    (result : boundedDot fits strides index sum = some total) :
    total = sum + dot strides index ∧ (fits sum → fits total) := by
  induction strides generalizing index sum with
  | nil =>
      cases result
      simp
  | cons stride strides ih =>
      cases index with
      | nil =>
          cases result
          simp
      | cons index rest =>
          rw [boundedDot] at result
          split_ifs at result with bounded
          obtain ⟨same, kept⟩ := ih result
          refine ⟨?_, fun _ => kept bounded.2⟩
          rw [same, dot_cons, add_assoc]

/-- Where the arithmetic has the sums of all multi-indices, it has what leads to them: terms and
partial sums are themselves sums of multi-indices. -/
theorem boundedDot_of_fits {strides : List Int} {bases index : List Nat} {sum : Int}
    (within : Within bases index) (terms : ∀ other, Within bases other → fits (dot strides other))
    (sums : ∀ other, Within bases other → fits (sum + dot strides other)) :
    boundedDot fits strides index sum = some (sum + dot strides index) := by
  induction within generalizing strides sum with
  | nil => simp [boundedDot]
  | @cons digit base index bases below rest ih =>
      cases strides with
      | nil => simp [boundedDot]
      | cons stride strides =>
          have positive : 0 < bases.prod := Nat.zero_lt_of_lt (number_lt rest)
          have alone : Within (base :: bases) (digit :: digits bases 0) :=
            List.Forall₂.cons below (digits_within positive)
          have term := terms _ alone
          have partialSum := sums _ alone
          rw [dot_cons, dot_digits_zero, add_zero] at term partialSum
          rw [boundedDot, if_pos ⟨term, partialSum⟩, dot_cons, ← add_assoc]
          apply ih
          · intro other inside
            have zeroed := terms _ (List.Forall₂.cons (Nat.zero_lt_of_lt below) inside)
            simpa using zeroed
          · intro other inside
            have whole := sums _ (List.Forall₂.cons below inside)
            rwa [dot_cons, ← add_assoc] at whole

end Bounded

end Foundation.MixedRadix
