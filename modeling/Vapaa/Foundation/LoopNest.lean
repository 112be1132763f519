import Vapaa.Foundation.MixedRadix
import Vapaa.Foundation.Outcome

/-!
# Counted loops, jumps out of them, and the arrays they fill

A loop body either continues or leaves the whole nest for a label behind it.
Arrays start with unset cells, and reading one of these is undefined.
-/

set_option autoImplicit false

namespace Foundation

/-- Array cells, unset until the first store. -/
abbrev Cells (α : Type) := List (Option α)

namespace Cells

variable {α : Type}

def fresh (size : Nat) : Cells α := List.replicate size none

def store (cells : Cells α) (index : Nat) (value : α) : Outcome (Cells α) :=
  if index < cells.length then .returned (cells.set index (some value))
  else .undefined .outOfBounds

def load (cells : Cells α) (index : Nat) : Outcome α :=
  match cells[index]? with
  | some (some value) => .returned value
  | some none => .undefined .unsetValue
  | none => .undefined .outOfBounds

/-- Reads the first cells in order. -/
def loadFirst : Nat → Cells α → Outcome (List α)
  | 0, _ => .returned []
  | count + 1, some value :: cells => do
      let rest ← loadFirst count cells
      return value :: rest
  | _ + 1, none :: _ => .undefined .unsetValue
  | _ + 1, [] => .undefined .outOfBounds

theorem length_of_loadFirst {count : Nat} {cells : Cells α} {values : List α}
    (loaded : loadFirst count cells = .returned values) : values.length = count := by
  induction count generalizing cells values with
  | zero =>
      cases loaded
      rfl
  | succ count ih =>
      cases cells with
      | nil => cases loaded
      | cons cell cells =>
          cases cell with
          | none => cases loaded
          | some value =>
              rw [loadFirst, Outcome.bind_eq_returned] at loaded
              obtain ⟨rest, loadedRest, same⟩ := loaded
              cases same
              rw [List.length_cons, ih loadedRest]

theorem loadFirst_set_append (values : List α) (rest : Cells α) :
    loadFirst values.length (values.map some ++ rest) = .returned values := by
  induction values with
  | nil => rfl
  | cons value values ih => simp [loadFirst, ih]

theorem loadFirst_set (values : List α) :
    loadFirst values.length (values.map some) = .returned values := by
  simpa using loadFirst_set_append values []

/-- Storing behind a set prefix extends it. -/
theorem store_next (values : List α) (value : α) (unset : Nat) :
    store (values.map some ++ fresh (unset + 1)) values.length value =
      .returned ((values ++ [value]).map some ++ fresh unset) := by
  simp [store, fresh, List.replicate_succ]

end Cells

/-- What a loop body leads to: the next round, a jump behind the loops, or
nothing the language defines. -/
inductive Flow (σ : Type) where
  | next (state : σ)
  | goto (state : σ)
  | undefined (fault : Fault)

namespace Flow

variable {σ : Type}

def andThen : Flow σ → (σ → Flow σ) → Flow σ
  | .next state, rest => rest state
  | .goto state, _ => .goto state
  | .undefined fault, _ => .undefined fault

/-- The label behind the loops, reached by a jump or by running to the end. -/
def land : Flow σ → Outcome σ
  | .next state => .returned state
  | .goto state => .returned state
  | .undefined fault => .undefined fault

@[simp] theorem next_andThen (state : σ) (rest : σ → Flow σ) :
    (Flow.next state).andThen rest = rest state := rfl

@[simp] theorem goto_andThen (state : σ) (rest : σ → Flow σ) :
    (Flow.goto state).andThen rest = .goto state := rfl

@[simp] theorem undefined_andThen (fault : Fault) (rest : σ → Flow σ) :
    (Flow.undefined fault : Flow σ).andThen rest = .undefined fault := rfl

@[simp] theorem land_next (state : σ) : (Flow.next state).land = .returned state := rfl

@[simp] theorem land_goto (state : σ) : (Flow.goto state).land = .returned state := rfl

@[simp] theorem land_undefined (fault : Fault) :
    (Flow.undefined fault : Flow σ).land = .undefined fault := rfl

theorem andThen_assoc (flow : Flow σ) (second third : σ → Flow σ) :
    (flow.andThen second).andThen third =
      flow.andThen fun state => (second state).andThen third := by
  cases flow <;> rfl

@[simp] theorem andThen_next (flow : Flow σ) : flow.andThen .next = flow := by
  cases flow <;> rfl

end Flow

variable {σ α β : Type}

/-- Runs a body over a list, one round after another. -/
def iterate (body : α → σ → Flow σ) : List α → σ → Flow σ
  | [], state => .next state
  | value :: values, state => (body value state).andThen (iterate body values)

@[simp] theorem iterate_nil (body : α → σ → Flow σ) (state : σ) :
    iterate body [] state = .next state := rfl

@[simp] theorem iterate_cons (body : α → σ → Flow σ) (value : α) (values : List α)
    (state : σ) :
    iterate body (value :: values) state =
      (body value state).andThen (iterate body values) := rfl

theorem iterate_append (body : α → σ → Flow σ) (left right : List α) (state : σ) :
    iterate body (left ++ right) state =
      (iterate body left state).andThen (iterate body right) := by
  induction left generalizing state with
  | nil => rfl
  | cons value values ih =>
      rw [List.cons_append, iterate_cons, iterate_cons, Flow.andThen_assoc]
      congr 1
      funext middle
      exact ih middle

theorem iterate_map (body : β → σ → Flow σ) (relabel : α → β) (list : List α)
    (state : σ) :
    iterate body (list.map relabel) state =
      iterate (fun value => body (relabel value)) list state := by
  induction list generalizing state with
  | nil => rfl
  | cons value values ih =>
      rw [List.map_cons, iterate_cons, iterate_cons]
      congr 1
      funext middle
      exact ih middle

theorem iterate_flatMap (body : β → σ → Flow σ) (inner : α → List β) (list : List α)
    (state : σ) :
    iterate body (list.flatMap inner) state =
      iterate (fun value => iterate body (inner value)) list state := by
  induction list generalizing state with
  | nil => rfl
  | cons value values ih =>
      rw [List.flatMap_cons, iterate_append, iterate_cons]
      congr 1
      funext middle
      exact ih middle

theorem iterate_congr {first second : α → σ → Flow σ} {list : List α}
    (same : ∀ value ∈ list, first value = second value) (state : σ) :
    iterate first list state = iterate second list state := by
  induction list generalizing state with
  | nil => rfl
  | cons value values ih =>
      rw [iterate_cons, iterate_cons, same value (by simp)]
      congr 1
      funext middle
      exact ih (fun later member => same later (by simp [member])) middle

/-- Rounds that may end in one fault, and are otherwise those of another loop. -/
theorem iterate_of_faults {first second : α → σ → Flow σ} {fault : Fault}
    (rounds : ∀ value state,
      first value state = .undefined fault ∨ first value state = second value state)
    (list : List α) (state : σ) :
    iterate first list state = .undefined fault ∨
      iterate first list state = iterate second list state := by
  induction list generalizing state with
  | nil => exact Or.inr rfl
  | cons value values ih =>
      rw [iterate_cons, iterate_cons]
      obtain faulty | same := rounds value state
      · rw [faulty]
        exact Or.inl rfl
      · rw [same]
        cases second value state with
        | next middle => exact ih middle
        | goto middle => exact Or.inr rfl
        | undefined other => exact Or.inr rfl

theorem iterate_ne_goto {body : α → σ → Flow σ}
    (rounds : ∀ value state target, body value state ≠ .goto target) (list : List α)
    (state target : σ) : iterate body list state ≠ .goto target := by
  induction list generalizing state with
  | nil => exact nofun
  | cons value values ih =>
      rw [iterate_cons]
      cases round : body value state with
      | next middle => exact ih middle
      | goto middle => exact absurd round (rounds value state middle)
      | undefined fault => exact nofun

/-- A round on a value whose computation may overflow. -/
def Flow.ofResult (result : Option β) (rest : β → Flow σ) : Flow σ :=
  match result with
  | some value => rest value
  | none => .undefined .overflow

/-- Rounds that reach the end have computed all their values. -/
theorem iterate_ofResult {result : α → Option β} {body : β → σ → Flow σ} {list : List α}
    {start final : σ}
    (reached : iterate (fun value state => Flow.ofResult (result value) fun computed =>
      body computed state) list start = .next final) :
    ∃ values, list.map result = values.map some ∧ iterate body values start = .next final := by
  induction list generalizing start with
  | nil => exact ⟨[], rfl, reached⟩
  | cons value list ih =>
      rw [iterate_cons] at reached
      cases computed : result value with
      | none =>
          rw [computed] at reached
          cases reached
      | some first =>
          rw [computed, Flow.ofResult] at reached
          cases round : body first start with
          | next middle =>
              rw [round, Flow.next_andThen] at reached
              obtain ⟨values, results, rest⟩ := ih reached
              refine ⟨first :: values, ?_, ?_⟩
              · rw [List.map_cons, List.map_cons, computed, results]
              · rw [iterate_cons, round, Flow.next_andThen, rest]
          | goto middle =>
              rw [round] at reached
              cases reached
          | undefined fault =>
              rw [round] at reached
              cases reached

/-- `for (int i = 0; i < bound; i++)`. -/
def forLoop (bound : Int) (body : Nat → σ → Flow σ) (state : σ) : Flow σ :=
  iterate body (List.range bound.toNat) state

/-- Loops inside one another, the first bound being the innermost. -/
def nest : List Int → (List Nat → σ → Flow σ) → σ → Flow σ
  | [], body => body []
  | bound :: bounds, body => nest bounds fun rest => forLoop bound fun i => body (i :: rest)

/-- The last bound is that of the outermost loop. -/
theorem nest_append_singleton (bounds : List Int) (bound : Int)
    (body : List Nat → σ → Flow σ) (state : σ) :
    nest (bounds ++ [bound]) body state =
      forLoop bound (fun i => nest bounds fun rest => body (rest ++ [i])) state := by
  induction bounds generalizing body with
  | nil => rfl
  | cons first bounds ih => exact ih fun rest => forLoop first fun i => body (i :: rest)

/-- A loop nest runs its body once per multi-index, in counting order. -/
theorem nest_eq_iterate (bounds : List Int) (body : List Nat → σ → Flow σ) (state : σ) :
    nest bounds body state =
      iterate body (MixedRadix.indices (bounds.map Int.toNat)) state := by
  induction bounds generalizing body state with
  | nil => exact (Flow.andThen_next (body [] state)).symm
  | cons bound bounds ih =>
      rw [nest, ih, List.map_cons, MixedRadix.indices, iterate_flatMap]
      congr 1
      funext rest middle
      rw [forLoop, iterate_map]

/-- `array[i] = value;` -/
def assign {α : Type} (value : α) (i : Nat) (cells : Cells α) : Flow (Cells α) :=
  if i < cells.length then .next (cells.set i (some value)) else .undefined .outOfBounds

theorem iterate_assign {α : Type} (value : α) (done : List α) (unset : Nat) :
    iterate (assign value) (List.range' done.length unset)
        (done.map some ++ Cells.fresh unset) =
      .next ((done ++ List.replicate unset value).map some) := by
  induction unset generalizing done with
  | zero => simp [Cells.fresh]
  | succ unset ih =>
      have stored : assign value done.length (done.map some ++ Cells.fresh (unset + 1)) =
          .next ((done ++ [value]).map some ++ Cells.fresh unset) := by
        simp [assign, Cells.fresh, List.replicate_succ]
      have rest := ih (done ++ [value])
      rw [List.length_append, List.length_singleton] at rest
      rw [List.range'_succ, iterate_cons, stored, Flow.next_andThen, rest,
        List.append_assoc, List.singleton_append, List.replicate_succ]

theorem forLoop_assign {α : Type} (value : α) (size : Nat) :
    forLoop size (assign value) (Cells.fresh size) =
      .next ((List.replicate size value).map some) := by
  have filled := iterate_assign value [] size
  simpa [forLoop, List.range_eq_range'] using filled

/-- A loop over an array that was not allocated faults in its first round. -/
theorem forLoop_assign_nil {α : Type} {size : Nat} (value : α) (positive : 0 < size) :
    forLoop size (assign value) [] = .undefined .outOfBounds := by
  obtain ⟨more, rfl⟩ : ∃ more, size = more + 1 := ⟨size - 1, by omega⟩
  rw [forLoop, Int.toNat_natCast, List.range_succ_eq_map, iterate_cons]
  simp [assign]

/-- An array being filled from the front, and the place of the next store. -/
structure Filling where
  cells : Cells Int
  offset : Nat
  deriving DecidableEq

namespace Filling

def start (size : Nat) : Filling := { cells := Cells.fresh size, offset := 0 }

/-- `array[offset] = value; offset++;` -/
def push (value : Int) (filling : Filling) : Flow Filling :=
  if filling.offset < filling.cells.length then
    .next {
      cells := filling.cells.set filling.offset (some value)
      offset := filling.offset + 1 }
  else .undefined .outOfBounds

/-- `array[offset] = value; offset++; if (offset == count) goto done;` -/
def place (count : Int) (value : Int) (filling : Filling) : Flow Filling :=
  (push value filling).andThen fun stored =>
    if (stored.offset : Int) = count then .goto stored else .next stored

/-- An array whose first cells hold the given values. -/
def holding (values : List Int) (unset : Nat) : Filling where
  cells := values.map some ++ Cells.fresh unset
  offset := values.length

theorem push_holding (values : List Int) (unset : Nat) (value : Int) :
    push value (holding values (unset + 1)) = .next (holding (values ++ [value]) unset) := by
  simp [push, holding, Cells.fresh, List.replicate_succ]

/-- Pushing sets one cell for each value, in order. -/
theorem pushAll_holding (done values : List Int) (unset : Nat) :
    iterate push values (holding done (values.length + unset)) =
      .next (holding (done ++ values) unset) := by
  induction values generalizing done with
  | nil => simp
  | cons value values ih =>
      rw [iterate_cons, List.length_cons, Nat.succ_add, push_holding, Flow.next_andThen, ih,
        List.append_assoc, List.singleton_append]

theorem pushAll_overrun (done : List Int) {values : List Int} {unset : Nat}
    (more : unset < values.length) :
    iterate push values (holding done unset) = .undefined .outOfBounds := by
  induction values generalizing done unset with
  | nil => simp at more
  | cons value values ih =>
      cases unset with
      | zero => simp [push, holding, Cells.fresh]
      | succ unset =>
          rw [iterate_cons, push_holding, Flow.next_andThen]
          exact ih (done ++ [value]) (by simpa using more)

theorem placeAll_holding (done : List Int) {values : List Int} {unset : Nat} (room : 0 < unset)
    (enough : unset ≤ values.length) :
    (iterate (place ((done.length + unset : Nat) : Int)) values
        (holding done unset)).land =
      .returned (holding (done ++ values.take unset) 0) := by
  induction values generalizing done unset with
  | nil => simp at enough; omega
  | cons value values ih =>
      obtain ⟨left, rfl⟩ : ∃ left, unset = left + 1 := ⟨unset - 1, by omega⟩
      have advanced : (done ++ [value]).length = done.length + 1 := by simp
      rw [iterate_cons, place, push_holding, Flow.next_andThen]
      cases left with
      | zero => simp [holding]
      | succ left =>
          have notYet :
              ¬ ((holding (done ++ [value]) (left + 1)).offset : Int) =
                ((done.length + (left + 1 + 1) : Nat) : Int) := by
            simp only [holding, advanced]
            omega
          have total : done.length + (left + 1 + 1) =
              (done ++ [value]).length + (left + 1) := by omega
          have rest := @ih (done ++ [value]) (left + 1) (by omega) (by simpa using enough)
          rw [if_neg notYet, Flow.next_andThen, total, rest, List.take_succ_cons,
            List.append_assoc, List.singleton_append]

/-- Placing at least as many values as the array has cells keeps the first
ones, and the jump leaves no cell unset. -/
theorem placeAll {count : Nat} {values : List Int} (positive : 0 < count)
    (enough : count ≤ values.length) :
    (iterate (place (count : Int)) values (start count)).land =
      .returned (holding (values.take count) 0) := by
  have placed := placeAll_holding [] positive enough
  simpa [start, holding] using placed

theorem iterate_place_nil {count : Int} {values : List Int} (present : values ≠ []) :
    iterate (place count) values { cells := [], offset := 0 } = .undefined .outOfBounds := by
  cases values with
  | nil => exact absurd rfl present
  | cons value values => simp [place, push]

end Filling

end Foundation
