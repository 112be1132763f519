import Mathlib.Data.List.MinMax
import Vapaa.Foundation.Memory
import Vapaa.Foundation.TypeMap

/-!
# Exchanges

Transfers between parties, each with a memory of its own, message by message. The
values of a message are runs of consecutive locations on both sides.
-/

set_option autoImplicit false

namespace Foundation

section Runs

variable {α : Type} [DecidableEq α] {run : α → List α} {key : α → Int}

/-- Runs that rise from their starts determine the starts, up to order. -/
theorem perm_of_flatMap_perm
    (rises : ∀ start, ∃ rest, run start = start :: rest ∧ ∀ other ∈ rest, key start < key other)
    {left right : List α} (same : (left.flatMap run).Perm (right.flatMap run)) :
    left.Perm right := by
  have starts (start : α) : start ∈ run start := by
    obtain ⟨rest, split, -⟩ := rises start
    exact split ▸ List.mem_cons_self
  have above {start other : α} (member : other ∈ run start) :
      other = start ∨ key start < key other := by
    obtain ⟨rest, split, higher⟩ := rises start
    rw [split, List.mem_cons] at member
    exact member.imp_right (higher other)
  induction length_eq : left.length generalizing left right with
  | zero =>
      obtain rfl := List.length_eq_zero_iff.mp length_eq
      cases right with
      | nil => exact List.Perm.refl _
      | cons start right =>
          have inside := same.mem_iff.mpr
            (List.mem_flatMap.mpr ⟨start, List.mem_cons_self, starts start⟩)
          cases inside
  | succ length ih =>
      -- the lowest start on the left is one on the right
      obtain ⟨low, lowest⟩ : ∃ low, low ∈ left.argmin key := by
        cases found : left.argmin key with
        | none =>
            rw [List.argmin_eq_none.mp found] at length_eq
            cases length_eq
        | some low => exact ⟨low, rfl⟩
      have inLeft := List.argmin_mem lowest
      obtain ⟨start, inRight, covered⟩ := List.mem_flatMap.mp
        (same.mem_iff.mp (List.mem_flatMap.mpr ⟨low, inLeft, starts low⟩))
      obtain ⟨origin, fromLeft, covers⟩ := List.mem_flatMap.mp
        (same.mem_iff.mpr (List.mem_flatMap.mpr ⟨start, inRight, starts start⟩))
      have least := List.le_of_mem_argmin fromLeft lowest
      have here : low = start := by
        rcases above covered with equal | higher
        · exact equal
        · rcases above covers with rfl | lower
          · omega
          · omega
      subst here
      have leftSplit := List.perm_cons_erase inLeft
      have rightSplit := List.perm_cons_erase inRight
      have rest : ((left.erase low).flatMap run).Perm ((right.erase low).flatMap run) := by
        apply (List.perm_append_left_iff (run low)).mp
        exact ((leftSplit.flatMap_right run).symm.trans same).trans (rightSplit.flatMap_right run)
      have shorter : (left.erase low).length = length := by
        rw [List.length_erase_of_mem inLeft]
        omega
      exact (leftSplit.trans ((ih rest shorter).cons low)).trans rightSplit.symm

end Runs

/-- Pairs of locations that run along together. -/
def diagonal (length : Nat) (starts : Int × Int) : List (Int × Int) :=
  (List.range length).map fun (t : Nat) => (starts.1 + t, starts.2 + t)

theorem diagonals_perm_iff {length : Nat} (positive : 0 < length) {left right : List (Int × Int)} :
    (left.flatMap (diagonal length)).Perm (right.flatMap (diagonal length)) ↔
      left.Perm right := by
  constructor
  · refine @perm_of_flatMap_perm _ _ (diagonal length) Prod.fst (fun starts => ?_) left right
    obtain ⟨more, rfl⟩ := Nat.exists_eq_succ_of_ne_zero positive.ne'
    refine ⟨(List.range more).map fun (t : Nat) => (starts.1 + (t + 1), starts.2 + (t + 1)),
      by simp [diagonal, List.range_succ_eq_map, Function.comp_def], ?_⟩
    intro other member
    obtain ⟨t, -, rfl⟩ := List.mem_map.mp member
    omega
  · intro reordered
    exact reordered.flatMap_right _

theorem zip_spans {κ : Type} (items : List κ) (first second : κ → Int) (length : Nat) :
    (items.flatMap fun item => span (first item) length).zip
        (items.flatMap fun item => span (second item) length) =
      (items.map fun item => (first item, second item)).flatMap (diagonal length) := by
  induction items with
  | nil => rfl
  | cons item items ih =>
      rw [List.flatMap_cons, List.flatMap_cons, List.zip_append (by simp), ih, List.map_cons,
        List.flatMap_cons]
      congr 1
      rw [span, span, List.zip_map', diagonal]

section Exchange

variable {R A V : Type} [DecidableEq R] [DecidableEq A]

/-- Every message carries the values of a list of locations of its sender to a list of
locations of its receiver. -/
def exchange (messages : List (R × R)) (source destination : R × R → List A) :
    Memory.Plan (R × A) :=
  messages.flatMap fun message =>
    ((source message).zip (destination message)).map fun (origin, target) =>
      ((message.1, origin), (message.2, target))

omit [DecidableEq R] [DecidableEq A] in
theorem mem_exchange {messages : List (R × R)} {source destination : R × R → List A}
    {sender receiver : R} {origin target : A} :
    ((sender, origin), (receiver, target)) ∈ exchange messages source destination ↔
      (sender, receiver) ∈ messages ∧
        (origin, target) ∈ (source (sender, receiver)).zip (destination (sender, receiver)) := by
  simp only [exchange, List.mem_flatMap, List.mem_map, Prod.mk.injEq, Prod.exists]
  constructor
  · rintro ⟨_, _, member, _, _, paired, ⟨rfl, rfl⟩, rfl, rfl⟩
    exact ⟨member, paired⟩
  · rintro ⟨member, paired⟩
    exact ⟨sender, receiver, member, origin, target, paired, ⟨rfl, rfl⟩, rfl, rfl⟩

/-- An exchange brings about what another one intends exactly when every message
carries the same values between the same locations. -/
theorem realizes_exchange_iff [Nontrivial V] {messages : List (R × R)}
    {source destination intendedSource intendedDestination : R × R → List A}
    (separate : (exchange messages intendedSource intendedDestination).Separate)
    (equally : ∀ message ∈ messages, ((source message).zip (destination message)).length =
      ((intendedSource message).zip (intendedDestination message)).length) :
    Memory.Realizes V (exchange messages source destination)
        (exchange messages intendedSource intendedDestination) ↔
      ∀ message ∈ messages, ((source message).zip (destination message)).Perm
        ((intendedSource message).zip (intendedDestination message)) := by
  rw [Memory.realizes_iff_sameEffect separate.distinct]
  constructor
  · intro same message member
    have once : (exchange messages intendedSource intendedDestination).Nodup :=
      List.Nodup.of_map Prod.snd separate.distinct
    have onceHere : ((intendedSource message).zip (intendedDestination message)).Nodup :=
      ((List.nodup_flatMap.mp once).1 message member).of_map _
    have contained : (intendedSource message).zip (intendedDestination message) ⊆
        (source message).zip (destination message) := by
      rintro ⟨origin, target⟩ paired
      have intended : ((message.1, origin), (message.2, target)) ∈
          exchange messages intendedSource intendedDestination :=
        mem_exchange.mpr ⟨member, paired⟩
      exact (mem_exchange.mp (Memory.mem_of_sameEffect same separate.distinct intended
        (separate.apart _ intended))).2
    exact ((List.Nodup.subperm onceHere contained).perm_of_length_le
      (Nat.le_of_eq (equally message member))).symm
  · intro reordered
    refine Memory.sameEffect_of_perm ?_ separate.distinct
    exact List.Perm.flatMap_left _ fun message member => (reordered message member).map _

omit [DecidableEq R] [DecidableEq A] in
theorem exchange_congr {messages : List (R × R)} {source destination source' destination' :
    R × R → List A}
    (sources : ∀ message ∈ messages, source message = source' message)
    (destinations : ∀ message ∈ messages, destination message = destination' message) :
    exchange messages source destination = exchange messages source' destination' := by
  apply List.flatMap_congr
  intro message member
  rw [sources message member, destinations message member]

/-- Exchanges that bring the same values to the same locations have the same effect. -/
theorem copyAll_exchange_congr {messages : List (R × R)}
    {source source' destination : R × R → List A}
    {memory : Memory (R × A) V}
    (same : ∀ message ∈ messages, ((source message).map fun origin => memory (message.1, origin)) =
      (source' message).map fun origin => memory (message.1, origin)) :
    memory.copyAll (exchange messages source destination) =
      memory.copyAll (exchange messages source' destination) := by
  have written (source : R × R → List A) :
      (exchange messages source destination).map (fun (origin, target) => (target, memory origin)) =
        messages.flatMap fun message =>
          (((source message).map fun origin => memory (message.1, origin)).zip
            (destination message)).map fun (value, target) => ((message.2, target), value) := by
    simp [exchange, List.map_flatMap, List.zip_map_left, Function.comp_def]
  rw [Memory.copyAll, Memory.copyAll, written, written]
  congr 1
  apply List.flatMap_congr
  intro message member
  rw [same message member]

/-- After an exchange the receiver of each message has what its sender had. -/
theorem map_copyAll_exchange {messages : List (R × R)} {source destination : R × R → List A}
    {memory : Memory (R × A) V} {message : R × R}
    (distinct : ((exchange messages source destination).map Prod.snd).Nodup)
    (member : message ∈ messages)
    (equally : (source message).length = (destination message).length) :
    (destination message).map (fun target =>
        memory.copyAll (exchange messages source destination) (message.2, target)) =
      (source message).map fun origin => memory (message.1, origin) := by
  apply List.ext_getElem (by simp [equally])
  intro i below within
  simp only [List.length_map] at below within
  have paired : ((source message)[i], (destination message)[i]) ∈
      (source message).zip (destination message) :=
    List.mem_iff_getElem.mpr ⟨i, by simp only [List.length_zip]; omega, by simp⟩
  simp only [List.getElem_map]
  exact Memory.copyAll_of_nodup distinct (mem_exchange.mpr ⟨member, paired⟩)

end Exchange

end Foundation
