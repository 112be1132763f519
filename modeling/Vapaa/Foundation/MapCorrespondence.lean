import Mathlib.Data.List.AList
import Mathlib.Tactic.Common

/-!
# Correspondence of maps

Two finite maps over different keys, kept alike by a correspondence of their keys.
-/

set_option autoImplicit false

namespace Foundation

variable {K K' V V' : Type} [DecidableEq K] [DecidableEq K']

/-- Pairs of keys that agree on which of them are the same. -/
def KeysAgree (pairs : List (K × K')) : Prop :=
  ∀ pair ∈ pairs, ∀ other ∈ pairs, pair.1 = other.1 ↔ pair.2 = other.2

instance (pairs : List (K × K')) : Decidable (KeysAgree pairs) :=
  inferInstanceAs (Decidable (∀ pair ∈ pairs, ∀ other ∈ pairs, _))

omit [DecidableEq K] [DecidableEq K'] in
theorem KeysAgree.mono {pairs kept : List (K × K')} (agree : KeysAgree pairs)
    (within : kept ⊆ pairs) : KeysAgree kept :=
  fun pair member other member' => agree pair (within member) other (within member')

/-- The maps hold corresponding values at corresponding keys, and nothing else. -/
structure Corresponds (alike : V → V' → Prop) (left : AList fun _ : K => V)
    (right : AList fun _ : K' => V') (held : List (K × K')) : Prop where
  leftKeys : left.keys = held.map Prod.fst
  rightKeys : right.keys = held.map Prod.snd
  values : ∀ pair ∈ held, ∃ value value',
    left.lookup pair.1 = some value ∧ right.lookup pair.2 = some value' ∧ alike value value'

namespace Corresponds

variable {alike : V → V' → Prop} {left : AList fun _ : K => V} {right : AList fun _ : K' => V'}
variable {held : List (K × K')} {pair : K × K'}

theorem empty : Corresponds alike (∅ : AList fun _ : K => V) (∅ : AList fun _ : K' => V') [] :=
  ⟨rfl, rfl, fun _ member => by cases member⟩

theorem length_keys (corresponds : Corresponds alike left right held) :
    left.keys.length = right.keys.length := by
  rw [corresponds.leftKeys, corresponds.rightKeys, List.length_map, List.length_map]

private theorem leave_out_agrees (agree : KeysAgree (pair :: held)) :
    held.filter (fun other => other.1 ≠ pair.1) = held.filter fun other => other.2 ≠ pair.2 := by
  apply List.filter_congr
  intro other member
  have same := agree other (List.mem_cons_of_mem _ member) pair List.mem_cons_self
  simp [same]

/-- At a pair that agrees with those held, both maps have a value or neither has. -/
theorem lookup (corresponds : Corresponds alike left right held)
    (agree : KeysAgree (pair :: held)) :
    (left.lookup pair.1 = none ∧ right.lookup pair.2 = none) ∨
      ∃ value value', left.lookup pair.1 = some value ∧ right.lookup pair.2 = some value' ∧
        alike value value' := by
  by_cases present : ∃ other ∈ held, other.1 = pair.1
  · obtain ⟨other, member, same⟩ := present
    have same' := (agree other (List.mem_cons_of_mem _ member) pair List.mem_cons_self).mp same
    have values := corresponds.values other member
    rw [same, same'] at values
    exact Or.inr values
  · refine Or.inl ⟨AList.lookup_eq_none.mpr ?_, AList.lookup_eq_none.mpr ?_⟩
    · rw [AList.mem_keys, corresponds.leftKeys, List.mem_map]
      exact present
    · rw [AList.mem_keys, corresponds.rightKeys, List.mem_map]
      rintro ⟨other, member, same⟩
      have agrees := agree other (List.mem_cons_of_mem _ member) pair List.mem_cons_self
      exact present ⟨other, member, agrees.mpr same⟩

theorem erase (corresponds : Corresponds alike left right held)
    (agree : KeysAgree (pair :: held)) :
    Corresponds alike (left.erase pair.1) (right.erase pair.2)
      (held.filter fun other => other.1 ≠ pair.1) := by
  have leftOnce := left.keys_nodup
  have rightOnce := right.keys_nodup
  constructor
  · rw [AList.keys_erase, leftOnce.erase_eq_filter, corresponds.leftKeys, List.filter_map]
    congr 1
    apply List.filter_congr
    intro other _
    rw [Function.comp_apply, bne, beq_eq_decide, decide_not]
  · rw [AList.keys_erase, rightOnce.erase_eq_filter, corresponds.rightKeys, List.filter_map,
      leave_out_agrees agree]
    congr 1
    apply List.filter_congr
    intro other _
    rw [Function.comp_apply, bne, beq_eq_decide, decide_not]
  · intro other member
    obtain ⟨inside, different⟩ := List.mem_filter.mp member
    have different : other.1 ≠ pair.1 := of_decide_eq_true different
    have agrees := agree other (List.mem_cons_of_mem _ inside) pair List.mem_cons_self
    rw [AList.lookup_erase_ne different, AList.lookup_erase_ne (mt agrees.mpr different)]
    exact corresponds.values other inside

theorem insert {value : V} {value' : V'} (corresponds : Corresponds alike left right held)
    (agree : KeysAgree (pair :: held)) (same : alike value value') :
    Corresponds alike (left.insert pair.1 value) (right.insert pair.2 value')
      (pair :: held.filter fun other => other.1 ≠ pair.1) := by
  have erased := corresponds.erase agree
  constructor
  · rw [AList.keys_insert, ← AList.keys_erase, erased.leftKeys, List.map_cons]
  · rw [AList.keys_insert, ← AList.keys_erase, erased.rightKeys, List.map_cons]
  · intro other member
    rcases List.mem_cons.mp member with rfl | member
    · exact ⟨value, value', AList.lookup_insert _, AList.lookup_insert _, same⟩
    · obtain ⟨inside, different⟩ := List.mem_filter.mp member
      have different : other.1 ≠ pair.1 := of_decide_eq_true different
      have agrees := agree other (List.mem_cons_of_mem _ inside) pair List.mem_cons_self
      rw [AList.lookup_insert_ne different, AList.lookup_insert_ne (mt agrees.mpr different)]
      exact corresponds.values other inside

end Corresponds

end Foundation
