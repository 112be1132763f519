import Mathlib.Data.List.Zip
import Vapaa.Foundation.Exchange

/-!
# Folds over ranks

Lists of all ranks combined element by element, and what the ranks that receive the result store.
-/

set_option autoImplicit false

namespace Foundation

section Folds

variable {α : Type} {combine : α → α → α} {items others : Nat → List α} {count : Nat}

/-- The lists of the first ranks, combined element by element in the order of the ranks. -/
def foldRanks (combine : α → α → α) (items : Nat → List α) : Nat → List α
  | 0 => []
  | 1 => items 0
  | ranks + 2 => List.zipWith combine (foldRanks combine items (ranks + 1)) (items (ranks + 1))

theorem foldRanks_congr {ranks : Nat} (same : ∀ rank < ranks, items rank = others rank) :
    foldRanks combine items ranks = foldRanks combine others ranks := by
  induction ranks with
  | zero => rfl
  | succ ranks ih =>
      cases ranks with
      | zero => exact same 0 (Nat.lt_succ_self 0)
      | succ ranks =>
          rw [foldRanks, foldRanks, ih fun rank below => same rank (Nat.lt_succ_of_lt below),
            same _ (Nat.lt_succ_self _)]

theorem length_foldRanks {ranks : Nat} (positive : 0 < ranks)
    (equally : ∀ rank < ranks, (items rank).length = count) :
    (foldRanks combine items ranks).length = count := by
  induction ranks with
  | zero => exact absurd positive (Nat.lt_irrefl 0)
  | succ ranks ih =>
      cases ranks with
      | zero => exact equally 0 (Nat.lt_succ_self 0)
      | succ ranks =>
          have fewer := ih (Nat.succ_pos ranks) fun rank below =>
            equally rank (Nat.lt_succ_of_lt below)
          rw [foldRanks, List.length_zipWith, fewer, equally _ (Nat.lt_succ_self _), Nat.min_self]

/-- Lists in two parts are combined part by part. -/
theorem foldRanks_append {ranks : Nat} (positive : 0 < ranks)
    (equally : ∀ rank < ranks, (items rank).length = count) :
    foldRanks combine (fun rank => items rank ++ others rank) ranks =
      foldRanks combine items ranks ++ foldRanks combine others ranks := by
  induction ranks with
  | zero => rfl
  | succ ranks ih =>
      cases ranks with
      | zero => rfl
      | succ ranks =>
          have fewer : ∀ rank < ranks + 1, (items rank).length = count :=
            fun rank below => equally rank (Nat.lt_succ_of_lt below)
          have lengths : (foldRanks combine items (ranks + 1)).length =
              (items (ranks + 1)).length := by
            rw [length_foldRanks (Nat.succ_pos ranks) fewer, equally _ (Nat.lt_succ_self _)]
          rw [foldRanks, foldRanks, foldRanks, ih (Nat.succ_pos ranks) fewer,
            List.zipWith_append lengths]

/-- What the elements of the first rank have, and combining keeps, the result has. -/
theorem forall_mem_foldRanks {holds : α → Prop} {ranks : Nat}
    (keeps : ∀ left right, holds left → holds (combine left right))
    (first : ∀ item ∈ items 0, holds item) :
    ∀ item ∈ foldRanks combine items ranks, holds item := by
  induction ranks with
  | zero =>
      intro item member
      cases member
  | succ ranks ih =>
      cases ranks with
      | zero => exact first
      | succ ranks =>
          intro item member
          obtain ⟨left, inside, right, -, same⟩ : ∃ left ∈ foldRanks combine items (ranks + 1),
              ∃ right ∈ items (ranks + 1), combine left right = item := by
            rw [foldRanks, ← List.map_uncurry_zip_eq_zipWith] at member
            obtain ⟨⟨left, right⟩, both, same⟩ := List.mem_map.mp member
            have inside := List.of_mem_zip both
            exact ⟨left, inside.1, right, inside.2, same⟩
          exact same ▸ keeps left right (ih left inside)

end Folds

section Deliveries

variable {L V : Type} [DecidableEq L] {receivers : List Nat} {targets : Nat → List L}
variable {values : List V} {memory : Memory (Nat × L) V} {rank : Nat}

/-- What the receivers of a result write. -/
def deliver (receivers : List Nat) (targets : Nat → List L) (values : List V) :
    List ((Nat × L) × V) :=
  receivers.flatMap fun rank => ((targets rank).map (Prod.mk rank)).zip values

omit [DecidableEq L] in
theorem mem_keys_deliver (equally : ∀ rank ∈ receivers, (targets rank).length = values.length)
    {place : Nat × L} :
    place ∈ (deliver receivers targets values).map Prod.fst ↔
      place.1 ∈ receivers ∧ place.2 ∈ targets place.1 := by
  obtain ⟨owner, location⟩ := place
  have keys (rank : Nat) (member : rank ∈ receivers) :
      (((targets rank).map (Prod.mk rank)).zip values).map Prod.fst =
        (targets rank).map (Prod.mk rank) :=
    List.map_fst_zip (by simp [equally rank member])
  rw [deliver, List.map_flatMap, List.mem_flatMap]
  constructor
  · intro found
    obtain ⟨rank, member, inside⟩ := found
    rw [keys rank member] at inside
    obtain ⟨_, target, same⟩ := List.mem_map.mp inside
    cases same
    exact ⟨member, target⟩
  · intro found
    refine ⟨owner, found.1, ?_⟩
    rw [keys owner found.1]
    exact List.mem_map_of_mem found.2

/-- Nothing else is written. -/
theorem writeAll_deliver_of_not_mem
    (equally : ∀ rank ∈ receivers, (targets rank).length = values.length) {place : Nat × L}
    (outside : ¬ (place.1 ∈ receivers ∧ place.2 ∈ targets place.1)) :
    memory.writeAll (deliver receivers targets values) place = memory place :=
  Memory.writeAll_of_not_mem (mt (mem_keys_deliver equally).mp outside)

/-- Every receiver has the result afterwards. -/
theorem map_writeAll_deliver
    (equally : ∀ rank ∈ receivers, (targets rank).length = values.length)
    (member : rank ∈ receivers) (distinct : (targets rank).Nodup) :
    (targets rank).map (fun location =>
      memory.writeAll (deliver receivers targets values) (rank, location)) = values := by
  apply List.ext_getElem
  · rw [List.length_map, equally rank member]
  · intro n below within
    rw [List.length_map] at below
    rw [List.getElem_map]
    have written : (rank, (targets rank)[n]) ∈ (deliver receivers targets values).map Prod.fst :=
      (mem_keys_deliver equally).mpr ⟨member, List.getElem_mem below⟩
    have found := Memory.writeAll_of_mem memory written
    obtain ⟨owner, -, inside⟩ := List.mem_flatMap.mp found
    obtain ⟨m, least, pair⟩ := List.mem_iff_getElem.mp inside
    rw [List.getElem_zip, List.getElem_map] at pair
    obtain ⟨place, value⟩ := Prod.mk.inj pair
    obtain ⟨same, alike⟩ := Prod.mk.inj place
    subst same
    have equal : m = n := (distinct.getElem_inj_iff).mp alike
    subst equal
    exact value.symm

/-- A memory is the one after the result was stored where the receivers have it and nothing else
has changed. -/
theorem eq_writeAll_deliver {after : Memory (Nat × L) V}
    (equally : ∀ rank ∈ receivers, (targets rank).length = values.length)
    (distinct : ∀ rank ∈ receivers, (targets rank).Nodup)
    (stored : ∀ rank ∈ receivers, (targets rank).map (fun location => after (rank, location)) = values)
    (kept : ∀ place : Nat × L, ¬ (place.1 ∈ receivers ∧ place.2 ∈ targets place.1) →
      after place = memory place) :
    after = memory.writeAll (deliver receivers targets values) := by
  funext place
  by_cases inside : place.1 ∈ receivers ∧ place.2 ∈ targets place.1
  · have written : (targets place.1).map (fun location =>
        memory.writeAll (deliver receivers targets values) (place.1, location)) = values :=
      map_writeAll_deliver equally inside.1 (distinct _ inside.1)
    have same := (stored place.1 inside.1).trans written.symm
    exact List.map_inj_left.mp same place.2 inside.2
  · rw [kept place inside, writeAll_deliver_of_not_mem equally inside]

/-- A broadcast stores what its root has. -/
theorem copyAll_broadcast (root : Nat) :
    memory.copyAll (exchange (receivers.map fun rank => (root, rank))
        (fun message => targets message.1) fun message => targets message.2) =
      memory.writeAll (deliver receivers targets
        ((targets root).map fun location => memory (root, location))) := by
  rw [Memory.copyAll, exchange, deliver, List.flatMap_map, List.map_flatMap]
  congr 1
  apply List.flatMap_congr
  intro rank _
  rw [List.zip_map, ← List.zip_swap (targets root) (targets rank), List.map_map, List.map_map]
  rfl

end Deliveries

section Reductions

variable {L V : Type} {memory : Memory (Nat × L) V}

/-- The elements that a rank has at lists of locations. -/
def itemsAt (memory : Memory (Nat × L) V) (rank : Nat) (items : List (List L)) : List (List V) :=
  items.map fun item => item.map fun location => memory (rank, location)

/-- Elements of one length, as many as a reduction counts. -/
structure Rectangular (count size : Nat) (items : List (List L)) : Prop where
  length_eq : items.length = count
  sizes : ∀ item ∈ items, item.length = size

theorem Rectangular.length_flatten {count size : Nat} {items : List (List L)}
    (rectangular : Rectangular count size items) : items.flatten.length = count * size := by
  rw [List.length_flatten, List.map_congr_left rectangular.sizes, List.map_const',
    List.sum_replicate, rectangular.length_eq, Nat.nsmul_eq_mul]

/-- What a reduction of all ranks yields. -/
def reduced (combine : List V → List V → List V) (sources : Nat → List (List L)) (ranks : Nat)
    (memory : Memory (Nat × L) V) : List (List V) :=
  foldRanks combine (fun rank => itemsAt memory rank (sources rank)) ranks

variable [DecidableEq L]

/-- All ranks are read before the receivers store the result. -/
def reduceAll (combine : List V → List V → List V) (sources targets : Nat → List (List L))
    (receivers : List Nat) (ranks : Nat) (memory : Memory (Nat × L) V) : Memory (Nat × L) V :=
  memory.writeAll (deliver receivers (fun rank => (targets rank).flatten)
    (reduced combine sources ranks memory).flatten)

variable {combine : List V → List V → List V} {sources targets : Nat → List (List L)}
variable {receivers : List Nat} {ranks count size : Nat}

/-- Combining elements does not change their length, and there are as many at every rank. -/
structure Reducible (combine : List V → List V → List V) (sources targets : Nat → List (List L))
    (receivers : List Nat) (ranks count size : Nat) : Prop where
  keeps : ∀ left right, (combine left right).length = left.length
  positive : 0 < ranks
  sends : ∀ rank < ranks, Rectangular count size (sources rank)
  stores : ∀ rank ∈ receivers, Rectangular count size (targets rank)
  distinct : ∀ rank ∈ receivers, (targets rank).flatten.Nodup

omit [DecidableEq L] in
theorem Reducible.rectangular_reduced
    (reducible : Reducible combine sources targets receivers ranks count size) :
    Rectangular count size (reduced combine sources ranks memory) := by
  constructor
  · apply length_foldRanks reducible.positive
    intro rank below
    rw [itemsAt, List.length_map, (reducible.sends rank below).length_eq]
  · apply forall_mem_foldRanks
    · intro left right equal
      rw [reducible.keeps, equal]
    · intro item member
      obtain ⟨locations, inside, same⟩ := List.mem_map.mp member
      rw [← same, List.length_map, (reducible.sends 0 reducible.positive).sizes _ inside]

omit [DecidableEq L] in
theorem Reducible.equally
    (reducible : Reducible combine sources targets receivers ranks count size) :
    ∀ rank ∈ receivers, (targets rank).flatten.length =
      (reduced combine sources ranks memory).flatten.length := by
  intro rank member
  rw [(reducible.stores rank member).length_flatten, reducible.rectangular_reduced.length_flatten]

omit [DecidableEq L] in
/-- What all ranks read decides about the result. -/
theorem reduced_congr {other : Memory (Nat × L) V} {others : Nat → List (List L)}
    (same : ∀ rank < ranks, itemsAt memory rank (sources rank) = itemsAt other rank (others rank)) :
    reduced combine sources ranks memory = reduced combine others ranks other :=
  foldRanks_congr same

/-- Only what the ranks read, and where the receivers store, decides about a reduction. -/
theorem reduceAll_congr {others places : Nat → List (List L)}
    (reads : ∀ rank < ranks, itemsAt memory rank (sources rank) = itemsAt memory rank (others rank))
    (stores : ∀ rank ∈ receivers, targets rank = places rank) :
    reduceAll combine sources targets receivers ranks memory =
      reduceAll combine others places receivers ranks memory := by
  rw [reduceAll, reduceAll, reduced_congr reads]
  congr 1
  apply List.flatMap_congr
  intro rank member
  dsimp only
  rw [stores rank member]

/-- Where the receivers store nothing is kept. -/
theorem reduceAll_kept
    (reducible : Reducible combine sources targets receivers ranks count size) {place : Nat × L}
    (outside : ¬ (place.1 ∈ receivers ∧ place.2 ∈ (targets place.1).flatten)) :
    reduceAll combine sources targets receivers ranks memory place = memory place :=
  writeAll_deliver_of_not_mem reducible.equally outside

theorem map_reduceAll
    (reducible : Reducible combine sources targets receivers ranks count size) {rank : Nat}
    (member : rank ∈ receivers) :
    (targets rank).flatten.map (fun location =>
        reduceAll combine sources targets receivers ranks memory (rank, location)) =
      (reduced combine sources ranks memory).flatten :=
  map_writeAll_deliver reducible.equally member (reducible.distinct rank member)

/-- A reduction to a root and a broadcast from there do what a reduction to all ranks does. -/
theorem reduceAll_broadcast {root : Nat}
    (reducible : Reducible combine sources targets (List.range ranks) ranks count size)
    (rooted : root < ranks) :
    (reduceAll combine sources targets [root] ranks memory).copyAll
        (exchange (((List.range ranks).filter fun rank => rank ≠ root).map fun rank => (root, rank))
          (fun message => (targets message.1).flatten) fun message => (targets message.2).flatten) =
      reduceAll combine sources targets (List.range ranks) ranks memory := by
  have atRoot : Reducible combine sources targets [root] ranks count size :=
    { reducible with
      stores := fun rank member =>
        reducible.stores rank (List.mem_range.mpr (List.mem_singleton.mp member ▸ rooted))
      distinct := fun rank member =>
        reducible.distinct rank (List.mem_range.mpr (List.mem_singleton.mp member ▸ rooted)) }
  have others {rank : Nat} :
      rank ∈ (List.range ranks).filter (fun rank => rank ≠ root) ↔ rank < ranks ∧ rank ≠ root := by
    simp
  have rootHas := @map_reduceAll _ _ memory _ _ _ _ _ _ _ _ atRoot root List.mem_cons_self
  have broadcast := @copyAll_broadcast L V _ ((List.range ranks).filter fun rank => rank ≠ root)
    (fun rank => (targets rank).flatten)
    (reduceAll combine sources targets [root] ranks memory) root
  rw [rootHas] at broadcast
  refine broadcast.trans ?_
  have equally : ∀ rank ∈ (List.range ranks).filter (fun rank => rank ≠ root),
      (targets rank).flatten.length = (reduced combine sources ranks memory).flatten.length :=
    fun rank member => reducible.equally rank (List.mem_range.mpr (others.mp member).1)
  apply eq_writeAll_deliver reducible.equally reducible.distinct
  · intro rank member
    have below := List.mem_range.mp member
    by_cases here : rank = root
    · subst here
      refine (List.map_congr_left fun location _ => ?_).trans rootHas
      apply writeAll_deliver_of_not_mem equally
      intro inside
      exact (others.mp inside.1).2 rfl
    · exact map_writeAll_deliver equally (others.mpr ⟨below, here⟩) (reducible.distinct rank member)
  · intro place outside
    rw [writeAll_deliver_of_not_mem equally, reduceAll_kept atRoot]
    · intro inside
      have here := List.mem_singleton.mp inside.1
      exact outside ⟨List.mem_range.mpr (here ▸ rooted), inside.2⟩
    · intro inside
      exact outside ⟨List.mem_range.mpr (others.mp inside.1).1, inside.2⟩

/-- A reduction in two pieces, the first of which stores nothing that the second reads, does what
one reduction does. -/
theorem reduceAll_pieces {moreSources moreTargets : Nat → List (List L)} {more : Nat}
    (first : Reducible combine sources targets receivers ranks count size)
    (second : Reducible combine moreSources moreTargets receivers ranks more size)
    (apart : ∀ rank ∈ receivers,
      ((targets rank).flatten ++ (moreTargets rank).flatten).Nodup)
    (unread : ∀ rank ∈ receivers, rank < ranks →
      ∀ location ∈ (targets rank).flatten, location ∉ (moreSources rank).flatten) :
    reduceAll combine moreSources moreTargets receivers ranks
        (reduceAll combine sources targets receivers ranks memory) =
      reduceAll combine (fun rank => sources rank ++ moreSources rank)
        (fun rank => targets rank ++ moreTargets rank) receivers ranks memory := by
  have later : reduced combine moreSources ranks
      (reduceAll combine sources targets receivers ranks memory) =
        reduced combine moreSources ranks memory := by
    apply reduced_congr
    intro rank below
    apply List.map_congr_left
    intro item member
    apply List.map_congr_left
    intro location inside
    apply reduceAll_kept first
    intro stored
    exact unread rank stored.1 below location stored.2 (List.mem_flatten.mpr ⟨item, member, inside⟩)
  have whole : reduced combine (fun rank => sources rank ++ moreSources rank) ranks memory =
      reduced combine sources ranks memory ++ reduced combine moreSources ranks memory := by
    rw [reduced, reduced, reduced, ← foldRanks_append first.positive]
    · apply foldRanks_congr
      intro rank _
      exact List.map_append
    · intro rank below
      rw [itemsAt, List.length_map, (first.sends rank below).length_eq]
  have both : ∀ rank ∈ receivers, (targets rank ++ moreTargets rank).flatten =
      (targets rank).flatten ++ (moreTargets rank).flatten := fun rank _ => List.flatten_append
  have values : (reduced combine (fun rank => sources rank ++ moreSources rank) ranks memory).flatten =
      (reduced combine sources ranks memory).flatten ++
        (reduced combine moreSources ranks memory).flatten := by
    rw [whole, List.flatten_append]
  have outer : reduceAll combine moreSources moreTargets receivers ranks
      (reduceAll combine sources targets receivers ranks memory) =
        (reduceAll combine sources targets receivers ranks memory).writeAll
          (deliver receivers (fun rank => (moreTargets rank).flatten)
            (reduced combine moreSources ranks memory).flatten) := by
    rw [← later]
    rfl
  rw [outer]
  apply eq_writeAll_deliver
  · intro rank member
    rw [values, both rank member, List.length_append, List.length_append, first.equally rank member,
      second.equally rank member]
  · intro rank member
    rw [both rank member]
    exact apart rank member
  · intro rank member
    have laterEqually : ∀ rank ∈ receivers, (moreTargets rank).flatten.length =
        (reduced combine moreSources ranks memory).flatten.length := second.equally
    rw [values, both rank member, List.map_append]
    congr 1
    · rw [← map_reduceAll first member]
      apply List.map_congr_left
      intro location inside
      apply writeAll_deliver_of_not_mem laterEqually
      intro again
      exact (List.nodup_append.mp (apart rank member)).2.2 location inside location again.2 rfl
    · exact map_writeAll_deliver laterEqually member (second.distinct rank member)
  · intro place outside
    rw [writeAll_deliver_of_not_mem second.equally, reduceAll_kept first]
    · intro inside
      exact outside ⟨inside.1, both _ inside.1 ▸ List.mem_append_left _ inside.2⟩
    · intro inside
      exact outside ⟨inside.1, both _ inside.1 ▸ List.mem_append_right _ inside.2⟩

end Reductions

end Foundation
