import Mathlib.Data.List.Nodup
import Mathlib.Data.List.Perm.Subperm
import Mathlib.Logic.Function.Basic
import Mathlib.Tactic.Common

/-!
# Memory

Values at locations, writes in order, and transfers that read all their sources
before they write.
-/

set_option autoImplicit false

namespace Foundation

abbrev Memory (L V : Type) := L → V

namespace Memory

variable {L V : Type} [DecidableEq L]

/-- Writes from first to last, so a later write to a location wins. -/
def writeAll (memory : Memory L V) : List (L × V) → Memory L V
  | [] => memory
  | (location, value) :: writes =>
      writeAll (Function.update memory location value) writes

@[simp] theorem writeAll_nil (memory : Memory L V) : memory.writeAll [] = memory := rfl

theorem writeAll_append (memory : Memory L V) (first second : List (L × V)) :
    memory.writeAll (first ++ second) = (memory.writeAll first).writeAll second := by
  induction first generalizing memory with
  | nil => rfl
  | cons write first ih => exact ih _

theorem writeAll_of_not_mem {memory : Memory L V} {writes : List (L × V)} {location : L}
    (outside : location ∉ writes.map Prod.fst) :
    memory.writeAll writes location = memory location := by
  induction writes generalizing memory with
  | nil => rfl
  | cons write writes ih =>
      obtain ⟨target, value⟩ := write
      rw [List.map_cons, List.mem_cons, not_or] at outside
      rw [writeAll, ih outside.2, Function.update_of_ne outside.1]

/-- A location that is written holds one of the values written to it. -/
theorem writeAll_of_mem (memory : Memory L V) {writes : List (L × V)} {location : L}
    (inside : location ∈ writes.map Prod.fst) :
    (location, memory.writeAll writes location) ∈ writes := by
  induction writes generalizing memory with
  | nil => simp at inside
  | cons write writes ih =>
      obtain ⟨target, value⟩ := write
      rw [writeAll]
      by_cases later : location ∈ writes.map Prod.fst
      · exact List.mem_cons_of_mem _ (ih _ later)
      · have here : location = target := by
          obtain same | member := List.mem_cons.mp inside
          · exact same
          · exact absurd member later
        subst here
        rw [writeAll_of_not_mem later, Function.update_self]
        exact List.mem_cons_self

theorem writeAll_of_nodup {memory : Memory L V} {writes : List (L × V)} {location : L} {value : V}
    (distinct : (writes.map Prod.fst).Nodup) (member : (location, value) ∈ writes) :
    memory.writeAll writes location = value := by
  have inside : location ∈ writes.map Prod.fst := List.mem_map_of_mem (f := Prod.fst) member
  have found := writeAll_of_mem memory inside
  exact congrArg Prod.snd (List.inj_on_of_nodup_map distinct found member rfl)

theorem map_writeAll_of_apart {memory : Memory L V} {writes : List (L × V)} {locations : List L}
    (apart : ∀ location ∈ locations, location ∉ writes.map Prod.fst) :
    locations.map (memory.writeAll writes) = locations.map memory :=
  List.map_congr_left fun location member => writeAll_of_not_mem (apart location member)

/-- Different locations hold afterwards what is written to them. -/
theorem map_writeAll_zip (memory : Memory L V) {locations : List L} {values : List V}
    (distinct : locations.Nodup) (equally : locations.length = values.length) :
    locations.map (memory.writeAll (locations.zip values)) = values := by
  have keys : (locations.zip values).map Prod.fst = locations :=
    List.map_fst_zip (Nat.le_of_eq equally)
  apply List.ext_getElem (by simp [equally])
  intro n below within
  have inside : n < locations.length := equally ▸ within
  have member : (locations[n], values[n]) ∈ locations.zip values :=
    List.mem_iff_getElem.mpr ⟨n, by simp only [List.length_zip]; omega, by simp⟩
  rw [List.getElem_map]
  exact writeAll_of_nodup (keys.symm ▸ distinct) member

omit [DecidableEq L] in
/-- Lists of chunks that read the same, and have chunks of the same lengths, read the
same chunk by chunk. -/
theorem map_chunks {K : Type} {chunks : List K} {left right : K → List L}
    {first second : Memory L V}
    (lengths : ∀ chunk ∈ chunks, (left chunk).length = (right chunk).length)
    (same : (chunks.flatMap left).map first = (chunks.flatMap right).map second) :
    ∀ chunk ∈ chunks, (left chunk).map first = (right chunk).map second := by
  induction chunks with
  | nil => simp
  | cons head chunks ih =>
      simp only [List.flatMap_cons, List.map_append] at same
      obtain ⟨heads, tails⟩ := List.append_inj same
        (by simpa using lengths head List.mem_cons_self)
      intro chunk member
      rcases List.mem_cons.mp member with rfl | member
      · exact heads
      · exact ih (fun other inside => lengths other (List.mem_cons_of_mem head inside)) tails
          chunk member

/-- A transfer: sources, each with its destination. -/
abbrev Plan (L : Type) := List (L × L)

/-- Reads every source before it writes. -/
def copyAll (memory : Memory L V) (plan : Plan L) : Memory L V :=
  memory.writeAll (plan.map fun (source, destination) => (destination, memory source))

omit [DecidableEq L] in
private theorem map_destinations (memory : Memory L V) (plan : Plan L) :
    (plan.map fun (source, destination) => (destination, memory source)).map Prod.fst =
      plan.map Prod.snd := by
  simp [Function.comp_def]

theorem copyAll_of_not_mem {memory : Memory L V} {plan : Plan L} {location : L}
    (outside : location ∉ plan.map Prod.snd) : memory.copyAll plan location = memory location := by
  apply writeAll_of_not_mem
  rwa [map_destinations]

theorem copyAll_of_mem {memory : Memory L V} {plan : Plan L} {location : L}
    (inside : location ∈ plan.map Prod.snd) :
    ∃ source, (source, location) ∈ plan ∧ memory.copyAll plan location = memory source := by
  have written : location ∈
      (plan.map fun (source, destination) => (destination, memory source)).map Prod.fst := by
    rwa [map_destinations]
  have found := writeAll_of_mem memory written
  obtain ⟨⟨source, destination⟩, member, same⟩ := List.mem_map.mp found
  rw [Prod.mk.injEq] at same
  obtain ⟨rfl, value⟩ := same
  exact ⟨source, member, value.symm⟩

theorem copyAll_of_nodup {memory : Memory L V} {plan : Plan L} {source destination : L}
    (distinct : (plan.map Prod.snd).Nodup) (member : (source, destination) ∈ plan) :
    memory.copyAll plan destination = memory source := by
  apply writeAll_of_nodup
  · rwa [map_destinations]
  · exact List.mem_map.mpr ⟨(source, destination), member, rfl⟩

/-- Two transfers have the same effect on every memory. -/
def SameEffect (V : Type) (left right : Plan L) : Prop :=
  ∀ memory : Memory L V, memory.copyAll left = memory.copyAll right

/-- The order of a transfer to different destinations does not matter. -/
theorem sameEffect_of_perm {left right : Plan L} (reordered : left.Perm right)
    (distinct : (right.map Prod.snd).Nodup) : SameEffect V left right := by
  intro memory
  funext location
  have distinctLeft : (left.map Prod.snd).Nodup := (reordered.map Prod.snd).nodup_iff.mpr distinct
  by_cases inside : location ∈ right.map Prod.snd
  · obtain ⟨⟨source, destination⟩, member, rfl⟩ := List.mem_map.mp inside
    rw [copyAll_of_nodup distinct member,
      copyAll_of_nodup distinctLeft (reordered.mem_iff.mpr member)]
  · have outside : location ∉ left.map Prod.snd :=
      mt (reordered.map Prod.snd).mem_iff.mp inside
    rw [copyAll_of_not_mem inside, copyAll_of_not_mem outside]

/-- A memory that tells one location from all others shows every copy. -/
theorem mem_of_sameEffect [Nontrivial V] {left right : Plan L} (same : SameEffect V left right)
    (distinct : (right.map Prod.snd).Nodup) {source destination : L}
    (member : (source, destination) ∈ right) (apart : source ≠ destination) :
    (source, destination) ∈ left := by
  obtain ⟨blank, mark, different⟩ := exists_pair_ne V
  have marked := congrFun (same (fun location => if location = source then mark else blank))
    destination
  rw [copyAll_of_nodup distinct member, if_pos rfl] at marked
  by_cases written : destination ∈ left.map Prod.snd
  · obtain ⟨origin, found, value⟩ := copyAll_of_mem written
    rw [value] at marked
    by_cases here : origin = source
    · rwa [here] at found
    · rw [if_neg here] at marked
      exact absurd marked different
  · rw [copyAll_of_not_mem written, if_neg apart.symm] at marked
    exact absurd marked different

/-- Every destination holds what its source held, and nothing else changes. -/
def Transferred (plan : Plan L) (before after : Memory L V) : Prop :=
  (∀ copy ∈ plan, after copy.2 = before copy.1) ∧
    ∀ location, location ∉ plan.map Prod.snd → after location = before location

theorem transferred_iff {plan : Plan L} {before after : Memory L V}
    (distinct : (plan.map Prod.snd).Nodup) :
    Transferred plan before after ↔ after = before.copyAll plan := by
  constructor
  · rintro ⟨copied, kept⟩
    funext location
    by_cases inside : location ∈ plan.map Prod.snd
    · obtain ⟨⟨source, destination⟩, member, rfl⟩ := List.mem_map.mp inside
      rw [copyAll_of_nodup distinct member]
      exact copied _ member
    · rw [copyAll_of_not_mem inside, kept location inside]
  · rintro rfl
    exact ⟨fun copy member => copyAll_of_nodup distinct member,
      fun location outside => copyAll_of_not_mem outside⟩

/-- One transfer brings about what another one intends. -/
def Realizes (V : Type) (actual intended : Plan L) : Prop :=
  ∀ memory : Memory L V, Transferred intended memory (memory.copyAll actual)

theorem realizes_iff_sameEffect {actual intended : Plan L}
    (distinct : (intended.map Prod.snd).Nodup) :
    Realizes V actual intended ↔ SameEffect V actual intended :=
  forall_congr' fun _ => transferred_iff distinct

/-- No two values arrive at one location, and none where it is. -/
structure Plan.Separate (plan : Plan L) : Prop where
  distinct : (plan.map Prod.snd).Nodup
  apart : ∀ copy ∈ plan, copy.1 ≠ copy.2

end Memory

end Foundation
