import Mathlib.Data.List.Sort
import Mathlib.Data.Prod.Lex

/-!
# Ranked groups

Groups of processes, each with a rank in each group it belongs to, and the order of ranks that a
measure of the processes gives.
-/

set_option autoImplicit false

namespace Foundation

/-- Processes in the order of their ranks. -/
structure RankedGroup (Process : Type) where
  members : List Process
  distinct : members.Nodup

namespace RankedGroup

variable {Process : Type}

/-- The process of a rank. -/
def member (group : RankedGroup Process) (rank : Nat) : Option Process := group.members[rank]?

theorem mem_of_member {group : RankedGroup Process} {i : Nat} {process : Process}
    (found : group.member i = some process) : process ∈ group.members :=
  List.mem_of_getElem? found

theorem member_inj {group : RankedGroup Process} {i j : Nat} {process : Process}
    (first : group.member i = some process) (second : group.member j = some process) : i = j := by
  obtain ⟨inside, found⟩ := List.getElem?_eq_some_iff.mp first
  obtain ⟨inside', found'⟩ := List.getElem?_eq_some_iff.mp second
  exact (List.Nodup.getElem_inj_iff group.distinct).mp (found.trans found'.symm)

section Ranks

variable [DecidableEq Process] {group source target : RankedGroup Process} {process : Process}
variable {i j : Nat}

/-- The rank of a process. -/
def rank (group : RankedGroup Process) (process : Process) : Option Nat :=
  group.members.idxOf? process

theorem rank_eq_some_iff : group.rank process = some i ↔ group.member i = some process := by
  rw [rank, member, List.idxOf?_eq_some_iff, List.getElem?_eq_some_iff]
  constructor
  · rintro ⟨inside, found, -⟩
    exact ⟨inside, found⟩
  · rintro ⟨inside, found⟩
    refine ⟨inside, found, fun other before same => ?_⟩
    have twice : group.member other = some process := List.getElem?_eq_some_iff.mpr ⟨_, same⟩
    exact absurd (member_inj twice (List.getElem?_eq_some_iff.mpr ⟨inside, found⟩)) before.ne

theorem rank_eq_none_iff : group.rank process = none ↔ process ∉ group.members :=
  List.idxOf?_eq_none_iff

/-- The rank in another group of the process of a rank. -/
def translate (source target : RankedGroup Process) (rank : Nat) : Option Nat :=
  (source.member rank).bind target.rank

theorem translate_comm :
    source.translate target i = some j ↔ target.translate source j = some i := by
  simp only [translate, Option.bind_eq_some_iff, rank_eq_some_iff]
  exact exists_congr fun process => and_comm

end Ranks

section Parts

variable {Measure : Type} [LinearOrder Measure] {group : RankedGroup Process} {process : Process}
variable {measure : Process → Measure} {keep : Process → Bool}

/-- The members that are kept, in their order. -/
def part (group : RankedGroup Process) (keep : Process → Bool) : RankedGroup Process where
  members := group.members.filter keep
  distinct := group.distinct.filter keep

theorem mem_part : process ∈ (group.part keep).members ↔ process ∈ group.members ∧ keep process :=
  List.mem_filter

/-- The members in the order of a measure. -/
def ordered (group : RankedGroup Process) (measure : Process → Measure) : RankedGroup Process where
  members := group.members.insertionSort fun first second => measure first ≤ measure second
  distinct := (List.perm_insertionSort _ _).nodup_iff.mpr group.distinct

theorem mem_ordered : process ∈ (group.ordered measure).members ↔ process ∈ group.members :=
  List.mem_insertionSort _

theorem ordered_le {i j : Nat} {first second : Process} (before : i < j)
    (atFirst : (group.ordered measure).member i = some first)
    (atSecond : (group.ordered measure).member j = some second) :
    measure first ≤ measure second := by
  have sorted : (group.ordered measure).members.Pairwise fun first second =>
      measure first ≤ measure second := List.pairwise_insertionSort _ _
  obtain ⟨inside, rfl⟩ := List.getElem?_eq_some_iff.mp atFirst
  obtain ⟨inside', rfl⟩ := List.getElem?_eq_some_iff.mp atSecond
  exact List.pairwise_iff_getElem.mp sorted i j inside inside' before

/-- Ranks compare as the measure does, where the measure tells the members apart. -/
theorem ordered_lt_iff {i j : Nat} {first second : Process}
    (apart : measure first = measure second → first = second)
    (atFirst : (group.ordered measure).member i = some first)
    (atSecond : (group.ordered measure).member j = some second) :
    i < j ↔ measure first < measure second := by
  constructor
  · intro before
    refine lt_of_le_of_ne (ordered_le before atFirst atSecond) fun same => ?_
    obtain rfl := apart same
    exact before.ne (member_inj atFirst atSecond)
  · intro less
    rcases lt_trichotomy i j with before | rfl | after
    · exact before
    · obtain rfl : first = second := Option.some.inj (atFirst.symm.trans atSecond)
      exact absurd less (lt_irrefl _)
    · exact absurd less (not_lt.mpr (ordered_le after atSecond atFirst))

end Parts

end RankedGroup

end Foundation
