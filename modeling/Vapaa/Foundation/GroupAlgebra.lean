import Mathlib.Data.Set.Basic
import Vapaa.Foundation.RankedGroups

/-!
# Operations on ranked groups

Groups made of other groups, how two of them compare, and the sets of processes that nested
operations stand for.
-/

set_option autoImplicit false

namespace Foundation

/-- How two groups, or what is made of them, compare. -/
inductive GroupRelation where
  | ident | congruent | similar | unequal
  deriving DecidableEq, Repr

inductive GroupOperation where
  | union | intersection | difference
  deriving DecidableEq, Repr

namespace RankedGroup

variable {Process : Type} [DecidableEq Process] {first second : RankedGroup Process}
variable {process : Process}

/-- The members of the first group, then the others of the second. -/
def union (first second : RankedGroup Process) : RankedGroup Process where
  members := first.members ++ (second.part fun process => process ∉ first.members).members
  distinct := by
    apply first.distinct.append (second.part _).distinct
    intro process inFirst inRest
    exact of_decide_eq_true (mem_part.mp inRest).2 inFirst

def intersection (first second : RankedGroup Process) : RankedGroup Process :=
  first.part fun process => process ∈ second.members

def difference (first second : RankedGroup Process) : RankedGroup Process :=
  first.part fun process => process ∉ second.members

def combine : GroupOperation → RankedGroup Process → RankedGroup Process → RankedGroup Process
  | .union => union
  | .intersection => intersection
  | .difference => difference

omit [DecidableEq Process] in
theorem nodup_filterMap_member {group : RankedGroup Process} {ranks : List Nat}
    (different : ranks.Nodup) : (ranks.filterMap group.member).Nodup :=
  different.filterMap fun _ _ _ first second => member_inj first second

/-- The members of some ranks in the order of the ranks, unless a rank is missing or repeated. -/
def incl (group : RankedGroup Process) (ranks : List Nat) : Option (RankedGroup Process) :=
  if valid : ranks.Nodup ∧ ∀ rank ∈ ranks, rank < group.members.length then
    some { members := ranks.filterMap group.member, distinct := nodup_filterMap_member valid.1 }
  else none

/-- The members of all other ranks, in their order. -/
def excl (group : RankedGroup Process) (ranks : List Nat) : Option (RankedGroup Process) :=
  (group.incl ranks).map group.difference

/-- The same ranks, the same members, or neither. -/
def relation (first second : RankedGroup Process) : GroupRelation :=
  if first.members = second.members then .ident
  else if first.members.Perm second.members then .similar
  else .unequal

theorem mem_combine {operation : GroupOperation} :
    process ∈ (combine operation first second).members ↔
      match operation with
      | .union => process ∈ first.members ∨ process ∈ second.members
      | .intersection => process ∈ first.members ∧ process ∈ second.members
      | .difference => process ∈ first.members ∧ process ∉ second.members := by
  cases operation with
  | union =>
      rw [combine, union, List.mem_append, mem_part, decide_eq_true_eq]
      by_cases inFirst : process ∈ first.members
      · simp [inFirst]
      · simp [inFirst]
  | intersection => rw [combine, intersection, mem_part, decide_eq_true_eq]
  | difference => rw [combine, difference, mem_part, decide_eq_true_eq]

theorem relation_eq_unequal_iff :
    first.relation second = .unequal ↔
      ¬ ∀ process, process ∈ first.members ↔ process ∈ second.members := by
  have same : first.members.Perm second.members ↔
      ∀ process, process ∈ first.members ↔ process ∈ second.members :=
    List.perm_ext_iff_of_nodup first.distinct second.distinct
  rw [relation, ← same]
  split
  · rename_i equal
    simp [equal]
  · split
    · rename_i permuted
      simp [permuted]
    · rename_i different
      simp [different]

end RankedGroup

/-- Nested operations on groups. -/
inductive GroupTree (V : Type) where
  | leaf (name : V)
  | node (operation : GroupOperation) (left right : GroupTree V)

namespace GroupTree

variable {V Process : Type}

/-- How many operations are nested. -/
def size : GroupTree V → Nat
  | .leaf _ => 0
  | .node _ left right => left.size + right.size + 1

/-- The processes that nested operations stand for. -/
def processes (known : V → Set Process) : GroupTree V → Set Process
  | .leaf name => known name
  | .node .union left right => left.processes known ∪ right.processes known
  | .node .intersection left right => left.processes known ∩ right.processes known
  | .node .difference left right => left.processes known \ right.processes known

variable [DecidableEq Process]

def group (known : V → RankedGroup Process) : GroupTree V → RankedGroup Process
  | .leaf name => known name
  | .node operation left right =>
      RankedGroup.combine operation (left.group known) (right.group known)

theorem mem_group {known : V → RankedGroup Process} {tree : GroupTree V} {process : Process} :
    process ∈ (tree.group known).members ↔
      process ∈ tree.processes fun name => { process | process ∈ (known name).members } := by
  induction tree with
  | leaf name => exact Iff.rfl
  | node operation left right leftIH rightIH =>
      rw [group, RankedGroup.mem_combine]
      cases operation with
      | union => exact or_congr leftIH rightIH
      | intersection => exact and_congr leftIH rightIH
      | difference => exact and_congr leftIH (not_congr rightIH)

/-- Groups are told apart exactly where the sets are. -/
theorem relation_eq_unequal_iff {known : V → RankedGroup Process} {left right : GroupTree V} :
    (left.group known).relation (right.group known) = .unequal ↔
      left.processes (fun name => { process | process ∈ (known name).members }) ≠
        right.processes fun name => { process | process ∈ (known name).members } := by
  rw [RankedGroup.relation_eq_unequal_iff, Ne, Set.ext_iff]
  exact not_congr (forall_congr' fun _ => iff_congr mem_group mem_group)

end GroupTree

end Foundation
