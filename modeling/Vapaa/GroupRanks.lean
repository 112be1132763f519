import Vapaa.Conversion
import Vapaa.Foundation.RankedGroups
import Vapaa.Mpich

/-!
# Ranks in groups

`MPI_Group_rank` and `MPI_Group_translate_ranks`, in `mpi_group_f.F90` and `mpi_group.c`.
-/

set_option autoImplicit false

namespace Vapaa

open Foundation

/-- The groups that a process knows by C handle. -/
structure Groups (Process : Type) where
  group : Int → Option (RankedGroup Process)
  self : Process

section Library

variable {Process : Type} [DecidableEq Process]

/-- The rank of a process in a group, with the number for a process outside. -/
def rankIn (undefined : Int) (group : RankedGroup Process) (process : Process) : Int :=
  match group.rank process with
  | some rank => rank
  | none => undefined

/-- The rank in another group, with the numbers for no process and for a process outside. -/
def translateRank (procNull undefined : Int) (source target : RankedGroup Process) (rank : Int) :
    Int :=
  if rank = procNull then procNull
  else
    match source.translate target rank.toNat with
    | some other => other
    | none => undefined

/-- Ranks of a group, and the number for no process. -/
def validRank (procNull : Int) (group : RankedGroup Process) (rank : Int) : Bool :=
  rank = procNull ∨ 0 ≤ rank ∧ rank < group.members.length

variable (mpi : Mpi) (undefined : Int) (groups : Groups Process)

def mpiGroupRank (group rank : Int) : Call (Int × Int) :=
  match groups.group group with
  | none => return (mpi.errorClass .errGroup, rank)
  | some members => return (mpi.errorClass .success, rankIn undefined members groups.self)

def mpiGroupTranslateRanks (group1 n : Int) (ranks1 : List Int) (group2 : Int)
    (ranks2 : List Int) : Call (Int × List Int) :=
  match groups.group group1, groups.group group2 with
  | some source, some target =>
      if n < 0 then return (mpi.errorClass .errArg, ranks2)
      else if ranks1.length < n ∨ ranks2.length < n then Run.undefined .outOfBounds
      else if (ranks1.take n.toNat).all (validRank mpi.procNull source) then
        return (mpi.errorClass .success,
          (ranks1.take n.toNat).map (translateRank mpi.procNull undefined source target) ++
            ranks2.drop n.toNat)
      else return (mpi.errorClass .errRank, ranks2)
  | _, _ => return (mpi.errorClass .errGroup, ranks2)

end Library

section Wrappers

variable {Process : Type} [DecidableEq Process] (mpi : Mpi) (undefined : Int)
variable (groups : Groups Process)

def cMpiGroupRank (groupF rank : Int) : Call (Int × Int) := do
  let group := cMpiGroupF2c mpi groupF
  let (ierror, rank) ← mpiGroupRank mpi undefined groups group rank
  return (rank, ← cMpiRcFix mpi ierror)

def cMpiGroupTranslateRanks (group1F n : Int) (ranks1 : List Int) (group2F : Int)
    (ranks2 : List Int) : Call (List Int × Int) := do
  let group1 := cMpiGroupF2c mpi group1F
  let group2 := cMpiGroupF2c mpi group2F
  let (ierror, ranks2) ← mpiGroupTranslateRanks mpi undefined groups group1 n ranks1 group2 ranks2
  return (ranks2, ← cMpiRcFix mpi ierror)

/-- Returns `rank` and `ierror`; `rankC` is what the local variable holds before the call. -/
def mpiGroupRankF08 (group rankC : Int) : Call (Int × Int) := do
  let (rankC, ierrorC) ← cMpiGroupRank mpi undefined groups group rankC
  return (rankC, ierrorC)

/-- The edit descriptor `i6` -/
def i6 (value : Int) : String :=
  let digits := toString value
  if digits.length ≤ 6 then String.ofList (List.replicate (6 - digits.length) ' ') ++ digits
  else "******"

/-- Returns `ranks2` and `ierror`; `ranks2C` is what the local array holds before the call. The line
that may be written is kept with the warnings. -/
def mpiGroupTranslateRanksF08 (group1 n : Int) (ranks1 : List Int) (group2 : Int)
    (ranks2C : List Int) : Call (List Int × Int) := do
  if 500 < n then
    vapaaWarning
      s!"MPI_Group_translate_ranks: vector of {i6 n} elements may cause segfault due to stack overflow\n"
  let nC := n
  let ranks1C := ranks1
  let (ranks2C, ierrorC) ←
    cMpiGroupTranslateRanks mpi undefined groups group1 nC ranks1C group2 ranks2C
  return (ranks2C, ierrorC)

end Wrappers

section Specification

variable {Process : Type} [DecidableEq Process] (mpi : Mpi) (undefined : Int)
variable (groups : Groups Process) (world : World)

/-- Ranks come back as Fortran knows them, and those that the other group has go back to where they
came from. -/
structure TranslatesRanks (group1 group2 : Int) (source target : RankedGroup Process)
    (ranks : List Int) : Prop where
  forth : ∀ ranks2C, ranks2C.length = ranks.length →
    Run.Returns (mpiGroupTranslateRanksF08 mpi undefined groups group1 ranks.length ranks group2
      ranks2C) world fun result _ =>
        result = (ranks.map (translateRank vapaaMpiProcNull vapaaMpiUndefined source target),
          mpi.errorClass .success)
  back : ∀ chosen ⊆ ranks, (∀ rank ∈ chosen,
      translateRank vapaaMpiProcNull vapaaMpiUndefined source target rank ≠ vapaaMpiUndefined) →
    ∀ ranks2C, ranks2C.length = chosen.length →
      Run.Returns (mpiGroupTranslateRanksF08 mpi undefined groups group2 chosen.length
        (chosen.map (translateRank vapaaMpiProcNull vapaaMpiUndefined source target)) group1
        ranks2C) world fun result _ => result = (chosen, mpi.errorClass .success)

/-- The process learns its rank, and `MPI_UNDEFINED` exactly when it has none. -/
def TellsRank (group : Int) (members : RankedGroup Process) : Prop :=
  ∀ rankC, Run.Returns (mpiGroupRankF08 mpi undefined groups group rankC) world fun result _ =>
    result = (rankIn vapaaMpiUndefined members groups.self, mpi.errorClass .success) ∧
      (result.1 = vapaaMpiUndefined ↔ groups.self ∉ members.members)

/-- A rank of a process that both groups have. -/
def RankOfBoth (source target : RankedGroup Process) (rank : Int) : Prop :=
  0 ≤ rank ∧ ∃ process ∈ target.members, source.member rank.toNat = some process

end Specification

section Proofs

variable {Process : Type} [DecidableEq Process] {mpi : Mpi} {undefined : Int}
variable {groups : Groups Process} {world : World} {source target : RankedGroup Process}
variable {group1 group2 rank : Int} {ranks ranks2 : List Int}

theorem RankOfBoth.translates (both : RankOfBoth source target rank) :
    ∃ other, source.translate target rank.toNat = some other := by
  obtain ⟨-, process, member, found⟩ := both
  rw [RankedGroup.translate, found]
  exact Option.ne_none_iff_exists'.mp (mt RankedGroup.rank_eq_none_iff.mp (not_not.mpr member))

/-- Such ranks are the same for Fortran and for C. -/
theorem RankOfBoth.translateRank_eq (both : RankOfBoth source target rank) {procNull : Int}
    (null : procNull < 0) {other : Nat}
    (translated : source.translate target rank.toNat = some other) :
    translateRank procNull undefined source target rank = other := by
  have valid := both.1
  rw [translateRank, if_neg (by omega), translated]

private theorem rankOfBoth_of_translates {other : Nat}
    (translated : source.translate target rank.toNat = some other) :
    RankOfBoth target source other := by
  have back := RankedGroup.translate_comm.mp translated
  rw [RankedGroup.translate, Option.bind_eq_some_iff] at back
  obtain ⟨process, found, ranked⟩ := back
  have member := RankedGroup.mem_of_member (RankedGroup.rank_eq_some_iff.mp ranked)
  exact ⟨Int.natCast_nonneg other, process, member, found⟩

omit [DecidableEq Process] in
theorem RankOfBoth.valid (both : RankOfBoth source target rank) {procNull : Int} :
    validRank procNull source rank = true := by
  obtain ⟨low, process, -, found⟩ := both
  obtain ⟨inside, -⟩ := List.getElem?_eq_some_iff.mp found
  rw [validRank, decide_eq_true_eq]
  exact Or.inr ⟨low, by omega⟩

private theorem mpiGroupTranslateRanks_of_valid
    (live1 : groups.group group1 = some source) (live2 : groups.group group2 = some target)
    (length : ranks2.length = ranks.length)
    (valid : ∀ rank ∈ ranks, validRank mpi.procNull source rank = true) :
    mpiGroupTranslateRanks mpi undefined groups group1 ranks.length ranks group2 ranks2 world =
      .returned ((mpi.errorClass .success,
        ranks.map (translateRank mpi.procNull undefined source target)), world) := by
  have nonneg : ¬ (ranks.length : Int) < 0 := by omega
  have room : ¬ ((ranks.length : Int) < ranks.length ∨ (ranks2.length : Int) < ranks.length) := by
    omega
  simp only [mpiGroupTranslateRanks, live1, live2, if_neg nonneg, if_neg room, Int.toNat_natCast,
    List.take_length, List.all_eq_true.mpr valid, if_true]
  rw [List.drop_of_length_le length.le, List.append_nil]
  rfl

private theorem mpiGroupTranslateRanks_of_invalid
    (live1 : groups.group group1 = some source) (live2 : groups.group group2 = some target)
    (length : ranks2.length = ranks.length) (member : rank ∈ ranks)
    (invalid : ¬ validRank mpi.procNull source rank = true) :
    mpiGroupTranslateRanks mpi undefined groups group1 ranks.length ranks group2 ranks2 world =
      .returned ((mpi.errorClass .errRank, ranks2), world) := by
  have nonneg : ¬ (ranks.length : Int) < 0 := by omega
  have room : ¬ ((ranks.length : Int) < ranks.length ∨ (ranks2.length : Int) < ranks.length) := by
    omega
  have rejected : ¬ ranks.all (validRank mpi.procNull source) = true :=
    fun valid => invalid (List.all_eq_true.mp valid rank member)
  simp only [mpiGroupTranslateRanks, live1, live2, if_neg nonneg, if_neg room, Int.toNat_natCast,
    List.take_length, if_neg rejected]
  rfl

/-- A vector is passed on as it is, with a line written first when it is long. -/
theorem mpiGroupTranslateRanksF08_apply {n : Int} :
    ∃ warned, mpiGroupTranslateRanksF08 mpi undefined groups group1 n ranks group2 ranks2 world =
      cMpiGroupTranslateRanks mpi undefined groups group1 n ranks group2 ranks2 warned := by
  by_cases long : 500 < n
  · rw [mpiGroupTranslateRanksF08, if_pos long]
    apply Exists.intro
    exact (Run.bind_of_returned (vapaaWarning_apply _)).trans (congrFun (bind_pure _) _)
  · rw [mpiGroupTranslateRanksF08, if_neg long]
    exact ⟨world, congrFun (bind_pure _) _⟩

private theorem translateRanks_returns (null : mpi.procNull < 0)
    (live1 : groups.group (cMpiGroupF2c mpi group1) = some source)
    (live2 : groups.group (cMpiGroupF2c mpi group2) = some target)
    (length : ranks2.length = ranks.length)
    (both : ∀ rank ∈ ranks, RankOfBoth source target rank) :
    Run.Returns (mpiGroupTranslateRanksF08 mpi undefined groups group1 ranks.length ranks group2
      ranks2) world fun result _ =>
        result = (ranks.map (translateRank vapaaMpiProcNull vapaaMpiUndefined source target),
          mpi.errorClass .success) := by
  have same : ranks.map (translateRank mpi.procNull undefined source target) =
      ranks.map (translateRank vapaaMpiProcNull vapaaMpiUndefined source target) := by
    refine List.map_congr_left fun rank member => ?_
    obtain ⟨other, translated⟩ := (both rank member).translates
    rw [(both rank member).translateRank_eq null translated,
      (both rank member).translateRank_eq (by decide) translated]
  obtain ⟨warned, apply⟩ := @mpiGroupTranslateRanksF08_apply _ _ mpi undefined groups world group1
    group2 ranks ranks2 ranks.length
  refine Run.Returns.of_eq ?_ apply
  rw [cMpiGroupTranslateRanks]
  refine Run.returns_bind_of_returned (mpiGroupTranslateRanks_of_valid live1 live2 length
    fun rank member => (both rank member).valid) ?_
  rw [same]
  exact Run.returns_bind_of_returned (cMpiRcFix_success warned) (Run.returns_pure rfl)

private theorem translateRanks_ensures
    (live1 : groups.group (cMpiGroupF2c mpi group1) = some source)
    (live2 : groups.group (cMpiGroupF2c mpi group2) = some target)
    (length : ranks2.length = ranks.length) :
    Run.Ensures (mpiGroupTranslateRanksF08 mpi undefined groups group1 ranks.length ranks group2
      ranks2) world fun result _ =>
        (result.1 = ranks.map (translateRank mpi.procNull undefined source target) ∧
          ∀ rank ∈ ranks, validRank mpi.procNull source rank = true) ∨
        (result.1 = ranks2 ∧ ranks ≠ []) := by
  obtain ⟨warned, apply⟩ := @mpiGroupTranslateRanksF08_apply _ _ mpi undefined groups world group1
    group2 ranks ranks2 ranks.length
  refine Run.Ensures.of_eq ?_ apply
  rw [cMpiGroupTranslateRanks]
  by_cases valid : ∀ rank ∈ ranks, validRank mpi.procNull source rank = true
  · refine Run.ensures_bind_of_returned
      (mpiGroupTranslateRanks_of_valid live1 live2 length valid) ?_
    exact Run.ensures_bind_of_all fun _ _ => Run.ensures_pure (Or.inl ⟨rfl, valid⟩)
  · push Not at valid
    obtain ⟨rank, member, invalid⟩ := valid
    refine Run.ensures_bind_of_returned
      (mpiGroupTranslateRanks_of_invalid live1 live2 length member invalid) ?_
    exact Run.ensures_bind_of_all fun _ _ =>
      Run.ensures_pure (Or.inr ⟨rfl, List.ne_nil_of_mem member⟩)

private theorem tellsRank_iff (undefined_ne : undefined ≠ vapaaMpiUndefined) {group : Int}
    {members : RankedGroup Process}
    (live : groups.group (cMpiGroupF2c mpi group) = some members) :
    TellsRank mpi undefined groups world group members ↔ groups.self ∈ members.members := by
  have ran (rankC : Int) : mpiGroupRankF08 mpi undefined groups group rankC world =
      .returned ((rankIn undefined members groups.self, mpi.errorClass .success), world) := by
    have asked : mpiGroupRank mpi undefined groups (cMpiGroupF2c mpi group) rankC world =
        .returned ((mpi.errorClass .success, rankIn undefined members groups.self), world) := by
      simp only [mpiGroupRank, live]
      rfl
    refine (congrFun (bind_pure (cMpiGroupRank mpi undefined groups group rankC)) world).trans ?_
    exact (Run.bind_of_returned asked).trans (Run.bind_of_returned (cMpiRcFix_success world))
  constructor
  · intro tells
    by_contra outside
    obtain ⟨same, -⟩ := Run.returns_pure_iff.mp ((tells 0).of_eq (ran 0).symm)
    have none := RankedGroup.rank_eq_none_iff.mpr outside
    simp only [rankIn, none, Prod.mk.injEq] at same
    exact undefined_ne same.1
  · intro inside rankC
    have ranked := Option.ne_none_iff_exists'.mp
      (mt RankedGroup.rank_eq_none_iff.mp (not_not.mpr inside))
    obtain ⟨rank, ranked⟩ := ranked
    refine Run.returns_of_returned (ran rankC) ?_
    simp only [rankIn, ranked, vapaaMpiUndefined, inside, not_true_eq_false, iff_false, true_and]
    omega

/-- Ranks and groups agree for Fortran exactly where neither `MPI_PROC_NULL` nor `MPI_UNDEFINED` is
needed: no rank is `MPI_PROC_NULL`, each belongs to a process that the other group has, too, and
the process that asks for its rank has one. -/
theorem groupRanks_agree_iff (null : mpi.procNull < 0) (null_ne : mpi.procNull ≠ vapaaMpiProcNull)
    (undefined_ne : undefined ≠ vapaaMpiUndefined) {group : Int} {members : RankedGroup Process}
    (live1 : groups.group (cMpiGroupF2c mpi group1) = some source)
    (live2 : groups.group (cMpiGroupF2c mpi group2) = some target)
    (live : groups.group (cMpiGroupF2c mpi group) = some members)
    (valid : ∀ rank ∈ ranks, validRank vapaaMpiProcNull source rank = true) :
    TranslatesRanks mpi undefined groups world group1 group2 source target ranks ∧
        TellsRank mpi undefined groups world group members ↔
      (∀ rank ∈ ranks, rank ≠ vapaaMpiProcNull ∧
        ∀ process, source.member rank.toNat = some process → process ∈ target.members) ∧
      groups.self ∈ members.members := by
  rw [tellsRank_iff undefined_ne live]
  refine and_congr_left fun _ => ?_
  constructor
  · intro translates
    -- a local array that holds the right rank nowhere
    have told := (translates.forth ((ranks.map (translateRank vapaaMpiProcNull vapaaMpiUndefined
      source target)).map (· + 1)) (by simp)).and_ensures
        (translateRanks_ensures live1 live2 (by simp))
    obtain ⟨_, _, -, rfl, ⟨same, validC⟩ | ⟨same, some⟩⟩ := told
    · intro rank member
      have agree := List.map_inj_left.mp same rank member
      have validC := validC rank member
      have valid := valid rank member
      rw [validRank, decide_eq_true_eq] at validC valid
      have somewhere : rank ≠ vapaaMpiProcNull := by
        rintro rfl
        rcases validC with same | ⟨low, -⟩
        · exact null_ne same.symm
        · exact absurd low (by decide)
      have low := (valid.resolve_left somewhere).1
      refine ⟨somewhere, fun process found => ?_⟩
      by_contra outside
      have untranslated : source.translate target rank.toNat = none := by
        rw [RankedGroup.translate, found, Option.bind_some, RankedGroup.rank_eq_none_iff]
        exact outside
      rw [translateRank, translateRank, if_neg somewhere, if_neg (by omega), untranslated] at agree
      exact undefined_ne agree.symm
    · obtain ⟨rank, rest, rfl⟩ := List.exists_cons_of_ne_nil some
      simp at same
  · intro inside
    have both : ∀ rank ∈ ranks, RankOfBoth source target rank := by
      intro rank member
      obtain ⟨somewhere, within⟩ := inside rank member
      have valid := valid rank member
      rw [validRank, decide_eq_true_eq, or_iff_right somewhere] at valid
      have inBounds : rank.toNat < source.members.length := by omega
      have found : source.member rank.toNat = some source.members[rank.toNat] :=
        List.getElem?_eq_getElem inBounds
      exact ⟨valid.1, _, within _ found, found⟩
    constructor
    · exact fun ranks2C length => translateRanks_returns null live1 live2 length both
    · intro chosen within _ ranks2C length
      have others : ∀ rank ∈ chosen, ∃ other : Nat,
          source.translate target rank.toNat = some other ∧
            translateRank vapaaMpiProcNull vapaaMpiUndefined source target rank = other := by
        intro rank member
        obtain ⟨other, translated⟩ := (both rank (within member)).translates
        exact ⟨other, translated, (both rank (within member)).translateRank_eq (by decide) translated⟩
      have back := @translateRanks_returns _ _ mpi undefined groups world target source group2 group1
        (chosen.map (translateRank vapaaMpiProcNull vapaaMpiUndefined source target)) ranks2C null
        live2 live1 (by simpa using length)
      rw [List.length_map] at back
      refine (back ?_).mono fun result _ same => same.trans ?_
      · intro rank' member'
        obtain ⟨rank, member, rfl⟩ := List.mem_map.mp member'
        obtain ⟨other, translated, told⟩ := others rank member
        rw [told]
        exact rankOfBoth_of_translates translated
      · rw [List.map_map]
        refine congrArg (·, _) ((List.map_congr_left fun rank member => ?_).trans (List.map_id _))
        obtain ⟨other, translated, told⟩ := others rank member
        rw [Function.comp_apply, told, (rankOfBoth_of_translates translated).translateRank_eq
          (by decide) (RankedGroup.translate_comm.mp translated)]
        exact Int.toNat_of_nonneg (both rank (within member)).1

end Proofs

section Examples

/-- Three groups that overlap; the process that calls is in the first two. -/
def overlappingGroups : Groups Nat where
  group
    | 1 => some ⟨[0, 1, 2], by decide⟩
    | 2 => some ⟨[2, 0], by decide⟩
    | 3 => some ⟨[1], by decide⟩
    | _ => none
  self := 0

theorem groupRanks_agree_shared :
    TranslatesRanks mpich (-32766) overlappingGroups startWorld 1 2 ⟨[0, 1, 2], by decide⟩
        ⟨[2, 0], by decide⟩ [2, 0] ∧
      TellsRank mpich (-32766) overlappingGroups startWorld 2 ⟨[2, 0], by decide⟩ := by
  refine (groupRanks_agree_iff (by decide) (by decide) (by decide) rfl rfl rfl (by decide)).mpr
    ⟨?_, by decide⟩
  intro rank member
  obtain rfl | rfl : rank = 2 ∨ rank = 0 := by simpa using member
  · exact ⟨by decide, fun process found => by cases found; decide⟩
  · exact ⟨by decide, fun process found => by cases found; decide⟩

/-- A rank of a process that the other group lacks becomes the `MPI_UNDEFINED` of C, as does the
rank of a process outside; and with `MPI_PROC_NULL` no rank is translated. -/
theorem groupRanks_untranslated :
    mpiGroupTranslateRanksF08 mpich (-32766) overlappingGroups 1 2 [0, 1] 2 [7, 7] startWorld =
      .returned (([1, -32766], 0), startWorld) ∧
    mpiGroupRankF08 mpich (-32766) overlappingGroups 3 7 startWorld =
      .returned ((-32766, 0), startWorld) ∧
    (mpiGroupTranslateRanksF08 mpich (-32766) overlappingGroups 1 2 [0, -19] 2 [7, 7] startWorld >>=
      fun result => .returned result.1) = .returned ([7, 7], 6) ∧
    ¬ TranslatesRanks mpich (-32766) overlappingGroups startWorld 1 2 ⟨[0, 1, 2], by decide⟩
        ⟨[2, 0], by decide⟩ [0, 1] ∧
    ¬ TellsRank mpich (-32766) overlappingGroups startWorld 3 ⟨[1], by decide⟩ := by
  have translated : mpiGroupTranslateRanksF08 mpich (-32766) overlappingGroups 1 2 [0, 1] 2 [7, 7]
      startWorld = .returned (([1, -32766], 0), startWorld) := by
    rfl
  have ranked : mpiGroupRankF08 mpich (-32766) overlappingGroups 3 7 startWorld =
      .returned ((-32766, 0), startWorld) := by
    rfl
  refine ⟨translated, ranked, by decide +kernel, fun translates => ?_, fun tells => ?_⟩
  · obtain ⟨_, _, run, same⟩ := translates.forth [7, 7] rfl
    cases translated.symm.trans run
    exact absurd (congrArg Prod.fst same) (by decide)
  · obtain ⟨_, _, run, same, -⟩ := tells 7
    cases ranked.symm.trans run
    exact absurd (congrArg Prod.fst same) (by decide)

end Examples

end Vapaa
