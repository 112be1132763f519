import Vapaa.FailedBuilds
import Vapaa.GroupWrappers
import Vapaa.HandleRuns

/-!
# Programs on groups

Runs of routines that make, ask for, compare and free groups.
-/

set_option autoImplicit false

namespace Vapaa

open Foundation

/-- Calls with the numbers of the variables that hold groups. -/
inductive GroupCall where
  | commGroup (commF : Int) (newgroup : Nat)
  | combine (operation : GroupOperation) (group1 group2 newgroup : Nat)
  | incl (group : Nat) (ranks : List Int) (newgroup : Nat)
  | excl (group : Nat) (ranks : List Int) (newgroup : Nat)
  | free (group : Nat)
  | size (group : Nat)
  | rank (group : Nat)
  | compare (group1 group2 : Nat)
  | commSize (commF : Int)
  | commRank (commF : Int)
  | commCompare (comm1F comm2F : Int)

/-- A program with variables of `type(MPI_Group)`. -/
structure GroupProgram (Process : Type) where
  grouping : Grouping Process
  held : Nat → Int

/-- The groups that variables stand for. -/
abbrev GroupVariables (Process : Type) := Nat → Option (RankedGroup Process)

section Calls

variable {Process : Type} [DecidableEq Process] (mpi : Mpi) (library : GroupLibrary Process)

def onGroups {α : Type} : GroupRun Process α → Run (GroupProgram Process) α :=
  Run.zoom GroupProgram.grouping fun program grouping => { program with grouping := grouping }

/-- A call that makes a group, for a variable. -/
def makes (newgroup : Nat) (call : GroupRun Process (Int × Int)) :
    Run (GroupProgram Process) (Option Int × Int) := do
  let (newgroupF, ierror) ← onGroups call
  fun program => .returned ((none, ierror),
    { program with held := Function.update program.held newgroup newgroupF })

/-- Returns the number that is asked for, if it is set, and `ierror`. -/
def GroupCall.run (groupCall : GroupCall) : Run (GroupProgram Process) (Option Int × Int) :=
  fun program =>
    let held := program.held
    (match groupCall with
      | .commGroup commF newgroup => makes newgroup (Grouping.cMpiCommGroup mpi library commF)
      | .combine .union group1 group2 newgroup =>
          makes newgroup (Grouping.cMpiGroupUnion mpi (held group1) (held group2))
      | .combine .intersection group1 group2 newgroup =>
          makes newgroup (Grouping.cMpiGroupIntersection mpi (held group1) (held group2))
      | .combine .difference group1 group2 newgroup =>
          makes newgroup (Grouping.cMpiGroupDifference mpi (held group1) (held group2))
      | .incl group ranks newgroup =>
          makes newgroup (Grouping.mpiGroupInclF08 mpi (held group) ranks)
      | .excl group ranks newgroup =>
          makes newgroup (Grouping.mpiGroupExclF08 mpi (held group) ranks)
      | .free group => makes group (Grouping.cMpiGroupFree mpi (held group))
      | .size group => onGroups (Grouping.cMpiGroupSize mpi (held group))
      | .rank group => onGroups (Grouping.cMpiGroupRank mpi library (held group))
      | .compare group1 group2 =>
          onGroups (Grouping.cMpiGroupCompare mpi library (held group1) (held group2))
      | .commSize commF => onGroups (Grouping.cMpiCommSize mpi library commF)
      | .commRank commF => onGroups (Grouping.cMpiCommRank mpi library commF)
      | .commCompare comm1F comm2F =>
          onGroups (Grouping.cMpiCommCompare mpi library comm1F comm2F)) program

/-- The communicator of a Fortran handle. -/
def GroupLibrary.comm (commF : Int) : Option (Communicator Process) :=
  library.comms (cMpiCommF2c mpi commF)

/-- What a call that succeeds means: the number that it should return, and the groups afterwards. -/
def GroupCall.means (stored : GroupVariables Process) :
    GroupCall → Option (Option Int × GroupVariables Process)
  | .commGroup commF newgroup => (library.comm mpi commF).map fun comm =>
      (none, Function.update stored newgroup (some comm.group))
  | .combine operation group1 group2 newgroup =>
      (Grouping.both stored group1 group2).map fun groups => (none, Function.update stored
        newgroup (some (RankedGroup.combine operation groups.1 groups.2)))
  | .incl group ranks newgroup =>
      ((stored group).bind fun members => (chosenRanks ranks).bind members.incl).map fun made =>
        (none, Function.update stored newgroup (some made))
  | .excl group ranks newgroup =>
      ((stored group).bind fun members => (chosenRanks ranks).bind members.excl).map fun made =>
        (none, Function.update stored newgroup (some made))
  | .free group => (stored group).map fun _ => (none, Function.update stored group none)
  | .size group => (stored group).map fun members => (some members.members.length, stored)
  | .rank group => (stored group).map fun members =>
      (some (rankIn vapaaMpiUndefined members library.self), stored)
  | .compare group1 group2 => (Grouping.both stored group1 group2).map fun groups =>
      (some (vapaaCompareResult (groups.1.relation groups.2)), stored)
  | .commSize commF => (library.comm mpi commF).map fun comm =>
      (some comm.group.members.length, stored)
  | .commRank commF => (library.comm mpi commF).map fun comm =>
      (some (rankIn vapaaMpiUndefined comm.group library.self), stored)
  | .commCompare comm1F comm2F => (Grouping.both (library.comm mpi) comm1F comm2F).map fun comms =>
      (some (vapaaCompareResult (comms.1.relation comms.2)), stored)

/-- Converting a result in the wrong direction gives what the right one would give. -/
def GroupLibrary.ConvertsBack (result : GroupRelation) : Prop :=
  ∃ other, vapaaCompareResult other = library.results result ∧
    library.results other = vapaaCompareResult result

/-- A process asks for a rank that it has, and a comparison of groups is not spoilt. -/
def GroupCall.Trusted (stored : GroupVariables Process) : GroupCall → Prop
  | .rank group => ∀ members ∈ stored group, library.self ∈ members.members
  | .commRank commF => ∀ comm ∈ library.comm mpi commF, library.self ∈ comm.group.members
  | .compare group1 group2 => ∀ groups ∈ Grouping.both stored group1 group2,
      library.ConvertsBack (groups.1.relation groups.2)
  | _ => True

end Calls

/-- Variables have handles of the groups that they stand for, each a handle of its own, and the
library has its own handles to give. -/
structure GroupProgram.Represents {Process : Type} (mpi : Mpi) (own : Kind → Int → Prop)
    (program : GroupProgram Process) (stored : GroupVariables Process) : Prop where
  denotes : ∀ i, program.grouping.groups.object (cMpiGroupF2c mpi (program.held i)) = stored i
  below : ∀ i, cMpiGroupF2c mpi (program.held i) < program.grouping.groups.next
  apart : ∀ i j, stored i ≠ none →
    cMpiGroupF2c mpi (program.held i) = cMpiGroupF2c mpi (program.held j) → i = j
  null : program.grouping.groups.object (mpi.handle .groupNull) = none
  nullBelow : mpi.handle .groupNull < program.grouping.groups.next
  fresh : ∀ handle, program.grouping.groups.next ≤ handle → own .group handle

/-- A call does what it means, and tells the right number exactly where it can be trusted. -/
structure GroupProgram.Meets {Process : Type} (mpi : Mpi) (own : Kind → Int → Prop)
    (program : GroupProgram Process) (run : Run (GroupProgram Process) (Option Int × Int))
    (meant : Option (Option Int × GroupVariables Process)) (trusted : Prop) : Prop where
  returns : ∀ answer later, meant = some (answer, later) → trusted →
    ∃ next, run program = .returned ((answer, mpi.errorClass .success), next) ∧
      next.Represents mpi own later
  means : ∀ told next, run program = .returned ((told, mpi.errorClass .success), next) →
    ∃ answer later, meant = some (answer, later) ∧ next.Represents mpi own later ∧
      (told = answer → trusted)

section Steps

variable {Process : Type} {mpi : Mpi} {library : GroupLibrary Process}
variable {own : Kind → Int → Prop} {program : GroupProgram Process}
variable {stored : GroupVariables Process} {grouping : Grouping Process}
variable {group : RankedGroup Process} {newgroup : Nat}

theorem GroupProgram.Represents.created (convert : HandlesConvert mpi own)
    (represents : program.Represents mpi own stored) (world : World) :
    GroupProgram.Represents mpi own
      { grouping := { world := world, groups := program.grouping.groups.create group }
        held := Function.update program.held newgroup
          (mpi.c2f .group program.grouping.groups.next) }
      (Function.update stored newgroup (some group)) := by
  have denoted : cMpiGroupF2c mpi (mpi.c2f .group program.grouping.groups.next) =
      program.grouping.groups.next := convert.denotes (represents.fresh _ (le_refl _))
  have other (i : Nat) : cMpiGroupF2c mpi (program.held i) ≠ program.grouping.groups.next :=
    (represents.below i).ne
  constructor
  · intro i
    by_cases same : i = newgroup
    · subst same
      simp [InfoStore.create, denoted]
    · simp [InfoStore.create, same, other i, represents.denotes i]
  · intro i
    by_cases same : i = newgroup
    · subst same
      simp [InfoStore.create, denoted]
    · have before := represents.below i
      simp only [InfoStore.create, Function.update_of_ne same]
      omega
  · intro i j live equal
    by_cases first : i = newgroup
    · by_cases second : j = newgroup
      · rw [first, second]
      · subst first
        simp only [Function.update_self, Function.update_of_ne second, denoted] at equal
        exact absurd equal.symm (other j)
    · by_cases second : j = newgroup
      · subst second
        simp only [Function.update_self, Function.update_of_ne first, denoted] at equal
        exact absurd equal (other i)
      · simp only [Function.update_of_ne first, Function.update_of_ne second] at live equal
        exact represents.apart i j live equal
  · have below := represents.nullBelow
    simp [InfoStore.create, below.ne, represents.null]
  · exact represents.nullBelow.trans (Int.lt_succ _)
  · exact fun handle above => represents.fresh handle ((Int.lt_succ _).le.trans above)

theorem GroupProgram.Represents.removed (convert : HandlesConvert mpi own)
    (represents : program.Represents mpi own stored) (live : stored newgroup ≠ none)
    (world : World) :
    GroupProgram.Represents mpi own
      { grouping := { world := world, groups :=
          program.grouping.groups.remove (cMpiGroupF2c mpi (program.held newgroup)) }
        held := Function.update program.held newgroup (mpi.c2f .group (mpi.handle .groupNull)) }
      (Function.update stored newgroup none) := by
  have denoted : cMpiGroupF2c mpi (mpi.c2f .group (mpi.handle .groupNull)) =
      mpi.handle .groupNull :=
    convert.denotes (convert.predefined .group .groupNull (by decide) rfl)
  constructor
  · intro i
    by_cases same : i = newgroup
    · subst same
      simp [InfoStore.remove, denoted, represents.null]
    · have apart : cMpiGroupF2c mpi (program.held i) ≠
          cMpiGroupF2c mpi (program.held newgroup) :=
        fun equal => same (represents.apart newgroup i live equal.symm).symm
      simp [InfoStore.remove, same, apart, represents.denotes i]
  · intro i
    by_cases same : i = newgroup
    · subst same
      simpa [InfoStore.remove, denoted] using represents.nullBelow
    · simpa [InfoStore.remove, same] using represents.below i
  · intro i j lives equal
    by_cases first : i = newgroup
    · subst first
      simp at lives
    · simp only [Function.update_of_ne first] at lives equal
      by_cases second : j = newgroup
      · subst second
        rw [Function.update_self, denoted] at equal
        have dead := represents.denotes i
        rw [equal, represents.null] at dead
        exact absurd dead.symm lives
      · simp only [Function.update_of_ne second] at equal
        exact represents.apart i j lives equal
  · simp [InfoStore.remove, represents.null]
  · exact represents.nullBelow
  · exact represents.fresh

theorem GroupProgram.Represents.reported (represents : program.Represents mpi own stored)
    (world : World) : GroupProgram.Represents mpi own
      { program with grouping := { program.grouping with world := world } } stored :=
  ⟨represents.denotes, represents.below, represents.apart, represents.null, represents.nullBelow,
    represents.fresh⟩

private theorem errorClass_ne_success {errorClass : ErrorClass} (failure : errorClass ≠ .success) :
    mpi.errorClass errorClass ≠ mpi.errorClass .success := by
  rw [mpi.success_eq]
  exact mpi.failure_ne errorClass failure

private theorem handBack_failed (only : mpi.SuccessOnly) {errorClass : ErrorClass}
    (failure : errorClass ≠ .success) (kind : Kind) (handle : Int) (world : World) :
    Run.Ensures (handBack mpi kind (Grouping.replied mpi errorClass handle)) world
      fun result _ => result.2 ≠ mpi.errorClass .success :=
  (cMpiRcFix_failed only (errorClass_ne_success failure) world).bind fun _ _ failed =>
    Run.ensures_pure failed

/-- A call that is refused means nothing and does not succeed. -/
theorem GroupProgram.meets_of_refused {call : GroupRun Process (Option Int × Int)} {trusted : Prop}
    (fails : Run.Ensures call program.grouping fun result _ =>
      result.2 ≠ mpi.errorClass .success) :
    program.Meets mpi own (onGroups call) none trusted where
  returns := fun _ _ meant => nomatch meant
  means := by
    intro told next returned
    obtain ⟨after, inner, -⟩ := Run.zoom_eq_returned.mp returned
    exact absurd rfl (fails _ after inner)

theorem GroupProgram.makes_of_refused {call : GroupRun Process (Int × Int)} {trusted : Prop}
    (fails : Run.Ensures call program.grouping fun result _ =>
      result.2 ≠ mpi.errorClass .success) :
    program.Meets mpi own (makes newgroup call) none trusted where
  returns := fun _ _ meant => nomatch meant
  means := by
    intro told next returned
    obtain ⟨⟨newgroupF, ierror⟩, middle, called, ended⟩ := Run.bind_eq_returned.mp returned
    cases ended
    obtain ⟨after, inner, -⟩ := Run.zoom_eq_returned.mp called
    exact absurd rfl (fails _ after inner)

/-- A call that makes a group. -/
theorem GroupProgram.Represents.meets_made (convert : HandlesConvert mpi own)
    (only : mpi.SuccessOnly) (represents : program.Represents mpi own stored)
    {call : GroupRun Process (Int × Int)} {made : Option (RankedGroup Process)}
    {refused : ErrorClass} {warned : World} (failure : refused ≠ .success)
    (asks : call program.grouping =
      (Grouping.answer mpi made refused (mpi.handle .groupNull) >>= fun reply =>
        Grouping.onWorld (handBack mpi .group reply)) { program.grouping with world := warned }) :
    program.Meets mpi own (makes newgroup call)
      (made.map fun group => (none, Function.update stored newgroup (some group))) True := by
  cases made with
  | none =>
      have refusal : Grouping.answer mpi none refused (mpi.handle .groupNull)
          { program.grouping with world := warned } =
        .returned (Grouping.replied mpi refused (mpi.handle .groupNull),
          { program.grouping with world := warned }) := rfl
      apply GroupProgram.makes_of_refused
      intro result after called
      rw [asks, Run.bind_of_returned refusal] at called
      obtain ⟨world, back, -⟩ := Run.zoom_eq_returned.mp called
      exact handBack_failed only failure _ _ _ _ _ back
  | some group =>
      have called : call program.grouping = .returned
          ((mpi.c2f .group program.grouping.groups.next, mpi.errorClass .success),
            { world := warned, groups := program.grouping.groups.create group }) := by
        have answered : Grouping.answer mpi (some group) refused (mpi.handle .groupNull)
            { program.grouping with world := warned } =
          .returned (Grouping.replied mpi .success program.grouping.groups.next,
            { world := warned, groups := program.grouping.groups.create group }) := rfl
        rw [asks, Run.bind_of_returned answered]
        exact Run.zoom_of_returned (handBack_returned rfl)
      have ran : makes newgroup call program = .returned ((none, mpi.errorClass .success), _) :=
        Run.bind_of_returned (Run.zoom_of_returned called)
      have after := @GroupProgram.Represents.created _ _ _ _ _ group newgroup convert represents
        warned
      constructor
      · intro answer later meant _
        cases meant
        exact ⟨_, ran, after⟩
      · intro told next returned
        cases ran.symm.trans returned
        exact ⟨none, _, rfl, after, fun _ => trivial⟩

theorem GroupProgram.Represents.meets_free (convert : HandlesConvert mpi own)
    (only : mpi.SuccessOnly) (represents : program.Represents mpi own stored) :
    program.Meets mpi own (makes newgroup (Grouping.cMpiGroupFree mpi (program.held newgroup)))
      ((stored newgroup).map fun _ => (none, Function.update stored newgroup none)) True := by
  have denotes := represents.denotes newgroup
  cases known : stored newgroup with
  | none =>
      rw [known] at denotes
      have refusal : Grouping.mpiGroupFree mpi (cMpiGroupF2c mpi (program.held newgroup))
          program.grouping = .returned (Grouping.replied mpi .errGroup
            (cMpiGroupF2c mpi (program.held newgroup)), program.grouping) := by
        simp only [Grouping.mpiGroupFree, denotes]
      apply GroupProgram.makes_of_refused
      intro result after called
      rw [Grouping.cMpiGroupFree, Run.bind_of_returned refusal] at called
      obtain ⟨world, back, -⟩ := Run.zoom_eq_returned.mp called
      exact handBack_failed only (by decide) _ _ _ _ _ back
  | some group =>
      rw [known] at denotes
      have freed : Grouping.mpiGroupFree mpi (cMpiGroupF2c mpi (program.held newgroup))
          program.grouping = .returned (Grouping.replied mpi .success (mpi.handle .groupNull),
            { program.grouping with groups :=
                program.grouping.groups.remove (cMpiGroupF2c mpi (program.held newgroup)) }) := by
        simp only [Grouping.mpiGroupFree, denotes]
      have called : Grouping.cMpiGroupFree mpi (program.held newgroup) program.grouping =
          .returned ((mpi.c2f .group (mpi.handle .groupNull), mpi.errorClass .success),
            { program.grouping with groups :=
                program.grouping.groups.remove (cMpiGroupF2c mpi (program.held newgroup)) }) :=
        (Run.bind_of_returned freed).trans (Run.zoom_of_returned (handBack_returned rfl))
      have ran : makes newgroup (Grouping.cMpiGroupFree mpi (program.held newgroup)) program =
          .returned ((none, mpi.errorClass .success), _) :=
        Run.bind_of_returned (Run.zoom_of_returned called)
      have live : stored newgroup ≠ none := by simp [known]
      have after := represents.removed convert live program.grouping.world
      constructor
      · intro answer later meant _
        cases meant
        exact ⟨_, ran, after⟩
      · intro told next returned
        cases ran.symm.trans returned
        exact ⟨none, _, rfl, after, fun _ => trivial⟩

private theorem ask_refused {Object : Type} {refused : ErrorClass} (value : Object → Int) :
    Grouping.ask mpi none refused value grouping =
      .returned ((mpi.errorClass refused, none), grouping) := rfl

private theorem ask_answered {Object : Type} {refused : ErrorClass} (value : Object → Int)
    (object : Object) : Grouping.ask mpi (some object) refused value grouping =
      .returned ((mpi.errorClass .success, some (value object)), grouping) := rfl

/-- A call that asks for a number of something. -/
theorem GroupProgram.Represents.meets_query {Object : Type} (only : mpi.SuccessOnly)
    (represents : program.Represents mpi own stored) {object : Option Object}
    {call : GroupRun Process (Option Int × Int)} {refused : ErrorClass}
    {value intended : Object → Int} {trusted : Prop} (failure : refused ≠ .success)
    (asks : call program.grouping =
      Grouping.query mpi (Grouping.ask mpi object refused value) program.grouping)
    (trust : ∀ found, object = some found → (trusted ↔ value found = intended found)) :
    program.Meets mpi own (onGroups call)
      (object.map fun found => (some (intended found), stored)) trusted := by
  cases object with
  | none =>
      apply GroupProgram.meets_of_refused
      intro result after called
      rw [asks, Grouping.query, Run.bind_of_returned (ask_refused value)] at called
      obtain ⟨code, middle, fixed, ended⟩ := Run.bind_eq_returned.mp called
      cases ended
      obtain ⟨world, fixes, -⟩ := Run.zoom_eq_returned.mp fixed
      exact cMpiRcFix_failed only (errorClass_ne_success failure) _ _ _ fixes
  | some found =>
      have called : call program.grouping =
          .returned ((some (value found), mpi.errorClass .success), program.grouping) := by
        rw [asks, Grouping.query, Run.bind_of_returned (ask_answered value found)]
        exact Run.bind_of_returned (Run.zoom_of_returned (cMpiRcFix_success _))
      have ran : onGroups call program =
          .returned ((some (value found), mpi.errorClass .success), program) :=
        Run.zoom_of_returned called
      constructor
      · intro answer later meant trusts
        cases meant
        rw [(trust found rfl).mp trusts] at ran
        exact ⟨program, ran, represents⟩
      · intro told next returned
        cases ran.symm.trans returned
        exact ⟨_, _, rfl, represents, fun same => (trust found rfl).mpr (Option.some.inj same)⟩

/-- A call that compares two of something. -/
theorem GroupProgram.Represents.meets_comparison {Object : Type}
    (represents : program.Represents mpi own stored) {object : Option Object}
    {call : GroupRun Process (Option Int × Int)} {refused : ErrorClass}
    {value intended : Object → Int} {convert : Int → Call Int} {trusted : Prop}
    (asks : call program.grouping =
      Grouping.comparison mpi (Grouping.ask mpi object refused value) convert program.grouping)
    (keeps : ∀ levelC world, Run.Ensures (convert levelC) world fun _ final => final = world)
    (trust : ∀ found, object = some found → ∀ world,
      (trusted ↔ convert (value found) world = .returned (intended found, world))) :
    program.Meets mpi own (onGroups call)
      (object.map fun found => (some (intended found), stored)) trusted := by
  cases object with
  | none =>
      apply GroupProgram.meets_of_refused
      intro result after called
      rw [asks, Grouping.comparison, Run.bind_of_returned (ask_refused value)] at called
      cases called
  | some found =>
      have converts : call program.grouping =
          (Grouping.onWorld (convert (value found)) >>= fun resultF =>
            Grouping.onWorld (cMpiRcFix mpi (mpi.errorClass .success)) >>= fun code =>
              pure (some resultF, code)) program.grouping :=
        asks.trans (Run.bind_of_returned (ask_answered value found))
      constructor
      · intro answer later meant trusts
        cases meant
        have converted := (trust found rfl program.grouping.world).mp trusts
        have called : call program.grouping =
            .returned ((some (intended found), mpi.errorClass .success), program.grouping) := by
          rw [converts]
          refine (Run.bind_of_returned (Run.zoom_of_returned converted)).trans ?_
          exact Run.bind_of_returned (Run.zoom_of_returned (cMpiRcFix_success _))
        exact ⟨program, Run.zoom_of_returned called, represents⟩
      · intro told next returned
        obtain ⟨after, inner, rfl⟩ := Run.zoom_eq_returned.mp returned
        rw [converts] at inner
        obtain ⟨resultF, middle, converting, rest⟩ := Run.bind_eq_returned.mp inner
        obtain ⟨world, converted, rfl⟩ := Run.zoom_eq_returned.mp converting
        obtain rfl := keeps _ _ _ _ converted
        obtain ⟨code, last, fixed, ended⟩ := Run.bind_eq_returned.mp rest
        cases ended
        obtain ⟨final, -, rfl⟩ := Run.zoom_eq_returned.mp fixed
        refine ⟨_, _, rfl, represents.reported final, fun same => ?_⟩
        rw [Option.some.inj same] at converted
        exact (trust found rfl _).mpr converted

private theorem compareResults_complete (result : GroupRelation) :
    result ∈ Grouping.compareResults := by
  cases result <;> decide

private theorem vapaaCompareResult_injective : Function.Injective vapaaCompareResult := by
  intro first second same
  cases first <;> cases second <;> first | rfl | exact absurd same (by decide)

/-- The result whose number is converted is the one that is found. -/
theorem find?_compareResults {number : GroupRelation → Int} (distinct : Function.Injective number)
    (result : GroupRelation) :
    Grouping.compareResults.find? (fun other => number other = number result) = some result := by
  cases found : Grouping.compareResults.find? fun other => number other = number result with
  | none =>
      have different := List.find?_eq_none.mp found result (compareResults_complete result)
      simp at different
  | some other =>
      have same : number other = number result := by simpa using List.find?_some found
      rw [distinct same]

private theorem cMpiCompareResultC2f_eq (result : GroupRelation) (world : World) :
    Grouping.cMpiCompareResultC2f library (library.results result) world =
      .returned (vapaaCompareResult result, world) := by
  rw [Grouping.cMpiCompareResultC2f, find?_compareResults library.distinct]
  rfl

private theorem cMpiCompareResultF2c_iff (result : GroupRelation) (world : World) :
    library.ConvertsBack result ↔
      Grouping.cMpiCompareResultF2c library (library.results result) world =
        .returned (vapaaCompareResult result, world) := by
  constructor
  · rintro ⟨other, same, back⟩
    rw [Grouping.cMpiCompareResultF2c, ← same, find?_compareResults vapaaCompareResult_injective,
      ← back]
    rfl
  · intro converted
    rw [Grouping.cMpiCompareResultF2c] at converted
    cases found : Grouping.compareResults.find? fun other =>
        vapaaCompareResult other = library.results result with
    | none =>
        rw [found] at converted
        cases converted
    | some other =>
        rw [found] at converted
        have same : vapaaCompareResult other = library.results result := by
          simpa using List.find?_some found
        exact ⟨other, same, congrArg Prod.fst (Outcome.returned.inj converted)⟩

private theorem cMpiCompareResultF2c_keeps (levelF : Int) (world : World) :
    Run.Ensures (Grouping.cMpiCompareResultF2c library levelF) world
      fun _ final => final = world := by
  rw [Grouping.cMpiCompareResultF2c]
  cases Grouping.compareResults.find? fun result => vapaaCompareResult result = levelF with
  | none => exact Run.ensures_of_aborted rfl
  | some result => exact Run.ensures_pure rfl

private theorem cMpiCompareResultC2f_keeps (levelC : Int) (world : World) :
    Run.Ensures (Grouping.cMpiCompareResultC2f library levelC) world
      fun _ final => final = world := by
  rw [Grouping.cMpiCompareResultC2f]
  cases Grouping.compareResults.find? fun result => library.results result = levelC with
  | none => exact Run.ensures_of_aborted rfl
  | some result => exact Run.ensures_pure rfl

private theorem rankIn_eq_iff [DecidableEq Process]
    (undefined_ne : library.undefined ≠ vapaaMpiUndefined)
    (members : RankedGroup Process) :
    library.self ∈ members.members ↔
      rankIn library.undefined members library.self =
        rankIn vapaaMpiUndefined members library.self := by
  cases ranked : members.rank library.self with
  | none =>
      simp [rankIn, ranked, undefined_ne, RankedGroup.rank_eq_none_iff.mp ranked]
  | some rank =>
      have member : library.self ∈ members.members := by
        by_contra outside
        rw [RankedGroup.rank_eq_none_iff.mpr outside] at ranked
        cases ranked
      simp [rankIn, ranked, member]

theorem GroupProgram.Represents.both (represents : program.Represents mpi own stored)
    (group1 group2 : Nat) :
    Grouping.both program.grouping.groups.object (cMpiGroupF2c mpi (program.held group1))
        (cMpiGroupF2c mpi (program.held group2)) = Grouping.both stored group1 group2 := by
  rw [Grouping.both, Grouping.both, represents.denotes, represents.denotes]

/-- The line that is written for a long vector is all that comes before. -/
theorem warnOfLength_then {α : Type} (name : String) (n : Int) (grouping : Grouping Process)
    (call : GroupRun Process α) :
    ∃ warned, (Grouping.onWorld (Grouping.warnOfLength name n) >>= fun _ => call) grouping =
      call { grouping with world := warned } := by
  by_cases long : 500 < n
  · have written : Grouping.warnOfLength name n grouping.world = .returned ((),
        { grouping.world with warnings := grouping.world.warnings ++
          [s!"{name}: vector of {i6 n} elements may cause segfault due to stack overflow\n"] }) := by
      rw [Grouping.warnOfLength, if_pos long]
      rfl
    exact ⟨_, Run.bind_of_returned (Run.zoom_of_returned written)⟩
  · have silent : Grouping.warnOfLength name n grouping.world = .returned ((), grouping.world) := by
      rw [Grouping.warnOfLength, if_neg long]
      rfl
    exact ⟨grouping.world, Run.bind_of_returned (Run.zoom_of_returned silent)⟩

theorem GroupProgram.Meets.of_eq {run same : Run (GroupProgram Process) (Option Int × Int)}
    {meant : Option (Option Int × GroupVariables Process)} {trusted : Prop}
    (meets : program.Meets mpi own run meant trusted) (equal : same program = run program) :
    program.Meets mpi own same meant trusted := by
  constructor
  · rw [equal]
    exact meets.returns
  · rw [equal]
    exact meets.means

/-- Both routines that choose members by their ranks. -/
theorem GroupProgram.Represents.meets_chosen (convert : HandlesConvert mpi own)
    (only : mpi.SuccessOnly) (represents : program.Represents mpi own stored)
    (choose : RankedGroup Process → List Nat → Option (RankedGroup Process)) (name : String)
    (chosen : Nat) (ranks : List Int) :
    program.Meets mpi own (makes newgroup (do
        Grouping.onWorld (Grouping.warnOfLength name ranks.length)
        Grouping.cChoose mpi choose (program.held chosen) ranks))
      (((stored chosen).bind fun members => (chosenRanks ranks).bind (choose members)).map
        fun made => (none, Function.update stored newgroup (some made))) True := by
  obtain ⟨warned, warns⟩ := warnOfLength_then name ranks.length program.grouping
    (Grouping.cChoose mpi choose (program.held chosen) ranks)
  have denotes := represents.denotes chosen
  cases known : stored chosen with
  | none =>
      rw [known] at denotes
      have failure : ErrorClass.errGroup ≠ .success := by decide
      apply represents.meets_made convert only failure
      rw [warns, Grouping.cChoose, Run.bind_apply, Grouping.mpiGroupChoose, denotes]
      rfl
  | some members =>
      rw [known] at denotes
      have failure : ErrorClass.errRank ≠ .success := by decide
      apply represents.meets_made convert only failure
      rw [warns, Grouping.cChoose, Run.bind_apply, Grouping.mpiGroupChoose, denotes]
      rfl

variable [DecidableEq Process]

/-- A call does what it means. -/
theorem GroupCall.meets (convert : HandlesConvert mpi own) (only : mpi.SuccessOnly)
    (undefined_ne : library.undefined ≠ vapaaMpiUndefined)
    (represents : program.Represents mpi own stored) (call : GroupCall) :
    program.Meets mpi own (call.run mpi library) (call.means mpi library stored)
      (call.Trusted mpi library stored) := by
  have refusedGroup : ErrorClass.errGroup ≠ .success := by decide
  have refusedComm : ErrorClass.errComm ≠ .success := by decide
  cases call with
  | commGroup commF newgroup =>
      have meets := @GroupProgram.Represents.meets_made _ mpi own program stored newgroup convert
        only represents (Grouping.cMpiCommGroup mpi library commF)
        ((library.comm mpi commF).map Communicator.group) .errComm program.grouping.world
        refusedComm rfl
      rw [Option.map_map] at meets
      exact meets.of_eq rfl
  | combine operation group1 group2 newgroup =>
      have meets := @GroupProgram.Represents.meets_made _ mpi own program stored newgroup convert
        only represents (Grouping.cCombine mpi operation (program.held group1)
          (program.held group2)) _ .errGroup program.grouping.world refusedGroup rfl
      rw [represents.both, Option.map_map] at meets
      cases operation with
      | union => exact meets.of_eq rfl
      | intersection => exact meets.of_eq rfl
      | difference => exact meets.of_eq rfl
  | incl group ranks newgroup =>
      exact (represents.meets_chosen convert only _ _ group ranks).of_eq rfl
  | excl group ranks newgroup =>
      exact (represents.meets_chosen convert only _ _ group ranks).of_eq rfl
  | free group => exact (represents.meets_free convert only).of_eq rfl
  | size group =>
      have asks : Grouping.cMpiGroupSize mpi (program.held group) program.grouping =
          Grouping.query mpi (Grouping.ask mpi (stored group) .errGroup
            fun members => members.members.length) program.grouping := by
        rw [← represents.denotes]
        rfl
      exact (represents.meets_query only refusedGroup asks fun _ _ =>
        iff_of_true trivial rfl).of_eq rfl
  | rank group =>
      have asks : Grouping.cMpiGroupRank mpi library (program.held group) program.grouping =
          Grouping.query mpi (Grouping.ask mpi (stored group) .errGroup
            fun members => rankIn library.undefined members library.self) program.grouping := by
        rw [← represents.denotes]
        rfl
      have trust : ∀ members, stored group = some members →
          (GroupCall.Trusted mpi library stored (.rank group) ↔
            rankIn library.undefined members library.self =
              rankIn vapaaMpiUndefined members library.self) := by
        intro members known
        rw [← rankIn_eq_iff undefined_ne, GroupCall.Trusted, known]
        simp
      exact (represents.meets_query only refusedGroup asks trust).of_eq rfl
  | compare group1 group2 =>
      have asks : Grouping.cMpiGroupCompare mpi library (program.held group1)
          (program.held group2) program.grouping =
          Grouping.comparison mpi (Grouping.ask mpi (Grouping.both stored group1 group2) .errGroup
            fun groups => library.results (groups.1.relation groups.2))
            (Grouping.cMpiCompareResultF2c library) program.grouping := by
        rw [← represents.both]
        rfl
      have trust : ∀ groups, Grouping.both stored group1 group2 = some groups → ∀ world,
          (GroupCall.Trusted mpi library stored (.compare group1 group2) ↔
            Grouping.cMpiCompareResultF2c library
              (library.results (groups.1.relation groups.2)) world =
                .returned (vapaaCompareResult (groups.1.relation groups.2), world)) := by
        intro groups known world
        rw [← cMpiCompareResultF2c_iff, GroupCall.Trusted, known]
        simp
      exact (represents.meets_comparison asks cMpiCompareResultF2c_keeps trust).of_eq rfl
  | commSize commF =>
      exact (represents.meets_query only refusedComm rfl fun _ _ => iff_of_true trivial rfl).of_eq
        rfl
  | commRank commF =>
      have trust : ∀ comm, library.comm mpi commF = some comm →
          (GroupCall.Trusted mpi library stored (.commRank commF) ↔
            rankIn library.undefined comm.group library.self =
              rankIn vapaaMpiUndefined comm.group library.self) := by
        intro comm known
        rw [← rankIn_eq_iff undefined_ne, GroupCall.Trusted, known]
        simp
      exact (represents.meets_query only refusedComm rfl trust).of_eq rfl
  | commCompare comm1F comm2F =>
      have trust : ∀ comms, Grouping.both (library.comm mpi) comm1F comm2F = some comms →
          ∀ world, (True ↔ Grouping.cMpiCompareResultC2f library
            (library.results (comms.1.relation comms.2)) world =
              .returned (vapaaCompareResult (comms.1.relation comms.2), world)) :=
        fun comms _ world => iff_of_true trivial (cMpiCompareResultC2f_eq _ world)
      exact (represents.meets_comparison rfl cMpiCompareResultC2f_keeps trust).of_eq rfl

end Steps

section Runs

variable {Process : Type} [DecidableEq Process] (mpi : Mpi) (library : GroupLibrary Process)

/-- Calls that all succeed, with the numbers that they tell. -/
inductive GroupProgram.Runs :
    GroupProgram Process → List GroupCall → List (Option Int) → GroupProgram Process → Prop where
  | nil (program : GroupProgram Process) : GroupProgram.Runs program [] [] program
  | cons {program next final : GroupProgram Process} {call : GroupCall} {calls : List GroupCall}
      {told : Option Int} {others : List (Option Int)}
      (ran : call.run mpi library program = .returned ((told, mpi.errorClass .success), next))
      (rest : GroupProgram.Runs next calls others final) :
      GroupProgram.Runs program (call :: calls) (told :: others) final

/-- What calls mean one after the other. -/
def meansAll (stored : GroupVariables Process) :
    List GroupCall → Option (List (Option Int) × GroupVariables Process)
  | [] => some ([], stored)
  | call :: calls => do
    let (answer, between) ← call.means mpi library stored
    let (answers, later) ← meansAll between calls
    return (answer :: answers, later)

/-- Every call can be trusted where it is reached. -/
def TrustedAll (stored : GroupVariables Process) : List GroupCall → Prop
  | [] => True
  | call :: calls => call.Trusted mpi library stored ∧
      ∀ meant ∈ call.means mpi library stored, TrustedAll meant.2 calls

end Runs

section Programs

variable {Process : Type} [DecidableEq Process] {mpi : Mpi} {library : GroupLibrary Process}
variable {own : Kind → Int → Prop} {program : GroupProgram Process}
variable {stored : GroupVariables Process}

private theorem meansAll_cons {call : GroupCall} {calls : List GroupCall}
    {answers : List (Option Int)}
    {later : GroupVariables Process} :
    meansAll mpi library stored (call :: calls) = some (answers, later) ↔
      ∃ answer between others, call.means mpi library stored = some (answer, between) ∧
        meansAll mpi library between calls = some (others, later) ∧ answers = answer :: others := by
  constructor
  · intro meant
    obtain ⟨⟨answer, between⟩, first, rest⟩ := Option.bind_eq_some_iff.mp meant
    obtain ⟨⟨others, final⟩, second, ended⟩ := Option.bind_eq_some_iff.mp rest
    cases ended
    exact ⟨answer, between, others, first, second, rfl⟩
  · rintro ⟨answer, between, others, first, second, rfl⟩
    exact Option.bind_eq_some_iff.mpr ⟨(answer, between), first,
      Option.bind_eq_some_iff.mpr ⟨(others, later), second, rfl⟩⟩

/-- The groups that calls of a program leave are those that the calls mean. -/
theorem GroupProgram.Runs.meant (convert : HandlesConvert mpi own) (only : mpi.SuccessOnly)
    (undefined_ne : library.undefined ≠ vapaaMpiUndefined) {final : GroupProgram Process}
    {calls : List GroupCall} {told : List (Option Int)}
    (runs : GroupProgram.Runs mpi library program calls told final)
    (represents : program.Represents mpi own stored) :
    ∃ answers later, meansAll mpi library stored calls = some (answers, later) ∧
      final.Represents mpi own later ∧ (told = answers → TrustedAll mpi library stored calls) := by
  induction runs generalizing stored with
  | nil program => exact ⟨[], stored, rfl, represents, fun _ => trivial⟩
  | cons ran rest ih =>
      obtain ⟨answer, between, meant, after, trusted⟩ :=
        (GroupCall.meets convert only undefined_ne represents _).means _ _ ran
      obtain ⟨answers, later, meantRest, ends, trustedRest⟩ := ih after
      refine ⟨answer :: answers, later, ?_, ends, ?_⟩
      · exact meansAll_cons.mpr ⟨answer, between, answers, meant, meantRest, rfl⟩
      · intro same
        obtain ⟨head, tail⟩ := List.cons.inj same
        refine ⟨trusted head, fun known reached => ?_⟩
        cases meant.symm.trans reached
        exact trustedRest tail

theorem GroupProgram.Represents.runs (convert : HandlesConvert mpi own) (only : mpi.SuccessOnly)
    (undefined_ne : library.undefined ≠ vapaaMpiUndefined) {calls : List GroupCall}
    {answers : List (Option Int)} {later : GroupVariables Process}
    (represents : program.Represents mpi own stored)
    (meant : meansAll mpi library stored calls = some (answers, later))
    (trusted : TrustedAll mpi library stored calls) :
    ∃ final, GroupProgram.Runs mpi library program calls answers final ∧
      final.Represents mpi own later := by
  induction calls generalizing program stored answers with
  | nil =>
      cases meant
      exact ⟨program, .nil program, represents⟩
  | cons call calls ih =>
      obtain ⟨answer, between, others, first, rest, rfl⟩ := meansAll_cons.mp meant
      obtain ⟨next, ran, after⟩ :=
        (GroupCall.meets convert only undefined_ne represents call).returns _ _ first trusted.1
      obtain ⟨final, runs, ends⟩ := ih after rest (trusted.2 _ first)
      exact ⟨final, .cons ran runs, ends⟩

/-- Programs on groups leave the groups that their calls mean, and tell the right numbers exactly
where every call can be trusted. -/
theorem groupPrograms_run (convert : HandlesConvert mpi own) (only : mpi.SuccessOnly)
    (undefined_ne : library.undefined ≠ vapaaMpiUndefined)
    (represents : program.Represents mpi own stored) (calls : List GroupCall) :
    (∀ told final, GroupProgram.Runs mpi library program calls told final →
      ∃ answers later, meansAll mpi library stored calls = some (answers, later) ∧
        final.Represents mpi own later) ∧
    ∀ answers later, meansAll mpi library stored calls = some (answers, later) →
      ((∃ final, GroupProgram.Runs mpi library program calls answers final ∧
        final.Represents mpi own later) ↔ TrustedAll mpi library stored calls) := by
  constructor
  · intro told final runs
    obtain ⟨answers, later, meant, ends, -⟩ := runs.meant convert only undefined_ne represents
    exact ⟨answers, later, meant, ends⟩
  · intro answers later meant
    constructor
    · rintro ⟨final, runs, -⟩
      obtain ⟨others, last, same, -, trusted⟩ := runs.meant convert only undefined_ne represents
      cases meant.symm.trans same
      exact trusted rfl
    · exact represents.runs convert only undefined_ne meant

end Programs

section Trees

variable {known : Nat}

/-- The variable that has the group of a tree, when variables from `fresh` on are made. -/
def treeVariable (fresh : Nat) : GroupTree (Fin known) → Nat
  | .leaf name => name
  | .node _ left right => fresh + left.size + right.size

/-- Every operation is a call that makes a variable of its own. -/
def treeCalls (fresh : Nat) : GroupTree (Fin known) → List GroupCall
  | .leaf _ => []
  | .node operation left right =>
      treeCalls fresh left ++ treeCalls (fresh + left.size) right ++
        [.combine operation (treeVariable fresh left) (treeVariable (fresh + left.size) right)
          (fresh + left.size + right.size)]

/-- Makes the groups of two trees, compares them and frees what was made. -/
def compareTrees (left right : GroupTree (Fin known)) : List GroupCall :=
  treeCalls known left ++ treeCalls (known + left.size) right ++
    .compare (treeVariable known left) (treeVariable (known + left.size) right) ::
      (List.range' known (left.size + right.size)).map GroupCall.free

end Trees

section TreeProofs

variable {Process : Type} [DecidableEq Process] {mpi : Mpi} {library : GroupLibrary Process}
variable {own : Kind → Int → Prop} {program : GroupProgram Process}
variable {stored between later : GroupVariables Process} {known fresh : Nat}
variable {answers others : List (Option Int)} {calls rest : List GroupCall}
variable {groups : Fin known → RankedGroup Process} {tree left right : GroupTree (Fin known)}

/-- Calls mean these answers and groups, and can be trusted. -/
structure CallsDo (mpi : Mpi) (library : GroupLibrary Process) (stored : GroupVariables Process)
    (calls : List GroupCall) (answers : List (Option Int)) (later : GroupVariables Process) :
    Prop where
  means : meansAll mpi library stored calls = some (answers, later)
  trusted : TrustedAll mpi library stored calls

private theorem callsDo_nil : CallsDo mpi library stored [] [] stored := ⟨rfl, trivial⟩

private theorem callsDo_cons {call : GroupCall} {answer : Option Int}
    (first : call.means mpi library stored = some (answer, between))
    (trusted : call.Trusted mpi library stored)
    (others : CallsDo mpi library between calls answers later) :
    CallsDo mpi library stored (call :: calls) (answer :: answers) later := by
  constructor
  · exact meansAll_cons.mpr ⟨answer, between, answers, first, others.means, rfl⟩
  · refine ⟨trusted, fun meant reached => ?_⟩
    cases first.symm.trans reached
    exact others.trusted

theorem CallsDo.append (first : CallsDo mpi library stored calls answers between)
    (second : CallsDo mpi library between rest others later) :
    CallsDo mpi library stored (calls ++ rest) (answers ++ others) later := by
  induction calls generalizing stored answers with
  | nil =>
      cases first.means
      exact second
  | cons call calls ih =>
      obtain ⟨answer, next, remaining, meant, means, rfl⟩ := meansAll_cons.mp first.means
      exact callsDo_cons meant first.trusted.1 (ih ⟨means, first.trusted.2 _ meant⟩)

private theorem treeVariable_lt (below : known ≤ fresh) :
    treeVariable fresh tree < fresh + tree.size := by
  cases tree with
  | leaf name => exact name.isLt.trans_le below
  | node operation left right =>
      rw [treeVariable, GroupTree.size]
      omega

/-- The calls of a tree make its group, and change only variables of their own. -/
theorem treeCalls_do (below : known ≤ fresh) (names : ∀ name : Fin known,
      stored name = some (groups name)) :
    ∃ later, CallsDo mpi library stored (treeCalls fresh tree)
        (List.replicate tree.size none) later ∧
      later (treeVariable fresh tree) = some (tree.group groups) ∧
      (∀ i, i < fresh ∨ fresh + tree.size ≤ i → later i = stored i) ∧
      ∀ i, fresh ≤ i → i < fresh + tree.size → later i ≠ none := by
  induction tree generalizing fresh stored with
  | leaf name =>
      refine ⟨stored, callsDo_nil, names name, fun _ _ => rfl, fun i least most => ?_⟩
      exact absurd most least.not_gt
  | node operation left right leftIH rightIH =>
      obtain ⟨middle, doLeft, madeLeft, keptLeft, liveLeft⟩ := leftIH below names
      have reachedNames (name : Fin known) : middle name = some (groups name) := by
        rw [keptLeft name (.inl (name.isLt.trans_le below)), names]
      obtain ⟨last, doRight, madeRight, keptRight, liveRight⟩ :=
        rightIH (below.trans (Nat.le_add_right fresh left.size)) reachedNames
      have stillLeft : last (treeVariable fresh left) = some (left.group groups) := by
        rw [keptRight _ (.inl (treeVariable_lt below)), madeLeft]
      have combined : GroupCall.means mpi library last
          (.combine operation (treeVariable fresh left) (treeVariable (fresh + left.size) right)
            (fresh + left.size + right.size)) =
          some (none, Function.update last (fresh + left.size + right.size)
            (some (RankedGroup.combine operation (left.group groups) (right.group groups)))) := by
        rw [GroupCall.means, Grouping.both, stillLeft, madeRight]
        rfl
      have count : List.replicate left.size none ++ List.replicate right.size none ++ [none] =
          List.replicate (GroupTree.node operation left right).size (none : Option Int) := by
        rw [List.replicate_append_replicate, GroupTree.size, List.replicate_succ']
      have doNode := (doLeft.append doRight).append (callsDo_cons combined trivial callsDo_nil)
      rw [count] at doNode
      refine ⟨_, doNode, Function.update_self _ _ _, fun i outside => ?_, fun i least most => ?_⟩
      · rw [GroupTree.size] at outside
        rw [Function.update_of_ne (by omega), keptRight i (by omega), keptLeft i (by omega)]
      · rw [GroupTree.size] at most
        by_cases made : i = fresh + left.size + right.size
        · simp [made]
        · rw [Function.update_of_ne made]
          by_cases inRight : fresh + left.size ≤ i
          · exact liveRight i inRight (by omega)
          · rw [keptRight i (by omega)]
            exact liveLeft i least (by omega)

/-- Freeing variables that have groups. -/
theorem frees_do {start count : Nat}
    (live : ∀ i, start ≤ i → i < start + count → stored i ≠ none) :
    CallsDo mpi library stored ((List.range' start count).map GroupCall.free)
      (List.replicate count none)
      fun i => if start ≤ i ∧ i < start + count then none else stored i := by
  induction count generalizing start stored with
  | zero =>
      have same : (fun i => if start ≤ i ∧ i < start + 0 then none else stored i) = stored := by
        funext i
        exact if_neg (by omega)
      rw [same]
      exact callsDo_nil
  | succ count ih =>
      obtain ⟨members, found⟩ := Option.ne_none_iff_exists'.mp (live start (le_refl _) (by omega))
      have freed : GroupCall.means mpi library stored (.free start) =
          some (none, Function.update stored start none) := by
        rw [GroupCall.means, found]
        rfl
      have others : ∀ i, start + 1 ≤ i → i < start + 1 + count →
          Function.update stored start none i ≠ none := by
        intro i least most
        rw [Function.update_of_ne (by omega)]
        exact live i (by omega) (by omega)
      have same : (fun i => if start ≤ i ∧ i < start + (count + 1) then none else stored i) =
          fun i => if start + 1 ≤ i ∧ i < start + 1 + count then none
            else Function.update stored start none i := by
        funext i
        by_cases first : i = start
        · simp [first]
        · rw [Function.update_of_ne first]
          exact if_congr (by omega) rfl rfl
      rw [same, List.range'_succ]
      exact callsDo_cons freed trivial (ih others)

/-- Two expressions on groups whose values are made, compared and freed by calls are found unequal
exactly where they stand for different sets, and nothing is left of them. -/
theorem groupTrees_compare (convert : HandlesConvert mpi own) (only : mpi.SuccessOnly)
    (undefined_ne : library.undefined ≠ vapaaMpiUndefined)
    (back : ∀ result, library.ConvertsBack result)
    (represents : program.Represents mpi own stored)
    (names : ∀ name : Fin known, stored name = some (groups name))
    (unused : ∀ i, known ≤ i → stored i = none) :
    ∃ result final, GroupProgram.Runs mpi library program (compareTrees left right)
        (List.replicate (left.size + right.size) none ++
          some result :: List.replicate (left.size + right.size) none) final ∧
      final.Represents mpi own stored ∧
      (result = vapaaCompareResult .unequal ↔
        left.processes (fun name => { process | process ∈ (groups name).members }) ≠
          right.processes fun name => { process | process ∈ (groups name).members }) := by
  obtain ⟨middle, doLeft, madeLeft, keptLeft, liveLeft⟩ :=
    @treeCalls_do _ _ mpi library stored known known groups left (le_refl known) names
  have reachedNames (name : Fin known) : middle name = some (groups name) := by
    rw [keptLeft name (.inl name.isLt), names]
  obtain ⟨last, doRight, madeRight, keptRight, liveRight⟩ :=
    @treeCalls_do _ _ mpi library middle known (known + left.size) groups right
      (Nat.le_add_right known left.size) reachedNames
  have stillLeft : last (treeVariable known left) = some (left.group groups) := by
    rw [keptRight _ (.inl (treeVariable_lt (le_refl known))), madeLeft]
  have compared : GroupCall.means mpi library last (.compare (treeVariable known left)
      (treeVariable (known + left.size) right)) =
      some (some (vapaaCompareResult ((left.group groups).relation (right.group groups))),
        last) := by
    rw [GroupCall.means, Grouping.both, stillLeft, madeRight]
    rfl
  have live : ∀ i, known ≤ i → i < known + (left.size + right.size) → last i ≠ none := by
    intro i least most
    by_cases inRight : known + left.size ≤ i
    · exact liveRight i inRight (by omega)
    · rw [keptRight i (by omega)]
      exact liveLeft i least (by omega)
  have restored : (fun i => if known ≤ i ∧ i < known + (left.size + right.size) then none
      else last i) = stored := by
    funext i
    by_cases made : known ≤ i ∧ i < known + (left.size + right.size)
    · rw [if_pos made, unused i made.1]
    · rw [if_neg made, keptRight i (by omega), keptLeft i (by omega)]
  have frees := @frees_do _ _ mpi library last known (left.size + right.size) live
  rw [restored] at frees
  have does := (doLeft.append doRight).append
    (callsDo_cons compared (fun groups _ => back _) frees)
  rw [List.replicate_append_replicate] at does
  obtain ⟨final, runs, ends⟩ :=
    represents.runs convert only undefined_ne does.means does.trusted
  refine ⟨_, final, runs, ends, ?_⟩
  rw [vapaaCompareResult_injective.eq_iff, GroupTree.relation_eq_unequal_iff]

end TreeProofs

section Examples

def allThree : RankedGroup Nat where
  members := [0, 1, 2]
  distinct := @List.nodup_range 3

private theorem lastAndFirst_distinct : ([2, 0] : List Nat).Nodup := by decide

def lastAndFirst : RankedGroup Nat where
  members := [2, 0]
  distinct := lastAndFirst_distinct

/-- Three processes, seen by the first. -/
def threeProcesses : GroupLibrary Nat where
  comms := fun comm =>
    if comm = Mpich.handle .commWorld then some { context := 0, group := allThree } else none
  self := 0
  undefined := -32766
  results := vapaaCompareResult
  distinct := vapaaCompareResult_injective

def noGroups : InfoStore (RankedGroup Nat) where
  object := fun _ => none
  next := 2000000000
  free := fun _ _ => rfl

def nullGroups : GroupProgram Nat where
  grouping := { world := startWorld, groups := noGroups }
  held := fun _ => Mpich.handle .groupNull

private theorem nullGroups_represents :
    nullGroups.Represents mpich (fun _ handle => 0 ≤ handle) fun _ => none := by
  constructor
  · exact fun _ => rfl
  · intro i
    change cMpiGroupF2c mpich (Mpich.handle .groupNull) < 2000000000
    decide
  · exact fun _ _ live => absurd rfl live
  · rfl
  · change mpich.handle .groupNull < 2000000000
    decide
  · intro handle above
    change 2000000000 ≤ handle at above
    omega

private theorem threeProcesses_undefined : threeProcesses.undefined ≠ vapaaMpiUndefined := by decide

private theorem threeProcesses_convertsBack (result : GroupRelation) :
    threeProcesses.ConvertsBack result := ⟨result, rfl, rfl⟩

def someCalls : List GroupCall :=
  [.commGroup Predefined.commWorld.vapaa 0, .incl 0 [2, 0] 1, .combine .difference 0 1 2,
    .compare 0 1, .rank 1, .free 0]

theorem groupPrograms_run_world : ∃ final later,
    GroupProgram.Runs mpich threeProcesses nullGroups someCalls
      [none, none, none, some 3, some 1, none] final ∧
      final.Represents mpich (fun _ handle => 0 ≤ handle) later := by
  have ranked : ∀ members ∈ some lastAndFirst,
      threeProcesses.self ∈ members.members := by
    intro members found
    cases found
    decide
  have does : ∃ later, CallsDo mpich threeProcesses (fun _ => none) someCalls
      [none, none, none, some 3, some 1, none] later :=
    ⟨_, callsDo_cons rfl trivial (callsDo_cons rfl trivial (callsDo_cons rfl trivial
      (callsDo_cons rfl (fun _ _ => threeProcesses_convertsBack _) (callsDo_cons rfl ranked
        (callsDo_cons rfl trivial callsDo_nil)))))⟩
  obtain ⟨later, does⟩ := does
  obtain ⟨final, runs, ends⟩ := ((groupPrograms_run mpich_handlesConvert
    (fun _ same => Option.some.inj same) threeProcesses_undefined nullGroups_represents
    someCalls).2 _ _ does.means).mpr does.trusted
  exact ⟨final, later, runs, ends⟩

def twoGroups (name : Fin 2) : RankedGroup Nat :=
  if name.val = 0 then allThree else lastAndFirst

def firstName : Fin 2 := ⟨0, Nat.zero_lt_two⟩

def secondName : Fin 2 := ⟨1, Nat.one_lt_two⟩

/-- Two variables have groups. -/
def groupsMade : GroupProgram Nat where
  grouping := { world := startWorld, groups := (noGroups.create allThree).create lastAndFirst }
  held := Function.update (Function.update nullGroups.held 0 2000000000) 1 2000000001

def twoStored : GroupVariables Nat :=
  Function.update (Function.update (fun _ => none) 0 (some allThree)) 1 (some lastAndFirst)

private theorem groupsMade_represents :
    groupsMade.Represents mpich (fun _ handle => 0 ≤ handle) twoStored := by
  have first := @GroupProgram.Represents.created _ mpich _ nullGroups _ allThree 0
    mpich_handlesConvert nullGroups_represents startWorld
  exact first.created mpich_handlesConvert startWorld

/-- What is in the difference or in the intersection with a group is all that there was. -/
theorem groupTrees_compare_parts : ∃ result final,
    GroupProgram.Runs mpich threeProcesses groupsMade
      (compareTrees (.node .union (.node .difference (.leaf firstName) (.leaf secondName))
        (.node .intersection (.leaf firstName) (.leaf secondName))) (.leaf firstName))
      [none, none, none, some result, none, none, none] final ∧
      final.Represents mpich (fun _ handle => 0 ≤ handle) twoStored ∧
      result ≠ vapaaCompareResult .unequal := by
  have names : ∀ name : Fin 2, twoStored name = some (twoGroups name) :=
    Fin.forall_fin_two.mpr ⟨rfl, rfl⟩
  have unused (i : Nat) (above : 2 ≤ i) : twoStored i = none := by
    rw [twoStored, Function.update_of_ne (by omega), Function.update_of_ne (by omega)]
  obtain ⟨result, final, runs, ends, unequal⟩ := groupTrees_compare mpich_handlesConvert
    (fun _ same => Option.some.inj same) threeProcesses_undefined threeProcesses_convertsBack
    groupsMade_represents names unused
  refine ⟨result, final, runs, ends, fun same => unequal.mp same ?_⟩
  exact Set.sdiff_union_inter _ _

end Examples

end Vapaa
