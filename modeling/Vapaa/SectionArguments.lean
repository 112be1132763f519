import Vapaa.Collectives
import Vapaa.NamedSections
import Vapaa.UnmappedSections

/-!
# Sections as arguments

What the wrappers pass to the library for a section: the elements as they lie, or
one element of a datatype that the builder makes for the call.
-/

set_option autoImplicit false

namespace Vapaa

open Foundation Builder

section Arguments

/-- The predefined datatypes that the builder uses. -/
structure TypeStore.Basic (mpi : Mpi) (types : TypeStore) : Prop where
  elements : ∀ type element, mappedType mpi type = some element →
    ∃ old, types.object element = some old ∧ old.layout.Solid old.layout.size
  null : types.object (mpi.datatype .datatypeNull) = none
  nullBelow : mpi.datatype .datatypeNull < types.next

/-- Whether array arguments come as addresses or as descriptors. -/
inductive Interface where
  | addresses
  | descriptors
  deriving DecidableEq

/-- A named datatype whose bytes fill a given length. -/
def TypeStore.Fills (types : TypeStore) (datatype : Int) (length : Nat) : Prop :=
  ∃ object, types.object datatype = some object ∧ object.combiner = .named ∧
    object.committed = true ∧ object.layout.Solid length

namespace CDesc

/-- The first elements lie behind each other. -/
def Consecutive (desc : CDesc) (count : Nat) : Prop :=
  ∀ n, n < count → desc.displacement n = n * desc.elemLen

instance (desc : CDesc) (count : Nat) : Decidable (desc.Consecutive count) :=
  inferInstanceAs (Decidable (∀ n, n < count → _))

/-- Byte addresses of the first elements, in array element order. -/
def elementBytes (desc : CDesc) (count : Nat) : List Int :=
  ((List.range count).map desc.address).flatMap fun address => span address desc.elemLen

/-- An argument of a call: a section with a named datatype that matches its elements.
What the compiler calls contiguous lies consecutively, as far as the call reaches. -/
structure Matches (mpi : Mpi) (types : TypeStore) (desc : CDesc) (datatype : Int)
    (reach : Nat) : Prop where
  wellFormed : desc.WellFormed
  positive : 0 < desc.elemLen
  lengthFits : (desc.elemLen : Int) ≤ intMax
  fills : types.Fills datatype desc.elemLen
  consecutive : mpi.cfiIsContiguous desc = 1 → desc.Consecutive reach

/-- The builder creates a datatype for the first elements. -/
def Accepted (mpi : Mpi) (types : TypeStore) (desc : CDesc) (count : Nat) : Prop :=
  ∃ element old, mappedType mpi desc.type = some element ∧ types.object element = some old ∧
    (desc.rank = 0 → desc.ScalarAcceptable mpi count old.layout.size) ∧
    (1 ≤ desc.rank → desc.Acceptable mpi count old.layout.size)

/-- The handle of a new committed datatype for the first elements. -/
def Described (desc : CDesc) (count : Nat) (before after : TypeStore) (handle : Int) : Prop :=
  ∃ element : Layout, element.Solid desc.elemLen ∧
    TypeStore.Creates before after handle
      { combiner := .derived
        layout := element.copies ((List.range count).map desc.displacement)
        committed := true }

theorem Described.creates {desc : CDesc} {count : Nat} {before after : TypeStore} {handle : Int}
    (described : desc.Described count before after handle) :
    ∃ layout, TypeStore.Creates before after handle
      { combiner := .derived, layout := layout, committed := true } := by
  obtain ⟨element, -, creates⟩ := described
  exact ⟨_, creates⟩

end CDesc

end Arguments

section Transport

variable {mpi : Mpi} {before after : TypeStore} {handle datatype : Int} {created : TypeObject}
variable {desc : CDesc} {count length reach : Nat}

theorem TypeStore.Basic.of_extends (basic : before.Basic mpi) (extended : before.Extends after) :
    after.Basic mpi where
  elements := by
    intro type element mapped
    obtain ⟨old, live, solid⟩ := basic.elements type element mapped
    exact ⟨old, extended.keeps live, solid⟩
  null := by rw [extended.object_eq _ basic.nullBelow, basic.null]
  nullBelow := lt_of_lt_of_le basic.nullBelow extended.later

theorem TypeStore.Basic.of_creates (basic : before.Basic mpi)
    (creates : TypeStore.Creates before after handle created) : after.Basic mpi :=
  basic.of_extends creates.extended

theorem TypeStore.Basic.of_restored (basic : before.Basic mpi)
    (restored : before.Restored after) : after.Basic mpi :=
  basic.of_extends restored.extended

theorem CDesc.Matches.of_extends (argument : desc.Matches mpi before datatype reach)
    (extended : before.Extends after) : desc.Matches mpi after datatype reach := by
  obtain ⟨object, live, rest⟩ := argument.fills
  exact { argument with fills := ⟨object, extended.keeps live, rest⟩ }

theorem CDesc.Matches.of_creates (argument : desc.Matches mpi before datatype reach)
    (creates : TypeStore.Creates before after handle created) :
    desc.Matches mpi after datatype reach :=
  argument.of_extends creates.extended

theorem CDesc.Matches.of_restored (argument : desc.Matches mpi before datatype reach)
    (restored : before.Restored after) : desc.Matches mpi after datatype reach :=
  argument.of_extends restored.extended

theorem CDesc.accepted_iff_of_restored (restored : before.Restored after) :
    desc.Accepted mpi after count ↔ desc.Accepted mpi before count := by
  rw [CDesc.Accepted, CDesc.Accepted, restored.object_eq]

theorem TypeStore.Extends.elements_eq (extended : before.Extends after) (basic : before.Basic mpi)
    {element : Int} (mapped : mappedType mpi desc.type = some element) :
    after.object element = before.object element := by
  obtain ⟨old, live, -⟩ := basic.elements _ element mapped
  rw [extended.keeps live, live]

/-- New datatypes do not change what the builder accepts. -/
theorem CDesc.accepted_iff_of_extends (basic : before.Basic mpi)
    (extended : before.Extends after) :
    desc.Accepted mpi after count ↔ desc.Accepted mpi before count := by
  refine exists_congr fun element => exists_congr fun old => and_congr_right fun mapped => ?_
  rw [extended.elements_eq basic mapped]

theorem CDesc.accepted_iff_of_creates (basic : before.Basic mpi)
    (creates : TypeStore.Creates before after handle created) :
    desc.Accepted mpi after count ↔ desc.Accepted mpi before count :=
  CDesc.accepted_iff_of_extends basic creates.extended

end Transport

section Construction

variable {mpi : Mpi} {desc : CDesc} {world : World} {count reach : Nat}
variable {inputDatatype arrayDatatype : Int}

theorem Refuses.ensures {run : Call (Int × Int)} (refuses : Refuses mpi run world) :
    Run.Ensures run world fun result _ => result.1 ≠ mpi.errorClass .success := by
  obtain ⟨rc, handle, final, returned, failed⟩ := refuses
  exact Run.ensures_of_returned returned failed

/-- Where a datatype has the size that the builder verifies, its copies are copies of
a solid element of the section. -/
theorem CDesc.Matches.solid_copies (argument : desc.Matches mpi world.types inputDatatype reach)
    {old : Layout} (solid : old.Solid old.size)
    (exactly : ((count * old.size : Nat) : Int) = count * toInt desc.elemLen) :
    ∃ element : Layout, element.Solid desc.elemLen ∧
      old.copies ((List.range count).map desc.displacement) =
        element.copies ((List.range count).map desc.displacement) := by
  have length : toInt desc.elemLen = desc.elemLen :=
    toInt_of_bounds (by omega) argument.lengthFits
  by_cases empty : count = 0
  · obtain ⟨object, -, -, -, filled⟩ := argument.fills
    refine ⟨object.layout, filled, ?_⟩
    rw [empty]
    rfl
  · have same : old.size = desc.elemLen := by
      rw [length] at exactly
      push_cast at exactly
      exact_mod_cast mul_left_cancel₀ (by exact_mod_cast empty) exactly
    rw [same] at solid
    exact ⟨old, solid, rfl⟩

/-- For a named datatype the builder makes a datatype of the first elements, exactly for the
sections that it accepts. -/
theorem vapaaCfiCreateDatatype_named_cases {input : TypeObject} (count : Nat) (arrayDatatype : Int)
    (basic : world.types.Basic mpi) (wellFormed : desc.WellFormed)
    (inputLive : world.types.object inputDatatype = some input) (named : input.combiner = .named) :
    desc.Accepted mpi world.types count ∧
      (∃ element old, mappedType mpi desc.type = some element ∧
        world.types.object element = some old ∧ old.layout.Solid old.layout.size ∧
        ((count * old.layout.size : Nat) : Int) = count * toInt desc.elemLen ∧
        Builds mpi (vapaaCfiCreateDatatype mpi desc count inputDatatype arrayDatatype) world
          (old.layout.copies ((List.range count).map desc.displacement))) ∨
    ¬ desc.Accepted mpi world.types count ∧
      (mpi.seatbelts = true ∨ world.types.object arrayDatatype = none →
        Run.Ensures (vapaaCfiCreateDatatype mpi desc count inputDatatype arrayDatatype) world
          fun result _ => result.1 ≠ mpi.errorClass .success) := by
  cases mapped : mappedType mpi desc.type with
  | none =>
      refine Or.inr ⟨?_, vapaaCfiCreateDatatype_unmapped inputLive named mapped basic.null⟩
      rintro ⟨element, old, found, -⟩
      rw [mapped] at found
      cases found
  | some element =>
      obtain ⟨old, live, solid⟩ := basic.elements _ element mapped
      have unique (accepted : desc.Accepted mpi world.types count) :
          (desc.rank = 0 → desc.ScalarAcceptable mpi count old.layout.size) ∧
            (1 ≤ desc.rank → desc.Acceptable mpi count old.layout.size) := by
        obtain ⟨other, object, found, alive, rest⟩ := accepted
        rw [mapped] at found
        cases found
        rw [live] at alive
        cases alive
        exact rest
      by_cases scalar : desc.rank = 0
      · obtain ⟨acceptable, builds⟩ | ⟨rejected, fails⟩ := vapaaCfiCreateDatatype_scalar_cases
          count scalar inputLive named mapped live basic.null
        · have accepted : desc.Accepted mpi world.types count :=
            ⟨element, old, mapped, live, fun _ => acceptable, fun ranked => by omega⟩
          exact Or.inl ⟨accepted, element, old, rfl, live, solid, acceptable.exact_size, builds⟩
        · exact Or.inr ⟨fun accepted => rejected ((unique accepted).1 scalar), fails⟩
      · have ranked : 1 ≤ desc.rank := Nat.one_le_iff_ne_zero.mpr scalar
        obtain ⟨acceptable, displacements, builds, counted, exactly⟩ | ⟨rejected, fails⟩ :=
          vapaaCfiCreateDatatype_cases count arrayDatatype ranked wellFormed inputLive named mapped
            live
        · have selected : displacements = (List.range count).map desc.displacement := by
            by_cases empty : count = 0
            · subst empty
              exact List.length_eq_zero_iff.mp counted
            · have sizes := acceptable.exact_size
              push_cast at sizes
              have same := mul_left_cancel₀ (by exact_mod_cast empty) sizes
              exact exactly (by rw [solid.extent_eq, same])
          rw [selected] at builds
          have accepted : desc.Accepted mpi world.types count :=
            ⟨element, old, mapped, live, fun flat => absurd flat scalar, fun _ => acceptable⟩
          exact Or.inl ⟨accepted, element, old, rfl, live, solid, acceptable.exact_size, builds⟩
        · refine Or.inr ⟨fun accepted => rejected ((unique accepted).2 ranked), fun _ => ?_⟩
          obtain refuses | halts := fails
          · exact refuses.ensures
          · exact halts.ensures

/-- The builder makes a datatype of the first elements, exactly for the sections that
it accepts. -/
theorem vapaaCfiCreateDatatype_section_cases (count : Nat) (arrayDatatype : Int)
    (basic : world.types.Basic mpi)
    (argument : desc.Matches mpi world.types inputDatatype reach) :
    desc.Accepted mpi world.types count ∧
      (∃ element : Layout, element.Solid desc.elemLen ∧
        Builds mpi (vapaaCfiCreateDatatype mpi desc count inputDatatype arrayDatatype) world
          (element.copies ((List.range count).map desc.displacement))) ∨
    ¬ desc.Accepted mpi world.types count ∧
      (mpi.seatbelts = true ∨ world.types.object arrayDatatype = none →
        Run.Ensures (vapaaCfiCreateDatatype mpi desc count inputDatatype arrayDatatype) world
          fun result _ => result.1 ≠ mpi.errorClass .success) := by
  obtain ⟨input, inputLive, named, -, -⟩ := argument.fills
  obtain ⟨accepted, element, old, mapped, live, solid, exactly, builds⟩ | rejected :=
    vapaaCfiCreateDatatype_named_cases count arrayDatatype basic argument.wellFormed inputLive named
  · obtain ⟨solidElement, filled, same⟩ := argument.solid_copies solid exactly
    rw [same] at builds
    exact Or.inl ⟨accepted, solidElement, filled, builds⟩
  · exact Or.inr rejected

end Construction

section Opening

variable {α : Type} {mpi : Mpi} {desc : CDesc} {process : Process} {count reach : Nat}
variable {inputDatatype : Int}

theorem call_of_returned {β : Type} {run : Call β} {value : β} {final : World}
    (returned : run process.world = .returned (value, final)) :
    call run process = .returned (value, { process with world := final }) :=
  Run.zoom_of_returned returned

theorem call_ensures {β : Type} {run : Call β} {post : β → World → Prop}
    (ensures : Run.Ensures run process.world post) :
    Run.Ensures (call run) process fun value final =>
      ∃ world, post value world ∧ final = { process with world := world } := by
  intro value final returned
  obtain ⟨world, result, rfl⟩ := Run.zoom_eq_returned.mp returned
  exact ⟨world, ensures value world result, rfl⟩

/-- What the wrappers do before they communicate a section that is not contiguous. -/
def openSubarray (mpi : Mpi) (desc : CDesc) (count datatype initial : Int)
    (next : Int → Wrapper α) : Wrapper α := do
  let (rc, subarrayType) ← call (vapaaCfiCreateDatatype mpi desc count datatype initial)
  call (vapaaAssert mpi (rc = mpi.errorClass .success))
  let rc ← call (pmpiTypeCommit mpi subarrayType)
  call (vapaaAssert mpi (rc = mpi.errorClass .success))
  next subarrayType

/-- What they do afterwards. -/
def closeSubarray (mpi : Mpi) (subarrayType : Int) (next : Wrapper α) : Wrapper α := do
  let (rc, _) ← call (pmpiTypeFree mpi subarrayType)
  call (vapaaAssert mpi (rc = mpi.errorClass .success))
  next

theorem openSubarray_of_builds {count initial : Int} {layout : Layout}
    (builds : Builds mpi (vapaaCfiCreateDatatype mpi desc count inputDatatype initial)
      process.world layout) :
    ∃ handle opened, TypeStore.Creates process.world.types opened.types handle
        { combiner := .derived, layout := layout, committed := true } ∧
      ∀ {α : Type} (next : Int → Wrapper α),
        openSubarray mpi desc count inputDatatype initial next process =
          next handle { process with world := opened } := by
  obtain ⟨handle, built, returned, creates⟩ := builds
  refine ⟨handle, { built with types := built.types.commit handle }, creates.commit, ?_⟩
  intro α next
  have committed : pmpiTypeCommit mpi handle built =
      .returned (mpi.errorClass .success,
        { built with types := built.types.commit handle }) := by
    simp only [pmpiTypeCommit, creates.live]
  rw [openSubarray, Run.bind_of_returned (call_of_returned returned)]
  simp only [decide_true, vapaaAssert_true]
  rw [Run.bind_of_returned (call_of_returned rfl),
    Run.bind_of_returned (call_of_returned committed)]
  simp only [decide_true, vapaaAssert_true]
  rw [Run.bind_of_returned (call_of_returned rfl)]

/-- With assertions, a construction that builds nothing ends the program, unless it does something
undefined. -/
theorem openSubarray_of_refuses {count initial : Int} (active : mpi.seatbelts = true)
    (refuses : Run.Ensures (vapaaCfiCreateDatatype mpi desc count inputDatatype initial)
      process.world fun result _ => result.1 ≠ mpi.errorClass .success)
    (next : Int → Wrapper α) :
    Run.Safe (vapaaCfiCreateDatatype mpi desc count inputDatatype initial) process.world
        (fun _ _ => True) ∧
      openSubarray mpi desc count inputDatatype initial next process = .aborted ∨
    ¬ Run.Safe (vapaaCfiCreateDatatype mpi desc count inputDatatype initial) process.world
        (fun _ _ => True) ∧
      ∃ fault, openSubarray mpi desc count inputDatatype initial next process =
        .undefined fault := by
  cases result : vapaaCfiCreateDatatype mpi desc count inputDatatype initial process.world with
  | returned built =>
      obtain ⟨⟨rc, handle⟩, built⟩ := built
      have failed : rc ≠ mpi.errorClass .success := refuses _ _ result
      refine Or.inl ⟨(Run.safe_of_returned result).mpr trivial, ?_⟩
      rw [openSubarray, Run.bind_of_returned (call_of_returned result)]
      have aborted : vapaaAssert mpi (decide (rc = mpi.errorClass .success)) built = .aborted := by
        simp only [vapaaAssert, failed, decide_false, active, Bool.false_eq_true, if_false,
          if_true, Run.abort_apply]
      dsimp only
      rw [Run.bind_apply, call, Run.zoom, aborted]
      rfl
  | aborted =>
      refine Or.inl ⟨Run.safe_of_aborted result, ?_⟩
      rw [openSubarray, Run.bind_apply, call, Run.zoom, result]
      rfl
  | undefined fault =>
      refine Or.inr ⟨Run.not_safe_of_undefined result, fault, ?_⟩
      rw [openSubarray, Run.bind_apply, call, Run.zoom, result]
      rfl

theorem openSubarray_of_accepted (initial : Int) (basic : process.world.types.Basic mpi)
    (argument : desc.Matches mpi process.world.types inputDatatype reach)
    (accepted : desc.Accepted mpi process.world.types count) :
    ∃ handle opened, desc.Described count process.world.types opened.types handle ∧
      ∀ {α : Type} (next : Int → Wrapper α),
        openSubarray mpi desc count inputDatatype initial next process =
          next handle { process with world := opened } := by
  obtain ⟨-, element, solid, builds⟩ | ⟨rejected, -⟩ :=
    vapaaCfiCreateDatatype_section_cases count initial basic argument
  · obtain ⟨handle, opened, creates, opens⟩ := openSubarray_of_builds builds
    exact ⟨handle, opened, ⟨element, solid, creates⟩, opens⟩
  · exact absurd accepted rejected

/-- With assertions, nothing follows a construction that the builder rejects. -/
theorem openSubarray_of_rejected (initial : Int) (basic : process.world.types.Basic mpi)
    (argument : desc.Matches mpi process.world.types inputDatatype reach)
    (active : mpi.seatbelts = true) (rejected : ¬ desc.Accepted mpi process.world.types count)
    (next : Int → Wrapper α) :
    Run.Ensures (openSubarray mpi desc count inputDatatype initial next) process
      fun _ _ => False := by
  obtain ⟨accepted, -⟩ | ⟨-, fails⟩ :=
    vapaaCfiCreateDatatype_section_cases count initial basic argument
  · exact absurd accepted rejected
  · obtain ⟨-, aborted⟩ | ⟨-, fault, faulty⟩ :=
      openSubarray_of_refuses active (fails (Or.inl active)) next
    · exact Run.ensures_of_aborted aborted
    · exact Run.ensures_of_undefined faulty

theorem closeSubarray_of_live {handle : Int} {layout : Layout} {committed : Bool}
    (live : process.world.types.object handle =
      some { combiner := .derived, layout := layout, committed := committed })
    (next : Wrapper α) :
    closeSubarray mpi handle next process =
      next { process with world :=
        { process.world with types := process.world.types.remove handle } } := by
  have freed : pmpiTypeFree mpi handle process.world =
      .returned ((mpi.errorClass .success, mpi.datatype .datatypeNull),
        { process.world with types := process.world.types.remove handle }) := by
    simp only [pmpiTypeFree, live]
  rw [closeSubarray, Run.bind_of_returned (call_of_returned freed)]
  simp only [decide_true, vapaaAssert_true]
  rw [Run.bind_of_returned (call_of_returned rfl)]

end Opening

section Locations

variable {mpi : Mpi} {types : TypeStore} {desc : CDesc} {datatype : Int} {count reach : Nat}

/-- A buffer whose datatype is committed and whose data lies at the given addresses. -/
structure Buffer.Carries (buffer : Buffer) (addresses : List Int) : Prop where
  counted : 0 ≤ buffer.count
  committed : ∃ object, buffer.object = some object ∧ object.committed = true
  locations_eq : buffer.locations = addresses

theorem Buffer.locations_of_solid {object : TypeObject} {address : Int} {length : Nat}
    (solid : object.layout.Solid length) :
    Buffer.locations { address := address, count := count, object := some object } =
      ((List.range count).map fun (n : Nat) => address + n * length).flatMap fun start =>
        span start length := by
  simp [Buffer.locations, Layout.locations, solid.bytes_eq, solid.extent_eq, map_add_span,
    List.flatMap_map]

theorem CDesc.Described.carries {before after : TypeStore} {handle : Int}
    (described : desc.Described count before after handle) :
    (after.buffer desc.baseAddr 1 handle).Carries (desc.elementBytes count) := by
  obtain ⟨element, solid, creates⟩ := described
  refine ⟨Int.one_nonneg, ⟨_, creates.live, rfl⟩, ?_⟩
  simp [TypeStore.buffer, Buffer.locations, creates.live, Layout.locations, solid.bytes_copies,
    CDesc.elementBytes, List.map_flatMap, List.flatMap_map, map_add_span, CDesc.address]

/-- The elements as they lie are those of the section only where it is consecutive. -/
theorem CDesc.Matches.carries_iff (argument : desc.Matches mpi types datatype reach) :
    (types.buffer desc.baseAddr count datatype).Carries (desc.elementBytes count) ↔
      desc.Consecutive count := by
  obtain ⟨object, live, -, committed, solid⟩ := argument.fills
  have lying : (types.buffer desc.baseAddr count datatype).locations =
      ((List.range count).map fun (n : Nat) => desc.baseAddr + n * desc.elemLen).flatMap
        fun start => span start desc.elemLen := by
    rw [TypeStore.buffer, live]
    exact Buffer.locations_of_solid solid
  constructor
  · rintro ⟨-, -, same⟩ n below
    rw [lying] at same
    have starts := spans_injective argument.positive same
    have nth := List.map_inj_left.mp starts n (List.mem_range.mpr below)
    simp only [CDesc.address] at nth
    omega
  · intro consecutive
    refine ⟨Int.natCast_nonneg count, ⟨object, live, committed⟩, ?_⟩
    rw [lying, CDesc.elementBytes]
    congr 1
    apply List.map_congr_left
    intro n member
    rw [CDesc.address, consecutive n (List.mem_range.mp member)]

theorem CDesc.Matches.carries (argument : desc.Matches mpi types datatype reach)
    (contiguous : mpi.cfiIsContiguous desc = 1) (covered : count ≤ reach) :
    (types.buffer desc.baseAddr count datatype).Carries (desc.elementBytes count) :=
  argument.carries_iff.mpr fun n below =>
    argument.consecutive contiguous n (lt_of_lt_of_le below covered)

end Locations

section Passing

variable {α : Type} {mpi : Mpi} {desc : CDesc} {process : Process} {count reach : Nat}
variable {datatype : Int}

theorem withSubarrayType_eq (count : Int) (communicate : Int → Wrapper α) :
    withSubarrayType mpi desc count datatype communicate =
      openSubarray mpi desc count datatype (mpi.datatype .datatypeNull) fun subarrayType =>
        communicate subarrayType >>= fun result =>
          closeSubarray mpi subarrayType (pure result) := rfl

/-- A wrapper passes exactly the first elements of a section, and the datatypes that
it had are the datatypes that it leaves. -/
theorem withSection_passes (basic : process.world.types.Basic mpi)
    (argument : desc.Matches mpi process.world.types datatype count)
    (acceptable : mpi.cfiIsContiguous desc ≠ 1 → desc.Accepted mpi process.world.types count) :
    ∃ (passedCount passedType : Int) (opened : World),
      (opened.types.buffer desc.baseAddr passedCount passedType).Carries
          (desc.elementBytes count) ∧
      ∀ (communicate : Int → Int → Int → Wrapper α) result middle,
        communicate desc.baseAddr passedCount passedType { process with world := opened } =
            .returned (result, middle) →
          middle.world = opened →
            ∃ world, withSection mpi desc count datatype communicate process =
                .returned (result, { middle with world := world }) ∧
              process.world.types.Restored world.types := by
  by_cases contiguous : mpi.cfiIsContiguous desc = 1
  · refine ⟨count, datatype, process.world, argument.carries contiguous (le_refl _), ?_⟩
    intro communicate result middle returned same
    refine ⟨middle.world, ?_, same ▸ TypeStore.Restored.refl _⟩
    rw [withSection, if_pos contiguous]
    exact returned
  · obtain ⟨handle, opened, described, opens⟩ := openSubarray_of_accepted
      (mpi.datatype .datatypeNull) basic argument (acceptable contiguous)
    refine ⟨1, handle, opened, described.carries, ?_⟩
    rintro communicate result middle returned rfl
    obtain ⟨layout, creates⟩ := described.creates
    refine ⟨{ middle.world with types := middle.world.types.remove handle }, ?_,
      creates.remove⟩
    rw [withSection, if_neg contiguous, withSubarrayType_eq, opens,
      Run.bind_of_returned returned, closeSubarray_of_live creates.live]
    rfl

/-- With assertions, a section that the builder rejects is never communicated. -/
theorem withSection_of_rejected (basic : process.world.types.Basic mpi)
    (argument : desc.Matches mpi process.world.types datatype reach)
    (active : mpi.seatbelts = true) (scattered : mpi.cfiIsContiguous desc ≠ 1)
    (rejected : ¬ desc.Accepted mpi process.world.types count)
    (communicate : Int → Int → Int → Wrapper α) :
    Run.Ensures (withSection mpi desc count datatype communicate) process fun _ _ => False := by
  rw [withSection, if_neg scattered, withSubarrayType_eq]
  exact openSubarray_of_rejected _ basic argument active rejected _

end Passing

section Sample

def startProcess : Process where
  world := startWorld
  sentinels := { statusIgnore := 16, statusesIgnore := 32, inPlace := 48 }
  memory := fun _ => 0
  statusWords := fun _ => 0
  issued := []
  statusPointers := []

/-- A call that succeeds and reports nothing. -/
def successfulReply : Reply where
  rc := 0
  completed := true
  status := ⟨0, 0, 0, 0, 0, 0, 0⟩
  statuses := fun _ => ⟨0, 0, 0, 0, 0, 0, 0⟩
  stored := 0
  received := []
  request := 0
  requests := fun _ => 0
  message := 0
  flag := 0
  index := 0
  outcount := 0
  indices := []

theorem predefinedTypes_basic : predefinedTypes.Basic mpich where
  elements := by
    intro type element mapped
    obtain ⟨entry, found, rfl⟩ := Option.map_eq_some_iff.mp mapped
    have basic : ∀ entry ∈ cfiToMpiTypes,
        predefinedTypes.object (Mpich.datatype entry.2) = some (Mpich.object entry.2) ∧
          (Mpich.object entry.2).layout.map.bytes =
            span 0 (Mpich.object entry.2).layout.size ∧
          (Mpich.object entry.2).layout.extent = (Mpich.object entry.2).layout.size := by
      decide
    obtain ⟨live, bytes, extent⟩ := basic entry (List.mem_of_find?_eq_some found)
    exact ⟨Mpich.object entry.2, live, bytes, rfl, extent⟩
  null := by decide
  nullBelow := by decide

theorem predefinedTypes_fills : predefinedTypes.Fills (Mpich.datatype .integer) 4 :=
  ⟨Mpich.object .integer, by decide, rfl, rfl, by decide, rfl, by decide⟩

def integers (baseAddr : Int) (count : Nat) (stride : Int) : CDesc :=
  sectionOf baseAddr 4 1025 [{ lowerBound := 0, extent := count, sm := stride }] (by simp)

def fortranInteger : Int := (Predefined.datatype .integer).vapaa

private theorem four_pos : 0 < 4 := by decide

private theorem four_fits : ((4 : Nat) : Int) ≤ intMax := by decide

private theorem mappedType_int : mappedType mpich 1025 = some (Mpich.datatype .int32T) := by decide

theorem integers_matches {baseAddr stride : Int} {count reach : Nat}
    (consecutive : mpich.cfiIsContiguous (integers baseAddr count stride) = 1 →
      (integers baseAddr count stride).Consecutive reach) :
    (integers baseAddr count stride).Matches mpich predefinedTypes
      (cMpiTypeF2c mpich fortranInteger) reach where
  wellFormed := by
    intro k inside
    have first : k = 0 := by
      have ranked : k < 1 := inside
      omega
    subst first
    exact Or.inl (Int.natCast_nonneg count)
  positive := four_pos
  lengthFits := four_fits
  fills := predefinedTypes_fills
  consecutive := consecutive

theorem integers_accepted (baseAddr stride : Int) {count reach : Nat} (small : count ≤ 1000)
    (covered : reach ≤ count) :
    (integers baseAddr count stride).Accepted mpich predefinedTypes reach := by
  refine ⟨Mpich.datatype .int32T, Mpich.object .int32T, mappedType_int, by decide,
    fun scalar => absurd scalar (by simp [integers, sectionOf]), fun _ => ?_⟩
  have leading : (integers baseAddr count stride).leadingElements 1 = count := by
    rw [CDesc.leadingElements_succ, CDesc.leadingElements_zero, one_mul]
    rfl
  refine ⟨?_, ?_, fun _ => Or.inl (Or.inl rfl), fun listed => absurd (Or.inl rfl) listed.1, ?_, ?_⟩
  · intro k inside
    have first : k = 0 := by
      have ranked : k < 1 := inside
      omega
    subst first
    have bounded : (count : Int) ≤ intMax := by
      simp only [intMax]
      omega
    exact ⟨bounded, leading.symm ▸ bounded⟩
  · exact leading.symm ▸ (by exact_mod_cast covered)
  · have size : (Mpich.object .int32T).layout.size = 4 := by decide
    have length : toInt (integers baseAddr count stride).elemLen = 4 := by
      change toInt (4 : Nat) = 4
      decide
    rw [size, length]
    push_cast
    rfl
  · have size : (Mpich.object .int32T).layout.size = 4 := by decide
    rw [size]
    simp only [intMax]
    omega

end Sample

end Vapaa
