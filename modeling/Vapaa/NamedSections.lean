import Vapaa.DisplacementBounds
import Vapaa.Mpich

/-! Datatypes of sections whose elements have a predefined datatype. -/

set_option autoImplicit false

namespace Vapaa

open Foundation Builder

section Soundness

variable {mpi : Mpi} {desc : CDesc} {world final : World} {count : Nat}
variable {element inputDatatype arrayDatatype handle : Int} {old input : TypeObject}

theorem Builds.returned {call : Call (Int × Int)} {layout : Layout}
    (builds : Builds mpi call world layout)
    (success : call world = .returned ((mpi.errorClass .success, handle), final)) :
    TypeStore.Creates world.types final.types handle
      { combiner := .derived, layout := layout, committed := false } := by
  obtain ⟨built, last, result, creates⟩ := builds
  rw [success] at result
  cases result
  exact creates

theorem Refuses.not_success {call : Call (Int × Int)} (refuses : Refuses mpi call world) :
    call world ≠ .returned ((mpi.errorClass .success, handle), final) := by
  intro success
  obtain ⟨rc, value, last, result, failed⟩ := refuses
  rw [success] at result
  cases result
  exact failed rfl

theorem Halts.not_returned {α : Type} {call : Call α} (halts : Halts call world) {value : α} :
    call world ≠ .returned (value, final) := by
  intro success
  obtain aborted | ⟨fault, -, faulty⟩ := halts
  · rw [success] at aborted
    cases aborted
  · rw [success] at faulty
    cases faulty

/-- Where every element has the size and extent of its type, an accepted prefix
is not empty or its element length survives the conversion to `int`. -/
theorem CDesc.Acceptable.elemLen_eq (acceptable : desc.Acceptable mpi count desc.elemLen)
    (present : count ≠ 0) : toInt desc.elemLen = desc.elemLen := by
  have exactly := acceptable.exact_size
  push_cast at exactly
  exact (mul_left_cancel₀ (by exact_mod_cast present) exactly).symm

/-- A successful build selects the first elements of the section, in array
element order, whichever construction made it. -/
theorem vapaaCfiCreateDatatype_layout (ranked : 1 ≤ desc.rank) (wellFormed : desc.WellFormed)
    (inputLive : world.types.object inputDatatype = some input) (named : input.combiner = .named)
    (mapped : mappedType mpi desc.type = some element)
    (live : world.types.object element = some old)
    (size_eq : old.layout.size = desc.elemLen) (extent_eq : old.layout.extent = desc.elemLen)
    (success : vapaaCfiCreateDatatype mpi desc count inputDatatype arrayDatatype world =
      .returned ((mpi.errorClass .success, handle), final)) :
    desc.Acceptable mpi count desc.elemLen ∧
      TypeStore.Creates world.types final.types handle {
        combiner := .derived
        layout := old.layout.copies ((List.range count).map desc.displacement)
        committed := false } := by
  obtain ⟨acceptable, displacements, built, counted, exactly⟩ | ⟨-, refuses | halts⟩ :=
    vapaaCfiCreateDatatype_cases count arrayDatatype ranked wellFormed inputLive named mapped
      live
  · rw [size_eq] at acceptable
    have selected : displacements = (List.range count).map desc.displacement := by
      by_cases empty : count = 0
      · subst empty
        simpa using counted
      · exact exactly (by rw [acceptable.elemLen_eq empty, extent_eq])
    rw [selected] at built
    exact ⟨acceptable, built.returned success⟩
  · exact absurd success refuses.not_success
  · exact absurd success halts.not_returned

private theorem vapaaCfiCreateDatatype_divides (arrayDatatype : Int) (ranked : 1 ≤ desc.rank)
    (wellFormed : desc.WellFormed)
    (inputLive : world.types.object inputDatatype = some input) (named : input.combiner = .named)
    (mapped : mappedType mpi desc.type = some element)
    (live : world.types.object element = some old) :
    vapaaCfiCreateDatatype mpi desc count inputDatatype arrayDatatype world ≠
      .undefined .divisionByZero := by
  intro faulty
  obtain ⟨-, -, ⟨handle, final, result, -⟩, -⟩ | ⟨-, ⟨rc, handle, final, result, -⟩ | halts⟩ :=
    vapaaCfiCreateDatatype_cases count arrayDatatype ranked wellFormed inputLive named mapped
      live
  · rw [faulty] at result
    cases result
  · rw [faulty] at result
    cases result
  · obtain aborted | ⟨fault, divides, result⟩ := halts
    · rw [faulty] at aborted
      cases aborted
    · rw [faulty] at result
      cases result
      exact divides rfl

/-- Soundness for named datatypes, with displacements of 64 bits: a successful build is the list of
the first `count` elements in array element order, one element type at each, and no build divides
by a zero extent. -/
theorem vapaaCfiCreateDatatype_sound (ranked : 1 ≤ desc.rank) (sized : desc.Sized)
    (inputLive : world.types.object inputDatatype = some input) (named : input.combiner = .named)
    (mapped : mappedType mpi desc.type = some element)
    (live : world.types.object element = some old)
    (size_eq : old.layout.size = desc.elemLen) (extent_eq : old.layout.extent = desc.elemLen) :
    (∀ handle final,
      Ptrdiff.vapaaCfiCreateDatatype mpi desc count inputDatatype arrayDatatype world =
          .returned ((mpi.errorClass .success, handle), final) →
        ∃ created, final.types.object handle = some created ∧
          created.layout.map = (List.range count).flatMap fun n =>
            TypeMap.shift
              (MixedRadix.dot desc.strides (MixedRadix.digits desc.shape n)) old.layout.map) ∧
    Ptrdiff.vapaaCfiCreateDatatype mpi desc count inputDatatype arrayDatatype world ≠
      .undefined .divisionByZero := by
  obtain overflows | same :=
    ptrdiff_createDatatype_overflowsOr mpi desc count inputDatatype arrayDatatype world
  · rw [overflows]
    exact ⟨nofun, nofun⟩
  rw [same]
  refine ⟨?_, vapaaCfiCreateDatatype_divides arrayDatatype ranked sized.wellFormed inputLive
    named mapped live⟩
  intro handle final success
  obtain ⟨acceptable, creates⟩ := vapaaCfiCreateDatatype_layout ranked sized.wellFormed inputLive
    named mapped live size_eq extent_eq success
  refine ⟨_, creates.live, ?_⟩
  have inside : count ≤ desc.elements := by
    have within := acceptable.within
    rw [sized.leadingElements_rank] at within
    exact_mod_cast within
  simp only [Layout.copies, TypeMap.copies, List.flatMap_map]
  apply List.flatMap_congr
  intro n member
  rw [CDesc.displacement_eq_dot (lt_of_lt_of_le (List.mem_range.mp member) inside)]

end Soundness

/-- Every second row and third column of a matrix of four-byte integers, backwards. -/
def reversedMatrix : CDesc :=
  sectionOf 4096 4 1025
    [{ lowerBound := 0, extent := 2, sm := -12 }, { lowerBound := 0, extent := 3, sm := 80 }]
    (by decide)

theorem vapaaCfiCreateDatatype_sound_matrix :
    (Ptrdiff.vapaaCfiCreateDatatype mpich reversedMatrix 5 (Mpich.datatype .int32T) 201326592
        startWorld >>= fun result => .returned result.1) = .returned (0, 2000000000) ∧
    ∀ handle final,
      Ptrdiff.vapaaCfiCreateDatatype mpich reversedMatrix (5 : Nat) (Mpich.datatype .int32T)
          201326592 startWorld = .returned ((0, handle), final) →
        ∃ created, final.types.object handle = some created ∧
          created.layout.map = (List.range 5).flatMap fun n =>
            TypeMap.shift (MixedRadix.dot [-12, 80] (MixedRadix.digits [2, 3] n))
              (Mpich.object .int32T).layout.map :=
  ⟨by decide, (@vapaaCfiCreateDatatype_sound mpich reversedMatrix startWorld 5
    (Mpich.datatype .int32T) (Mpich.datatype .int32T) 201326592 (Mpich.object .int32T)
    (Mpich.object .int32T) (by decide) (by decide) (by decide) (by decide) (by decide)
    (by decide) (by decide) (by decide)).1⟩

end Vapaa
