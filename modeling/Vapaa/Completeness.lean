import Vapaa.NamedSections

/-! Which valid requests for named datatypes the builder serves. -/

set_option autoImplicit false

namespace Vapaa

open Foundation Builder

section Completeness

variable {mpi : Mpi} {desc : CDesc} {world : World} {count : Nat}
variable {element inputDatatype arrayDatatype : Int} {old input : TypeObject}

/-- An array with at least one element. -/
def CDesc.Inhabited (desc : CDesc) : Prop := ∀ k, k < desc.rank → 1 ≤ (desc.record k).extent

instance (desc : CDesc) : Decidable desc.Inhabited :=
  inferInstanceAs (Decidable (∀ k, k < desc.rank → _))

theorem CDesc.Inhabited.sized (inhabited : desc.Inhabited) : desc.Sized := by
  intro k inside
  have positive := inhabited k inside
  omega

theorem CDesc.Inhabited.leadingElements_pos (inhabited : desc.Inhabited) {k : Nat}
    (inside : k ≤ desc.rank) : 1 ≤ desc.leadingElements k := by
  induction k with
  | zero => simp
  | succ k ih =>
      have before := ih (by omega)
      have extent := inhabited k (by omega)
      rw [desc.leadingElements_succ]
      exact Int.mul_le_mul before extent (by omega) (by omega)

/-- No product of leading extents exceeds the number of elements. -/
theorem CDesc.Inhabited.leadingElements_le (inhabited : desc.Inhabited) {k m : Nat}
    (within : k + m ≤ desc.rank) : desc.leadingElements k ≤ desc.leadingElements (k + m) := by
  induction m with
  | zero => exact le_refl _
  | succ m ih =>
      have before := ih (by omega)
      have positive := inhabited.leadingElements_pos (k := k + m) (by omega)
      have extent := inhabited (k + m) (by omega)
      rw [← Nat.add_assoc, desc.leadingElements_succ]
      calc desc.leadingElements k
          ≤ desc.leadingElements (k + m) * 1 := by omega
        _ ≤ desc.leadingElements (k + m) * (desc.record (k + m)).extent :=
            Int.mul_le_mul_of_nonneg_left extent (by omega)

theorem CDesc.Inhabited.countable (inhabited : desc.Inhabited)
    (small : (desc.elements : Int) ≤ intMax) : desc.Countable := by
  intro k inside
  have positive := inhabited.leadingElements_pos (k := k) (by omega)
  have extent := inhabited k inside
  have product : desc.leadingElements (k + 1) ≤ intMax := by
    have bounded := inhabited.leadingElements_le (k := k + 1) (m := desc.rank - (k + 1)) (by omega)
    have whole : k + 1 + (desc.rank - (k + 1)) = desc.rank := by omega
    rw [whole, inhabited.sized.leadingElements_rank] at bounded
    exact le_trans bounded small
  refine ⟨?_, product⟩
  calc (desc.record k).extent
      = 1 * (desc.record k).extent := (one_mul _).symm
    _ ≤ desc.leadingElements k * (desc.record k).extent :=
        Int.mul_le_mul_of_nonneg_right positive (by omega)
    _ = desc.leadingElements (k + 1) := (desc.leadingElements_succ k).symm
    _ ≤ intMax := product

/-- There is a construction for the prefix, and memory for the arrays it needs. -/
structure CDesc.Constructible (mpi : Mpi) (desc : CDesc) (count : Nat) : Prop where
  supported : desc.rank = cfiMaxRank → desc.InColumn count ∨ desc.InPlane count
  arrays : desc.Enumerates count → mpi.AllocatesArrays count

theorem CDesc.Inhabited.acceptable_iff (inhabited : desc.Inhabited)
    (small : (desc.elements : Int) ≤ intMax) (within : count ≤ desc.elements)
    (bytes : (count * desc.elemLen : Int) ≤ intMax) :
    desc.Acceptable mpi count desc.elemLen ↔ desc.Constructible mpi count := by
  constructor
  · intro acceptable
    exact ⟨acceptable.supported, acceptable.arrays⟩
  · rintro ⟨supported, arrays⟩
    have length : (count : Int) * toInt desc.elemLen = count * desc.elemLen := by
      by_cases empty : count = 0
      · simp [empty]
      · have positive : (1 : Int) ≤ count := by omega
        have fits : (desc.elemLen : Int) ≤ intMax := by
          have scaled := Int.mul_le_mul_of_nonneg_right positive (Int.natCast_nonneg desc.elemLen)
          omega
        rw [toInt_of_bounds (by omega) fits]
    exact {
      countable := inhabited.countable small
      within := by
        rw [inhabited.sized.leadingElements_rank]
        exact_mod_cast within
      supported := supported
      arrays := arrays
      exact_size := by
        rw [length]
        push_cast
        rfl
      small := by exact_mod_cast bytes }

/-- A valid request for a named datatype succeeds unless an array of the maximal rank
has to be enumerated beyond its first plane, or memory is short. -/
theorem vapaaCfiCreateDatatype_complete_iff (ranked : 1 ≤ desc.rank)
    (inhabited : desc.Inhabited) (small : (desc.elements : Int) ≤ intMax)
    (inputLive : world.types.object inputDatatype = some input) (named : input.combiner = .named)
    (mapped : mappedType mpi desc.type = some element)
    (live : world.types.object element = some old) (size_eq : old.layout.size = desc.elemLen)
    (within : count ≤ desc.elements) (bytes : (count * desc.elemLen : Int) ≤ intMax) :
    (∃ handle final,
      vapaaCfiCreateDatatype mpi desc count inputDatatype arrayDatatype world =
        .returned ((mpi.errorClass .success, handle), final)) ↔
      desc.Constructible mpi count := by
  rw [← inhabited.acceptable_iff small within bytes, ← size_eq]
  obtain ⟨acceptable, -, ⟨handle, final, result, -⟩, -⟩ | ⟨rejected, refuses | halts⟩ :=
    vapaaCfiCreateDatatype_cases count arrayDatatype ranked inhabited.sized.wellFormed inputLive
      named mapped live
  · exact ⟨fun _ => acceptable, fun _ => ⟨handle, final, result⟩⟩
  · refine ⟨?_, fun acceptable => absurd acceptable rejected⟩
    rintro ⟨handle, final, result⟩
    exact absurd result refuses.not_success
  · refine ⟨?_, fun acceptable => absurd acceptable rejected⟩
    rintro ⟨handle, final, result⟩
    exact absurd result halts.not_returned

end Completeness

/-- Two four-byte integers that only the third of fifteen dimensions tells apart. -/
def deepPair : CDesc :=
  sectionOf 4096 4 1025
    ((List.range 15).map fun (k : Nat) =>
      { lowerBound := 0, extent := if k = 2 then 2 else 1, sm := 8 })
    (by decide)

/-- Two rows of two integers each, in an array of rank three. -/
def spreadCube : CDesc :=
  sectionOf 4096 4 1025
    [{ lowerBound := 0, extent := 2, sm := 8 }, { lowerBound := 0, extent := 2, sm := 16 },
      { lowerBound := 0, extent := 2, sm := 32 }]
    (by decide)

/-- Both integers are there, but the rank is reported as unsupported. -/
theorem vapaaCfiCreateDatatype_complete_deep :
    deepPair.rank = cfiMaxRank ∧ deepPair.Inhabited ∧
      (∀ k, k < deepPair.rank → (deepPair.record k).lowerBound = 0) ∧
      (deepPair.elements : Int) ≤ intMax ∧
      mappedType mpich deepPair.type = some (Mpich.datatype .int32T) ∧
      (Mpich.object .int32T).layout.size = deepPair.elemLen ∧ 2 ≤ deepPair.elements ∧
      (vapaaCfiCreateDatatype mpich deepPair 2 (Mpich.datatype .int32T) 201326592
          startWorld >>= fun result => .returned result.1) =
        .returned (mpich.errorClass .errArg, 201326592) ∧
      mpich.errorClass .errArg ≠ mpich.errorClass .success := by
  decide +kernel

theorem vapaaCfiCreateDatatype_complete_cube :
    (∃ handle final,
      vapaaCfiCreateDatatype mpich spreadCube (7 : Nat) (Mpich.datatype .int32T) 201326592
          startWorld = .returned ((mpich.errorClass .success, handle), final)) ↔
      spreadCube.Constructible mpich 7 :=
  @vapaaCfiCreateDatatype_complete_iff mpich spreadCube startWorld 7 (Mpich.datatype .int32T)
    (Mpich.datatype .int32T) 201326592 (Mpich.object .int32T) (Mpich.object .int32T)
    (by decide) (by decide) (by decide) (by decide) (by decide) (by decide) (by decide)
    (by decide) (by decide) (by decide)

end Vapaa
