import Vapaa.SectionArguments

/-! Sections that are packed behind each other and unpacked again. -/

set_option autoImplicit false

namespace Vapaa

open Foundation

section Calls

variable {mpi : Mpi} {process : Process} {address count datatype comm : Int}
variable {addresses : List Int}

theorem Buffer.Carries.length_eq {buffer : Buffer} (carries : buffer.Carries addresses) :
    ∃ object, buffer.object = some object ∧ object.committed = true ∧
      buffer.count * object.layout.size = addresses.length := by
  obtain ⟨object, live, committed⟩ := carries.committed
  refine ⟨object, live, committed, ?_⟩
  have counted : addresses.length = buffer.count.toNat * object.layout.size := by
    rw [← carries.locations_eq, Buffer.locations, live]
    simp [Layout.locations, Layout.size, List.length_flatMap, TypeMap.length_bytes]
  have nonneg := Int.toNat_of_nonneg carries.counted
  rw [counted]
  push_cast
  rw [nonneg]

/-- What is packed follows what was packed before. -/
theorem mpiPack_of_carries {outbuf outsize position : Int}
    (carries : (process.world.types.buffer address count datatype).Carries addresses)
    (started : 0 ≤ position) (fits : position + addresses.length ≤ outsize) :
    ∃ issued, mpiPack mpi address count datatype outbuf outsize position comm process =
      .returned ((mpi.errorClass .success, position + addresses.length),
        { process with
          issued := issued
          memory := process.memory.writeAll
            ((span (outbuf + position) addresses.length).zip
              (addresses.map process.memory)) }) := by
  obtain ⟨object, live, committed, size⟩ := carries.length_eq
  have counted : 0 ≤ count := carries.counted
  have locations := carries.locations_eq
  have sized : count * object.layout.size = addresses.length := size
  refine ⟨process.issued ++ [.pack (process.world.types.buffer address count datatype) outbuf
    outsize position comm], ?_⟩
  rw [mpiPack, Run.bind_of_returned rfl, Run.bind_of_returned rfl]
  simp only [live, committed, Bool.true_eq_false, if_false, sized]
  rw [if_neg (by omega), if_neg (by omega), locations, packedSpan, Int.toNat_natCast]

private theorem mpiUnpack_of_carries {inbuf insize position : Int}
    (carries : (process.world.types.buffer address count datatype).Carries addresses)
    (started : 0 ≤ position) (fits : position + addresses.length ≤ insize) :
    ∃ issued, mpiUnpack mpi inbuf insize position address count datatype comm process =
      .returned ((mpi.errorClass .success, position + addresses.length),
        { process with
          issued := issued
          memory := process.memory.writeAll
            (addresses.zip
              ((span (inbuf + position) addresses.length).map process.memory)) }) := by
  obtain ⟨object, live, committed, size⟩ := carries.length_eq
  have counted : 0 ≤ count := carries.counted
  have locations := carries.locations_eq
  have sized : count * object.layout.size = addresses.length := size
  refine ⟨process.issued ++ [.unpack inbuf insize position
    (process.world.types.buffer address count datatype) comm], ?_⟩
  rw [mpiUnpack, Run.bind_of_returned rfl, Run.bind_of_returned rfl]
  simp only [live, committed, Bool.true_eq_false, if_false, sized]
  rw [if_neg (by omega), if_neg (by omega), locations, packedSpan, Int.toNat_natCast]

end Calls

section Wrappers

variable {mpi : Mpi} {process : Process} {desc buffer : CDesc} {count : Nat}
variable {datatypeF size position commF : Int}

/-- A section that is passed as it lies, or one that the builder accepts. -/
def CDesc.Passable (mpi : Mpi) (types : TypeStore) (desc : CDesc) (count : Nat) : Prop :=
  mpi.cfiIsContiguous desc ≠ 1 → desc.Accepted mpi types count

@[simp] theorem CDesc.length_elementBytes (desc : CDesc) (count : Nat) :
    (desc.elementBytes count).length = count * desc.elemLen := by
  simp [CDesc.elementBytes, List.length_flatMap, Function.comp_def]

/-- What one call that transfers between a section and a packed buffer does, once the
library has transferred. -/
structure Transferred (mpi : Mpi) (process : Process) (moved : Nat) (position : Int)
    (memory : Memory Int UInt8) (result : Int × Int) (final : Process) : Prop where
  result_eq : result = (position + moved, mpi.errorClass .success)
  restored : process.world.types.Restored final.world.types
  memory_eq : final.memory = memory

private theorem withSection_transferred {memory : Memory Int UInt8} {moved : Nat}
    {communicate : Int → Int → Int → Wrapper (Int × Int)}
    (basic : process.world.types.Basic mpi)
    (argument : desc.Matches mpi process.world.types (cMpiTypeF2c mpi datatypeF) count)
    (checked : mpi.seatbelts = true ∨ desc.Passable mpi process.world.types count)
    (transfers : ∀ passedCount passedType opened,
      (TypeStore.buffer opened.types desc.baseAddr passedCount passedType).Carries
          (desc.elementBytes count) →
        ∃ issued, communicate desc.baseAddr passedCount passedType
            { process with world := opened } =
          .returned ((mpi.errorClass .success, position + moved),
            { process with world := opened, issued := issued, memory := memory })) :
    Run.Ensures (do
        let (ierror, position) ←
          withSection mpi desc count (cMpiTypeF2c mpi datatypeF) communicate
        return (position, ← call (cMpiRcFix mpi ierror))) process
      (Transferred mpi process moved position memory) := by
  by_cases passable : desc.Passable mpi process.world.types count
  · obtain ⟨passedCount, passedType, opened, carries, passes⟩ :=
      withSection_passes basic argument passable
    obtain ⟨issued, transferred⟩ := transfers passedCount passedType opened carries
    obtain ⟨world, returned, restored⟩ := passes communicate _ _ transferred rfl
    refine Run.ensures_bind_of_returned returned ?_
    refine Run.ensures_bind_of_returned (call_of_returned (cMpiRcFix_success _)) ?_
    exact Run.ensures_pure ⟨rfl, restored, rfl⟩
  · obtain ⟨scattered, rejected⟩ := Classical.not_imp.mp passable
    have active : mpi.seatbelts = true := checked.resolve_right passable
    exact Run.ensures_bind_of_never
      (withSection_of_rejected basic argument active scattered rejected communicate)

private theorem cfiMpiPack_ensures (basic : process.world.types.Basic mpi)
    (argument : desc.Matches mpi process.world.types (cMpiTypeF2c mpi datatypeF) count)
    (checked : mpi.seatbelts = true ∨ desc.Passable mpi process.world.types count)
    (contiguous : mpi.cfiIsContiguous buffer = 1) (started : 0 ≤ position)
    (fits : position + (desc.elementBytes count).length ≤ size) :
    Run.Ensures (cfiMpiPack mpi desc count datatypeF buffer size position commF) process
      (Transferred mpi process (desc.elementBytes count).length position
        (process.memory.writeAll
          ((span (buffer.baseAddr + position) (desc.elementBytes count).length).zip
            ((desc.elementBytes count).map process.memory)))) := by
  rw [cfiMpiPack]
  simp only [contiguous, one_ne_zero, if_false]
  apply withSection_transferred basic argument checked
  intro passedCount passedType opened carries
  exact mpiPack_of_carries carries started fits

private theorem cfiMpiUnpack_ensures (basic : process.world.types.Basic mpi)
    (argument : desc.Matches mpi process.world.types (cMpiTypeF2c mpi datatypeF) count)
    (checked : mpi.seatbelts = true ∨ desc.Passable mpi process.world.types count)
    (contiguous : mpi.cfiIsContiguous buffer = 1) (started : 0 ≤ position)
    (fits : position + (desc.elementBytes count).length ≤ size) :
    Run.Ensures (cfiMpiUnpack mpi buffer size position desc count datatypeF commF) process
      (Transferred mpi process (desc.elementBytes count).length position
        (process.memory.writeAll
          ((desc.elementBytes count).zip
            ((span (buffer.baseAddr + position) (desc.elementBytes count).length).map
              process.memory)))) := by
  rw [cfiMpiUnpack]
  simp only [contiguous, one_ne_zero, if_false]
  apply withSection_transferred basic argument checked
  intro passedCount passedType opened carries
  exact mpiUnpack_of_carries carries started fits

end Wrappers

/-- Elements to pack from one section and to unpack to another. -/
structure PackItem where
  input : CDesc
  inputTypeF : Int
  output : CDesc
  outputTypeF : Int
  count : Nat

namespace PackItem

/-- Both sections match their datatypes, and their elements have one length. -/
structure Valid (mpi : Mpi) (types : TypeStore) (item : PackItem) : Prop where
  input : item.input.Matches mpi types (cMpiTypeF2c mpi item.inputTypeF) item.count
  output : item.output.Matches mpi types (cMpiTypeF2c mpi item.outputTypeF) item.count
  sameLength : item.input.elemLen = item.output.elemLen
  checked : mpi.seatbelts = true ∨
    item.input.Passable mpi types item.count ∧ item.output.Passable mpi types item.count

theorem Valid.of_restored {mpi : Mpi} {before after : TypeStore} {item : PackItem}
    (valid : item.Valid mpi before) (restored : before.Restored after) : item.Valid mpi after where
  input := valid.input.of_restored restored
  output := valid.output.of_restored restored
  sameLength := valid.sameLength
  checked := by
    simp only [CDesc.Passable, CDesc.accepted_iff_of_restored restored]
    exact valid.checked

theorem Valid.length_eq {mpi : Mpi} {types : TypeStore} {item : PackItem}
    (valid : item.Valid mpi types) :
    (item.output.elementBytes item.count).length =
      (item.input.elementBytes item.count).length := by
  simp [valid.sameLength]

def inputs (items : List PackItem) : List Int :=
  items.flatMap fun item => item.input.elementBytes item.count

def outputs (items : List PackItem) : List Int :=
  items.flatMap fun item => item.output.elementBytes item.count

/-- The positions after each item, and the codes. -/
def stops (mpi : Mpi) : List PackItem → Int → List (Int × Int)
  | [], _ => []
  | item :: items, position =>
      let next := position + (item.input.elementBytes item.count).length
      (next, mpi.errorClass .success) :: stops mpi items next

end PackItem

section Items

variable (mpi : Mpi) (buffer : CDesc) (size commF : Int)

/-- Packs one item after another, each from the position that the last one reached. -/
def packItems : List PackItem → Int → Wrapper (List (Int × Int))
  | [], _ => return []
  | item :: items, position => do
      let result ← cfiMpiPack mpi item.input item.count item.inputTypeF buffer size position commF
      let results ← packItems items result.1
      return result :: results

def unpackItems : List PackItem → Int → Wrapper (List (Int × Int))
  | [], _ => return []
  | item :: items, position => do
      let result ←
        cfiMpiUnpack mpi buffer size position item.output item.count item.outputTypeF commF
      let results ← unpackItems items result.1
      return result :: results

end Items

section RoundTrip

variable {mpi : Mpi} {process : Process} {items : List PackItem} {buffer : CDesc} {size : Nat}
variable {commF : Int}

/-- Packing writes the input bytes one behind the other. -/
theorem packItems_ensures (position : Nat) (basic : process.world.types.Basic mpi)
    (valid : ∀ item ∈ items, item.Valid mpi process.world.types)
    (contiguous : mpi.cfiIsContiguous buffer = 1)
    (fits : position + (PackItem.inputs items).length ≤ size)
    (apart : ∀ location ∈ PackItem.inputs items, location ∉ span buffer.baseAddr size) :
    Run.Ensures (packItems mpi buffer size commF items position) process fun results final =>
      results = PackItem.stops mpi items position ∧
      process.world.types.Restored final.world.types ∧
      final.memory = process.memory.writeAll
        ((span (buffer.baseAddr + position) (PackItem.inputs items).length).zip
          ((PackItem.inputs items).map process.memory)) := by
  induction items generalizing process position with
  | nil => exact Run.ensures_pure ⟨rfl, TypeStore.Restored.refl _, rfl⟩
  | cons item items ih =>
      have validItem := valid item List.mem_cons_self
      simp only [PackItem.inputs, List.flatMap_cons, List.length_append,
        List.mem_append] at fits apart
      rw [packItems]
      refine (cfiMpiPack_ensures basic validItem.input (validItem.checked.imp id And.left)
        contiguous (Int.natCast_nonneg position) (by omega)).bind ?_
      rintro result middle ⟨rfl, restored, packed⟩
      have rest := @ih middle (position + (item.input.elementBytes item.count).length)
        (basic.of_restored restored)
        (fun other member => (valid other (List.mem_cons_of_mem item member)).of_restored restored)
        (by rw [PackItem.inputs]; omega)
        (fun location member => apart location (Or.inr member))
      push_cast at rest
      refine rest.bind ?_
      rintro results final ⟨rfl, alsoRestored, stored⟩
      refine Run.ensures_pure ⟨rfl, restored.trans alsoRestored, ?_⟩
      have unread : (PackItem.inputs items).map middle.memory =
          (PackItem.inputs items).map process.memory := by
        rw [packed]
        apply Memory.map_writeAll_of_apart
        intro location member written
        apply apart location (Or.inr member)
        rw [List.map_fst_zip (by simp)] at written
        rw [mem_span] at written ⊢
        omega
      rw [stored, unread, packed, ← Memory.writeAll_append]
      simp only [PackItem.inputs, List.flatMap_cons, List.length_append, List.map_append,
        span_add]
      rw [List.zip_append (by simp), add_assoc]

/-- Unpacking takes the output bytes from where they are packed. -/
theorem unpackItems_ensures (position : Nat) (basic : process.world.types.Basic mpi)
    (valid : ∀ item ∈ items, item.Valid mpi process.world.types)
    (contiguous : mpi.cfiIsContiguous buffer = 1)
    (fits : position + (PackItem.outputs items).length ≤ size)
    (apart : ∀ location ∈ PackItem.outputs items, location ∉ span buffer.baseAddr size) :
    Run.Ensures (unpackItems mpi buffer size commF items position) process fun results final =>
      results = PackItem.stops mpi items position ∧
      final.memory = process.memory.writeAll
        ((PackItem.outputs items).zip
          ((span (buffer.baseAddr + position) (PackItem.outputs items).length).map
            process.memory)) := by
  induction items generalizing process position with
  | nil => exact Run.ensures_pure ⟨rfl, rfl⟩
  | cons item items ih =>
      have validItem := valid item List.mem_cons_self
      simp only [PackItem.outputs, List.flatMap_cons, List.length_append,
        List.mem_append] at fits apart
      rw [unpackItems]
      refine (cfiMpiUnpack_ensures basic validItem.output (validItem.checked.imp id And.right)
        contiguous (Int.natCast_nonneg position) (by omega)).bind ?_
      rintro result middle ⟨rfl, restored, unpacked⟩
      have rest := @ih middle (position + (item.output.elementBytes item.count).length)
        (basic.of_restored restored)
        (fun other member => (valid other (List.mem_cons_of_mem item member)).of_restored restored)
        (by rw [PackItem.outputs]; omega)
        (fun location member => apart location (Or.inr member))
      push_cast at rest
      refine rest.bind ?_
      rintro results final ⟨rfl, stored⟩
      refine Run.ensures_pure ⟨by rw [PackItem.stops, validItem.length_eq], ?_⟩
      have unread :
          (span (buffer.baseAddr + (position + (item.output.elementBytes item.count).length))
              (PackItem.outputs items).length).map middle.memory =
            (span (buffer.baseAddr + (position + (item.output.elementBytes item.count).length))
              (PackItem.outputs items).length).map process.memory := by
        rw [unpacked]
        apply Memory.map_writeAll_of_apart
        intro location member written
        rw [List.map_fst_zip (by simp)] at written
        apply apart location (Or.inl written)
        rw [PackItem.outputs] at member
        rw [mem_span] at member ⊢
        omega
      rw [stored, unread, unpacked, ← Memory.writeAll_append]
      simp only [PackItem.outputs, List.flatMap_cons, List.length_append, List.map_append,
        span_add]
      rw [List.zip_append (by simp), add_assoc]

private theorem length_outputs {types : TypeStore} (valid : ∀ item ∈ items, item.Valid mpi types) :
    (PackItem.outputs items).length = (PackItem.inputs items).length := by
  simp only [PackItem.outputs, PackItem.inputs, List.length_flatMap]
  congr 1
  exact List.map_congr_left fun item member => (valid item member).length_eq

/-- Unpacking gives back what was packed: element by element, whatever the shapes on
either side, from the same positions, and without touching another byte. -/
theorem unpackItems_packItems {middle final : Process}
    {packResults unpackResults : List (Int × Int)}
    (basic : process.world.types.Basic mpi)
    (valid : ∀ item ∈ items, item.Valid mpi process.world.types)
    (contiguous : mpi.cfiIsContiguous buffer = 1)
    (large : (PackItem.inputs items).length ≤ size)
    (inputsApart : ∀ location ∈ PackItem.inputs items, location ∉ span buffer.baseAddr size)
    (outputsApart : ∀ location ∈ PackItem.outputs items, location ∉ span buffer.baseAddr size)
    (separate : (PackItem.outputs items).Nodup)
    (packed : packItems mpi buffer size commF items 0 process = .returned (packResults, middle))
    (unpacked : unpackItems mpi buffer size commF items 0 middle =
      .returned (unpackResults, final)) :
    unpackResults = packResults ∧
    (∀ item ∈ items, ∀ n, n < item.count →
      (span (item.output.address n) item.output.elemLen).map final.memory =
        (span (item.input.address n) item.input.elemLen).map process.memory) ∧
    ∀ location, location ∉ PackItem.outputs items →
      final.memory location = middle.memory location := by
  have lengths := length_outputs valid
  obtain ⟨packStops, restored, stored⟩ := packItems_ensures 0 basic valid contiguous (by omega)
    inputsApart packResults middle packed
  obtain ⟨unpackStops, loaded⟩ := unpackItems_ensures 0 (basic.of_restored restored)
    (fun item member => (valid item member).of_restored restored) contiguous (by omega)
    outputsApart unpackResults final unpacked
  have between : (span (buffer.baseAddr + (0 : Nat)) (PackItem.outputs items).length).map
      middle.memory = (PackItem.inputs items).map process.memory := by
    rw [stored, lengths]
    exact Memory.map_writeAll_zip _ (nodup_span _ _) (by simp)
  rw [between] at loaded
  have through : (PackItem.outputs items).map final.memory =
      (PackItem.inputs items).map process.memory := by
    rw [loaded]
    exact Memory.map_writeAll_zip _ separate (by simp [lengths])
  refine ⟨unpackStops.trans packStops.symm, ?_, ?_⟩
  · intro item member n below
    have itemwise := Memory.map_chunks (fun other inside => (valid other inside).length_eq)
      through item member
    simp only [CDesc.elementBytes, List.flatMap_map] at itemwise
    exact Memory.map_chunks (fun _ _ => by simp [(valid item member).sameLength]) itemwise n
      (List.mem_range.mpr below)
  · intro location outside
    rw [loaded]
    apply Memory.writeAll_of_not_mem
    rwa [List.map_fst_zip (by simp [lengths])]

end RoundTrip

/-- Every second integer of one array, for consecutive places of another. -/
def gatheredIntegers : PackItem where
  input := integers 4096 2 8
  inputTypeF := fortranInteger
  output := integers 8192 2 4
  outputTypeF := fortranInteger
  count := 2

def sixteenBytes : CDesc :=
  sectionOf 0 1 257 [{ lowerBound := 0, extent := 16, sm := 1 }] (by decide)

theorem unpackItems_packItems_gathered :
    ∃ packResults middle unpackResults final,
      packItems mpich sixteenBytes (16 : Nat) 0 [gatheredIntegers] 0 startProcess =
          .returned (packResults, middle) ∧
      unpackItems mpich sixteenBytes (16 : Nat) 0 [gatheredIntegers] 0 middle =
          .returned (unpackResults, final) ∧
      unpackResults = packResults ∧
      ∀ n, n < 2 →
        (span ((integers 8192 2 4).address n) 4).map final.memory =
          (span ((integers 4096 2 8).address n) 4).map startProcess.memory := by
  have runs : (packItems mpich sixteenBytes (16 : Nat) 0 [gatheredIntegers] 0 startProcess >>=
      fun packed => unpackItems mpich sixteenBytes (16 : Nat) 0 [gatheredIntegers] 0 packed.2 >>=
        fun unpacked => .returned unpacked.1) = .returned [(8, 0)] := by decide +kernel
  obtain ⟨⟨packResults, middle⟩, packed, rest⟩ := Outcome.bind_eq_returned.mp runs
  obtain ⟨⟨unpackResults, final⟩, unpacked, -⟩ := Outcome.bind_eq_returned.mp rest
  have valid : ∀ item ∈ [gatheredIntegers], item.Valid mpich startProcess.world.types := by
    intro item member
    rw [List.mem_singleton.mp member]
    exact ⟨integers_matches (by decide), integers_matches (by decide), rfl, Or.inl rfl⟩
  obtain ⟨same, elements, -⟩ := unpackItems_packItems predefinedTypes_basic valid (by decide)
    (by decide) (by decide) (by decide) (by decide) packed unpacked
  exact ⟨packResults, middle, unpackResults, final, packed, unpacked, same,
    elements gatheredIntegers List.mem_cons_self⟩

end Vapaa
