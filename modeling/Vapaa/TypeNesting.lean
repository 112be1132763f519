import Vapaa.Datatypes
import Vapaa.Mpich

/-!
# Nested datatypes

What handles denote that nested calls of the constructors return, and which operations interpret
them so.
-/

set_option autoImplicit false

namespace Vapaa

open Foundation

inductive ArrayOrder where
  | c
  | fortran
  deriving DecidableEq, Repr

def ArrayOrder.vapaa : ArrayOrder → Int
  | .c => vapaaMpiOrderC
  | .fortran => vapaaMpiOrderFortran

/-- Nested calls that lead from a predefined datatype to a handle. -/
inductive TypeTree where
  | predefined (type : NamedType)
  | contiguous (count : Nat) (old : TypeTree)
  | vector (count blocklength : Nat) (stride : Int) (old : TypeTree)
  | subarray (slices : List Slice) (order : ArrayOrder) (old : TypeTree)
  | dup (old : TypeTree)
  | commit (old : TypeTree)

namespace TypeTree

section Denotation

variable (named : NamedType → Layout)

/-- The layout that a handle stands for. -/
def layout : TypeTree → Layout
  | .predefined type => named type
  | .contiguous count old => old.layout.contiguous count
  | .vector count blocklength stride old => old.layout.vector count blocklength stride
  | .subarray slices .c old => old.layout.subarray slices.reverse
  | .subarray slices .fortran old => old.layout.subarray slices
  | .dup old => old.layout
  | .commit old => old.layout

/-- The number of bytes in it. -/
def size : TypeTree → Nat
  | .predefined type => (named type).size
  | .contiguous count old => count * old.size
  | .vector count blocklength _ old => count * blocklength * old.size
  | .subarray slices _ old => (slices.map Slice.subsize).prod * old.size
  | .dup old => old.size
  | .commit old => old.size

private theorem size_layout (tree : TypeTree) : (tree.layout named).size = tree.size named := by
  induction tree with
  | predefined type => rfl
  | contiguous count old ih => rw [layout, Layout.size_contiguous, ih, size]
  | vector count blocklength stride old ih => rw [layout, Layout.size_vector, ih, size]
  | subarray slices order old ih =>
      cases order with
      | c => rw [layout, Layout.size_subarray, List.map_reverse, List.prod_reverse, ih, size]
      | fortran => rw [layout, Layout.size_subarray, ih, size]
  | dup old ih => exact ih
  | commit old ih => exact ih

end Denotation

/-- The library accepts the numbers, and has the predefined datatype. -/
def Valid (mpi : Mpi) : TypeTree → Prop
  | .predefined type => type ≠ .datatypeNull ∧ mpi.has (.datatype type)
  | .contiguous _ old | .vector _ _ _ old | .dup old | .commit old => old.Valid mpi
  | .subarray slices _ old => slices ≠ [] ∧ (∀ slice ∈ slices, slice.Inside) ∧ old.Valid mpi

/-- Not a predefined constant itself. -/
def Constructed : TypeTree → Prop
  | .predefined _ => False
  | _ => True

/-- Nothing duplicates or commits a predefined constant. -/
def Translated : TypeTree → Prop
  | .predefined _ => True
  | .contiguous _ old | .vector _ _ _ old | .subarray _ _ old => old.Translated
  | .dup old | .commit old => old.Constructed ∧ old.Translated

section Calls

variable (mpi : Mpi) (constants : TypeConstants)

/-- The calls; the result is the handle that Fortran has at the end. -/
def build : TypeTree → Call Int
  | .predefined type => return type.vapaa
  | .contiguous count old => do
      let oldtype ← old.build
      let (newtype, _) ← cMpiTypeContiguous mpi count oldtype
      return newtype
  | .vector count blocklength stride old => do
      let oldtype ← old.build
      let (newtype, _) ← cMpiTypeVector mpi count blocklength stride oldtype
      return newtype
  | .subarray slices order old => do
      let oldtype ← old.build
      let (newtype, _) ← cMpiTypeCreateSubarray mpi constants slices.length
        (slices.map fun slice => (slice.size : Int)) (slices.map fun slice => (slice.subsize : Int))
        (slices.map fun slice => (slice.start : Int)) order.vapaa oldtype
      return newtype
  | .dup old => do
      let oldtype ← old.build
      let (newtype, _) ← cMpiTypeDup mpi oldtype
      return newtype
  | .commit old => do
      let datatype ← old.build
      let (datatype, _) ← cMpiTypeCommit mpi datatype
      return datatype

end Calls

end TypeTree

section Interpretation

variable (mpi : Mpi)

/-- The layout that a Fortran handle stands for. -/
def Denotes (world : World) (handle : Int) (layout : Layout) : Prop :=
  ∃ object, world.types.object (cMpiTypeF2c mpi handle) = some object ∧ object.layout = layout

/-- A datatype of the library, now or later. -/
def LibraryType (types : TypeStore) (handle : Int) : Prop :=
  types.next ≤ handle ∨ ∃ object, types.object handle = some object

/-- The conversions of the library go back and forth between its own handles, and make no handle
of a VAPAA constant. -/
structure TypesConvert (types : TypeStore) : Prop where
  inverts : ∀ handle, LibraryType types handle →
    mpi.f2c .datatype (mpi.c2f .datatype handle) = handle
  invalid : ∀ type : NamedType, ¬ LibraryType types (mpi.f2c .datatype type.vapaa)

/-- The predefined datatypes are there. -/
def Provides (named : NamedType → Layout) (types : TypeStore) : Prop :=
  ∀ type, type ≠ .datatypeNull → mpi.has (.datatype type) →
    ∃ object, types.object (mpi.datatype type) = some object ∧ object.layout = named type

/-- Size, duplicate and commit interpret a handle as the tree tells. -/
structure Uniform (constants : TypeConstants) (named : NamedType → Layout) (tree : TypeTree)
    (handle : Int) (world : World) : Prop where
  sized : Run.Returns (cMpiTypeSize mpi constants handle) world fun result _ =>
    result = ((tree.size named : Int), mpi.errorClass .success)
  duplicated : Run.Returns (cMpiTypeDup mpi handle) world fun result final =>
    result.2 = mpi.errorClass .success ∧ Denotes mpi final result.1 (tree.layout named)
  committed : Run.Returns (cMpiTypeCommit mpi handle) world fun result final =>
    result.2 = mpi.errorClass .success ∧ Denotes mpi final result.1 (tree.layout named)

end Interpretation

section Conversion

variable {mpi : Mpi} {types : TypeStore} {type : NamedType}

theorem TypesConvert.created (convert : TypesConvert mpi types) {handle : Int}
    (created : types.next ≤ handle) :
    mpi.f2c .datatype (mpi.c2f .datatype handle) = handle ∧
      cMpiTypeF2c mpi (mpi.c2f .datatype handle) = handle := by
  have inverted := convert.inverts handle (Or.inl created)
  refine ⟨inverted, ?_⟩
  rw [cMpiTypeF2c, handleF2c_of_other, inverted]
  intro object member same
  obtain ⟨type, -, rfl⟩ := List.mem_map.mp member
  apply convert.invalid type
  have constant : mpi.c2f .datatype handle = type.vapaa := same.symm
  rw [← constant, inverted]
  exact Or.inl created

theorem TypesConvert.unknown (convert : TypesConvert mpi types) (type : NamedType) :
    types.object (mpi.f2c .datatype type.vapaa) = none := by
  cases live : types.object (mpi.f2c .datatype type.vapaa) with
  | none => rfl
  | some object => exact absurd (Or.inr ⟨object, live⟩) (convert.invalid type)

end Conversion

section Effects

variable {mpi : Mpi} {constants : TypeConstants} {world : World} {oldtypeF : Int}
variable {old : TypeObject}

/-- A new datatype, and nothing else changes. -/
def created (world : World) (layout : Layout) : World :=
  { world with
    types := world.types.create { combiner := .derived, layout := layout, committed := false } }

private theorem cMpiTypeContiguous_returned (count : Nat)
    (live : world.types.object (cMpiTypeF2c mpi oldtypeF) = some old) :
    cMpiTypeContiguous mpi count oldtypeF world =
      .returned ((mpi.c2f .datatype world.types.next, mpi.errorClass .success),
        created world (old.layout.contiguous count)) := by
  have call : mpiTypeContiguous mpi count (cMpiTypeF2c mpi oldtypeF) (mpi.datatype .datatypeNull)
      world = .returned ((mpi.errorClass .success, world.types.next),
        created world (old.layout.contiguous count)) := by
    have counted : ¬ (count : Int) < 0 := by omega
    simp only [mpiTypeContiguous, if_neg counted, live, Int.toNat_natCast]
    rfl
  rw [cMpiTypeContiguous, Run.bind_of_returned call]
  dsimp only
  rw [Run.bind_of_returned (cMpiRcFix_success _)]
  rfl

private theorem cMpiTypeVector_returned (count blocklength : Nat) (stride : Int)
    (live : world.types.object (cMpiTypeF2c mpi oldtypeF) = some old) :
    cMpiTypeVector mpi count blocklength stride oldtypeF world =
      .returned ((mpi.c2f .datatype world.types.next, mpi.errorClass .success),
        created world (old.layout.vector count blocklength stride)) := by
  have call : mpiTypeVector mpi count blocklength stride (cMpiTypeF2c mpi oldtypeF)
      (mpi.datatype .datatypeNull) world = .returned ((mpi.errorClass .success, world.types.next),
        created world (old.layout.vector count blocklength stride)) := by
    have counted : ¬ (count : Int) < 0 := by omega
    have long : ¬ (blocklength : Int) < 0 := by omega
    simp only [mpiTypeVector, if_neg counted, if_neg long, live, Int.toNat_natCast]
    rfl
  rw [cMpiTypeVector, Run.bind_of_returned call]
  dsimp only
  rw [Run.bind_of_returned (cMpiRcFix_success _)]
  rfl

private theorem cMpiTranslateMajor_vapaa (order : ArrayOrder) :
    cMpiTranslateMajor constants order.vapaa world =
      .returned (match order with
        | .c => constants.orderC
        | .fortran => constants.orderFortran, world) := by
  cases order with
  | c => rfl
  | fortran => rfl

private theorem slice?_inside {slice : Slice} (inside : slice.Inside) :
    slice? (slice.size, slice.subsize, slice.start) = some slice := by
  have fits : (1 : Int) ≤ slice.subsize ∧ (0 : Int) ≤ slice.start ∧
      (slice.start : Int) + slice.subsize ≤ slice.size := by
    obtain ⟨present, within⟩ := inside
    omega
  rw [slice?, if_pos fits]
  rfl

private theorem mapM_slice? {slices : List Slice} (inside : ∀ slice ∈ slices, slice.Inside) :
    (slices.map fun slice => ((slice.size : Int), (slice.subsize : Int), (slice.start : Int))).mapM
      slice? = some slices := by
  induction slices with
  | nil => rfl
  | cons slice slices ih =>
      have rest := ih fun other member => inside other (List.mem_cons_of_mem _ member)
      rw [List.map_cons, List.mapM_cons, slice?_inside (inside slice List.mem_cons_self), rest]
      rfl

private theorem loadFirst_map_some {values : List Int} {length : Nat}
    (complete : values.length = length) :
    Cells.loadFirst length (values.map some) = .returned values := by
  subst complete
  exact Cells.loadFirst_set values

private theorem mpiTypeCreateSubarray_returned {slices : List Slice} {newtype oldtype : Int}
    (order : ArrayOrder) (present : slices ≠ []) (inside : ∀ slice ∈ slices, slice.Inside)
    (live : world.types.object oldtype = some old) :
    mpiTypeCreateSubarray mpi constants slices.length
        (slices.map fun slice => (slice.size : Int)) (slices.map fun slice => (slice.subsize : Int))
        (slices.map fun slice => (slice.start : Int)) (match order with
          | .c => constants.orderC
          | .fortran => constants.orderFortran) oldtype newtype world =
      .returned ((mpi.errorClass .success, world.types.next),
        created world (old.layout.subarray (match order with
          | .c => slices.reverse
          | .fortran => slices))) := by
  have positive : 0 < slices.length := List.length_pos_iff.mpr present
  have known : ¬ ((slices.length : Int) < 1 ∨
      ((match order with
        | .c => constants.orderC
        | .fortran => constants.orderFortran) ≠ constants.orderC ∧
      (match order with
        | .c => constants.orderC
        | .fortran => constants.orderFortran) ≠ constants.orderFortran)) := by
    cases order with
    | c => simp; omega
    | fortran => simp; omega
  rw [mpiTypeCreateSubarray, Int.toNat_natCast, loadFirst_map_some (List.length_map _),
    loadFirst_map_some (List.length_map _), loadFirst_map_some (List.length_map _),
    Run.bind_of_returned (Run.ofOutcome_returned _ _),
    Run.bind_of_returned (Run.ofOutcome_returned _ _),
    Run.bind_of_returned (Run.ofOutcome_returned _ _), if_neg known, List.zip_map', List.zip_map',
    mapM_slice? inside]
  simp only [live]
  cases order with
  | c => rw [if_pos rfl]; rfl
  | fortran => rw [if_neg constants.orders_ne.symm]; rfl

private theorem cMpiTypeCreateSubarray_returned {slices : List Slice} (order : ArrayOrder)
    (present : slices ≠ []) (inside : ∀ slice ∈ slices, slice.Inside)
    (live : world.types.object (cMpiTypeF2c mpi oldtypeF) = some old) :
    cMpiTypeCreateSubarray mpi constants slices.length
        (slices.map fun slice => (slice.size : Int)) (slices.map fun slice => (slice.subsize : Int))
        (slices.map fun slice => (slice.start : Int)) order.vapaa oldtypeF world =
      .returned ((mpi.c2f .datatype world.types.next, mpi.errorClass .success),
        created world (old.layout.subarray (match order with
          | .c => slices.reverse
          | .fortran => slices))) := by
  rw [cMpiTypeCreateSubarray]
  dsimp only
  rw [Run.bind_of_returned (cMpiTranslateMajor_vapaa order),
    Run.bind_of_returned (mpiTypeCreateSubarray_returned order present inside live)]
  dsimp only
  rw [Run.bind_of_returned (cMpiRcFix_success _)]
  rfl

private theorem cMpiTypeDup_returned
    (live : world.types.object (mpi.f2c .datatype oldtypeF) = some old) :
    cMpiTypeDup mpi oldtypeF world =
      .returned ((mpi.c2f .datatype world.types.next, mpi.errorClass .success),
        { world with types := world.types.create { old with combiner := .derived } }) := by
  have call : mpiTypeDup mpi (mpi.f2c .datatype oldtypeF) none world =
      .returned ((mpi.errorClass .success, some world.types.next),
        { world with types := world.types.create { old with combiner := .derived } }) := by
    simp only [mpiTypeDup, live]
  rw [cMpiTypeDup]
  dsimp only
  rw [Run.bind_of_returned call]
  dsimp only
  rw [Run.bind_of_returned (Run.readSet_some _ _), Run.bind_of_returned (cMpiRcFix_success _)]
  rfl

/-- The duplicate of nothing is never set. -/
theorem cMpiTypeDup_unset (dead : world.types.object (mpi.f2c .datatype oldtypeF) = none) :
    cMpiTypeDup mpi oldtypeF world = .undefined .unsetValue := by
  have call : mpiTypeDup mpi (mpi.f2c .datatype oldtypeF) none world =
      .returned ((mpi.errorClass .errType, none), world) := by
    simp only [mpiTypeDup, dead]
  rw [cMpiTypeDup]
  dsimp only
  rw [Run.bind_of_returned call]
  rfl

theorem cMpiTypeCommit_returned
    (live : world.types.object (mpi.f2c .datatype oldtypeF) = some old) :
    cMpiTypeCommit mpi oldtypeF world =
      .returned ((mpi.c2f .datatype (mpi.f2c .datatype oldtypeF), mpi.errorClass .success),
        { world with types := world.types.commit (mpi.f2c .datatype oldtypeF) }) := by
  have call : pmpiTypeCommit mpi (mpi.f2c .datatype oldtypeF) world =
      .returned (mpi.errorClass .success,
        { world with types := world.types.commit (mpi.f2c .datatype oldtypeF) }) := by
    simp only [pmpiTypeCommit, live]
  rw [cMpiTypeCommit]
  dsimp only
  rw [Run.bind_of_returned call, Run.bind_of_returned (cMpiRcFix_success _)]
  rfl

private theorem cMpiTypeSize_returned
    (live : world.types.object (mpi.f2c .datatype oldtypeF) = some old) :
    cMpiTypeSize mpi constants oldtypeF world =
      .returned ((if (old.layout.size : Int) ≤ intMax then old.layout.size else constants.undefined,
        mpi.errorClass .success), world) := by
  have call : mpiTypeSize mpi constants (mpi.f2c .datatype oldtypeF) 0 world =
      .returned ((mpi.errorClass .success,
        if (old.layout.size : Int) ≤ intMax then old.layout.size else constants.undefined),
        world) := by
    simp only [mpiTypeSize, live]
  rw [cMpiTypeSize]
  dsimp only
  rw [Run.bind_of_returned call]
  dsimp only
  rw [Run.bind_of_returned (cMpiRcFix_success _)]
  rfl

end Effects

section Runs

variable {mpi : Mpi} {constants : TypeConstants} {named : NamedType → Layout}
variable {types : TypeStore} {tree : TypeTree} {handle : Int} {world : World}

/-- Where nested calls that start from a store of datatypes end. -/
structure Reaches (mpi : Mpi) (named : NamedType → Layout) (types : TypeStore) (tree : TypeTree)
    (handle : Int) (world : World) : Prop where
  later : types.next ≤ world.types.next
  denotes : Denotes mpi world handle (tree.layout named)
  raw : tree.Constructed → ∃ created, types.next ≤ created ∧ handle = mpi.c2f .datatype created
  foreign : ¬ tree.Constructed → world.types.object (mpi.f2c .datatype handle) = none

private theorem reaches_created (convert : TypesConvert mpi types) {object : TypeObject}
    (later : types.next ≤ world.types.next) (constructed : tree.Constructed)
    (same : object.layout = tree.layout named) :
    Reaches mpi named types tree (mpi.c2f .datatype world.types.next)
      { world with types := world.types.create object } := by
  constructor
  · exact later.trans (by simp)
  · refine ⟨object, ?_, same⟩
    rw [(convert.created later).2]
    exact TypeStore.create_object_next _ _
  · exact fun _ => ⟨world.types.next, later, rfl⟩
  · exact fun bare => absurd constructed bare

/-- The library reads the handle of a constructed datatype as the conversion does. -/
theorem Reaches.live (reaches : Reaches mpi named types tree handle world)
    (convert : TypesConvert mpi types) (constructed : tree.Constructed) :
    ∃ object, world.types.object (mpi.f2c .datatype handle) = some object ∧
      object.layout = tree.layout named ∧
      mpi.c2f .datatype (mpi.f2c .datatype handle) = handle ∧
      cMpiTypeF2c mpi handle = mpi.f2c .datatype handle := by
  obtain ⟨created, later, rfl⟩ := reaches.raw constructed
  obtain ⟨inverted, translated⟩ := convert.created later
  obtain ⟨object, live, same⟩ := reaches.denotes
  rw [translated] at live
  exact ⟨object, by rw [inverted, live], same, by rw [inverted], by rw [translated, inverted]⟩

theorem Reaches.commit (reaches : Reaches mpi named types tree handle world)
    (convert : TypesConvert mpi types) (constructed : tree.Constructed) :
    Run.Returns (cMpiTypeCommit mpi handle) world fun result final =>
      result = (handle, mpi.errorClass .success) ∧
        Reaches mpi named types (.commit tree) handle final := by
  obtain ⟨object, live, same, kept, translated⟩ := reaches.live convert constructed
  refine Run.returns_of_returned (cMpiTypeCommit_returned live) ⟨by rw [kept], ?_⟩
  constructor
  · exact reaches.later
  · refine ⟨{ object with committed := true }, ?_, same⟩
    rw [translated]
    simp [TypeStore.commit, live]
  · exact fun _ => reaches.raw constructed
  · exact fun bare => absurd trivial bare

/-- Nested calls return a handle that denotes the layout of the tree. -/
theorem build_reaches (convert : TypesConvert mpi world.types)
    (provides : Provides mpi named world.types) (valid : tree.Valid mpi)
    (translated : tree.Translated) :
    Run.Returns (tree.build mpi constants) world (Reaches mpi named world.types tree) := by
  induction tree with
  | predefined type =>
      obtain ⟨object, live, same⟩ := provides type valid.1 valid.2
      refine Run.returns_pure ⟨le_refl _, ⟨object, ?_, same⟩, False.elim, fun _ => ?_⟩
      · rw [cMpiTypeF2c_vapaa valid.2, live]
      · exact convert.unknown type
  | contiguous count old ih =>
      refine (ih valid translated).bind fun oldtype middle reaches => ?_
      obtain ⟨object, live, same⟩ := reaches.denotes
      refine Run.returns_bind_of_returned (cMpiTypeContiguous_returned count live) ?_
      refine Run.returns_pure (reaches_created convert reaches.later trivial ?_)
      rw [TypeTree.layout, ← same]
  | vector count blocklength stride old ih =>
      refine (ih valid translated).bind fun oldtype middle reaches => ?_
      obtain ⟨object, live, same⟩ := reaches.denotes
      refine Run.returns_bind_of_returned
        (cMpiTypeVector_returned count blocklength stride live) ?_
      refine Run.returns_pure (reaches_created convert reaches.later trivial ?_)
      rw [TypeTree.layout, ← same]
  | subarray slices order old ih =>
      refine (ih valid.2.2 translated).bind fun oldtype middle reaches => ?_
      obtain ⟨object, live, same⟩ := reaches.denotes
      refine Run.returns_bind_of_returned
        (cMpiTypeCreateSubarray_returned order valid.1 valid.2.1 live) ?_
      refine Run.returns_pure (reaches_created convert reaches.later trivial ?_)
      cases order with
      | c => rw [TypeTree.layout, ← same]
      | fortran => rw [TypeTree.layout, ← same]
  | dup old ih =>
      refine (ih valid translated.2).bind fun oldtype middle reaches => ?_
      obtain ⟨object, live, same, -⟩ := reaches.live convert translated.1
      refine Run.returns_bind_of_returned (cMpiTypeDup_returned live) ?_
      exact Run.returns_pure (reaches_created convert reaches.later trivial same)
  | commit old ih =>
      refine (ih valid translated.2).bind fun datatype middle reaches => ?_
      refine (reaches.commit convert translated.1).bind fun result final committed => ?_
      obtain ⟨rfl, reached⟩ := committed
      exact Run.returns_pure reached

/-- The three operations agree on a handle exactly when it is no predefined constant and the size
is an `int`. -/
theorem Reaches.uniform_iff (reaches : Reaches mpi named types tree handle world)
    (convert : TypesConvert mpi types) (small : constants.undefined ≤ intMax) :
    Uniform mpi constants named tree handle world ↔
      tree.Constructed ∧ (tree.size named : Int) ≤ intMax := by
  constructor
  · intro uniform
    have constructed : tree.Constructed := by
      by_contra bare
      exact Run.not_returns_of_undefined (cMpiTypeDup_unset (reaches.foreign bare))
        uniform.duplicated
    obtain ⟨object, live, same, -⟩ := reaches.live convert constructed
    refine ⟨constructed, ?_⟩
    obtain ⟨_, _, result, sized⟩ := uniform.sized
    rw [cMpiTypeSize_returned live, same, TypeTree.size_layout] at result
    cases result
    have answer := congrArg Prod.fst sized
    dsimp only at answer
    split_ifs at answer with fits
    · exact fits
    · omega
  · rintro ⟨constructed, fits⟩
    obtain ⟨object, live, same, -⟩ := reaches.live convert constructed
    constructor
    · refine Run.returns_of_returned (cMpiTypeSize_returned live) ?_
      rw [same, TypeTree.size_layout, if_pos fits]
    · refine Run.returns_of_returned (cMpiTypeDup_returned live) ⟨rfl, ?_⟩
      have reached := @reaches_created mpi named types (.dup tree) world convert
        { object with combiner := .derived } reaches.later trivial same
      exact reached.denotes
    · refine (reaches.commit convert constructed).mono ?_
      rintro _ final ⟨rfl, reached⟩
      exact ⟨rfl, reached.denotes⟩

/-- Nested calls that duplicate and commit no predefined constant return a handle of the layout
that the tree denotes, and size, duplicate and commit agree on it exactly when it is no predefined
constant itself and its size is an `int`. -/
theorem nestedTypes_uniform_iff {mpi : Mpi} {constants : TypeConstants}
    {named : NamedType → Layout} {world : World} {tree : TypeTree}
    (convert : TypesConvert mpi world.types) (provides : Provides mpi named world.types)
    (small : constants.undefined ≤ intMax) (valid : tree.Valid mpi)
    (translated : tree.Translated) :
    Run.Returns (tree.build mpi constants) world fun handle final =>
      Denotes mpi final handle (tree.layout named) ∧
      (Uniform mpi constants named tree handle final ↔
        tree.Constructed ∧ (tree.size named : Int) ≤ intMax) :=
  (build_reaches convert provides valid translated).mono fun _ _ reaches =>
    ⟨reaches.denotes, reaches.uniform_iff convert small⟩

end Runs

section Examples

def mpichTypes : TypeConstants where
  orderC := 56
  orderFortran := 57
  undefined := -32766
  orders_ne := by decide

def mpichLayout (type : NamedType) : Layout :=
  match predefinedTypes.object (mpich.datatype type) with
  | some object => object.layout
  | none => { map := [], lb := 0, extent := 0 }

theorem mpich_convert : TypesConvert mpich predefinedTypes := by
  constructor
  · exact fun _ _ => rfl
  · intro type
    have unknown : ∀ type ∈ NamedType.table, type.vapaa < predefinedTypes.next ∧
        predefinedTypes.object type.vapaa = none := by decide
    obtain ⟨below, dead⟩ := unknown type (by cases type <;> decide)
    rintro (later | ⟨object, live⟩)
    · exact absurd below (not_lt.mpr later)
    · rw [show mpich.f2c .datatype type.vapaa = type.vapaa from rfl, dead] at live
      cases live

theorem mpich_provides : Provides mpich mpichLayout predefinedTypes := by
  intro type other _
  have known : ∀ type ∈ NamedType.table, type ≠ .datatypeNull →
      (predefinedTypes.object (mpich.datatype type)).isSome := by decide
  obtain ⟨object, live⟩ := Option.isSome_iff_exists.mp
    (known type (by cases type <;> decide) other)
  exact ⟨object, live, by rw [mpichLayout, live]⟩

def committedVector : TypeTree := .commit (.vector 2 3 5 (.predefined .integer))

theorem nestedTypes_uniform_vector :
    Run.Returns (committedVector.build mpich mpichTypes) startWorld fun handle final =>
      Uniform mpich mpichTypes mpichLayout committedVector handle final := by
  have valid : committedVector.Valid mpich := ⟨by decide, by decide⟩
  have translated : committedVector.Translated := ⟨trivial, trivial⟩
  refine (@nestedTypes_uniform_iff mpich mpichTypes mpichLayout startWorld committedVector
    mpich_convert mpich_provides (by decide) valid translated).mono ?_
  intro handle final holds
  exact holds.2.mpr ⟨trivial, by decide⟩

/-- The size of `MPI_INTEGER` is an error and 0, its duplicate is never set, and committing it is
an error. -/
theorem predefinedTypes_unread :
    (cMpiTypeSize mpich mpichTypes NamedType.integer.vapaa startWorld >>= fun result =>
      .returned result.1) = .returned (0, ErrorClass.errType.vapaa) ∧
    cMpiTypeDup mpich NamedType.integer.vapaa startWorld = .undefined .unsetValue ∧
    (cMpiTypeCommit mpich NamedType.integer.vapaa startWorld >>= fun result =>
      .returned result.1.2) = .returned ErrorClass.errType.vapaa ∧
    mpichLayout .integer = { map := [⟨mpich.datatype .integer, 4, 0⟩], lb := 0, extent := 4 } ∧
    ¬ Uniform mpich mpichTypes mpichLayout (.predefined .integer) NamedType.integer.vapaa
      startWorld := by
  have unset : cMpiTypeDup mpich NamedType.integer.vapaa startWorld = .undefined .unsetValue := rfl
  refine ⟨by decide +kernel, unset, by decide +kernel, rfl, fun uniform => ?_⟩
  exact Run.not_returns_of_undefined unset uniform.duplicated

end Examples

end Vapaa
