import Mathlib.Data.List.GetD
import Mathlib.Order.Monotone.Basic
import Vapaa.Foundation.Memory

/-!
# Stores of files

Files with names, and handles that see parts of them: opening and closing, sizes, views, and the
transfer of values between a file and a memory.
-/

set_option autoImplicit false

namespace Foundation

/-- What a handle sees of a file: copies of a pattern of places, one after another. Offsets count in
units of a number of places. -/
structure FileView where
  displacement : Nat
  unit : Nat
  pattern : List Nat
  extent : Nat
  nonempty : pattern ≠ []
  rising : pattern.Pairwise (· < ·)
  within : ∀ place ∈ pattern, place < extent

namespace FileView

/-- The whole file. -/
def whole : FileView where
  displacement := 0
  unit := 1
  pattern := [0]
  extent := 1
  nonempty := by decide
  rising := by decide
  within := by decide

variable (view : FileView)

/-- Where the places of a view lie in the file. -/
def position (k : Nat) : Nat :=
  view.displacement + k / view.pattern.length * view.extent +
    view.pattern.getD (k % view.pattern.length) 0

def positions (start length : Nat) : List Nat :=
  (List.range length).map fun i => view.position (start + i)

theorem length_pos : 0 < view.pattern.length := List.length_pos_iff.mpr view.nonempty

theorem position_strictMono : StrictMono view.position := by
  apply strictMono_nat_of_lt_succ
  intro k
  have positive := view.length_pos
  have inside := Nat.mod_lt k positive
  have split := Nat.div_add_mod k view.pattern.length
  by_cases last : k % view.pattern.length + 1 = view.pattern.length
  · -- the next place begins another copy
    have next : k + 1 = view.pattern.length * (k / view.pattern.length + 1) := by
      rw [Nat.mul_add]
      omega
    have quotient : (k + 1) / view.pattern.length = k / view.pattern.length + 1 := by
      rw [next, Nat.mul_div_cancel_left _ positive]
    have rest : (k + 1) % view.pattern.length = 0 := by rw [next, Nat.mul_mod_right]
    have below := view.within _ (List.getElem_mem inside)
    simp only [position, quotient, rest, List.getD_eq_getElem _ _ inside, Nat.add_mul]
    omega
  · have more : k % view.pattern.length + 1 < view.pattern.length := by omega
    have next : k + 1 = k % view.pattern.length + 1 + view.pattern.length *
        (k / view.pattern.length) := by omega
    have quotient : (k + 1) / view.pattern.length = k / view.pattern.length := by
      rw [next, Nat.add_mul_div_left _ _ positive, Nat.div_eq_of_lt more, Nat.zero_add]
    have rest : (k + 1) % view.pattern.length = k % view.pattern.length + 1 := by
      rw [next, Nat.add_mul_mod_self_left, Nat.mod_eq_of_lt more]
    have rises := List.pairwise_iff_getElem.mp view.rising _ _ inside more (Nat.lt_succ_self _)
    simp only [position, quotient, rest, List.getD_eq_getElem _ _ inside,
      List.getD_eq_getElem _ _ more]
    omega

@[simp] theorem length_positions (start length : Nat) :
    (view.positions start length).length = length := by
  simp [positions]

theorem positions_nodup (start length : Nat) : (view.positions start length).Nodup :=
  List.Nodup.map (fun _ _ same => Nat.add_left_cancel (view.position_strictMono.injective same))
    List.nodup_range

end FileView

section Contents

variable {V : Type} (fill : Nat → V)

/-- A file of another size; what it gains holds arbitrary values. -/
def resize (content : List V) (size : Nat) : List V :=
  (List.range size).map fun i => content.getD i (fill i)

/-- A value at a place of a file, which grows as far as needed. -/
def put (content : List V) (write : Nat × V) : List V :=
  (resize fill content (max content.length (write.1 + 1))).set write.1 write.2

def putAll (content : List V) (writes : List (Nat × V)) : List V := writes.foldl (put fill) content

/-- The values at some places, as far as the file has them. -/
def gather (content : List V) (places : List Nat) : List V := places.filterMap (content[·]?)

variable {fill} {content : List V}

theorem getElem?_resize {size i : Nat} (inside : i < size) (present : i < content.length) :
    (resize fill content size)[i]? = content[i]? := by
  simp [resize, inside, present]

@[simp] theorem length_resize (size : Nat) : (resize fill content size).length = size := by
  simp [resize]

@[simp] theorem length_put (write : Nat × V) :
    (put fill content write).length = max content.length (write.1 + 1) := by
  simp [put]

theorem getElem?_put_same (place : Nat) (value : V) :
    (put fill content (place, value))[place]? = some value := by
  have inside : place < max content.length (place + 1) := by omega
  simp [put, inside]

theorem getElem?_put_of_ne {write : Nat × V} {i : Nat} (other : i ≠ write.1)
    (present : i < content.length) : (put fill content write)[i]? = content[i]? := by
  rw [put, List.getElem?_set_ne (Ne.symm other), getElem?_resize (by omega) present]

theorem getElem?_putAll_of_not_mem {writes : List (Nat × V)} {i : Nat}
    (spared : i ∉ writes.map Prod.fst) (present : i < content.length) :
    (putAll fill content writes)[i]? = content[i]? := by
  induction writes generalizing content with
  | nil => rfl
  | cons write writes ih =>
      rw [List.map_cons, List.mem_cons, not_or] at spared
      have kept : i < (put fill content write).length := by
        rw [length_put]
        omega
      exact (ih spared.2 kept).trans (getElem?_put_of_ne spared.1 present)

theorem getElem?_putAll_of_mem {writes : List (Nat × V)} (distinct : (writes.map Prod.fst).Nodup)
    {place : Nat} {value : V} (member : (place, value) ∈ writes) :
    (putAll fill content writes)[place]? = some value := by
  induction writes generalizing content with
  | nil => cases member
  | cons write writes ih =>
      rw [List.map_cons, List.nodup_cons] at distinct
      cases List.mem_cons.mp member with
      | inl here =>
          subst here
          have present : place < (put fill content (place, value)).length := by
            rw [length_put]
            omega
          exact (getElem?_putAll_of_not_mem distinct.1 present).trans (getElem?_put_same place value)
      | inr later => exact ih distinct.2 later

theorem gather_of_present {places : List Nat} {values : List V}
    (present : places.map (content[·]?) = values.map some) : gather content places = values := by
  induction places generalizing values with
  | nil =>
      cases values with
      | nil => rfl
      | cons value values => cases present
  | cons place places ih =>
      cases values with
      | nil => cases present
      | cons value values =>
          simp only [List.map_cons, List.cons.injEq] at present
          rw [gather, List.filterMap_cons, present.1]
          exact congrArg _ (ih present.2)

end Contents

/-- How a file is opened. -/
structure AccessModes where
  append : Bool
  create : Bool
  deleteOnClose : Bool
  excl : Bool
  readable : Bool
  writable : Bool
  deriving DecidableEq

structure OpenFile (N : Type) where
  name : N
  modes : AccessModes
  view : FileView
  /-- Where the next transfer without an offset begins, in units. -/
  pointer : Nat

/-- Files, the handles of those that are open, and a memory. -/
structure FileState (N H A V : Type) where
  files : N → Option (List V)
  handles : List (H × OpenFile N)
  memory : Memory A V

inductive Direction where
  | reading
  | writing
  deriving DecidableEq

inductive FileAction (N H A : Type) where
  | opens (name : N) (modes : AccessModes) (handle : H)
  | closes (handle : H)
  | deletes (name : N)
  | resizes (handle : H) (size : Nat)
  | preallocates (handle : H) (size : Nat)
  | measures (handle : H) (size : Nat)
  | views (handle : H) (view : FileView)
  | transfers (direction : Direction) (handle : H) (offset : Option Nat) (locations : List A)
  /-- A call that fails and has no effect. -/
  | refused

namespace FileState

variable {N H A V : Type} [DecidableEq N] [DecidableEq H] [DecidableEq A]

def lookup (state : FileState N H A V) (handle : H) : Option (OpenFile N) :=
  (state.handles.find? fun entry => entry.1 = handle).map Prod.snd

def remove (state : FileState N H A V) (handle : H) : FileState N H A V :=
  { state with handles := state.handles.filter fun entry => entry.1 ≠ handle }

def assign (state : FileState N H A V) (handle : H) (file : OpenFile N) : FileState N H A V :=
  { state with handles := (handle, file) :: state.handles.filter fun entry => entry.1 ≠ handle }

def setContent (state : FileState N H A V) (name : N) (content : Option (List V)) :
    FileState N H A V :=
  { state with files := fun other => if other = name then content else state.files other }

/-- The places of a file that a transfer reaches. -/
def places (file : OpenFile N) (offset : Option Nat) (count : Nat) : List Nat :=
  file.view.positions (offset.getD file.pointer * file.view.unit) count

/-- A transfer without an offset moves the pointer behind what it has transferred. -/
def advanced (file : OpenFile N) (offset : Option Nat) (count : Nat) : OpenFile N :=
  match offset with
  | some _ => file
  | none => { file with pointer := file.pointer + count / file.view.unit }

/-- What a file holds when it is opened, where it can be. -/
def initial (state : FileState N H A V) (name : N) (modes : AccessModes) : Option (List V) :=
  match state.files name with
  | some content => if modes.create ∧ modes.excl then none else some content
  | none => if modes.create then some [] else none

/-- An open file with what it holds, where its modes allow an action. -/
def accessible (state : FileState N H A V) (handle : H) (allowed : AccessModes → Bool) :
    Option (OpenFile N × List V) :=
  (state.lookup handle).bind fun file =>
    if allowed file.modes then (state.files file.name).map fun content => (file, content) else none

variable (fill : Nat → V)

/-- What an action does, where it can succeed. -/
def step (state : FileState N H A V) : FileAction N H A → Option (FileState N H A V)
  | .opens name modes handle =>
      if state.lookup handle = none then
        (state.initial name modes).map fun content =>
          (state.setContent name (some content)).assign handle
            { name := name, modes := modes, view := .whole
              pointer := if modes.append then content.length else 0 }
      else none
  | .closes handle =>
      (state.lookup handle).map fun file =>
        if file.modes.deleteOnClose then (state.remove handle).setContent file.name none
        else state.remove handle
  | .deletes name =>
      if state.files name ≠ none ∧ ∀ entry ∈ state.handles, entry.2.name ≠ name then
        some (state.setContent name none)
      else none
  | .resizes handle size =>
      (state.accessible handle AccessModes.writable).map fun (file, content) =>
        state.setContent file.name (some (resize fill content size))
  | .preallocates handle size =>
      (state.accessible handle AccessModes.writable).map fun (file, content) =>
        state.setContent file.name (some (resize fill content (max content.length size)))
  | .measures handle size =>
      (state.accessible handle fun _ => true).bind fun (_, content) =>
        if content.length = size then some state else none
  | .views handle view =>
      (state.lookup handle).map fun file =>
        state.assign handle { file with view := view, pointer := 0 }
  | .transfers .reading handle offset locations =>
      (state.accessible handle AccessModes.readable).map fun (file, content) =>
        let found := gather content (places file offset locations.length)
        { state with memory := state.memory.writeAll (locations.zip found) }.assign handle
          (advanced file offset found.length)
  | .transfers .writing handle offset locations =>
      (state.accessible handle AccessModes.writable).map fun (file, content) =>
        let written := (places file offset locations.length).zip (locations.map state.memory)
        (state.setContent file.name (some (putAll fill content written))).assign handle
          (advanced file offset locations.length)
  | .refused => some state

def run (state : FileState N H A V) (actions : List (FileAction N H A)) :
    Option (FileState N H A V) :=
  actions.foldlM (step fill) state

end FileState

section Laws

variable {N H A V : Type} [DecidableEq N] [DecidableEq H] [DecidableEq A] {fill : Nat → V}
variable {state next last : FileState N H A V} {name : N} {action : FileAction N H A}
variable {actions : List (FileAction N H A)} {handle : H} {file : OpenFile N}

namespace FileState

omit [DecidableEq N] [DecidableEq A] in
@[simp] theorem files_assign : (state.assign handle file).files = state.files := rfl

omit [DecidableEq N] [DecidableEq A] in
@[simp] theorem files_remove : (state.remove handle).files = state.files := rfl

omit [DecidableEq H] [DecidableEq A] in
theorem files_setContent_same {content : Option (List V)} :
    (state.setContent name content).files name = content := if_pos rfl

omit [DecidableEq H] [DecidableEq A] in
theorem files_setContent_of_ne {other : N} {content : Option (List V)} (different : name ≠ other) :
    (state.setContent other content).files name = state.files name := if_neg different

omit [DecidableEq N] [DecidableEq A] in
theorem mem_of_lookup (opened : state.lookup handle = some file) :
    (handle, file) ∈ state.handles := by
  rw [lookup, Option.map_eq_some_iff] at opened
  obtain ⟨entry, found, rfl⟩ := opened
  have same : entry.1 = handle := by simpa using List.find?_some found
  exact same ▸ List.mem_of_find?_eq_some found

theorem run_cons {rest : List (FileAction N H A)}
    (ran : state.run fill (action :: rest) = some last) :
    ∃ next, state.step fill action = some next ∧ next.run fill rest = some last := by
  rw [run, List.foldlM_cons] at ran
  exact Option.bind_eq_some_iff.mp ran

omit [DecidableEq N] [DecidableEq A] in
theorem accessible_eq_some {allowed : AccessModes → Bool} {content : List V} :
    state.accessible handle allowed = some (file, content) ↔
      state.lookup handle = some file ∧ allowed file.modes = true ∧
        state.files file.name = some content := by
  rw [accessible, Option.bind_eq_some_iff]
  constructor
  · rintro ⟨other, opened, found⟩
    split at found
    · rename_i grants
      obtain ⟨stored, present, same⟩ := Option.map_eq_some_iff.mp found
      cases same
      exact ⟨opened, grants, present⟩
    · cases found
  · rintro ⟨opened, grants, present⟩
    exact ⟨file, opened, by rw [if_pos grants, present]; rfl⟩

omit [DecidableEq N] [DecidableEq H] [DecidableEq A] in
theorem initial_cases {modes : AccessModes} {content : List V}
    (initially : state.initial name modes = some content) :
    state.files name = some content ∨ state.files name = none ∧ content = [] := by
  rw [initial] at initially
  cases stored : state.files name with
  | none =>
      simp only [stored] at initially
      split at initially
      · cases initially
        exact Or.inr ⟨rfl, rfl⟩
      · cases initially
  | some old =>
      simp only [stored] at initially
      split at initially
      · cases initially
      · cases initially
        exact Or.inl rfl

theorem step_opens {modes : AccessModes}
    (steps : state.step fill (.opens name modes handle) = some next) :
    ∃ content, (state.files name = some content ∨ state.files name = none ∧ content = []) ∧
      next = (state.setContent name (some content)).assign handle
        { name := name, modes := modes, view := .whole
          pointer := if modes.append then content.length else 0 } := by
  rw [step] at steps
  split at steps
  · obtain ⟨content, initially, made⟩ := Option.map_eq_some_iff.mp steps
    exact ⟨content, initial_cases initially, made.symm⟩
  · cases steps

theorem step_closes (steps : state.step fill (.closes handle) = some next) :
    ∃ file, state.lookup handle = some file ∧
      next = if file.modes.deleteOnClose then (state.remove handle).setContent file.name none
        else state.remove handle := by
  obtain ⟨file, opened, made⟩ := Option.map_eq_some_iff.mp steps
  exact ⟨file, opened, made.symm⟩

theorem step_deletes (steps : state.step fill (.deletes name) = some next) :
    (∀ entry ∈ state.handles, entry.2.name ≠ name) ∧ next = state.setContent name none := by
  rw [step] at steps
  split at steps
  · rename_i unused
    exact ⟨unused.2, (Option.some.inj steps).symm⟩
  · cases steps

/-- A file gets another size, or at least a size, through a handle that may write. -/
theorem step_sizes {size : Nat} (steps : state.step fill (.resizes handle size) = some next ∨
      state.step fill (.preallocates handle size) = some next) :
    ∃ file content changed, state.lookup handle = some file ∧ file.modes.writable = true ∧
      state.files file.name = some content ∧
      (changed = size ∨ content.length ≤ changed) ∧
      next = state.setContent file.name (some (resize fill content changed)) := by
  cases steps with
  | inl resizes =>
      obtain ⟨⟨file, content⟩, found, made⟩ := Option.map_eq_some_iff.mp resizes
      obtain ⟨opened, writable, present⟩ := accessible_eq_some.mp found
      exact ⟨file, content, size, opened, writable, present, Or.inl rfl, made.symm⟩
  | inr preallocates =>
      obtain ⟨⟨file, content⟩, found, made⟩ := Option.map_eq_some_iff.mp preallocates
      obtain ⟨opened, writable, present⟩ := accessible_eq_some.mp found
      exact ⟨file, content, _, opened, writable, present, Or.inr (le_max_left _ _), made.symm⟩

theorem step_measures {size : Nat} (steps : state.step fill (.measures handle size) = some next) :
    ∃ file content, state.lookup handle = some file ∧ state.files file.name = some content ∧
      content.length = size ∧ next = state := by
  obtain ⟨⟨file, content⟩, found, checked⟩ := Option.bind_eq_some_iff.mp steps
  obtain ⟨opened, -, present⟩ := accessible_eq_some.mp found
  simp only [Option.ite_none_right_eq_some, Option.some.injEq] at checked
  exact ⟨file, content, opened, present, checked.1, checked.2.symm⟩

theorem step_views {view : FileView} (steps : state.step fill (.views handle view) = some next) :
    ∃ file, state.lookup handle = some file ∧
      next = state.assign handle { file with view := view, pointer := 0 } := by
  obtain ⟨file, opened, made⟩ := Option.map_eq_some_iff.mp steps
  exact ⟨file, opened, made.symm⟩

theorem step_reads {offset : Option Nat} {locations : List A}
    (steps : state.step fill (.transfers .reading handle offset locations) = some next) :
    ∃ file content, state.lookup handle = some file ∧ file.modes.readable = true ∧
      state.files file.name = some content ∧
      next = { state with
        memory := state.memory.writeAll
          (locations.zip (gather content (places file offset locations.length))) }.assign handle
        (advanced file offset (gather content (places file offset locations.length)).length) := by
  obtain ⟨⟨file, content⟩, found, made⟩ := Option.map_eq_some_iff.mp steps
  obtain ⟨opened, readable, present⟩ := accessible_eq_some.mp found
  exact ⟨file, content, opened, readable, present, made.symm⟩

theorem step_writes {offset : Option Nat} {locations : List A}
    (steps : state.step fill (.transfers .writing handle offset locations) = some next) :
    ∃ file content, state.lookup handle = some file ∧ file.modes.writable = true ∧
      state.files file.name = some content ∧
      next = (state.setContent file.name (some (putAll fill content
          ((places file offset locations.length).zip (locations.map state.memory))))).assign handle
        (advanced file offset locations.length) := by
  obtain ⟨⟨file, content⟩, found, made⟩ := Option.map_eq_some_iff.mp steps
  obtain ⟨opened, writable, present⟩ := accessible_eq_some.mp found
  exact ⟨file, content, opened, writable, present, made.symm⟩

end FileState

/-- An action leaves a place of a file alone. -/
def FileAction.Spares (state : FileState N H A V) (name : N) (place : Nat) :
    FileAction N H A → Prop
  | .deletes other => other ≠ name
  | .closes handle => ∀ file, state.lookup handle = some file → file.name = name →
      file.modes.deleteOnClose = false
  | .resizes handle size => ∀ file, state.lookup handle = some file → file.name = name →
      place < size
  | .transfers .writing handle offset locations => ∀ file, state.lookup handle = some file →
      file.name = name → place ∉ FileState.places file offset locations.length
  | _ => True

/-- A file holds a value at a place. -/
def FileState.Has (state : FileState N H A V) (name : N) (place : Nat) (value : V) : Prop :=
  ∃ content, state.files name = some content ∧ content[place]? = some value

omit [DecidableEq H] [DecidableEq A] in
theorem FileState.Has.setContent {place : Nat} {value : V} {other : N} {content changed : List V}
    (has : state.Has name place value) (here : state.files other = some content)
    (kept : other = name → place < content.length → changed[place]? = content[place]?) :
    (state.setContent other (some changed)).Has name place value := by
  obtain ⟨old, stored, found⟩ := has
  by_cases same : name = other
  · subst same
    rw [stored] at here
    cases here
    refine ⟨changed, FileState.files_setContent_same, ?_⟩
    rw [kept rfl (List.getElem?_eq_some_iff.mp found).1, found]
  · exact ⟨old, (FileState.files_setContent_of_ne same).trans stored, found⟩

theorem FileState.Has.step {place : Nat} {value : V} (has : state.Has name place value)
    (steps : state.step fill action = some next) (spares : action.Spares state name place) :
    next.Has name place value := by
  obtain ⟨content, stored, found⟩ := has
  have present := (List.getElem?_eq_some_iff.mp found).1
  cases action with
  | opens other modes handle =>
      obtain ⟨initial, initially, rfl⟩ := FileState.step_opens steps
      by_cases same : name = other
      · subst same
        cases initially with
        | inl kept =>
            rw [stored] at kept
            cases kept
            exact ⟨content, FileState.files_setContent_same, found⟩
        | inr made =>
            rw [stored] at made
            cases made.1
      · exact ⟨content, (FileState.files_setContent_of_ne same).trans stored, found⟩
  | closes handle =>
      obtain ⟨file, opened, rfl⟩ := FileState.step_closes steps
      split
      · rename_i deletes
        by_cases same : name = file.name
        · have kept := spares file opened same.symm
          rw [deletes] at kept
          cases kept
        · exact ⟨content, (FileState.files_setContent_of_ne same).trans stored, found⟩
      · exact ⟨content, stored, found⟩
  | deletes other =>
      obtain ⟨-, rfl⟩ := FileState.step_deletes steps
      exact ⟨content, (FileState.files_setContent_of_ne (Ne.symm spares)).trans stored, found⟩
  | resizes handle size =>
      obtain ⟨⟨file, old⟩, reached, rfl⟩ := Option.map_eq_some_iff.mp steps
      obtain ⟨opened, -, here⟩ := FileState.accessible_eq_some.mp reached
      have has : state.Has name place value := ⟨content, stored, found⟩
      exact has.setContent here fun same inside =>
        getElem?_resize (spares file opened same) inside
  | preallocates handle size =>
      obtain ⟨⟨file, old⟩, reached, rfl⟩ := Option.map_eq_some_iff.mp steps
      obtain ⟨opened, -, here⟩ := FileState.accessible_eq_some.mp reached
      have has : state.Has name place value := ⟨content, stored, found⟩
      exact has.setContent here fun same inside =>
        getElem?_resize (inside.trans_le (le_max_left _ _)) inside
  | measures handle size =>
      obtain ⟨-, -, -, -, -, rfl⟩ := FileState.step_measures steps
      exact ⟨content, stored, found⟩
  | views handle view =>
      obtain ⟨-, -, rfl⟩ := FileState.step_views steps
      exact ⟨content, stored, found⟩
  | transfers direction handle offset locations =>
      cases direction with
      | reading =>
          obtain ⟨-, -, -, -, -, rfl⟩ := FileState.step_reads steps
          exact ⟨content, stored, found⟩
      | writing =>
          obtain ⟨file, old, opened, -, here, rfl⟩ := FileState.step_writes steps
          have has : state.Has name place value := ⟨content, stored, found⟩
          refine has.setContent here fun same inside =>
            getElem?_putAll_of_not_mem (fun member => ?_) inside
          rw [List.map_fst_zip (by simp [FileState.places])] at member
          exact spares file opened same member
  | refused =>
      cases steps
      exact ⟨content, stored, found⟩

/-- No action of a run changes a place of a file. -/
def FileState.SparedRun (fill : Nat → V) (name : N) (place : Nat) :
    FileState N H A V → List (FileAction N H A) → Prop
  | _, [] => True
  | state, action :: rest => action.Spares state name place ∧
      ∀ next, state.step fill action = some next → FileState.SparedRun fill name place next rest

theorem FileState.Has.run {place : Nat} {value : V} (has : state.Has name place value)
    (ran : state.run fill actions = some last)
    (spared : FileState.SparedRun fill name place state actions) : last.Has name place value := by
  induction actions generalizing state with
  | nil =>
      cases ran
      exact has
  | cons action rest ih =>
      obtain ⟨next, steps, ran⟩ := FileState.run_cons ran
      exact ih (has.step steps spared.1) ran (spared.2 next steps)

/-- After a write, the file holds what was written, place by place. -/
theorem FileState.has_written {offset : Option Nat} {locations : List A}
    (steps : state.step fill (.transfers .writing handle offset locations) = some next)
    (opened : state.lookup handle = some file) {place : Nat} {value : V}
    (paired : (place, value) ∈
      (FileState.places file offset locations.length).zip (locations.map state.memory)) :
    next.Has file.name place value := by
  obtain ⟨other, content, again, -, -, rfl⟩ := FileState.step_writes steps
  rw [opened] at again
  cases again
  refine ⟨_, FileState.files_setContent_same, getElem?_putAll_of_mem ?_ paired⟩
  rw [List.map_fst_zip (by simp [FileState.places])]
  exact file.view.positions_nodup _ _

/-- What was written is read back wherever the same places are read, if no action in between has
changed them. -/
theorem FileState.read_back {written later : FileState N H A V} {offset again : Option Nat}
    {origin target : List A} {other : H} {otherFile : OpenFile N}
    (writes : state.step fill (.transfers .writing handle offset origin) = some written)
    (opened : state.lookup handle = some file)
    (between : written.run fill actions = some later)
    (spared : ∀ place ∈ FileState.places file offset origin.length,
      FileState.SparedRun fill file.name place written actions)
    (reads : later.step fill (.transfers .reading other again target) = some last)
    (openedAgain : later.lookup other = some otherFile) (sameFile : otherFile.name = file.name)
    (samePlaces : FileState.places otherFile again target.length =
      FileState.places file offset origin.length)
    (distinct : target.Nodup) : target.map last.memory = origin.map state.memory := by
  obtain ⟨reading, content, found, -, stored, rfl⟩ := FileState.step_reads reads
  rw [openedAgain] at found
  cases found
  have many : (FileState.places file offset origin.length).length = (origin.map state.memory).length :=
    by simp [FileState.places]
  have present : (FileState.places file offset origin.length).map (content[·]?) =
      (origin.map state.memory).map some := by
    apply List.ext_getElem (by simpa using many)
    intro i below _
    simp only [List.length_map] at below
    have inside : i < (origin.map state.memory).length := many ▸ below
    have paired : ((FileState.places file offset origin.length)[i], (origin.map state.memory)[i]) ∈
        (FileState.places file offset origin.length).zip (origin.map state.memory) :=
      List.mem_iff_getElem.mpr ⟨i, by simp only [List.length_zip]; omega, by simp⟩
    have holds := (FileState.has_written writes opened paired).run between
      (spared _ (List.getElem_mem below))
    obtain ⟨held, here, value⟩ := holds
    rw [← sameFile, stored] at here
    cases here
    simpa using value
  have same : target.length = origin.length := by
    have lengths := congrArg List.length samePlaces
    simpa [FileState.places] using lengths
  rw [samePlaces, gather_of_present present]
  exact Memory.map_writeAll_zip _ distinct (by simp [same])

/-- No handle of a file writes to it or deletes it. -/
def FileState.OnlyRead (state : FileState N H A V) (name : N) : Prop :=
  ∀ entry ∈ state.handles, entry.2.name = name →
    entry.2.modes.writable = false ∧ entry.2.modes.deleteOnClose = false

/-- An action opens a file only for reading, and does not delete it. -/
def FileAction.OnlyReads (name : N) : FileAction N H A → Prop
  | .opens other modes _ => other = name → modes.writable = false ∧ modes.deleteOnClose = false
  | .deletes other => other ≠ name
  | _ => True

omit [DecidableEq N] [DecidableEq A] in
theorem FileState.OnlyRead.assign (only : state.OnlyRead name)
    (kept : file.name = name → file.modes.writable = false ∧ file.modes.deleteOnClose = false) :
    (state.assign handle file).OnlyRead name := by
  intro entry member named
  cases List.mem_cons.mp member with
  | inl same =>
      subst same
      exact kept named
  | inr other => exact only entry (List.mem_of_mem_filter other) named

theorem FileState.OnlyRead.step {content : List V} (only : state.OnlyRead name)
    (stored : state.files name = some content) (reads : action.OnlyReads name)
    (steps : state.step fill action = some next) :
    next.OnlyRead name ∧ next.files name = some content := by
  have guarded {handle : H} {file : OpenFile N} (opened : state.lookup handle = some file)
      (writable : file.modes.writable = true) : name ≠ file.name := by
    intro same
    have kept := only _ (FileState.mem_of_lookup opened) same.symm
    rw [writable] at kept
    cases kept.1
  cases action with
  | opens other modes handle =>
      obtain ⟨initial, initially, rfl⟩ := FileState.step_opens steps
      refine ⟨FileState.OnlyRead.assign only reads, ?_⟩
      by_cases same : name = other
      · subst same
        rw [stored] at initially
        cases initially with
        | inl kept =>
            cases kept
            exact FileState.files_setContent_same
        | inr made => cases made.1
      · exact (FileState.files_setContent_of_ne same).trans stored
  | closes handle =>
      obtain ⟨file, opened, rfl⟩ := FileState.step_closes steps
      have removed : (state.remove handle).OnlyRead name := fun entry member =>
        only entry (List.mem_of_mem_filter member)
      split
      · rename_i deletes
        refine ⟨removed, (FileState.files_setContent_of_ne fun same => ?_).trans stored⟩
        have kept := only _ (FileState.mem_of_lookup opened) same.symm
        rw [deletes] at kept
        cases kept.2
      · exact ⟨removed, stored⟩
  | deletes other =>
      obtain ⟨-, rfl⟩ := FileState.step_deletes steps
      exact ⟨only, (FileState.files_setContent_of_ne (Ne.symm reads)).trans stored⟩
  | resizes handle size =>
      obtain ⟨file, -, -, opened, writable, -, -, rfl⟩ := FileState.step_sizes (Or.inl steps)
      exact ⟨only, (FileState.files_setContent_of_ne (guarded opened writable)).trans stored⟩
  | preallocates handle size =>
      obtain ⟨file, -, -, opened, writable, -, -, rfl⟩ := FileState.step_sizes (Or.inr steps)
      exact ⟨only, (FileState.files_setContent_of_ne (guarded opened writable)).trans stored⟩
  | measures handle size =>
      obtain ⟨-, -, -, -, -, rfl⟩ := FileState.step_measures steps
      exact ⟨only, stored⟩
  | views handle view =>
      obtain ⟨file, opened, rfl⟩ := FileState.step_views steps
      exact ⟨only.assign fun same => only _ (FileState.mem_of_lookup opened) same, stored⟩
  | transfers direction handle offset locations =>
      cases direction with
      | reading =>
          obtain ⟨file, content, opened, -, -, rfl⟩ := FileState.step_reads steps
          refine ⟨FileState.OnlyRead.assign only fun same => ?_, stored⟩
          cases offset <;> exact only _ (FileState.mem_of_lookup opened) same
      | writing =>
          obtain ⟨file, content, opened, writable, -, rfl⟩ := FileState.step_writes steps
          have other := guarded opened writable
          refine ⟨FileState.OnlyRead.assign only fun same => ?_,
            (FileState.files_setContent_of_ne other).trans stored⟩
          cases offset <;> exact absurd same.symm other
  | refused =>
      cases steps
      exact ⟨only, stored⟩

theorem FileState.OnlyRead.run {content : List V} (only : state.OnlyRead name)
    (stored : state.files name = some content)
    (reads : ∀ action ∈ actions, FileAction.OnlyReads name action)
    (ran : state.run fill actions = some last) : last.files name = some content := by
  induction actions generalizing state with
  | nil =>
      cases ran
      exact stored
  | cons action rest ih =>
      obtain ⟨next, steps, ran⟩ := FileState.run_cons ran
      obtain ⟨still, kept⟩ := only.step stored (reads action List.mem_cons_self) steps
      exact ih still kept (fun other member => reads other (List.mem_cons_of_mem _ member)) ran

end Laws

end Foundation
