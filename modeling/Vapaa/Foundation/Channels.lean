import Mathlib.Logic.Function.Basic
import Vapaa.Foundation.Memory

/-!
# Channels

Parties with memories that send each other messages. A message is copied when it is sent, or lies
in the memory of its sender until it is copied or transferred.
-/

set_option autoImplicit false

namespace Foundation

structure Envelope (P T : Type) where
  sender : P
  receiver : P
  tag : T
  deriving DecidableEq, Repr

/-- A message under way: its values, or where its sender has them. -/
inductive Outgoing (L V : Type) where
  | copied (values : List V)
  | lying (locations : List L)
  deriving DecidableEq, Repr

def Outgoing.values {L V : Type} (memory : Memory L V) : Outgoing L V → List V
  | .copied values => values
  | .lying locations => locations.map memory

/-- Memories, and for each envelope the messages under way and the locations that await one, the
oldest first. -/
@[ext] structure Channels (P T L V : Type) where
  memory : P → Memory L V
  sends : Envelope P T → List (Outgoing L V)
  receives : Envelope P T → List (List L)

inductive ChannelEvent (P T L V : Type) where
  | send (envelope : Envelope P T) (locations : List L)
  | isend (envelope : Envelope P T) (locations : List L)
  | recv (envelope : Envelope P T) (locations : List L)
  | irecv (envelope : Envelope P T) (locations : List L)
  /-- The oldest message of an envelope arrives where one is awaited. -/
  | transfer (envelope : Envelope P T)
  /-- The message of an envelope that is under way behind `n` others is copied. -/
  | buffer (envelope : Envelope P T) (n : Nat)
  | store (party : P) (location : L) (value : V)

/-- A message is copied instead of lying in memory. -/
def ChannelEvent.early {P T L V : Type} : ChannelEvent P T L V → ChannelEvent P T L V
  | .isend envelope locations => .send envelope locations
  | event => event

namespace Channels

section Steps

variable {P T L V : Type} [DecidableEq P] [DecidableEq T] [DecidableEq L]

def enqueue (channels : Channels P T L V) (envelope : Envelope P T) (message : Outgoing L V) :
    Channels P T L V :=
  { channels with
    sends := Function.update channels.sends envelope (channels.sends envelope ++ [message]) }

def await (channels : Channels P T L V) (envelope : Envelope P T) (locations : List L) :
    Channels P T L V :=
  { channels with receives :=
      Function.update channels.receives envelope (channels.receives envelope ++ [locations]) }

def writeAt (channels : Channels P T L V) (party : P) (writes : List (L × V)) :
    Channels P T L V :=
  { channels with memory :=
      Function.update channels.memory party ((channels.memory party).writeAll writes) }

/-- The values of a message under way. -/
def valuesOf (channels : Channels P T L V) (envelope : Envelope P T) (message : Outgoing L V) :
    List V :=
  message.values (channels.memory envelope.sender)

def copy (channels : Channels P T L V) (envelope : Envelope P T) (n : Nat)
    (message : Outgoing L V) : Channels P T L V :=
  { channels with
    sends := Function.update channels.sends envelope
      ((channels.sends envelope).set n (.copied (channels.valuesOf envelope message))) }

/-- A message that fits arrives; others remain. -/
def arrive (channels : Channels P T L V) (envelope : Envelope P T) (message : Outgoing L V)
    (later : List (Outgoing L V)) (locations : List L) (waiting : List (List L)) :
    Option (Channels P T L V) :=
  if (channels.valuesOf envelope message).length ≤ locations.length then
    some { channels.writeAt envelope.receiver
        (locations.zip (channels.valuesOf envelope message)) with
      sends := Function.update channels.sends envelope later
      receives := Function.update channels.receives envelope waiting }
  else none

def step (channels : Channels P T L V) : ChannelEvent P T L V → Option (Channels P T L V)
  | .send envelope locations =>
      some (channels.enqueue envelope (.copied (locations.map (channels.memory envelope.sender))))
  | .isend envelope locations => some (channels.enqueue envelope (.lying locations))
  | .recv envelope locations =>
      match channels.sends envelope, channels.receives envelope with
      | message :: later, [] => channels.arrive envelope message later locations []
      | _, _ => none
  | .irecv envelope locations => some (channels.await envelope locations)
  | .transfer envelope =>
      match channels.sends envelope, channels.receives envelope with
      | message :: later, locations :: waiting =>
          channels.arrive envelope message later locations waiting
      | _, _ => none
  | .buffer envelope n => (channels.sends envelope)[n]?.map (channels.copy envelope n)
  | .store party location value => some (channels.writeAt party [(location, value)])

def run (channels : Channels P T L V) : List (ChannelEvent P T L V) → Option (Channels P T L V)
  | [] => some channels
  | event :: events => (channels.step event).bind fun next => next.run events

theorem arrive_eq_some {channels next : Channels P T L V} {envelope : Envelope P T}
    {message : Outgoing L V} {later : List (Outgoing L V)} {locations : List L}
    {waiting : List (List L)}
    (arrives : channels.arrive envelope message later locations waiting = some next) :
    (channels.valuesOf envelope message).length ≤ locations.length ∧
      next = { channels.writeAt envelope.receiver
          (locations.zip (channels.valuesOf envelope message)) with
        sends := Function.update channels.sends envelope later
        receives := Function.update channels.receives envelope waiting } := by
  rw [arrive] at arrives
  split_ifs at arrives with fits
  exact ⟨fits, (Option.some.inj arrives).symm⟩

/-- What an arrival does: a message leaves its channel, for the locations of a call or for the
oldest ones that await it. -/
inductive Arrival (channels next : Channels P T L V) (envelope : Envelope P T)
    (message : Outgoing L V) (locations : List L) : Prop where
  | intro (later : List (Outgoing L V)) (waiting : List (List L))
      (first : channels.sends envelope = message :: later)
      (fewer : ∀ other ∈ waiting, other ∈ channels.receives envelope)
      (arrives : channels.arrive envelope message later locations waiting = some next)

theorem recv_arrival {channels next : Channels P T L V} {envelope : Envelope P T}
    {locations : List L} (steps : channels.step (.recv envelope locations) = some next) :
    ∃ message, Arrival channels next envelope message locations := by
  simp only [step] at steps
  split at steps
  · rename_i message later first none
    refine ⟨message, later, [], first, ?_, steps⟩
    intro other member
    cases member
  · cases steps

theorem transfer_arrival {channels next : Channels P T L V} {envelope : Envelope P T}
    (steps : channels.step (.transfer envelope) = some next) :
    ∃ message locations, locations ∈ channels.receives envelope ∧
      Arrival channels next envelope message locations := by
  simp only [step] at steps
  split at steps
  · rename_i message later locations waiting first awaited
    refine ⟨message, locations, awaited ▸ List.mem_cons_self, later, waiting, first, ?_, steps⟩
    intro other member
    exact awaited ▸ List.mem_cons_of_mem _ member
  · cases steps

end Steps

section Care

variable {P T L V : Type}

/-- A message of a party still lies there. -/
def Lying (channels : Channels P T L V) (party : P) (location : L) : Prop :=
  ∃ envelope locations, envelope.sender = party ∧ Outgoing.lying locations ∈ channels.sends envelope ∧
    location ∈ locations

/-- The party awaits a message there. -/
def Awaited (channels : Channels P T L V) (party : P) (location : L) : Prop :=
  ∃ envelope locations, envelope.receiver = party ∧ locations ∈ channels.receives envelope ∧
    location ∈ locations

/-- Nothing is written where a message still lies, or may be so later. -/
def Careful (channels : Channels P T L V) : ChannelEvent P T L V → Prop
  | .send _ _ | .transfer _ | .buffer _ _ => True
  | .isend envelope locations => ∀ location ∈ locations, ¬ channels.Awaited envelope.sender location
  | .recv envelope locations | .irecv envelope locations =>
      ∀ location ∈ locations, ¬ channels.Lying envelope.receiver location
  | .store party location _ => ¬ channels.Lying party location

def Separated (channels : Channels P T L V) : Prop :=
  ∀ party location, channels.Lying party location → ¬ channels.Awaited party location

end Care

section Invariant

variable {P T L V : Type} [DecidableEq P] [DecidableEq T] [DecidableEq L]
variable {channels next : Channels P T L V} {envelope : Envelope P T} {message : Outgoing L V}
variable {locations : List L} {event : ChannelEvent P T L V}

omit [DecidableEq L] in
theorem lying_of_enqueue {party : P} {location : L}
    (lying : (channels.enqueue envelope message).Lying party location) :
    channels.Lying party location ∨
      envelope.sender = party ∧ ∃ locations, message = .lying locations ∧ location ∈ locations := by
  obtain ⟨other, places, sender, member, inside⟩ := lying
  by_cases same : other = envelope
  · subst same
    simp only [enqueue, Function.update_self, List.mem_append, List.mem_singleton] at member
    cases member with
    | inl earlier => exact Or.inl ⟨other, places, sender, earlier, inside⟩
    | inr here => exact Or.inr ⟨sender, places, here.symm, inside⟩
  · simp only [enqueue, Function.update_of_ne same] at member
    exact Or.inl ⟨other, places, sender, member, inside⟩

omit [DecidableEq L] in
theorem awaited_of_await {party : P} {location : L}
    (awaited : (channels.await envelope locations).Awaited party location) :
    channels.Awaited party location ∨ envelope.receiver = party ∧ location ∈ locations := by
  obtain ⟨other, places, receiver, member, inside⟩ := awaited
  by_cases same : other = envelope
  · subst same
    simp only [await, Function.update_self, List.mem_append, List.mem_singleton] at member
    cases member with
    | inl earlier => exact Or.inl ⟨other, places, receiver, earlier, inside⟩
    | inr here => exact Or.inr ⟨receiver, here ▸ inside⟩
  · simp only [await, Function.update_of_ne same] at member
    exact Or.inl ⟨other, places, receiver, member, inside⟩

omit [DecidableEq L] in
theorem lying_of_copy {n : Nat} {party : P} {location : L}
    (lying : (channels.copy envelope n message).Lying party location) :
    channels.Lying party location := by
  obtain ⟨other, places, sender, member, inside⟩ := lying
  refine ⟨other, places, sender, ?_, inside⟩
  by_cases same : other = envelope
  · subst same
    simp only [copy, Function.update_self] at member
    rcases List.mem_or_eq_of_mem_set member with earlier | copied
    · exact earlier
    · cases copied
  · simpa only [copy, Function.update_of_ne same] using member

theorem Arrival.lying {party : P} {location : L}
    (arrival : Arrival channels next envelope message locations)
    (lying : next.Lying party location) : channels.Lying party location := by
  obtain ⟨later, waiting, first, -, arrives⟩ := arrival
  obtain ⟨-, rfl⟩ := arrive_eq_some arrives
  obtain ⟨other, places, sender, member, inside⟩ := lying
  refine ⟨other, places, sender, ?_, inside⟩
  by_cases same : other = envelope
  · subst same
    simp only [Function.update_self] at member
    exact first ▸ List.mem_cons_of_mem _ member
  · simpa only [Function.update_of_ne same] using member

theorem Arrival.awaited {party : P} {location : L}
    (arrival : Arrival channels next envelope message locations)
    (awaited : next.Awaited party location) : channels.Awaited party location := by
  obtain ⟨later, waiting, -, fewer, arrives⟩ := arrival
  obtain ⟨-, rfl⟩ := arrive_eq_some arrives
  obtain ⟨other, places, receiver, member, inside⟩ := awaited
  refine ⟨other, places, receiver, ?_, inside⟩
  by_cases same : other = envelope
  · subst same
    simp only [Function.update_self] at member
    exact fewer places member
  · simpa only [Function.update_of_ne same] using member

theorem Separated.of_arrival (separated : channels.Separated)
    (arrival : Arrival channels next envelope message locations) : next.Separated :=
  fun party location lying awaited =>
    separated party location (arrival.lying lying) (arrival.awaited awaited)

theorem Separated.step (separated : channels.Separated) (careful : channels.Careful event)
    (steps : channels.step event = some next) : next.Separated := by
  cases event with
  | send envelope locations =>
      cases steps
      intro party location lying
      rcases lying_of_enqueue lying with before | ⟨-, places, same, -⟩
      · exact separated party location before
      · cases same
  | isend envelope locations =>
      cases steps
      intro party location lying
      rcases lying_of_enqueue lying with before | ⟨rfl, places, same, inside⟩
      · exact separated party location before
      · cases same
        exact careful location inside
  | recv envelope locations =>
      obtain ⟨message, arrival⟩ := recv_arrival steps
      exact separated.of_arrival arrival
  | irecv envelope locations =>
      cases steps
      intro party location lying awaited
      rcases awaited_of_await awaited with before | ⟨rfl, inside⟩
      · exact separated party location lying before
      · exact careful location inside lying
  | transfer envelope =>
      obtain ⟨message, locations, -, arrival⟩ := transfer_arrival steps
      exact separated.of_arrival arrival
  | buffer envelope n =>
      obtain ⟨message, -, rfl⟩ := Option.map_eq_some_iff.mp steps
      exact fun party location lying => separated party location (lying_of_copy lying)
  | store party location value =>
      cases steps
      exact separated

end Invariant

section Logs

variable {P T L V : Type} [DecidableEq P] [DecidableEq T] [DecidableEq L]

/-- The values under way, as they are now. -/
def underway (channels : Channels P T L V) (envelope : Envelope P T) : List (List V) :=
  (channels.sends envelope).map (channels.valuesOf envelope)

/-- What an event sends, as it is at that moment. -/
def sentBy (channels : Channels P T L V) (envelope : Envelope P T) :
    ChannelEvent P T L V → List (List V)
  | .send other locations | .isend other locations =>
      if other = envelope then [locations.map (channels.memory other.sender)] else []
  | _ => []

/-- What arrives with an event. -/
def arrivedBy (channels : Channels P T L V) (envelope : Envelope P T) :
    ChannelEvent P T L V → List (List V)
  | .recv other _ | .transfer other =>
      if other = envelope then (channels.underway envelope).take 1 else []
  | _ => []

/-- A log of a run, from what each event adds to it. -/
def logged {α : Type} (log : Channels P T L V → ChannelEvent P T L V → List α)
    (channels : Channels P T L V) : List (ChannelEvent P T L V) → List α
  | [] => []
  | event :: events => log channels event ++
      match channels.step event with
      | some next => next.logged log events
      | none => []

/-- Every event of a run is careful where it happens. -/
def CarefulRun (channels : Channels P T L V) : List (ChannelEvent P T L V) → Prop
  | [] => True
  | event :: events => channels.Careful event ∧
      ∀ next, channels.step event = some next → next.CarefulRun events

/-- All messages under way are copied. -/
def settled (channels : Channels P T L V) : Channels P T L V :=
  { channels with sends := fun envelope => (channels.underway envelope).map .copied }

end Logs

section Delivery

variable {P T L V : Type} [DecidableEq P] [DecidableEq T] [DecidableEq L]
variable {channels next : Channels P T L V} {envelope other : Envelope P T}
variable {message : Outgoing L V} {locations : List L} {event : ChannelEvent P T L V}

omit [DecidableEq T] in
/-- Values under way change only where a message lies. -/
theorem valuesOf_writeAt {party : P} {writes : List (L × V)}
    (careful : ∀ location ∈ writes.map Prod.fst, ¬ channels.Lying party location)
    (member : message ∈ channels.sends envelope) :
    (channels.writeAt party writes).valuesOf envelope message = channels.valuesOf envelope message := by
  cases message with
  | copied values => rfl
  | lying locations =>
      by_cases same : envelope.sender = party
      · subst same
        have apart : ∀ location ∈ locations, location ∉ writes.map Prod.fst := by
          intro location inside written
          exact careful location written ⟨envelope, locations, rfl, member, inside⟩
        simpa [valuesOf, writeAt, Outgoing.values] using Memory.map_writeAll_of_apart apart
      · simp only [valuesOf, writeAt, Outgoing.values, Function.update_of_ne same]

omit [DecidableEq P] [DecidableEq T] [DecidableEq L] in
theorem singly {party : P} {location : L} {value : V} (careful : ¬ channels.Lying party location) :
    ∀ place ∈ [(location, value)].map Prod.fst, ¬ channels.Lying party place := by
  intro place member
  rw [List.mem_singleton.mp member]
  exact careful

omit [DecidableEq T] in
theorem underway_writeAt {party : P} {writes : List (L × V)}
    (careful : ∀ location ∈ writes.map Prod.fst, ¬ channels.Lying party location) :
    (channels.writeAt party writes).underway = channels.underway := by
  funext envelope
  exact List.map_congr_left fun message member => valuesOf_writeAt careful member

/-- An arrival takes the oldest message and leaves the others as they are. -/
theorem Arrival.underway (arrival : Arrival channels next envelope message locations)
    (careful : ∀ location ∈ locations, ¬ channels.Lying envelope.receiver location) :
    channels.underway envelope =
        channels.valuesOf envelope message :: next.underway envelope ∧
      ∀ other, other ≠ envelope → next.underway other = channels.underway other := by
  obtain ⟨later, waiting, first, -, arrives⟩ := arrival
  obtain ⟨-, rfl⟩ := arrive_eq_some arrives
  have kept : ∀ other, ∀ item ∈ channels.sends other,
      (channels.writeAt envelope.receiver
        (locations.zip (channels.valuesOf envelope message))).valuesOf other item =
          channels.valuesOf other item := by
    intro other item member
    refine valuesOf_writeAt (fun location written => ?_) member
    obtain ⟨pair, inside, rfl⟩ := List.mem_map.mp written
    exact careful pair.1 (List.of_mem_zip inside).1
  constructor
  · rw [underway, first, List.map_cons]
    congr 1
    simp only [underway, Function.update_self]
    apply List.map_congr_left
    intro item member
    exact (kept envelope item (first ▸ List.mem_cons_of_mem _ member)).symm
  · intro other different
    simp only [underway, Function.update_of_ne different]
    exact List.map_congr_left fun item member => kept other item member

omit [DecidableEq P] [DecidableEq T] [DecidableEq L] in
/-- The locations that a message arrives at hold none that still lies there. -/
theorem Separated.clear (separated : channels.Separated)
    (awaited : locations ∈ channels.receives envelope) :
    ∀ location ∈ locations, ¬ channels.Lying envelope.receiver location :=
  fun location inside lying =>
    separated _ location lying ⟨envelope, locations, rfl, awaited, inside⟩

omit [DecidableEq L] in
theorem underway_enqueue :
    (channels.enqueue envelope message).underway other =
      channels.underway other ++
        if envelope = other then [channels.valuesOf envelope message] else [] := by
  by_cases same : envelope = other
  · subst same
    simp [underway, enqueue, valuesOf]
  · have different : other ≠ envelope := fun equal => same equal.symm
    simp [underway, enqueue, valuesOf, same, Function.update_of_ne different]

omit [DecidableEq L] in
theorem underway_copy {n : Nat} (found : (channels.sends envelope)[n]? = some message) :
    (channels.copy envelope n message).underway = channels.underway := by
  funext other
  by_cases same : other = envelope
  · subst same
    have here : (channels.underway other)[n]? = some (channels.valuesOf other message) := by
      rw [underway, List.getElem?_map, found, Option.map_some]
    have copied : (channels.copy other n message).underway other =
        (channels.underway other).set n (channels.valuesOf other message) := by
      simp only [underway, copy, Function.update_self, List.map_set]
      rfl
    obtain ⟨below, same⟩ := List.getElem?_eq_some_iff.mp here
    rw [copied, ← same, List.set_getElem_self]
  · simp only [underway, copy, Function.update_of_ne same]
    rfl

/-- What is under way and what is sent is what arrives and what is under way then. -/
theorem underway_step (separated : channels.Separated) (careful : channels.Careful event)
    (steps : channels.step event = some next) (envelope : Envelope P T) :
    channels.underway envelope ++ channels.sentBy envelope event =
      channels.arrivedBy envelope event ++ next.underway envelope := by
  have arrives {sender : Envelope P T} {message : Outgoing L V} {locations : List L}
      (arrival : Arrival channels next sender message locations)
      (clear : ∀ location ∈ locations, ¬ channels.Lying sender.receiver location) :
      channels.underway envelope =
        (if sender = envelope then (channels.underway envelope).take 1 else []) ++
          next.underway envelope := by
    obtain ⟨here, elsewhere⟩ := arrival.underway clear
    by_cases same : sender = envelope
    · subst same
      rw [if_pos rfl, here]
      rfl
    · rw [if_neg same, elsewhere envelope fun equal => same equal.symm]
      rfl
  cases event with
  | send other locations =>
      cases steps
      rw [underway_enqueue]
      rfl
  | isend other locations =>
      cases steps
      rw [underway_enqueue]
      rfl
  | recv other locations =>
      obtain ⟨message, arrival⟩ := recv_arrival steps
      simp only [sentBy, List.append_nil]
      exact arrives arrival careful
  | irecv other locations =>
      cases steps
      simp only [sentBy, List.append_nil]
      rfl
  | transfer other =>
      obtain ⟨message, locations, awaited, arrival⟩ := transfer_arrival steps
      simp only [sentBy, List.append_nil]
      exact arrives arrival (separated.clear awaited)
  | buffer other n =>
      obtain ⟨message, found, rfl⟩ := Option.map_eq_some_iff.mp steps
      simp only [sentBy, List.append_nil, underway_copy found]
      rfl
  | store party location value =>
      cases steps
      have unchanged : (channels.writeAt party [(location, value)]).underway = channels.underway :=
        underway_writeAt (singly careful)
      simp only [sentBy, List.append_nil, unchanged]
      rfl

/-- No message is lost, invented or overtaken. -/
theorem underway_run {events : List (ChannelEvent P T L V)} {final : Channels P T L V}
    (separated : channels.Separated) (careful : channels.CarefulRun events)
    (runs : channels.run events = some final) (envelope : Envelope P T) :
    channels.underway envelope ++ channels.logged (sentBy · envelope) events =
      channels.logged (arrivedBy · envelope) events ++ final.underway envelope := by
  induction events generalizing channels with
  | nil =>
      cases runs
      simp [logged]
  | cons event events ih =>
      obtain ⟨next, steps, rest⟩ := Option.bind_eq_some_iff.mp runs
      obtain ⟨here, later⟩ := careful
      have first := underway_step separated here steps envelope
      have others := ih (separated.step here steps) (later next steps) rest
      simp only [logged, steps]
      rw [← List.append_assoc, first, List.append_assoc, others, List.append_assoc]

omit [DecidableEq L] in
theorem settled_enqueue : (channels.enqueue envelope message).settled =
    channels.settled.enqueue envelope (.copied (channels.valuesOf envelope message)) := by
  refine Channels.ext rfl (funext fun other => ?_) rfl
  rw [settled]
  dsimp only
  rw [underway_enqueue]
  by_cases same : envelope = other
  · subst same
    simp [settled, enqueue]
  · have different : other ≠ envelope := fun equal => same equal.symm
    simp [settled, enqueue, same, Function.update_of_ne different]

omit [DecidableEq L] in
/-- The messages of settled channels are copied already. -/
theorem settled_copy {n : Nat} {copy : Outgoing L V}
    (found : (channels.settled.sends envelope)[n]? = some copy) :
    channels.settled.copy envelope n copy = channels.settled := by
  have copied : Outgoing.copied (channels.settled.valuesOf envelope copy) = copy := by
    obtain ⟨values, -, rfl⟩ := List.mem_map.mp (List.mem_of_getElem? found)
    rfl
  obtain ⟨below, same⟩ := List.getElem?_eq_some_iff.mp found
  rw [Channels.copy, copied, ← same, List.set_getElem_self, Function.update_eq_self]

omit [DecidableEq T] in
theorem settled_writeAt {party : P} {writes : List (L × V)}
    (careful : ∀ location ∈ writes.map Prod.fst, ¬ channels.Lying party location) :
    (channels.writeAt party writes).settled = channels.settled.writeAt party writes := by
  rw [settled, underway_writeAt careful]
  rfl

theorem settled_arrive {later : List (Outgoing L V)} {waiting : List (List L)}
    (first : channels.sends envelope = message :: later)
    (fewer : ∀ other ∈ waiting, other ∈ channels.receives envelope)
    (clear : ∀ location ∈ locations, ¬ channels.Lying envelope.receiver location) :
    channels.settled.arrive envelope (.copied (channels.valuesOf envelope message))
        ((later.map (channels.valuesOf envelope)).map .copied) locations waiting =
      (channels.arrive envelope message later locations waiting).map settled := by
  cases arrives : channels.arrive envelope message later locations waiting with
  | none =>
      rw [arrive] at arrives
      split_ifs at arrives with fits
      exact if_neg fits
  | some next =>
      obtain ⟨here, elsewhere⟩ :=
        Arrival.underway ⟨later, waiting, first, fewer, arrives⟩ clear
      obtain ⟨fits, rfl⟩ := arrive_eq_some arrives
      rw [underway, first, List.map_cons, List.cons.injEq] at here
      refine (if_pos fits).trans (congrArg some (Channels.ext rfl (funext fun other => ?_) rfl))
      by_cases same : other = envelope
      · subst same
        simp only [Function.update_self]
        exact congrArg (List.map Outgoing.copied) here.2
      · simp only [Function.update_of_ne same]
        exact congrArg (List.map Outgoing.copied) (elsewhere other same).symm

/-- Copying the messages under way, and what is sent from then on, makes no difference. -/
theorem settled_step (separated : channels.Separated) (careful : channels.Careful event) :
    channels.settled.step event.early = (channels.step event).map settled := by
  cases event with
  | send envelope locations =>
      have copied := @settled_enqueue _ _ _ _ _ _ channels envelope
        (.copied (locations.map (channels.memory envelope.sender)))
      exact congrArg some copied.symm
  | isend envelope locations =>
      have copied := @settled_enqueue _ _ _ _ _ _ channels envelope (.lying locations)
      exact congrArg some copied.symm
  | recv envelope locations =>
      cases first : channels.sends envelope with
      | nil => simp [step, ChannelEvent.early, settled, underway, first]
      | cons message later =>
          cases awaited : channels.receives envelope with
          | nil =>
              have none : ∀ other ∈ ([] : List (List L)), other ∈ channels.receives envelope := by
                intro other member
                cases member
              simpa [step, ChannelEvent.early, settled, underway, first, awaited] using
                settled_arrive first none careful
          | cons places waiting => simp [step, ChannelEvent.early, settled, underway, first, awaited]
  | irecv envelope locations => rfl
  | transfer envelope =>
      cases first : channels.sends envelope with
      | nil => simp [step, ChannelEvent.early, settled, underway, first]
      | cons message later =>
          cases awaited : channels.receives envelope with
          | nil => simp [step, ChannelEvent.early, settled, underway, first, awaited]
          | cons places waiting =>
              have fewer : ∀ other ∈ waiting, other ∈ channels.receives envelope := fun other member =>
                awaited ▸ List.mem_cons_of_mem _ member
              have clear := separated.clear (awaited ▸ List.mem_cons_self)
              simpa [step, ChannelEvent.early, settled, underway, first, awaited] using
                settled_arrive first fewer clear
  | buffer envelope n =>
      have numbered : (channels.settled.sends envelope)[n]? =
          (channels.sends envelope)[n]?.map fun message =>
            .copied (channels.valuesOf envelope message) := by
        simp [settled, underway, Function.comp_def]
      cases found : (channels.sends envelope)[n]? with
      | none => simp [step, ChannelEvent.early, numbered, found]
      | some message =>
          rw [found, Option.map_some] at numbered
          have same : (channels.copy envelope n message).settled = channels.settled := by
            rw [settled, underway_copy found]
            rfl
          simp only [step, ChannelEvent.early, numbered, found, Option.map_some, same,
            settled_copy numbered]
  | store party location value =>
      exact congrArg some (settled_writeAt (singly careful)).symm

theorem settled_run {events : List (ChannelEvent P T L V)} (separated : channels.Separated)
    (careful : channels.CarefulRun events) :
    channels.settled.run (events.map ChannelEvent.early) = (channels.run events).map settled := by
  induction events generalizing channels with
  | nil => rfl
  | cons event events ih =>
      obtain ⟨here, later⟩ := careful
      rw [List.map_cons, run, run, settled_step separated here]
      cases steps : channels.step event with
      | none => rfl
      | some next => exact ih (separated.step here steps) (later next steps)

end Delivery

end Channels

end Foundation
