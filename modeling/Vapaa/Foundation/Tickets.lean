import Mathlib.Data.Set.Basic
import Vapaa.Foundation.Channels

/-!
# Tickets

Nonblocking operations on channels, by the numbers of their messages, and what their owners leave
alone until they are complete.
-/

set_option autoImplicit false

namespace Foundation

/-- An operation that sends a message of a channel, or receives one; the first has number 0. -/
structure Ticket (P T L : Type) where
  envelope : Envelope P T
  outgoing : Bool
  number : Nat
  locations : List L
  deriving DecidableEq, Repr

def Ticket.owner {P T L : Type} (ticket : Ticket P T L) : P :=
  if ticket.outgoing then ticket.envelope.sender else ticket.envelope.receiver

/-- Channels, and the messages that have left each, the oldest first. -/
structure Tracked (P T L V : Type) where
  channels : Channels P T L V
  left : Envelope P T → List (List V)

/-- How many messages of a channel were asked to be sent and to be received. -/
structure Counts (P T : Type) where
  sent : Envelope P T → Nat
  received : Envelope P T → Nat

section Steps

variable {P T L V : Type} [DecidableEq P] [DecidableEq T] [DecidableEq L]

def Tracked.step (tracked : Tracked P T L V) (event : ChannelEvent P T L V) :
    Option (Tracked P T L V) :=
  (tracked.channels.step event).map fun next =>
    { channels := next
      left := fun envelope =>
        tracked.left envelope ++ tracked.channels.arrivedBy envelope event }

omit [DecidableEq L] in
def Counts.after (counts : Counts P T) : ChannelEvent P T L V → Counts P T
  | .send envelope _ | .isend envelope _ =>
      { counts with sent := Function.update counts.sent envelope (counts.sent envelope + 1) }
  | .recv envelope _ | .irecv envelope _ =>
      { counts with
        received := Function.update counts.received envelope (counts.received envelope + 1) }
  | .transfer _ | .buffer _ _ | .store _ _ _ => counts

omit [DecidableEq P] [DecidableEq T] [DecidableEq L] in
def Counts.ticket (counts : Counts P T) : ChannelEvent P T L V → Option (Ticket P T L)
  | .isend envelope locations =>
      some { envelope, outgoing := true, number := counts.sent envelope, locations }
  | .irecv envelope locations =>
      some { envelope, outgoing := false, number := counts.received envelope, locations }
  | _ => none

end Steps

section Accounts

variable {P T L V : Type}

/-- The message of an operation that sends is under way behind others, and no longer lies. -/
def Ticket.Copied (tracked : Tracked P T L V) (ticket : Ticket P T L) : Prop :=
  ticket.outgoing = true ∧ ∃ n values,
    ticket.number = (tracked.left ticket.envelope).length + n ∧
      (tracked.channels.sends ticket.envelope)[n]? = some (.copied values)

/-- The message has left its channel, or is copied where it was sent. -/
def Ticket.Complete (tracked : Tracked P T L V) (ticket : Ticket P T L) : Prop :=
  ticket.number < (tracked.left ticket.envelope).length ∨ ticket.Copied tracked

/-- What an owner of tickets may do: their locations are not written to, and those that await a
message are not sent either. -/
def Respects (tickets : Set (Ticket P T L)) : ChannelEvent P T L V → Prop
  | .send _ _ | .transfer _ | .buffer _ _ => True
  | .isend envelope locations => ∀ ticket ∈ tickets, ticket.owner = envelope.sender →
      ticket.outgoing = false → locations.Disjoint ticket.locations
  | .recv envelope locations => ∀ ticket ∈ tickets, ticket.owner = envelope.receiver →
      locations.Disjoint ticket.locations
  | .irecv envelope locations => locations.Nodup ∧ ∀ ticket ∈ tickets,
      ticket.owner = envelope.receiver → locations.Disjoint ticket.locations
  | .store party location _ => ∀ ticket ∈ tickets, ticket.owner = party →
      location ∉ ticket.locations

/-- The messages that have left, and those that are under way or awaited. -/
def Tracked.counts (tracked : Tracked P T L V) : Counts P T where
  sent := fun envelope =>
    (tracked.left envelope).length + (tracked.channels.sends envelope).length
  received := fun envelope =>
    (tracked.left envelope).length + (tracked.channels.receives envelope).length

/-- The tickets stand for all that lies or is awaited; those of messages that have arrived hold
these, and what is received shares its locations with no other ticket. -/
structure Accounts (tickets : Set (Ticket P T L)) (tracked : Tracked P T L V) : Prop where
  lying : ∀ envelope n locations,
    (tracked.channels.sends envelope)[n]? = some (.lying locations) →
      ⟨envelope, true, (tracked.left envelope).length + n, locations⟩ ∈ tickets
  awaited : ∀ envelope n locations, (tracked.channels.receives envelope)[n]? = some locations →
    ⟨envelope, false, (tracked.left envelope).length + n, locations⟩ ∈ tickets
  pending : ∀ ticket ∈ tickets, ticket.outgoing = false →
    ∀ n, ticket.number = (tracked.left ticket.envelope).length + n →
      (tracked.channels.receives ticket.envelope)[n]? = some ticket.locations
  arrived : ∀ ticket ∈ tickets, ticket.outgoing = false →
    ∀ values, (tracked.left ticket.envelope)[ticket.number]? = some values →
      values <+: ticket.locations.map (tracked.channels.memory ticket.envelope.receiver)
  distinct : ∀ ticket ∈ tickets, ticket.outgoing = false → ticket.locations.Nodup
  apart : ∀ ticket ∈ tickets, ∀ other ∈ tickets, ticket ≠ other → ticket.owner = other.owner →
    ticket.outgoing = false → ticket.locations.Disjoint other.locations

end Accounts

section Care

variable {P T L V : Type} {tickets : Set (Ticket P T L)} {tracked : Tracked P T L V}

theorem Accounts.exists_lying (accounts : Accounts tickets tracked) {party : P} {location : L}
    (lying : tracked.channels.Lying party location) :
    ∃ ticket ∈ tickets, ticket.owner = party ∧ ticket.outgoing = true ∧
      location ∈ ticket.locations := by
  obtain ⟨envelope, locations, sender, member, inside⟩ := lying
  obtain ⟨n, found⟩ := List.mem_iff_getElem?.mp member
  exact ⟨_, accounts.lying envelope n locations found, sender, rfl, inside⟩

theorem Accounts.exists_awaited (accounts : Accounts tickets tracked) {party : P} {location : L}
    (awaited : tracked.channels.Awaited party location) :
    ∃ ticket ∈ tickets, ticket.owner = party ∧ ticket.outgoing = false ∧
      location ∈ ticket.locations := by
  obtain ⟨envelope, locations, receiver, member, inside⟩ := awaited
  obtain ⟨n, found⟩ := List.mem_iff_getElem?.mp member
  exact ⟨_, accounts.awaited envelope n locations found, receiver, rfl, inside⟩

theorem Accounts.separated (accounts : Accounts tickets tracked) :
    tracked.channels.Separated := by
  intro party location lying awaited
  obtain ⟨sending, sendingMember, sender, outgoing, lies⟩ := accounts.exists_lying lying
  obtain ⟨receiving, receivingMember, receiver, incoming, awaits⟩ :=
    accounts.exists_awaited awaited
  have different : receiving ≠ sending := by
    intro same
    rw [same, outgoing] at incoming
    cases incoming
  exact accounts.apart receiving receivingMember sending sendingMember different
    (receiver.trans sender.symm) incoming awaits lies

theorem Accounts.careful {event : ChannelEvent P T L V} (accounts : Accounts tickets tracked)
    (respects : Respects tickets event) : tracked.channels.Careful event := by
  cases event with
  | send envelope locations => trivial
  | isend envelope locations =>
      intro location inside awaited
      obtain ⟨ticket, member, owner, incoming, awaits⟩ := accounts.exists_awaited awaited
      exact respects ticket member owner incoming inside awaits
  | recv envelope locations =>
      intro location inside lying
      obtain ⟨ticket, member, owner, -, lies⟩ := accounts.exists_lying lying
      exact respects ticket member owner inside lies
  | irecv envelope locations =>
      intro location inside lying
      obtain ⟨ticket, member, owner, -, lies⟩ := accounts.exists_lying lying
      exact respects.2 ticket member owner inside lies
  | transfer envelope => trivial
  | buffer envelope n => trivial
  | store party location value =>
      intro lying
      obtain ⟨ticket, member, owner, -, lies⟩ := accounts.exists_lying lying
      exact respects ticket member owner lies

/-- Tickets that are complete may be given away. -/
theorem Accounts.retire {fewer : Set (Ticket P T L)} (accounts : Accounts tickets tracked)
    (subset : fewer ⊆ tickets)
    (complete : ∀ ticket ∈ tickets, ticket ∉ fewer → ticket.Complete tracked) :
    Accounts fewer tracked where
  lying := by
    intro envelope n locations found
    have member := accounts.lying envelope n locations found
    by_contra gone
    rcases complete _ member gone with left | ⟨-, m, values, number, copied⟩
    · exact absurd left (Nat.not_lt.mpr (Nat.le_add_right _ _))
    · have same : n = m := Nat.add_left_cancel number
      rw [same, copied] at found
      cases found
  awaited := by
    intro envelope n locations found
    have member := accounts.awaited envelope n locations found
    by_contra gone
    rcases complete _ member gone with left | ⟨incoming, -⟩
    · exact absurd left (Nat.not_lt.mpr (Nat.le_add_right _ _))
    · cases incoming
  pending := fun ticket member => accounts.pending ticket (subset member)
  arrived := fun ticket member => accounts.arrived ticket (subset member)
  distinct := fun ticket member => accounts.distinct ticket (subset member)
  apart := fun ticket member other among => accounts.apart ticket (subset member) other (subset among)

end Care

section Arrivals

variable {P T L V : Type} [DecidableEq P] [DecidableEq T] [DecidableEq L]
variable {tickets : Set (Ticket P T L)} {tracked next : Tracked P T L V} {envelope : Envelope P T}
variable {locations : List L} {message : Outgoing L V}

/-- The first of some locations hold what is written there. -/
theorem prefix_writeAll_zip (memory : Memory L V) {values : List V} (distinct : locations.Nodup)
    (fits : values.length ≤ locations.length) :
    values <+: locations.map (memory.writeAll (locations.zip values)) := by
  have shorter : locations.zip values = (locations.take values.length).zip values := by
    have cut : locations.zip values = _ := List.zip_eq_zip_take_min
    rwa [Nat.min_eq_right fits, List.take_length] at cut
  have written : (locations.take values.length).map
      (memory.writeAll ((locations.take values.length).zip values)) = values :=
    Memory.map_writeAll_zip memory (distinct.sublist (List.take_sublist _ _)) (by simp [fits])
  rw [shorter]
  nth_rewrite 1 [← written]
  exact (List.take_prefix _ _).map _

/-- A message that leaves its channel for the locations of a call, or for those that await it. -/
structure Leaving (tracked next : Tracked P T L V) (envelope : Envelope P T)
    (message : Outgoing L V) (locations : List L) : Prop where
  sends : tracked.channels.sends envelope = message :: next.channels.sends envelope
  otherSends : ∀ other, other ≠ envelope →
    next.channels.sends other = tracked.channels.sends other
  otherReceives : ∀ other, other ≠ envelope →
    next.channels.receives other = tracked.channels.receives other
  memory : next.channels.memory = Function.update tracked.channels.memory envelope.receiver
    ((tracked.channels.memory envelope.receiver).writeAll
      (locations.zip (tracked.channels.valuesOf envelope message)))
  fits : (tracked.channels.valuesOf envelope message).length ≤ locations.length
  left : next.left envelope =
    tracked.left envelope ++ [tracked.channels.valuesOf envelope message]
  otherLeft : ∀ other, other ≠ envelope → next.left other = tracked.left other

theorem Leaving.of_arrive {event : ChannelEvent P T L V} {channels : Channels P T L V}
    {later : List (Outgoing L V)} {waiting : List (List L)}
    (first : tracked.channels.sends envelope = message :: later)
    (arrives : tracked.channels.arrive envelope message later locations waiting = some channels)
    (kind : event = .recv envelope locations ∨ event = .transfer envelope) :
    Leaving tracked
        { channels, left := fun envelope =>
            tracked.left envelope ++ tracked.channels.arrivedBy envelope event }
        envelope message locations ∧ channels.receives envelope = waiting := by
  have leaves (other : Envelope P T) : tracked.channels.arrivedBy other event =
      if envelope = other then (tracked.channels.underway other).take 1 else [] := by
    cases kind with
    | inl same => rw [same, Channels.arrivedBy]
    | inr same => rw [same, Channels.arrivedBy]
  obtain ⟨fits, rfl⟩ := Channels.arrive_eq_some arrives
  refine ⟨⟨?_, ?_, ?_, rfl, fits, ?_, ?_⟩, ?_⟩
  · simp [first]
  · intro other different
    exact Function.update_of_ne different _ _
  · intro other different
    exact Function.update_of_ne different _ _
  · simp [leaves, Channels.underway, first]
  · intro other different
    simp [leaves, different.symm]
  · exact Function.update_self _ _ _

/-- Where no message leaves, only the channels change. -/
theorem Tracked.step_of_quiet {event : ChannelEvent P T L V}
    (quiet : ∀ envelope, tracked.channels.arrivedBy envelope event = [])
    (steps : tracked.step event = some next) :
    ∃ channels, tracked.channels.step event = some channels ∧ next = ⟨channels, tracked.left⟩ := by
  obtain ⟨channels, moves, same⟩ := Option.map_eq_some_iff.mp steps
  simp only [quiet, List.append_nil] at same
  exact ⟨channels, moves, same.symm⟩

theorem Tracked.step_recv (steps : tracked.step (.recv envelope locations) = some next) :
    ∃ message, Leaving tracked next envelope message locations ∧
      tracked.channels.receives envelope = [] ∧ next.channels.receives envelope = [] := by
  obtain ⟨channels, moves, same⟩ := Option.map_eq_some_iff.mp steps
  subst same
  simp only [Channels.step] at moves
  split at moves
  · rename_i message later first none
    obtain ⟨leaving, rest⟩ := Leaving.of_arrive first moves (.inl rfl)
    exact ⟨message, leaving, none, rest⟩
  · cases moves

theorem Tracked.step_transfer (steps : tracked.step (.transfer envelope) = some next) :
    ∃ message locations, Leaving tracked next envelope message locations ∧
      tracked.channels.receives envelope = locations :: next.channels.receives envelope := by
  obtain ⟨channels, moves, same⟩ := Option.map_eq_some_iff.mp steps
  subst same
  simp only [Channels.step] at moves
  split at moves
  · rename_i message later locations waiting first awaits
    obtain ⟨leaving, rest⟩ := Leaving.of_arrive first moves (.inr rfl)
    exact ⟨message, locations, leaving, awaits.trans (congrArg _ rest.symm)⟩
  · cases moves

omit [DecidableEq T] in
theorem Leaving.map_memory (leaving : Leaving tracked next envelope message locations) {party : P}
    {places : List L} (clear : party = envelope.receiver → locations.Disjoint places) :
    places.map (next.channels.memory party) = places.map (tracked.channels.memory party) := by
  rw [leaving.memory]
  by_cases here : party = envelope.receiver
  · subst here
    rw [Function.update_self]
    apply Memory.map_writeAll_of_apart
    intro location inside written
    obtain ⟨pair, member, same⟩ := List.mem_map.mp written
    exact clear rfl (List.of_mem_zip member).1 (same ▸ inside)
  · rw [Function.update_of_ne here]

/-- The tickets account for what is left after a message has arrived. -/
theorem Leaving.accounts (leaving : Leaving tracked next envelope message locations)
    (accounts : Accounts tickets tracked)
    (waits : tracked.channels.receives envelope = locations :: next.channels.receives envelope ∨
      tracked.channels.receives envelope = [] ∧ next.channels.receives envelope = [])
    (clear : ∀ ticket ∈ tickets, ticket.owner = envelope.receiver →
      ticket ≠ ⟨envelope, false, (tracked.left envelope).length, locations⟩ →
        locations.Disjoint ticket.locations) : Accounts tickets next where
  lying := by
    intro other n places found
    by_cases here : other = envelope
    · subst here
      have earlier : (tracked.channels.sends other)[n + 1]? = some (.lying places) := by
        rw [leaving.sends]
        exact found
      have member := accounts.lying other (n + 1) places earlier
      rw [leaving.left, List.length_append, List.length_singleton, Nat.add_assoc, Nat.add_comm 1]
      exact member
    · rw [leaving.otherSends other here] at found
      rw [leaving.otherLeft other here]
      exact accounts.lying other n places found
  awaited := by
    intro other n places found
    by_cases here : other = envelope
    · subst here
      cases waits with
      | inl first =>
          have earlier : (tracked.channels.receives other)[n + 1]? = some places := by
            rw [first]
            exact found
          have member := accounts.awaited other (n + 1) places earlier
          rw [leaving.left, List.length_append, List.length_singleton, Nat.add_assoc,
            Nat.add_comm 1]
          exact member
      | inr none =>
          rw [none.2] at found
          cases found
    · rw [leaving.otherReceives other here] at found
      rw [leaving.otherLeft other here]
      exact accounts.awaited other n places found
  pending := by
    intro ticket member incoming n number
    by_cases here : ticket.envelope = envelope
    · rw [here, leaving.left, List.length_append, List.length_singleton, Nat.add_assoc,
        Nat.add_comm 1, ← here] at number
      have found := accounts.pending ticket member incoming (n + 1) number
      rw [here] at found ⊢
      cases waits with
      | inl first =>
          rw [first] at found
          exact found
      | inr none =>
          rw [none.1] at found
          cases found
    · rw [leaving.otherLeft _ here] at number
      rw [leaving.otherReceives _ here]
      exact accounts.pending ticket member incoming n number
  arrived := by
    intro ticket member incoming values found
    have receiver : ticket.owner = ticket.envelope.receiver := by
      rw [Ticket.owner, incoming]
      rfl
    have kept (old : (tracked.left ticket.envelope)[ticket.number]? = some values)
        (other : ticket ≠ ⟨envelope, false, (tracked.left envelope).length, locations⟩) :
        values <+: ticket.locations.map (next.channels.memory ticket.envelope.receiver) := by
      rw [leaving.map_memory fun same => clear ticket member (receiver.trans same) other]
      exact accounts.arrived ticket member incoming values old
    by_cases here : ticket.envelope = envelope
    · rw [here, leaving.left] at found
      rcases Nat.lt_trichotomy ticket.number (tracked.left envelope).length with before | last | beyond
      · rw [List.getElem?_append_left before] at found
        apply kept (here ▸ found)
        intro same
        rw [same] at before
        exact Nat.lt_irrefl _ before
      · rw [last, List.getElem?_concat_length] at found
        have waiting := accounts.pending ticket member incoming 0 (here ▸ last)
        rw [here] at waiting ⊢
        cases waits with
        | inl first =>
            rw [first] at waiting
            cases waiting
            cases found
            rw [leaving.memory, Function.update_self]
            exact prefix_writeAll_zip _ (accounts.distinct ticket member incoming) leaving.fits
        | inr none =>
            rw [none.1] at waiting
            cases waiting
      · have none : (tracked.left envelope ++
            [tracked.channels.valuesOf envelope message])[ticket.number]? = none := by
          apply List.getElem?_eq_none
          rw [List.length_append, List.length_singleton]
          exact beyond
        rw [none] at found
        cases found
    · rw [leaving.otherLeft _ here] at found
      apply kept found
      intro same
      exact here (congrArg Ticket.envelope same)
  distinct := accounts.distinct
  apart := accounts.apart

end Arrivals

section Posts

variable {P T L V : Type} [DecidableEq P] [DecidableEq T] [DecidableEq L]
variable {tickets : Set (Ticket P T L)} {tracked next : Tracked P T L V} {envelope : Envelope P T}
variable {locations : List L} {message : Outgoing L V}
variable {event : ChannelEvent P T L V}

theorem getElem?_concat_cases {α : Type} {items : List α} {last item : α} {n : Nat}
    (found : (items ++ [last])[n]? = some item) :
    items[n]? = some item ∨ n = items.length ∧ last = item := by
  rcases Nat.lt_trichotomy n items.length with before | here | beyond
  · rw [List.getElem?_append_left before] at found
    exact Or.inl found
  · rw [here, List.getElem?_concat_length] at found
    exact Or.inr ⟨here, Option.some.inj found⟩
  · have none : (items ++ [last])[n]? = none := by
      apply List.getElem?_eq_none
      rw [List.length_append, List.length_singleton]
      exact beyond
    rw [none] at found
    cases found

section Queues

omit [DecidableEq L]

variable {channels : Channels P T L V} {other : Envelope P T}

@[simp] theorem Channels.enqueue_sends_self :
    (channels.enqueue envelope message).sends envelope = channels.sends envelope ++ [message] :=
  Function.update_self _ _ _

@[simp] theorem Channels.enqueue_sends_of_ne (different : other ≠ envelope) :
    (channels.enqueue envelope message).sends other = channels.sends other :=
  Function.update_of_ne different _ _

@[simp] theorem Channels.copy_sends_self {n : Nat} :
    (channels.copy envelope n message).sends envelope =
      (channels.sends envelope).set n (.copied (channels.valuesOf envelope message)) :=
  Function.update_self _ _ _

@[simp] theorem Channels.copy_sends_of_ne {n : Nat} (different : other ≠ envelope) :
    (channels.copy envelope n message).sends other = channels.sends other :=
  Function.update_of_ne different _ _

@[simp] theorem Channels.await_receives_self :
    (channels.await envelope locations).receives envelope =
      channels.receives envelope ++ [locations] :=
  Function.update_self _ _ _

@[simp] theorem Channels.await_receives_of_ne (different : other ≠ envelope) :
    (channels.await envelope locations).receives other = channels.receives other :=
  Function.update_of_ne different _ _

end Queues

omit [DecidableEq L] in
/-- A message that is sent needs a ticket as long as it lies. -/
theorem Accounts.enqueue (accounts : Accounts tickets tracked) {more : Set (Ticket P T L)}
    (covers : ∀ locations, message = .lying locations →
      ⟨envelope, true, (tracked.left envelope).length +
        (tracked.channels.sends envelope).length, locations⟩ ∈ more)
    (subset : tickets ⊆ more)
    (added : ∀ ticket ∈ more, ticket ∉ tickets → ticket.outgoing = true ∧
      ∀ other ∈ tickets, other.owner = ticket.owner → other.outgoing = false →
        other.locations.Disjoint ticket.locations) :
    Accounts more ⟨tracked.channels.enqueue envelope message, tracked.left⟩ := by
  have old {ticket : Ticket P T L} (member : ticket ∈ more) (incoming : ticket.outgoing = false) :
      ticket ∈ tickets := by
    by_contra new
    rw [(added ticket member new).1] at incoming
    cases incoming
  constructor
  · intro other n places found
    by_cases here : other = envelope
    · subst here
      simp only [Channels.enqueue_sends_self] at found
      rcases getElem?_concat_cases found with earlier | last
      · exact subset (accounts.lying other n places earlier)
      · rw [last.1]
        exact covers places last.2
    · simp only [Channels.enqueue_sends_of_ne here] at found
      exact subset (accounts.lying other n places found)
  · intro other n places found
    exact subset (accounts.awaited other n places found)
  · intro ticket member incoming
    exact accounts.pending ticket (old member incoming) incoming
  · intro ticket member incoming
    exact accounts.arrived ticket (old member incoming) incoming
  · intro ticket member incoming
    exact accounts.distinct ticket (old member incoming) incoming
  · intro ticket member other among different owner incoming
    have known := old member incoming
    by_cases new : other ∈ tickets
    · exact accounts.apart ticket known other new different owner incoming
    · exact (added other among new).2 ticket known owner incoming

omit [DecidableEq L] in
/-- What awaits a message needs a ticket, too. -/
theorem Accounts.await (accounts : Accounts tickets tracked) {more : Set (Ticket P T L)}
    (distinct : locations.Nodup)
    (fresh : ∀ ticket ∈ tickets, ticket.owner = envelope.receiver →
      locations.Disjoint ticket.locations)
    (grown : ∀ ticket, ticket ∈ more ↔ ticket ∈ tickets ∨
      ticket = ⟨envelope, false, (tracked.left envelope).length +
        (tracked.channels.receives envelope).length, locations⟩) :
    Accounts more ⟨tracked.channels.await envelope locations, tracked.left⟩ where
  lying := fun other n places found =>
    (grown _).mpr (.inl (accounts.lying other n places found))
  awaited := by
    intro other n places found
    by_cases here : other = envelope
    · subst here
      simp only [Channels.await_receives_self] at found
      rcases getElem?_concat_cases found with earlier | last
      · exact (grown _).mpr (.inl (accounts.awaited other n places earlier))
      · rw [last.1, ← last.2]
        exact (grown _).mpr (.inr rfl)
    · simp only [Channels.await_receives_of_ne here] at found
      exact (grown _).mpr (.inl (accounts.awaited other n places found))
  pending := by
    intro ticket member incoming n number
    cases (grown ticket).mp member with
    | inl known =>
        have found := accounts.pending ticket known incoming n number
        by_cases here : ticket.envelope = envelope
        · rw [here] at found ⊢
          simp only [Channels.await_receives_self]
          rw [List.getElem?_append_left (List.getElem?_eq_some_iff.mp found).1]
          exact found
        · simp only [Channels.await_receives_of_ne here]
          exact found
    | inr new =>
        subst new
        simp only [Channels.await_receives_self]
        rw [← Nat.add_left_cancel number, List.getElem?_concat_length]
  arrived := by
    intro ticket member incoming values found
    cases (grown ticket).mp member with
    | inl known => exact accounts.arrived ticket known incoming values found
    | inr new =>
        subst new
        have beyond := (List.getElem?_eq_some_iff.mp found).1
        exact absurd beyond (Nat.not_lt.mpr (Nat.le_add_right _ _))
  distinct := by
    intro ticket member incoming
    cases (grown ticket).mp member with
    | inl known => exact accounts.distinct ticket known incoming
    | inr new =>
        subst new
        exact distinct
  apart := by
    intro ticket member other among different owner incoming
    cases (grown ticket).mp member with
    | inl known =>
        cases (grown other).mp among with
        | inl knownToo => exact accounts.apart ticket known other knownToo different owner incoming
        | inr new =>
            subst new
            exact List.disjoint_symm (fresh ticket known owner)
    | inr new =>
        subst new
        cases (grown other).mp among with
        | inl known => exact fresh other known owner.symm
        | inr newToo => exact absurd newToo.symm different

omit [DecidableEq L] in
/-- A message that is copied needs no ticket any more. -/
theorem Accounts.copy (accounts : Accounts tickets tracked) {n : Nat} :
    Accounts tickets ⟨tracked.channels.copy envelope n message, tracked.left⟩ := by
  refine { accounts with lying := ?_ }
  intro other m places found
  by_cases here : other = envelope
  · subst here
    simp only [Channels.copy_sends_self, List.getElem?_set] at found
    split_ifs at found
    · cases found
    · exact accounts.lying other m places found
  · simp only [Channels.copy_sends_of_ne here] at found
    exact accounts.lying other m places found

def Counts.extended (counts : Counts P T) (tickets : Set (Ticket P T L))
    (event : ChannelEvent P T L V) : Set (Ticket P T L) :=
  {ticket | ticket ∈ tickets ∨ counts.ticket event = some ticket}

theorem Tracked.counts_step (steps : tracked.step event = some next) :
    next.counts = tracked.counts.after event := by
  have leaves {message : Outgoing L V} {envelope : Envelope P T} {locations : List L}
      (leaving : Leaving tracked next envelope message locations) (other : Envelope P T) :
      (next.left other).length + (next.channels.sends other).length =
        (tracked.left other).length + (tracked.channels.sends other).length := by
    by_cases here : other = envelope
    · subst here
      rw [leaving.sends, leaving.left, List.length_cons, List.length_append,
        List.length_singleton, Nat.add_assoc, Nat.add_comm 1]
    · rw [leaving.otherLeft other here, leaving.otherSends other here]
  cases event with
  | send envelope locations | isend envelope locations =>
      obtain ⟨channels, moves, rfl⟩ := Tracked.step_of_quiet (fun _ => rfl) steps
      cases moves
      simp only [Tracked.counts, Counts.after, Counts.mk.injEq]
      refine ⟨?_, rfl⟩
      funext other
      by_cases here : other = envelope
      · subst here
        simp [Nat.add_assoc]
      · simp [here]
  | recv envelope locations =>
      obtain ⟨message, leaving, none, noneLeft⟩ := Tracked.step_recv steps
      simp only [Tracked.counts, Counts.after, Counts.mk.injEq]
      refine ⟨funext (leaves leaving), ?_⟩
      funext other
      by_cases here : other = envelope
      · subst here
        simp [none, noneLeft, leaving.left]
      · simp [leaving.otherLeft other here, leaving.otherReceives other here, here]
  | irecv envelope locations =>
      obtain ⟨channels, moves, rfl⟩ := Tracked.step_of_quiet (fun _ => rfl) steps
      cases moves
      simp only [Tracked.counts, Counts.after, Counts.mk.injEq]
      refine ⟨rfl, ?_⟩
      funext other
      by_cases here : other = envelope
      · subst here
        simp [Nat.add_assoc]
      · simp [here]
  | transfer envelope =>
      obtain ⟨message, locations, leaving, first⟩ := Tracked.step_transfer steps
      simp only [Tracked.counts, Counts.after, Counts.mk.injEq]
      refine ⟨funext (leaves leaving), ?_⟩
      funext other
      by_cases here : other = envelope
      · subst here
        simp [first, leaving.left, Nat.add_assoc, Nat.add_comm 1]
      · simp [leaving.otherLeft other here, leaving.otherReceives other here]
  | buffer envelope n =>
      obtain ⟨channels, moves, rfl⟩ := Tracked.step_of_quiet (fun _ => rfl) steps
      obtain ⟨message, -, rfl⟩ := Option.map_eq_some_iff.mp moves
      simp only [Tracked.counts, Counts.after, Counts.mk.injEq]
      refine ⟨?_, rfl⟩
      funext other
      by_cases here : other = envelope
      · subst here
        simp
      · simp [here]
  | store party location value =>
      obtain ⟨channels, moves, rfl⟩ := Tracked.step_of_quiet (fun _ => rfl) steps
      cases moves
      simp [Tracked.counts, Counts.after, Channels.writeAt]

/-- Who respects the tickets keeps them accounting for the channels. -/
theorem Accounts.step (accounts : Accounts tickets tracked)
    (respects : Respects tickets event) (steps : tracked.step event = some next) :
    Accounts (tracked.counts.extended tickets event) next := by
  have unchanged (none : tracked.counts.ticket event = (none : Option (Ticket P T L))) :
      tracked.counts.extended tickets event = tickets := by
    apply Set.ext
    intro ticket
    simp [Counts.extended, none]
  cases event with
  | send envelope locations =>
      obtain ⟨channels, moves, rfl⟩ := Tracked.step_of_quiet (fun _ => rfl) steps
      cases moves
      rw [unchanged rfl]
      apply accounts.enqueue _ (Set.Subset.refl _)
      · intro ticket member new
        exact absurd member new
      · intro places lies
        cases lies
  | isend envelope locations =>
      obtain ⟨channels, moves, rfl⟩ := Tracked.step_of_quiet (fun _ => rfl) steps
      cases moves
      apply accounts.enqueue _ (fun _ => Or.inl)
      · intro ticket member new
        cases member with
        | inl known => exact absurd known new
        | inr added =>
            cases added
            refine ⟨rfl, ?_⟩
            intro other among owner incoming
            exact List.disjoint_symm (respects other among owner incoming)
      · intro places lies
        cases lies
        exact Or.inr rfl
  | recv envelope locations =>
      obtain ⟨message, leaving, none, noneLeft⟩ := Tracked.step_recv steps
      rw [unchanged rfl]
      exact leaving.accounts accounts (.inr ⟨none, noneLeft⟩)
        fun ticket member owner _ => respects ticket member owner
  | irecv envelope locations =>
      obtain ⟨channels, moves, rfl⟩ := Tracked.step_of_quiet (fun _ => rfl) steps
      cases moves
      apply accounts.await respects.1 respects.2
      intro ticket
      exact or_congr_right (Option.some_inj.trans eq_comm)
  | transfer envelope =>
      obtain ⟨message, locations, leaving, first⟩ := Tracked.step_transfer steps
      rw [unchanged rfl]
      have receiving : ⟨envelope, false, (tracked.left envelope).length, locations⟩ ∈ tickets :=
        accounts.awaited envelope 0 locations (by rw [first]; rfl)
      apply leaving.accounts accounts (.inl first)
      intro ticket member owner different
      exact accounts.apart _ receiving ticket member different.symm owner.symm rfl
  | buffer envelope n =>
      obtain ⟨channels, moves, rfl⟩ := Tracked.step_of_quiet (fun _ => rfl) steps
      obtain ⟨message, -, rfl⟩ := Option.map_eq_some_iff.mp moves
      rw [unchanged rfl]
      exact accounts.copy
  | store party location value =>
      obtain ⟨channels, moves, rfl⟩ := Tracked.step_of_quiet (fun _ => rfl) steps
      cases moves
      rw [unchanged rfl]
      refine { accounts with arrived := ?_ }
      intro ticket member incoming values found
      have kept : ticket.locations.map
          ((tracked.channels.writeAt party [(location, value)]).memory ticket.envelope.receiver) =
            ticket.locations.map (tracked.channels.memory ticket.envelope.receiver) := by
        by_cases here : ticket.envelope.receiver = party
        · have owner : ticket.owner = party := by
            rw [Ticket.owner, incoming]
            exact here
          simp only [here, Channels.writeAt, Function.update_self]
          apply Memory.map_writeAll_of_apart
          intro place inside written
          have here : place = location := List.mem_singleton.mp written
          exact respects ticket member owner (here ▸ inside)
        · simp only [Channels.writeAt, Function.update_of_ne here]
      rw [kept]
      exact accounts.arrived ticket member incoming values found

omit [DecidableEq T] in
theorem Leaving.complete {ticket : Ticket P T L}
    (leaving : Leaving tracked next envelope message locations)
    (complete : ticket.Complete tracked) : ticket.Complete next := by
  by_cases here : ticket.envelope = envelope
  · subst here
    rcases complete with left | ⟨outgoing, n, values, number, copied⟩
    · rw [Ticket.Complete, leaving.left, List.length_append]
      exact .inl (left.trans_le (Nat.le_add_right _ _))
    · cases n with
      | zero =>
          rw [Ticket.Complete, leaving.left, List.length_append, List.length_singleton, number]
          exact .inl (Nat.lt_succ_self _)
      | succ n =>
          refine .inr ⟨outgoing, n, values, ?_, ?_⟩
          · rw [number, leaving.left, List.length_append, List.length_singleton, Nat.add_assoc,
              Nat.add_comm 1]
          · rw [leaving.sends] at copied
            exact copied
  · rw [Ticket.Complete, Ticket.Copied, leaving.otherLeft _ here, leaving.otherSends _ here]
    exact complete

omit [DecidableEq P] [DecidableEq T] [DecidableEq L] in
/-- Operations stay complete where the copied messages stay. -/
theorem Ticket.Complete.of_kept {ticket : Ticket P T L} {channels : Channels P T L V}
    (complete : ticket.Complete tracked)
    (kept : ∀ envelope (n : Nat) values,
      (tracked.channels.sends envelope)[n]? = some (Outgoing.copied values) →
        (channels.sends envelope)[n]? = some (Outgoing.copied values)) :
    ticket.Complete ⟨channels, tracked.left⟩ := by
  rcases complete with left | ⟨outgoing, n, values, number, copied⟩
  · exact .inl left
  · exact .inr ⟨outgoing, n, values, number, kept _ n values copied⟩

/-- An operation that is complete stays so. -/
theorem Ticket.Complete.step {ticket : Ticket P T L} (complete : ticket.Complete tracked)
    (steps : tracked.step event = some next) : ticket.Complete next := by
  have enqueued (envelope : Envelope P T) (message : Outgoing L V) :
      ticket.Complete ⟨tracked.channels.enqueue envelope message, tracked.left⟩ := by
    apply complete.of_kept
    intro other n values copied
    by_cases here : other = envelope
    · subst here
      rw [Channels.enqueue_sends_self,
        List.getElem?_append_left (List.getElem?_eq_some_iff.mp copied).1]
      exact copied
    · rw [Channels.enqueue_sends_of_ne here]
      exact copied
  cases event with
  | send envelope locations | isend envelope locations =>
      obtain ⟨channels, moves, rfl⟩ := Tracked.step_of_quiet (fun _ => rfl) steps
      cases moves
      exact enqueued envelope _
  | recv envelope locations =>
      obtain ⟨message, leaving, -, -⟩ := Tracked.step_recv steps
      exact leaving.complete complete
  | transfer envelope =>
      obtain ⟨message, locations, leaving, -⟩ := Tracked.step_transfer steps
      exact leaving.complete complete
  | irecv envelope locations | store party location value =>
      obtain ⟨channels, moves, rfl⟩ := Tracked.step_of_quiet (fun _ => rfl) steps
      cases moves
      exact complete.of_kept fun _ _ _ copied => copied
  | buffer envelope m =>
      obtain ⟨channels, moves, rfl⟩ := Tracked.step_of_quiet (fun _ => rfl) steps
      obtain ⟨message, found, rfl⟩ := Option.map_eq_some_iff.mp moves
      apply complete.of_kept
      intro other n values copied
      by_cases here : other = envelope
      · subst here
        simp only [Channels.copy_sends_self, List.getElem?_set]
        split_ifs with again below
        · -- a copy is copied once more
          subst again
          cases found.symm.trans copied
          rfl
        · exact absurd (List.getElem?_eq_some_iff.mp copied).1 (again ▸ below)
        · exact copied
      · rw [Channels.copy_sends_of_ne here]
        exact copied

end Posts

section Logs

variable {P T L V : Type} [DecidableEq P] [DecidableEq T] [DecidableEq L]
variable {tracked : Tracked P T L V} {events : List (ChannelEvent P T L V)}

def Tracked.run (tracked : Tracked P T L V) : List (ChannelEvent P T L V) →
    Option (Tracked P T L V)
  | [] => some tracked
  | event :: events => (tracked.step event).bind fun next => next.run events

/-- What has left the channels of a run is the log of what has arrived. -/
theorem Tracked.run_eq : tracked.run events =
    (tracked.channels.run events).map fun channels =>
      { channels
        left := fun envelope => tracked.left envelope ++
          tracked.channels.logged (Channels.arrivedBy · envelope) events } := by
  induction events generalizing tracked with
  | nil => simp [Tracked.run, Channels.run, Channels.logged]
  | cons event events ih =>
      rw [Tracked.run, Tracked.step, Channels.run]
      cases moves : tracked.channels.step event with
      | none => rfl
      | some next =>
          simp only [Option.map_some, Option.bind_some, ih, Channels.logged, moves,
            List.append_assoc]

end Logs

section Quiet

variable {P T L V : Type}

/-- Nothing is under way or awaited. -/
def Channels.Quiet (channels : Channels P T L V) : Prop :=
  ∀ envelope, channels.sends envelope = [] ∧ channels.receives envelope = []

def Channels.tracked (channels : Channels P T L V) : Tracked P T L V where
  channels := channels
  left := fun _ => []

theorem Channels.Quiet.accounts {channels : Channels P T L V} (quiet : channels.Quiet) :
    Accounts ∅ channels.tracked where
  lying := by
    intro envelope n locations found
    have none : channels.sends envelope = [] := (quiet envelope).1
    simp [Channels.tracked, none] at found
  awaited := by
    intro envelope n locations found
    have none : channels.receives envelope = [] := (quiet envelope).2
    simp [Channels.tracked, none] at found
  pending := fun _ member => absurd member (Set.notMem_empty _)
  arrived := fun _ member => absurd member (Set.notMem_empty _)
  distinct := fun _ member => absurd member (Set.notMem_empty _)
  apart := fun _ member => absurd member (Set.notMem_empty _)

/-- What was sent on a channel is what has left it and what is under way. -/
theorem Channels.Quiet.sent_eq [DecidableEq P] [DecidableEq T] [DecidableEq L]
    {channels : Channels P T L V} {events : List (ChannelEvent P T L V)} {last : Tracked P T L V}
    (quiet : channels.Quiet) (careful : channels.CarefulRun events)
    (runs : channels.tracked.run events = some last) (envelope : Envelope P T) :
    channels.logged (Channels.sentBy · envelope) events =
      last.left envelope ++ last.channels.underway envelope := by
  rw [Tracked.run_eq] at runs
  obtain ⟨final, finishes, same⟩ := Option.map_eq_some_iff.mp runs
  subst same
  have conserved : channels.underway envelope ++
      channels.logged (Channels.sentBy · envelope) events =
        channels.logged (Channels.arrivedBy · envelope) events ++ final.underway envelope :=
    Channels.underway_run quiet.accounts.separated careful finishes envelope
  have none : channels.underway envelope = [] := by
    rw [Channels.underway, (quiet envelope).1]
    rfl
  rw [none, List.nil_append] at conserved
  exact conserved

/-- The message of an operation that is complete has left its channel as it was sent, or is copied
so. -/
theorem Ticket.Complete.sent [DecidableEq P] [DecidableEq T] [DecidableEq L]
    {channels : Channels P T L V} {events : List (ChannelEvent P T L V)} {last : Tracked P T L V}
    {ticket : Ticket P T L} (complete : ticket.Complete last) (quiet : channels.Quiet)
    (careful : channels.CarefulRun events) (runs : channels.tracked.run events = some last) :
    ∃ values,
      (channels.logged (Channels.sentBy · ticket.envelope) events)[ticket.number]? = some values ∧
        ((last.left ticket.envelope)[ticket.number]? = some values ∨
          ticket.outgoing = true ∧ ∃ n, ticket.number = (last.left ticket.envelope).length + n ∧
            (last.channels.sends ticket.envelope)[n]? = some (.copied values)) := by
  rw [quiet.sent_eq careful runs]
  rcases complete with left | ⟨outgoing, n, values, number, copied⟩
  · have found : (last.left ticket.envelope)[ticket.number]? = some _ :=
      List.getElem?_eq_getElem left
    exact ⟨_, (List.getElem?_append_left left).trans found, .inl found⟩
  · refine ⟨values, ?_, .inr ⟨outgoing, n, number, copied⟩⟩
    rw [number, List.getElem?_append_right (Nat.le_add_right _ _), Nat.add_sub_cancel_left,
      Channels.underway, List.getElem?_map, copied]
    rfl

end Quiet

end Foundation
