import Vapaa.RequestCompletions

/-!
# Request variables and the library

What a program knows of its operations agrees with the requests that the library keeps, whatever the
program starts and completes.
-/

set_option autoImplicit false

namespace Vapaa

open Foundation

section Consistency

variable {Party : Type} (mpi : Mpi) (library : Kind → Int → Prop)

def Requesting.handle (state : Requesting Party) (party : Party) (slot : Nat) : Int :=
  cMpiRequestF2c mpi (state.slots party slot)

/-- What the programs know agrees with the library: the tickets account for the channels, every
variable is null or stands for an active request that no other stands for, one with a ticket stands
for this, unless it is complete, and one without for nothing that is under way. -/
structure Requesting.Consistent (state : Requesting Party) (knowledge : Knowledge Party) : Prop where
  accounts : Accounts knowledge.tickets state.tracked
  counts : knowledge.counts = state.tracked.counts
  own : ∀ party handle ticket, state.active party handle = some ticket →
    library .request handle ∧ handle ≠ mpi.handle .requestNull
  live : ∀ party slot, state.handle mpi party slot = mpi.handle .requestNull ∨
    (state.active party (state.handle mpi party slot)).isSome
  single : ∀ party slot other, slot ≠ other →
    state.handle mpi party slot = state.handle mpi party other →
      state.handle mpi party slot = mpi.handle .requestNull
  named : ∀ party slot ticket, knowledge.held party slot = some ticket →
    state.active party (state.handle mpi party slot) = some ticket ∨
      state.handle mpi party slot = mpi.handle .requestNull ∧ ticket.Complete state.tracked
  released : ∀ party slot, knowledge.held party slot = Option.none →
    state.Done mpi party (state.handle mpi party slot)

variable {mpi library} {known : KnownCommunicators Party} [DecidableEq Party]
variable {state : Requesting Party} {knowledge : Knowledge Party}

omit [DecidableEq Party] in
theorem Requesting.Done.kept {after : Requesting Party} {party : Party} {handle : Int}
    (done : state.Done mpi party handle)
    (same : after.active party handle = state.active party handle)
    (later : ∀ ticket : Ticket Party Context Int,
      ticket.Complete state.tracked → ticket.Complete after.tracked) :
    after.Done mpi party handle := by
  cases done with
  | inl null => exact Or.inl null
  | inr finished =>
      obtain ⟨ticket, active, complete⟩ := finished
      exact Or.inr ⟨ticket, same.trans active, later ticket complete⟩

/-- A call adds at most one ticket, in a variable that held none. -/
theorem Knowledge.tickets_assignIn {party : Party} {slot : Nat}
    {event : ChannelEvent Party Context Int UInt8} {counts : Counts Party Context}
    (free : knowledge.held party slot = Option.none) :
    (Knowledge.mk counts (assignIn knowledge.held party slot (knowledge.counts.ticket event))).tickets =
      knowledge.counts.extended knowledge.tickets event := by
  apply Set.ext
  intro ticket
  constructor
  · intro member
    obtain ⟨other, place, held⟩ := member
    by_cases here : other = party ∧ place = slot
    · obtain ⟨rfl, rfl⟩ := here
      simp only [assignIn_self] at held
      exact Or.inr held
    · simp only [assignIn_of_ne here] at held
      exact Or.inl ⟨other, place, held⟩
  · intro member
    cases member with
    | inl old =>
        obtain ⟨other, place, held⟩ := old
        have elsewhere : ¬ (other = party ∧ place = slot) := by
          intro here
          obtain ⟨rfl, rfl⟩ := here
          rw [free] at held
          cases held
        exact ⟨other, place, (assignIn_of_ne elsewhere).trans held⟩
    | inr new => exact ⟨party, slot, assignIn_self.trans new⟩

/-- What leaves the requests alone keeps what the programs know consistent. -/
theorem Requesting.Consistent.moves (consistent : state.Consistent mpi library knowledge)
    {after : Requesting Party} {later : Knowledge Party}
    {event : ChannelEvent Party Context Int UInt8}
    (respects : Respects knowledge.tickets event)
    (steps : state.tracked.step event = some after.tracked)
    (silent : state.tracked.counts.ticket event = Option.none)
    (active : after.active = state.active) (slots : after.slots = state.slots)
    (held : later.held = knowledge.held) (counted : later.counts = knowledge.counts.after event) :
    after.Consistent mpi library later where
  accounts := by
    have same : state.tracked.counts.extended knowledge.tickets event = later.tickets := by
      apply Set.ext
      intro ticket
      simp [Counts.extended, silent, Knowledge.tickets, held]
    exact same ▸ consistent.accounts.step respects steps
  counts := by
    rw [counted, consistent.counts]
    exact (Tracked.counts_step steps).symm
  own := active ▸ consistent.own
  live := by
    intro party slot
    rw [Requesting.handle, active, slots]
    exact consistent.live party slot
  single := by
    intro party slot other
    rw [Requesting.handle, Requesting.handle, slots]
    exact consistent.single party slot other
  named := by
    intro party slot ticket holds
    rw [Requesting.handle, active, slots]
    rw [held] at holds
    cases consistent.named party slot ticket holds with
    | inl found => exact Or.inl found
    | inr done => exact Or.inr ⟨done.1, done.2.step steps⟩
  released := by
    intro party slot none
    rw [held] at none
    rw [Requesting.handle, slots]
    exact (consistent.released party slot none).kept (active ▸ rfl)
      fun ticket complete => complete.step steps

/-- A new request, in a variable that the program had no use for, has a handle of its own. -/
theorem Requesting.Consistent.begins (convert : HandlesConvert mpi library)
    (consistent : state.Consistent mpi library knowledge)
    {after : Requesting Party} {later : Knowledge Party} {party : Party} {slot : Nat}
    {event : ChannelEvent Party Context Int UInt8} {ticket : Ticket Party Context Int}
    {handle : Int} (respects : Respects knowledge.tickets event)
    (free : knowledge.held party slot = Option.none)
    (steps : state.tracked.step event = some after.tracked)
    (fresh : library .request handle ∧ handle ≠ mpi.handle .requestNull ∧
      state.active party handle = Option.none)
    (begun : knowledge.counts.ticket event = some ticket)
    (active : after.active = assignIn state.active party handle (some ticket))
    (slots : after.slots = assignIn state.slots party slot (mpi.c2f .request handle))
    (held : later.held = assignIn knowledge.held party slot (knowledge.counts.ticket event))
    (counted : later.counts = knowledge.counts.after event) :
    after.Consistent mpi library later := by
  obtain ⟨own, nonNull, unused⟩ := fresh
  have here : after.handle mpi party slot = handle := by
    rw [Requesting.handle, slots, assignIn_self]
    exact convert.denotes own
  have elsewhere {other : Party} {place : Nat} (apart : ¬ (other = party ∧ place = slot)) :
      after.handle mpi other place = state.handle mpi other place := by
    rw [Requesting.handle, slots, assignIn_of_ne apart]
    rfl
  have different {place : Nat} : state.handle mpi party place ≠ handle := by
    intro same
    cases consistent.live party place with
    | inl null => exact nonNull (same.symm.trans null)
    | inr found =>
        rw [same, unused] at found
        cases found
  have kept {other : Party} {place : Nat} :
      after.active other (state.handle mpi other place) =
        state.active other (state.handle mpi other place) := by
    rw [active]
    apply assignIn_of_ne
    intro same
    obtain ⟨rfl, taken⟩ := same
    exact different taken
  constructor
  · have grown : later.tickets = knowledge.counts.extended knowledge.tickets event := by
      have assigned := @Knowledge.tickets_assignIn Party _ knowledge party slot event later.counts free
      rw [← assigned, Knowledge.tickets, Knowledge.tickets, held]
    rw [grown, consistent.counts]
    exact consistent.accounts.step respects steps
  · rw [counted, consistent.counts]
    exact (Tracked.counts_step steps).symm
  · intro other key found taken
    rw [active] at taken
    by_cases same : other = party ∧ key = handle
    · exact same.2 ▸ ⟨own, nonNull⟩
    · rw [assignIn_of_ne same] at taken
      exact consistent.own other key found taken
  · intro other place
    by_cases same : other = party ∧ place = slot
    · obtain ⟨rfl, rfl⟩ := same
      rw [here, active, assignIn_self]
      exact Or.inr rfl
    · rw [elsewhere same, kept]
      exact consistent.live other place
  · intro other place another distinct same
    by_cases first : other = party ∧ place = slot
    · obtain ⟨rfl, rfl⟩ := first
      have second : ¬ (other = other ∧ another = place) := fun equal => distinct equal.2.symm
      rw [here, elsewhere second] at same
      exact absurd same.symm different
    · by_cases second : other = party ∧ another = slot
      · obtain ⟨rfl, rfl⟩ := second
        rw [here, elsewhere first] at same
        exact absurd same different
      · rw [elsewhere first, elsewhere second] at same
        rw [elsewhere first]
        exact consistent.single other place another distinct same
  · intro other place found holds
    rw [held] at holds
    by_cases same : other = party ∧ place = slot
    · obtain ⟨rfl, rfl⟩ := same
      rw [assignIn_self, begun] at holds
      cases holds
      rw [here, active, assignIn_self]
      exact Or.inl rfl
    · rw [assignIn_of_ne same] at holds
      rw [elsewhere same, kept]
      cases consistent.named other place found holds with
      | inl taken => exact Or.inl taken
      | inr done => exact Or.inr ⟨done.1, done.2.step steps⟩
  · intro other place none
    rw [held] at none
    by_cases same : other = party ∧ place = slot
    · obtain ⟨rfl, rfl⟩ := same
      rw [assignIn_self, begun] at none
      cases none
    · rw [assignIn_of_ne same] at none
      rw [elsewhere same]
      exact (consistent.released other place none).kept kept
        fun ticket complete => complete.step steps

omit [DecidableEq Party] in
/-- A call begins an operation and assigns the variable, or does neither. -/
theorem Posting.ticket_cases {posting : Posting Party}
    {event : ChannelEvent Party Context Int UInt8} (counts : Counts Party Context) (reply : Reply)
    (requestF : Int) (means : (NetworkEvent.call posting).meaning mpi known = some event) :
    (∃ ticket, counts.ticket event = some ticket ∧
        posting.requestAfter mpi reply requestF = mpi.c2f .request reply.request) ∨
      counts.ticket event = Option.none ∧ posting.requestAfter mpi reply requestF = requestF := by
  obtain ⟨⟨peer, context⟩, -, rest⟩ := Option.bind_eq_some_iff.mp means
  unfold Posting.requestAfter
  cases kind : posting.transfer with
  | send | recv =>
      rw [kind] at rest
      cases rest
      exact Or.inr ⟨rfl, rfl⟩
  | isend | irecv =>
      rw [kind] at rest
      cases rest
      exact Or.inl ⟨_, rfl, rfl⟩

variable {completing : Completing Party} {handles : List Int} {positions : List Nat}
variable {reply : Reply} {final : Process}

omit [DecidableEq Party] in
/-- A variable that stands for a request with a ticket does so for one that is complete if the
library says so. -/
theorem Requesting.Consistent.complete_of_done (consistent : state.Consistent mpi library knowledge)
    {party : Party} {slot : Nat} {ticket : Ticket Party Context Int}
    (held : knowledge.held party slot = some ticket)
    (done : state.Done mpi party (state.handle mpi party slot)) : ticket.Complete state.tracked := by
  cases consistent.named party slot ticket held with
  | inl active =>
      cases done with
      | inl null => exact absurd null (consistent.own _ _ _ active).2
      | inr found =>
          obtain ⟨other, taken, complete⟩ := found
          rw [active] at taken
          cases taken
          exact complete
  | inr known => exact known.2

/-- What a completion makes of the requests and the variables. -/
structure Completing.Leaves (mpi : Mpi) (completing : Completing Party) (reply : Reply)
    (positions : List Nat) (state after : Requesting Party) : Prop where
  tracked : after.tracked = state.tracked
  active : after.active = Function.update state.active completing.party fun handle =>
    if ∃ i ∈ positions, (requestsF2c mpi completing.reach fun i =>
      state.slots completing.party (completing.first + i))[i]? = some handle then Option.none
    else state.active completing.party handle
  slots : after.slots = Function.update state.slots completing.party fun slot =>
    if completing.first ≤ slot then
      completing.requestsAfter mpi reply
        (fun i => state.slots completing.party (completing.first + i)) (slot - completing.first)
    else state.slots completing.party slot

section Leaves

variable {after : Requesting Party}

omit [DecidableEq Party] in
theorem Completing.given {i : Nat} (below : i < completing.reach) :
    (requestsF2c mpi completing.reach fun i =>
        state.slots completing.party (completing.first + i)).getD i (mpi.handle .requestNull) =
      state.handle mpi completing.party (completing.first + i) := by
  rw [Completing.getD_requestsF2c below]
  rfl

theorem Completing.Leaves.elsewhere (leaves : completing.Leaves mpi reply positions state after)
    {party : Party} (other : party ≠ completing.party) :
    after.active party = state.active party ∧ after.slots party = state.slots party := by
  rw [leaves.active, leaves.slots]
  exact ⟨Function.update_of_ne other _ _, Function.update_of_ne other _ _⟩

theorem Completing.Leaves.handle_given (convert : HandlesConvert mpi library)
    (leaves : completing.Leaves mpi reply positions state after)
    (consistent : state.Consistent mpi library knowledge)
    (completes : state.Completes mpi completing (requestsF2c mpi completing.reach fun i =>
      state.slots completing.party (completing.first + i)) positions reply) {i : Nat}
    (below : i < completing.reach) :
    after.handle mpi completing.party (completing.first + i) =
      handleAfter mpi (requestsF2c mpi completing.reach fun i =>
        state.slots completing.party (completing.first + i)) positions i := by
  have own : ∀ handle ∈ requestsF2c mpi completing.reach fun i =>
      state.slots completing.party (completing.first + i), library .request handle := by
    intro handle member
    obtain ⟨j, -, same⟩ := List.mem_map.mp member
    have here : handle = state.handle mpi completing.party (completing.first + j) := same.symm
    rw [here]
    cases consistent.live completing.party (completing.first + j) with
    | inl none =>
        have null := convert.predefined .request .requestNull (by decide) rfl
        exact none ▸ null
    | inr active =>
        obtain ⟨ticket, taken⟩ := Option.isSome_iff_exists.mp active
        exact (consistent.own _ _ _ taken).1
  rw [Requesting.handle, leaves.slots, Function.update_self, if_pos (Nat.le_add_right _ _),
    Nat.add_sub_cancel_left]
  exact Completing.handle_requestsAfter convert completes rfl own below

/-- A variable keeps its handle, or the library has completed its request. -/
theorem Completing.Leaves.handle_cases (convert : HandlesConvert mpi library)
    (leaves : completing.Leaves mpi reply positions state after)
    (consistent : state.Consistent mpi library knowledge)
    (completes : state.Completes mpi completing (requestsF2c mpi completing.reach fun i =>
      state.slots completing.party (completing.first + i)) positions reply) (slot : Nat) :
    after.handle mpi completing.party slot = state.handle mpi completing.party slot ∧
        (∀ i ∈ positions, slot ≠ completing.first + i) ∨
      after.handle mpi completing.party slot = mpi.handle .requestNull ∧
        state.Done mpi completing.party (state.handle mpi completing.party slot) := by
  have inside (i : Nat) (member : i ∈ positions) : i < completing.reach := by
    obtain ⟨handle, ticket, found, -, -⟩ := completes.complete i member
    have below := (List.getElem?_eq_some_iff.mp found).1
    rwa [Completing.length_requestsF2c] at below
  by_cases before : completing.first ≤ slot
  · obtain ⟨i, rfl⟩ := Nat.exists_eq_add_of_le before
    by_cases below : i < completing.reach
    · rw [leaves.handle_given convert consistent completes below, handleAfter,
        Completing.given below]
      by_cases member : i ∈ positions
      · rw [if_pos member]
        obtain ⟨handle, ticket, found, active, complete⟩ := completes.complete i member
        have taken : handle = state.handle mpi completing.party (completing.first + i) := by
          rw [← Completing.given below, List.getD_eq_getElem?_getD, found]
          rfl
        exact Or.inr ⟨rfl, Or.inr ⟨ticket, taken ▸ active, complete⟩⟩
      · rw [if_neg member]
        refine Or.inl ⟨rfl, ?_⟩
        intro j among same
        exact member (Nat.add_left_cancel same ▸ among)
    · rw [Requesting.handle, leaves.slots, Function.update_self, if_pos before,
        Nat.add_sub_cancel_left, Completing.requestsAfter_of_le (not_lt.mp below)]
      refine Or.inl ⟨rfl, ?_⟩
      intro j among same
      exact below (Nat.add_left_cancel same ▸ inside j among)
  · rw [Requesting.handle, leaves.slots, Function.update_self, if_neg before]
    refine Or.inl ⟨rfl, ?_⟩
    intro j _ same
    exact before (same ▸ Nat.le_add_right _ _)

theorem Completing.Leaves.kept (leaves : completing.Leaves mpi reply positions state after)
    (consistent : state.Consistent mpi library knowledge) {slot : Nat}
    (apart : ∀ i ∈ positions, slot ≠ completing.first + i) :
    after.active completing.party (state.handle mpi completing.party slot) =
      state.active completing.party (state.handle mpi completing.party slot) := by
  rw [leaves.active, Function.update_self]
  split_ifs with erased
  · obtain ⟨i, member, found⟩ := erased
    have below := (List.getElem?_eq_some_iff.mp found).1
    rw [Completing.length_requestsF2c] at below
    have same : state.handle mpi completing.party slot =
        state.handle mpi completing.party (completing.first + i) := by
      rw [← Completing.given below, List.getD_eq_getElem?_getD, found]
      rfl
    have null := consistent.single completing.party slot _ (apart i member) same
    cases active : state.active completing.party (state.handle mpi completing.party slot) with
    | none => rfl
    | some ticket => exact absurd null (consistent.own _ _ _ active).2
  · rfl

/-- What is still held after a completion was held before. -/
theorem Knowledge.held_of_completed {seen : List Nat} {party : Party} {slot : Nat}
    {ticket : Ticket Party Context Int}
    (holds : (knowledge.after mpi known (.complete completing seen)).held party slot =
      some ticket) : knowledge.held party slot = some ticket := by
  by_cases other : party = completing.party
  · subst other
    simp only [Knowledge.after, Function.update_self] at holds
    split_ifs at holds
    exact holds
  · simp only [Knowledge.after, Function.update_of_ne other] at holds
    exact holds

/-- What is given up is complete, so that the other tickets still account for the channels. -/
theorem Requesting.Consistent.accounts_completed
    (consistent : state.Consistent mpi library knowledge)
    {seen : List Nat} (done : ∀ i ∈ seen, state.Done mpi completing.party
      (state.handle mpi completing.party (completing.first + i))) :
    Accounts (knowledge.after mpi known (.complete completing seen)).tickets state.tracked := by
  apply consistent.accounts.retire
  · intro ticket member
    obtain ⟨party, slot, holds⟩ := member
    exact ⟨party, slot, Knowledge.held_of_completed holds⟩
  · intro ticket member gone
    obtain ⟨party, slot, holds⟩ := member
    by_contra incomplete
    apply gone
    refine ⟨party, slot, ?_⟩
    by_cases other : party = completing.party
    · subst other
      simp only [Knowledge.after, Function.update_self]
      rw [if_neg]
      · exact holds
      · intro reported
        obtain ⟨i, learns, rfl⟩ := reported
        exact incomplete (consistent.complete_of_done holds (done i learns))
    · simp only [Knowledge.after, Function.update_of_ne other]
      exact holds

theorem Requesting.Consistent.completes (convert : HandlesConvert mpi library)
    (consistent : state.Consistent mpi library knowledge)
    (completes : state.Completes mpi completing (requestsF2c mpi completing.reach fun i =>
      state.slots completing.party (completing.first + i)) positions reply)
    (leaves : completing.Leaves mpi reply positions state after) :
    after.Consistent mpi library
      (knowledge.after mpi known (.complete completing (completing.learnt reply))) := by
  have either (slot : Nat) := leaves.handle_cases convert consistent completes slot
  have unchanged {party : Party} (other : party ≠ completing.party) (slot : Nat) :
      after.handle mpi party slot = state.handle mpi party slot := by
    rw [Requesting.handle, (leaves.elsewhere other).2]
    rfl
  have learnt (i : Nat) (learns : i ∈ completing.learnt reply) :
      state.Done mpi completing.party (state.handle mpi completing.party (completing.first + i)) := by
    obtain ⟨below, done⟩ :=
      Completing.learnt_done completes Completing.length_requestsF2c learns
    rw [Completing.length_requestsF2c] at below
    rwa [Completing.given below] at done
  constructor
  · rw [leaves.tracked]
    exact consistent.accounts_completed learnt
  · rw [leaves.tracked]
    exact consistent.counts
  · intro party handle ticket taken
    by_cases other : party = completing.party
    · subst other
      rw [leaves.active, Function.update_self] at taken
      split_ifs at taken
      exact consistent.own _ handle ticket taken
    · rw [(leaves.elsewhere other).1] at taken
      exact consistent.own party handle ticket taken
  · intro party slot
    by_cases other : party = completing.party
    · subst other
      cases either slot with
      | inl same =>
          rw [same.1, leaves.kept consistent same.2]
          exact consistent.live _ slot
      | inr done => exact Or.inl done.1
    · rw [unchanged other, (leaves.elsewhere other).1]
      exact consistent.live party slot
  · intro party slot another distinct equal
    by_cases other : party = completing.party
    · subst other
      cases either slot with
      | inl same =>
          cases either another with
          | inl sameToo =>
              rw [same.1, sameToo.1] at equal
              rw [same.1]
              exact consistent.single _ slot another distinct equal
          | inr done => exact equal.trans done.1
      | inr done => exact done.1
    · rw [unchanged other, unchanged other] at equal
      rw [unchanged other]
      exact consistent.single party slot another distinct equal
  · intro party slot ticket holds
    have held := Knowledge.held_of_completed holds
    rw [leaves.tracked]
    by_cases other : party = completing.party
    · subst other
      cases either slot with
      | inl same =>
          rw [same.1, leaves.kept consistent same.2]
          exact consistent.named _ slot ticket held
      | inr done => exact Or.inr ⟨done.1, consistent.complete_of_done held done.2⟩
    · rw [unchanged other, (leaves.elsewhere other).1]
      exact consistent.named party slot ticket held
  · intro party slot none
    have later (ticket : Ticket Party Context Int) (complete : ticket.Complete state.tracked) :
        ticket.Complete after.tracked := leaves.tracked ▸ complete
    by_cases other : party = completing.party
    · subst other
      cases either slot with
      | inl same =>
          rw [same.1]
          refine Requesting.Done.kept ?_ (leaves.kept consistent same.2) later
          simp only [Knowledge.after, Function.update_self] at none
          split_ifs at none with seen
          · obtain ⟨i, learns, rfl⟩ := seen
            exact learnt i learns
          · exact consistent.released _ slot none
      | inr done => exact Or.inl done.1
    · rw [unchanged other]
      simp only [Knowledge.after, Function.update_of_ne other] at none
      exact (consistent.released party slot none).kept
        (congrFun (leaves.elsewhere other).1 _) later

end Leaves

end Consistency

end Vapaa
