import AgriGuardian.BLE.Reassembly

/-! Messages sent one after another over a channel that may drop datagrams.
Builders are found by key alone and outlive an incomplete message. So a key may be used
again only once the message under way with it has arrived completely.
-/

namespace AgriGuardian.BLE

open Swift
open Basis

/-- One message, split by the sender, and those of its datagrams that get through. -/
structure Transmission where
  message : Message
  datagramMaxSize : MachineInt
  sent : List Datagram
  received : List Datagram
  split : ∃ view, message.datagrams datagramMaxSize = .ok view ∧ view.elements = .ok sent
  lossy : received.Sublist sent

namespace Transmission

open MessageManager

/-- The byte strings that reach the receiver. -/
def arrivals (transmissions : List Transmission) : List Data :=
  (transmissions.flatMap received).map Datagram.encoded

/-- Of two messages with one key that both reach the receiver, the earlier one arrives
completely.
-/
def Separate (earlier later : Transmission) : Prop :=
  earlier.message.key = later.message.key
  → earlier.received ≠ []
  → later.received ≠ []
  → earlier.received = earlier.sent

/-- A transmission that reaches the receiver at all was split into fragments. -/
theorem fragments_of_received (transmission : Transmission) (reaches : transmission.received ≠ [])
    : transmission.message.data.startIndex = 0
      ∧ transmission.message.data.count < 2 ^ 32
      ∧ ∃ size, 0 < size ∧ transmission.sent = transmission.message.fragments size := by
  obtain ⟨view, created, elements⟩ := transmission.split
  refine Message.fragments_of_elements created elements ?_
  intro empty
  have subset := transmission.lossy
  rw [empty, List.sublist_nil] at subset
  exact reaches subset

/-- One transmission, received by a manager without a builder for its key, delivers its own
message or nothing, and leaves no builder if it arrives completely. Witness: fragments are
pairwise different, so only the complete list covers the message, and only with its last
element.
-/
theorem run_received (transmission : Transmission) {manager : MessageManager}
    (free : transmission.received ≠ [] → manager.builders transmission.message.key = none)
    : ∃ events next,
        run process manager (transmission.received.map Datagram.encoded) = (events, .ok next)
        ∧ (∀ event ∈ events, event = .onMessage transmission.message)
        ∧ SameElsewhere transmission.message.key manager next
        ∧ (transmission.received = [] → next = manager)
        ∧ (transmission.received ≠ []
          → transmission.received = transmission.sent
          → next.builders transmission.message.key = none) := by
  by_cases silent : transmission.received = []
  · rw [silent]
    exact ⟨[], manager, rfl, by simp, .refl _ _, fun _ => rfl, fun reaches => absurd rfl reaches⟩
  obtain ⟨based, small, size, positive, sentEq⟩ := transmission.fragments_of_received silent
  have lossy := transmission.lossy
  have nodup := transmission.message.nodup_fragments positive
  rw [sentEq] at lossy ⊢
  have holds := holds_nil (free silent)
  have genuine : ∀ part ∈ transmission.received, Message.Piece transmission.message part :=
    fun part member => Message.piece_of_mem_fragments positive small (lossy.subset member)
  have coverage {parts : List Datagram}
      (arrived : parts ⊆ transmission.message.fragments size)
      : remaining transmission.message.data.count (parts.map Datagram.write) = ∅
        ↔ transmission.message.fragments size ⊆ parts :=
    Message.remaining_fragments_eq_empty_iff positive small arrived
  by_cases whole : transmission.received = transmission.message.fragments size
  · have split := (List.dropLast_append_getLast silent).symm
    rw [split] at genuine
    have closed := (coverage lossy.subset).mpr (whole ▸ List.Subset.refl _)
    rw [split] at closed
    have earlier : transmission.received.dropLast ⊆ transmission.message.fragments size :=
      List.Subset.trans (List.dropLast_subset _) lossy.subset
    have gap
        : remaining transmission.message.data.count
            (transmission.received.dropLast.map Datagram.write) ≠ ∅ := by
      intro covered
      have again := (coverage earlier).mp covered (lossy.subset (List.getLast_mem silent))
      rw [← whole, split, List.nodup_append] at nodup
      exact nodup.2.2 _ again _ (by simp) rfl
    obtain ⟨middle, next, ran, called, elsewhere, emptied⟩ :=
      run_parts_complete based holds genuine gap closed
    refine ⟨[.onMessage transmission.message], next, ?_, by simp, elsewhere,
      fun empty => absurd empty silent, fun _ _ => emptied⟩
    rw [split, List.map_append, run_append_ok ran, List.map_singleton, run_singleton, called]
    rfl
  · have gap
        : remaining transmission.message.data.count
            (transmission.received.map Datagram.write) ≠ ∅ := by
      intro closed
      have subset := (coverage lossy.subset).mp closed
      exact whole (lossy.eq_of_length_le (nodup.subperm subset).length_le)
    obtain ⟨next, ran, elsewhere, -⟩ := run_parts_incomplete based holds (by simpa using genuine)
      (by simpa using gap)
    exact ⟨[], next, ran, by simp, elsewhere, fun empty => absurd empty silent,
      fun _ complete => absurd complete whole⟩

/-- Separate transmissions, received by a manager without builders for the keys still to
come, never trap and deliver only messages that were sent. Witness: induction on the
transmissions; a key that comes again was freed by its last complete arrival.
-/
theorem run_arrivals {manager : MessageManager} {transmissions : List Transmission}
    (separate : transmissions.Pairwise Separate)
    (free : ∀ transmission ∈ transmissions,
        transmission.received ≠ [] → manager.builders transmission.message.key = none)
    : ∃ events next,
        run process manager (arrivals transmissions) = (events, .ok next)
        ∧ ∀ event ∈ events,
            ∃ transmission ∈ transmissions, event = .onMessage transmission.message := by
  induction transmissions generalizing manager with
  | nil => exact ⟨[], manager, rfl, by simp⟩
  | cons first rest ih =>
      obtain ⟨firstSeparate, restSeparate⟩ := List.pairwise_cons.mp separate
      obtain ⟨events, middle, ran, delivered, elsewhere, unchanged, emptied⟩ :=
        first.run_received (free first (by simp))
      have stillFree : ∀ later ∈ rest,
          later.received ≠ [] → middle.builders later.message.key = none := by
        intro later member reaches
        have freeBefore := free later (by simp [member]) reaches
        by_cases same : later.message.key = first.message.key
        · by_cases silent : first.received = []
          · rwa [unchanged silent]
          · have complete := firstSeparate later member same.symm silent reaches
            exact same ▸ emptied silent complete
        · rwa [elsewhere _ same]
      obtain ⟨laterEvents, next, laterRan, laterDelivered⟩ := ih restSeparate stillFree
      refine ⟨events ++ laterEvents, next, ?_, ?_⟩
      · rw [arrivals, List.flatMap_cons, List.map_append, run_append_ok ran]
        rw [arrivals] at laterRan
        rw [laterRan]
      · intro event member
        rcases List.mem_append.mp member with now | later
        · exact ⟨first, by simp, delivered event now⟩
        · obtain ⟨transmission, inRest, eventEq⟩ := laterDelivered event later
          exact ⟨transmission, by simp [inRest], eventEq⟩

/-- No corrupted message is delivered as long as a key that reaches the receiver again was
freed by a complete arrival before. Nothing traps or throws in such a run either.
-/
theorem delivered_messages_were_sent (transmissions : List Transmission)
    (separate : transmissions.Pairwise Separate)
    : (∃ manager, (run process init (arrivals transmissions)).2 = .ok manager)
      ∧ ∀ event ∈ (run process init (arrivals transmissions)).1,
          ∃ transmission ∈ transmissions, event = .onMessage transmission.message := by
  obtain ⟨events, manager, ran, delivered⟩ :=
    run_arrivals separate (fun _ _ _ => init_builders)
  rw [ran]
  exact ⟨⟨manager, rfl⟩, delivered⟩

/-- Any part of the fragments of a message can be what gets through. -/
def ofFragments (message : Message) (datagramMaxSize : MachineInt) (size : ℕ)
    (room : datagramMaxSize.val = size + 9) (positive : 0 < size)
    (based : message.data.startIndex = 0) (small : message.data.count < 2 ^ 32)
    (received : List Datagram) (lossy : received.Sublist (message.fragments size))
    : Transmission where
  message := message
  datagramMaxSize := datagramMaxSize
  sent := message.fragments size
  received := received
  split := ⟨_, message.datagrams_eq room positive small,
    Message.elements_eq based room positive small⟩
  lossy := lossy

/-- Two bytes under key 0, sent one byte a datagram. -/
private def twoBytes (first second : UInt8) (received : List Datagram)
    (lossy : received.Sublist (Message.fragments ⟨0, Data.ofBytes [first, second]⟩ 1))
    : Transmission :=
  ofFragments ⟨0, Data.ofBytes [first, second]⟩ ⟨10, by decide⟩ 1 rfl (by decide) rfl
    (show 2 < 2 ^ 32 by decide) received lossy

/-- A complete message and then half of another one under the same key. -/
private def wholeThenHalf : List Transmission :=
  [twoBytes 1 2 _ (.refl _), twoBytes 3 4 _ (List.drop_sublist 1 _)]

/-- Half of a message and then the other half of another one under the same key. -/
private def halfThenHalf : List Transmission :=
  [twoBytes 1 2 _ (List.take_sublist 1 _), twoBytes 3 4 _ (List.drop_sublist 1 _)]

theorem delivered_messages_were_sent_wholeThenHalf
    : (∃ manager, (run process init (arrivals wholeThenHalf)).2 = .ok manager)
      ∧ ∀ event ∈ (run process init (arrivals wholeThenHalf)).1,
          ∃ transmission ∈ wholeThenHalf, event = .onMessage transmission.message :=
  delivered_messages_were_sent wholeThenHalf (by
    rw [wholeThenHalf, List.pairwise_pair]
    exact fun _ _ _ => rfl)

/-- Two halves under one key fit together: the bytes 1 and 4 are delivered, and no such
message was sent.
-/
theorem delivered_message_not_sent
    : ¬ ∀ transmissions : List Transmission,
        ∀ message,
          ManagerEvent.onMessage message ∈ (run process init (arrivals transmissions)).1
          → ∃ transmission ∈ transmissions, transmission.message = message := by
  intro claim
  have mixed := claim halfThenHalf ⟨0, Data.ofBytes [1, 4]⟩ (by decide)
  simp [halfThenHalf, twoBytes, ofFragments, Data.ofBytes] at mixed

end Transmission

end AgriGuardian.BLE
