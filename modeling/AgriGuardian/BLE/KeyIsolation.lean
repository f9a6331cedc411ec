import AgriGuardian.BLE.MessageReceiver

/-! Transfers under different keys do not interfere.
An observer of one key sees the datagrams of that key, the table entry of that key and the
messages delivered under it. The manager satisfies the unwinding conditions of this
observer, so removing every other byte string from a run changes nothing for it.
-/

namespace AgriGuardian.BLE.MessageManager

open Swift
open Basis

/-- The bytes decode to a datagram with the key. -/
def carriesKey (key : UInt8) (datagramData : Data) : Bool :=
  match Datagram.decode datagramData with
  | .ok (some datagram) => datagram.header.key = key
  | _ => false

/-- The messages passed to `onMessage`, in order. -/
def messages (events : List ManagerEvent) : List Message := events.filterMap ManagerEvent.message

/-- The event is the delivery of a message with the key. -/
def deliversKey (key : UInt8) : ManagerEvent → Bool
  | .onMessage message => message.key = key
  | .thrown _ => false

/-- A delivered message has the key of the datagram that completed it. -/
theorem receive_key {entry next : Option MessageBuilder} {datagram : Datagram}
    {delivered : Option Message}
    (received : receive entry datagram = .ok (delivered, next))
    : ∀ message ∈ delivered, message.key = datagram.header.key := by
  simp only [receive, bind_eq_ok] at received
  obtain ⟨⟨builder, completed⟩, -, result⟩ := received
  cases completed with
  | none =>
      obtain ⟨rfl, -⟩ := Prod.mk.inj (Except.ok.inj result)
      simp
  | some data =>
      obtain ⟨rfl, -⟩ := Prod.mk.inj (Except.ok.inj result)
      simp

/-- The observer of a key cannot see other datagrams, nor tell two tables apart that agree
on its entry.
-/
theorem unwinding (key : UInt8)
    : Unwinding process (carriesKey key) (fun manager => manager.builders key)
        (deliversKey key) := by
  constructor
  · intro manager next datagramData events hidden called
    rcases process_eq_ok called with
      ⟨-, rfl, rfl⟩ | ⟨datagram, delivered, entry, decoded, received, rfl, rfl⟩
    · exact ⟨rfl, rfl⟩
    · have different : datagram.header.key ≠ key := by
        simpa [carriesKey, decoded] using hidden
      refine ⟨builders_setBuilder_of_ne manager (Ne.symm different) entry, ?_⟩
      have keyed := receive_key received
      cases delivered with
      | none => rfl
      | some message => simp [deliversKey, keyed message rfl, different]
  · intro manager twin next datagramData events visible same called
    rcases process_eq_ok called with
      ⟨rejected, -, -⟩ | ⟨datagram, delivered, entry, decoded, received, rfl, rfl⟩
    · simp [carriesKey, rejected] at visible
    · obtain rfl : datagram.header.key = key := by
        simpa [carriesKey, decoded] using visible
      have twinCalled := process_decoded twin decoded
      have entryEq
          : manager.builders datagram.header.key = twin.builders datagram.header.key := same
      rw [← entryEq, received] at twinCalled
      exact ⟨_, _, twinCalled, by simp, rfl⟩

/-- Every event of a run on datagrams of one key is a delivery under that key. -/
theorem delivers_of_carries {key : UInt8} {manager : MessageManager} {inputs : List Data}
    (carries : ∀ datagramData ∈ inputs, carriesKey key datagramData = true)
    : ∀ event ∈ (run process manager inputs).1, deliversKey key event = true := by
  refine run_outputs (fun manager datagramData visible => ?_) carries
  cases decoded : Datagram.decode datagramData with
  | error trap => simp [carriesKey, decoded] at visible
  | ok result =>
      cases result with
      | none => simp [carriesKey, decoded] at visible
      | some datagram =>
          have same : datagram.header.key = key := by simpa [carriesKey, decoded] using visible
          rw [process_decoded manager decoded]
          cases received : receive (manager.builders datagram.header.key) datagram with
          | error trap => simp
          | ok pair =>
              have keyed := receive_key received
              obtain ⟨delivered, entry⟩ := pair
              cases delivered with
              | none => simp
              | some message => simp [deliversKey, keyed message rfl, same]

theorem messages_filter (key : UInt8) (events : List ManagerEvent)
    : (messages events).filter (fun message => message.key = key)
      = messages (events.filter (deliversKey key)) := by
  induction events with
  | nil => rfl
  | cons event rest ih =>
      cases event with
      | thrown error =>
          simpa [messages, ManagerEvent.message, deliversKey, List.filterMap_cons] using ih
      | onMessage message =>
          by_cases same : message.key = key
          · simpa [messages, ManagerEvent.message, deliversKey, List.filterMap_cons, same] using ih
          · simpa [messages, ManagerEvent.message, deliversKey, List.filterMap_cons, same] using ih

/-- In a run that does not trap, the messages delivered under a key are exactly those a
new manager delivers when it is fed the byte strings of that key alone, and feeding it
those does not trap either.
-/
theorem messages_isolated {inputs : List Data} {events : List ManagerEvent}
    {manager : MessageManager} (completed : run process init inputs = (events, .ok manager))
    (key : UInt8)
    : ∃ alone aloneEvents,
        run process init (inputs.filter (carriesKey key)) = (aloneEvents, .ok alone)
        ∧ (messages events).filter (fun message => message.key = key) = messages aloneEvents := by
  obtain ⟨alone, aloneEvents, ran, -, same⟩ := (unwinding key).purge rfl completed
  refine ⟨alone, aloneEvents, ran, ?_⟩
  have observed : aloneEvents.filter (deliversKey key) = aloneEvents := by
    apply List.filter_eq_self.mpr
    have all
        : ∀ event ∈ (run process init (inputs.filter (carriesKey key))).1,
            deliversKey key event = true :=
      delivers_of_carries (fun datagramData member => (List.mem_filter.mp member).2)
    rwa [ran] at all
  rw [messages_filter, same, observed]

/-- A whole message under key 1 between the two halves of one under key 2. -/
theorem messages_isolated_two_keys
    : ∃ alone aloneEvents,
        run process init
            ([Data.ofBytes [2, 0, 0, 0, 0, 2, 0, 0, 0, 8],
              Data.ofBytes [1, 0, 0, 0, 0, 1, 0, 0, 0, 7],
              Data.ofBytes [2, 1, 0, 0, 0, 2, 0, 0, 0, 9]].filter (carriesKey 2))
          = (aloneEvents, .ok alone)
        ∧ (messages
            [.onMessage ⟨1, Data.ofBytes [7]⟩, .onMessage ⟨2, Data.ofBytes [8, 9]⟩]).filter
              (fun message => message.key = 2)
          = messages aloneEvents :=
  messages_isolated rfl 2

end AgriGuardian.BLE.MessageManager
