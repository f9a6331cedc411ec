import AgriGuardian.Basis.Interleaving
import AgriGuardian.BLE.KeyIsolation
import AgriGuardian.BLE.Reassembly

/-! Several senders at once, each with a key of its own.
A sender sends its messages one after another, and the datagrams of different senders arrive
interleaved in any way. Keys separate the streams, so each sender's messages are delivered
as if it were alone.
-/

namespace AgriGuardian.BLE

open Swift
open Basis

/-- A message with the arrivals of its datagrams, in any order and with repetitions, up to
the one that makes it complete.
-/
structure CompleteArrival where
  message : Message
  datagramMaxSize : MachineInt
  sent : List Datagram
  earlier : List Datagram
  last : Datagram
  split : ∃ view, message.datagrams datagramMaxSize = .ok view ∧ view.elements = .ok sent
  genuine : ∀ datagram ∈ earlier ++ [last], datagram ∈ sent
  incomplete : ¬ sent ⊆ earlier
  complete : sent ⊆ earlier ++ [last]

namespace CompleteArrival

open MessageManager

def arrived (arrival : CompleteArrival) : List Datagram := arrival.earlier ++ [arrival.last]

/-- The byte strings of one arrival after another. -/
def arrivals (stream : List CompleteArrival) : List Data :=
  (stream.flatMap arrived).map Datagram.encoded

theorem arrivals_cons (arrival : CompleteArrival) (rest : List CompleteArrival)
    : arrivals (arrival :: rest)
      = arrival.arrived.map Datagram.encoded ++ arrivals rest := by
  rw [arrivals, List.flatMap_cons, List.map_append, arrivals]

/-- What arrived are fragments of the message, split in one of the sizes that have room. -/
theorem fragments (arrival : CompleteArrival)
    : arrival.message.data.startIndex = 0
      ∧ arrival.message.data.count < 2 ^ 32
      ∧ ∃ size, 0 < size ∧ arrival.sent = arrival.message.fragments size := by
  obtain ⟨view, created, elements⟩ := arrival.split
  refine Message.fragments_of_elements created elements ?_
  intro empty
  exact arrival.incomplete (empty ▸ List.nil_subset _)

theorem piece (arrival : CompleteArrival)
    : ∀ datagram ∈ arrival.arrived, Message.Piece arrival.message datagram := by
  intro datagram member
  obtain ⟨-, small, size, positive, sent⟩ := arrival.fragments
  exact Message.piece_of_mem_fragments positive small (sent ▸ arrival.genuine datagram member)

/-- One arrival, at a manager without a builder for its key, delivers the message. -/
theorem run_arrived (arrival : CompleteArrival) {manager : MessageManager}
    (free : manager.builders arrival.message.key = none)
    : ∃ next,
        run process manager (arrival.arrived.map Datagram.encoded)
          = ([.onMessage arrival.message], .ok next)
        ∧ next.builders arrival.message.key = none := by
  obtain ⟨based, small, size, positive, sent⟩ := arrival.fragments
  have coverage (parts : List Datagram) (genuine : ∀ part ∈ parts, part ∈ arrival.sent)
      : remaining arrival.message.data.count (parts.map Datagram.write) = ∅
        ↔ arrival.sent ⊆ parts := by
    rw [sent] at genuine ⊢
    exact Message.remaining_fragments_eq_empty_iff positive small genuine
  have earlierGenuine : ∀ part ∈ arrival.earlier, part ∈ arrival.sent :=
    fun part member => arrival.genuine part (List.mem_append_left _ member)
  obtain ⟨middle, next, ran, called, -, emptied⟩ := run_parts_complete based (holds_nil free)
    arrival.piece
    (fun closed => arrival.incomplete ((coverage _ earlierGenuine).mp closed))
    ((coverage _ arrival.genuine).mpr arrival.complete)
  refine ⟨next, ?_, emptied⟩
  rw [arrived, List.map_append, List.map_singleton, run_append_ok ran, run_singleton, called]
  rfl

/-- A stream of arrivals under one key, at a manager without a builder for it, delivers its
messages in order.
-/
theorem run_arrivals {key : UInt8} {stream : List CompleteArrival}
    (keyed : ∀ arrival ∈ stream, arrival.message.key = key) {manager : MessageManager}
    (free : manager.builders key = none)
    : ∃ next,
        run process manager (arrivals stream)
          = (stream.map fun arrival => .onMessage arrival.message, .ok next)
        ∧ next.builders key = none := by
  induction stream generalizing manager with
  | nil => exact ⟨manager, rfl, free⟩
  | cons arrival rest ih =>
      obtain rfl := keyed arrival List.mem_cons_self
      obtain ⟨middle, ran, emptied⟩ := arrival.run_arrived free
      obtain ⟨next, restRan, left⟩ :=
        ih (fun other member => keyed other (List.mem_cons_of_mem _ member)) emptied
      refine ⟨next, ?_, left⟩
      rw [arrivals_cons, run_append_ok ran, restRan]
      rfl

/-- Bytes that carry no key are too short to be a datagram, and are refused. -/
theorem refused_of_keyless (manager : MessageManager) {bytes : List UInt8}
    (keyless : ∀ key, carriesKey key (Data.ofBytes bytes) = false)
    : manager.process (Data.ofBytes bytes) = ([.thrown .invalidDatagram], .ok manager) := by
  rcases Datagram.decode_ofBytes_cases bytes with ⟨-, rejected⟩ | ⟨-, datagram, decoded, -⟩
  · exact process_undecodable manager rejected
  · have carried := keyless datagram.header.key
    simp [carriesKey, decoded] at carried

/-- Whatever the interleaving of the streams of the keys, with any bytes in between that are
too short to be datagrams, processing never traps. Under each key exactly the messages of
its stream are delivered, in order, and no builder is left.
-/
theorem interleaved_streams_delivered {streams : UInt8 → List CompleteArrival}
    (keyed : ∀ key, ∀ arrival ∈ streams key, arrival.message.key = key)
    {values : List (List UInt8)}
    (interleaved
      : ∀ key,
          (values.map Data.ofBytes).filter (carriesKey key) = arrivals (streams key))
    : ∃ events manager,
        run process init (values.map Data.ofBytes) = (events, .ok manager)
        ∧ ∀ key,
            (messages events).filter (fun message => message.key = key)
              = (streams key).map CompleteArrival.message
            ∧ manager.builders key = none := by
  have harmless
      : ∀ current, ∀ datagramData ∈ values.map Data.ofBytes,
          (∀ key, carriesKey key datagramData = false)
          → ∃ next, (process current datagramData).2 = .ok next := by
    intro current datagramData member keyless
    obtain ⟨bytes, -, rfl⟩ := List.mem_map.mp member
    exact ⟨current, congrArg Prod.snd (refused_of_keyless current keyless)⟩
  have streamed
      : ∀ key, ∃ next,
          run process init ((values.map Data.ofBytes).filter (carriesKey key))
            = ((streams key).map fun arrival => .onMessage arrival.message, .ok next)
          ∧ next.builders key = none := by
    intro key
    rw [interleaved key]
    exact run_arrivals (keyed key) init_builders
  choose final alone emptied using streamed
  obtain ⟨events, manager, ran, seen⟩ := observed_of_alone unwinding harmless alone
  refine ⟨events, manager, ran, fun key => ?_⟩
  obtain ⟨sameBuilder, sameEvents⟩ := seen key
  refine ⟨?_, sameBuilder.trans (emptied key)⟩
  have own
      : ((streams key).map fun arrival => ManagerEvent.onMessage arrival.message).filter
          (deliversKey key)
        = (streams key).map fun arrival => ManagerEvent.onMessage arrival.message := by
    apply List.filter_eq_self.mpr
    intro event member
    obtain ⟨arrival, inStream, rfl⟩ := List.mem_map.mp member
    exact decide_eq_true (keyed key arrival inStream)
  rw [messages_filter, sameEvents, own, messages, List.filterMap_map]
  exact congrFun (@List.filterMap_eq_map _ _ CompleteArrival.message) (streams key)

theorem splits_into_fragments {message : Message} {datagramMaxSize : MachineInt} {size : ℕ}
    (based : message.data.startIndex = 0) (room : datagramMaxSize.val = size + 9)
    (positive : 0 < size) (small : message.data.count < 2 ^ 32)
    : ∃ view,
        message.datagrams datagramMaxSize = .ok view
        ∧ view.elements = .ok (message.fragments size) :=
  ⟨_, message.datagrams_eq room positive small, Message.elements_eq based room positive small⟩

/-- The fragments of a message, each of them once and in any order, are a complete arrival.
Witness: fragments are pairwise different, so the last one is missing before it arrives.
-/
def ofFragments (message : Message) (datagramMaxSize : MachineInt) (size : ℕ)
    (room : datagramMaxSize.val = size + 9) (positive : 0 < size)
    (based : message.data.startIndex = 0) (small : message.data.count < 2 ^ 32)
    (earlier : List Datagram) (last : Datagram)
    (arranged : (earlier ++ [last]).Perm (message.fragments size))
    : CompleteArrival where
  message := message
  datagramMaxSize := datagramMaxSize
  sent := message.fragments size
  earlier := earlier
  last := last
  split := splits_into_fragments based room positive small
  genuine := fun _ member => arranged.mem_iff.mp member
  incomplete := by
    intro subset
    have distinct := arranged.nodup_iff.mpr (message.nodup_fragments positive)
    have again := subset (arranged.mem_iff.mp (by simp : last ∈ earlier ++ [last]))
    exact List.disjoint_of_nodup_append distinct again List.mem_cons_self
  complete := fun _ member => arranged.mem_iff.mpr member

/-- One byte under a key. -/
def ofByte (key byte : UInt8) : CompleteArrival :=
  ofFragments ⟨key, Data.ofBytes [byte]⟩ ⟨11, by decide⟩ 2 rfl (by decide) rfl
    (show 1 < 2 ^ 32 by decide) [] ⟨⟨key, 0, 1⟩, Data.ofBytes [byte]⟩ (by
      simp [Message.fragments, Message.fragment, Message.fragmentCount, Data.ofBytes, Data.count])

/-- Three bytes under key 2, of which the last arrives first. -/
private def lastFirst : CompleteArrival :=
  ofFragments ⟨2, Data.ofBytes [8, 9, 10]⟩ ⟨11, by decide⟩ 2 rfl (by decide) rfl
    (show 3 < 2 ^ 32 by decide) [⟨⟨2, 2, 3⟩, ⟨2, [10]⟩⟩] ⟨⟨2, 0, 3⟩, Data.ofBytes [8, 9]⟩
    (List.Perm.swap _ _ [])

/-- A sender with key 1 and one with key 2. -/
private def twoSenders (key : UInt8) : List CompleteArrival :=
  if key = 1 then [ofByte 1 7] else if key = 2 then [lastFirst] else []

theorem interleaved_streams_delivered_two_senders
    : ∃ events manager,
        run process init
            ([[2, 2, 0, 0, 0, 3, 0, 0, 0, 10], [1, 0, 0, 0, 0, 1, 0, 0, 0, 7], [6],
              [2, 0, 0, 0, 0, 3, 0, 0, 0, 8, 9]].map Data.ofBytes)
          = (events, .ok manager)
        ∧ ∀ key,
            (messages events).filter (fun message => message.key = key)
              = (twoSenders key).map CompleteArrival.message
            ∧ manager.builders key = none := by
  apply interleaved_streams_delivered
  · intro key arrival member
    by_cases one : key = 1
    · subst one
      obtain rfl : arrival = ofByte 1 7 := by simpa [twoSenders] using member
      rfl
    · by_cases two : key = 2
      · subst two
        obtain rfl : arrival = lastFirst := by simpa [twoSenders] using member
        rfl
      · simp [twoSenders, one, two] at member
  · intro key
    by_cases one : key = 1
    · subst one
      decide
    · by_cases two : key = 2
      · subst two
        decide
      · have ending : carriesKey key (Data.ofBytes [2, 2, 0, 0, 0, 3, 0, 0, 0, 10]) = false :=
          decide_eq_false (Ne.symm two)
        have whole : carriesKey key (Data.ofBytes [1, 0, 0, 0, 0, 1, 0, 0, 0, 7]) = false :=
          decide_eq_false (Ne.symm one)
        have short : carriesKey key (Data.ofBytes [6]) = false := rfl
        have opening : carriesKey key (Data.ofBytes [2, 0, 0, 0, 0, 3, 0, 0, 0, 8, 9]) = false :=
          decide_eq_false (Ne.symm two)
        simp [twoSenders, one, two, arrivals, ending, whole, short, opening]

end CompleteArrival

end AgriGuardian.BLE
