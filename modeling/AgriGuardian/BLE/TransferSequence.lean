import AgriGuardian.BLE.InterleavedStreams
import AgriGuardian.BLE.PeripheralScreen

/-! Complete transfers one after another, from the fragments of the sender to the messages
on the screen.
Every end of transfer replays the datagrams of all transfers so far through a new manager.
Each of them delivers its own message there, so the last one delivered is the one just
transferred.
-/

namespace AgriGuardian.BLE.PeripheralViewController

open Swift
open Basis

/-- The arrival of a message with the key of data messages, and a value that ends it. -/
structure CompleteTransfer where
  arrival : CompleteArrival
  ending : List UInt8
  keyed : arrival.message.key = 0
  ends : isEnd ending = true

namespace CompleteTransfer

/-- The values of the parts, as they are read. -/
def partReads (transfer : CompleteTransfer) : List (List UInt8) :=
  transfer.arrival.arrived.map fun datagram => datagram.encoded.bytes

def reads (transfer : CompleteTransfer) : List (List UInt8) :=
  transfer.partReads ++ [transfer.ending]

/-- A request for the next value after every part, and then the acknowledgement and the
message.
-/
def effects (transfer : CompleteTransfer) : List PeripheralEffect :=
  List.replicate transfer.arrival.arrived.length .readValue
    ++ [.writeValue ack, .printMessage transfer.arrival.message.data]

end CompleteTransfer

-----------------------------------------------------------------------------------------
-- The array of datagrams
-----------------------------------------------------------------------------------------

/-- Parts are collected, and after each of them the next value is requested. -/
theorem run_parts {reads : List (List UInt8)} (all : ∀ bytes ∈ reads, isPart bytes = true)
    (controller : PeripheralViewController)
    : run receiveValue controller reads
      = (List.replicate reads.length .readValue, .ok ⟨controller.datagrams ++ parts reads⟩) := by
  induction reads generalizing controller with
  | nil => simp [parts]
  | cons bytes rest ih =>
      have part := all bytes List.mem_cons_self
      rcases receiveValue_cases controller bytes with
        ⟨other, -⟩ | ⟨-, -, datagram, found, called⟩ | ⟨other, -⟩
      · simp [other] at part
      · have first : parts (bytes :: rest) = datagram :: parts rest := by
          simp [parts, part, found]
        rw [run_cons_ok called, ih fun other member => all other (List.mem_cons_of_mem _ member),
          first]
        simp [List.replicate_succ]
      · simp [other] at part

/-- A value that decodes is what its datagram encodes to. -/
theorem encoded_of_datagramIn {bytes : List UInt8} {datagram : Datagram}
    (found : datagramIn bytes = some datagram)
    : datagram.encoded = Data.ofBytes bytes := by
  rcases Datagram.decode_ofBytes_cases bytes with ⟨-, rejected⟩ | ⟨-, other, decoded, -⟩
  · simp [datagramIn, rejected] at found
  · obtain rfl : other = datagram := by simpa [datagramIn, decoded] using found
    exact Datagram.encoded_of_decode decoded

/-- What is replayed are the values of the parts. -/
theorem map_encoded_parts (reads : List (List UInt8))
    : (parts reads).map Datagram.encoded = (reads.filter isPart).map Data.ofBytes := by
  induction reads with
  | nil => rfl
  | cons bytes rest ih =>
      have split : parts (bytes :: rest) = parts [bytes] ++ parts rest := parts_append [bytes] rest
      rw [split, List.map_append, ih, parts_singleton, List.filter_cons]
      split
      · rename_i part
        obtain ⟨datagram, found, -⟩ := (Option.any_eq_true _ _).mp part
        simp [found, encoded_of_datagramIn found]
      · rfl

theorem isPart_encoded {datagram : Datagram} (nonempty : datagram.payload.bytes ≠ [])
    (keyed : datagram.header.key = 0)
    : isPart datagram.encoded.bytes = true := by
  have based : Data.ofBytes datagram.encoded.bytes = datagram.encoded := by
    rw [Datagram.encoded_eq]
    rfl
  simp [isPart, keyed, datagramIn, based, Datagram.decode_encoded nonempty,
    PeripheralViewController.keyed]

-----------------------------------------------------------------------------------------
-- Replaying complete transfers
-----------------------------------------------------------------------------------------

/-- Under `try!`, a run in which nothing is thrown is the same. -/
theorem run_tryProcess {manager next : MessageManager} {inputs : List Data}
    {events : List ManagerEvent}
    (ran : run MessageManager.process manager inputs = (events, .ok next))
    (quiet : ManagerEvent.thrown .invalidDatagram ∉ events)
    : run tryProcess manager inputs = (events, .ok next) := by
  induction inputs generalizing manager events with
  | nil => exact ran
  | cons input rest ih =>
      rcases called : manager.process input with ⟨emitted, trap | middle⟩
      · simp [run_cons_error called] at ran
      · rw [run_cons_ok called] at ran
        obtain ⟨rfl, restOk⟩ := Prod.mk.inj ran
        obtain ⟨now, later⟩ := not_or.mp (mt List.mem_append.mpr quiet)
        have tried : tryProcess manager input = (emitted, .ok middle) := by
          simp [tryProcess, called, now]
        rw [run_cons_ok tried, ih (Prod.ext rfl restOk) later]

theorem not_isPart_of_isEnd {bytes : List UInt8} (ending : isEnd bytes = true)
    : isPart bytes = false := by
  rcases receiveValue_cases init bytes with ⟨notPart, -, -⟩ | ⟨-, notEnd, -⟩ | ⟨notPart, -, -⟩
  · exact notPart
  · simp [ending] at notEnd
  · exact notPart

/-- An end of transfer acknowledges, and prints what is reconstructed. -/
theorem receiveValue_of_isEnd {controller : PeripheralViewController} {bytes : List UInt8}
    (ending : isEnd bytes = true) {message : Message}
    (rebuilt : reconstruct controller.datagrams = .ok (some message))
    : controller.receiveValue bytes
      = ([.writeValue ack, .printMessage message.data], .ok controller) := by
  rcases receiveValue_cases controller bytes with
    ⟨-, notEnd, -⟩ | ⟨-, notEnd, -⟩ | ⟨-, -, called⟩
  · simp [ending] at notEnd
  · simp [ending] at notEnd
  · rw [called, rebuilt]

namespace CompleteTransfer

theorem isPart_partReads (transfer : CompleteTransfer)
    : ∀ bytes ∈ transfer.partReads, isPart bytes = true := by
  intro bytes member
  obtain ⟨datagram, arrived, rfl⟩ := List.mem_map.mp member
  have piece := transfer.arrival.piece datagram arrived
  exact isPart_encoded piece.nonempty (piece.key.trans transfer.keyed)

theorem filter_reads (transfers : List CompleteTransfer)
    : ((transfers.flatMap reads).filter isPart).map Data.ofBytes
      = CompleteArrival.arrivals (transfers.map arrival) := by
  induction transfers with
  | nil => rfl
  | cons transfer rest ih =>
      have partsKept : transfer.partReads.filter isPart = transfer.partReads :=
        List.filter_eq_self.mpr transfer.isPart_partReads
      have encodings
          : transfer.partReads.map Data.ofBytes
            = transfer.arrival.arrived.map Datagram.encoded := by
        rw [partReads, List.map_map]
        exact List.map_congr_left fun datagram _ => by
          rw [Function.comp, Datagram.encoded_eq]
          rfl
      rw [List.flatMap_cons, List.filter_append, List.map_append, ih, List.map_cons,
        CompleteArrival.arrivals_cons, reads, List.filter_append, partsKept,
        List.filter_singleton, not_isPart_of_isEnd transfer.ends]
      simp [encodings]

/-- What complete transfers leave in the array reconstructs to the message of the last one. -/
theorem reconstruct_parts (transfers : List CompleteTransfer) (last : CompleteTransfer)
    : reconstruct (parts ((transfers ++ [last]).flatMap reads))
      = .ok (some last.arrival.message) := by
  have keyed
      : ∀ received ∈ (transfers ++ [last]).map arrival, received.message.key = 0 := by
    intro received member
    obtain ⟨transfer, -, rfl⟩ := List.mem_map.mp member
    exact transfer.keyed
  obtain ⟨manager, ran, -⟩ :=
    CompleteArrival.run_arrivals keyed MessageManager.init_builders
  have replayed := run_tryProcess ran (by simp)
  rw [reconstruct, map_encoded_parts, filter_reads, replayed]
  simp [MessageManager.messages, ManagerEvent.message]

/-- Whatever complete transfers are read one after another, the parts of each in any order
and with repetitions, the screen never traps. It requests the next value after each part
and none after an end of transfer, and at each end of transfer it writes one
acknowledgement and then prints the message just transferred.
-/
theorem transfers_printed (transfers : List CompleteTransfer)
    : ∃ controller,
        run receiveValue init (transfers.flatMap reads)
          = (transfers.flatMap effects, .ok controller) := by
  induction transfers using List.reverseRecOn with
  | nil => exact ⟨init, rfl⟩
  | append_singleton before transfer ih =>
      obtain ⟨controller, ran⟩ := ih
      have kept := datagrams_eq_parts (congrArg Prod.snd ran)
      have collected
          : controller.datagrams ++ parts transfer.partReads
            = parts ((before ++ [transfer]).flatMap reads) := by
        rw [kept, List.flatMap_append, List.flatMap_singleton, reads, parts_append, parts_append,
          parts_singleton, not_isPart_of_isEnd transfer.ends]
        simp
      have ended
          : receiveValue ⟨parts ((before ++ [transfer]).flatMap reads)⟩ transfer.ending
            = ([.writeValue ack, .printMessage transfer.arrival.message.data],
              .ok ⟨parts ((before ++ [transfer]).flatMap reads)⟩) :=
        receiveValue_of_isEnd transfer.ends (reconstruct_parts before transfer)
      have count : transfer.partReads.length = transfer.arrival.arrived.length :=
        List.length_map _
      have requested
          : (before ++ [transfer]).flatMap effects
            = before.flatMap effects
              ++ (List.replicate transfer.arrival.arrived.length .readValue
                ++ [.writeValue ack, .printMessage transfer.arrival.message.data]) := by
        rw [List.flatMap_append, List.flatMap_singleton]
        rfl
      refine ⟨⟨parts ((before ++ [transfer]).flatMap reads)⟩, ?_⟩
      calc
        run receiveValue init ((before ++ [transfer]).flatMap reads)
            = run receiveValue init
                (before.flatMap reads ++ (transfer.partReads ++ [transfer.ending])) := by
            rw [List.flatMap_append, List.flatMap_singleton, reads]
        _ = ((before ++ [transfer]).flatMap effects,
              .ok ⟨parts ((before ++ [transfer]).flatMap reads)⟩) := by
            rw [run_append_ok ran, run_append_ok (run_parts transfer.isPart_partReads controller),
              run_singleton, collected, ended, requested, count]

/-- Whatever else the callbacks do, as long as they come in order and the values of the
characteristic discovered last are those of complete transfers, the screen never traps, and
prints and acknowledges exactly these transfers.
-/
theorem transfers_printed_on_screen {callbacks : List DelegateCallback}
    (inOrder : PeripheralScreen.ConnectsInOrder false callbacks)
    {transfers : List CompleteTransfer}
    (read
      : PeripheralScreen.accepted none callbacks
        = (transfers.flatMap reads).map fun bytes => some (Data.ofBytes bytes))
    : ∃ requests final,
        run PeripheralScreen.receive PeripheralScreen.init callbacks = (requests, .ok final)
        ∧ requests.filterMap PeripheralScreen.processingEffect = transfers.flatMap effects := by
  obtain ⟨controller, printed⟩ := transfers_printed transfers
  have processed
      : run processDatagrams init (PeripheralScreen.accepted none callbacks)
        = (transfers.flatMap effects, .ok controller) := by
    rw [read, run_map]
    exact printed
  obtain ⟨final, completed⟩ :=
    (PeripheralScreen.receive_completes_iff PeripheralScreen.init callbacks).mpr
      ⟨inOrder, controller, congrArg Prod.snd processed⟩
  have mirrored := PeripheralScreen.run_accepted (Prod.ext rfl completed)
  exact ⟨_, final, Prod.ext rfl completed, (congrArg Prod.fst (mirrored.symm.trans processed))⟩

/-- The letter A under key 0, ended by a FYN. -/
private def letterA : CompleteTransfer where
  arrival := .ofByte 0 65
  ending := [6, 0, 0, 0, 0, 1, 0, 0, 0, 0]
  keyed := rfl
  ends := by decide

/-- A connection and a transfer, with a value of another characteristic in between. -/
private def connectedSession : List DelegateCallback := [
  .centralManagerDidUpdateState .poweredOn,
  .didDiscover ⟨"pi"⟩,
  .didConnect ⟨"pi"⟩,
  .didDiscoverServices ⟨"pi"⟩ (some [⟨PeripheralScreen.raspberryPi⟩]),
  .didDiscoverCharacteristicsFor ⟨"pi"⟩ (some [⟨"a", true, none⟩, ⟨"b", true, none⟩]),
  .didUpdateValueFor ⟨"pi"⟩ ⟨"b", true, some (Data.ofBytes [0, 0, 0, 0, 0, 1, 0, 0, 0, 65])⟩,
  .didUpdateValueFor ⟨"pi"⟩ ⟨"a", true, some (Data.ofBytes [1])⟩,
  .didUpdateValueFor ⟨"pi"⟩ ⟨"b", true, some (Data.ofBytes [6, 0, 0, 0, 0, 1, 0, 0, 0, 0])⟩]

theorem transfers_printed_on_screen_letterA
    : ∃ requests final,
        run PeripheralScreen.receive PeripheralScreen.init connectedSession
          = (requests, .ok final)
        ∧ requests.filterMap PeripheralScreen.processingEffect = [letterA].flatMap effects :=
  transfers_printed_on_screen (by simp [connectedSession, PeripheralScreen.ConnectsInOrder]) rfl

end CompleteTransfer

end AgriGuardian.BLE.PeripheralViewController
