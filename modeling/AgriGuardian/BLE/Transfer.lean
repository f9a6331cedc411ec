import AgriGuardian.BLE.Filling
import AgriGuardian.BLE.Peripheral

/-! What the peripheral screen reconstructs, in terms of fillings.
The screen encodes its datagrams again and replays them through a new manager. All of them
have key 0, so the replay is one filling after another.
-/

namespace AgriGuardian.BLE

open Swift
open Basis

/-- The parts are received without an overrun and deliver a message. -/
def Filling.Completes (parts : List Datagram) : Prop :=
  ∃ messages slot, run feed none parts = (messages, .ok slot) ∧ messages ≠ []

namespace PeripheralViewController

/-- Under `try!`, processing an encoded datagram is still feeding it: it decodes. -/
theorem tryProcess_encoded (manager : MessageManager) {datagram : Datagram}
    (nonempty : datagram.payload.bytes ≠ []) {slot : Option Filling}
    (stored : manager.builders datagram.header.key = Filling.entry slot)
    : tryProcess manager datagram.encoded
      = match Filling.feed slot datagram with
        | (messages, .error trap) => (messages.map .onMessage, .error trap)
        | (messages, .ok next) =>
            (messages.map .onMessage,
              .ok (manager.setBuilder datagram.header.key (Filling.entry next))) := by
  have processed := MessageManager.process_encoded manager nonempty stored
  rw [Filling.feed]
  cases received : Filling.receive slot datagram with
  | error trap =>
      rw [received] at processed
      simp [tryProcess, processed]
  | ok result =>
      rw [received] at processed
      simp [tryProcess, processed]

/-- Replaying datagrams with one key mirrors feeding them. -/
theorem simulation (key : UInt8)
    : Simulation tryProcess Filling.feed
        (fun manager slot => manager.builders key = Filling.entry slot)
        (fun datagram => datagram.header.key = key ∧ datagram.payload.bytes ≠ [])
        Datagram.encoded ManagerEvent.message := by
  have delivered (messages : List Message)
      : (messages.map ManagerEvent.onMessage).filterMap ManagerEvent.message = messages := by
    rw [List.filterMap_map]
    exact List.filterMap_some
  constructor
  · rintro manager slot datagram messages trap stored ⟨rfl, nonempty⟩ fed
    refine ⟨messages.map .onMessage, ?_, delivered messages⟩
    rw [tryProcess_encoded manager nonempty stored, fed]
  · rintro manager slot datagram messages next stored ⟨rfl, nonempty⟩ fed
    refine ⟨messages.map .onMessage,
      manager.setBuilder datagram.header.key (Filling.entry next), ?_, by simp,
      delivered messages⟩
    rw [tryProcess_encoded manager nonempty stored, fed]

/-- The reconstruction is the last message that feeding the datagrams delivers. -/
theorem reconstruct_eq {datagrams : List Datagram}
    (sound : ∀ datagram ∈ datagrams,
        datagram.header.key = 0 ∧ datagram.payload.bytes ≠ [])
    : reconstruct datagrams
      = match run Filling.feed none datagrams with
        | (_, .error trap) => .error trap
        | (messages, .ok _) => .ok messages.getLast? := by
  have start : MessageManager.init.builders 0 = Filling.entry none := rfl
  obtain ⟨delivered, outcome⟩ := (simulation 0).run start sound
  rcases replayed : run tryProcess MessageManager.init (datagrams.map Datagram.encoded) with
    ⟨events, result⟩
  rcases fed : run Filling.feed none datagrams with ⟨messages, slot⟩
  rw [replayed, fed] at delivered outcome
  rcases outcome with ⟨trap, rfl, rfl⟩ | ⟨filling, manager, rfl, rfl, -⟩
  · rw [reconstruct, replayed]
  · rw [reconstruct, replayed]
    exact congrArg (fun list => Except.ok (List.getLast? list)) delivered

/-- A part that was read has key 0 and carries bytes. -/
theorem sound_parts (reads : List (List UInt8))
    : ∀ datagram ∈ parts reads, datagram.header.key = 0 ∧ datagram.payload.bytes ≠ [] := by
  intro datagram member
  obtain ⟨bytes, isRead, found⟩ := List.mem_filterMap.mp member
  have part := (List.mem_filter.mp isRead).2
  rcases Datagram.decode_ofBytes_cases bytes with ⟨-, rejected⟩ | ⟨-, other, decoded, nonempty⟩
  · simp [datagramIn, rejected] at found
  · have same : other = datagram := by simpa [datagramIn, decoded] using found
    subst same
    exact ⟨by simpa [isPart, keyed, found] using part, nonempty⟩

/-- Parts complete a message exactly when a new manager reconstructs one from them. -/
theorem completes_parts_iff (reads : List (List UInt8))
    : Filling.Completes (parts reads)
      ↔ ∃ message, reconstruct (parts reads) = .ok (some message) := by
  rw [Filling.Completes, reconstruct_eq (sound_parts reads)]
  rcases run Filling.feed none (parts reads) with ⟨messages, trap | slot⟩
  · simp
  · cases last : messages.getLast? with
    | none =>
        have empty := List.getLast?_eq_none_iff.mp last
        simp [empty]
    | some message =>
        have delivered : messages ≠ [] := by
          rintro rfl
          simp at last
        simp [last, delivered]

/-- What an end of transfer does, by what feeding the parts kept delivers. -/
theorem receiveValue_end {controller : PeripheralViewController} {reads : List (List UInt8)}
    (kept : controller.datagrams = parts reads) {bytes : List UInt8} (ending : isEnd bytes = true)
    : controller.receiveValue bytes
      = match run Filling.feed none (parts reads) with
        | (_, .error trap) => ([.writeValue ack], .error trap)
        | (messages, .ok _) =>
            match messages.getLast? with
            | none => ([.writeValue ack], .error .unexpectedNil)
            | some message => ([.writeValue ack, .printMessage message.data], .ok controller) := by
  rcases receiveValue_cases controller bytes with
    ⟨-, other, -⟩ | ⟨-, other, -⟩ | ⟨-, -, called⟩
  · simp [other] at ending
  · simp [other] at ending
  · rw [called, kept, reconstruct_eq (sound_parts reads)]
    rcases run Filling.feed none (parts reads) with ⟨messages, trap | slot⟩
    · rfl
    · dsimp only
      cases messages.getLast? with
      | none => rfl
      | some message => rfl

end PeripheralViewController

end AgriGuardian.BLE
