import AgriGuardian.BLE.Transfer

/-! When an acknowledgement is sound.
The handler acknowledges every datagram that is not a part, before it reconstructs
anything. So it is only as careful as the peripheral: the acknowledgement is sound exactly
when each such datagram is a FYN that closes a complete transfer.
-/

namespace AgriGuardian.BLE.PeripheralViewController

open Swift
open Basis

/-- The value is the FYN datagram, and the parts read since the previous FYN reassemble
into a complete message.
-/
def ClosesTransfer (before : List (List UInt8)) (bytes : List UInt8) : Prop :=
  isFYN bytes = true ∧ Filling.Completes (parts (since isFYN before))

/-- An acknowledgement is written only for a closed transfer; without one the call writes
none, produces no message and does not trap.
-/
def AckSound (before : List (List UInt8)) (controller : PeripheralViewController)
    (bytes : List UInt8)
    : Prop :=
  (PeripheralEffect.writeValue ack ∈ (controller.receiveValue bytes).1
    → ClosesTransfer before bytes)
  ∧ (¬ ClosesTransfer before bytes
    → PeripheralEffect.writeValue ack ∉ (controller.receiveValue bytes).1
      ∧ (∀ data, PeripheralEffect.printMessage data ∉ (controller.receiveValue bytes).1)
      ∧ ∃ next, (controller.receiveValue bytes).2 = .ok next)

/-- A datagram that is not a part is read only where it closes a transfer. -/
def EndsOnlyClosed (before : List (List UInt8)) (bytes : List UInt8) : Prop :=
  isEnd bytes = true → ClosesTransfer before bytes

/-- The handler acknowledges exactly the datagrams that are not parts. -/
theorem ack_iff_isEnd (controller : PeripheralViewController) (bytes : List UInt8)
    : PeripheralEffect.writeValue ack ∈ (controller.receiveValue bytes).1 ↔ isEnd bytes = true := by
  rcases receiveValue_cases controller bytes with
    ⟨-, other, called⟩ | ⟨-, other, datagram, -, called⟩ | ⟨-, ending, called⟩
  · simp [called, other]
  · simp [called, other]
  · rw [called]
    rcases reconstruct controller.datagrams with trap | _ | message <;> simp [ending]

/-- A value that is not acknowledged produces no message and does not trap. -/
theorem quiet_of_not_isEnd (controller : PeripheralViewController) {bytes : List UInt8}
    (other : isEnd bytes ≠ true)
    : (∀ data, PeripheralEffect.printMessage data ∉ (controller.receiveValue bytes).1)
      ∧ ∃ next, (controller.receiveValue bytes).2 = .ok next := by
  rcases receiveValue_cases controller bytes with
    ⟨-, -, called⟩ | ⟨-, -, datagram, -, called⟩ | ⟨-, ending, -⟩
  · simp [called]
  · simp [called]
  · exact absurd ending other

theorem ackSound_iff (before : List (List UInt8)) (controller : PeripheralViewController)
    (bytes : List UInt8)
    : AckSound before controller bytes ↔ EndsOnlyClosed before bytes := by
  rw [AckSound, ack_iff_isEnd]
  constructor
  · exact And.left
  · intro closed
    refine ⟨closed, fun open' => ?_⟩
    have other : isEnd bytes ≠ true := fun ending => open' (closed ending)
    exact ⟨other, quiet_of_not_isEnd controller other⟩

/-- Along every sequence of values, the acknowledgements are sound exactly when every
datagram with a key other than 0 is a FYN that closes a complete transfer.
-/
theorem ackSound_along_iff (reads : List (List UInt8))
    : Along receiveValue init reads AckSound
      ↔ Along receiveValue init reads (fun before _ bytes => EndsOnlyClosed before bytes) :=
  along_congr (fun before controller bytes _ => ackSound_iff before controller bytes) reads

/-- A FYN before any part is acknowledged, and the handler then traps on the missing
message.
-/
theorem ack_unsound_without_parts
    : ¬ ∀ reads, Along receiveValue init reads AckSound := by
  intro sound
  have closed := (sound [[6, 0, 0, 0, 0, 1, 0, 0, 0, 0]] [] _ [] rfl init rfl).1
    ((ack_iff_isEnd init _).mpr (by decide))
  obtain ⟨messages, slot, fed, delivered⟩ := closed.2
  have nothing : ([], .ok none) = (messages, Except.ok slot) := fed
  obtain ⟨empty, -⟩ := Prod.mk.inj nothing
  exact delivered empty.symm

end AgriGuardian.BLE.PeripheralViewController
