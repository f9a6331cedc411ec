import AgriGuardian.BLE.Filling

/-! When processing arbitrary peripheral bytes is safe.
Offset, payload length and message length come from the wire independently, and the
buffer may have been sized by an earlier datagram. A call is safe exactly when the payload
fits that buffer.
-/

namespace AgriGuardian.BLE.MessageManager

open Swift
open Basis

/-- Processing a byte string indexed from 0. -/
def processBytes : Handler MessageManager (List UInt8) ManagerEvent Trap :=
  fun manager bytes => manager.process (Data.ofBytes bytes)

/-- The call returns, or throws `invalidDatagram` and leaves the builders as they were. -/
def Robust (manager : MessageManager) (bytes : List UInt8) : Prop :=
  ∃ events next,
    manager.processBytes bytes = (events, .ok next)
    ∧ ∀ error,
        ManagerEvent.thrown error ∈ events
        → error = .invalidDatagram ∧ next.builders = manager.builders

/-- The length of the buffer a datagram is inserted into: the message length of the
datagram that created the stored builder, or its own when none is stored.
-/
def bufferLength (manager : MessageManager) (datagram : Datagram) : ℕ :=
  match manager.builders datagram.header.key with
  | some builder => builder.data.count
  | none => datagram.header.messageLength.toNat

/-- The bytes do not decode, or their payload ends within the buffer it is inserted into. -/
def Fits (manager : MessageManager) (bytes : List UInt8) : Prop :=
  ∀ datagram,
    Datagram.decode (Data.ofBytes bytes) = .ok (some datagram)
    → datagram.header.offset.toNat + datagram.payload.count ≤ manager.bufferLength datagram

/-- The buffer of a represented table is as long as the filling under way. -/
theorem Represents.bufferLength_eq {manager : MessageManager} {slots : UInt8 → Option Filling}
    (represents : manager.Represents slots) (datagram : Datagram)
    : manager.bufferLength datagram
      = (Filling.target (slots datagram.header.key) datagram).messageLength := by
  unfold bufferLength
  rw [represents datagram.header.key]
  cases slots datagram.header.key with
  | none => rfl
  | some filling => exact filling.length_contents

/-- In a table that represents fillings a call returns exactly when its payload fits. -/
theorem Represents.returns_iff_fits {manager : MessageManager}
    {slots : UInt8 → Option Filling} (represents : manager.Represents slots)
    (bytes : List UInt8)
    : (∃ next, (manager.processBytes bytes).2 = .ok next) ↔ manager.Fits bytes := by
  rcases Datagram.decode_ofBytes_cases bytes with ⟨-, rejected⟩ | ⟨-, datagram, decoded, -⟩
  · have refused := process_undecodable manager rejected
    simp [processBytes, refused, Fits, rejected]
  · have fitsIff
        : manager.Fits bytes
          ↔ datagram.write.stop
            ≤ (Filling.target (slots datagram.header.key) datagram).messageLength := by
      simp [Fits, decoded, represents.bufferLength_eq, Write.stop, Datagram.write, Data.count]
    rw [fitsIff, ← Filling.receive_returns_iff]
    rcases represents.process decoded with
      ⟨trap, overran, failed⟩ | ⟨delivered, slot, received, returned, -⟩
    · simp [processBytes, failed, overran]
    · simp [processBytes, returned, received]

/-- The only error a call throws is `invalidDatagram`, and it leaves the builders as they
were. So a call is robust exactly when it does not trap.
-/
theorem Represents.robust_iff_returns {manager : MessageManager}
    {slots : UInt8 → Option Filling} (represents : manager.Represents slots)
    (bytes : List UInt8)
    : manager.Robust bytes ↔ ∃ next, (manager.processBytes bytes).2 = .ok next := by
  constructor
  · rintro ⟨events, next, called, -⟩
    exact ⟨next, by rw [called]⟩
  · rintro ⟨next, called⟩
    rcases Datagram.decode_ofBytes_cases bytes with ⟨-, rejected⟩ | ⟨-, datagram, decoded, -⟩
    · exact ⟨_, manager, process_undecodable manager rejected, by simp⟩
    · rcases represents.process decoded with
        ⟨trap, -, failed⟩ | ⟨delivered, slot, received, returned, -⟩
      · simp [processBytes, failed] at called
      · exact ⟨_, _, returned, by simp⟩

theorem reachableBytes_represents {inputs : List (List UInt8)} {manager : MessageManager}
    (reached : (run processBytes init inputs).2 = .ok manager)
    : ∃ slots, manager.Represents slots := by
  have asData := run_map process Data.ofBytes init inputs
  exact reachable_represents (asData.symm ▸ reached)

/-- In every reachable state a byte string is processed safely exactly when its payload
fits the buffer it is inserted into, and a run never traps exactly when each of its byte
strings fits where it arrives.
-/
theorem process_robust_iff_fits (inputs : List (List UInt8))
    : (∀ manager,
        (run processBytes init inputs).2 = .ok manager
        → ∀ bytes, manager.Robust bytes ↔ manager.Fits bytes)
      ∧ ((∃ final, (run processBytes init inputs).2 = .ok final)
        ↔ Along processBytes init inputs (fun _ manager bytes => manager.Fits bytes)) := by
  constructor
  · intro manager reached bytes
    obtain ⟨slots, represents⟩ := reachableBytes_represents reached
    rw [represents.robust_iff_returns, represents.returns_iff_fits]
  · rw [run_completes_iff]
    apply along_congr
    intro before manager bytes reached
    obtain ⟨slots, represents⟩ := reachableBytes_represents reached
    exact represents.returns_iff_fits bytes

/-- A well-framed datagram can overrun its own message: offset 5 in a message of length 1. -/
theorem process_not_robust
    : ¬ ∀ inputs manager,
        (run processBytes init inputs).2 = .ok manager → ∀ bytes, manager.Robust bytes := by
  intro robust
  obtain ⟨events, next, called, -⟩ := robust [] init rfl [1, 5, 0, 0, 0, 1, 0, 0, 0, 7]
  have trapped
      : (init.processBytes [1, 5, 0, 0, 0, 1, 0, 0, 0, 7]).2 = .error .indexOutOfRange :=
    rfl
  rw [called] at trapped
  cases trapped

end AgriGuardian.BLE.MessageManager
