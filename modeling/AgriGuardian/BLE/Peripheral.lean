import Mathlib.Data.List.DropRight
import AgriGuardian.BLE.KeyIsolation

/-! The peripheral screen: reading datagrams, acknowledging and reconstructing a message.
A call is embedded with the requests it makes of the peripheral and the texts it prints,
which remain visible when the call then traps.
-/

namespace AgriGuardian.BLE

open Swift
open Basis

structure PeripheralViewController where
  datagrams : List Datagram

/-- What a call does to the peripheral or prints. -/
inductive PeripheralEffect
  | readValue
  | writeValue (value : Data)
  /-- Prints the UTF-8 decoding of the bytes of a message. -/
  | printMessage (data : Data)
  | printError
  deriving DecidableEq, Repr

namespace PeripheralViewController

def init : PeripheralViewController := ⟨[]⟩

/-- `Data("ACK".utf8)`. -/
def ack : Data := Data.ofBytes [65, 67, 75]

/-- `try! manager.process(datagramData:)`: a thrown error traps. -/
def tryProcess : Handler MessageManager Data ManagerEvent Trap := fun manager datagramData =>
  match manager.process datagramData with
  | (events, .error trap) => (events, .error trap)
  | (events, .ok next) =>
      if (ManagerEvent.thrown .invalidDatagram) ∈ events then (events, .error .uncaughtError)
      else (events, .ok next)

/-- The loop over the datagrams with a new manager, whose closure keeps the last message. -/
def reconstruct (datagrams : List Datagram) : Checked (Option Message) :=
  match run tryProcess MessageManager.init (datagrams.map Datagram.encoded) with
  | (_, .error trap) => .error trap
  | (events, .ok _) => .ok (MessageManager.messages events).getLast?

/-- `processDatagrams` on the value of the characteristic, if there is one. -/
def processDatagrams
    : Handler PeripheralViewController (Option Data) PeripheralEffect Trap :=
  fun controller value =>
    match value with
    | none =>
        ([], .error (.fatalError
          "Unexpectedly found nil when unwrapping characteristic value"))
    | some charVal =>
        match Datagram.decode charVal with
        | .error trap => ([], .error trap)
        | .ok none => ([.printError], .ok controller)
        | .ok (some datagram) =>
            if datagram.header.key = 0 then
              ([.readValue],
                .ok { controller with datagrams := controller.datagrams ++ [datagram] })
            else
              -- The acknowledgement is written before anything is reconstructed.
              match reconstruct controller.datagrams with
              | .error trap => ([.writeValue ack], .error trap)
              | .ok none => ([.writeValue ack], .error .unexpectedNil)
              | .ok (some message) =>
                  ([.writeValue ack, .printMessage message.data], .ok controller)

/-- A value read from the characteristic: a byte string indexed from 0. -/
def receiveValue : Handler PeripheralViewController (List UInt8) PeripheralEffect Trap :=
  fun controller bytes => controller.processDatagrams (some (Data.ofBytes bytes))

-----------------------------------------------------------------------------------------
-- Classifying the values read
-----------------------------------------------------------------------------------------

/-- The datagram in a value, if it decodes. -/
def datagramIn (bytes : List UInt8) : Option Datagram :=
  match Datagram.decode (Data.ofBytes bytes) with
  | .ok (some datagram) => some datagram
  | _ => none

/-- The value is a datagram whose key satisfies the test. -/
def keyed (test : UInt8 → Bool) (bytes : List UInt8) : Bool :=
  (datagramIn bytes).any (fun datagram => test datagram.header.key)

/-- The value is a part of a message. -/
def isPart : List UInt8 → Bool := keyed (fun key => key == 0)

/-- The value makes the controller acknowledge: any datagram that is not a part. -/
def isEnd : List UInt8 → Bool := keyed (fun key => key != 0)

/-- The value is the FYN datagram of the protocol. -/
def isFYN : List UInt8 → Bool := keyed (fun key => key == 6)

/-- The datagrams with key 0 among the values, in order. -/
def parts (reads : List (List UInt8)) : List Datagram :=
  (reads.filter isPart).filterMap datagramIn

/-- The values read since the last one that satisfies the test. -/
def since (test : List UInt8 → Bool) (reads : List (List UInt8)) : List (List UInt8) :=
  reads.rtakeWhile (fun bytes => !test bytes)

/-- The values read up to and including the last one that satisfies the test. -/
def upTo (test : List UInt8 → Bool) (reads : List (List UInt8)) : List (List UInt8) :=
  reads.rdropWhile (fun bytes => !test bytes)

theorem upTo_append_since (test : List UInt8 → Bool) (reads : List (List UInt8))
    : upTo test reads ++ since test reads = reads := by
  rw [upTo, since, List.rdropWhile, List.rtakeWhile, ← List.reverse_append,
    List.takeWhile_append_dropWhile, List.reverse_reverse]

/-- The values up to the last one that satisfies the test end with that one. -/
theorem upTo_eq (test : List UInt8 → Bool) (reads : List (List UInt8))
    : upTo test reads = []
      ∨ ∃ earlier last, upTo test reads = earlier ++ [last] ∧ test last = true := by
  by_cases none : upTo test reads = []
  · exact Or.inl none
  · have satisfies := List.rdropWhile_last_not (fun bytes => !test bytes) reads none
    exact Or.inr ⟨_, _, (List.dropLast_append_getLast none).symm, by simpa [upTo] using satisfies⟩

theorem parts_append (first second : List (List UInt8))
    : parts (first ++ second) = parts first ++ parts second := by
  simp [parts]

/-- The three kinds of value and what the handler does with each. -/
theorem receiveValue_cases (controller : PeripheralViewController) (bytes : List UInt8)
    : (isPart bytes = false ∧ isEnd bytes = false
        ∧ controller.receiveValue bytes = ([.printError], .ok controller))
      ∨ (isPart bytes = true ∧ isEnd bytes = false
        ∧ ∃ datagram, datagramIn bytes = some datagram
          ∧ controller.receiveValue bytes
            = ([.readValue], .ok ⟨controller.datagrams ++ [datagram]⟩))
      ∨ (isPart bytes = false ∧ isEnd bytes = true
        ∧ controller.receiveValue bytes
          = match reconstruct controller.datagrams with
            | .error trap => ([.writeValue ack], .error trap)
            | .ok none => ([.writeValue ack], .error .unexpectedNil)
            | .ok (some message) =>
                ([.writeValue ack, .printMessage message.data], .ok controller)) := by
  rcases Datagram.decode_ofBytes_cases bytes with ⟨-, rejected⟩ | ⟨-, datagram, decoded, -⟩
  · refine Or.inl ⟨?_, ?_, ?_⟩
    · simp [isPart, keyed, datagramIn, rejected]
    · simp [isEnd, keyed, datagramIn, rejected]
    · simp [receiveValue, processDatagrams, rejected]
  · have found : datagramIn bytes = some datagram := by
      simp [datagramIn, decoded]
    by_cases part : datagram.header.key = 0
    · refine Or.inr (Or.inl ⟨?_, ?_, datagram, found, ?_⟩)
      · simp [isPart, keyed, found, part]
      · simp [isEnd, keyed, found, part]
      · simp [receiveValue, processDatagrams, decoded, part]
    · refine Or.inr (Or.inr ⟨?_, ?_, ?_⟩)
      · simp [isPart, keyed, found, part]
      · simp [isEnd, keyed, found, part]
      · simp [receiveValue, processDatagrams, decoded, part]

theorem parts_singleton (bytes : List UInt8)
    : parts [bytes] = if isPart bytes then (datagramIn bytes).toList else [] := by
  by_cases part : isPart bytes = true
  · simp [parts, part, List.filterMap_cons]
    cases datagramIn bytes <;> rfl
  · simp [parts, part]

/-- The array holds every part read so far, those of earlier transfers included: it is
never cleared.
-/
theorem datagrams_eq_parts {reads : List (List UInt8)} {controller : PeripheralViewController}
    (reached : (run receiveValue init reads).2 = .ok controller)
    : controller.datagrams = parts reads := by
  induction reads using List.reverseRecOn generalizing controller with
  | nil =>
      obtain rfl : init = controller := by simpa using reached
      rfl
  | append_singleton earlier bytes ih =>
      obtain ⟨middle, reachedMiddle, last⟩ := run_append_inv reached
      rw [run_singleton] at last
      rw [parts_append, ← ih reachedMiddle, parts_singleton]
      rcases receiveValue_cases middle bytes with
        ⟨notPart, -, called⟩ | ⟨part, -, datagram, found, called⟩ | ⟨notPart, -, called⟩
      · rw [called] at last
        obtain rfl := Except.ok.inj last
        simp [notPart]
      · rw [called] at last
        obtain rfl := Except.ok.inj last
        simp [part, found]
      · have same : middle = controller := by
          rw [called] at last
          rcases rebuilt : reconstruct middle.datagrams with trap | _ | message <;>
            simp [rebuilt] at last
          exact last
        simp [notPart, same]

end PeripheralViewController

end AgriGuardian.BLE
