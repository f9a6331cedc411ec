import Mathlib.Logic.Function.Basic
import AgriGuardian.Basis.Machine
import AgriGuardian.BLE.Message

/-! The reassembler: message builders, and the manager that keeps one per key.
A builder in the table is a shared object, so inserting into it is visible through the
table. The completion callback is embedded as the data `insert` hands back, and the
closure `onMessage` and thrown errors as the events of a call.
-/

namespace AgriGuardian.BLE

open Swift
open Basis

structure MessageBuilder where
  remainingIndices : Finset ℕ
  data : Data
  deriving DecidableEq

namespace MessageBuilder

def init (messageLength : ℕ) : MessageBuilder :=
  ⟨Finset.range messageLength, Data.zeros messageLength⟩

/-- The builder after the call, and the data passed to `onComplete` if it was called. -/
def insert (builder : MessageBuilder) (payload : Data) (offset : ℕ)
    : Checked (MessageBuilder × Option Data) := do
  let stop := offset + payload.count
  let data ← builder.data.replaceSubrange offset stop payload.bytes
  let remainingIndices := builder.remainingIndices \ Finset.Ico offset stop
  .ok (⟨remainingIndices, data⟩, if remainingIndices = ∅ then some data else none)

end MessageBuilder

inductive MessageManager.Error
  | invalidDatagram
  deriving DecidableEq, Repr

/-- What a call lets its caller and the closure `onMessage` observe. -/
inductive ManagerEvent
  | onMessage (message : Message)
  | thrown (error : MessageManager.Error)
  deriving DecidableEq, Repr

/-- The message a closure call carries. -/
def ManagerEvent.message : ManagerEvent → Option Message
  | .onMessage message => some message
  | .thrown _ => none

structure MessageManager where
  builders : UInt8 → Option MessageBuilder

namespace MessageManager

def init : MessageManager := ⟨fun _ => none⟩

/-- `builders[key] = builder`. -/
def setBuilder (manager : MessageManager) (key : UInt8) (builder : Option MessageBuilder)
    : MessageManager :=
  ⟨Function.update manager.builders key builder⟩

def process : Handler MessageManager Data ManagerEvent Trap := fun manager datagramData =>
  match Datagram.decode datagramData with
  | .error trap => ([], .error trap)
  | .ok none => ([.thrown .invalidDatagram], .ok manager)
  | .ok (some datagram) =>
      let key := datagram.header.key
      let messageLength := datagram.header.messageLength.toNat
      let builder := (manager.builders key).getD (MessageBuilder.init messageLength)
      match builder.insert datagram.payload datagram.header.offset.toNat with
      | .error trap => ([], .error trap)
      | .ok (builder, completed) =>
          -- The table refers to the object that was just changed, if it had an entry.
          let manager :=
            if (manager.builders key).isSome then manager.setBuilder key (some builder)
            else manager
          let (events, manager) :=
            match completed with
            | some data => ([ManagerEvent.onMessage ⟨key, data⟩], manager.setBuilder key none)
            | none => ([], manager)
          if builder.remainingIndices ≠ ∅ ∧ manager.builders key = none then
            (events, .ok (manager.setBuilder key (some builder)))
          else (events, .ok manager)

@[simp]
theorem builders_setBuilder_self (manager : MessageManager) (key : UInt8)
    (builder : Option MessageBuilder)
    : (manager.setBuilder key builder).builders key = builder :=
  Function.update_self ..

theorem builders_setBuilder_of_ne (manager : MessageManager) {key other : UInt8}
    (different : other ≠ key) (builder : Option MessageBuilder)
    : (manager.setBuilder key builder).builders other = manager.builders other :=
  Function.update_of_ne different ..

@[simp]
theorem setBuilder_setBuilder (manager : MessageManager) (key : UInt8)
    (first second : Option MessageBuilder)
    : (manager.setBuilder key first).setBuilder key second = manager.setBuilder key second := by
  simp [setBuilder]

-----------------------------------------------------------------------------------------
-- A call touches one entry of the table
-----------------------------------------------------------------------------------------

/-- What a datagram does to the table entry of its key: the message it completes, if any,
and the new entry.
-/
def receive (entry : Option MessageBuilder) (datagram : Datagram)
    : Checked (Option Message × Option MessageBuilder) := do
  let builder := entry.getD (MessageBuilder.init datagram.header.messageLength.toNat)
  let (builder, completed) ← builder.insert datagram.payload datagram.header.offset.toNat
  match completed with
  | some data => .ok (some ⟨datagram.header.key, data⟩, none)
  | none => .ok (none, some builder)

/-- The completion callback runs exactly when no index remains. -/
theorem insert_completed_iff {builder next : MessageBuilder} {payload : Data} {offset : ℕ}
    {completed : Option Data} (returned : builder.insert payload offset = .ok (next, completed))
    : completed = if next.remainingIndices = ∅ then some next.data else none := by
  simp only [MessageBuilder.insert, bind_eq_ok] at returned
  obtain ⟨data, -, pair⟩ := returned
  obtain ⟨rfl, rfl⟩ := Prod.mk.inj (Except.ok.inj pair)
  rfl

/-- Processing a decodable datagram changes the entry of its key as `receive` says and
leaves every other entry alone. Witness: the callback clears the entry before the final
guard reads the table, so the guard stores a builder exactly when one was just created.
-/
theorem process_decoded (manager : MessageManager) {datagramData : Data} {datagram : Datagram}
    (decoded : Datagram.decode datagramData = .ok (some datagram))
    : manager.process datagramData
      = match receive (manager.builders datagram.header.key) datagram with
        | .error trap => ([], .error trap)
        | .ok (delivered, entry) =>
            (delivered.toList.map .onMessage,
              .ok (manager.setBuilder datagram.header.key entry)) := by
  simp only [process, decoded, receive]
  cases inserted : ((manager.builders datagram.header.key).getD
      (MessageBuilder.init datagram.header.messageLength.toNat)).insert datagram.payload
        datagram.header.offset.toNat with
  | error trap => simp
  | ok result =>
      obtain ⟨builder, completed⟩ := result
      rw [insert_completed_iff inserted]
      cases stored : manager.builders datagram.header.key with
      | none =>
          by_cases done : builder.remainingIndices = ∅
          · simp [done]
          · simp [done, stored]
      | some old =>
          by_cases done : builder.remainingIndices = ∅
          · simp [done]
          · simp [done]

/-- Undecodable bytes are refused and leave the table alone. -/
theorem process_undecodable (manager : MessageManager) {datagramData : Data}
    (rejected : Datagram.decode datagramData = .ok none)
    : manager.process datagramData = ([.thrown .invalidDatagram], .ok manager) := by
  simp only [process, rejected]

/-- What a call that returns did: it refused the bytes, or it changed the entry of the key
of the datagram that they decode to.
-/
theorem process_eq_ok {manager next : MessageManager} {datagramData : Data}
    {events : List ManagerEvent} (called : manager.process datagramData = (events, .ok next))
    : (Datagram.decode datagramData = .ok none
        ∧ events = [.thrown .invalidDatagram]
        ∧ next = manager)
      ∨ ∃ datagram delivered entry,
          Datagram.decode datagramData = .ok (some datagram)
          ∧ receive (manager.builders datagram.header.key) datagram = .ok (delivered, entry)
          ∧ events = delivered.toList.map .onMessage
          ∧ next = manager.setBuilder datagram.header.key entry := by
  cases decoded : Datagram.decode datagramData with
  | error trap => simp [process, decoded] at called
  | ok result =>
      cases result with
      | none =>
          rw [process_undecodable manager decoded] at called
          obtain ⟨refused, same⟩ := Prod.mk.inj called
          exact Or.inl ⟨rfl, refused.symm, (Except.ok.inj same).symm⟩
      | some datagram =>
          rw [process_decoded manager decoded] at called
          cases received : receive (manager.builders datagram.header.key) datagram with
          | error trap => simp [received] at called
          | ok pair =>
              obtain ⟨delivered, entry⟩ := pair
              rw [received] at called
              obtain ⟨emitted, left⟩ := Prod.mk.inj called
              exact Or.inr ⟨datagram, delivered, entry, rfl, received, emitted.symm,
                (Except.ok.inj left).symm⟩

end MessageManager

end AgriGuardian.BLE
