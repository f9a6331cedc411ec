import AgriGuardian.BLE.MessageReceiver

/-! The purpose of a message builder: a filling of a buffer by writes.
A filling remembers the writes themselves, each within the buffer. The builder of the
code keeps only the indices left over and the bytes, and it refines the filling.
-/

namespace AgriGuardian.BLE

open Swift
open Basis

/-- The parts of one message received so far. Every part lies within the message. -/
structure Filling where
  messageLength : ℕ
  writes : List (Write UInt8)
  within : ∀ write ∈ writes, write.stop ≤ messageLength

namespace Filling

def start (messageLength : ℕ) : Filling :=
  ⟨messageLength, [], by simp⟩

def add (filling : Filling) (write : Write UInt8) (fits : write.stop ≤ filling.messageLength)
    : Filling where
  messageLength := filling.messageLength
  writes := filling.writes ++ [write]
  within := by
    intro other member
    rcases List.mem_append.mp member with earlier | last
    · exact filling.within other earlier
    · exact List.mem_singleton.mp last ▸ fits

/-- The indices no part has covered. -/
def missing (filling : Filling) : Finset ℕ := remaining filling.messageLength filling.writes

/-- The bytes received, zero where none were. -/
def contents (filling : Filling) : List UInt8 := filled filling.messageLength 0 filling.writes

theorem length_contents (filling : Filling) : filling.contents.length = filling.messageLength :=
  length_filled 0 filling.within

theorem missing_add (filling : Filling) (write : Write UInt8)
    (fits : write.stop ≤ filling.messageLength)
    : (filling.add write fits).missing = filling.missing \ write.range :=
  remaining_append_singleton ..

theorem contents_add (filling : Filling) (write : Write UInt8)
    (fits : write.stop ≤ filling.messageLength)
    : (filling.add write fits).contents = Write.patch filling.contents write :=
  filled_append_singleton ..

/-- The builder the code keeps for a filling. -/
def builder (filling : Filling) : MessageBuilder :=
  ⟨filling.missing, Data.ofBytes filling.contents⟩

theorem builder_start (messageLength : ℕ)
    : (start messageLength).builder = MessageBuilder.init messageLength := by
  simp [builder, start, missing, contents, filled, MessageBuilder.init, Data.zeros]

/-- Inserting a part that fits is adding its write. -/
theorem insert_builder_of_fits (filling : Filling) {datagram : Datagram}
    (fits : datagram.write.stop ≤ filling.messageLength)
    : filling.builder.insert datagram.payload datagram.header.offset.toNat
      = .ok ((filling.add datagram.write fits).builder,
          if (filling.add datagram.write fits).missing = ∅
          then some (Data.ofBytes (filling.add datagram.write fits).contents) else none) := by
  have inside
      : (0 : ℕ) ≤ datagram.header.offset.toNat
        ∧ datagram.header.offset.toNat ≤ datagram.header.offset.toNat + datagram.payload.count
        ∧ datagram.header.offset.toNat + datagram.payload.count
          ≤ (Data.ofBytes filling.contents).endIndex := by
    refine ⟨Nat.zero_le _, Nat.le_add_right _ _, ?_⟩
    simpa [Data.endIndex, Data.count, length_contents, Write.stop, Datagram.write] using fits
  have replaced
      : filling.builder.data.replaceSubrange datagram.header.offset.toNat
          (datagram.header.offset.toNat + datagram.payload.count) datagram.payload.bytes
        = .ok (Data.ofBytes (filling.add datagram.write fits).contents) := by
    rw [contents_add]
    exact if_pos inside
  simp only [MessageBuilder.insert, replaced, ok_bind]
  simp only [builder, missing_add]
  rfl

/-- Inserting a part that does not fit violates the bounds of the buffer. -/
theorem insert_builder_of_overrun (filling : Filling) {datagram : Datagram}
    (overrun : ¬ datagram.write.stop ≤ filling.messageLength)
    : filling.builder.insert datagram.payload datagram.header.offset.toNat
      = .error .indexOutOfRange := by
  have outside
      : ¬ ((0 : ℕ) ≤ datagram.header.offset.toNat
        ∧ datagram.header.offset.toNat ≤ datagram.header.offset.toNat + datagram.payload.count
        ∧ datagram.header.offset.toNat + datagram.payload.count
          ≤ (Data.ofBytes filling.contents).endIndex) := by
    intro inside
    apply overrun
    simpa [Data.endIndex, Data.count, length_contents, Write.stop, Datagram.write] using inside.2.2
  have replaced
      : filling.builder.data.replaceSubrange datagram.header.offset.toNat
          (datagram.header.offset.toNat + datagram.payload.count) datagram.payload.bytes
        = .error .indexOutOfRange :=
    if_neg outside
  simp only [MessageBuilder.insert, replaced, error_bind]

-----------------------------------------------------------------------------------------
-- Receiving a datagram, as a step on fillings
-----------------------------------------------------------------------------------------

/-- The filling a datagram is added to: the one under way, or a new one of the datagram's
own message length.
-/
def target (slot : Option Filling) (datagram : Datagram) : Filling :=
  slot.getD (start datagram.header.messageLength.toNat)

/-- A datagram adds its part to the filling under its key. The message is delivered and
the filling ends with the part that leaves nothing missing.
-/
def receive (slot : Option Filling) (datagram : Datagram)
    : Checked (Option Message × Option Filling) :=
  if fits : datagram.write.stop ≤ (target slot datagram).messageLength then
    let next := (target slot datagram).add datagram.write fits
    if next.missing = ∅ then
      .ok (some ⟨datagram.header.key, Data.ofBytes next.contents⟩, none)
    else .ok (none, some next)
  else .error .indexOutOfRange

/-- A datagram is received exactly when its part lies within the filling. -/
theorem receive_returns_iff {slot : Option Filling} {datagram : Datagram}
    : (∃ result, receive slot datagram = .ok result)
      ↔ datagram.write.stop ≤ (target slot datagram).messageLength := by
  by_cases fits : datagram.write.stop ≤ (target slot datagram).messageLength
  · refine iff_of_true ?_ fits
    rw [receive, dif_pos fits]
    dsimp only
    split
    · exact ⟨_, rfl⟩
    · exact ⟨_, rfl⟩
  · refine iff_of_false ?_ fits
    rintro ⟨result, received⟩
    rw [receive, dif_neg fits] at received
    cases received

/-- The table entry that represents a slot. -/
def entry (slot : Option Filling) : Option MessageBuilder := slot.map builder

theorem getD_entry (slot : Option Filling) (datagram : Datagram)
    : (entry slot).getD (MessageBuilder.init datagram.header.messageLength.toNat)
      = (target slot datagram).builder := by
  cases slot with
  | none => exact (builder_start _).symm
  | some filling => rfl

/-- The builder of the code refines the filling: from a table entry that represents a
slot, receiving delivers the same message and leaves an entry that represents the next
slot, or both violate the bounds.
-/
theorem receive_refines (slot : Option Filling) (datagram : Datagram)
    : MessageManager.receive (entry slot) datagram
      = (receive slot datagram).map (Prod.map id entry) := by
  rw [MessageManager.receive, getD_entry, receive]
  by_cases fits : datagram.write.stop ≤ (target slot datagram).messageLength
  · rw [insert_builder_of_fits _ fits, dif_pos fits, ok_bind]
    by_cases complete : ((target slot datagram).add datagram.write fits).missing = ∅
    · simp [complete, Except.map, entry]
    · simp [complete, Except.map, entry]
  · rw [insert_builder_of_overrun _ fits, dif_neg fits, error_bind]
    rfl

/-- Receiving datagrams one after another, with the messages delivered as outputs. -/
def feed : Handler (Option Filling) Datagram Message Trap := fun slot datagram =>
  match receive slot datagram with
  | .error trap => ([], .error trap)
  | .ok (delivered, next) => (delivered.toList, .ok next)

end Filling

-----------------------------------------------------------------------------------------
-- Every reachable table represents fillings
-----------------------------------------------------------------------------------------

/-- Each entry of the manager's table represents the slot of its key. -/
def MessageManager.Represents (manager : MessageManager) (slots : UInt8 → Option Filling)
    : Prop :=
  ∀ key, manager.builders key = Filling.entry (slots key)

namespace MessageManager

theorem init_represents : init.Represents (fun _ => none) := fun _ => rfl

/-- Processing a decodable datagram is receiving it in the slot of its key. -/
theorem Represents.process {manager : MessageManager} {slots : UInt8 → Option Filling}
    (represents : manager.Represents slots) {datagramData : Data} {datagram : Datagram}
    (decoded : Datagram.decode datagramData = .ok (some datagram))
    : (∃ trap, Filling.receive (slots datagram.header.key) datagram = .error trap
        ∧ manager.process datagramData = ([], .error trap))
      ∨ ∃ delivered slot,
          Filling.receive (slots datagram.header.key) datagram = .ok (delivered, slot)
          ∧ manager.process datagramData
            = (delivered.toList.map .onMessage,
              .ok (manager.setBuilder datagram.header.key (Filling.entry slot)))
          ∧ (manager.setBuilder datagram.header.key (Filling.entry slot)).Represents
              (Function.update slots datagram.header.key slot) := by
  have received := process_decoded manager decoded
  rw [represents datagram.header.key, Filling.receive_refines] at received
  cases outcome : Filling.receive (slots datagram.header.key) datagram with
  | error trap =>
      rw [outcome] at received
      exact Or.inl ⟨trap, rfl, received⟩
  | ok result =>
      obtain ⟨delivered, slot⟩ := result
      rw [outcome] at received
      refine Or.inr ⟨delivered, slot, rfl, received, ?_⟩
      intro other
      by_cases same : other = datagram.header.key
      · subst same
        simp
      · rw [builders_setBuilder_of_ne _ same, Function.update_of_ne same, represents other]

/-- What a call that returns did, in terms of fillings. -/
theorem Represents.process_eq_ok {manager next : MessageManager}
    {slots : UInt8 → Option Filling} (represents : manager.Represents slots)
    {datagramData : Data} {events : List ManagerEvent}
    (called : manager.process datagramData = (events, .ok next))
    : (events = [.thrown .invalidDatagram] ∧ next = manager)
      ∨ ∃ datagram delivered slot,
          Filling.receive (slots datagram.header.key) datagram = .ok (delivered, slot)
          ∧ events = delivered.toList.map .onMessage
          ∧ next.Represents (Function.update slots datagram.header.key slot) := by
  rcases MessageManager.process_eq_ok called with
    ⟨-, refused, same⟩ | ⟨datagram, -, -, decoded, -, -, -⟩
  · exact Or.inl ⟨refused, same⟩
  · rcases represents.process decoded with
      ⟨trap, -, failed⟩ | ⟨delivered, slot, received, returned, kept⟩
    · simp [failed] at called
    · rw [returned] at called
      obtain ⟨emitted, left⟩ := Prod.mk.inj called
      exact Or.inr ⟨datagram, delivered, slot, received, emitted.symm,
        Except.ok.inj left ▸ kept⟩

/-- Every call that returns leaves a table that represents fillings. -/
theorem Represents.step {manager next : MessageManager} {slots : UInt8 → Option Filling}
    (represents : manager.Represents slots) {datagramData : Data} {events : List ManagerEvent}
    (called : manager.process datagramData = (events, .ok next))
    : ∃ slots, next.Represents slots := by
  rcases represents.process_eq_ok called with ⟨-, same⟩ | ⟨datagram, -, slot, -, -, kept⟩
  · exact ⟨slots, same ▸ represents⟩
  · exact ⟨_, kept⟩

/-- Every reachable table represents fillings. -/
theorem reachable_represents {inputs : List Data} {manager : MessageManager}
    (reached : (run process init inputs).2 = .ok manager)
    : ∃ slots, manager.Represents slots :=
  run_invariant (fun manager => ∃ slots, manager.Represents slots)
    (fun _ _ _ _ ⟨_, represents⟩ called => represents.step called)
    ⟨_, init_represents⟩ reached

/-- Processing an encoded datagram is receiving the datagram itself: header and bytes
survive the codec, and nothing else is read.
-/
theorem process_encoded (manager : MessageManager) {datagram : Datagram}
    (nonempty : datagram.payload.bytes ≠ []) {slot : Option Filling}
    (stored : manager.builders datagram.header.key = Filling.entry slot)
    : manager.process datagram.encoded
      = match Filling.receive slot datagram with
        | .error trap => ([], .error trap)
        | .ok (delivered, next) =>
            (delivered.toList.map .onMessage,
              .ok (manager.setBuilder datagram.header.key (Filling.entry next))) := by
  rw [process_decoded manager (Datagram.decode_encoded nonempty)]
  simp only [stored, Filling.receive_refines]
  have same : Filling.receive slot { datagram with payload := ⟨9, datagram.payload.bytes⟩ }
      = Filling.receive slot datagram := rfl
  rw [same]
  cases Filling.receive slot datagram with
  | error trap => rfl
  | ok result => rfl

end MessageManager

end AgriGuardian.BLE
