import AgriGuardian.BLE.Filling

/-! Reassembling one message from its parts, in any order and with repetitions.
The entry of the message's key is described by the list of parts received since the last
delivery; a part either completes the message or is added to the list.
-/

namespace AgriGuardian.BLE.MessageManager

open Swift
open Basis

/-- The table entry of the message's key holds exactly the parts received. -/
def Holds (manager : MessageManager) (message : Message) (received : List Datagram) : Prop :=
  ∃ slot : Option Filling,
    manager.builders message.key = Filling.entry slot
    ∧ (slot = none → received = [])
    ∧ ∀ filling ∈ slot,
        filling.messageLength = message.data.count
        ∧ filling.writes = received.map Datagram.write

/-- Every entry but the one of the key is the same in both tables. -/
def SameElsewhere (key : UInt8) (manager next : MessageManager) : Prop :=
  ∀ other, other ≠ key → next.builders other = manager.builders other

theorem SameElsewhere.refl (key : UInt8) (manager : MessageManager)
    : SameElsewhere key manager manager :=
  fun _ _ => rfl

theorem SameElsewhere.trans {key : UInt8} {first second third : MessageManager}
    (left : SameElsewhere key first second) (right : SameElsewhere key second third)
    : SameElsewhere key first third :=
  fun other different => (right other different).trans (left other different)

theorem init_builders {key : UInt8} : init.builders key = none := rfl

theorem holds_nil {manager : MessageManager} {message : Message}
    (empty : manager.builders message.key = none)
    : manager.Holds message [] :=
  ⟨none, empty, fun _ => rfl, by simp⟩

/-- The filling a part is added to has the message's length, and already holds the parts
received.
-/
theorem Holds.target {manager : MessageManager} {message : Message} {datagram : Datagram}
    {received : List Datagram} (holds : manager.Holds message received)
    (piece : Message.Piece message datagram)
    : ∃ slot,
        manager.builders datagram.header.key = Filling.entry slot
        ∧ (Filling.target slot datagram).messageLength = message.data.count
        ∧ (Filling.target slot datagram).writes = received.map Datagram.write := by
  obtain ⟨slot, stored, empty, filled⟩ := holds
  refine ⟨slot, piece.key ▸ stored, ?_⟩
  cases slot with
  | none =>
      rw [empty rfl]
      exact ⟨piece.messageLength, rfl⟩
  | some filling => exact filled filling rfl

/-- One part of a message. It completes the message when nothing remains, and is kept
otherwise. Witness: the parts are slices of the message, so a filling they leave no gap in
contains the message itself.
-/
theorem process_piece {manager : MessageManager} {message : Message} {datagram : Datagram}
    {received : List Datagram} (based : message.data.startIndex = 0)
    (holds : manager.Holds message received)
    (genuine : ∀ part ∈ received, Message.Piece message part)
    (piece : Message.Piece message datagram)
    : ∃ next,
        SameElsewhere message.key manager next
        ∧ ((remaining message.data.count ((received ++ [datagram]).map Datagram.write) = ∅
            ∧ manager.process datagram.encoded = ([.onMessage message], .ok next)
            ∧ next.builders message.key = none)
          ∨ (remaining message.data.count ((received ++ [datagram]).map Datagram.write) ≠ ∅
            ∧ manager.process datagram.encoded = ([], .ok next)
            ∧ next.Holds message (received ++ [datagram]))) := by
  obtain ⟨slot, stored, lengthEq, writesEq⟩ := holds.target piece
  have fits : datagram.write.stop ≤ (Filling.target slot datagram).messageLength :=
    lengthEq.symm ▸ piece.slice.1
  have processed := process_encoded manager piece.nonempty stored
  rw [Filling.receive, dif_pos fits, piece.key] at processed
  let filling := (Filling.target slot datagram).add datagram.write fits
  have writes : filling.writes = (received ++ [datagram]).map Datagram.write := by
    rw [List.map_append, List.map_singleton, ← writesEq]
    rfl
  have messageLength : filling.messageLength = message.data.count := lengthEq
  have missing
      : filling.missing
        = remaining message.data.count ((received ++ [datagram]).map Datagram.write) := by
    rw [Filling.missing, messageLength, writes]
  have slices : ∀ write ∈ filling.writes, write.SliceOf message.data.bytes := by
    rw [writes]
    intro write member
    obtain ⟨part, partMember, rfl⟩ := List.mem_map.mp member
    rcases List.mem_append.mp partMember with earlier | last
    · exact (genuine part earlier).slice
    · exact (List.mem_singleton.mp last) ▸ piece.slice
  by_cases complete : filling.missing = ∅
  · have contents : Data.ofBytes filling.contents = message.data := by
      have whole : remaining message.data.bytes.length filling.writes = ∅ := by
        rw [← complete, Filling.missing, messageLength]
        rfl
      rw [Filling.contents, messageLength, Data.eq_ofBytes based]
      exact congrArg Data.ofBytes (filled_eq_of_slices 0 slices whole)
    refine ⟨manager.setBuilder message.key none, ?_, Or.inl ⟨missing ▸ complete, ?_, by simp⟩⟩
    · exact fun other different => builders_setBuilder_of_ne manager different none
    · rw [processed]
      simp only [filling] at complete contents
      simp [complete, contents, Filling.entry]
  · refine ⟨manager.setBuilder message.key (some filling.builder), ?_,
      Or.inr ⟨missing ▸ complete, ?_, ?_⟩⟩
    · exact fun other different => builders_setBuilder_of_ne manager different _
    · rw [processed]
      simp only [filling] at complete
      simp [complete, filling, Filling.entry]
    · refine ⟨some filling, by simp [Filling.entry], by simp, ?_⟩
      intro other same
      obtain rfl := Option.mem_some_iff.mp same
      exact ⟨messageLength, writes⟩

-----------------------------------------------------------------------------------------
-- Runs over the parts of one message
-----------------------------------------------------------------------------------------

/-- Parts that leave a gap are collected in silence. Witness: induction on the parts; the
gap left at the end was open all along.
-/
theorem run_parts_incomplete {message : Message} (based : message.data.startIndex = 0)
    {manager : MessageManager} {received parts : List Datagram}
    (holds : manager.Holds message received)
    (genuine : ∀ part ∈ received ++ parts, Message.Piece message part)
    (gap : remaining message.data.count ((received ++ parts).map Datagram.write) ≠ ∅)
    : ∃ next,
        run process manager (parts.map Datagram.encoded) = ([], .ok next)
        ∧ SameElsewhere message.key manager next
        ∧ next.Holds message (received ++ parts) := by
  induction parts generalizing manager received with
  | nil => exact ⟨manager, rfl, .refl _ _, by simpa using holds⟩
  | cons part rest ih =>
      have regroup : received ++ part :: rest = (received ++ [part]) ++ rest := by simp
      obtain ⟨middle, elsewhere, step⟩ := process_piece based holds
        (fun other member => genuine other (by simp [member])) (genuine part (by simp))
      rcases step with ⟨complete, -, -⟩ | ⟨-, called, collected⟩
      · rw [regroup, List.map_append] at gap
        have closed := remaining_append_subset message.data.count
          ((received ++ [part]).map Datagram.write) (rest.map Datagram.write)
        rw [complete, Finset.subset_empty] at closed
        exact absurd closed gap
      · rw [regroup] at genuine gap ⊢
        obtain ⟨next, ran, further, held⟩ := ih collected genuine gap
        refine ⟨next, ?_, elsewhere.trans further, held⟩
        rw [List.map_cons, run_cons_ok called, ran]
        rfl

/-- The part that closes the last gap delivers the message and empties the entry. -/
theorem run_parts_complete {message : Message} (based : message.data.startIndex = 0)
    {manager : MessageManager} {parts : List Datagram} {last : Datagram}
    (holds : manager.Holds message [])
    (genuine : ∀ part ∈ parts ++ [last], Message.Piece message part)
    (gap : remaining message.data.count (parts.map Datagram.write) ≠ ∅)
    (closed : remaining message.data.count ((parts ++ [last]).map Datagram.write) = ∅)
    : ∃ middle next,
        run process manager (parts.map Datagram.encoded) = ([], .ok middle)
        ∧ middle.process last.encoded = ([.onMessage message], .ok next)
        ∧ SameElsewhere message.key manager next
        ∧ next.builders message.key = none := by
  have partsGenuine : ∀ part ∈ parts, Message.Piece message part :=
    fun part member => genuine part (by simp [member])
  obtain ⟨middle, ran, elsewhere, held⟩ := run_parts_incomplete based holds
    (by simpa using partsGenuine) (by simpa using gap)
  rw [List.nil_append] at held
  obtain ⟨next, further, step⟩ :=
    process_piece based held partsGenuine (genuine last (by simp))
  rcases step with ⟨-, called, emptied⟩ | ⟨open', -, -⟩
  · exact ⟨middle, next, ran, called, elsewhere.trans further, emptied⟩
  · exact absurd closed open'

/-- Parts of one message never trap and never throw, however often it completes. -/
theorem run_parts_returns {message : Message} (based : message.data.startIndex = 0)
    {manager : MessageManager} {received parts : List Datagram}
    (holds : manager.Holds message received)
    (genuine : ∀ part ∈ received ++ parts, Message.Piece message part)
    : ∃ events next,
        run process manager (parts.map Datagram.encoded) = (events, .ok next)
        ∧ ∀ event ∈ events, event = .onMessage message := by
  induction parts generalizing manager received with
  | nil => exact ⟨[], manager, rfl, by simp⟩
  | cons part rest ih =>
      obtain ⟨middle, -, step⟩ := process_piece based holds
        (fun other member => genuine other (by simp [member])) (genuine part (by simp))
      rw [List.map_cons]
      rcases step with ⟨-, called, emptied⟩ | ⟨-, called, collected⟩
      · obtain ⟨events, next, ran, delivered⟩ := ih (holds_nil emptied)
          (fun other member => genuine other (by
            simp only [List.nil_append] at member
            simp [member]))
        refine ⟨.onMessage message :: events, next, ?_, by simpa using delivered⟩
        rw [run_cons_ok called, ran]
        rfl
      · obtain ⟨events, next, ran, delivered⟩ := ih collected (by simpa using genuine)
        refine ⟨events, next, ?_, delivered⟩
        rw [run_cons_ok called, ran]
        rfl

/-- Whatever arrangement of the message's datagrams arrives at a new manager, with any
repetitions: processing never traps and never throws, and the message is delivered at the
first position where all datagrams have occurred and not before, leaving no builder.
-/
def ReassemblesInAnyOrder (message : Message) (datagramMaxSize : MachineInt) : Prop :=
  ∃ view sent,
    message.datagrams datagramMaxSize = .ok view
    ∧ view.elements = .ok sent
    ∧ ∀ arrived : List Datagram,
        (∀ datagram, datagram ∈ arrived ↔ datagram ∈ sent)
        → (∃ events manager,
            run process init (arrived.map Datagram.encoded) = (events, .ok manager)
            ∧ ∀ error, ManagerEvent.thrown error ∉ events)
          ∧ ∃ before last after middle next,
              arrived = before ++ last :: after
              ∧ ¬ sent ⊆ before
              ∧ sent ⊆ before ++ [last]
              ∧ run process init (before.map Datagram.encoded) = ([], .ok middle)
              ∧ middle.process last.encoded = ([.onMessage message], .ok next)
              ∧ next.builders message.key = none

/-- Splitting a message and processing its datagrams in any order is lossless. Witness: at
the position where the last fragment first occurs it closes the last gap of the filling.
-/
theorem fragments_reassemble (message : Message) (datagramMaxSize : MachineInt)
    (based : message.data.startIndex = 0) (nonempty : 1 ≤ message.data.count)
    (small : message.data.count < 2 ^ 32) (room : 9 < datagramMaxSize.val)
    : ReassemblesInAnyOrder message datagramMaxSize := by
  obtain ⟨size, sizeEq, positive⟩ := Message.exists_payloadSize room
  refine ⟨_, message.fragments size, message.datagrams_eq sizeEq positive small,
    Message.elements_eq based sizeEq positive small, ?_⟩
  intro arrived occurs
  have genuine : ∀ part ∈ arrived, Message.Piece message part :=
    fun part member => Message.piece_of_mem_fragments positive small ((occurs part).mp member)
  have coverage (parts : List Datagram) (partsArrived : ∀ part ∈ parts, part ∈ arrived)
      : remaining message.data.count (parts.map Datagram.write) = ∅
        ↔ message.fragments size ⊆ parts :=
    Message.remaining_fragments_eq_empty_iff positive small
      (fun part member => (occurs part).mp (partsArrived part member))
  constructor
  · obtain ⟨events, manager, ran, delivered⟩ := run_parts_returns based
      (holds_nil init_builders) (by simpa using genuine)
    refine ⟨events, manager, ran, ?_⟩
    intro error thrown
    cases delivered _ thrown
  · have first : message.fragment size 0 ∈ message.fragments size :=
      (Message.mem_fragments positive).mpr ⟨0, by omega, rfl⟩
    have start (member : message.fragment size 0 ∈ message.fragments size)
        : ¬ message.fragments size ⊆ [] :=
      fun subset => by simpa using subset member
    obtain ⟨before, last, after, split, notYet, complete⟩ :=
      exists_first_input (start first) (fun part member => (occurs part).mpr member)
    have prefixArrived : ∀ part ∈ before ++ [last], part ∈ arrived := by
      intro part member
      rw [split]
      rcases List.mem_append.mp member with earlier | now
      · simp [earlier]
      · simp [List.mem_singleton.mp now]
    have beforeArrived : ∀ part ∈ before, part ∈ arrived :=
      fun part member => prefixArrived part (by simp [member])
    obtain ⟨middle, next, ran, called, -, emptied⟩ := run_parts_complete based
      (holds_nil init_builders)
      (fun part member => genuine part (prefixArrived part member))
      (fun closed => notYet ((coverage before beforeArrived).mp closed))
      ((coverage _ prefixArrived).mpr complete)
    exact ⟨before, last, after, middle, next, split, notYet, complete, ran, called, emptied⟩

/-- Three bytes in datagrams of at most eleven bytes. -/
theorem fragments_reassemble_three_bytes
    : ReassemblesInAnyOrder ⟨0, Data.ofBytes [1, 2, 3]⟩ ⟨11, by decide⟩ :=
  fragments_reassemble ⟨0, Data.ofBytes [1, 2, 3]⟩ ⟨11, by decide⟩ rfl (by decide) (by decide)
    (by decide)

end AgriGuardian.BLE.MessageManager
