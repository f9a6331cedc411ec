import AgriGuardian.BLE.Filling
import AgriGuardian.BLE.FragmentArithmetic

/-! The index base of a buffer, which the code ignores.
A slice has the type of a whole buffer but keeps the indices of its base. Decoding and
fragmenting index from 0, so on a slice that starts later they trap where they would read its
copy. Encoding and inserting look at the bytes alone.
-/

namespace AgriGuardian.BLE

open Swift
open Basis

-----------------------------------------------------------------------------------------
-- Decoding
-----------------------------------------------------------------------------------------

namespace Datagram

instance : ReflBEq Datagram := ⟨fun {datagram} => by simp [BEq.beq]⟩

/-- Decoding the buffer and decoding its copy return, with the same result. -/
def DecodesAsRebased (data : Data) : Prop :=
  ∃ result copied,
    decode data = .ok result
    ∧ decode data.rebased = .ok copied
    ∧ (result == copied) = true

/-- Decoding returns only for buffers too short to be read at all, or indexed from 0: the
key is read at that index.
-/
theorem short_or_based_of_decode {data : Data} {result : Option Datagram}
    (decoded : decode data = .ok result)
    : data.count ≤ 9 ∨ data.startIndex = 0 := by
  by_cases long : Header.byteCount < data.count
  · rw [decode, if_pos long] at decoded
    obtain ⟨offset, -, decoded⟩ := bind_eq_ok.mp decoded
    obtain ⟨messageLength, -, decoded⟩ := bind_eq_ok.mp decoded
    obtain ⟨key, keyRead, -⟩ := bind_eq_ok.mp decoded
    have started := Data.byteAt_eq_ok keyRead
    exact Or.inr (by omega)
  · exact Or.inl (not_lt.mp long)

/-- Decoding depends on the bytes alone exactly for the buffers that are indexed from 0 or
too short to be read.
-/
theorem decodesAsRebased_iff {data : Data}
    : DecodesAsRebased data ↔ data.startIndex = 0 ∨ data.count ≤ 9 := by
  constructor
  · intro decodes
    obtain ⟨result, copied, decoded, -, -⟩ := decodes
    exact (short_or_based_of_decode decoded).symm
  · intro readable
    rcases readable with based | short
    · have copy : data.rebased = data := Data.rebased_of_based based
      rcases decode_ofBytes_cases data.bytes with
        ⟨-, rejected⟩ | ⟨-, datagram, decoded, -⟩
      · rw [← Data.eq_ofBytes based] at rejected
        exact ⟨none, none, rejected, by rw [copy, rejected], rfl⟩
      · rw [← Data.eq_ofBytes based] at decoded
        exact ⟨some datagram, some datagram, decoded, by rw [copy, decoded], by simp⟩
    · exact ⟨none, none, decode_short short, decode_short short, rfl⟩

end Datagram

-----------------------------------------------------------------------------------------
-- Fragmenting
-----------------------------------------------------------------------------------------

namespace Message

/-- The message with the copy of its data. -/
def rebased (message : Message) : Message := ⟨message.key, message.data.rebased⟩

/-- All datagrams of the message. -/
def split (message : Message) (datagramMaxSize : MachineInt) : Checked (List Datagram) := do
  let view ← message.datagrams datagramMaxSize
  view.elements

/-- Splitting the message and splitting its copy return, with equal datagrams. -/
def SplitsAsRebased (message : Message) (datagramMaxSize : MachineInt) : Prop :=
  ∃ sent copied,
    message.split datagramMaxSize = .ok sent
    ∧ message.rebased.split datagramMaxSize = .ok copied
    ∧ (sent == copied) = true

/-- Whenever splitting the copy returns, splitting the message does, with equal datagrams. -/
def SplitsIfRebasedDoes (message : Message) (datagramMaxSize : MachineInt) : Prop :=
  ∀ copied,
    message.rebased.split datagramMaxSize = .ok copied
    → ∃ sent, message.split datagramMaxSize = .ok sent ∧ (sent == copied) = true

/-- The number of datagrams of a view, as its initializer computes it. -/
theorem endIndex_of_datagrams {message : Message} {datagramMaxSize : MachineInt}
    {view : DatagramView} (created : message.datagrams datagramMaxSize = .ok view)
    : ∃ payloadMaxSize : ℤ,
        payloadMaxSize = datagramMaxSize - 9
        ∧ view.endIndex
          = if 0 = (message.data.count : ℤ).tmod payloadMaxSize then
              (message.data.count : ℤ).tdiv payloadMaxSize
            else 1 + (message.data.count : ℤ).tdiv payloadMaxSize := by
  simp only [datagrams, DatagramView.init, bind_eq_ok] at created
  obtain ⟨payloadMaxSize, subtracted, rest, divided, whole, quotiented, endIndex, ended, built⟩ :=
    created
  obtain ⟨-, rfl⟩ := remainder_eq_ok divided
  obtain rfl := quotient_eq_ok quotiented
  obtain rfl := Except.ok.inj built
  refine ⟨payloadMaxSize, checkedInt_eq_ok subtracted, ?_⟩
  split at ended
  · rename_i exact
    rw [if_pos exact]
    exact (Except.ok.inj ended).symm
  · rename_i leftover
    rw [if_neg leftover]
    exact checkedInt_eq_ok ended

/-- A view without datagrams is one of empty data, or of a negative payload size that the
length exceeds, but not twice.
-/
theorem lengths_of_endIndex_eq_zero {message : Message} {datagramMaxSize : MachineInt}
    {view : DatagramView} (created : message.datagrams datagramMaxSize = .ok view)
    (none : view.endIndex = 0)
    : message.data.count = 0
      ∨ 9 - datagramMaxSize.val < message.data.count
        ∧ message.data.count < 2 * (9 - datagramMaxSize.val) := by
  obtain ⟨payloadMaxSize, sizeEq, computed⟩ := endIndex_of_datagrams created
  have parts := Int.tmod_add_mul_tdiv (message.data.count : ℤ) payloadMaxSize
  have nonneg := Int.tmod_nonneg payloadMaxSize (Int.natCast_nonneg message.data.count)
  rw [none] at computed
  split at computed
  · rename_i exact
    rw [← exact, ← computed, mul_zero] at parts
    exact Or.inl (by omega)
  · rename_i leftover
    have whole : (message.data.count : ℤ).tdiv payloadMaxSize = -1 := by omega
    have negative : payloadMaxSize < 0 := by
      by_contra above
      have quotientNonneg :=
        Int.tdiv_nonneg (Int.natCast_nonneg message.data.count) (not_lt.mp above)
      omega
    have below := Int.tmod_lt_of_pos (message.data.count : ℤ) (neg_pos.mpr negative)
    rw [Int.tmod_neg] at below
    rw [whole] at parts
    exact Or.inr ⟨by omega, by omega⟩

theorem elements_eq_nil {view : DatagramView} (none : view.endIndex = 0)
    : view.elements = .ok [] := by
  rw [DatagramView.elements, none]
  rfl

theorem endIndex_eq_zero_of_elements {view : DatagramView} (collected : view.elements = .ok [])
    : view.endIndex = 0 := by
  unfold DatagramView.elements at collected
  split at collected
  · cases collected
  · rename_i ordered
    rw [mapM_eq_ok_iff, List.forall₂_nil_right_iff, List.range_eq_nil] at collected
    rw [DatagramView.startIndex] at ordered
    omega

/-- Splitting returns no datagrams exactly for these lengths and sizes. -/
theorem split_eq_nil_iff (message : Message) (datagramMaxSize : MachineInt)
    : message.split datagramMaxSize = .ok []
      ↔ SafeSize message.data.count datagramMaxSize
        ∧ (9 < datagramMaxSize.val → message.data.count = 0) := by
  constructor
  · intro returned
    obtain ⟨view, created, collected⟩ := bind_eq_ok.mp returned
    have lengths :=
      lengths_of_endIndex_eq_zero created (endIndex_eq_zero_of_elements collected)
    have range := range_of_datagrams created
    unfold SafeSize
    constructor
    · omega
    · omega
  · intro empty
    obtain ⟨safe, empty⟩ := empty
    have nil {view : DatagramView} (created : message.datagrams datagramMaxSize = .ok view)
        (none : view.endIndex = 0)
        : message.split datagramMaxSize = .ok [] := by
      rw [split, created, ok_bind, elements_eq_nil none]
    rcases safe with room | ⟨inRange, short, lengths⟩
    · obtain ⟨size, sizeEq, positive⟩ := exists_payloadSize room
      have created := message.datagrams_eq sizeEq positive (by rw [empty room]; decide)
      exact nil created (by simp [fragmentCount, empty room])
    · obtain ⟨view, created, none⟩ := exists_empty_view short inRange lengths
      exact nil created none

/-- Splitting returns exactly for the safe lengths and sizes and, where there are datagrams,
for data that is short enough and indexed from 0.
-/
theorem split_returns_iff (message : Message) (datagramMaxSize : MachineInt)
    : (∃ sent, message.split datagramMaxSize = .ok sent)
      ↔ SafeSize message.data.count datagramMaxSize
        ∧ (9 < datagramMaxSize.val
          → message.data.count = 0
            ∨ message.data.count < 2 ^ 32 ∧ message.data.startIndex = 0) := by
  constructor
  · intro returns
    obtain ⟨sent, returned⟩ := returns
    by_cases none : sent = []
    · obtain ⟨safe, empty⟩ := (split_eq_nil_iff message datagramMaxSize).mp (none ▸ returned)
      exact ⟨safe, fun room => Or.inl (empty room)⟩
    · obtain ⟨view, created, collected⟩ := bind_eq_ok.mp returned
      obtain ⟨based, small, size, positive, room⟩ := room_of_elements created collected none
      exact ⟨Or.inl (by omega), fun _ => Or.inr ⟨small, based⟩⟩
  · intro condition
    obtain ⟨safe, indexed⟩ := condition
    by_cases filled : 9 < datagramMaxSize.val ∧ message.data.count ≠ 0
    · obtain ⟨room, nonempty⟩ := filled
      obtain ⟨small, based⟩ := (indexed room).resolve_left nonempty
      obtain ⟨size, sizeEq, positive⟩ := exists_payloadSize room
      refine ⟨message.fragments size, ?_⟩
      rw [split, message.datagrams_eq sizeEq positive small, ok_bind,
        elements_eq based sizeEq positive small]
    · refine ⟨[], (split_eq_nil_iff message datagramMaxSize).mpr ⟨safe, fun room => ?_⟩⟩
      by_contra nonempty
      exact filled ⟨room, nonempty⟩

/-- A message that is split gives the datagrams of its copy. -/
theorem split_rebased {message : Message} {datagramMaxSize : MachineInt}
    {sent : List Datagram} (returned : message.split datagramMaxSize = .ok sent)
    : message.rebased.split datagramMaxSize = .ok sent := by
  by_cases none : sent = []
  · subst none
    exact (split_eq_nil_iff message.rebased datagramMaxSize).mpr
      ((split_eq_nil_iff message datagramMaxSize).mp returned)
  · obtain ⟨view, created, collected⟩ := bind_eq_ok.mp returned
    obtain ⟨based, -⟩ := room_of_elements created collected none
    rwa [rebased, Data.rebased_of_based based]

theorem splitsAsRebased_iff (message : Message) (datagramMaxSize : MachineInt)
    : message.SplitsAsRebased datagramMaxSize
      ↔ SafeSize message.data.count datagramMaxSize
        ∧ (9 < datagramMaxSize.val
          → message.data.count = 0
            ∨ message.data.count < 2 ^ 32 ∧ message.data.startIndex = 0) := by
  rw [← split_returns_iff]
  constructor
  · intro splits
    obtain ⟨sent, copied, returned, -, -⟩ := splits
    exact ⟨sent, returned⟩
  · intro returns
    obtain ⟨sent, returned⟩ := returns
    exact ⟨sent, sent, returned, split_rebased returned, by simp⟩

theorem splitsIfRebasedDoes_iff (message : Message) (datagramMaxSize : MachineInt)
    : message.SplitsIfRebasedDoes datagramMaxSize
      ↔ (9 < datagramMaxSize.val
        → 0 < message.data.count
        → message.data.count < 2 ^ 32
        → message.data.startIndex = 0) := by
  constructor
  · intro follows room nonempty small
    obtain ⟨copied, copyReturned⟩ :=
      (split_returns_iff message.rebased datagramMaxSize).mpr
        ⟨Or.inl room, fun _ => Or.inr ⟨small, rfl⟩⟩
    obtain ⟨sent, returned, -⟩ := follows copied copyReturned
    obtain ⟨-, indexed⟩ :=
      (split_returns_iff message datagramMaxSize).mp ⟨sent, returned⟩
    exact ((indexed room).resolve_left nonempty.ne').2
  · intro based copied copyReturned
    obtain ⟨safe, indexed⟩ :=
      (split_returns_iff message.rebased datagramMaxSize).mp ⟨copied, copyReturned⟩
    have returns : ∃ sent, message.split datagramMaxSize = .ok sent := by
      refine (split_returns_iff message datagramMaxSize).mpr ⟨safe, fun room => ?_⟩
      rcases indexed room with empty | ⟨small, -⟩
      · exact Or.inl empty
      · rcases Nat.eq_zero_or_pos message.data.count with empty | nonempty
        · exact Or.inl empty
        · exact Or.inr ⟨small, based room nonempty small⟩
    obtain ⟨sent, returned⟩ := returns
    obtain rfl := Except.ok.inj ((split_rebased returned).symm.trans copyReturned)
    exact ⟨sent, returned, by simp⟩

/-- Decoding and splitting depend on the bytes alone exactly where nothing is read from the
data or where it is indexed from 0; splitting also needs a safe size and a length below 2^32.
-/
theorem depends_on_bytes_iff (message : Message) (datagramMaxSize : MachineInt)
    : (Datagram.DecodesAsRebased message.data
        ↔ message.data.startIndex = 0 ∨ message.data.count ≤ 9)
      ∧ (message.SplitsAsRebased datagramMaxSize
        ↔ SafeSize message.data.count datagramMaxSize
          ∧ (9 < datagramMaxSize.val
            → message.data.count = 0
              ∨ message.data.count < 2 ^ 32 ∧ message.data.startIndex = 0))
      ∧ (message.SplitsIfRebasedDoes datagramMaxSize
        ↔ (9 < datagramMaxSize.val
          → 0 < message.data.count
          → message.data.count < 2 ^ 32
          → message.data.startIndex = 0)) :=
  ⟨Datagram.decodesAsRebased_iff, message.splitsAsRebased_iff datagramMaxSize,
    message.splitsIfRebasedDoes_iff datagramMaxSize⟩

/-- The payload of a decoded datagram can neither be decoded nor be split. -/
theorem payload_depends_on_base
    : Datagram.decode (Data.ofBytes (List.replicate 19 0))
        = .ok (some ⟨⟨0, 0, 0⟩, ⟨9, List.replicate 10 0⟩⟩)
      ∧ ¬ Datagram.DecodesAsRebased ⟨9, List.replicate 10 0⟩
      ∧ ¬ SplitsAsRebased ⟨0, ⟨9, List.replicate 10 0⟩⟩ ⟨20, by decide⟩ := by
  refine ⟨rfl, ?_, ?_⟩
  · intro decodes
    rcases Datagram.decodesAsRebased_iff.mp decodes with based | short
    · cases based
    · exact absurd short (by decide)
  · intro splits
    obtain ⟨-, indexed⟩ := (splitsAsRebased_iff _ _).mp splits
    rcases indexed (by decide) with empty | ⟨-, based⟩
    · cases empty
    · cases based

end Message

-----------------------------------------------------------------------------------------
-- Receiving
-----------------------------------------------------------------------------------------

/-- Encoding a datagram looks at the bytes of its payload alone. -/
theorem Datagram.encoded_rebased (datagram : Datagram)
    : Datagram.encoded { datagram with payload := datagram.payload.rebased }
      = datagram.encoded := rfl

/-- Inserting a payload looks at its bytes alone. -/
theorem MessageBuilder.insert_rebased (builder : MessageBuilder) (payload : Data) (offset : ℕ)
    : builder.insert payload.rebased offset = builder.insert payload offset := rfl

namespace MessageManager

/-- A message that a filling delivers has a buffer of its own. -/
theorem based_of_receive {slot next : Option Filling} {datagram : Datagram}
    {message : Message} (received : Filling.receive slot datagram = .ok (some message, next))
    : message.data.startIndex = 0 := by
  unfold Filling.receive at received
  split at received
  · dsimp only at received
    split at received
    · obtain ⟨delivered, -⟩ := Prod.mk.inj (Except.ok.inj received)
      obtain rfl := Option.some.inj delivered
      rfl
    · cases received
  · cases received

/-- Every message that is passed on is indexed from 0, so it can be split again. -/
theorem based_of_onMessage {inputs : List Data} {outputs : List ManagerEvent}
    {manager : MessageManager} (completed : run process init inputs = (outputs, .ok manager))
    : ∀ message, ManagerEvent.onMessage message ∈ outputs → message.data.startIndex = 0 := by
  refine (run_trace_invariant (fun _ emitted manager =>
    (∃ slots, manager.Represents slots)
    ∧ ∀ message, ManagerEvent.onMessage message ∈ emitted → message.data.startIndex = 0)
    ?_ ⟨⟨_, init_represents⟩, by simp⟩ completed).2
  intro before emitted manager datagramData outputs next holds called
  obtain ⟨⟨slots, represents⟩, based⟩ := holds
  refine ⟨represents.step called, ?_⟩
  intro message member
  rcases List.mem_append.mp member with earlier | now
  · exact based message earlier
  · rcases represents.process_eq_ok called with
      ⟨rfl, -⟩ | ⟨datagram, delivered, slot, received, rfl, -⟩
    · simp at now
    · obtain ⟨other, isDelivered, same⟩ := List.mem_map.mp now
      obtain rfl := ManagerEvent.onMessage.inj same
      rw [Option.mem_toList] at isDelivered
      exact based_of_receive (isDelivered ▸ received)

end MessageManager

end AgriGuardian.BLE
