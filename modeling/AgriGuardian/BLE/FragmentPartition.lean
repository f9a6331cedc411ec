import AgriGuardian.BLE.Message

/-! The datagrams of a message partition its data within the size limit.
The chunks of a list are its parts of one length, in order; only the last may be shorter.
-/

namespace AgriGuardian.BLE

open Swift
open Basis

/-- The header takes nine bytes of an encoded datagram, and the payload the others. -/
theorem Datagram.count_encoded (datagram : Datagram)
    : datagram.encoded.count = Header.byteCount + datagram.payload.count := by
  rw [encoded_eq, Data.count_ofBytes, Data.count]
  simp only [List.length_cons, List.length_append, LittleEndian.length_digits, Header.byteCount]
  omega

namespace Message

/-- The payloads are nonempty parts of the data that make it up, each at the offset its
header says. The headers name the message, and all encodings but the last are as long as the
limit allows.
-/
structure PartitionedInto (message : Message) (datagramMaxSize : MachineInt)
    (datagrams : List Datagram)
    : Prop where
  nonempty : ∀ datagram ∈ datagrams, datagram.payload.bytes ≠ []
  whole : datagrams.flatMap (fun datagram => datagram.payload.bytes) = message.data.bytes
  offsets
    : ∀ (index : ℕ) (datagram : Datagram),
        datagrams[index]? = some datagram
        → datagram.header.offset.toNat
          = ((datagrams.take index).map fun earlier => earlier.payload.count).sum
  headers
    : ∀ datagram ∈ datagrams,
        datagram.header.key = message.key
        ∧ datagram.header.messageLength.toNat = message.data.count
  limit : ∀ datagram ∈ datagrams, (datagram.encoded.count : ℤ) ≤ datagramMaxSize
  full : ∀ datagram ∈ datagrams.dropLast, (datagram.encoded.count : ℤ) = datagramMaxSize

theorem count_payload_fragment (message : Message) (size index : ℕ)
    : (message.fragment size index).payload.count
      = min size (message.data.count - index * size) := by
  simp only [fragment, Data.count, List.length_take, List.length_drop]

/-- The fragments before one of them hold as many bytes as its offset says. -/
theorem sum_count_take_fragments {message : Message} {size index : ℕ} (positive : 0 < size)
    (within : index * size < message.data.count)
    : (((message.fragments size).take index).map fun earlier => earlier.payload.count).sum
      = index * size := by
  have inRange := (lt_fragmentCount_iff positive).mpr within
  have earlier
      : (message.fragments size).take index
        = (List.range index).map (message.fragment size) := by
    rw [fragments, ← List.map_take, List.take_range, min_eq_left inRange.le]
  have lengths
      : ((List.range index).map (message.fragment size)).map
            (fun earlier => earlier.payload.count)
        = (List.range index).map fun chunk =>
            ((message.data.bytes.drop (chunk * size)).take size).length := by
    rw [List.map_map]
    rfl
  calc
    (((message.fragments size).take index).map fun earlier => earlier.payload.count).sum
        = ((List.range index).map fun chunk =>
            ((message.data.bytes.drop (chunk * size)).take size).length).sum := by
        rw [earlier, lengths]
    _ = (message.data.bytes.take (index * size)).length := by
        rw [← flatMap_chunks, List.length_flatMap]
    _ = index * size := by
        rw [List.length_take]
        exact min_eq_left within.le

/-- All fragments but the last have a full payload. -/
theorem count_payload_of_mem_dropLast {message : Message} {size : ℕ} (positive : 0 < size)
    {datagram : Datagram} (member : datagram ∈ (message.fragments size).dropLast)
    : datagram.payload.count = size := by
  rw [fragments, ← List.map_dropLast, List.dropLast_eq_take, List.length_range,
    List.take_range] at member
  obtain ⟨index, inRange, rfl⟩ := List.mem_map.mp member
  have next : index + 1 < fragmentCount message.data.count size := by
    have below := List.mem_range.mp inRange
    omega
  have within := (lt_fragmentCount_iff positive).mp next
  rw [Nat.succ_mul] at within
  rw [count_payload_fragment]
  omega

theorem fragments_partition {message : Message} {datagramMaxSize : MachineInt} {size : ℕ}
    (room : datagramMaxSize.val = size + 9) (positive : 0 < size)
    (small : message.data.count < 2 ^ 32)
    : message.PartitionedInto datagramMaxSize (message.fragments size) where
  nonempty datagram member := (piece_of_mem_fragments positive small member).nonempty
  whole := by
    have reaches : message.data.count ≤ fragmentCount message.data.count size * size := by
      by_contra short
      exact lt_irrefl _ ((lt_fragmentCount_iff positive).mpr (not_le.mp short))
    calc
      (message.fragments size).flatMap (fun datagram => datagram.payload.bytes)
          = message.data.bytes.take (fragmentCount message.data.count size * size) := by
          rw [← flatMap_chunks, fragments, List.flatMap_map]
          rfl
      _ = message.data.bytes := List.take_of_length_le reaches
  offsets := by
    intro index datagram found
    obtain ⟨within, rfl⟩ := getElem?_fragments positive found
    rw [sum_count_take_fragments positive within]
    exact UInt32.toNat_ofNat_of_lt' (by change _ < 2 ^ 32; omega)
  headers datagram member :=
    have piece := piece_of_mem_fragments positive small member
    ⟨piece.key, piece.messageLength⟩
  limit := by
    intro datagram member
    obtain ⟨index, -, rfl⟩ := (mem_fragments positive).mp member
    rw [Datagram.count_encoded, count_payload_fragment, room]
    simp only [Datagram.Header.byteCount]
    omega
  full := by
    intro datagram member
    rw [Datagram.count_encoded, count_payload_of_mem_dropLast positive member, room]
    simp only [Datagram.Header.byteCount]
    omega

/-- On every size with room for a payload, no subscript in range traps, and the datagrams
partition the message.
-/
theorem datagrams_partition (message : Message) (datagramMaxSize : MachineInt)
    (based : message.data.startIndex = 0) (small : message.data.count < 2 ^ 32)
    (room : 9 < datagramMaxSize.val)
    : ∃ view datagrams,
        message.datagrams datagramMaxSize = .ok view
        ∧ view.startIndex = 0
        ∧ view.endIndex = (datagrams.length : ℤ)
        ∧ (∀ (index : ℕ) (datagram : Datagram),
            datagrams[index]? = some datagram → view.subscript index = .ok datagram)
        ∧ message.PartitionedInto datagramMaxSize datagrams := by
  obtain ⟨size, sizeEq, positive⟩ := exists_payloadSize room
  refine ⟨_, message.fragments size, message.datagrams_eq sizeEq positive small, rfl, ?_, ?_,
    fragments_partition sizeEq positive small⟩
  · simp [fragments]
  · intro index datagram found
    obtain ⟨within, rfl⟩ := getElem?_fragments positive found
    exact subscript_eq based sizeEq small within

/-- Three bytes in datagrams of at most eleven bytes: one full datagram and one of a single
byte.
-/
theorem datagrams_partition_three_bytes
    : ∃ view datagrams,
        Message.datagrams ⟨0, Data.ofBytes [1, 2, 3]⟩ ⟨11, by decide⟩ = .ok view
        ∧ view.startIndex = 0
        ∧ view.endIndex = (datagrams.length : ℤ)
        ∧ (∀ (index : ℕ) (datagram : Datagram),
            datagrams[index]? = some datagram → view.subscript index = .ok datagram)
        ∧ PartitionedInto ⟨0, Data.ofBytes [1, 2, 3]⟩ ⟨11, by decide⟩ datagrams :=
  datagrams_partition ⟨0, Data.ofBytes [1, 2, 3]⟩ ⟨11, by decide⟩ rfl (by decide) (by decide)

end Message

end AgriGuardian.BLE
