import AgriGuardian.Basis.LittleEndian
import AgriGuardian.Swift.Data

/-! The datagram format: a nine-byte header and a payload.
The codec loops are embedded index by index, with the accesses and additions that can
trap, and are then related to the little-endian byte strings they read and write.
-/

namespace AgriGuardian.BLE

open Swift
open Basis

namespace Datagram

structure Header where
  key : UInt8
  offset : UInt32
  messageLength : UInt32
  deriving DecidableEq, Repr

def Header.byteCount : ℕ := 9

instance : BEq Header where
  beq lhs rhs :=
    lhs.key == rhs.key && lhs.messageLength == rhs.messageLength && lhs.offset == rhs.offset

end Datagram

/-- A header and a payload, which may be a slice of the buffer it was cut from. -/
structure Datagram where
  header : Datagram.Header
  payload : Data
  deriving DecidableEq, Repr

namespace Datagram

instance : BEq Datagram where
  beq lhs rhs := lhs.header == rhs.header && lhs.payload == rhs.payload

/-- The loop of `decode` over the four bytes from `base`, last byte first. -/
def readUInt32 (data : Data) (base : ℕ) : Checked UInt32 :=
  (List.range 4).reverse.foldlM
    (fun (value : UInt32) (index : ℕ) => do
      let byte ← data.byteAt (base + index : ℕ)
      addUInt32 (value <<< 8) byte.toUInt32)
    0

def decode (data : Data) : Checked (Option Datagram) :=
  if Header.byteCount < data.count then do
    let offset ← readUInt32 data 1
    let messageLength ← readUInt32 data 5
    let key ← data.byteAt 0
    let payload ← data.slice 9 data.count
    .ok (some ⟨⟨key, offset, messageLength⟩, payload⟩)
  else .ok none

/-- The loop of `encoded` that appends four bytes, lowest byte first. Truncation and
shifting do not trap.
-/
def appendUInt32 (data : Data) (value : UInt32) : Data :=
  ((List.range 4).foldl
    (fun (data, rest) _ => (data.append [rest.toUInt8], rest >>> 8))
    (data, value)).1

/-- The capacity passed to the buffer is a hint and has no part in the result. -/
def encoded (datagram : Datagram) : Data :=
  let data := Data.ofBytes []
  let data := data.append [datagram.header.key]
  let data := appendUInt32 data datagram.header.offset
  let data := appendUInt32 data datagram.header.messageLength
  data.append datagram.payload.bytes

-----------------------------------------------------------------------------------------
-- The encoder writes little-endian bytes
-----------------------------------------------------------------------------------------

/-- One round of the encoder loop splits off the lowest byte. -/
theorem toNat_shiftRight_byte (value : UInt32) : (value >>> 8).toNat = value.toNat / 256 := by
  rw [UInt32.toNat_shiftRight, Nat.shiftRight_eq_div_pow]
  rfl

theorem appendUInt32_eq (data : Data) (value : UInt32)
    : appendUInt32 data value = data.append (LittleEndian.digits 4 value.toNat) := by
  have rounds (width : ℕ) : ∀ (indices : List ℕ) (data : Data) (rest : UInt32),
      indices.length = width
      → (indices.foldl
          (fun ((data, rest) : Data × UInt32) _ => (data.append [rest.toUInt8], rest >>> 8))
          (data, rest)).1
        = data.append (LittleEndian.digits width rest.toNat) := by
    induction width with
    | zero =>
        intro indices data rest none
        simp [List.length_eq_zero_iff.mp none, LittleEndian.digits, Data.append]
    | succ width ih =>
        intro indices data rest more
        obtain ⟨index, later, rfl⟩ := List.exists_cons_of_length_eq_add_one more
        rw [List.foldl_cons, ih later _ _ (by simpa using more), toNat_shiftRight_byte]
        simp [LittleEndian.digits, Data.append, UInt8.ofNat, UInt32.toUInt8]
  exact rounds 4 (List.range 4) data value rfl

/-- The layout of an encoded datagram: key, offset, message length, payload. -/
theorem encoded_eq (datagram : Datagram)
    : datagram.encoded
      = Data.ofBytes
          (datagram.header.key
            :: (LittleEndian.digits 4 datagram.header.offset.toNat
              ++ (LittleEndian.digits 4 datagram.header.messageLength.toNat
                ++ datagram.payload.bytes))) := by
  simp [encoded, appendUInt32_eq, Data.append, Data.ofBytes]

-----------------------------------------------------------------------------------------
-- The decoder reads little-endian bytes
-----------------------------------------------------------------------------------------

/-- One round of the decoder loop. The shifted value leaves its low byte free, so the
trapping addition is exact as long as the value so far fits in three bytes.
-/
theorem addUInt32_shiftLeft {value : UInt32} (small : value.toNat < 2 ^ 24) (byte : UInt8)
    : ∃ next, addUInt32 (value <<< 8) byte.toUInt32 = .ok next
        ∧ next.toNat = byte.toNat + 256 * value.toNat := by
  have shifted : (value <<< 8).toNat = 256 * value.toNat := by
    rw [UInt32.toNat_shiftLeft, Nat.shiftLeft_eq]
    change value.toNat * 256 % 2 ^ 32 = _
    omega
  have low : byte.toUInt32.toNat = byte.toNat := UInt8.toNat_toUInt32 byte
  have bound := byte.toNat_lt
  obtain ⟨added, sum⟩ :=
    addUInt32_of_lt (show (value <<< 8).toNat + byte.toUInt32.toNat < 2 ^ 32 by omega)
  exact ⟨_, added, by omega⟩

/-- The decoder loop returns the number its four bytes denote, without trapping. -/
theorem readUInt32_ofBytes {bytes field : List UInt8} {base : ℕ} (width : field.length = 4)
    (located : ∀ index, index < 4 → bytes[base + index]? = field[index]?)
    : readUInt32 (Data.ofBytes bytes) base
      = .ok (UInt32.ofNat (LittleEndian.value field)) := by
  obtain ⟨b0, b1, b2, b3, rfl⟩ : ∃ b0 b1 b2 b3, field = [b0, b1, b2, b3] := by
    match field, width with
    | [b0, b1, b2, b3], _ => exact ⟨b0, b1, b2, b3, rfl⟩
  have read (index : ℕ) {byte : UInt8} (small : index < 4)
      (found : [b0, b1, b2, b3][index]? = some byte)
      : (Data.ofBytes bytes).byteAt (base + index : ℕ) = .ok byte :=
    Data.byteAt_ofBytes ((located index small).trans found)
  have zero : (0 : UInt32).toNat = 0 := rfl
  have bound0 := b0.toNat_lt
  have bound1 := b1.toNat_lt
  have bound2 := b2.toNat_lt
  have bound3 := b3.toNat_lt
  obtain ⟨v3, add3, val3⟩ := addUInt32_shiftLeft (show (0 : UInt32).toNat < 2 ^ 24 by omega) b3
  obtain ⟨v2, add2, val2⟩ := addUInt32_shiftLeft (show v3.toNat < 2 ^ 24 by omega) b2
  obtain ⟨v1, add1, val1⟩ := addUInt32_shiftLeft (show v2.toNat < 2 ^ 24 by omega) b1
  obtain ⟨v0, add0, val0⟩ := addUInt32_shiftLeft (show v1.toNat < 2 ^ 24 by omega) b0
  have order : (List.range 4).reverse = [3, 2, 1, 0] := rfl
  have result : v0 = UInt32.ofNat (LittleEndian.value [b0, b1, b2, b3]) := by
    apply UInt32.toNat_inj.mp
    simp only [LittleEndian.value, UInt32.toNat_ofNat']
    omega
  simp only [readUInt32, order, List.foldlM_cons, List.foldlM_nil, read 3 (by decide) rfl,
    read 2 (by decide) rfl, read 1 (by decide) rfl, read 0 (by decide) rfl, ok_bind, add3, add2,
    add1, add0, pure_eq_ok, result]

/-- Decoding a buffer laid out as key, offset, message length and non-empty payload. -/
theorem decode_ofBytes (key : UInt8) {offset messageLength payload : List UInt8}
    (offsetWidth : offset.length = 4) (lengthWidth : messageLength.length = 4)
    (nonempty : payload ≠ [])
    : decode (Data.ofBytes (key :: (offset ++ (messageLength ++ payload))))
      = .ok (some
          ⟨⟨key, UInt32.ofNat (LittleEndian.value offset),
            UInt32.ofNat (LittleEndian.value messageLength)⟩, ⟨9, payload⟩⟩) := by
  have payloadPos : 0 < payload.length := List.length_pos_iff.mpr nonempty
  generalize layout : key :: (offset ++ (messageLength ++ payload)) = bytes
  have total : bytes.length = 9 + payload.length := by
    simp only [← layout, List.length_cons, List.length_append]
    omega
  have long : Header.byteCount < (Data.ofBytes bytes).count := by
    simp only [Header.byteCount, Data.count_ofBytes]
    omega
  have offsetRead : readUInt32 (Data.ofBytes bytes) 1 = .ok _ :=
    readUInt32_ofBytes offsetWidth (by
      intro index small
      rw [← layout, Nat.add_comm, List.getElem?_cons_succ, List.getElem?_append_left (by omega)])
  have lengthRead : readUInt32 (Data.ofBytes bytes) 5 = .ok _ :=
    readUInt32_ofBytes lengthWidth (by
      intro index small
      rw [← layout, show 5 + index = (4 + index) + 1 by omega, List.getElem?_cons_succ,
        List.getElem?_append_right (by omega), List.getElem?_append_left (by omega)]
      congr 1
      omega)
  have keyRead : (Data.ofBytes bytes).byteAt ((0 : ℕ) : ℤ) = .ok key :=
    Data.byteAt_ofBytes (by rw [← layout]; rfl)
  have payloadRead
      : (Data.ofBytes bytes).slice ((9 : ℕ) : ℤ) (Data.ofBytes bytes).count = .ok ⟨9, payload⟩ := by
    have dropped : bytes.drop 9 = payload := by
      rw [← layout, List.drop_succ_cons, ← List.append_assoc,
        List.drop_left' (by simp [offsetWidth, lengthWidth])]
    rw [Data.count_ofBytes, Data.slice_ofBytes (by omega) le_rfl, dropped, total]
    simp
  rw [decode, if_pos long, offsetRead, lengthRead]
  simp only [Nat.cast_zero, Nat.cast_ofNat] at keyRead payloadRead
  simp only [ok_bind, keyRead, payloadRead]

/-- Nine bytes or fewer do not decode. -/
theorem decode_short {data : Data} (short : data.count ≤ 9) : decode data = .ok none :=
  if_neg (by simpa [Header.byteCount] using short)

/-- A buffer longer than the header splits into the fields of the layout. -/
theorem exists_layout {bytes : List UInt8} (long : 9 < bytes.length)
    : ∃ key offset messageLength payload,
        bytes = key :: (offset ++ (messageLength ++ payload))
        ∧ offset.length = 4
        ∧ messageLength.length = 4
        ∧ payload ≠ [] := by
  obtain ⟨key, rest, rfl⟩ := List.exists_cons_of_length_pos (show 0 < bytes.length by omega)
  simp only [List.length_cons] at long
  refine ⟨key, rest.take 4, (rest.drop 4).take 4, (rest.drop 4).drop 4, ?_, ?_, ?_, ?_⟩
  · rw [List.take_append_drop, List.take_append_drop]
  · rw [List.length_take]
    omega
  · rw [List.length_take, List.length_drop]
    omega
  · apply List.ne_nil_of_length_pos
    simp only [List.length_drop]
    omega

/-- Decoding what the encoder wrote gives the datagram back, its payload now a slice of
the encoded buffer.
-/
theorem decode_encoded {datagram : Datagram} (nonempty : datagram.payload.bytes ≠ [])
    : decode datagram.encoded
      = .ok (some { datagram with payload := ⟨9, datagram.payload.bytes⟩ }) := by
  have read (word : UInt32)
      : UInt32.ofNat (LittleEndian.value (LittleEndian.digits 4 word.toNat)) = word := by
    rw [LittleEndian.value_digits word.toNat_lt, UInt32.ofNat_toNat]
  rw [encoded_eq, decode_ofBytes _ (by simp) (by simp) nonempty, read, read]

/-- Encoding what the decoder read from a buffer gives the buffer back. -/
theorem encoded_of_decode {bytes : List UInt8} {datagram : Datagram}
    (decoded : decode (Data.ofBytes bytes) = .ok (some datagram))
    : datagram.encoded = Data.ofBytes bytes := by
  by_cases long : 9 < bytes.length
  · obtain ⟨key, offset, messageLength, payload, rfl, offsetWidth, lengthWidth, nonempty⟩ :=
      exists_layout long
    rw [decode_ofBytes key offsetWidth lengthWidth nonempty] at decoded
    obtain rfl := Option.some.inj (Except.ok.inj decoded)
    have written {field : List UInt8} (width : field.length = 4)
        : LittleEndian.digits 4 (UInt32.ofNat (LittleEndian.value field)).toNat = field := by
      have small : LittleEndian.value field < 2 ^ 32 := by
        simpa [width] using LittleEndian.value_lt field
      rw [UInt32.toNat_ofNat', Nat.mod_eq_of_lt small, ← width, LittleEndian.digits_value]
    rw [encoded_eq]
    simp only [written offsetWidth, written lengthWidth]
  · rw [decode_short (by simpa using long)] at decoded
    cases decoded

/-- Decoding a buffer indexed from 0 returns, with a datagram exactly when the buffer is
longer than the header.
-/
theorem decode_ofBytes_cases (bytes : List UInt8)
    : (bytes.length ≤ 9 ∧ decode (Data.ofBytes bytes) = .ok none)
      ∨ (9 < bytes.length
        ∧ ∃ datagram,
            decode (Data.ofBytes bytes) = .ok (some datagram) ∧ datagram.payload.bytes ≠ []) := by
  by_cases long : 9 < bytes.length
  · obtain ⟨key, offset, messageLength, payload, rfl, offsetWidth, lengthWidth, nonempty⟩ :=
      exists_layout long
    exact Or.inr ⟨long, _, decode_ofBytes key offsetWidth lengthWidth nonempty, nonempty⟩
  · have short := Nat.le_of_not_lt long
    exact Or.inl ⟨short, decode_short short⟩

/-- Datagrams with a non-empty payload and byte strings longer than the header correspond
one to one, and decoding never traps. Encoding is total by construction.
-/
theorem codec_bijection
    : (∀ datagram : Datagram,
        datagram.payload.bytes ≠ []
        → ∃ decoded, decode datagram.encoded = .ok (some decoded) ∧ (decoded == datagram) = true)
      ∧ (∀ bytes datagram,
          decode (Data.ofBytes bytes) = .ok (some datagram)
          → datagram.encoded = Data.ofBytes bytes)
      ∧ (∀ bytes,
          (∃ datagram, decode (Data.ofBytes bytes) = .ok (some datagram)) ↔ 9 < bytes.length)
      ∧ ∀ bytes, ∃ result, decode (Data.ofBytes bytes) = .ok result := by
  refine ⟨?_, fun _ _ => encoded_of_decode, ?_, ?_⟩
  · intro datagram nonempty
    exact ⟨_, decode_encoded nonempty, by simp [BEq.beq]⟩
  · intro bytes
    rcases decode_ofBytes_cases bytes with ⟨short, rejected⟩ | ⟨long, datagram, decoded, -⟩
    · simp [rejected, short]
    · exact ⟨fun _ => long, fun _ => ⟨datagram, decoded⟩⟩
  · intro bytes
    rcases decode_ofBytes_cases bytes with ⟨-, rejected⟩ | ⟨-, datagram, decoded, -⟩
    · exact ⟨none, rejected⟩
    · exact ⟨some datagram, decoded⟩

end Datagram

end AgriGuardian.BLE
