import Mathlib.Data.List.Range
import AgriGuardian.Basis.Assembly
import AgriGuardian.BLE.Datagram

/-! Messages and their fragmentation into datagrams.
`DatagramView` is embedded with the machine integer operations of its initializer and its
subscript; on the sizes the sender uses it is the list `fragments`.
-/

namespace AgriGuardian.BLE

open Swift
open Basis

/-- The bytes a datagram puts into the message it belongs to, and where. -/
def Datagram.write (datagram : Datagram) : Write UInt8 :=
  ⟨datagram.header.offset.toNat, datagram.payload.bytes⟩

structure Message where
  key : UInt8
  data : Data
  deriving DecidableEq, Repr

namespace Message

instance : BEq Message where
  beq lhs rhs := lhs.key == rhs.key && lhs.data == rhs.data

structure DatagramView where
  message : Message
  datagramMaxSize : ℤ
  payloadMaxSize : ℤ
  endIndex : ℤ

namespace DatagramView

def startIndex (_ : DatagramView) : ℤ := 0

def init (message : Message) (datagramMaxSize : MachineInt) : Checked DatagramView := do
  let payloadMaxSize ← checkedInt (datagramMaxSize - Datagram.Header.byteCount)
  let rest ← remainder message.data.count payloadMaxSize
  let whole ← quotient message.data.count payloadMaxSize
  let endIndex ← (if 0 = rest then .ok whole else checkedInt (1 + whole))
  .ok ⟨message, datagramMaxSize, payloadMaxSize, endIndex⟩

/-- `self[index]`. -/
def subscript (view : DatagramView) (index : ℤ) : Checked Datagram := do
  let offset ← checkedInt (index * view.payloadMaxSize)
  let full ← checkedInt (offset + view.payloadMaxSize)
  let stop := min full view.message.data.count
  let offset32 ← toUInt32 offset
  let messageLength ← toUInt32 view.message.data.count
  let payload ← view.message.data.slice offset stop
  .ok ⟨⟨view.message.key, offset32, messageLength⟩, payload⟩

/-- The elements of the collection, at the indices `startIndex ..< endIndex`. -/
def elements (view : DatagramView) : Checked (List Datagram) :=
  if view.endIndex < view.startIndex then .error .invalidRange
  else (List.range view.endIndex.toNat).mapM (fun (index : ℕ) => view.subscript index)

end DatagramView

def datagrams (message : Message) (datagramMaxSize : MachineInt) : Checked DatagramView :=
  DatagramView.init message datagramMaxSize

-----------------------------------------------------------------------------------------
-- The fragments of a message, without machine integers
-----------------------------------------------------------------------------------------

/-- The number of fragments of at most `size` bytes. -/
def fragmentCount (length size : ℕ) : ℕ :=
  if length % size = 0 then length / size else 1 + length / size

/-- The fragment at an index: the bytes from `index * size` on, at most `size` of them. -/
def fragment (message : Message) (size index : ℕ) : Datagram where
  header := ⟨message.key, UInt32.ofNat (index * size), UInt32.ofNat message.data.count⟩
  payload := ⟨index * size, (message.data.bytes.drop (index * size)).take size⟩

def fragments (message : Message) (size : ℕ) : List Datagram :=
  (List.range (fragmentCount message.data.count size)).map (fragment message size)

/-- An index is in range exactly when its fragment starts within the message. -/
theorem lt_fragmentCount_iff {length size index : ℕ} (positive : 0 < size)
    : index < fragmentCount length size ↔ index * size < length := by
  have parts := Nat.div_add_mod length size
  have small := Nat.mod_lt length positive
  rw [Nat.mul_comm size] at parts
  have step : (length / size + 1) * size = length / size * size + size := Nat.succ_mul _ _
  unfold fragmentCount
  split
  · rename_i exact
    constructor
    · intro below
      have := Nat.mul_lt_mul_of_pos_right below positive
      omega
    · intro within
      by_contra above
      have := Nat.mul_le_mul_right size (Nat.le_of_not_lt above)
      omega
  · rename_i leftover
    constructor
    · intro below
      have := Nat.mul_le_mul_right size (show index ≤ length / size by omega)
      omega
    · intro within
      by_contra above
      have := Nat.mul_le_mul_right size (show length / size + 1 ≤ index by omega)
      omega

-----------------------------------------------------------------------------------------
-- On sizes with room for a payload the collection is the list of fragments
-----------------------------------------------------------------------------------------

/-- A size above that of the header leaves room for a payload. -/
theorem exists_payloadSize {datagramMaxSize : MachineInt} (room : 9 < datagramMaxSize.val)
    : ∃ size : ℕ, datagramMaxSize.val = size + 9 ∧ 0 < size :=
  ⟨(datagramMaxSize.val - 9).toNat, by omega, by omega⟩

/-- The view the initializer builds when a datagram has room for `size` payload bytes. -/
theorem datagrams_eq (message : Message) {datagramMaxSize : MachineInt} {size : ℕ}
    (room : datagramMaxSize.val = size + 9) (positive : 0 < size)
    (small : message.data.count < 2 ^ 32)
    : message.datagrams datagramMaxSize
      = .ok ⟨message, datagramMaxSize, size, fragmentCount message.data.count size⟩ := by
  have range := datagramMaxSize.property
  have payloadMaxSize
      : checkedInt (datagramMaxSize - Datagram.Header.byteCount) = .ok (size : ℤ) := by
    rw [show (datagramMaxSize : ℤ) - Datagram.Header.byteCount = size by
      simp only [Datagram.Header.byteCount]; omega]
    exact checkedInt_of_range (by unfold IntRange at *; omega)
  have nonzero : (size : ℤ) ≠ 0 := by omega
  have wholeSmall : message.data.count / size ≤ message.data.count := Nat.div_le_self _ _
  have rest : remainder message.data.count size = .ok ((message.data.count % size : ℕ) : ℤ) := by
    rw [remainder, if_neg nonzero, Int.tmod_eq_emod_of_nonneg (by omega), Int.natCast_mod]
  have whole : quotient message.data.count size = .ok ((message.data.count / size : ℕ) : ℤ) := by
    rw [quotient, if_neg nonzero, Int.natCast_tdiv_eq_ediv, ← Int.natCast_ediv]
    generalize message.data.count / size = whole at wholeSmall
    exact checkedInt_of_range (by unfold IntRange; omega)
  simp only [datagrams, DatagramView.init, payloadMaxSize, rest, whole, ok_bind]
  by_cases exact : message.data.count % size = 0
  · simp [fragmentCount, exact]
  · have more : checkedInt (1 + ((message.data.count / size : ℕ) : ℤ))
        = .ok ((1 + message.data.count / size : ℕ) : ℤ) := by
      rw [Nat.cast_add, Nat.cast_one]
      generalize message.data.count / size = whole at wholeSmall
      exact checkedInt_of_range (by unfold IntRange; omega)
    have leftover : ¬ (0 : ℤ) = ((message.data.count % size : ℕ) : ℤ) := by omega
    rw [if_neg leftover, more, fragmentCount, if_neg exact]
    rfl

/-- In range, only cutting the slice out of the data is left to trap. -/
theorem subscript_eq_slice (message : Message) {datagramMaxSize : MachineInt} {size : ℕ}
    (room : datagramMaxSize.val = size + 9) (small : message.data.count < 2 ^ 32) {count : ℤ}
    {index : ℕ} (within : index * size < message.data.count)
    : DatagramView.subscript ⟨message, datagramMaxSize, size, count⟩ index
      = (do
          let payload ←
            message.data.slice ((index * size : ℕ) : ℤ)
              ((min (index * size + size) message.data.count : ℕ) : ℤ)
          .ok ⟨⟨message.key, UInt32.ofNat (index * size), UInt32.ofNat message.data.count⟩,
            payload⟩) := by
  have range := datagramMaxSize.property
  have offset : checkedInt ((index : ℤ) * (size : ℤ)) = .ok ((index * size : ℕ) : ℤ) := by
    rw [← Nat.cast_mul]
    exact checkedInt_of_range (by unfold IntRange; omega)
  have bound : (index * size : ℕ) + (size : ℤ) < 2 ^ 63 := by
    -- A first fragment may be as large as the datagram size allows; a later one is not.
    rcases Nat.eq_zero_or_pos index with rfl | later
    · unfold IntRange at range
      omega
    · have := Nat.le_mul_of_pos_left size later
      omega
  have full
      : checkedInt ((index * size : ℕ) + (size : ℤ)) = .ok ((index * size + size : ℕ) : ℤ) := by
    rw [Nat.cast_add]
    exact checkedInt_of_range (by unfold IntRange; omega)
  have stop : min ((index * size + size : ℕ) : ℤ) (message.data.count : ℤ)
      = ((min (index * size + size) message.data.count : ℕ) : ℤ) := by
    rw [Nat.cast_min]
  have offset32 := toUInt32_natCast (show index * size < 2 ^ 32 by omega)
  have messageLength := toUInt32_natCast small
  simp only [DatagramView.subscript, offset, ok_bind, full, stop, offset32, messageLength]

/-- The subscript returns the fragment at every index in range, without trapping. -/
theorem subscript_eq {message : Message} (based : message.data.startIndex = 0)
    {datagramMaxSize : MachineInt} {size : ℕ} (room : datagramMaxSize.val = size + 9)
    (small : message.data.count < 2 ^ 32) {count : ℤ} {index : ℕ}
    (within : index * size < message.data.count)
    : DatagramView.subscript ⟨message, datagramMaxSize, size, count⟩ index
      = .ok (message.fragment size index) := by
  have ordered : index * size ≤ min (index * size + size) message.data.count := by omega
  have inside : min (index * size + size) message.data.count ≤ message.data.bytes.length :=
    min_le_right _ _
  have taken
      : (message.data.bytes.drop (index * size)).take
          (min (index * size + size) message.data.count - index * size)
        = (message.data.bytes.drop (index * size)).take size := by
    apply List.take_eq_take_iff.mpr
    rw [List.length_drop, Data.count]
    omega
  have cut := Data.slice_ofBytes ordered inside
  rw [← Data.eq_ofBytes based, taken] at cut
  rw [subscript_eq_slice message room small within, cut, ok_bind, fragment]

/-- The collection has exactly the fragments as its elements. -/
theorem elements_eq {message : Message} (based : message.data.startIndex = 0)
    {datagramMaxSize : MachineInt} {size : ℕ} (room : datagramMaxSize.val = size + 9)
    (positive : 0 < size) (small : message.data.count < 2 ^ 32)
    : DatagramView.elements
        ⟨message, datagramMaxSize, size, fragmentCount message.data.count size⟩
      = .ok (message.fragments size) := by
  rw [DatagramView.elements, if_neg (by simp [DatagramView.startIndex])]
  exact mapM_of_ok (fun index member =>
    subscript_eq based room small
      ((lt_fragmentCount_iff positive).mp (by simpa using member)))

/-- A split that returned any datagram at all was of data indexed from 0, of a size with room
for a payload. Witness: the first subscript already checks the index base, the sign of the
size and the length.
-/
theorem room_of_elements {message : Message} {datagramMaxSize : MachineInt}
    {view : DatagramView} {sent : List Datagram}
    (created : message.datagrams datagramMaxSize = .ok view)
    (split : view.elements = .ok sent) (nonempty : sent ≠ [])
    : message.data.startIndex = 0
      ∧ message.data.count < 2 ^ 32
      ∧ ∃ size : ℕ, 0 < size ∧ datagramMaxSize.val = size + 9 := by
  have opened := created
  simp only [datagrams, DatagramView.init, bind_eq_ok] at opened
  obtain ⟨payloadMaxSize, subtracted, rest, divided, whole, -, endIndex, -, viewEq⟩ := opened
  have sizeEq := checkedInt_eq_ok subtracted
  have nonzero : payloadMaxSize ≠ 0 := by
    intro zero
    simp [remainder, zero] at divided
  obtain rfl := (Except.ok.inj viewEq).symm
  have collected := split
  unfold DatagramView.elements at collected
  split at collected
  · cases collected
  have reaches : 0 < endIndex.toNat := by
    by_contra empty
    have zero : endIndex.toNat = 0 := by omega
    simp only [zero, List.range_zero, List.mapM_nil, pure_eq_ok, Except.ok.injEq] at collected
    exact nonempty collected.symm
  obtain ⟨first, firstRead⟩ := mapM_eq_ok collected 0 (by simpa using reaches)
  simp only [DatagramView.subscript, bind_eq_ok] at firstRead
  obtain ⟨offset, offsetOk, full, fullOk, _, _, _, lengthOk, payload, sliced, -⟩ := firstRead
  have offsetEq := checkedInt_eq_ok offsetOk
  have fullEq := checkedInt_eq_ok fullOk
  obtain ⟨-, small, -⟩ := toUInt32_eq_ok lengthOk
  obtain ⟨ordered, based, -, -⟩ := Data.slice_eq_ok sliced
  simp only [Nat.cast_zero, zero_mul] at offsetEq
  subst offsetEq
  have size : payloadMaxSize = (payloadMaxSize.toNat : ℤ) := by omega
  have positive : 0 < payloadMaxSize.toNat := by omega
  have room : datagramMaxSize.val = payloadMaxSize.toNat + 9 := by
    simp only [Datagram.Header.byteCount] at sizeEq
    omega
  exact ⟨by omega, by omega, payloadMaxSize.toNat, positive, room⟩

/-- A split that returned any datagram at all was a split into fragments. -/
theorem fragments_of_elements {message : Message} {datagramMaxSize : MachineInt}
    {view : DatagramView} {sent : List Datagram}
    (created : message.datagrams datagramMaxSize = .ok view)
    (split : view.elements = .ok sent) (nonempty : sent ≠ [])
    : message.data.startIndex = 0
      ∧ message.data.count < 2 ^ 32
      ∧ ∃ size, 0 < size ∧ sent = message.fragments size := by
  obtain ⟨based, small, size, positive, room⟩ := room_of_elements created split nonempty
  refine ⟨based, small, size, positive, ?_⟩
  have viewed := (datagrams_eq message room positive small).symm.trans created
  rw [← Except.ok.inj viewed, elements_eq based room positive small] at split
  exact (Except.ok.inj split).symm

/-- The datagram carries a true, non-empty part of the message under its key. -/
structure Piece (message : Message) (datagram : Datagram) : Prop where
  key : datagram.header.key = message.key
  messageLength : datagram.header.messageLength.toNat = message.data.count
  nonempty : datagram.payload.bytes ≠ []
  slice : datagram.write.SliceOf message.data.bytes

/-- The fragment at an index of the list starts within the message. -/
theorem getElem?_fragments {message : Message} {size index : ℕ} (positive : 0 < size)
    {datagram : Datagram} (found : (message.fragments size)[index]? = some datagram)
    : index * size < message.data.count ∧ datagram = message.fragment size index := by
  rw [fragments, List.getElem?_map, Option.map_eq_some_iff] at found
  obtain ⟨other, atIndex, rfl⟩ := found
  obtain ⟨inRange, rfl⟩ := List.getElem?_eq_some_iff.mp atIndex
  rw [List.length_range] at inRange
  rw [List.getElem_range]
  exact ⟨(lt_fragmentCount_iff positive).mp inRange, rfl⟩

theorem mem_fragments {message : Message} {size : ℕ} (positive : 0 < size) {datagram : Datagram}
    : datagram ∈ message.fragments size
      ↔ ∃ index, index * size < message.data.count ∧ datagram = message.fragment size index := by
  simp only [fragments, List.mem_map, List.mem_range, lt_fragmentCount_iff positive, eq_comm]

/-- The fragments of a message are pairwise different: they start at different indices. -/
theorem nodup_fragments (message : Message) {size : ℕ} (positive : 0 < size)
    : (message.fragments size).Nodup := by
  refine List.Nodup.map ?_ List.nodup_range
  intro left right same
  have starts : left * size = right * size :=
    congrArg (fun datagram => datagram.payload.startIndex) same
  exact Nat.eq_of_mul_eq_mul_right positive starts

/-- The indices below the message length that a fragment covers. -/
theorem mem_range_fragment {message : Message} (small : message.data.count < 2 ^ 32)
    {size fragmentIndex index : ℕ} (within : fragmentIndex * size < message.data.count)
    (inside : index < message.data.count)
    : index ∈ (message.fragment size fragmentIndex).write.range
      ↔ fragmentIndex * size ≤ index ∧ index < fragmentIndex * size + size := by
  have offset : (UInt32.ofNat (fragmentIndex * size)).toNat = fragmentIndex * size :=
    UInt32.toNat_ofNat_of_lt' (by change _ < 2 ^ 32; omega)
  simp only [Data.count] at inside
  simp only [Write.mem_range, Write.stop, Datagram.write, fragment, offset, List.length_take,
    List.length_drop]
  omega

theorem piece_of_mem_fragments {message : Message} {size : ℕ} (positive : 0 < size)
    (small : message.data.count < 2 ^ 32) {datagram : Datagram}
    (member : datagram ∈ message.fragments size)
    : Piece message datagram := by
  obtain ⟨index, within, rfl⟩ := (mem_fragments positive).mp member
  have offset : (UInt32.ofNat (index * size)).toNat = index * size :=
    UInt32.toNat_ofNat_of_lt' (by change _ < 2 ^ 32; omega)
  simp only [Data.count] at within
  refine ⟨rfl, UInt32.toNat_ofNat_of_lt' small, ?_, ?_, ?_⟩
  · apply List.ne_nil_of_length_pos
    simp only [fragment, List.length_take, List.length_drop]
    omega
  · simp only [Write.stop, Datagram.write, fragment, offset, List.length_take, List.length_drop]
    omega
  · simp only [Datagram.write, fragment, offset, List.length_take, List.length_drop]
    apply List.take_eq_take_iff.mpr
    rw [List.length_drop]
    omega

/-- A list of fragments covers the message exactly when every fragment occurs in it.
Witness: the first index of a fragment lies in no other one, and an index below the
length lies in the fragment its quotient selects.
-/
theorem remaining_fragments_eq_empty_iff {message : Message} {size : ℕ} (positive : 0 < size)
    (small : message.data.count < 2 ^ 32) {received : List Datagram}
    (genuine : ∀ datagram ∈ received, datagram ∈ message.fragments size)
    : remaining message.data.count (received.map Datagram.write) = ∅
      ↔ ∀ datagram ∈ message.fragments size, datagram ∈ received := by
  constructor
  · intro complete datagram member
    obtain ⟨index, within, rfl⟩ := (mem_fragments positive).mp member
    by_contra absent
    have left : index * size ∈ remaining message.data.count (received.map Datagram.write) := by
      simp only [mem_remaining, List.mem_map, forall_exists_index, and_imp,
        forall_apply_eq_imp_iff₂]
      refine ⟨within, ?_⟩
      intro other otherMember written
      obtain ⟨otherIndex, otherWithin, rfl⟩ :=
        (mem_fragments positive).mp (genuine other otherMember)
      obtain ⟨lower, upper⟩ := (mem_range_fragment small otherWithin within).mp written
      have same : otherIndex = index := by
        have notBelow : ¬ otherIndex + 1 ≤ index := by
          intro below
          have := Nat.mul_le_mul_right size below
          rw [Nat.succ_mul] at this
          omega
        have notAbove := Nat.le_of_mul_le_mul_right lower positive
        omega
      exact absent (same ▸ otherMember)
    simp [complete] at left
  · intro all
    ext index
    simp only [mem_remaining, Finset.notMem_empty, iff_false, not_and]
    intro inside untouched
    have split := Nat.div_add_mod index size
    have small' := Nat.mod_lt index positive
    rw [Nat.mul_comm] at split
    have within : index / size * size < message.data.count := by omega
    have member := (mem_fragments positive).mpr ⟨index / size, within, rfl⟩
    refine untouched _ (List.mem_map_of_mem (all _ member)) ?_
    rw [mem_range_fragment small within inside]
    omega

end Message

end AgriGuardian.BLE
