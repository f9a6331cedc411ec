import AgriGuardian.Swift.Runtime

/-! Byte buffers that share one type with their slices.
A slice keeps the indices of its base, so every index is absolute; equality, counting
and appending look at the bytes alone.
-/

namespace Swift

/-- The bytes at the indices from `startIndex` on. -/
structure Data where
  startIndex : ℕ
  bytes : List UInt8
  deriving DecidableEq, Repr

namespace Data

/-- A buffer indexed from 0. -/
def ofBytes (bytes : List UInt8) : Data := ⟨0, bytes⟩

/-- A copy of the bytes that is indexed from 0. -/
def rebased (data : Data) : Data := ofBytes data.bytes

/-- `Data(count:)`, filled with zeros. -/
def zeros (count : ℕ) : Data := ofBytes (List.replicate count 0)

def count (data : Data) : ℕ := data.bytes.length

def endIndex (data : Data) : ℕ := data.startIndex + data.count

/-- `==` compares bytes, whatever the indices. -/
instance : BEq Data where
  beq left right := decide (left.bytes = right.bytes)

/-- `data[index]`. -/
def byteAt (data : Data) (index : ℤ) : Checked UInt8 :=
  if data.startIndex ≤ index then
    match data.bytes[(index - data.startIndex).toNat]? with
    | some byte => .ok byte
    | none => .error .indexOutOfRange
  else .error .indexOutOfRange

/-- `data[lower ..< upper]`. Forming the range traps when it is reversed. -/
def slice (data : Data) (lower upper : ℤ) : Checked Data :=
  if upper < lower then .error .invalidRange
  else if data.startIndex ≤ lower ∧ upper ≤ data.endIndex then
    .ok ⟨lower.toNat,
      (data.bytes.drop (lower - data.startIndex).toNat).take (upper - lower).toNat⟩
  else .error .indexOutOfRange

def append (data : Data) (bytes : List UInt8) : Data :=
  { data with bytes := data.bytes ++ bytes }

/-- `data.replaceSubrange(lower ..< upper, with:)`, which traps unless the subrange lies
within the data.
-/
def replaceSubrange (data : Data) (lower upper : ℕ) (replacement : List UInt8)
    : Checked Data :=
  if data.startIndex ≤ lower ∧ lower ≤ upper ∧ upper ≤ data.endIndex then
    .ok
      { data with
        bytes := data.bytes.take (lower - data.startIndex) ++ replacement
          ++ data.bytes.drop (upper - data.startIndex) }
  else .error .indexOutOfRange

@[simp]
theorem count_ofBytes (bytes : List UInt8) : (ofBytes bytes).count = bytes.length :=
  rfl

@[simp]
theorem bytes_ofBytes (bytes : List UInt8) : (ofBytes bytes).bytes = bytes :=
  rfl

@[simp]
theorem startIndex_ofBytes (bytes : List UInt8) : (ofBytes bytes).startIndex = 0 :=
  rfl

/-- A buffer indexed from 0 is determined by its bytes. -/
theorem eq_ofBytes {data : Data} (based : data.startIndex = 0) : data = ofBytes data.bytes := by
  cases data
  simp_all [ofBytes]

theorem rebased_of_based {data : Data} (based : data.startIndex = 0) : data.rebased = data :=
  (eq_ofBytes based).symm

/-- An index that can be read is not before the first one. -/
theorem byteAt_eq_ok {data : Data} {index : ℤ} {byte : UInt8}
    (read : data.byteAt index = .ok byte)
    : data.startIndex ≤ index := by
  unfold byteAt at read
  split at read
  · assumption
  · cases read

/-- Reading within a buffer indexed from 0. -/
theorem byteAt_ofBytes {bytes : List UInt8} {index : ℕ} {byte : UInt8}
    (found : bytes[index]? = some byte)
    : (ofBytes bytes).byteAt index = .ok byte := by
  simp [byteAt, ofBytes, found]

/-- Slicing within a buffer indexed from 0. -/
theorem slice_ofBytes {bytes : List UInt8} {lower upper : ℕ} (ordered : lower ≤ upper)
    (within : upper ≤ bytes.length)
    : (ofBytes bytes).slice lower upper
      = .ok ⟨lower, (bytes.drop lower).take (upper - lower)⟩ := by
  have notReversed : ¬ (upper : ℤ) < lower := by omega
  have inside : (((ofBytes bytes).startIndex : ℤ) ≤ lower
      ∧ (upper : ℤ) ≤ (ofBytes bytes).endIndex) := by
    simp [endIndex, within]
  rw [slice, if_neg notReversed, if_pos inside]
  simp [ofBytes]

/-- A returning slice lay within the data, in order. -/
theorem slice_eq_ok {data part : Data} {lower upper : ℤ}
    (returned : data.slice lower upper = .ok part)
    : lower ≤ upper
      ∧ data.startIndex ≤ lower
      ∧ upper ≤ data.endIndex
      ∧ part = ⟨lower.toNat,
          (data.bytes.drop (lower - data.startIndex).toNat).take (upper - lower).toNat⟩ := by
  unfold slice at returned
  split at returned
  · cases returned
  · split at returned
    · rename_i ordered inside
      exact ⟨by omega, inside.1, inside.2, (Except.ok.inj returned).symm⟩
    · cases returned

end Data

end Swift
