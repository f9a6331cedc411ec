import Mathlib.Data.Finset.Lattice.Fold
import Mathlib.Order.Interval.Finset.Nat

/-! Filling a buffer by writes that may overlap, repeat and arrive in any order.
The state of a filling is described by the list of writes so far: which indices they
cover, and which write was the latest at each index.
-/

namespace Basis

/-- Elements written from an offset on. -/
structure Write (α : Type*) where
  offset : ℕ
  payload : List α
  deriving DecidableEq

variable {α : Type*}

namespace Write

/-- The first index after the write. -/
def stop (write : Write α) : ℕ := write.offset + write.payload.length

/-- The indices written. -/
def range (write : Write α) : Finset ℕ := Finset.Ico write.offset write.stop

/-- The buffer after the write. -/
def patch (buffer : List α) (write : Write α) : List α :=
  buffer.take write.offset ++ write.payload ++ buffer.drop write.stop

/-- The write is a part of `target` at its place. -/
def SliceOf (target : List α) (write : Write α) : Prop :=
  write.stop ≤ target.length
  ∧ write.payload = (target.drop write.offset).take write.payload.length

theorem mem_range {write : Write α} {index : ℕ}
    : index ∈ write.range ↔ write.offset ≤ index ∧ index < write.stop :=
  Finset.mem_Ico

/-- Every index of a write has an element. -/
theorem exists_of_mem_range {write : Write α} {index : ℕ} (written : index ∈ write.range)
    : ∃ element, write.payload[index - write.offset]? = some element := by
  have bounds := mem_range.mp written
  have read : index - write.offset < write.payload.length := by
    simp only [stop] at bounds
    omega
  exact ⟨_, List.getElem?_eq_getElem read⟩

theorem length_patch {buffer : List α} {write : Write α} (within : write.stop ≤ buffer.length)
    : (patch buffer write).length = buffer.length := by
  simp only [stop] at within
  simp only [patch, stop, List.length_append, List.length_take, List.length_drop]
  omega

/-- A write changes the indices it covers and no others. Witness: the index lies in one of
the three parts the patched buffer is glued from.
-/
theorem getElem?_patch {buffer : List α} {write : Write α} (within : write.stop ≤ buffer.length)
    (index : ℕ)
    : (patch buffer write)[index]?
      = if index ∈ write.range then write.payload[index - write.offset]? else buffer[index]? := by
  simp only [stop] at within
  have front : (buffer.take write.offset).length = write.offset := by
    rw [List.length_take]
    omega
  simp only [patch, mem_range, stop, List.append_assoc]
  by_cases early : index < write.offset
  · rw [if_neg (by omega), List.getElem?_append_left (by omega), List.getElem?_take, if_pos early]
  · rw [List.getElem?_append_right (by omega), front]
    by_cases inside : index < write.offset + write.payload.length
    · rw [if_pos (by omega), List.getElem?_append_left (by omega)]
    · rw [if_neg (by omega), List.getElem?_append_right (by omega), List.getElem?_drop]
      congr 1
      omega

/-- A slice writes the target's own elements. -/
theorem SliceOf.getElem? {target : List α} {write : Write α} (slice : write.SliceOf target)
    {index : ℕ} (written : index ∈ write.range)
    : write.payload[index - write.offset]? = target[index]? := by
  rw [mem_range, stop] at written
  rw [slice.2, List.getElem?_take_of_lt (by omega), List.getElem?_drop]
  congr 1
  omega

end Write

/-- The indices some write covers. -/
def covered (writes : List (Write α)) : Finset ℕ :=
  writes.foldr (fun write indices => write.range ∪ indices) ∅

@[simp]
theorem mem_covered {writes : List (Write α)} {index : ℕ}
    : index ∈ covered writes ↔ ∃ write ∈ writes, index ∈ write.range := by
  induction writes with
  | nil => simp [covered]
  | cons write rest ih =>
      have unfolded : covered (write :: rest) = write.range ∪ covered rest := rfl
      rw [unfolded, Finset.mem_union, ih]
      simp

/-- The indices below `count` that no write covers yet. -/
def remaining (count : ℕ) (writes : List (Write α)) : Finset ℕ :=
  Finset.range count \ covered writes

@[simp]
theorem mem_remaining {count : ℕ} {writes : List (Write α)} {index : ℕ}
    : index ∈ remaining count writes ↔ index < count ∧ ∀ write ∈ writes, index ∉ write.range := by
  simp [remaining]

@[simp]
theorem remaining_nil (count : ℕ) : remaining count ([] : List (Write α)) = Finset.range count := by
  ext index
  simp

/-- One more write removes its own range from what remains. -/
theorem remaining_append_singleton (count : ℕ) (writes : List (Write α)) (write : Write α)
    : remaining count (writes ++ [write]) = remaining count writes \ write.range := by
  ext index
  simp only [mem_remaining, Finset.mem_sdiff, List.forall_mem_append, List.forall_mem_singleton,
    and_assoc]

/-- Further writes leave nothing more to be covered. -/
theorem remaining_append_subset (count : ℕ) (writes more : List (Write α))
    : remaining count (writes ++ more) ⊆ remaining count writes := by
  intro index
  simp only [mem_remaining, List.forall_mem_append]
  exact fun ⟨inside, untouched, _⟩ => ⟨inside, untouched⟩

/-- Writes within a buffer leave nothing uncovered exactly when they cover its indices. -/
theorem remaining_eq_empty_iff {count : ℕ} {writes : List (Write α)}
    (within : ∀ write ∈ writes, write.stop ≤ count)
    : remaining count writes = ∅ ↔ covered writes = Finset.range count := by
  have inside : covered writes ⊆ Finset.range count := by
    intro index found
    obtain ⟨write, member, written⟩ := mem_covered.mp found
    have stops := within write member
    have below := (Write.mem_range.mp written).2
    exact Finset.mem_range.mpr (by omega)
  rw [remaining, Finset.sdiff_eq_empty_iff_subset]
  exact ⟨fun all => inside.antisymm all, fun same => same.ge⟩

/-- The element the latest write covering an index put there. -/
def latest (writes : List (Write α)) (index : ℕ) : Option α :=
  (writes.reverse.find? (fun write => index ∈ write.range)).bind
    (fun write => write.payload[index - write.offset]?)

theorem latest_append_singleton (writes : List (Write α)) (write : Write α) (index : ℕ)
    : latest (writes ++ [write]) index
      = if index ∈ write.range then write.payload[index - write.offset]?
        else latest writes index := by
  by_cases written : index ∈ write.range
  · simp [latest, written]
  · simp [latest, written]

/-- An index that is covered has a latest write. -/
theorem exists_latest {writes : List (Write α)} {index : ℕ} (found : index ∈ covered writes)
    : ∃ element, latest writes index = some element := by
  induction writes using List.reverseRecOn with
  | nil => simp [covered] at found
  | append_singleton writes write ih =>
      rw [latest_append_singleton]
      by_cases written : index ∈ write.range
      · rw [if_pos written]
        exact Write.exists_of_mem_range written
      · rw [if_neg written]
        apply ih
        obtain ⟨other, member, otherWritten⟩ := mem_covered.mp found
        rcases List.mem_append.mp member with earlier | last
        · exact mem_covered.mpr ⟨other, earlier, otherWritten⟩
        · exact absurd (List.mem_singleton.mp last ▸ otherWritten) written

/-- The buffer of `count` copies of `default` after the writes. -/
def filled (count : ℕ) (default : α) (writes : List (Write α)) : List α :=
  writes.foldl Write.patch (List.replicate count default)

theorem filled_append_singleton (count : ℕ) (default : α) (writes : List (Write α))
    (write : Write α)
    : filled count default (writes ++ [write])
      = Write.patch (filled count default writes) write := by
  simp [filled, List.foldl_append]

theorem length_filled {count : ℕ} (default : α) {writes : List (Write α)}
    (within : ∀ write ∈ writes, write.stop ≤ count)
    : (filled count default writes).length = count := by
  induction writes using List.reverseRecOn with
  | nil => simp [filled]
  | append_singleton writes write ih =>
      have earlier := ih (fun other member => within other (by simp [member]))
      have fits : write.stop ≤ (filled count default writes).length :=
        earlier.symm ▸ within write (by simp)
      rw [filled_append_singleton, Write.length_patch fits, earlier]

/-- Every index of a filled buffer holds what the latest write covering it put there.
Witness: induction from the right, where the last write is the latest one.
-/
theorem getElem?_filled {count : ℕ} (default : α) {writes : List (Write α)}
    (within : ∀ write ∈ writes, write.stop ≤ count) {index : ℕ} (inside : index < count)
    : (filled count default writes)[index]? = some ((latest writes index).getD default) := by
  induction writes using List.reverseRecOn with
  | nil => simp [filled, latest, inside]
  | append_singleton writes write ih =>
      have earlier : ∀ other ∈ writes, other.stop ≤ count :=
        fun other member => within other (by simp [member])
      have fits : write.stop ≤ (filled count default writes).length :=
        (length_filled default earlier).symm ▸ within write (by simp)
      rw [filled_append_singleton, Write.getElem?_patch fits, latest_append_singleton]
      by_cases written : index ∈ write.range
      · obtain ⟨element, here⟩ := Write.exists_of_mem_range written
        simp [written, here]
      · simp [written, ih earlier]

/-- Slices that leave nothing uncovered fill the buffer with the target. -/
theorem filled_eq_of_slices {target : List α} (default : α) {writes : List (Write α)}
    (slices : ∀ write ∈ writes, write.SliceOf target)
    (complete : remaining target.length writes = ∅)
    : filled target.length default writes = target := by
  have within : ∀ write ∈ writes, write.stop ≤ target.length :=
    fun write member => (slices write member).1
  apply List.ext_getElem?
  intro index
  by_cases inside : index < target.length
  · rw [getElem?_filled default within inside]
    have found : index ∈ covered writes := by
      by_contra uncovered
      have left : index ∈ remaining target.length writes := by
        simpa [remaining, inside] using uncovered
      simp [complete] at left
    obtain ⟨write, member, written⟩ := mem_covered.mp found
    have reversed : (writes.reverse.find? (fun write => index ∈ write.range)).isSome := by
      rw [List.find?_isSome]
      exact ⟨write, by simp [member], by simpa using written⟩
    obtain ⟨last, lastFound⟩ := Option.isSome_iff_exists.mp reversed
    have lastMember : last ∈ writes := by simpa using List.mem_of_find?_eq_some lastFound
    have lastWritten : index ∈ last.range := by simpa using List.find?_some lastFound
    have read := (slices last lastMember).getElem? lastWritten
    simp [latest, lastFound, read, List.getElem?_eq_getElem inside]
  · have long := length_filled default within
    rw [List.getElem?_eq_none (by omega), List.getElem?_eq_none (by omega)]

/-- The first chunks of a list are its beginning. -/
theorem flatMap_chunks (elements : List α) (size count : ℕ)
    : (List.range count).flatMap (fun index => (elements.drop (index * size)).take size)
      = elements.take (count * size) := by
  induction count with
  | zero => simp
  | succ count ih =>
      rw [List.range_succ, List.flatMap_append, ih, List.flatMap_singleton, Nat.succ_mul,
        List.take_add]

end Basis
