import AgriGuardian.BLE.Message

/-! The sizes for which the arithmetic of the fragmenter is safe.
The payload size is the datagram size less the header, unchecked: it can be zero, which the
division traps on, or negative. With a negative size the number of datagrams is one less the
quotient of the lengths, unless the division is exact.
-/

namespace AgriGuardian.BLE.Message

open Swift
open Basis

/-- The subscript returns, or all that stops it is that the slice is not in the data. -/
def NoArithmeticTrap (result : Checked Datagram) : Prop :=
  ∀ trap, result = .error trap → trap = .indexOutOfRange

/-- The view is constructed, its indices are in order, and at each of them the subscript has
the property.
-/
def SafeUpTo (property : Checked Datagram → Prop) (message : Message)
    (datagramMaxSize : MachineInt)
    : Prop :=
  ∃ view,
    message.datagrams datagramMaxSize = .ok view
    ∧ view.startIndex ≤ view.endIndex
    ∧ ∀ index, view.startIndex ≤ index → index < view.endIndex → property (view.subscript index)

/-- No multiplication, range or conversion traps. -/
def ArithmeticSafe : Message → MachineInt → Prop := SafeUpTo NoArithmeticTrap

/-- Nothing traps, the slices of the data included. -/
def SubscriptsReturn : Message → MachineInt → Prop :=
  SafeUpTo fun result => ∃ datagram, result = .ok datagram

/-- There is room for a payload; or the room is negative, without overflow, and the data is
empty or longer than the missing room and shorter than twice that.
-/
def SafeSize (length : ℕ) (datagramMaxSize : ℤ) : Prop :=
  9 < datagramMaxSize
  ∨ -2 ^ 63 + 9 ≤ datagramMaxSize
    ∧ datagramMaxSize < 9
    ∧ (length = 0 ∨ 9 - datagramMaxSize < length ∧ length < 2 * (9 - datagramMaxSize))

/-- A view without datagrams is safe in every sense. -/
theorem safeUpTo_of_empty {property : Checked Datagram → Prop} {message : Message}
    {datagramMaxSize : MachineInt} {view : DatagramView}
    (created : message.datagrams datagramMaxSize = .ok view) (empty : view.endIndex = 0)
    : SafeUpTo property message datagramMaxSize := by
  refine ⟨view, created, empty.ge, fun index from' below => ?_⟩
  rw [DatagramView.startIndex] at from'
  omega

/-- The view for a size that lacks `missing` bytes even for the header. -/
theorem datagrams_eq_of_lt_header (message : Message) {datagramMaxSize : MachineInt}
    {missing : ℕ} (short : datagramMaxSize.val = 9 - missing) (positive : 0 < missing)
    (inRange : -2 ^ 63 + 9 ≤ datagramMaxSize.val) (few : message.data.count / missing ≤ 2 ^ 63)
    : message.datagrams datagramMaxSize
      = .ok ⟨message, datagramMaxSize, -missing,
          if message.data.count % missing = 0 then -((message.data.count / missing : ℕ) : ℤ)
          else 1 - ((message.data.count / missing : ℕ) : ℤ)⟩ := by
  have payloadMaxSize
      : checkedInt (datagramMaxSize - Datagram.Header.byteCount) = .ok (-missing : ℤ) := by
    rw [show (datagramMaxSize : ℤ) - Datagram.Header.byteCount = -missing by
      simp only [Datagram.Header.byteCount]; omega]
    exact checkedInt_of_range (by unfold IntRange; omega)
  have nonzero : (-missing : ℤ) ≠ 0 := by omega
  have rest
      : remainder message.data.count (-missing)
        = .ok ((message.data.count % missing : ℕ) : ℤ) := by
    rw [remainder, if_neg nonzero, Int.tmod_neg, Int.ofNat_tmod]
  have whole
      : quotient message.data.count (-missing)
        = .ok (-((message.data.count / missing : ℕ) : ℤ)) := by
    rw [quotient, if_neg nonzero, Int.tdiv_neg, ← Int.ofNat_tdiv]
    generalize message.data.count / missing = whole at few
    exact checkedInt_of_range (by unfold IntRange; omega)
  simp only [datagrams, DatagramView.init, payloadMaxSize, rest, whole, ok_bind]
  by_cases exact : message.data.count % missing = 0
  · simp [exact]
  · have leftover : ¬ (0 : ℤ) = ((message.data.count % missing : ℕ) : ℤ) := by omega
    have more
        : checkedInt (1 + -((message.data.count / missing : ℕ) : ℤ))
          = .ok (1 - ((message.data.count / missing : ℕ) : ℤ)) := by
      rw [← sub_eq_add_neg]
      generalize message.data.count / missing = whole at few
      exact checkedInt_of_range (by unfold IntRange; omega)
    rw [if_neg leftover, more, if_neg exact]
    rfl

/-- Below the header size there is a view without datagrams for data in two ranges. -/
theorem exists_empty_view {message : Message} {datagramMaxSize : MachineInt}
    (short : datagramMaxSize.val < 9) (inRange : -2 ^ 63 + 9 ≤ datagramMaxSize.val)
    (lengths
      : message.data.count = 0
        ∨ 9 - datagramMaxSize.val < message.data.count
          ∧ message.data.count < 2 * (9 - datagramMaxSize.val))
    : ∃ view, message.datagrams datagramMaxSize = .ok view ∧ view.endIndex = 0 := by
  obtain ⟨missing, missingEq⟩ : ∃ missing : ℕ, datagramMaxSize.val = 9 - missing :=
    ⟨(9 - datagramMaxSize.val).toNat, by omega⟩
  have positive : 0 < missing := by omega
  rcases lengths with empty | ⟨longer, shorter⟩
  · refine ⟨_, datagrams_eq_of_lt_header message missingEq positive inRange ?_, ?_⟩
    · simp [empty]
    · simp [empty]
  · have one : message.data.count / missing = 1 := Nat.div_eq_of_lt_le (by omega) (by omega)
    have parts := Nat.div_add_mod message.data.count missing
    rw [one, Nat.mul_one] at parts
    refine ⟨_, datagrams_eq_of_lt_header message missingEq positive inRange ?_, ?_⟩
    · rw [one]
      decide
    · simp only
      rw [if_neg (by omega), one]
      rfl

/-- With a negative payload size the range of the first slice is reversed. -/
theorem subscript_zero_of_lt_header {message : Message} {datagramMaxSize : MachineInt}
    {missing : ℕ} (positive : 0 < missing) (inRange : missing ≤ 2 ^ 63)
    (small : message.data.count < 2 ^ 32) (endIndex : ℤ)
    : DatagramView.subscript ⟨message, datagramMaxSize, -missing, endIndex⟩ 0
      = .error .invalidRange := by
  have offset : checkedInt (0 * (-missing : ℤ)) = .ok 0 := by
    rw [zero_mul]
    rfl
  have full : checkedInt (0 + (-missing : ℤ)) = .ok (-missing : ℤ) := by
    rw [zero_add]
    exact checkedInt_of_range (by unfold IntRange; omega)
  have stop : min (-missing : ℤ) (message.data.count : ℤ) = -missing := by omega
  have reversed : message.data.slice 0 (-missing) = .error .invalidRange := by
    rw [Data.slice, if_pos (by omega)]
  have offset32 : toUInt32 0 = .ok 0 := rfl
  simp only [DatagramView.subscript, offset, ok_bind, full, stop, offset32,
    toUInt32_natCast small, reversed, error_bind]

/-- A size for which a view is constructed differs from the header size, and the room it
leaves does not overflow.
-/
theorem range_of_datagrams {message : Message} {datagramMaxSize : MachineInt}
    {view : DatagramView} (created : message.datagrams datagramMaxSize = .ok view)
    : datagramMaxSize.val ≠ 9 ∧ -2 ^ 63 + 9 ≤ datagramMaxSize.val := by
  simp only [datagrams, DatagramView.init, bind_eq_ok] at created
  obtain ⟨payloadMaxSize, subtracted, rest, divided, -⟩ := created
  have range := checkedInt_range subtracted
  have difference := checkedInt_eq_ok subtracted
  simp only [Datagram.Header.byteCount] at difference
  constructor
  · intro header
    have zero : payloadMaxSize = 0 := by omega
    rw [remainder, if_pos zero] at divided
    cases divided
  · unfold IntRange at range
    omega

/-- Below the header size the view is safe exactly for data in the two ranges. -/
theorem safeUpTo_of_lt_header_iff {property : Checked Datagram → Prop}
    (traps : ¬ property (.error .invalidRange)) {message : Message}
    {datagramMaxSize : MachineInt} (short : datagramMaxSize.val < 9)
    (inRange : -2 ^ 63 + 9 ≤ datagramMaxSize.val) (small : message.data.count < 2 ^ 32)
    : SafeUpTo property message datagramMaxSize
      ↔ message.data.count = 0
        ∨ 9 - datagramMaxSize.val < message.data.count
          ∧ message.data.count < 2 * (9 - datagramMaxSize.val) := by
  obtain ⟨missing, missingEq⟩ : ∃ missing : ℕ, datagramMaxSize.val = 9 - missing :=
    ⟨(9 - datagramMaxSize.val).toNat, by omega⟩
  have positive : 0 < missing := by omega
  have few : message.data.count / missing ≤ message.data.count := Nat.div_le_self _ _
  have created := datagrams_eq_of_lt_header message missingEq positive inRange (by omega)
  have parts := Nat.div_add_mod message.data.count missing
  have below := Nat.mod_lt message.data.count positive
  rw [missingEq]
  constructor
  · rintro ⟨view, viewCreated, ordered, subscripts⟩
    obtain rfl := Except.ok.inj (created.symm.trans viewCreated)
    clear created viewCreated
    simp only [DatagramView.startIndex] at ordered subscripts
    generalize message.data.count / missing = whole at parts ordered subscripts
    generalize message.data.count % missing = rest at parts below ordered subscripts
    split at ordered
    · rename_i exact
      have none : whole = 0 := by omega
      rw [none, Nat.mul_zero, exact] at parts
      exact Or.inl parts.symm
    · rename_i leftover
      rw [if_neg leftover] at subscripts
      have few : whole = 0 ∨ whole = 1 := by omega
      rcases few with rfl | rfl
      · have first := subscripts 0 le_rfl (by decide)
        rw [subscript_zero_of_lt_header positive (by omega) small] at first
        exact absurd first traps
      · rw [Nat.mul_one] at parts
        exact Or.inr ⟨by omega, by omega⟩
  · intro lengths
    obtain ⟨view, emptyCreated, empty⟩ :=
      exists_empty_view short inRange (by rw [missingEq]; exact lengths)
    exact safeUpTo_of_empty emptyCreated empty

/-- Above the header size only the slices of the data can trap. -/
theorem arithmeticSafe_of_header_lt {message : Message} {datagramMaxSize : MachineInt}
    (room : 9 < datagramMaxSize.val) (small : message.data.count < 2 ^ 32)
    : ArithmeticSafe message datagramMaxSize := by
  obtain ⟨size, sizeEq, positive⟩ := exists_payloadSize room
  refine ⟨_, message.datagrams_eq sizeEq positive small, Int.natCast_nonneg _, ?_⟩
  intro index from' below
  obtain ⟨index, rfl⟩ := Int.eq_ofNat_of_zero_le from'
  have within := (lt_fragmentCount_iff positive).mp (Int.ofNat_lt.mp below)
  intro trap stopped
  rw [subscript_eq_slice message sizeEq small within] at stopped
  rcases bind_eq_error.mp stopped with cut | ⟨payload, -, returned⟩
  · rw [Data.slice, if_neg (by omega)] at cut
    split at cut
    · cases cut
    · exact (Except.error.inj cut).symm
  · cases returned

/-- Above the header size the subscripts return exactly for data that is indexed from 0, or
empty.
-/
theorem subscriptsReturn_of_header_lt_iff {message : Message} {datagramMaxSize : MachineInt}
    (room : 9 < datagramMaxSize.val) (small : message.data.count < 2 ^ 32)
    : SubscriptsReturn message datagramMaxSize
      ↔ message.data.startIndex = 0 ∨ message.data.count = 0 := by
  obtain ⟨size, sizeEq, positive⟩ := exists_payloadSize room
  have created := message.datagrams_eq sizeEq positive small
  constructor
  · rintro ⟨view, viewCreated, -, subscripts⟩
    obtain rfl := Except.ok.inj (created.symm.trans viewCreated)
    by_cases empty : message.data.count = 0
    · exact Or.inr empty
    · have within : 0 * size < message.data.count := by omega
      have inRange := (lt_fragmentCount_iff positive).mpr within
      obtain ⟨datagram, returned⟩ := subscripts ((0 : ℕ) : ℤ) le_rfl (Int.ofNat_lt.mpr inRange)
      rw [subscript_eq_slice message sizeEq small within] at returned
      obtain ⟨payload, sliced, -⟩ := bind_eq_ok.mp returned
      obtain ⟨-, based, -, -⟩ := Data.slice_eq_ok sliced
      exact Or.inl (by omega)
  · rintro (based | empty)
    · refine ⟨_, created, Int.natCast_nonneg _, fun index from' below => ?_⟩
      obtain ⟨index, rfl⟩ := Int.eq_ofNat_of_zero_le from'
      have within := (lt_fragmentCount_iff positive).mp (Int.ofNat_lt.mp below)
      exact ⟨_, subscript_eq based sizeEq small within⟩
    · refine safeUpTo_of_empty created ?_
      simp [fragmentCount, empty]

/-- The arithmetic is safe exactly on the safe sizes, and then nothing at all traps unless
the data is a nonempty slice that is not indexed from 0.
-/
theorem datagrams_safe_iff {message : Message} (datagramMaxSize : MachineInt)
    (small : message.data.count < 2 ^ 32)
    : (ArithmeticSafe message datagramMaxSize
        ↔ SafeSize message.data.count datagramMaxSize)
      ∧ (SubscriptsReturn message datagramMaxSize
        ↔ SafeSize message.data.count datagramMaxSize
          ∧ (9 < datagramMaxSize.val
            → message.data.startIndex = 0 ∨ message.data.count = 0)) := by
  rcases lt_trichotomy datagramMaxSize.val 9 with short | header | room
  · by_cases inRange : -2 ^ 63 + 9 ≤ datagramMaxSize.val
    · have sizes
          : SafeSize message.data.count datagramMaxSize
            ↔ message.data.count = 0
              ∨ 9 - datagramMaxSize.val < message.data.count
                ∧ message.data.count < 2 * (9 - datagramMaxSize.val) := by
        unfold SafeSize
        omega
      constructor
      · rw [sizes]
        refine safeUpTo_of_lt_header_iff (fun safe => ?_) short inRange small
        cases safe _ rfl
      · rw [sizes, and_iff_left fun room => absurd room short.not_gt]
        refine safeUpTo_of_lt_header_iff ?_ short inRange small
        rintro ⟨datagram, returned⟩
        cases returned
    · have excluded : ¬ SafeSize message.data.count datagramMaxSize := by
        unfold SafeSize
        omega
      exact ⟨iff_of_false (fun ⟨_, created, _⟩ => inRange (range_of_datagrams created).2) excluded,
        iff_of_false (fun ⟨_, created, _⟩ => inRange (range_of_datagrams created).2)
          fun safe => excluded safe.1⟩
  · have excluded : ¬ SafeSize message.data.count datagramMaxSize := by
      simp [SafeSize, header]
    exact ⟨iff_of_false (fun ⟨_, created, _⟩ => (range_of_datagrams created).1 header) excluded,
      iff_of_false (fun ⟨_, created, _⟩ => (range_of_datagrams created).1 header)
        fun safe => excluded safe.1⟩
  · have safe : SafeSize message.data.count datagramMaxSize := Or.inl room
    refine ⟨iff_of_true (arithmeticSafe_of_header_lt room small) safe, ?_⟩
    rw [subscriptsReturn_of_header_lt_iff room small]
    exact ⟨fun sliced => ⟨safe, fun _ => sliced⟩, fun sliced => sliced.2 room⟩

/-- One byte in datagrams of at most ten bytes. -/
theorem datagrams_safe_iff_ten
    : (ArithmeticSafe ⟨0, Data.ofBytes [1]⟩ ⟨10, by decide⟩ ↔ SafeSize 1 10)
      ∧ (SubscriptsReturn ⟨0, Data.ofBytes [1]⟩ ⟨10, by decide⟩
        ↔ SafeSize 1 10
          ∧ ((9 : ℤ) < 10
            → (Data.ofBytes [1]).startIndex = 0 ∨ (Data.ofBytes [1]).count = 0)) :=
  @datagrams_safe_iff ⟨0, Data.ofBytes [1]⟩ ⟨10, by decide⟩ (by decide)

/-- Datagrams with room for the header alone. -/
theorem datagrams_divide_by_zero
    : ¬ ∀ (message : Message) (datagramMaxSize : MachineInt),
        message.data.count < 2 ^ 32 → ArithmeticSafe message datagramMaxSize := by
  intro claim
  obtain ⟨view, created, -⟩ := claim ⟨0, Data.ofBytes [1]⟩ ⟨9, by decide⟩ (by decide)
  exact (range_of_datagrams created).1 rfl

end AgriGuardian.BLE.Message
