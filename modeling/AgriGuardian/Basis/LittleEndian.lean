import Mathlib.Data.Nat.Basic
import Mathlib.Algebra.Group.Nat.Even
import Mathlib.Tactic.Ring

/-! Fixed-width little-endian byte strings and the numbers they denote. -/

namespace Basis.LittleEndian

/-- The number a byte string denotes, least significant byte first. -/
def value : List UInt8 → ℕ
  | [] => 0
  | byte :: rest => byte.toNat + 256 * value rest

/-- The first `width` little-endian bytes of a number. -/
def digits : ℕ → ℕ → List UInt8
  | 0, _ => []
  | width + 1, number => UInt8.ofNat number :: digits width (number / 256)

@[simp]
theorem length_digits (width number : ℕ) : (digits width number).length = width := by
  induction width generalizing number with
  | zero => rfl
  | succ width ih => simp [digits, ih]

/-- A byte string of a given width denotes a number below the width's bound. -/
theorem value_lt (bytes : List UInt8) : value bytes < 256 ^ bytes.length := by
  induction bytes with
  | nil => simp [value]
  | cons byte rest ih =>
      have small := byte.toNat_lt
      rw [value, List.length_cons, pow_succ]
      omega

/-- Writing and reading back returns every number that fits in the width. -/
theorem value_digits {width number : ℕ} (fits : number < 256 ^ width)
    : value (digits width number) = number := by
  induction width generalizing number with
  | zero =>
      have zero : number = 0 := by simpa using fits
      simp [digits, value, zero]
  | succ width ih =>
      have rest : number / 256 < 256 ^ width := by
        rw [pow_succ] at fits
        omega
      rw [digits, value, ih rest, UInt8.toNat_ofNat']
      omega

/-- Reading and writing back returns every byte string. -/
theorem digits_value (bytes : List UInt8) : digits bytes.length (value bytes) = bytes := by
  induction bytes with
  | nil => rfl
  | cons byte rest ih =>
      have small := byte.toNat_lt
      have quotient : (byte.toNat + 256 * value rest) / 256 = value rest := by omega
      have head : UInt8.ofNat (byte.toNat + 256 * value rest) = byte := by
        apply UInt8.toNat_inj.mp
        rw [UInt8.toNat_ofNat']
        omega
      rw [List.length_cons, value, digits, head, quotient, ih]

end Basis.LittleEndian
