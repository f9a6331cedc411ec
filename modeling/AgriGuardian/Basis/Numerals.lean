import Mathlib.Algebra.Order.Field.Rat

/-! Reading decimal numerals back: whole numbers with leading zeros and a minus sign, and
numbers with decimals.
-/

namespace Basis

/-- The digits of a number after some zeros. -/
def padded (zeros number : ℕ) : List Char := List.replicate zeros '0' ++ Nat.toDigits 10 number

/-- The number that digits stand for. -/
def readDigits (digits : List Char) : ℕ := Nat.ofDigitChars 10 digits 0

theorem readDigits_padded (zeros number : ℕ) : readDigits (padded zeros number) = number := by
  rw [readDigits, padded, Nat.ofDigitChars_append, Nat.ofDigitChars_replicate_zero, mul_zero,
    Nat.ofDigitChars_ten_toDigits]

theorem isDigit_of_mem_padded {zeros number : ℕ} {character : Char}
    (member : character ∈ padded zeros number)
    : character.isDigit = true := by
  rcases List.mem_append.mp member with zero | digit
  · rw [List.eq_of_mem_replicate zero]
    decide
  · exact Nat.isDigit_of_mem_toDigits (by decide) le_rfl digit

/-- Digits after a minus sign, or without one. -/
def signed (negative : Bool) (digits : List Char) : List Char :=
  if negative then '-' :: digits else digits

/-- Whether there is a minus sign, and what follows it. -/
def readSign : List Char → Bool × List Char
  | [] => (false, [])
  | first :: rest => if first = '-' then (true, rest) else (false, first :: rest)

theorem readSign_signed {digits : List Char} (unsigned : digits.head? ≠ some '-')
    (negative : Bool)
    : readSign (signed negative digits) = (negative, digits) := by
  cases negative with
  | true => rfl
  | false =>
      cases digits with
      | nil => rfl
      | cons first rest => exact if_neg fun minus => unsigned (by simp [minus])

theorem head?_padded (zeros number : ℕ) (rest : List Char)
    : (padded zeros number ++ rest).head? ≠ some '-' := by
  have nonempty : padded zeros number ≠ [] := by simp [padded, Nat.toDigits_ne_nil]
  obtain ⟨first, digits, found⟩ := List.exists_cons_of_ne_nil nonempty
  rw [found, List.cons_append, List.head?_cons]
  intro minus
  have digit : first.isDigit = true :=
    isDigit_of_mem_padded (found ▸ List.mem_cons_self : first ∈ padded zeros number)
  rw [Option.some.inj minus] at digit
  exact absurd digit (by decide)

-----------------------------------------------------------------------------------------
-- Whole numbers
-----------------------------------------------------------------------------------------

def readInteger (text : List Char) : ℤ :=
  let (negative, digits) := readSign text
  if negative then -readDigits digits else readDigits digits

theorem readInteger_signed (negative : Bool) (zeros number : ℕ)
    : readInteger (signed negative (padded zeros number))
      = if negative then -(number : ℤ) else number := by
  have unsigned := head?_padded zeros number []
  rw [List.append_nil] at unsigned
  rw [readInteger, readSign_signed unsigned]
  simp only [readDigits_padded]

/-- A numeral of an integer has its sign and the digits of its absolute value. -/
theorem readInteger_natAbs (value : ℤ) (zeros : ℕ)
    : readInteger (signed (decide (value < 0)) (padded zeros value.natAbs)) = value := by
  rw [readInteger_signed]
  by_cases negative : value < 0
  · simp only [negative, decide_true, if_true]
    omega
  · simp only [negative, decide_false, Bool.false_eq_true, if_false]
    omega

theorem not_mem_signed {separator : Char} (other : separator ≠ '-')
    (notDigit : separator.isDigit = false) (negative : Bool) (zeros number : ℕ)
    : separator ∉ signed negative (padded zeros number) := by
  intro member
  have inDigits : separator ∈ padded zeros number := by
    cases negative with
    | true => exact (List.mem_cons.mp member).resolve_left other
    | false => exact member
  rw [isDigit_of_mem_padded inDigits] at notDigit
  cases notDigit

-----------------------------------------------------------------------------------------
-- Numbers with decimals
-----------------------------------------------------------------------------------------

/-- The digits before the point count whole units, and those behind it parts of one. -/
def readDecimal (text : List Char) : ℚ :=
  let (negative, digits) := readSign text
  match digits.splitOn '.' with
  | [whole, decimals] =>
      let value : ℚ := readDigits whole + readDigits decimals / 10 ^ decimals.length
      if negative then -value else value
  | _ => 0

theorem readDecimal_signed (negative : Bool) (whole zeros decimals : ℕ)
    : readDecimal (signed negative (padded 0 whole ++ '.' :: padded zeros decimals))
      = (if negative then -1 else 1)
        * (whole + decimals / 10 ^ (padded zeros decimals).length) := by
  have separate : ∀ part ∈ [padded 0 whole, padded zeros decimals], '.' ∉ part := by
    intro part member point
    have digit : '.'.isDigit = true := by
      simp only [List.mem_cons, List.not_mem_nil, or_false] at member
      rcases member with rfl | rfl
      · exact isDigit_of_mem_padded point
      · exact isDigit_of_mem_padded point
    exact absurd digit (by decide)
  have split
      : (padded 0 whole ++ '.' :: padded zeros decimals).splitOn '.'
        = [padded 0 whole, padded zeros decimals] := by
    have parts := List.splitOn_intercalate '.' separate (by simp)
    simpa [List.intercalate] using parts
  rw [readDecimal, readSign_signed (head?_padded 0 whole _)]
  simp only [split, readDigits_padded]
  cases negative with
  | true => simp
  | false => simp

end Basis
