import Mathlib.Algebra.Order.Field.Rat
import Mathlib.Data.Rat.Floor
import AgriGuardian.Rides.RideParameters

/-! The ride history: years of months of rides.
Years and months are objects that only the history refers to, so updating one in place is
replacing it in the array that holds it.
-/

namespace AgriGuardian.Rides

open Swift

structure RideMonth where
  monthName : String
  rides : List Ride
  mileage : ℚ
  time : TimeInterval
  rollovers : ℤ

structure RideYear where
  yearName : String
  months : List RideMonth

structure RideHistory where
  years : List RideYear

/-- `NSInteger(value)`: truncation towards zero, which traps outside the range. -/
def nsInteger (value : ℚ) : Checked ℤ :=
  checkedInt (if 0 ≤ value then ⌊value⌋ else ⌈value⌉)

/-- `%0.2d`: the low 32 bits as a signed number of at least two digits. -/
def twoDigits (value : ℤ) : String :=
  let low := value.bmod (2 ^ 32)
  let digits := toString low.natAbs
  (if low < 0 then "-" else "") ++ (if digits.length < 2 then "0" ++ digits else digits)

/-- `%.2f`: two decimals, rounded to the nearest, ties to the even one. -/
def twoDecimals (value : ℚ) : String :=
  let scaled := |value| * 100
  let below := ⌊scaled⌋.toNat
  let fraction := scaled - below
  let hundredths :=
    if fraction < 1 / 2 ∨ fraction = 1 / 2 ∧ below % 2 = 0 then below else below + 1
  let decimals := toString (hundredths % 100)
  (if value < 0 then "-" else "") ++ toString (hundredths / 100) ++ "."
    ++ (if decimals.length < 2 then "0" ++ decimals else decimals)

def TimeInterval.stringFromTimeInterval (interval : TimeInterval) : Checked String := do
  let time ← nsInteger interval
  let seconds ← remainder time 60
  let wholeMinutes ← quotient time 60
  let minutes ← remainder wholeMinutes 60
  let hours ← quotient time 3600
  .ok (twoDigits hours ++ ":" ++ twoDigits minutes ++ ":" ++ twoDigits seconds)

/-- Metres converted to `UnitLength.miles`. -/
def metersToMiles (meters : ℚ) : ℚ := meters / (160934 / 100)

namespace RideMonth

/-- `RideMonth(monthName:)` -/
def init (monthName : String) : RideMonth := ⟨monthName, [], 0, 0, 0⟩

@[simp]
theorem monthName_init (monthName : String) : (init monthName).monthName = monthName := rfl

/-- Months are equal when their names are. -/
instance : BEq RideMonth := ⟨fun lhs rhs => lhs.monthName == rhs.monthName⟩

theorem beq_iff {lhs rhs : RideMonth} : lhs == rhs ↔ lhs.monthName = rhs.monthName :=
  @beq_iff_eq String _ _ lhs.monthName rhs.monthName

def getMileageLabel (month : RideMonth) : String := twoDecimals (metersToMiles month.mileage)

def getTimeLabel (month : RideMonth) : Checked String := month.time.stringFromTimeInterval

end RideMonth

namespace RideYear

/-- `RideYear(year:)` -/
def init (year : String) : RideYear := ⟨year, []⟩

@[simp]
theorem yearName_init (year : String) : (init year).yearName = year := rfl

/-- Years are equal when their names are. -/
instance : BEq RideYear := ⟨fun lhs rhs => lhs.yearName == rhs.yearName⟩

theorem beq_iff {lhs rhs : RideYear} : lhs == rhs ↔ lhs.yearName = rhs.yearName :=
  @beq_iff_eq String _ _ lhs.yearName rhs.yearName

end RideYear

namespace RideHistory

def init : RideHistory := ⟨[]⟩

def getYears (history : RideHistory) : List RideYear := history.years

def getMonths (history : RideHistory) (yearIndex : ℤ) : Checked (List RideMonth) := do
  let year ← element history.years yearIndex
  .ok year.months

def getMonth (history : RideHistory) (yearIndex monthIndex : ℤ) : Checked RideMonth := do
  let months ← history.getMonths yearIndex
  element months monthIndex

def getMonthName (history : RideHistory) (yearIndex monthIndex : ℤ) : Checked String := do
  let month ← history.getMonth yearIndex monthIndex
  .ok month.monthName

def getYearName (history : RideHistory) (yearIndex : ℤ) : Checked String := do
  let year ← element history.years yearIndex
  .ok year.yearName

def addYear (history : RideHistory) (newYear : RideYear) : RideHistory :=
  ⟨history.years ++ [newYear]⟩

/-- The history after a change to one of its months. -/
def modifyMonth (history : RideHistory) (yearIndex monthIndex : ℤ) (change : RideMonth → RideMonth)
    : Checked RideHistory := do
  let year ← element history.years yearIndex
  let month ← element year.months monthIndex
  let months := year.months.set monthIndex.toNat (change month)
  .ok ⟨history.years.set yearIndex.toNat { year with months := months }⟩

def addMonth (history : RideHistory) (yearIndex : ℤ) (newMonth : RideMonth)
    : Checked RideHistory := do
  let currYear ← element history.years yearIndex
  .ok ⟨history.years.set yearIndex.toNat { currYear with months := currYear.months ++ [newMonth] }⟩

def addRide (history : RideHistory) (yearIndex monthIndex : ℤ) (newRide : Ride)
    : Checked RideHistory :=
  history.modifyMonth yearIndex monthIndex fun currMonth =>
    { currMonth with rides := currMonth.rides ++ [newRide] }

/-- All rides in the history, month by month. -/
def rides (history : RideHistory) : List Ride :=
  history.years.flatMap fun year => year.months.flatMap RideMonth.rides

end RideHistory

end AgriGuardian.Rides
