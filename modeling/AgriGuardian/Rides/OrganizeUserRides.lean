import Mathlib.Data.List.Sort
import AgriGuardian.Basis.Grouping
import AgriGuardian.Rides.RideOrganization

/-! Filing rides under their year and month.
The loops of the code over year and month indices are maps over years and months. Filing
all rides in the order of their dates then has a closed form.
-/

namespace AgriGuardian.Rides

open Swift
open Basis

/-- The strings a date is filed under: the formatters of formats `yyyy` and `MMMM`. -/
structure Formatters where
  year : Date → String
  month : Date → String

namespace FirebaseManager

/-- `rides.sorted { $0.rideDate < $1.rideDate }`, which is stable. -/
def sortedByDate (rides : List Ride) : List Ride :=
  rides.insertionSort (fun left right => left.rideDate ≤ right.rideDate)

/-- The body of the loop over the months of a year. -/
def organizeMonth (month : String) (ride : Ride) (y : ℕ) (history : RideHistory) (m : ℕ)
    : Checked RideHistory := do
  let monthName ← history.getMonthName y m
  if monthName == month then
    let history ← history.addRide y m ride
    let history ← history.modifyMonth y m fun current =>
      { current with time := current.time + ride.totalTime }
    let history ← history.modifyMonth y m fun current =>
      { current with mileage := current.mileage + ride.mileage }
    if ride.didRollover then
      history.modifyMonth y m fun current => { current with rollovers := current.rollovers + 1 }
    else .ok history
  else .ok history

/-- The body of the loop over the years. -/
def organizeYear (year month : String) (ride : Ride) (history : RideHistory) (y : ℕ)
    : Checked RideHistory := do
  let tempRideMonth := RideMonth.init month
  let months ← history.getMonths y
  let currYear ← element history.getYears y
  let history ←
    (if !months.contains tempRideMonth && currYear.yearName == year then
      history.addMonth y tempRideMonth
    else .ok history)
  let current ← history.getMonths y
  (List.range current.length).foldlM (organizeMonth month ride y) history

/-- The body of the loop over the rides. Of the array `years`, which holds the same objects
as the history, only the names are read.
-/
def organizeRide (formatters : Formatters) : List RideYear × RideHistory → Ride
    → Checked (List RideYear × RideHistory) :=
  fun (years, history) ride => do
    let date := ride.rideDate
    let year := formatters.year date
    let month := formatters.month date
    let tempRideYear := RideYear.init year
    let known := years.contains tempRideYear
    let years := if known then years else years ++ [tempRideYear]
    let history := if known then history else history.addYear tempRideYear
    let history ←
      (List.range history.getYears.length).foldlM (organizeYear year month ride) history
    .ok (years, history)

def organizeUserRides (formatters : Formatters) (rides : List Ride) : Checked RideHistory := do
  let history := RideHistory.init
  let (_, history) ←
    (sortedByDate rides).foldlM (organizeRide formatters) (history.getYears, history)
  .ok history

end FirebaseManager

-----------------------------------------------------------------------------------------
-- The loops over months and years are maps
-----------------------------------------------------------------------------------------

/-- A month with one more ride and its totals. -/
def RideMonth.add (ride : Ride) (month : RideMonth) : RideMonth where
  monthName := month.monthName
  rides := month.rides ++ [ride]
  mileage := month.mileage + ride.mileage
  time := month.time + ride.totalTime
  rollovers := if ride.didRollover then month.rollovers + 1 else month.rollovers

/-- A month of the name takes the ride; the year of the month is not asked. -/
def RideMonth.file (name : String) (ride : Ride) (month : RideMonth) : RideMonth :=
  if month.monthName = name then month.add ride else month

/-- The months of a year after the year of the ride has opened the ride's month. -/
def RideYear.opened (yearName monthName : String) (year : RideYear) : List RideMonth :=
  if monthName ∉ year.months.map RideMonth.monthName ∧ year.yearName = yearName then
    year.months ++ [RideMonth.init monthName]
  else year.months

/-- Every year files the ride in its months, opened or not. -/
def RideYear.file (yearName monthName : String) (ride : Ride) (year : RideYear) : RideYear :=
  ⟨year.yearName, (year.opened yearName monthName).map (RideMonth.file monthName ride)⟩

/-- The years after the ride's year has been opened. -/
def RideHistory.opened (yearName : String) (history : RideHistory) : List RideYear :=
  if yearName ∈ history.years.map RideYear.yearName then history.years
  else history.years ++ [RideYear.init yearName]

def RideHistory.file (formatters : Formatters) (history : RideHistory) (ride : Ride)
    : RideHistory :=
  let year := formatters.year ride.rideDate
  let month := formatters.month ride.rideDate
  ⟨(history.opened year).map (RideYear.file year month ride)⟩

/-- Changing the month after the seen ones, in the year after the visited ones. -/
theorem RideHistory.modifyMonth_eq (visited rest : List RideYear) (name : String)
    (seen later : List RideMonth) (month : RideMonth) (change : RideMonth → RideMonth)
    : RideHistory.modifyMonth ⟨visited ++ ⟨name, seen ++ month :: later⟩ :: rest⟩ visited.length
        seen.length change
      = .ok ⟨visited ++ ⟨name, seen ++ change month :: later⟩ :: rest⟩ := by
  simp [RideHistory.modifyMonth]

namespace FirebaseManager

/-- The month body files the ride at its index. -/
theorem organizeMonth_eq (monthName : String) (ride : Ride) (visited rest : List RideYear)
    (name : String) (seen later : List RideMonth) (month : RideMonth)
    : organizeMonth monthName ride visited.length
        ⟨visited ++ ⟨name, seen ++ month :: later⟩ :: rest⟩ seen.length
      = .ok ⟨visited ++ ⟨name, seen ++ month.file monthName ride :: later⟩ :: rest⟩ := by
  have found
      : RideHistory.getMonthName ⟨visited ++ ⟨name, seen ++ month :: later⟩ :: rest⟩
          visited.length seen.length
        = .ok month.monthName := by
    simp [RideHistory.getMonthName, RideHistory.getMonth, RideHistory.getMonths]
  rw [organizeMonth, found, ok_bind]
  by_cases same : month.monthName = monthName
  · by_cases rolled : ride.didRollover = true
    · simp [same, rolled, RideHistory.addRide, RideHistory.modifyMonth_eq, RideMonth.file,
        RideMonth.add]
    · simp [same, rolled, RideHistory.addRide, RideHistory.modifyMonth_eq, RideMonth.file,
        RideMonth.add]
  · simp [same, RideMonth.file]

/-- The year body files the ride in the year at its index. -/
theorem organizeYear_eq (yearName monthName : String) (ride : Ride)
    (visited rest : List RideYear) (year : RideYear)
    : organizeYear yearName monthName ride ⟨visited ++ year :: rest⟩ visited.length
      = .ok ⟨visited ++ year.file yearName monthName ride :: rest⟩ := by
  have loop
      : (List.range (year.opened yearName monthName).length).foldlM
          (organizeMonth monthName ride visited.length)
          ⟨visited ++ ⟨year.yearName, year.opened yearName monthName⟩ :: rest⟩
        = .ok ⟨visited ++ year.file yearName monthName ride :: rest⟩ :=
    foldlM_range_map (fun months => RideHistory.mk (visited ++ ⟨year.yearName, months⟩ :: rest))
      (RideMonth.file monthName ride) _
      (fun seen month later =>
        organizeMonth_eq monthName ride visited rest year.yearName seen later month)
      (year.opened yearName monthName)
  have found (months : List RideMonth)
      : RideHistory.getMonths ⟨visited ++ ⟨year.yearName, months⟩ :: rest⟩ visited.length
        = .ok months := by
    simp [RideHistory.getMonths]
  have current : element (RideHistory.getYears ⟨visited ++ year :: rest⟩) visited.length
      = .ok year :=
    element_append visited year rest
  have added
      : (if !year.months.contains (RideMonth.init monthName) && year.yearName == yearName then
          RideHistory.addMonth ⟨visited ++ year :: rest⟩ visited.length (RideMonth.init monthName)
        else .ok ⟨visited ++ year :: rest⟩)
        = .ok ⟨visited ++ ⟨year.yearName, year.opened yearName monthName⟩ :: rest⟩ := by
    rw [contains_eq_decide_key RideMonth.beq_iff, RideYear.opened]
    by_cases opens : monthName ∉ year.months.map RideMonth.monthName ∧ year.yearName = yearName
    · rw [if_pos opens]
      simp [opens.1, opens.2, RideHistory.addMonth]
    · rw [if_neg opens, if_neg]
      simpa using opens
  rw [organizeYear, found year.months, ok_bind, current, ok_bind]
  simp only [added, ok_bind, found]
  exact loop

/-- The ride body files the ride in the history. The array `years` keeps the names of the
years of the history.
-/
theorem organizeRide_eq (formatters : Formatters) {years : List RideYear} {history : RideHistory}
    (names : years.map RideYear.yearName = history.years.map RideYear.yearName) (ride : Ride)
    : ∃ later,
        organizeRide formatters (years, history) ride = .ok (later, history.file formatters ride)
        ∧ later.map RideYear.yearName
          = (history.file formatters ride).years.map RideYear.yearName := by
  let year := formatters.year ride.rideDate
  let later :=
    if year ∈ history.years.map RideYear.yearName then years else years ++ [RideYear.init year]
  have loop
      : (List.range (history.opened year).length).foldlM
          (organizeYear year (formatters.month ride.rideDate) ride) ⟨history.opened year⟩
        = .ok (history.file formatters ride) :=
    foldlM_range_map RideHistory.mk
      (RideYear.file year (formatters.month ride.rideDate) ride) _
      (fun visited year rest => organizeYear_eq _ _ ride visited rest year) (history.opened year)
  have filedNames
      : (history.file formatters ride).years.map RideYear.yearName
        = (history.opened year).map RideYear.yearName := by
    rw [RideHistory.file, List.map_map]
    rfl
  refine ⟨later, ?_, ?_⟩
  · simp only [organizeRide, contains_eq_decide_key RideYear.beq_iff, names]
    rw [RideHistory.opened] at loop
    by_cases known : year ∈ history.years.map RideYear.yearName
    · simp only [later, if_pos known] at loop ⊢
      simp only [year] at known loop
      simp [known, RideHistory.getYears, loop]
    · simp only [later, if_neg known] at loop ⊢
      simp only [year, List.length_append, List.length_singleton] at known loop
      simp [known, RideHistory.getYears, RideHistory.addYear, loop, year]
  · rw [filedNames, RideHistory.opened]
    by_cases known : year ∈ history.years.map RideYear.yearName
    · simp only [later, if_pos known, names]
    · simp only [later, if_neg known, List.map_append, names]

/-- Organizing never traps: it files the rides one after another in the order of dates. -/
theorem organizeUserRides_eq (formatters : Formatters) (rides : List Ride)
    : organizeUserRides formatters rides
      = .ok ((sortedByDate rides).foldl (RideHistory.file formatters) RideHistory.init) := by
  have loop (rides : List Ride) (years : List RideYear) (history : RideHistory)
      (names : years.map RideYear.yearName = history.years.map RideYear.yearName)
      : ∃ later,
          rides.foldlM (organizeRide formatters) (years, history)
          = .ok (later, rides.foldl (RideHistory.file formatters) history) := by
    induction rides generalizing years history with
    | nil => exact ⟨years, rfl⟩
    | cons ride rest ih =>
        obtain ⟨later, called, laterNames⟩ := organizeRide_eq formatters names ride
        obtain ⟨final, completed⟩ := ih later _ laterNames
        exact ⟨final, by rw [List.foldlM_cons, called, ok_bind, completed, List.foldl_cons]⟩
  obtain ⟨years, completed⟩ := loop (sortedByDate rides) [] RideHistory.init rfl
  have start : RideHistory.init.getYears = [] := rfl
  rw [organizeUserRides]
  simp only [start, completed, ok_bind]

end FirebaseManager

end AgriGuardian.Rides
