import AgriGuardian.Basis.SortedKeys
import AgriGuardian.Rides.Filing

/-! The second copy of the grouping, in the class for test data.
It names months by their numbers and keeps no totals. Its loops run in lockstep with the
first copy, on the histories without their totals.
-/

namespace AgriGuardian.Rides

open Swift
open Basis

namespace DataManager

/-- The body of the loop over the months of a year. -/
def organizeMonth (month : String) (ride : Ride) (y : ℕ) (history : RideHistory) (m : ℕ)
    : Checked RideHistory := do
  let monthName ← history.getMonthName y m
  if monthName == month then history.addRide y m ride else .ok history

/-- The body of the loop over the years. -/
def organizeYear (year month : String) (ride : Ride) (history : RideHistory) (y : ℕ)
    : Checked RideHistory := do
  let tempRideMonth := RideMonth.init month
  let months ← history.getMonths y
  let currYear ← element history.getYears y
  let history ←
    (if !months.contains tempRideMonth && currYear.yearName == year then
      history.addMonth y tempRideMonth
    else .ok history)
  let current ← history.getMonths y
  (List.range current.length).foldlM (organizeMonth month ride y) history

/-- The body of the loop over the rides. -/
def organizeRide (formatters : Formatters) : List RideYear × RideHistory → Ride
    → Checked (List RideYear × RideHistory) :=
  fun (years, history) ride => do
    let date := ride.rideDate
    let year := formatters.year date
    let month := formatters.month date
    let tempRideYear := RideYear.init year
    let known := years.contains tempRideYear
    let years := if known then years else years ++ [tempRideYear]
    let history := if known then history else history.addYear tempRideYear
    let history ←
      (List.range history.getYears.length).foldlM (organizeYear year month ride) history
    .ok (years, history)

/-- The formatters are those of formats `yyyy` and `MM`. The rides are sorted as in the first
copy.
-/
def organizeUserRides (formatters : Formatters) (rides : List Ride) : Checked RideHistory := do
  let history := RideHistory.init
  let (_, history) ←
    (FirebaseManager.sortedByDate rides).foldlM (organizeRide formatters)
      (history.getYears, history)
  .ok history

end DataManager

-----------------------------------------------------------------------------------------
-- Histories without totals
-----------------------------------------------------------------------------------------

/-- The month as if no totals had been kept. -/
def RideMonth.untotalled (month : RideMonth) : RideMonth :=
  { month with mileage := 0, time := 0, rollovers := 0 }

def RideYear.untotalled (year : RideYear) : RideYear :=
  { year with months := year.months.map RideMonth.untotalled }

def RideHistory.untotalled (history : RideHistory) : RideHistory :=
  ⟨history.years.map RideYear.untotalled⟩

namespace RideHistory

theorem getMonths_untotalled (history : RideHistory) (y : ℤ)
    : history.untotalled.getMonths y
      = (history.getMonths y).map (List.map RideMonth.untotalled) := by
  simp only [getMonths, untotalled, element_map]
  cases element history.years y with
  | error trap => rfl
  | ok year => rfl

theorem getMonthName_untotalled (history : RideHistory) (y m : ℤ)
    : history.untotalled.getMonthName y m = history.getMonthName y m := by
  simp only [getMonthName, getMonth, getMonths_untotalled]
  cases history.getMonths y with
  | error trap => rfl
  | ok months =>
      simp only [Except.map, ok_bind, element_map]
      cases element months m with
      | error trap => rfl
      | ok month => rfl

/-- Changing a month of a history without totals. -/
theorem modifyMonth_untotalled {change untotalledChange : RideMonth → RideMonth}
    (commutes : ∀ month, untotalledChange month.untotalled = (change month).untotalled)
    (history : RideHistory) (y m : ℤ)
    : history.untotalled.modifyMonth y m untotalledChange
      = (history.modifyMonth y m change).map untotalled := by
  simp only [modifyMonth, untotalled, element_map]
  cases element history.years y with
  | error trap => rfl
  | ok year =>
      simp only [Except.map, ok_bind, RideYear.untotalled, element_map]
      cases element year.months m with
      | error trap => rfl
      | ok month => simp [untotalled, commutes, List.map_set, RideYear.untotalled]

theorem addMonth_untotalled (history : RideHistory) (y : ℤ) (name : String)
    : history.untotalled.addMonth y (RideMonth.init name)
      = (history.addMonth y (RideMonth.init name)).map untotalled := by
  simp only [addMonth, untotalled, element_map]
  cases element history.years y with
  | error trap => rfl
  | ok year =>
      simp [Except.map, untotalled, List.map_set, RideYear.untotalled, RideMonth.untotalled,
        RideMonth.init]

/-- Two changes of one month are one change. -/
theorem modifyMonth_modifyMonth (history : RideHistory) (y m : ℤ)
    (first second : RideMonth → RideMonth)
    : (history.modifyMonth y m first >>= fun history => history.modifyMonth y m second)
      = history.modifyMonth y m fun month => second (first month) := by
  simp only [modifyMonth]
  cases foundYear : element history.years y with
  | error trap => simp
  | ok year =>
      simp only [ok_bind]
      cases foundMonth : element year.months m with
      | error trap => simp
      | ok month =>
          simp only [ok_bind, element_set foundYear, element_set foundMonth, List.set_set]

end RideHistory

-----------------------------------------------------------------------------------------
-- The two loop nests in lockstep
-----------------------------------------------------------------------------------------

namespace DataManager

/-- The first copy adds the ride and its totals to the month, or leaves the month alone. -/
theorem firebase_organizeMonth_eq (monthName : String) (ride : Ride) (y : ℕ)
    (history : RideHistory) (m : ℕ)
    : FirebaseManager.organizeMonth monthName ride y history m
      = (do
          let name ← history.getMonthName y m
          if name == monthName then history.modifyMonth y m (RideMonth.add ride)
          else .ok history) := by
  rw [FirebaseManager.organizeMonth]
  refine congrArg (history.getMonthName y m >>= ·) (funext fun name => ?_)
  by_cases same : (name == monthName) = true
  · rw [if_pos same, if_pos same, RideHistory.addRide]
    by_cases rolled : ride.didRollover = true
    · have added
          : RideMonth.add ride = fun month =>
              { month with
                rides := month.rides ++ [ride]
                time := month.time + ride.totalTime
                mileage := month.mileage + ride.mileage
                rollovers := month.rollovers + 1 } := by
        funext month
        simp [RideMonth.add, rolled]
      simp only [if_pos rolled, RideHistory.modifyMonth_modifyMonth, added]
    · have added
          : RideMonth.add ride = fun month =>
              { month with
                rides := month.rides ++ [ride]
                time := month.time + ride.totalTime
                mileage := month.mileage + ride.mileage } := by
        funext month
        simp [RideMonth.add, rolled]
      simp only [if_neg rolled, bind_ok, RideHistory.modifyMonth_modifyMonth, added]
  · rw [if_neg same, if_neg same]

theorem organizeMonth_untotalled (monthName : String) (ride : Ride) (y : ℕ)
    (history : RideHistory) (m : ℕ)
    : organizeMonth monthName ride y history.untotalled m
      = (FirebaseManager.organizeMonth monthName ride y history m).map
          RideHistory.untotalled := by
  rw [firebase_organizeMonth_eq, organizeMonth, RideHistory.getMonthName_untotalled]
  cases history.getMonthName y m with
  | error trap => rfl
  | ok name =>
      simp only [ok_bind]
      split
      · let stored : RideMonth → RideMonth := fun month =>
          { month with rides := month.rides ++ [ride] }
        exact @RideHistory.modifyMonth_untotalled (RideMonth.add ride) stored (fun _ => rfl)
          history y m
      · rfl

theorem organizeYear_untotalled (yearName monthName : String) (ride : Ride)
    (history : RideHistory) (y : ℕ)
    : organizeYear yearName monthName ride history.untotalled y
      = (FirebaseManager.organizeYear yearName monthName ride history y).map
          RideHistory.untotalled := by
  rw [organizeYear, FirebaseManager.organizeYear, RideHistory.getMonths_untotalled]
  cases history.getMonths y with
  | error trap => rfl
  | ok months =>
      have sameNames
          : (months.map RideMonth.untotalled).contains (RideMonth.init monthName)
            = months.contains (RideMonth.init monthName) := by
        rw [contains_eq_decide_key RideMonth.beq_iff, contains_eq_decide_key RideMonth.beq_iff,
          List.map_map]
        rfl
      have years : history.untotalled.getYears = history.getYears.map RideYear.untotalled := rfl
      simp only [Except.map, ok_bind, sameNames, years, element_map]
      cases element history.getYears y with
      | error trap => rfl
      | ok year =>
          -- Both copies go through the months of the history with the month of the ride.
          have loop (history : RideHistory)
              : (do
                  let current ← history.untotalled.getMonths y
                  (List.range current.length).foldlM (organizeMonth monthName ride y)
                    history.untotalled)
                = (do
                    let current ← history.getMonths y
                    (List.range current.length).foldlM
                      (FirebaseManager.organizeMonth monthName ride y) history).map
                    RideHistory.untotalled := by
            rw [RideHistory.getMonths_untotalled]
            cases history.getMonths y with
            | error trap => rfl
            | ok current =>
                simp only [Except.map, ok_bind, List.length_map]
                exact foldlM_map_state (organizeMonth_untotalled monthName ride y) _ history
          have sameName : year.untotalled.yearName = year.yearName := rfl
          simp only [ok_bind, sameName]
          split
          · rw [RideHistory.addMonth_untotalled]
            cases history.addMonth y (RideMonth.init monthName) with
            | error trap => rfl
            | ok added => exact loop added
          · exact loop history

theorem organizeRide_untotalled (formatters : Formatters)
    (state : List RideYear × RideHistory) (ride : Ride)
    : organizeRide formatters (Prod.map id RideHistory.untotalled state) ride
      = (FirebaseManager.organizeRide formatters state ride).map
          (Prod.map id RideHistory.untotalled) := by
  obtain ⟨years, history⟩ := state
  let tempRideYear := RideYear.init (formatters.year ride.rideDate)
  let opened :=
    if years.contains tempRideYear = true then history else history.addYear tempRideYear
  have openedUntotalled
      : (if years.contains tempRideYear = true then history.untotalled
          else history.untotalled.addYear tempRideYear)
        = opened.untotalled := by
    simp only [opened]
    split
    · rfl
    · simp [RideHistory.addYear, RideHistory.untotalled, RideYear.untotalled, RideYear.init,
        tempRideYear]
  have loop := foldlM_map_state
    (organizeYear_untotalled (formatters.year ride.rideDate) (formatters.month ride.rideDate) ride)
    (List.range opened.getYears.length) opened
  have sameCount : opened.untotalled.getYears.length = opened.getYears.length :=
    List.length_map _
  simp only [organizeRide, FirebaseManager.organizeRide, Prod.map, id]
  simp only [tempRideYear] at openedUntotalled
  rw [openedUntotalled, sameCount, loop]
  simp only [opened, tempRideYear]
  cases (List.range _).foldlM (FirebaseManager.organizeYear _ _ ride) _ with
  | error trap => rfl
  | ok organized => rfl

/-- The second copy computes the history of the first, without totals. -/
theorem organizeUserRides_untotalled (formatters : Formatters) (rides : List Ride)
    : organizeUserRides formatters rides
      = (FirebaseManager.organizeUserRides formatters rides).map RideHistory.untotalled := by
  have loop := foldlM_map_state (organizeRide_untotalled formatters)
    (FirebaseManager.sortedByDate rides) ([], RideHistory.init)
  have start : Prod.map id RideHistory.untotalled ([], RideHistory.init)
      = (([], RideHistory.init) : List RideYear × RideHistory) := rfl
  have empty : RideHistory.init.getYears = [] := rfl
  rw [start] at loop
  rw [organizeUserRides, FirebaseManager.organizeUserRides]
  simp only [empty, loop]
  cases (FirebaseManager.sortedByDate rides).foldlM (FirebaseManager.organizeRide formatters)
      ([], RideHistory.init) with
  | error trap => rfl
  | ok final => rfl

end DataManager

-----------------------------------------------------------------------------------------
-- The same groups under other names of the months
-----------------------------------------------------------------------------------------

/-- Two strings for the month of a date, and the strings of the second form that belong to
those of the first. Different strings of the first form belong to different ones of the
second.
-/
structure MonthFormats where
  numeric : Date → String
  full : Date → String
  nameOf : String → String
  corresponds : ∀ date, full date = nameOf (numeric date)
  oneToOne
    : ∀ date other, nameOf (numeric date) = nameOf (numeric other) → numeric date = numeric other

/-- The months hold the same rides in the same order, under names that belong together. -/
structure RideMonth.Corresponds (nameOf : String → String) (numbered named : RideMonth)
    : Prop where
  monthName : named.monthName = nameOf numbered.monthName
  rides : named.rides = numbered.rides

structure RideYear.Corresponds (nameOf : String → String) (numbered named : RideYear)
    : Prop where
  yearName : named.yearName = numbered.yearName
  months : List.Forall₂ (RideMonth.Corresponds nameOf) numbered.months named.months

/-- The same years in the same order, with corresponding months in the same order. -/
def RideHistory.Corresponds (nameOf : String → String) (numbered named : RideHistory) : Prop :=
  List.Forall₂ (RideYear.Corresponds nameOf) numbered.years named.years

namespace MonthFormats

/-- A date has the full name that belongs to another's number exactly when it has the
number.
-/
theorem full_eq_iff (formats : MonthFormats) (date other : Date)
    : formats.full date = formats.nameOf (formats.numeric other)
      ↔ formats.numeric date = formats.numeric other := by
  rw [formats.corresponds]
  exact ⟨formats.oneToOne date other, congrArg formats.nameOf⟩

variable (formats : MonthFormats) (year : Date → String)

def numbered : Formatters := ⟨year, formats.numeric⟩

def named : Formatters := ⟨year, formats.full⟩

theorem monthNames_named (rides : List Ride) (yearName : String)
    : Filing.monthNames (formats.named year) rides yearName
      = (Filing.monthNames (formats.numbered year) rides yearName).map formats.nameOf := by
  let inYear := rides.filter fun ride => year ride.rideDate = yearName
  have names
      : inYear.map (formats.named year).monthOf
        = (inYear.map (formats.numbered year).monthOf).map formats.nameOf := by
    rw [List.map_map]
    exact List.map_congr_left fun ride _ => formats.corresponds ride.rideDate
  have distinct
      : ∀ name ∈ inYear.map (formats.numbered year).monthOf,
          ∀ other ∈ inYear.map (formats.numbered year).monthOf,
            formats.nameOf name = formats.nameOf other → name = other := by
    intro name member other otherMember same
    obtain ⟨ride, -, rfl⟩ := List.mem_map.mp member
    obtain ⟨otherRide, -, rfl⟩ := List.mem_map.mp otherMember
    exact formats.oneToOne ride.rideDate otherRide.rideDate same
  calc
    Filing.monthNames (formats.named year) rides yearName
        = (inYear.map (formats.named year).monthOf).eraseDups := rfl
    _ = ((inYear.map (formats.numbered year).monthOf).map formats.nameOf).eraseDups := by
        rw [names]
    _ = (inYear.map (formats.numbered year).monthOf).eraseDups.map formats.nameOf :=
        eraseDups_map distinct

/-- A month holds the same rides under either name. -/
theorem bucket_named {rides : List Ride} {yearName monthName : String}
    (opened : monthName ∈ Filing.monthNames (formats.numbered year) rides yearName)
    : Filing.bucket (formats.named year) rides yearName (formats.nameOf monthName)
      = Filing.bucket (formats.numbered year) rides yearName monthName := by
  obtain ⟨first, -, filed⟩ := Filing.mem_monthNames.mp opened
  obtain ⟨-, rfl⟩ := of_decide_eq_true filed
  have sameMonth (ride : Ride)
      : (formats.named year).monthOf ride
            = formats.nameOf ((formats.numbered year).monthOf first)
        ↔ (formats.numbered year).monthOf ride = (formats.numbered year).monthOf first :=
    formats.full_eq_iff ride.rideDate first.rideDate
  have sameYear (ride : Ride)
      : (formats.named year).yearOf ride = (formats.numbered year).yearOf ride := rfl
  simp only [Filing.bucket, Filing.isFiledUnder, sameMonth, sameYear]

theorem corresponds_history (rides : List Ride)
    : (Filing.history (formats.numbered year) rides).untotalled.Corresponds formats.nameOf
        (Filing.history (formats.named year) rides) := by
  have sameYears
      : rides.map (formats.named year).yearOf = rides.map (formats.numbered year).yearOf := rfl
  rw [RideHistory.Corresponds, RideHistory.untotalled, Filing.history, Filing.history, sameYears,
    List.map_map]
  refine forall₂_map fun yearName _ => ⟨rfl, ?_⟩
  simp only [Function.comp, RideYear.untotalled, Filing.yearOfRides, monthNames_named, List.map_map]
  exact forall₂_map fun monthName opened => ⟨rfl, formats.bucket_named year opened⟩

end MonthFormats

/-- The two copies of the grouping agree on the groups, each with its own names of months. -/
theorem DataManager.organizeUserRides_corresponds (year : Date → String)
    (formats : MonthFormats) (rides : List Ride)
    : ∃ numbered named,
        organizeUserRides ⟨year, formats.numeric⟩ rides = .ok numbered
        ∧ FirebaseManager.organizeUserRides ⟨year, formats.full⟩ rides = .ok named
        ∧ numbered.Corresponds formats.nameOf named := by
  refine ⟨_, _, ?_, FirebaseManager.organizeUserRides_eq_history ⟨year, formats.full⟩ rides,
    formats.corresponds_history year (FirebaseManager.sortedByDate rides)⟩
  rw [organizeUserRides_untotalled, FirebaseManager.organizeUserRides_eq_history]
  rfl

/-- The two formats of the dates in January and February of 2019. -/
def winterFormats : MonthFormats where
  numeric date := if date < 570672000 then "01" else "02"
  full date := if date < 570672000 then "January" else "February"
  nameOf name := if name = "01" then "January" else "February"
  corresponds date := by
    by_cases january : date < 570672000
    · simp [january]
    · simp [january]
  oneToOne date other := by
    by_cases january : date < 570672000
    · by_cases otherJanuary : other < 570672000
      · simp [january, otherJanuary]
      · simp [january, otherJanuary]
    · by_cases otherJanuary : other < 570672000
      · simp [january, otherJanuary]
      · simp [january, otherJanuary]

/-- A ride in February before one in January. -/
theorem DataManager.organizeUserRides_corresponds_winter
    : ∃ numbered named,
        organizeUserRides ⟨fun _ => "2019", winterFormats.numeric⟩
            [Ride.init 571000000, Ride.init 569203200]
          = .ok numbered
        ∧ FirebaseManager.organizeUserRides ⟨fun _ => "2019", winterFormats.full⟩
            [Ride.init 571000000, Ride.init 569203200]
          = .ok named
        ∧ numbered.Corresponds winterFormats.nameOf named :=
  organizeUserRides_corresponds (fun _ => "2019") winterFormats
    [Ride.init 571000000, Ride.init 569203200]

end AgriGuardian.Rides
