import Mathlib.Data.Prod.Lex
import AgriGuardian.Basis.SortedKeys
import AgriGuardian.Rides.HistoryPartition

/-! The order of the history, and the totals of its months.
Nothing sorts years or months: they stand in the order in which the sorted rides open them,
and this is the order of the calendar. The totals of a month are changed only together with
its rides.
-/

namespace AgriGuardian.Rides

open Swift
open Basis

-----------------------------------------------------------------------------------------
-- The calendar the formatters write
-----------------------------------------------------------------------------------------

/-- Years, months and their strings. A later date is never in an earlier month, and a
string stands for one year or one month only.
-/
structure Calendar (Year Month : Type*) [LinearOrder Year] [LinearOrder Month] where
  year : Date → Year
  month : Date → Month
  yearName : Year → String
  monthName : Month → String
  monotone : Monotone fun date => toLex (year date, month date)
  yearNames : Function.Injective yearName
  monthNames : Function.Injective monthName

variable {Year Month : Type*} [LinearOrder Year] [LinearOrder Month]

namespace Calendar

def formatters (calendar : Calendar Year Month) : Formatters where
  year date := calendar.yearName (calendar.year date)
  month date := calendar.monthName (calendar.month date)

theorem year_le (calendar : Calendar Year Month) {date later : Date} (ordered : date ≤ later)
    : calendar.year date ≤ calendar.year later := by
  rcases Prod.Lex.toLex_le_toLex.mp (calendar.monotone ordered) with before | ⟨same, -⟩
  · exact before.le
  · exact same.le

/-- Within a year later dates are in the same or a later month. -/
theorem month_le (calendar : Calendar Year Month) {date later : Date} (ordered : date ≤ later)
    (sameYear : calendar.year date = calendar.year later)
    : calendar.month date ≤ calendar.month later := by
  rcases Prod.Lex.toLex_le_toLex.mp (calendar.monotone ordered) with before | ⟨-, months⟩
  · exact absurd sameYear before.ne
  · exact months

end Calendar

/-- Years and the months in each of them are distinct and in the order of the calendar, none
of them is empty, and the rides of every month are in the order of their dates.
-/
structure RideHistory.Chronological (calendar : Calendar Year Month) (history : RideHistory)
    : Prop where
  distinctYears : (history.years.map RideYear.yearName).Nodup
  distinctMonths : ∀ year ∈ history.years, (year.months.map RideMonth.monthName).Nodup
  years
    : ∃ years : List Year,
        years.Pairwise (· < ·)
        ∧ history.years.map RideYear.yearName = years.map calendar.yearName
  months
    : ∀ year ∈ history.years, ∃ months : List Month,
        months.Pairwise (· < ·)
        ∧ year.months.map RideMonth.monthName = months.map calendar.monthName
  yearsNonempty : ∀ year ∈ history.years, year.months ≠ []
  monthsNonempty : ∀ year ∈ history.years, ∀ month ∈ year.months, month.rides ≠ []
  rides
    : ∀ year ∈ history.years, ∀ month ∈ year.months, SortedBy Ride.rideDate month.rides

namespace Filing

theorem bucket_sublist (formatters : Formatters) (rides : List Ride) (year month : String)
    : (bucket formatters rides year month).Sublist rides :=
  List.filter_sublist.trans (List.dropWhile_sublist _)

/-- A year opens a month for each of its rides. -/
theorem monthNames_ne_nil {formatters : Formatters} {rides : List Ride} {year : String}
    (known : year ∈ rides.map formatters.yearOf)
    : monthNames formatters rides year ≠ [] := by
  obtain ⟨ride, member, rfl⟩ := List.mem_map.mp known
  have opened : formatters.monthOf ride ∈ monthNames formatters rides (formatters.yearOf ride) :=
    mem_monthNames.mpr ⟨ride, member, by simp [isFiledUnder]⟩
  exact List.ne_nil_of_mem opened

/-- A month holds at least the ride that opened it. -/
theorem bucket_ne_nil {formatters : Formatters} {rides : List Ride} {year month : String}
    (opened : month ∈ monthNames formatters rides year)
    : bucket formatters rides year month ≠ [] := by
  obtain ⟨ride, member, filed⟩ := mem_monthNames.mp opened
  obtain ⟨rfl, sameMonth⟩ := of_decide_eq_true filed
  exact List.ne_nil_of_mem
    (or_self_iff.mp (mem_bucket_of_shared member member sameMonth sameMonth))

/-- Rides in the order of their dates open the years in their order. -/
theorem years_increase (calendar : Calendar Year Month) {rides : List Ride}
    (sorted : SortedBy Ride.rideDate rides)
    : ∃ years : List Year,
        years.Pairwise (· < ·)
        ∧ (rides.map calendar.formatters.yearOf).eraseDups = years.map calendar.yearName := by
  let years := rides.map fun ride => calendar.year ride.rideDate
  have ordered : years.Pairwise (· ≤ ·) :=
    List.pairwise_map.mpr (sorted.imp fun dates => calendar.year_le dates)
  have named : rides.map calendar.formatters.yearOf = years.map calendar.yearName := by
    rw [List.map_map]
    rfl
  rw [named]
  exact exists_increasing_names calendar.yearNames ordered

/-- Rides in the order of their dates open the months of a year in their order. -/
theorem months_increase (calendar : Calendar Year Month) {rides : List Ride}
    (sorted : SortedBy Ride.rideDate rides) (year : String)
    : ∃ months : List Month,
        months.Pairwise (· < ·)
        ∧ monthNames calendar.formatters rides year = months.map calendar.monthName := by
  let inYear := rides.filter fun ride => calendar.formatters.yearOf ride = year
  let months := inYear.map fun ride => calendar.month ride.rideDate
  have ordered : months.Pairwise (· ≤ ·) := by
    have dated := sorted.sublist (List.filter_sublist : inYear.Sublist rides)
    refine List.pairwise_map.mpr (dated.imp_of_mem fun {ride other} member otherMember dates => ?_)
    have yearName : calendar.formatters.yearOf ride = year :=
      of_decide_eq_true (List.mem_filter.mp member).2
    have otherName : calendar.formatters.yearOf other = year :=
      of_decide_eq_true (List.mem_filter.mp otherMember).2
    exact calendar.month_le dates (calendar.yearNames (yearName.trans otherName.symm))
  have named : inYear.map calendar.formatters.monthOf = months.map calendar.monthName := by
    rw [List.map_map]
    rfl
  rw [monthNames, named]
  exact exists_increasing_names calendar.monthNames ordered

theorem chronological_history (calendar : Calendar Year Month) {rides : List Ride}
    (sorted : SortedBy Ride.rideDate rides)
    : (history calendar.formatters rides).Chronological calendar where
  distinctYears := by
    rw [map_yearName_years]
    exact nodup_eraseDups _
  distinctMonths := by
    intro year member
    obtain ⟨yearName, -, rfl⟩ := List.mem_map.mp member
    rw [map_monthName_months]
    exact nodup_eraseDups _
  years := by
    rw [map_yearName_years]
    exact years_increase calendar sorted
  months := by
    intro year member
    obtain ⟨yearName, -, rfl⟩ := List.mem_map.mp member
    rw [map_monthName_months]
    exact months_increase calendar sorted yearName
  yearsNonempty := by
    intro year member empty
    obtain ⟨yearName, known, rfl⟩ := List.mem_map.mp member
    refine monthNames_ne_nil (List.mem_eraseDups.mp known) ?_
    rw [← map_monthName_months, empty, List.map_nil]
  monthsNonempty := by
    intro year yearMember month monthMember
    obtain ⟨yearName, -, rfl⟩ := List.mem_map.mp yearMember
    obtain ⟨monthName, opened, rfl⟩ := List.mem_map.mp monthMember
    exact bucket_ne_nil opened
  rides := by
    intro year yearMember month monthMember
    obtain ⟨yearName, -, rfl⟩ := List.mem_map.mp yearMember
    obtain ⟨monthName, -, rfl⟩ := List.mem_map.mp monthMember
    exact sorted.sublist (bucket_sublist _ rides yearName monthName)

end Filing

namespace FirebaseManager

theorem sortedByDate_sorted (rides : List Ride) : SortedBy Ride.rideDate (sortedByDate rides) :=
  sortedBy_insertionSort Ride.rideDate rides

/-- The history of any rides is chronological. -/
theorem organizeUserRides_chronological (calendar : Calendar Year Month) (rides : List Ride)
    : ∃ history,
        organizeUserRides calendar.formatters rides = .ok history
        ∧ history.Chronological calendar :=
  ⟨_, organizeUserRides_eq_history _ rides,
    Filing.chronological_history calendar (sortedByDate_sorted rides)⟩

/-- January and February of 2019 and 2020. -/
def winters : Calendar Bool Bool where
  year date := decide (599529600 ≤ date)
  month date := decide ((if date < 599529600 then 570672000 else 602208000) ≤ date)
  yearName isSecond := if isSecond then "2020" else "2019"
  monthName isSecond := if isSecond then "February" else "January"
  monotone := by
    intro date later ordered
    rw [Prod.Lex.toLex_le_toLex]
    by_cases second : later < 599529600
    · have first := lt_of_le_of_lt ordered second
      simp only [if_pos second, if_pos first, decide_eq_false (not_le.mpr second),
        decide_eq_false (not_le.mpr first)]
      exact Or.inr ⟨trivial, fun reached => by
        simpa using (of_decide_eq_true reached).trans ordered⟩
    · by_cases first : date < 599529600
      · simp only [decide_eq_false (not_le.mpr first), decide_eq_true (not_lt.mp second)]
        exact Or.inl (by decide)
      · simp only [if_neg second, if_neg first, decide_eq_true (not_lt.mp second),
          decide_eq_true (not_lt.mp first)]
        exact Or.inr ⟨trivial, fun reached => by
          simpa using (of_decide_eq_true reached).trans ordered⟩
  yearNames := by
    unfold Function.Injective
    decide
  monthNames := by
    unfold Function.Injective
    decide

/-- Rides on 15 January of 2019 and 2020, in either order. -/
theorem organizeUserRides_chronological_winters
    : ∃ history,
        organizeUserRides winters.formatters [Ride.init 600739200, Ride.init 569203200]
          = .ok history
        ∧ history.Chronological winters :=
  organizeUserRides_chronological winters [Ride.init 600739200, Ride.init 569203200]

end FirebaseManager

-----------------------------------------------------------------------------------------
-- The totals of the months
-----------------------------------------------------------------------------------------

/-- The totals of the month are those of the rides stored in it. -/
structure RideMonth.TotalsOfRides (month : RideMonth) : Prop where
  time : month.time = (month.rides.map Ride.totalTime).sum
  mileage : month.mileage = (month.rides.map Ride.mileage).sum
  rollovers : month.rollovers = month.rides.countP Ride.didRollover

namespace RideMonth.TotalsOfRides

theorem init (name : String) : (RideMonth.init name).TotalsOfRides :=
  ⟨rfl, rfl, rfl⟩

theorem add {month : RideMonth} (totals : month.TotalsOfRides) (ride : Ride)
    : (month.add ride).TotalsOfRides where
  time := by simp [RideMonth.add, totals.time]
  mileage := by simp [RideMonth.add, totals.mileage]
  rollovers := by
    by_cases rolled : ride.didRollover = true
    · simp [RideMonth.add, totals.rollovers, rolled]
    · simp [RideMonth.add, totals.rollovers, rolled]

theorem file {month : RideMonth} (totals : month.TotalsOfRides) (name : String) (ride : Ride)
    : (month.file name ride).TotalsOfRides := by
  rw [RideMonth.file]
  split
  · exact totals.add ride
  · exact totals

end RideMonth.TotalsOfRides

def RideYear.TotalsOfRides (year : RideYear) : Prop :=
  ∀ month ∈ year.months, month.TotalsOfRides

def RideHistory.TotalsOfRides (history : RideHistory) : Prop :=
  ∀ year ∈ history.years, year.TotalsOfRides

/-- A year that files a ride in its months, one of them perhaps just opened. -/
theorem RideYear.TotalsOfRides.file {year : RideYear} (totals : year.TotalsOfRides)
    (yearName monthName : String) (ride : Ride)
    : (year.file yearName monthName ride).TotalsOfRides := by
  have opened : ∀ month ∈ year.opened yearName monthName, month.TotalsOfRides := by
    intro month member
    rw [RideYear.opened] at member
    split at member
    · rcases List.mem_append.mp member with known | new
      · exact totals month known
      · exact List.mem_singleton.mp new ▸ .init monthName
    · exact totals month member
  intro month member
  obtain ⟨before, beforeMember, rfl⟩ := List.mem_map.mp member
  exact (opened before beforeMember).file monthName ride

/-- Filing a ride changes totals only together with rides. -/
theorem RideHistory.TotalsOfRides.file {history : RideHistory} (totals : history.TotalsOfRides)
    (formatters : Formatters) (ride : Ride)
    : (history.file formatters ride).TotalsOfRides := by
  intro year member
  obtain ⟨before, opened, rfl⟩ := List.mem_map.mp member
  refine RideYear.TotalsOfRides.file ?_ _ _ ride
  rw [RideHistory.opened] at opened
  split at opened
  · exact totals before opened
  · rcases List.mem_append.mp opened with known | new
    · exact totals before known
    · rw [List.mem_singleton.mp new]
      intro month none
      exact absurd none List.not_mem_nil

/-- In the history of any rides the totals of every month are those of its own rides. -/
theorem FirebaseManager.organizeUserRides_totals (formatters : Formatters) (rides : List Ride)
    : ∃ history, organizeUserRides formatters rides = .ok history ∧ history.TotalsOfRides := by
  refine ⟨_, organizeUserRides_eq formatters rides, ?_⟩
  refine List.foldlRecOn (sortedByDate rides) (RideHistory.file formatters) ?_ ?_
  · intro year member
    exact absurd member List.not_mem_nil
  · exact fun history totals ride _ => totals.file formatters ride

end AgriGuardian.Rides
