import AgriGuardian.Rides.HistoryOrder

/-! The history does not depend on the order in which rides are loaded.
Sorting leaves open which of several rides with one date comes first, but not the sequence
of dates, and only dates decide which years and months are opened and where a ride goes.
-/

namespace AgriGuardian.Rides

open Swift
open Basis

/-- The months have one name, the same rides up to their order, and the same totals. -/
structure RideMonth.SameGroup (month other : RideMonth) : Prop where
  monthName : month.monthName = other.monthName
  rides : month.rides.Perm other.rides
  time : month.time = other.time
  mileage : month.mileage = other.mileage
  rollovers : month.rollovers = other.rollovers

/-- The years have one name, and the same months in the same order. -/
structure RideYear.SameGroups (year other : RideYear) : Prop where
  yearName : year.yearName = other.yearName
  months : List.Forall₂ RideMonth.SameGroup year.months other.months

/-- The histories have the same years in the same order. -/
def RideHistory.SameGroups (history other : RideHistory) : Prop :=
  List.Forall₂ RideYear.SameGroups history.years other.years

theorem RideMonth.sameGroup_ofRides (name : String) {rides others : List Ride}
    (perm : rides.Perm others)
    : (RideMonth.ofRides name rides).SameGroup (RideMonth.ofRides name others) where
  monthName := rfl
  rides := perm
  time := (perm.map Ride.totalTime).sum_eq
  mileage := (perm.map Ride.mileage).sum_eq
  rollovers := congrArg Nat.cast (perm.countP_eq Ride.didRollover)

namespace Filing

variable {formatters : Formatters} {rides others : List Ride}

/-- Which months a year opens depends on the dates alone. -/
theorem monthNames_eq_of_dates (sameDates : rides.map Ride.rideDate = others.map Ride.rideDate)
    (year : String)
    : monthNames formatters rides year = monthNames formatters others year := by
  have byDate (rides : List Ride)
      : (rides.filter fun ride => formatters.yearOf ride = year).map formatters.monthOf
        = ((rides.map Ride.rideDate).filter fun date => formatters.year date = year).map
            formatters.month := by
    rw [List.filter_map, List.map_map]
    rfl
  rw [monthNames, monthNames, byDate, byDate, sameDates]

/-- Rides in the order of their dates fill a month up to the order of rides with one date. -/
theorem bucket_perm (sorted : SortedBy Ride.rideDate rides)
    (othersSorted : SortedBy Ride.rideDate others) (perm : rides.Perm others)
    (year month : String)
    : (bucket formatters rides year month).Perm (bucket formatters others year month) := by
  refine List.Perm.filter _ ?_
  exact sorted.dropWhile_perm othersSorted perm fun date =>
    !decide (formatters.year date = year ∧ formatters.month date = month)

theorem sameGroups_yearOfRides (sorted : SortedBy Ride.rideDate rides)
    (othersSorted : SortedBy Ride.rideDate others) (perm : rides.Perm others) (year : String)
    : (yearOfRides formatters rides year).SameGroups (yearOfRides formatters others year) where
  yearName := rfl
  months := by
    rw [yearOfRides, yearOfRides,
      monthNames_eq_of_dates (sorted.map_eq_of_perm othersSorted perm)]
    exact forall₂_map fun month _ =>
      RideMonth.sameGroup_ofRides month (bucket_perm sorted othersSorted perm year month)

theorem sameGroups_history (sorted : SortedBy Ride.rideDate rides)
    (othersSorted : SortedBy Ride.rideDate others) (perm : rides.Perm others)
    : (history formatters rides).SameGroups (history formatters others) := by
  have sameYears : rides.map formatters.yearOf = others.map formatters.yearOf := by
    have byDate (rides : List Ride)
        : rides.map formatters.yearOf = (rides.map Ride.rideDate).map formatters.year := by
      rw [List.map_map]
      rfl
    rw [byDate, byDate, sorted.map_eq_of_perm othersSorted perm]
  rw [RideHistory.SameGroups, history, history, sameYears]
  exact forall₂_map fun year _ => sameGroups_yearOfRides sorted othersSorted perm year

end Filing

namespace FirebaseManager

/-- Permuting the rides permutes at most the rides within the months of the history. -/
theorem organizeUserRides_sameGroups (formatters : Formatters) {rides others : List Ride}
    (perm : rides.Perm others)
    : ∃ history other,
        organizeUserRides formatters rides = .ok history
        ∧ organizeUserRides formatters others = .ok other
        ∧ history.SameGroups other := by
  have sortedPerm : (sortedByDate rides).Perm (sortedByDate others) :=
    (sortedByDate_perm rides).trans (perm.trans (sortedByDate_perm others).symm)
  exact ⟨_, _, organizeUserRides_eq_history formatters rides,
    organizeUserRides_eq_history formatters others,
    Filing.sameGroups_history (sortedByDate_sorted rides) (sortedByDate_sorted others)
      sortedPerm⟩

/-- Two rides with one date, in both orders. -/
theorem organizeUserRides_sameGroups_tie
    : ∃ history other,
        organizeUserRides winters.formatters
            [Ride.init 600739200, (Ride.init 600739200).setMileage 5]
          = .ok history
        ∧ organizeUserRides winters.formatters
            [(Ride.init 600739200).setMileage 5, Ride.init 600739200]
          = .ok other
        ∧ history.SameGroups other :=
  organizeUserRides_sameGroups winters.formatters (List.Perm.swap _ _ [])

end FirebaseManager

end AgriGuardian.Rides
