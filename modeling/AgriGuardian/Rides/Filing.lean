import Mathlib.Data.List.TakeWhile
import AgriGuardian.Rides.OrganizeUserRides

/-! The history in closed form.
Years and months stand in the order of their first rides. A month of a year holds every
ride with the month's name, of whatever year, from the first ride of that year and month
on: the month is opened by a ride of its year, and after that the year is not asked.
-/

namespace AgriGuardian.Rides

open Swift
open Basis

abbrev Formatters.yearOf (formatters : Formatters) (ride : Ride) : String :=
  formatters.year ride.rideDate

abbrev Formatters.monthOf (formatters : Formatters) (ride : Ride) : String :=
  formatters.month ride.rideDate

/-- A month of the given rides, with their totals. -/
def RideMonth.ofRides (name : String) (rides : List Ride) : RideMonth where
  monthName := name
  rides := rides
  mileage := (rides.map Ride.mileage).sum
  time := (rides.map Ride.totalTime).sum
  rollovers := rides.countP Ride.didRollover

namespace Filing

variable (formatters : Formatters)

def isFiledUnder (year month : String) (ride : Ride) : Bool :=
  formatters.yearOf ride = year ∧ formatters.monthOf ride = month

/-- The names of the months a year opens for the rides. -/
def monthNames (rides : List Ride) (year : String) : List String :=
  ((rides.filter (fun ride => formatters.yearOf ride = year)).map formatters.monthOf).eraseDups

/-- The rides stored in a month of a year. -/
def bucket (rides : List Ride) (year month : String) : List Ride :=
  (rides.dropWhile (fun ride => !isFiledUnder formatters year month ride)).filter
    (fun ride => formatters.monthOf ride = month)

def yearOfRides (rides : List Ride) (year : String) : RideYear where
  yearName := year
  months := (monthNames formatters rides year).map fun month =>
    RideMonth.ofRides month (bucket formatters rides year month)

def history (rides : List Ride) : RideHistory where
  years := (rides.map formatters.yearOf).eraseDups.map (yearOfRides formatters rides)

variable {formatters}

theorem map_monthName_months (rides : List Ride) (year : String)
    : (yearOfRides formatters rides year).months.map RideMonth.monthName
      = monthNames formatters rides year := by
  rw [yearOfRides, List.map_map]
  exact List.map_id _

theorem map_yearName_years (rides : List Ride)
    : (history formatters rides).years.map RideYear.yearName
      = (rides.map formatters.yearOf).eraseDups := by
  rw [history, List.map_map]
  exact List.map_id _

theorem add_ofRides (name : String) (rides : List Ride) (ride : Ride)
    : (RideMonth.ofRides name rides).add ride = RideMonth.ofRides name (rides ++ [ride]) := by
  by_cases rolled : ride.didRollover = true
  · simp [RideMonth.ofRides, RideMonth.add, rolled]
  · simp [RideMonth.ofRides, RideMonth.add, rolled]

theorem mem_monthNames {rides : List Ride} {year month : String}
    : month ∈ monthNames formatters rides year
      ↔ ∃ ride ∈ rides, isFiledUnder formatters year month ride = true := by
  simp [monthNames, isFiledUnder, List.mem_eraseDups, and_assoc]

theorem monthNames_append (rides : List Ride) (ride : Ride) (year : String)
    : monthNames formatters (rides ++ [ride]) year
      = if formatters.monthOf ride ∉ monthNames formatters rides year
            ∧ year = formatters.yearOf ride then
          monthNames formatters rides year ++ [formatters.monthOf ride]
        else monthNames formatters rides year := by
  by_cases same : formatters.yearOf ride = year
  · have kept
        : (rides ++ [ride]).filter (fun ride => formatters.yearOf ride = year)
          = rides.filter (fun ride => formatters.yearOf ride = year) ++ [ride] := by
      simp [same]
    rw [monthNames, kept, List.map_append, List.map_singleton, eraseDups_append_singleton]
    split
    · rename_i known
      exact (if_neg fun opens => opens.1 (List.mem_eraseDups.mpr known)).symm
    · rename_i fresh
      exact (if_pos ⟨fun known => fresh (List.mem_eraseDups.mp known), same.symm⟩).symm
  · simp [monthNames, same, Ne.symm same]

/-- No ride is filed under a year and a month that the year has not opened. -/
theorem dropWhile_eq_nil_iff {rides : List Ride} {year month : String}
    : rides.dropWhile (fun ride => !isFiledUnder formatters year month ride) = []
      ↔ month ∉ monthNames formatters rides year := by
  rw [List.dropWhile_eq_nil_iff, mem_monthNames]
  simp

theorem bucket_eq_nil {rides : List Ride} {year month : String}
    (unopened : month ∉ monthNames formatters rides year)
    : bucket formatters rides year month = [] := by
  rw [bucket, dropWhile_eq_nil_iff.mpr unopened, List.filter_nil]

/-- An open month takes every further ride with its name. -/
theorem bucket_append {rides : List Ride} {ride : Ride} {year month : String}
    (opened : month ∈ monthNames formatters (rides ++ [ride]) year)
    : bucket formatters (rides ++ [ride]) year month
      = if formatters.monthOf ride = month then bucket formatters rides year month ++ [ride]
        else bucket formatters rides year month := by
  by_cases before : month ∈ monthNames formatters rides year
  · have started : rides.dropWhile (fun ride => !isFiledUnder formatters year month ride) ≠ [] :=
      fun empty => dropWhile_eq_nil_iff.mp empty before
    rw [bucket, List.dropWhile_append, if_neg (by simpa using started), List.filter_append]
    by_cases same : formatters.monthOf ride = month
    · simp [same, bucket]
    · simp [same, bucket]
  · have filed : isFiledUnder formatters year month ride = true := by
      obtain ⟨other, member, filed⟩ := mem_monthNames.mp opened
      rcases List.mem_append.mp member with earlier | last
      · exact absurd (mem_monthNames.mpr ⟨other, earlier, filed⟩) before
      · exact List.mem_singleton.mp last ▸ filed
    have same : formatters.monthOf ride = month := (of_decide_eq_true filed).2
    rw [bucket_eq_nil before, bucket, List.dropWhile_append, dropWhile_eq_nil_iff.mpr before]
    simp [filed, same]

/-- The months a year opens for a further ride, still without it. -/
theorem opened_yearOfRides (rides : List Ride) (ride : Ride) (year : String)
    : (yearOfRides formatters rides year).opened (formatters.yearOf ride) (formatters.monthOf ride)
      = (monthNames formatters (rides ++ [ride]) year).map fun month =>
          RideMonth.ofRides month (bucket formatters rides year month) := by
  have name : (yearOfRides formatters rides year).yearName = year := rfl
  rw [RideYear.opened, map_monthName_months, name, monthNames_append]
  split
  · rename_i opens
    rw [List.map_append, List.map_singleton, bucket_eq_nil opens.1]
    rfl
  · rfl

/-- Filing in a year adds the ride to the year's closed form. -/
theorem file_yearOfRides (rides : List Ride) (ride : Ride) (year : String)
    : (yearOfRides formatters rides year).file (formatters.yearOf ride) (formatters.monthOf ride)
        ride
      = yearOfRides formatters (rides ++ [ride]) year := by
  have filed
      : ∀ month ∈ monthNames formatters (rides ++ [ride]) year,
          (RideMonth.ofRides month (bucket formatters rides year month)).file
              (formatters.monthOf ride) ride
            = RideMonth.ofRides month (bucket formatters (rides ++ [ride]) year month) := by
    intro month member
    have name
        : (RideMonth.ofRides month (bucket formatters rides year month)).monthName = month := rfl
    rw [bucket_append member, RideMonth.file, name]
    by_cases same : formatters.monthOf ride = month
    · rw [if_pos same, if_pos same.symm, add_ofRides]
    · rw [if_neg same, if_neg (Ne.symm same)]
  rw [RideYear.file, opened_yearOfRides, List.map_map]
  exact congrArg (RideYear.mk year) (List.map_congr_left filed)

/-- The years opened for a further ride, still without it. -/
theorem opened_history (rides : List Ride) (ride : Ride)
    : (history formatters rides).opened (formatters.yearOf ride)
      = ((rides ++ [ride]).map formatters.yearOf).eraseDups.map
          (yearOfRides formatters rides) := by
  rw [RideHistory.opened, map_yearName_years, List.map_append, List.map_singleton,
    eraseDups_append_singleton]
  simp only [List.mem_eraseDups]
  split
  · rfl
  · rename_i fresh
    have unused
        : rides.filter (fun other => formatters.yearOf other = formatters.yearOf ride) = [] := by
      rw [List.filter_eq_nil_iff]
      intro other member same
      exact fresh (List.mem_map.mpr ⟨other, member, of_decide_eq_true same⟩)
    have empty : yearOfRides formatters rides (formatters.yearOf ride)
        = RideYear.init (formatters.yearOf ride) := by
      rw [yearOfRides, monthNames, unused]
      rfl
    rw [List.map_append, List.map_singleton, empty]
    rfl

/-- Filing a ride in the history adds it to the closed form. -/
theorem file_history (rides : List Ride) (ride : Ride)
    : (history formatters rides).file formatters ride = history formatters (rides ++ [ride]) := by
  rw [RideHistory.file]
  simp only [opened_history, List.map_map]
  exact congrArg RideHistory.mk
    (List.map_congr_left fun year _ => file_yearOfRides rides ride year)

/-- Filing rides one after another gives the closed form. -/
theorem foldl_file (rides : List Ride)
    : rides.foldl (RideHistory.file formatters) RideHistory.init = history formatters rides := by
  induction rides using List.reverseRecOn with
  | nil => rfl
  | append_singleton earlier ride ih =>
      rw [List.foldl_append, ih, List.foldl_cons, List.foldl_nil, file_history]

/-- A history holds no other rides than the ones filed. -/
theorem mem_of_mem_history {rides : List Ride} {ride : Ride}
    (member : ride ∈ (history formatters rides).rides)
    : ride ∈ rides := by
  obtain ⟨year, yearMember, inYear⟩ := List.mem_flatMap.mp member
  obtain ⟨yearName, -, rfl⟩ := List.mem_map.mp yearMember
  obtain ⟨month, monthMember, stored⟩ := List.mem_flatMap.mp inYear
  obtain ⟨monthName, -, rfl⟩ := List.mem_map.mp monthMember
  exact (List.dropWhile_sublist _).subset (List.mem_of_mem_filter stored)

end Filing

/-- Organizing rides gives the closed form of the rides in the order of their dates. -/
theorem FirebaseManager.organizeUserRides_eq_history (formatters : Formatters) (rides : List Ride)
    : organizeUserRides formatters rides
      = .ok (Filing.history formatters (sortedByDate rides)) := by
  rw [organizeUserRides_eq, Filing.foldl_file]

end AgriGuardian.Rides
