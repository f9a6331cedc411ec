import AgriGuardian.Rides.Filing

/-! When organizing rides partitions them.
An open month takes every later ride with its name, also of another year. So the history is
a partition exactly when no two rides share a month name across years.
-/

namespace AgriGuardian.Rides

open Swift
open Basis

/-- Every ride occurs in the history as often as in the list, and under the strings of its
own date.
-/
structure Partitions (formatters : Formatters) (rides : List Ride) (history : RideHistory)
    : Prop where
  occurrences : ∀ ride, history.rides.count ride = rides.count ride
  strings
    : ∀ year ∈ history.years, ∀ month ∈ year.months, ∀ ride ∈ month.rides,
        formatters.yearOf ride = year.yearName ∧ formatters.monthOf ride = month.monthName

/-- Rides with the same month string have the same year string. -/
def MonthsNotShared (formatters : Formatters) (rides : List Ride) : Prop :=
  ∀ ride ∈ rides, ∀ other ∈ rides,
    formatters.monthOf ride = formatters.monthOf other
    → formatters.yearOf ride = formatters.yearOf other

namespace Filing

variable {formatters : Formatters}

/-- Without shared months, a month holds exactly the rides filed under it. -/
theorem bucket_eq_filter {rides : List Ride} (unshared : MonthsNotShared formatters rides)
    {year month : String} (opened : month ∈ monthNames formatters rides year)
    : bucket formatters rides year month = rides.filter (isFiledUnder formatters year month) := by
  obtain ⟨first, firstMember, firstFiled⟩ := mem_monthNames.mp opened
  obtain ⟨firstYear, firstMonth⟩ := of_decide_eq_true firstFiled
  let other : Ride → Bool := fun ride => !isFiledUnder formatters year month ride
  have skipped : (rides.takeWhile other).filter (isFiledUnder formatters year month) = [] := by
    rw [List.filter_eq_nil_iff]
    intro ride member filed
    have different := List.mem_takeWhile_imp member
    simp [other, filed] at different
  have kept
      : (rides.dropWhile other).filter (fun ride => formatters.monthOf ride = month)
        = (rides.dropWhile other).filter (isFiledUnder formatters year month) := by
    refine List.filter_congr fun ride member => ?_
    have inRides := (List.dropWhile_suffix other).subset member
    by_cases same : formatters.monthOf ride = month
    · have sameYear :=
        unshared ride inRides first firstMember (same.trans firstMonth.symm)
      simp [isFiledUnder, same, sameYear, firstYear]
    · simp [isFiledUnder, same]
  calc
    bucket formatters rides year month
        = (rides.dropWhile other).filter (isFiledUnder formatters year month) := kept
    _ = (rides.takeWhile other).filter (isFiledUnder formatters year month)
          ++ (rides.dropWhile other).filter (isFiledUnder formatters year month) := by
        rw [skipped, List.nil_append]
    _ = rides.filter (isFiledUnder formatters year month) := by
        rw [← List.filter_append, List.takeWhile_append_dropWhile]

/-- Without shared months, the rides of a year are those with the year's string. -/
theorem rides_yearOfRides {rides : List Ride} (unshared : MonthsNotShared formatters rides)
    (year : String)
    : ((yearOfRides formatters rides year).months.flatMap RideMonth.rides).Perm
        (rides.filter fun ride => formatters.yearOf ride = year) := by
  let inYear := rides.filter fun ride => formatters.yearOf ride = year
  have groups
      : (yearOfRides formatters rides year).months.flatMap RideMonth.rides
        = (monthNames formatters rides year).flatMap fun month =>
            inYear.filter fun ride => formatters.monthOf ride = month := by
    rw [yearOfRides, List.flatMap_map]
    refine List.flatMap_congr fun month opened => ?_
    calc
      bucket formatters rides year month
          = rides.filter (isFiledUnder formatters year month) := bucket_eq_filter unshared opened
      _ = inYear.filter fun ride => formatters.monthOf ride = month := by
          rw [List.filter_filter]
          refine List.filter_congr fun ride _ => ?_
          simp [isFiledUnder, Bool.and_comm]
  rw [groups]
  refine flatMap_filter_perm (nodup_eraseDups _) formatters.monthOf fun ride member => ?_
  exact List.mem_eraseDups.mpr (List.mem_map_of_mem member)

theorem rides_history {rides : List Ride} (unshared : MonthsNotShared formatters rides)
    : (history formatters rides).rides.Perm rides := by
  have groups
      : (history formatters rides).rides.Perm
          ((rides.map formatters.yearOf).eraseDups.flatMap fun year =>
            rides.filter fun ride => formatters.yearOf ride = year) := by
    rw [RideHistory.rides, history, List.flatMap_map]
    exact List.Perm.flatMap_left _ fun year _ => rides_yearOfRides unshared year
  refine groups.trans ?_
  refine flatMap_filter_perm (nodup_eraseDups _) formatters.yearOf fun ride member => ?_
  exact List.mem_eraseDups.mpr (List.mem_map_of_mem member)

/-- Of two rides with one month string, one is filed in the month of the other: the month
opened first takes the ride that opens the other.
-/
theorem mem_bucket_of_shared {rides : List Ride} {ride other : Ride} (rideMember : ride ∈ rides)
    (otherMember : other ∈ rides) {month : String} (rideMonth : formatters.monthOf ride = month)
    (otherMonth : formatters.monthOf other = month)
    : other ∈ bucket formatters rides (formatters.yearOf ride) month
      ∨ ride ∈ bucket formatters rides (formatters.yearOf other) month := by
  let skips (year : String) : Ride → Bool := fun ride => !isFiledUnder formatters year month ride
  let before := rides.takeWhile (skips (formatters.yearOf ride))
  let after := rides.dropWhile (skips (formatters.yearOf ride))
  have split : before ++ after = rides := List.takeWhile_append_dropWhile
  have rideAfter : ride ∈ after := by
    rcases List.mem_append.mp (split.symm ▸ rideMember) with early | late
    · have skipped := List.mem_takeWhile_imp early
      simp [skips, isFiledUnder, rideMonth] at skipped
    · exact late
  rcases List.mem_append.mp (split.symm ▸ otherMember) with early | late
  · have started : before.dropWhile (skips (formatters.yearOf other)) ≠ [] := by
      rw [Ne, List.dropWhile_eq_nil_iff]
      intro all
      have skipped := all other early
      simp [skips, isFiledUnder, otherMonth] at skipped
    have suffix
        : rides.dropWhile (skips (formatters.yearOf other))
          = before.dropWhile (skips (formatters.yearOf other)) ++ after := by
      rw [← split, List.dropWhile_append, if_neg (by simpa using started)]
    refine Or.inr (List.mem_filter.mpr ⟨?_, by simpa using rideMonth⟩)
    rw [suffix]
    exact List.mem_append_right _ rideAfter
  · exact Or.inl (List.mem_filter.mpr ⟨late, by simpa using otherMonth⟩)

/-- The rides of a month of the closed form are its bucket. -/
theorem strings_bucket {rides : List Ride}
    (partitions : Partitions formatters rides (history formatters rides))
    {ride other : Ride} (rideMember : ride ∈ rides)
    (inBucket
      : other ∈ bucket formatters rides (formatters.yearOf ride) (formatters.monthOf ride))
    : formatters.yearOf other = formatters.yearOf ride := by
  have opened : formatters.monthOf ride ∈ monthNames formatters rides (formatters.yearOf ride) :=
    mem_monthNames.mpr ⟨ride, rideMember, by simp [isFiledUnder]⟩
  have year : formatters.yearOf ride ∈ (rides.map formatters.yearOf).eraseDups :=
    List.mem_eraseDups.mpr (List.mem_map_of_mem rideMember)
  exact (partitions.strings _ (List.mem_map_of_mem year) _ (List.mem_map_of_mem opened) _
    inBucket).1

theorem partitions_history_iff {rides : List Ride}
    : Partitions formatters rides (history formatters rides)
      ↔ MonthsNotShared formatters rides := by
  constructor
  · intro partitions ride rideMember other otherMember same
    rcases mem_bucket_of_shared rideMember otherMember rfl same.symm with inFirst | inSecond
    · exact (strings_bucket partitions rideMember inFirst).symm
    · rw [same] at inSecond
      exact strings_bucket partitions otherMember inSecond
  · intro unshared
    refine ⟨fun ride => (rides_history unshared).count_eq ride, ?_⟩
    intro year yearMember month monthMember ride rideMember
    obtain ⟨yearName, -, rfl⟩ := List.mem_map.mp yearMember
    obtain ⟨monthName, opened, rfl⟩ := List.mem_map.mp monthMember
    have filed : ride ∈ bucket formatters rides yearName monthName := rideMember
    rw [bucket_eq_filter unshared opened] at filed
    exact of_decide_eq_true (List.mem_filter.mp filed).2

end Filing

namespace FirebaseManager

theorem sortedByDate_perm (rides : List Ride) : (sortedByDate rides).Perm rides :=
  List.perm_insertionSort _ rides

/-- Organizing rides partitions them exactly when no two of them share a month string
across years.
-/
theorem organizeUserRides_partitions_iff (formatters : Formatters) (rides : List Ride)
    : (∃ history,
          organizeUserRides formatters rides = .ok history ∧ Partitions formatters rides history)
      ↔ MonthsNotShared formatters rides := by
  have perm := sortedByDate_perm rides
  have partitions
      : Partitions formatters rides (Filing.history formatters (sortedByDate rides))
        ↔ Partitions formatters (sortedByDate rides)
            (Filing.history formatters (sortedByDate rides)) := by
    constructor
    · exact fun given => ⟨fun ride => (given.1 ride).trans (perm.count_eq ride).symm, given.2⟩
    · exact fun given => ⟨fun ride => (given.1 ride).trans (perm.count_eq ride), given.2⟩
  have unshared
      : MonthsNotShared formatters (sortedByDate rides) ↔ MonthsNotShared formatters rides := by
    simp only [MonthsNotShared, perm.mem_iff]
  rw [← unshared, ← Filing.partitions_history_iff, ← partitions, organizeUserRides_eq_history]
  simp

/-- The strings of dates in January of 2019 and 2020. -/
private def januaries : Formatters where
  year date := if date < 599529600 then "2019" else "2020"
  month _ := "January"

/-- A ride on 15 January 2019 and one on 15 January 2020: the second is filed twice. -/
theorem organizeUserRides_repeats_ride
    : ¬ ∀ formatters rides, ∃ history,
        organizeUserRides formatters rides = .ok history
        ∧ Partitions formatters rides history := by
  intro claim
  obtain ⟨history, organized, partitions⟩ :=
    claim januaries [Ride.init 569203200, Ride.init 600739200]
  rw [organizeUserRides_eq_history] at organized
  obtain rfl := Except.ok.inj organized
  have once := partitions.occurrences (Ride.init 600739200)
  revert once
  decide

end FirebaseManager

end AgriGuardian.Rides
