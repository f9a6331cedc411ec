import AgriGuardian.Basis.SortedKeys
import AgriGuardian.Rides.HistoryNavigation

/-! The history up to a date, and how later rides are added to it.
Rides of later dates are filed behind the others, so the history of all rides is that of the
earlier ones with the later ones filed into it. No year, month or ride of the earlier history
moves.
-/

namespace AgriGuardian.Rides

open Swift
open Basis

/-- The month with further rides behind its own, and their totals. -/
structure RideMonth.GrowsBy (added : List Ride) (month grown : RideMonth) : Prop where
  monthName : grown.monthName = month.monthName
  rides : grown.rides = month.rides ++ added
  mileage : grown.mileage = month.mileage + (added.map Ride.mileage).sum
  time : grown.time = month.time + (added.map Ride.totalTime).sum
  rollovers : grown.rollovers = month.rollovers + added.countP Ride.didRollover

/-- Every month of the year takes the newer rides of its name, and further months may follow. -/
structure RideYear.GrowsBy (formatters : Formatters) (newer : List Ride) (year grown : RideYear)
    : Prop where
  yearName : grown.yearName = year.yearName
  months
    : ∃ kept opened,
        grown.months = kept ++ opened
        ∧ List.Forall₂
            (fun month after =>
              month.GrowsBy
                (newer.filter fun ride => formatters.monthOf ride = month.monthName) after)
            year.months kept

/-- Every year of the history grows in its place, and further years may follow. -/
def RideHistory.GrowsBy (formatters : Formatters) (newer : List Ride)
    (history grown : RideHistory)
    : Prop :=
  ∃ kept opened,
    grown.years = kept ++ opened
    ∧ List.Forall₂ (RideYear.GrowsBy formatters newer) history.years kept

-----------------------------------------------------------------------------------------
-- Filing one ride after another
-----------------------------------------------------------------------------------------

namespace RideMonth.GrowsBy

theorem refl (month : RideMonth) : month.GrowsBy [] month :=
  ⟨rfl, by simp, by simp, by simp, by simp⟩

theorem add {added : List Ride} {month grown : RideMonth} (grows : month.GrowsBy added grown)
    (ride : Ride)
    : month.GrowsBy (added ++ [ride]) (grown.add ride) where
  monthName := grows.monthName
  rides := by simp [RideMonth.add, grows.rides]
  mileage := by simp [RideMonth.add, grows.mileage, add_assoc]
  time := by simp [RideMonth.add, grows.time, add_assoc]
  rollovers := by
    by_cases rolled : ride.didRollover = true
    · simp [RideMonth.add, grows.rollovers, rolled, add_assoc]
    · simp [RideMonth.add, grows.rollovers, rolled]

/-- A month takes the next ride exactly when it has the ride's name. -/
theorem file {formatters : Formatters} {newer : List Ride} {month grown : RideMonth}
    (grows
      : month.GrowsBy (newer.filter fun ride => formatters.monthOf ride = month.monthName) grown)
    (ride : Ride)
    : month.GrowsBy
        ((newer ++ [ride]).filter fun other => formatters.monthOf other = month.monthName)
        (grown.file (formatters.monthOf ride) ride) := by
  rw [List.filter_append, RideMonth.file, grows.monthName]
  by_cases same : month.monthName = formatters.monthOf ride
  · rw [if_pos same, List.filter_cons_of_pos (by simpa using same.symm), List.filter_nil]
    exact grows.add ride
  · rw [if_neg same, List.filter_cons_of_neg (by simpa using Ne.symm same), List.filter_nil,
      List.append_nil]
    exact grows

end RideMonth.GrowsBy

theorem RideYear.GrowsBy.refl (formatters : Formatters) (year : RideYear)
    : year.GrowsBy formatters [] year where
  yearName := rfl
  months := by
    refine ⟨year.months, [], (List.append_nil _).symm, ?_⟩
    exact List.forall₂_same.mpr fun month _ => .refl month

/-- A year opens months behind the ones it has. -/
theorem RideYear.GrowsBy.file {formatters : Formatters} {newer : List Ride}
    {year grown : RideYear} (grows : year.GrowsBy formatters newer grown) (ride : Ride)
    : year.GrowsBy formatters (newer ++ [ride])
        (grown.file (formatters.yearOf ride) (formatters.monthOf ride) ride) where
  yearName := grows.yearName
  months := by
    obtain ⟨kept, opened, months, each⟩ := grows.months
    obtain ⟨fresh, opens⟩
        : ∃ fresh,
            grown.opened (formatters.yearOf ride) (formatters.monthOf ride)
              = kept ++ fresh := by
      rw [RideYear.opened, months]
      split
      · exact ⟨_, List.append_assoc ..⟩
      · exact ⟨opened, rfl⟩
    refine ⟨kept.map (RideMonth.file (formatters.monthOf ride) ride),
      fresh.map (RideMonth.file (formatters.monthOf ride) ride), ?_, ?_⟩
    · rw [RideYear.file, opens, List.map_append]
    · rw [List.forall₂_map_right_iff]
      exact each.imp fun _ _ month => month.file ride

/-- A history opens years behind the ones it has. -/
theorem RideHistory.GrowsBy.file {formatters : Formatters} {newer : List Ride}
    {history grown : RideHistory} (grows : history.GrowsBy formatters newer grown) (ride : Ride)
    : history.GrowsBy formatters (newer ++ [ride]) (grown.file formatters ride) := by
  obtain ⟨kept, opened, years, each⟩ := grows
  obtain ⟨fresh, opens⟩
      : ∃ fresh, grown.opened (formatters.yearOf ride) = kept ++ fresh := by
    rw [RideHistory.opened, years]
    split
    · exact ⟨opened, rfl⟩
    · exact ⟨_, List.append_assoc ..⟩
  let file := RideYear.file (formatters.yearOf ride) (formatters.monthOf ride) ride
  refine ⟨kept.map file, fresh.map file, ?_, ?_⟩
  · rw [← List.map_append, ← opens]
    rfl
  · rw [List.forall₂_map_right_iff]
    exact each.imp fun _ _ year => year.file ride

/-- Filing rides grows a history by them. Witness: induction from the right. -/
theorem RideHistory.growsBy_foldl (formatters : Formatters) (history : RideHistory)
    (newer : List Ride)
    : history.GrowsBy formatters newer
        (newer.foldl (RideHistory.file formatters) history) := by
  induction newer using List.reverseRecOn with
  | nil =>
      refine ⟨history.years, [], (List.append_nil _).symm, ?_⟩
      exact List.forall₂_same.mpr fun year _ => .refl formatters year
  | append_singleton earlier ride ih =>
      rw [List.foldl_append]
      exact ih.file ride

/-- Rides stay where they are. -/
theorem RideHistory.GrowsBy.getRide {formatters : Formatters} {newer : List Ride}
    {history grown : RideHistory} (grows : history.GrowsBy formatters newer grown)
    {yearIndex monthIndex rideIndex : ℤ} {month : RideMonth} {ride : Ride}
    (found : history.getMonth yearIndex monthIndex = .ok month)
    (read : month.getRide rideIndex = .ok ride)
    : ∃ after,
        grown.getMonth yearIndex monthIndex = .ok after
        ∧ after.monthName = month.monthName
        ∧ after.getRide rideIndex = .ok ride := by
  obtain ⟨keptYears, openedYears, years, eachYear⟩ := grows
  obtain ⟨months, listed, monthRead⟩ := bind_eq_ok.mp found
  obtain ⟨year, yearRead, named⟩ := bind_eq_ok.mp listed
  obtain rfl := Except.ok.inj named
  obtain ⟨grownYear, grownRead, yearGrows⟩ := element_of_forall₂ eachYear yearRead
  obtain ⟨keptMonths, openedMonths, grownMonths, eachMonth⟩ := yearGrows.months
  obtain ⟨after, afterRead, monthGrows⟩ := element_of_forall₂ eachMonth monthRead
  refine ⟨after, ?_, monthGrows.monthName, ?_⟩
  · rw [RideHistory.getMonth, RideHistory.getMonths, years,
      element_append_of_ok grownRead openedYears, ok_bind, ok_bind, grownMonths]
    exact element_append_of_ok afterRead openedMonths
  · rw [RideMonth.getRide, monthGrows.rides]
    exact element_append_of_ok read _

/-- For every date, the history of all rides is that of the rides before the date, grown by
those from the date on. So what was to be found in it before is to be found at the same
place, and the totals of its months are those of before and of what is added.
-/
theorem FirebaseManager.organizeUserRides_grows (formatters : Formatters) (rides : List Ride)
    (cut : Date)
    : ∃ history grown,
        organizeUserRides formatters (rides.filter fun ride => ride.rideDate < cut)
          = .ok history
        ∧ organizeUserRides formatters rides = .ok grown
        ∧ history.GrowsBy formatters
            (sortedByDate (rides.filter fun ride => cut ≤ ride.rideDate)) grown
        ∧ ∀ yearIndex monthIndex rideIndex month ride,
            history.getMonth yearIndex monthIndex = .ok month
            → month.getRide rideIndex = .ok ride
            → ∃ after,
                grown.getMonth yearIndex monthIndex = .ok after
                ∧ after.monthName = month.monthName
                ∧ after.getRide rideIndex = .ok ride := by
  let earlier := rides.filter fun ride => ride.rideDate < cut
  let newer := rides.filter fun ride => cut ≤ ride.rideDate
  let history := (sortedByDate earlier).foldl (RideHistory.file formatters) RideHistory.init
  have split : sortedByDate rides = sortedByDate earlier ++ sortedByDate newer :=
    insertionSort_eq_append Ride.rideDate cut rides
  have grows := RideHistory.growsBy_foldl formatters history (sortedByDate newer)
  refine ⟨history, _, organizeUserRides_eq formatters earlier, ?_, grows, ?_⟩
  · rw [organizeUserRides_eq, split, List.foldl_append]
  · exact fun _ _ _ _ _ => grows.getRide

end AgriGuardian.Rides
