import AgriGuardian.Rides.HistoryNavigation

/-! When the screens of the ride history trap.
A cell of the table of months traps where the year of the last header has no such month. The
screen of a ride traps where its own calls do, the map where there is no sample file, and an
answer of the geocoder where it found no place. No other event traps.
-/

namespace AgriGuardian.Rides

open Swift
open Basis

-----------------------------------------------------------------------------------------
-- When each call returns
-----------------------------------------------------------------------------------------

/-- A cell is returned if and only if the year of the last header has a month at its row, of
which the time converts.
-/
theorem YearlyHistoryTableViewController.cellForRowAt_returns_iff
    {controller : YearlyHistoryTableViewController} {row : ℤ}
    : (∃ content, controller.cellForRowAt row = .ok content)
      ↔ ∃ month,
          controller.rideHistory.getMonth controller.sectionIdx row = .ok month
          ∧ -2 ^ 63 - 1 < month.time ∧ month.time < 2 ^ 63 := by
  simp only [cellForRowAt_eq_ok]
  constructor
  · rintro ⟨content, month, read, shows⟩
    exact ⟨month, read, stringFromTimeInterval_returns_iff.mp ⟨_, shows.time⟩⟩
  · rintro ⟨month, read, whole⟩
    obtain ⟨timeLabel, timed⟩ := stringFromTimeInterval_returns_iff.mpr whole
    exact ⟨⟨_, _, timeLabel, _, _⟩, month, read, ⟨rfl, rfl, timed, rfl, rfl⟩⟩

/-- The sample file is loaded as a ride with a location. -/
def HistoryServices.HasSample (services : HistoryServices) : Prop :=
  ∃ ride,
    FirebaseManager.loadGPSData services.earth services.foundation services.bundle services.now
      "gps_2020_03_09" "csv" = .ok ride
    ∧ ride.locations ≠ []

theorem RideMapViewController.viewDidLoad_returns_iff {services : HistoryServices}
    : (∃ shown, viewDidLoad services = .ok shown) ↔ services.HasSample := by
  constructor
  · rintro ⟨shown, called⟩
    obtain ⟨ride, loaded, later⟩ := bind_eq_ok.mp called
    obtain ⟨initialLoc, first, -⟩ := bind_eq_ok.mp later
    refine ⟨ride, loaded, ?_⟩
    intro empty
    rw [element_zero_eq_ok, empty] at first
    cases first
  · rintro ⟨ride, loaded, nonempty⟩
    obtain ⟨first, rest, split⟩ := List.exists_cons_of_ne_nil nonempty
    have initial : element ride.locations 0 = .ok first :=
      element_zero_eq_ok.mpr (by rw [split]; rfl)
    obtain ⟨⟨traceRoute, overlays⟩, looped⟩ :=
      @RideDetailMapCVC.foldlM_traceStep_returns ride.locations ([], []) (Nat.zero_le 1)
    refine ⟨(first.coordinate, overlays), ?_⟩
    rw [viewDidLoad, loaded, ok_bind, initial, ok_bind, loadRoute, looped]
    rfl

namespace HistoryNavigation

-----------------------------------------------------------------------------------------
-- The events that trap
-----------------------------------------------------------------------------------------

/-- The call ends in a trap. -/
def Traps (outcome : Outcome HistoryNavigation NavigationEffect NavigationFault) : Prop :=
  ∃ trap, outcome.2 = .error (.trapped trap)

@[simp]
theorem traps_ok (effects : List NavigationEffect) (next : HistoryNavigation)
    : ¬ Traps (effects, .ok next) := by
  simp [Traps]

@[simp]
theorem traps_notPossible (effects : List NavigationEffect)
    : ¬ Traps (effects, .error .notPossible) := by
  simp [Traps]

@[simp]
theorem traps_responding_iff {α : Type} {call : Checked α}
    {respond : α → List NavigationEffect × HistoryNavigation}
    : Traps (responding call respond) ↔ ¬ ∃ result, call = .ok result := by
  cases call with
  | error trap => simp [Traps, responding]
  | ok result => simp [Traps, responding]

/-- The event is one that the screens do not survive. A cell of the table of months takes its
month from the year of the header that was asked for last.
-/
def Crashes (services : HistoryServices) (navigation : HistoryNavigation)
    : NavigationEvent → Prop
  | .cellForRowAt sectionIndex row =>
      navigation.pushed = .nothing
      ∧ (∃ month, navigation.yearly.rideHistory.getMonth sectionIndex row = .ok month)
      ∧ ¬ ∃ month,
          navigation.yearly.rideHistory.getMonth navigation.yearly.sectionIdx row = .ok month
          ∧ -2 ^ 63 - 1 < month.time ∧ month.time < 2 ^ 63
  | .viewForSupplementaryElementOfKind =>
      ∃ controller detail,
        navigation.pushed = .ride controller detail ∧ detail.thisRide.locations = []
  | .cellForItemAt row =>
      ∃ controller detail,
        navigation.pushed = .ride controller detail
        ∧ (row = 0
            ∧ ¬ (-2 ^ 63 - 1 < detail.thisRide.totalTime ∧ detail.thisRide.totalTime < 2 ^ 63)
          ∨ (row = 4 ∨ row = 7) ∧ detail.thisRide.locations = [])
  | .value pointIndex | .label pointIndex =>
      ∃ controller detail,
        navigation.pushed = .ride controller detail
        ∧ detail.graph.isSome
        ∧ pointIndex < RideGraphCVCell.numberOfPoints
        ∧ detail.thisRide.locations.length ≤ pointIndex
  | .didSelectMap =>
      ∃ controller detail,
        navigation.pushed = .ride controller detail
        ∧ detail.map.isSome
        ∧ ¬ services.HasSample
  | .geocoded request =>
      ∃ startingPoint,
        navigation.geocoding[request]? = some startingPoint
        ∧ (services.detail.placemarks startingPoint).bind List.head? = none
  | _ => False

section Trapping

variable {services : HistoryServices} {history : RideHistory} {navigation : HistoryNavigation}

/-- A header that the table on top has is returned. -/
theorem not_traps_header {sectionIndex : ℕ} (inRange : sectionIndex < navigation.numberOfSections)
    : ¬ Traps (navigation.header sectionIndex) := by
  obtain ⟨yearly, pushed, geocoding⟩ := navigation
  cases pushed with
  | nothing =>
      obtain ⟨title, headed, -⟩ := header_nothing geocoding inRange
      rw [headed]
      exact traps_ok _ _
  | month controller => exact traps_ok _ _
  | ride | map => exact traps_notPossible _

/-- The cells of the table of months trap, and only those. -/
theorem traps_cellForRowAt_iff {sectionIndex row : ℕ}
    : Traps (navigation.navigate services (.cellForRowAt sectionIndex row))
      ↔ Crashes services navigation (.cellForRowAt sectionIndex row) := by
  obtain ⟨yearly, pushed, geocoding⟩ := navigation
  cases pushed with
  | nothing =>
      obtain ⟨valid, counted, found⟩ := hasRow_nothing yearly geocoding sectionIndex row
      simp only [navigate, counted, Crashes, true_and, ← found]
      cases valid with
      | false => simp
      | true =>
          have returned := @YearlyHistoryTableViewController.cellForRowAt_returns_iff yearly row
          simp [cell, returned]
  | month controller =>
      obtain ⟨valid, counted, -⟩ := hasRow_month yearly controller geocoding sectionIndex row
      simp only [navigate, counted]
      cases valid with
      | false => simp [Crashes]
      | true => simp [cell, Crashes]
  | ride | map => simp [navigate, hasRow, numberOfSections, Crashes]

/-- A tap at a row that the table on top has opens it. -/
theorem not_traps_didSelectRowAt (sectionIndex row : ℕ)
    : ¬ Traps (navigation.navigate services (.didSelectRowAt sectionIndex row)) := by
  obtain ⟨yearly, pushed, geocoding⟩ := navigation
  cases pushed with
  | nothing =>
      obtain ⟨valid, counted, found⟩ := hasRow_nothing yearly geocoding sectionIndex row
      simp only [navigate, counted]
      cases valid with
      | false => exact traps_notPossible _
      | true =>
          obtain ⟨month, read⟩ := found.mp rfl
          obtain ⟨title, selected⟩ := select_nothing geocoding read
          simp [selected]
  | month controller =>
      obtain ⟨valid, counted, found⟩ :=
        hasRow_month yearly controller geocoding sectionIndex row
      simp only [navigate, counted]
      cases valid with
      | false => exact traps_notPossible _
      | true =>
          obtain ⟨-, ride, read⟩ := found.mp rfl
          obtain ⟨title, selected⟩ := select_month yearly geocoding sectionIndex read
          simp [selected]
  | ride | map => simp [navigate, hasRow, numberOfSections]

theorem traps_detailHeader_iff
    : Traps navigation.detailHeader
      ↔ Crashes services navigation .viewForSupplementaryElementOfKind := by
  obtain ⟨yearly, pushed, geocoding⟩ := navigation
  cases pushed with
  | ride controller detail =>
      simp [detailHeader, Crashes, element_zero_eq_ok, ← List.head?_eq_none_iff,
        Option.eq_none_iff_forall_ne_some]
  | nothing | month | map => simp [detailHeader, Crashes]

theorem traps_detailCell_iff {row : ℕ}
    : Traps (navigation.detailCell services row)
      ↔ Crashes services navigation (.cellForItemAt row) := by
  obtain ⟨yearly, pushed, geocoding⟩ := navigation
  cases pushed with
  | ride controller detail =>
      simp only [detailCell, Crashes, PushedScreens.ride.injEq]
      split
      · rename_i inSection
        rw [traps_responding_iff,
          RideDetailCollectionViewController.cellForItemAt_returns_iff inSection, not_and_or,
          Classical.not_imp, Classical.not_imp]
        simp
      · rename_i outside
        rw [RideDetailCollectionViewController.numberOfItemsInSection] at outside
        refine iff_of_false (traps_notPossible _) ?_
        rintro ⟨_, _, -, ⟨first, -⟩ | ⟨other, -⟩⟩ <;> omega
  | nothing | month | map => simp [detailCell, Crashes]

variable (services) in
/-- A call on a point of the graph traps if and only if the ride has no such location. -/
theorem traps_point_iff {α : Type} (within : navigation.Within history) {pointIndex : ℕ}
    {call : List CLLocation → Checked α}
    (returns : ∀ points, (∃ result, call points = .ok result) ↔ pointIndex < points.length)
    (effect : α → NavigationEffect)
    : Traps (navigation.point pointIndex call effect)
      ↔ Crashes services navigation (.value pointIndex) := by
  obtain ⟨yearly, pushed, geocoding⟩ := navigation
  cases pushed with
  | ride controller detail =>
      obtain ⟨thisRide, graph, map⟩ := detail
      have shows : ShowsRide history controller ⟨thisRide, graph, map⟩ := within.pushed
      cases graph with
      | none => simp [point, Crashes]
      | some points =>
          obtain rfl : points = thisRide.locations := shows.points points rfl
          simp only [point, Crashes, PushedScreens.ride.injEq]
          split
          · rename_i inGraph
            rw [traps_responding_iff, returns, not_lt]
            simp [inGraph]
          · rename_i outside
            simp [outside]
  | nothing | month | map => simp [point, Crashes]

theorem traps_selectMap_iff
    : Traps (navigation.selectMap services) ↔ Crashes services navigation .didSelectMap := by
  obtain ⟨yearly, pushed, geocoding⟩ := navigation
  cases pushed with
  | ride controller detail =>
      simp only [selectMap, Crashes, PushedScreens.ride.injEq]
      split
      · rename_i onScreen
        rw [traps_responding_iff, RideMapViewController.viewDidLoad_returns_iff]
        simp [onScreen]
      · rename_i missing
        simp [missing]
  | nothing | month | map => simp [selectMap, Crashes]

theorem not_traps_back : ¬ Traps navigation.back := by
  obtain ⟨yearly, pushed, geocoding⟩ := navigation
  cases pushed with
  | nothing => exact traps_notPossible _
  | month | ride | map => exact traps_ok _ _

theorem traps_complete_iff {request : ℕ}
    : Traps (navigation.complete services request)
      ↔ Crashes services navigation (.geocoded request) := by
  rw [complete, Crashes]
  split
  · rename_i unasked
    simp [unasked]
  · rename_i startingPoint asked
    rw [traps_responding_iff, Ride.thisCity_returns_iff, asked]
    simp [Option.eq_none_iff_forall_ne_some]

/-- Where the screens are within a history, an event traps if and only if it is one that
crashes.
-/
theorem traps_navigate_iff (within : navigation.Within history) (event : NavigationEvent)
    : Traps (navigation.navigate services event) ↔ Crashes services navigation event := by
  cases event with
  | titleForHeaderInSection sectionIndex =>
      refine iff_of_false ?_ id
      rw [navigate]
      split
      · rename_i inRange
        exact not_traps_header inRange
      · exact traps_notPossible _
  | cellForRowAt sectionIndex row => exact traps_cellForRowAt_iff
  | didSelectRowAt sectionIndex row =>
      exact iff_of_false (not_traps_didSelectRowAt sectionIndex row) id
  | viewForSupplementaryElementOfKind => exact traps_detailHeader_iff
  | cellForItemAt row => exact traps_detailCell_iff
  | value pointIndex =>
      exact traps_point_iff services within (fun _ => RideGraphCVCell.value_returns_iff) _
  | label pointIndex =>
      exact traps_point_iff services within (fun _ => RideGraphCVCell.label_returns_iff) _
  | didSelectMap => exact traps_selectMap_iff
  | back => exact iff_of_false not_traps_back id
  | geocoded request => exact traps_complete_iff

/-- Where all rides are safe on the detail screen and the sample file is there, only cells of
the table of months crash.
-/
theorem crashes_of_safe (within : navigation.Within history)
    (safe : ∀ ride ∈ history.rides, RideDetailCollectionViewController.Safe services.detail ride)
    (sample : services.HasSample) {event : NavigationEvent}
    (crashes : Crashes services navigation event)
    : navigation.pushed = .nothing
      ∧ ∃ sectionIndex row, event = .cellForRowAt sectionIndex row := by
  have facts (ride : Ride) (stored : ride ∈ history.rides) :=
    (RideDetailCollectionViewController.safe_iff services.detail ride).mp (safe ride stored)
  have onTop {controller : MonthlyHistoryTableViewController}
      {detail : RideDetailCollectionViewController}
      (shown : navigation.pushed = .ride controller detail)
      : detail.thisRide ∈ history.rides := by
    have opens := within.pushed
    rw [shown] at opens
    exact ShowsRide.mem_rides opens
  cases event with
  | titleForHeaderInSection | didSelectRowAt | back => exact crashes.elim
  | cellForRowAt sectionIndex row => exact ⟨crashes.1, sectionIndex, row, rfl⟩
  | viewForSupplementaryElementOfKind =>
      obtain ⟨controller, detail, shown, empty⟩ := crashes
      have enough := (facts _ (onTop shown)).1
      simp [empty] at enough
  | cellForItemAt row =>
      obtain ⟨controller, detail, shown, ⟨-, tooLong⟩ | ⟨-, empty⟩⟩ := crashes
      · exact absurd (facts _ (onTop shown)).2.1 tooLong
      · have enough := (facts _ (onTop shown)).1
        simp [empty] at enough
  | value pointIndex | label pointIndex =>
      obtain ⟨controller, detail, shown, -, inGraph, past⟩ := crashes
      have enough := (facts _ (onTop shown)).1
      rw [RideGraphCVCell.numberOfPoints] at inGraph
      omega
  | didSelectMap =>
      obtain ⟨controller, detail, -, -, missing⟩ := crashes
      exact absurd sample missing
  | geocoded request =>
      obtain ⟨startingPoint, asked, nowhere⟩ := crashes
      obtain ⟨ride, stored, first⟩ :=
        within.geocoding startingPoint (List.mem_of_getElem? asked)
      obtain ⟨other, marker, same, marked⟩ := (facts ride stored).2.2
      obtain rfl := Option.some.inj (first.symm.trans same)
      rw [nowhere] at marked
      cases marked

end Trapping

/-- In a run, an event traps if and only if it is one that crashes, on screens that come from
the history.
-/
theorem traps_along (services : HistoryServices) (history : RideHistory)
    (events : List NavigationEvent)
    : Along (navigate services) (start history) events fun _ navigation event =>
        navigation.Within history
        ∧ (Traps (navigation.navigate services event) ↔ Crashes services navigation event) :=
  along_of_invariant (Within history) (fun _ _ _ _ within => within_navigate within)
    (fun _ event within => ⟨within, traps_navigate_iff within event⟩) (within_start history)
    events

end HistoryNavigation

end AgriGuardian.Rides
