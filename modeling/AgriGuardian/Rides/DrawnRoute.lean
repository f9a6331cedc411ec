import AgriGuardian.Rides.RideDecoding
import AgriGuardian.Rides.RideDetail

/-! The routes that two screens draw for a ride.
The loop keeps the location before the current one. At the first location, which has none
before it, it draws a line from the location to itself.
-/

namespace AgriGuardian.Rides

open Swift
open Basis

namespace RideMapViewController

/-- The overlays that are added. The body of the loop is the one of `RideDetailMapCVC`, word
for word.
-/
def loadRoute (coords : List CLLocation)
    : Checked (List (CLLocationCoordinate2D × CLLocationCoordinate2D)) := do
  let (_, overlays) ← coords.foldlM RideDetailMapCVC.traceStep ([], [])
  .ok overlays

end RideMapViewController

/-- The length of a line. -/
def Distance.lineLength (earth : Distance)
    (line : CLLocationCoordinate2D × CLLocationCoordinate2D)
    : ℚ :=
  earth.leg line.1 line.2

/-- One line for each location: from the location before it, or from the first to itself. -/
structure JoinsLocations (coords : List CLLocation)
    (overlays : List (CLLocationCoordinate2D × CLLocationCoordinate2D))
    : Prop where
  count : overlays.length = coords.length
  first
    : ∀ location ∈ coords.head?,
        overlays[0]? = some (location.coordinate, location.coordinate)
  later
    : ∀ (i : ℕ) (prev curr : CLLocation),
        coords[i]? = some prev
        → coords[i + 1]? = some curr
        → overlays[i + 1]? = some (prev.coordinate, curr.coordinate)

/-- The lines from each location to the next, when `prev` is before the first one. -/
def linesFrom (prev : CLLocation) (coords : List CLLocation)
    : List (CLLocationCoordinate2D × CLLocationCoordinate2D) :=
  ((prev :: coords).map CLLocation.coordinate).zip (coords.map CLLocation.coordinate)

theorem joinsLocations_linesFrom (first : CLLocation) (rest : List CLLocation)
    : JoinsLocations (first :: rest) (linesFrom first (first :: rest)) where
  count := by simp [linesFrom]
  first := by simp [linesFrom]
  later := by
    intro i prev curr before here
    rw [linesFrom, List.getElem?_zip_eq_some, List.map_cons, List.getElem?_cons_succ,
      List.getElem?_map, before, List.getElem?_map, here]
    exact ⟨rfl, rfl⟩

/-- The lines from a location to itself and on to the next ones are as long as the path. -/
theorem sum_lineLength_linesFrom {earth : Distance}
    (toItself : ∀ coordinate, earth.distance coordinate coordinate = 0) (first : CLLocation)
    (rest : List CLLocation)
    : ((linesFrom first (first :: rest)).map earth.lineLength).sum
      = pairSum earth.leg ((first :: rest).map CLLocation.coordinate) := by
  have lines := pairSum_cons_eq_sum_zip earth.leg first.coordinate
    ((first :: rest).map CLLocation.coordinate)
  calc
    ((linesFrom first (first :: rest)).map earth.lineLength).sum
        = pairSum earth.leg
            (first.coordinate :: (first :: rest).map CLLocation.coordinate) := lines.symm
    _ = earth.leg first.coordinate first.coordinate
          + pairSum earth.leg ((first :: rest).map CLLocation.coordinate) := rfl
    _ = pairSum earth.leg ((first :: rest).map CLLocation.coordinate) := by
        rw [Distance.leg, toItself, zero_add]

namespace RideDetailMapCVC

/-- At the first location the loop appends it twice. -/
theorem traceStep_first
    (drawn : List (CLLocationCoordinate2D × CLLocationCoordinate2D)) (coord : CLLocation)
    : traceStep ([], drawn) coord
      = .ok ([coord], drawn ++ [(coord.coordinate, coord.coordinate)]) := rfl

/-- At a later location the loop holds the one before it. -/
theorem traceStep_later
    (drawn : List (CLLocationCoordinate2D × CLLocationCoordinate2D)) (prev coord : CLLocation)
    : traceStep ([prev], drawn) coord
      = .ok ([coord], drawn ++ [(prev.coordinate, coord.coordinate)]) := rfl

theorem foldlM_traceStep (coords : List CLLocation)
    (drawn : List (CLLocationCoordinate2D × CLLocationCoordinate2D)) (prev : CLLocation)
    : ∃ traceRoute,
        coords.foldlM traceStep ([prev], drawn)
          = .ok (traceRoute, drawn ++ linesFrom prev coords) := by
  induction coords generalizing drawn prev with
  | nil => exact ⟨[prev], by simp [linesFrom]⟩
  | cons coord rest ih =>
      obtain ⟨traceRoute, looped⟩ := ih (drawn ++ [(prev.coordinate, coord.coordinate)]) coord
      refine ⟨traceRoute, ?_⟩
      rw [List.foldlM_cons, traceStep_later, ok_bind, looped, List.append_assoc]
      rfl

/-- The loop draws the lines of the locations. -/
theorem foldlM_traceStep_start (first : CLLocation) (rest : List CLLocation)
    : ∃ traceRoute,
        (first :: rest).foldlM traceStep ([], [])
          = .ok (traceRoute, linesFrom first (first :: rest)) := by
  obtain ⟨traceRoute, looped⟩ :=
    foldlM_traceStep rest [(first.coordinate, first.coordinate)] first
  refine ⟨traceRoute, ?_⟩
  rw [List.foldlM_cons, traceStep_first, ok_bind, List.nil_append, looped]
  rfl

end RideDetailMapCVC

/-- Both screens draw the locations of a ride in turn, and the lines are as long as the
mileage of the ride that any document with these coordinates gives.
-/
theorem loadRoute_draws_ride {earth : Distance}
    (toItself : ∀ coordinate, earth.distance coordinate coordinate = 0)
    {coords : List CLLocation} (nonempty : coords ≠ []) (miles : ℚ)
    : ∃ route overlays,
        RideDetailMapCVC.loadRoute coords miles = .ok route
        ∧ RideMapViewController.loadRoute coords = .ok overlays
        ∧ route.overlays = overlays
        ∧ JoinsLocations coords overlays
        ∧ ∀ now data ride,
            Ride.ofData earth now data = .ok ride
            → ride.locations.map CLLocation.coordinate = coords.map CLLocation.coordinate
            → (overlays.map earth.lineLength).sum = ride.mileage := by
  obtain ⟨first, rest, rfl⟩ := List.exists_cons_of_ne_nil nonempty
  obtain ⟨traceRoute, looped⟩ := RideDetailMapCVC.foldlM_traceStep_start first rest
  have initial : element (first :: rest) 0 = .ok first := element_zero_eq_ok.mpr rfl
  have drawn : RideMapViewController.loadRoute (first :: rest)
      = .ok (linesFrom first (first :: rest)) := by
    rw [RideMapViewController.loadRoute, looped, ok_bind]
  have detailed : ∃ route,
      RideDetailMapCVC.loadRoute (first :: rest) miles = .ok route
      ∧ route.overlays = linesFrom first (first :: rest) := by
    rw [RideDetailMapCVC.loadRoute, initial, ok_bind, looped, ok_bind]
    exact ⟨_, rfl, rfl⟩
  obtain ⟨route, loaded, overlays⟩ := detailed
  refine ⟨route, _, loaded, drawn, overlays, joinsLocations_linesFrom first rest, ?_⟩
  intro now data ride returned located
  obtain ⟨fields, -, read⟩ := Ride.exists_readFrom returned
  rw [sum_lineLength_linesFrom toItself, read.mileage, located]

private def alongEquator : Distance where
  distance location other := |location.longitude - other.longitude|
  nonneg _ _ := abs_nonneg _

private def threePlaces : List CLLocation :=
  [⟨⟨0, 0⟩, 0, 0, 0, 0, 0, 0⟩, ⟨⟨0, 1⟩, 0, 0, 0, 0, 0, 1⟩, ⟨⟨0, 3⟩, 0, 0, 0, 0, 0, 2⟩]

theorem loadRoute_draws_ride_threePlaces
    : ∃ route overlays,
        RideDetailMapCVC.loadRoute threePlaces 5 = .ok route
        ∧ RideMapViewController.loadRoute threePlaces = .ok overlays
        ∧ route.overlays = overlays
        ∧ JoinsLocations threePlaces overlays
        ∧ ∀ now data ride,
            Ride.ofData alongEquator now data = .ok ride
            → ride.locations.map CLLocation.coordinate = threePlaces.map CLLocation.coordinate
            → (overlays.map alongEquator.lineLength).sum = ride.mileage :=
  loadRoute_draws_ride (fun coordinate => by simp [alongEquator]) (by simp [threePlaces]) 5

end AgriGuardian.Rides
