import Mathlib.Data.List.MinMax
import AgriGuardian.Rides.RideOrganization

/-! The ride detail screen.
Of its eight cells, the header and the graph, some read the first location of the ride, the
top speed needs a location, and the graph reads as many locations as the point count it
answers itself.
-/

namespace AgriGuardian.Rides

open Swift

/-- A place the geocoder found. -/
structure Placemark where
  subAdministrativeArea : Option String

/-- What the screen takes from the system. -/
structure DetailServices where
  /-- `Double(_:)` -/
  double : String → Option ℚ
  double_twoDecimals : ∀ value, (double (twoDecimals value)).isSome
  /-- `string(from:)` of the formatter of format `hh:mm` -/
  clock : Date → String
  /-- The placemarks that `reverseGeocodeLocation(_:)` hands to its completion. -/
  placemarks : CLLocation → Option (List Placemark)

/-- Metres per second converted to `UnitSpeed.milesPerHour`. -/
def milesPerHour (metersPerSecond : ℚ) : ℚ := metersPerSecond / (44704 / 100000)

namespace Ride

def getTime (ride : Ride) : Checked String := ride.totalTime.stringFromTimeInterval

def getMileage (ride : Ride) : String := twoDecimals (metersToMiles ride.mileage)

def getTopSpeed (ride : Ride) : Checked String :=
  match ride.locations.argmax CLLocation.speed with
  | some topSpeedLoco => .ok (twoDecimals (milesPerHour topSpeedLoco.speed))
  | none => .error (.fatalError "Unable to get top speed")

/-- Without locations the average is not a number, which the format prints as `nan`. -/
def getAvgSpeed (ride : Ride) : String :=
  let sum := ride.locations.foldl (fun sum loc => sum + loc.speed) 0
  if ride.locations.length = 0 then "nan"
  else twoDecimals (milesPerHour (sum / ride.locations.length))

/-- The completion of the geocoder in `getRideCity(completion:)`, the city it passes on. -/
def thisCity (services : DetailServices) (startingPoint : CLLocation) : Checked String :=
  match (services.placemarks startingPoint).bind List.head? with
  | some marker => .ok (marker.subAdministrativeArea.getD "Unknown")
  | none => .error (.fatalError "Cannot find placemarker in getRideCity()")

/-- `getRideCity(completion:)`, the city it completes with. -/
def getRideCity (services : DetailServices) (ride : Ride) : Checked String := do
  let startingPoint ← element ride.locations 0
  thisCity services startingPoint

end Ride

namespace RideDetailMapCVC

/-- What the map shows: a region around the first location and the lines of the route. -/
structure Route where
  center : CLLocationCoordinate2D
  latitudeDelta : ℚ
  longitudeDelta : ℚ
  overlays : List (CLLocationCoordinate2D × CLLocationCoordinate2D)

/-- The body of the loop over the coordinates, on `traceRoute` and the overlays so far. -/
def traceStep (state : List CLLocation × List (CLLocationCoordinate2D × CLLocationCoordinate2D))
    (coord : CLLocation)
    : Checked (List CLLocation × List (CLLocationCoordinate2D × CLLocationCoordinate2D)) := do
  let appended := state.1 ++ [coord]
  let traceRoute := if appended.length = 2 then appended else appended ++ [coord]
  let prev ← element traceRoute 0
  let curr ← element traceRoute 1
  let traceRoute ← removeAt traceRoute 0
  .ok (traceRoute, state.2 ++ [(prev.coordinate, curr.coordinate)])

def loadRoute (coords : List CLLocation) (miles : ℚ) : Checked Route := do
  let initialLoc ← element coords 0
  let (_, overlays) ← coords.foldlM traceStep ([], [])
  let delta : ℚ := if miles < 1 then 3 / 1000 else 11 / 10
  .ok ⟨initialLoc.coordinate, delta, delta, overlays⟩

end RideDetailMapCVC

namespace RideGraphCVCell

def value (points : List CLLocation) (pointIndex : ℤ) : Checked ℚ := do
  let point ← element points pointIndex
  .ok point.speed

def label (services : DetailServices) (points : List CLLocation) (pointIndex : ℤ)
    : Checked String := do
  let point ← element points pointIndex
  .ok (services.clock point.timestamp)

def numberOfPoints : ℕ := 100

end RideGraphCVCell

namespace RideDetailCollectionViewController

/-- A cell of the screen. -/
inductive Cell
  | info (title value icon : String)
  | plain
  | graph (points : List CLLocation)
  | map (route : RideDetailMapCVC.Route)

def setupDetailCell (thisRide : Ride) (row : ℕ) : Checked Cell :=
  match row with
  | 0 => do
      let time ← thisRide.getTime
      .ok (.info "Total Time" time "clock")
  | 1 => .ok (.info "Avg. Speed" (thisRide.getAvgSpeed ++ "mph") "speedometer")
  | 2 => .ok (.info "Miles" (thisRide.getMileage ++ "mi") "circle")
  | 3 => .ok (.info "Rollovers" "00" "exclamationmark.triangle.fill")
  | 4 => do
      let topSpeed ← thisRide.getTopSpeed
      .ok (.info "Top Speed" (topSpeed ++ "mph") "gauge.badge.plus")
  | 5 => .ok (.info "Stops" "0" "hexagon.fill")
  | _ => .ok .plain

def numberOfItemsInSection : ℕ := 8

/-- `collectionView(_:cellForItemAt:)`. The points of the cells are the locations of the
ride, which `viewDidLoad` copies.
-/
def cellForItemAt (services : DetailServices) (thisRide : Ride) (row : ℕ) : Checked Cell :=
  let locationPoints := thisRide.locations
  if row < 6 then setupDetailCell thisRide row
  else if row = 6 then .ok (.graph locationPoints)
  else
    match services.double thisRide.getMileage with
    | none => .error .unexpectedNil
    | some miles => do
        let route ← RideDetailMapCVC.loadRoute locationPoints miles
        .ok (.map route)

def locationLabel (thisCity : String) : String := "📍 " ++ thisCity

/-- `collectionView(_:viewForSupplementaryElementOfKind:at:)`, the text of its label. -/
def headerText (services : DetailServices) (thisRide : Ride) : Checked String := do
  let thisCity ← thisRide.getRideCity services
  .ok (locationLabel thisCity)

/-- Every call the screen makes for a ride returns. -/
structure Safe (services : DetailServices) (thisRide : Ride) : Prop where
  cells
    : ∀ row, row < numberOfItemsInSection
        → ∃ cell, cellForItemAt services thisRide row = .ok cell
  header : ∃ text, headerText services thisRide = .ok text
  values
    : ∀ index : ℕ, index < RideGraphCVCell.numberOfPoints
        → ∃ value, RideGraphCVCell.value thisRide.locations index = .ok value
  labels
    : ∀ index : ℕ, index < RideGraphCVCell.numberOfPoints
        → ∃ label, RideGraphCVCell.label services thisRide.locations index = .ok label

end RideDetailCollectionViewController

-----------------------------------------------------------------------------------------
-- When each call returns
-----------------------------------------------------------------------------------------

/-- An interval converts to an integer when truncating it gives one in the range. -/
theorem nsInteger_returns_iff {value : ℚ}
    : (∃ time, nsInteger value = .ok time) ↔ -2 ^ 63 - 1 < value ∧ value < 2 ^ 63 := by
  have low : ((-2 ^ 63 - 1 : ℤ) : ℚ) = -2 ^ 63 - 1 := by norm_num
  have high : ((2 ^ 63 : ℤ) : ℚ) = 2 ^ 63 := by norm_num
  rw [nsInteger, checkedInt_returns_iff, IntRange, ← low, ← high]
  split
  · rename_i nonneg
    have floorNonneg : 0 ≤ ⌊value⌋ := Int.floor_nonneg.mpr nonneg
    rw [Int.floor_lt]
    refine and_congr_left fun _ => iff_of_true (by omega) ?_
    exact lt_of_lt_of_le (by norm_num) nonneg
  · rename_i negative
    have ceilNonpos : ⌈value⌉ ≤ 0 := Int.ceil_le.mpr (by simpa using (not_le.mp negative).le)
    rw [← Int.lt_ceil]
    refine and_congr (by omega) (iff_of_true (by omega) ?_)
    exact lt_of_lt_of_le (not_le.mp negative) (by norm_num)

theorem stringFromTimeInterval_returns_iff {interval : TimeInterval}
    : (∃ text, interval.stringFromTimeInterval = .ok text)
      ↔ -2 ^ 63 - 1 < interval ∧ interval < 2 ^ 63 := by
  rw [← nsInteger_returns_iff]
  constructor
  · intro ⟨text, returned⟩
    rw [TimeInterval.stringFromTimeInterval] at returned
    obtain ⟨time, converted, -⟩ := bind_eq_ok.mp returned
    exact ⟨time, converted⟩
  · intro ⟨time, converted⟩
    have inRange : IntRange time := checkedInt_range converted
    rw [TimeInterval.stringFromTimeInterval, converted]
    simp [quotient_of_pos inRange, remainder]

namespace Ride

theorem getTopSpeed_returns_iff {ride : Ride}
    : (∃ text, ride.getTopSpeed = .ok text) ↔ ride.locations ≠ [] := by
  have empty : ride.locations.argmax CLLocation.speed = none ↔ ride.locations = [] :=
    List.argmax_eq_none
  rw [getTopSpeed, ne_eq, ← empty]
  cases ride.locations.argmax CLLocation.speed with
  | none => simp
  | some fastest => simp

/-- The city is found when the geocoder finds a place at the first location. -/
def StartsAtPlace (services : DetailServices) (ride : Ride) : Prop :=
  ∃ first marker,
    ride.locations.head? = some first
    ∧ (services.placemarks first).bind List.head? = some marker

theorem thisCity_returns_iff {services : DetailServices} {startingPoint : CLLocation}
    : (∃ city, thisCity services startingPoint = .ok city)
      ↔ ∃ marker, (services.placemarks startingPoint).bind List.head? = some marker := by
  rw [thisCity]
  cases (services.placemarks startingPoint).bind List.head? with
  | none => simp
  | some marker => simp

theorem getRideCity_returns_iff {services : DetailServices} {ride : Ride}
    : (∃ city, ride.getRideCity services = .ok city) ↔ ride.StartsAtPlace services := by
  simp only [getRideCity, bind_eq_ok, element_zero_eq_ok, StartsAtPlace]
  constructor
  · intro ⟨city, first, found, returned⟩
    obtain ⟨marker, marked⟩ := thisCity_returns_iff.mp ⟨city, returned⟩
    exact ⟨first, marker, found, marked⟩
  · intro ⟨first, marker, found, marked⟩
    obtain ⟨city, returned⟩ := thisCity_returns_iff.mpr ⟨marker, marked⟩
    exact ⟨city, first, found, returned⟩

end Ride

namespace RideDetailMapCVC

/-- Each round of the loop leaves one location in `traceRoute`: with none before it, the
current one is appended twice.
-/
theorem traceStep_returns
    {state : List CLLocation × List (CLLocationCoordinate2D × CLLocationCoordinate2D)}
    (coord : CLLocation) (few : state.1.length ≤ 1)
    : ∃ next, traceStep state coord = .ok next ∧ next.1.length ≤ 1 := by
  obtain ⟨traceRoute, overlays⟩ := state
  cases traceRoute with
  | nil => exact ⟨_, rfl, le_rfl⟩
  | cons previous rest =>
      cases rest with
      | nil => exact ⟨_, rfl, le_rfl⟩
      | cons _ _ => simp at few

theorem foldlM_traceStep_returns (coords : List CLLocation)
    {state : List CLLocation × List (CLLocationCoordinate2D × CLLocationCoordinate2D)}
    (few : state.1.length ≤ 1)
    : ∃ final, coords.foldlM traceStep state = .ok final := by
  induction coords generalizing state with
  | nil => exact ⟨state, rfl⟩
  | cons coord rest ih =>
      obtain ⟨next, traced, fewNext⟩ := traceStep_returns coord few
      obtain ⟨final, looped⟩ := ih fewNext
      exact ⟨final, by rw [List.foldlM_cons, traced, ok_bind, looped]⟩

theorem loadRoute_returns_iff {coords : List CLLocation} {miles : ℚ}
    : (∃ route, loadRoute coords miles = .ok route) ↔ coords ≠ [] := by
  obtain ⟨⟨traceRoute, overlays⟩, looped⟩ :=
    @foldlM_traceStep_returns coords ([], []) (Nat.zero_le 1)
  cases coords with
  | nil => simp [loadRoute, element]
  | cons first rest =>
      have initial : element (first :: rest) 0 = .ok first := element_append [] first rest
      rw [loadRoute, initial, ok_bind, looped, ok_bind]
      simp

end RideDetailMapCVC

namespace RideGraphCVCell

theorem value_returns_iff {points : List CLLocation} {index : ℕ}
    : (∃ speed, value points index = .ok speed) ↔ index < points.length := by
  rw [← element_returns_iff]
  simp only [value, bind_eq_ok]
  exact ⟨fun ⟨_, point, found, _⟩ => ⟨point, found⟩,
    fun ⟨point, found⟩ => ⟨point.speed, point, found, rfl⟩⟩

theorem label_returns_iff {services : DetailServices} {points : List CLLocation} {index : ℕ}
    : (∃ text, label services points index = .ok text) ↔ index < points.length := by
  rw [← element_returns_iff]
  simp only [label, bind_eq_ok]
  exact ⟨fun ⟨_, point, found, _⟩ => ⟨point, found⟩,
    fun ⟨point, found⟩ => ⟨services.clock point.timestamp, point, found, rfl⟩⟩

end RideGraphCVCell

namespace RideDetailCollectionViewController

/-- Of the cells with a text, the first computes the time and the fifth the top speed. Witness:
the cells in turn.
-/
theorem setupDetailCell_returns_iff {thisRide : Ride} {row : ℕ}
    : (∃ cell, setupDetailCell thisRide row = .ok cell)
      ↔ (row = 0 → -2 ^ 63 - 1 < thisRide.totalTime ∧ thisRide.totalTime < 2 ^ 63)
        ∧ (row = 4 → thisRide.locations ≠ []) := by
  match row with
  | 0 =>
      have timed := @stringFromTimeInterval_returns_iff thisRide.totalTime
      simp only [setupDetailCell, Ride.getTime, bind_eq_ok]
      rw [← timed]
      simp [exists_comm]
  | 1 | 2 | 3 => simp [setupDetailCell]
  | 4 =>
      have topped := @Ride.getTopSpeed_returns_iff thisRide
      simp only [setupDetailCell, bind_eq_ok]
      rw [← topped]
      simp [exists_comm]
  | 5 => simp [setupDetailCell]
  | _ + 6 => simp [setupDetailCell]

/-- The map needs a location, too. -/
theorem cellForItemAt_returns_iff {services : DetailServices} {thisRide : Ride} {row : ℕ}
    (inSection : row < numberOfItemsInSection)
    : (∃ cell, cellForItemAt services thisRide row = .ok cell)
      ↔ (row = 0 → -2 ^ 63 - 1 < thisRide.totalTime ∧ thisRide.totalTime < 2 ^ 63)
        ∧ (row = 4 ∨ row = 7 → thisRide.locations ≠ []) := by
  rw [numberOfItemsInSection] at inSection
  rw [cellForItemAt]
  split
  · have noMap : row ≠ 7 := by omega
    rw [setupDetailCell_returns_iff]
    simp [noMap]
  · split
    · rename_i graph
      simp [graph]
    · obtain rfl : row = 7 := by omega
      obtain ⟨miles, read⟩ :=
        Option.isSome_iff_exists.mp (services.double_twoDecimals (metersToMiles thisRide.mileage))
      have miles' : services.double thisRide.getMileage = some miles := read
      have routed := @RideDetailMapCVC.loadRoute_returns_iff thisRide.locations miles
      simp only [miles', bind_eq_ok]
      rw [← routed]
      simp [exists_comm]

/-- The points of the graph are the locations of the ride. -/
theorem cellForItemAt_graph {services : DetailServices} {thisRide : Ride} {row : ℕ}
    {points : List CLLocation}
    (called : cellForItemAt services thisRide row = .ok (.graph points))
    : points = thisRide.locations := by
  rw [cellForItemAt] at called
  split at called
  · unfold setupDetailCell at called
    split at called
    · obtain ⟨time, -, filled⟩ := bind_eq_ok.mp called
      cases filled
    · cases called
    · cases called
    · cases called
    · obtain ⟨topSpeed, -, filled⟩ := bind_eq_ok.mp called
      cases filled
    · cases called
    · cases called
  · split at called
    · cases called
      rfl
    · split at called
      · cases called
      · obtain ⟨route, -, filled⟩ := bind_eq_ok.mp called
        cases filled

theorem headerText_returns_iff {services : DetailServices} {thisRide : Ride}
    : (∃ text, headerText services thisRide = .ok text) ↔ thisRide.StartsAtPlace services := by
  rw [← Ride.getRideCity_returns_iff]
  simp only [headerText, bind_eq_ok]
  exact ⟨fun ⟨_, city, found, _⟩ => ⟨city, found⟩, fun ⟨city, found⟩ => ⟨_, city, found, rfl⟩⟩

/-- The screen is safe exactly for a ride of at least one hundred locations, whose total
time converts to an integer and whose first location the geocoder finds a place at.
-/
theorem safe_iff (services : DetailServices) (thisRide : Ride)
    : Safe services thisRide
      ↔ 100 ≤ thisRide.locations.length
        ∧ (-2 ^ 63 - 1 < thisRide.totalTime ∧ thisRide.totalTime < 2 ^ 63)
        ∧ thisRide.StartsAtPlace services := by
  constructor
  · intro safe
    refine ⟨?_, ?_, headerText_returns_iff.mp safe.header⟩
    · exact RideGraphCVCell.value_returns_iff.mp (safe.values 99 (by decide))
    · exact ((cellForItemAt_returns_iff (by decide)).mp (safe.cells 0 (by decide))).1 rfl
  · intro ⟨enough, whole, place⟩
    have nonempty : thisRide.locations ≠ [] := List.ne_nil_of_length_pos (by omega)
    exact {
      cells := fun _ inSection =>
        (cellForItemAt_returns_iff inSection).mpr ⟨fun _ => whole, fun _ => nonempty⟩
      header := headerText_returns_iff.mpr place
      values := fun index below =>
        RideGraphCVCell.value_returns_iff.mpr (lt_of_lt_of_le below enough)
      labels := fun index below =>
        RideGraphCVCell.label_returns_iff.mpr (lt_of_lt_of_le below enough) }

/-- A geocoder that finds a county everywhere. -/
def countyServices : DetailServices where
  double _ := some 0
  double_twoDecimals _ := rfl
  clock _ := "12:00"
  placemarks _ := some [⟨some "Yolo County"⟩]

/-- The graph of a ride of one location reads a second one. -/
theorem graph_reads_past_end
    : ¬ ∀ (services : DetailServices) (thisRide : Ride), Safe services thisRide := by
  intro claim
  have safe := claim countyServices ((Ride.init 0).addLocation CLLocation.init)
  have below := RideGraphCVCell.value_returns_iff.mp (safe.values 1 (by decide))
  exact absurd below (by decide)

end RideDetailCollectionViewController

end AgriGuardian.Rides
