import AgriGuardian.Rides.LoadGPSData
import AgriGuardian.Rides.RideDocument

/-! When the two ways of building a ride agree on its mileage.
The loader takes the coordinate with latitude and longitude 0 for the absence of a previous
one. So it leaves out the legs that start there, and the mileages agree exactly when these
have no length.
-/

namespace AgriGuardian.Rides

open Swift
open Basis

namespace FirebaseManager

/-- The loader leaves out the legs that start at latitude and longitude 0. -/
theorem getDistanceBetweenCoordinates_eq_leg_iff {earth : Distance}
    {prev curr : CLLocationCoordinate2D}
    : getDistanceBetweenCoordinates earth prev curr = earth.leg prev curr
      ↔ (prev = ⟨0, 0⟩ → earth.distance curr prev = 0) := by
  rw [getDistanceBetweenCoordinates, Distance.leg]
  by_cases origin : prev = ⟨0, 0⟩
  · subst origin
    simp [eq_comm]
  · have moved : ¬ (prev.longitude = 0 ∧ prev.latitude = 0) := by
      rintro ⟨longitude, latitude⟩
      exact origin (by cases prev; simp_all)
    simp [moved, origin]

theorem getDistanceBetweenCoordinates_le_leg (earth : Distance)
    (prev curr : CLLocationCoordinate2D)
    : getDistanceBetweenCoordinates earth prev curr ≤ earth.leg prev curr := by
  rw [getDistanceBetweenCoordinates]
  split
  · exact earth.nonneg curr prev
  · exact le_rfl

/-- The mileage loaded is the sum over the consecutive pairs. The first sample follows the
placeholder at latitude and longitude 0 and adds nothing.
-/
theorem foldl_loadSample (earth : Distance) (now : Date) (samples : List GPSSample)
    : let loaded := samples.foldl (loadSample earth) ⟨Ride.init now, 0, now, ⟨0, 0⟩⟩
      loaded.mileage
        = pairSum (getDistanceBetweenCoordinates earth) (samples.map GPSSample.coordinate)
      ∧ loaded.previousLocation
        = ((samples.map GPSSample.coordinate).getLast?).getD ⟨0, 0⟩ := by
  induction samples using List.reverseRecOn with
  | nil => exact ⟨rfl, rfl⟩
  | append_singleton earlier sample ih =>
      obtain ⟨mileage, previous⟩ := ih
      rw [List.foldl_append, List.map_append, List.map_singleton, pairSum_append_singleton]
      refine ⟨?_, by simp [loadSample]⟩
      simp only [List.foldl_cons, List.foldl_nil, loadSample, mileage, previous]
      cases (earlier.map GPSSample.coordinate).getLast? with
      | none => simp [getDistanceBetweenCoordinates]
      | some last => rfl

/-- No leg that starts at latitude and longitude 0 has a length. -/
def StaysAtOrigin (earth : Distance) (coordinates : List CLLocationCoordinate2D) : Prop :=
  coordinates.IsChain fun prev curr => prev = ⟨0, 0⟩ → earth.distance curr prev = 0

/-- The ride loaded from a file with rows has the mileage without the legs from the origin. -/
theorem loadGPSData_mileage (earth : Distance) {foundation : Foundation} {bundle : Bundle}
    (now : Date) {csvFile filetype filepath : String}
    (located : bundle.path csvFile filetype = some filepath)
    {rows : List (GPSRow foundation)}
    (read : bundle.contents filepath = some (fileContents rows)) (nonempty : rows ≠ [])
    : ∃ loaded,
        loadGPSData earth foundation bundle now csvFile filetype = .ok loaded
        ∧ loaded.mileage
          = pairSum (getDistanceBetweenCoordinates earth)
              ((rows.map GPSRow.sample).map GPSSample.coordinate) :=
  ⟨_, loadGPSData_eq earth now located read nonempty,
    (foldl_loadSample earth now (rows.map GPSRow.sample)).1⟩

/-- For the file and the document of the same samples, both rides are built and have the
same mileage exactly when there are samples and no leg from latitude and longitude 0 has a
length.
-/
theorem mileages_agree_iff (earth : Distance) {foundation : Foundation} {bundle : Bundle}
    (now : Date) {csvFile filetype filepath : String}
    (located : bundle.path csvFile filetype = some filepath)
    {rows : List (GPSRow foundation)}
    (read : bundle.contents filepath = some (fileContents rows)) (devIdx : MachineInt)
    (devId : String) (didRollover : Bool)
    : (∃ loaded decoded,
          loadGPSData earth foundation bundle now csvFile filetype = .ok loaded
          ∧ Ride.ofData earth now
              (rideDocument (rows.map GPSRow.sample) devIdx devId didRollover)
            = .ok decoded
          ∧ loaded.mileage = decoded.mileage)
      ↔ rows ≠ []
        ∧ StaysAtOrigin earth ((rows.map GPSRow.sample).map GPSSample.coordinate) := by
  obtain ⟨decoded, decodedEq, -, decodedMileage⟩ :=
    Ride.ofData_rideDocument earth now (rows.map GPSRow.sample) devIdx devId didRollover
  have agree (coordinates : List CLLocationCoordinate2D)
      : pairSum (getDistanceBetweenCoordinates earth) coordinates = pairSum earth.leg coordinates
        ↔ StaysAtOrigin earth coordinates := by
    rw [pairSum_eq_iff_of_le (getDistanceBetweenCoordinates_le_leg earth)]
    exact List.IsChain.iff fun prev curr => getDistanceBetweenCoordinates_eq_leg_iff
  by_cases nonempty : rows = []
  · subst nonempty
    refine iff_of_false ?_ (fun samples => samples.1 rfl)
    rintro ⟨loaded, -, returned, -⟩
    exact loadGPSData_of_empty earth now located read loaded returned
  · obtain ⟨loaded, loadedEq, loadedMileage⟩ :=
      loadGPSData_mileage earth now located read nonempty
    rw [← agree, ← loadedMileage, ← decodedMileage]
    constructor
    · rintro ⟨other, another, otherOk, anotherOk, same⟩
      obtain rfl := Except.ok.inj (loadedEq.symm.trans otherOk)
      obtain rfl := Except.ok.inj (decodedEq.symm.trans anotherOk)
      exact ⟨nonempty, same⟩
    · rintro ⟨-, same⟩
      exact ⟨loaded, decoded, loadedEq, decodedEq, same⟩

/-- Distances along the axes, at 111 kilometres a degree. -/
private def alongAxes : Distance where
  distance location other :=
    111000 * (|location.latitude - other.latitude| + |location.longitude - other.longitude|)
  nonneg location other := by positivity

/-- The library on the texts of the rows below. -/
private def fewTexts : Foundation where
  double text := if text = "0.0" then some 0 else if text = "1.0" then some 1 else none
  date text := if text = "2020-03-09 19:25:46.7574" then some 605474746 else none

/-- A row at a latitude of 0 or 1 degrees. -/
private def rowAt (latitudeText : String) (latitude : ℚ)
    (tokens
      : components ("2020-03-09 19:25:46.757480," ++ latitudeText ++ ",0.0,1.0,0.0,7") ','
        = ["2020-03-09 19:25:46.757480", latitudeText, "0.0", "1.0", "0.0", "7"])
    (oneLine
      : '\n' ∉ ("2020-03-09 19:25:46.757480," ++ latitudeText ++ ",0.0,1.0,0.0,7").toList)
    (parsed : fewTexts.double latitudeText = some latitude)
    : GPSRow fewTexts where
  text := "2020-03-09 19:25:46.757480," ++ latitudeText ++ ",0.0,1.0,0.0,7"
  timestamp := "2020-03-09 19:25:46.757480"
  latitude := latitudeText
  longitude := "0.0"
  speed := "1.0"
  altitude := "0.0"
  others := ["7"]
  sample := ⟨605474746, ⟨latitude, 0⟩, 1, 0⟩
  tokens := tokens
  oneLine := oneLine
  parsedTimestamp := rfl
  parsedLatitude := parsed
  parsedLongitude := rfl
  parsedSpeed := rfl
  parsedAltitude := rfl

private def atOrigin : GPSRow fewTexts := rowAt "0.0" 0 (by decide) (by decide) (by decide)

private def atOneDegree : GPSRow fewTexts := rowAt "1.0" 1 (by decide) (by decide) (by decide)

private def bundleOf (rows : List (GPSRow fewTexts)) : Bundle where
  path _ _ := some "gps.csv"
  contents _ := some (fileContents rows)

/-- From one degree to the origin and no further, the mileages agree. -/
theorem mileages_agree_iff_toOrigin
    : (∃ loaded decoded,
          loadGPSData alongAxes fewTexts (bundleOf [atOneDegree, atOrigin]) 0 "gps" "csv"
            = .ok loaded
          ∧ Ride.ofData alongAxes 0
              (rideDocument ([atOneDegree, atOrigin].map GPSRow.sample) ⟨0, by decide⟩ "" false)
            = .ok decoded
          ∧ loaded.mileage = decoded.mileage)
      ↔ [atOneDegree, atOrigin] ≠ []
        ∧ StaysAtOrigin alongAxes
            (([atOneDegree, atOrigin].map GPSRow.sample).map GPSSample.coordinate) :=
  have located : (bundleOf [atOneDegree, atOrigin]).path "gps" "csv" = some "gps.csv" := rfl
  mileages_agree_iff alongAxes 0 located rfl ⟨0, by decide⟩ "" false

/-- From the origin to one degree, the loader counts nothing. -/
theorem mileages_differ_fromOrigin
    : ¬ ∀ (earth : Distance) (foundation : Foundation) (bundle : Bundle) (now : Date)
          (csvFile filetype filepath : String) (rows : List (GPSRow foundation))
          (devIdx : MachineInt) (devId : String) (didRollover : Bool),
        bundle.path csvFile filetype = some filepath
        → bundle.contents filepath = some (fileContents rows)
        → ∃ loaded decoded,
            loadGPSData earth foundation bundle now csvFile filetype = .ok loaded
            ∧ Ride.ofData earth now
                (rideDocument (rows.map GPSRow.sample) devIdx devId didRollover)
              = .ok decoded
            ∧ loaded.mileage = decoded.mileage := by
  intro claim
  obtain ⟨loaded, decoded, loadedOk, decodedOk, same⟩ :=
    claim alongAxes fewTexts (bundleOf [atOrigin, atOneDegree]) 0 "gps" "csv" "gps.csv"
      [atOrigin, atOneDegree] ⟨0, by decide⟩ "" false rfl rfl
  have located : (bundleOf [atOrigin, atOneDegree]).path "gps" "csv" = some "gps.csv" := rfl
  have read
      : (bundleOf [atOrigin, atOneDegree]).contents "gps.csv"
        = some (fileContents [atOrigin, atOneDegree]) :=
    rfl
  obtain ⟨other, otherOk, loadedMileage⟩ := loadGPSData_mileage alongAxes 0 located read (by simp)
  obtain ⟨another, anotherOk, -, decodedMileage⟩ :=
    Ride.ofData_rideDocument alongAxes 0 ([atOrigin, atOneDegree].map GPSRow.sample)
      ⟨0, by decide⟩ "" false
  obtain rfl := Except.ok.inj (loadedOk.symm.trans otherOk)
  obtain rfl := Except.ok.inj (decodedOk.symm.trans anotherOk)
  rw [loadedMileage, decodedMileage] at same
  have coordinates
      : ([atOrigin, atOneDegree].map GPSRow.sample).map GPSSample.coordinate
        = [⟨0, 0⟩, ⟨1, 0⟩] :=
    rfl
  have skipped : getDistanceBetweenCoordinates alongAxes ⟨0, 0⟩ ⟨1, 0⟩ = 0 := if_pos ⟨rfl, rfl⟩
  have leg : alongAxes.leg ⟨0, 0⟩ ⟨1, 0⟩ = 111000 := by
    simp [Distance.leg, alongAxes]
  rw [coordinates, pairSum_cons_cons, pairSum_cons_cons, skipped, leg] at same
  simp at same

end FirebaseManager

end AgriGuardian.Rides
