import AgriGuardian.Rides.RideDocument

/-! Reading a ride from any document with fields of the expected types.
The arrays of a document need not have one length. The loop goes through the coordinates
and reads the other arrays at the same index, so these may be longer but not shorter.
-/

namespace AgriGuardian.Rides

open Swift
open Basis

/-- What a document of the collection `ridehistory` holds. -/
structure RideFields where
  altitudes : List ℚ
  coordinates : List CLLocationCoordinate2D
  velocities : List ℚ
  timestamps : List Date
  index : ℤ
  devId : String
  didRollover : Bool

/-- The document has the fields, each of the type it is cast to. -/
structure Document.HasRideFields (data : Document) (fields : RideFields) : Prop where
  altitudes
    : data.field "altitudes" (FirestoreValue.asArray FirestoreValue.asDouble)
      = .ok fields.altitudes
  coordinates
    : data.field "coordinates" (FirestoreValue.asArray FirestoreValue.asGeoPoint)
      = .ok fields.coordinates
  velocities
    : data.field "velocities" (FirestoreValue.asArray FirestoreValue.asDouble)
      = .ok fields.velocities
  timestamps
    : data.field "gps_timestamps" (FirestoreValue.asArray FirestoreValue.asTimestamp)
      = .ok fields.timestamps
  index : data.field "index" FirestoreValue.asInt = .ok fields.index
  devId : data.field "dev_id" FirestoreValue.asString = .ok fields.devId
  didRollover : data.field "did_rollover" FirestoreValue.asBool = .ok fields.didRollover

namespace RideFields

/-- Every coordinate has an altitude, a velocity and a timestamp. -/
structure Aligned (fields : RideFields) : Prop where
  altitudes : fields.coordinates.length ≤ fields.altitudes.length
  velocities : fields.coordinates.length ≤ fields.velocities.length
  timestamps : fields.coordinates.length ≤ fields.timestamps.length

/-- The entries of the four arrays with one index. -/
def samples (fields : RideFields) : List GPSSample :=
  (fields.coordinates.zip (fields.altitudes.zip (fields.velocities.zip fields.timestamps))).map
    fun (coordinate, altitude, speed, timestamp) => ⟨timestamp, coordinate, speed, altitude⟩

end RideFields

/-- The ride has one location for each coordinate, of the entries with its index, the length
of the path through its locations, the date and the time that its first and its last location
give, and the other fields as they are.
-/
structure Ride.ReadFrom (earth : Distance) (fields : RideFields) (ride : Ride) : Prop where
  count : ride.locations.length = fields.coordinates.length
  locations
    : ∀ (idx : ℕ) (location : CLLocation),
        ride.locations[idx]? = some location
        → fields.coordinates[idx]? = some location.coordinate
          ∧ fields.altitudes[idx]? = some location.altitude
          ∧ fields.velocities[idx]? = some location.speed
          ∧ fields.timestamps[idx]? = some location.timestamp
  mileage : ride.mileage = pairSum earth.leg (ride.locations.map CLLocation.coordinate)
  times
    : ∀ first ∈ ride.locations.head?, ∀ last ∈ ride.locations.getLast?,
        ride.rideDate = first.timestamp
        ∧ ride.totalTime = Date.timeIntervalSince last.timestamp first.timestamp
  others
    : ride.devIdx = fields.index
      ∧ ride.devId = fields.devId
      ∧ ride.didRollover = fields.didRollover

namespace RideFields

variable {fields : RideFields}

theorem length_samples (aligned : fields.Aligned)
    : fields.samples.length = fields.coordinates.length := by
  obtain ⟨altitudes, velocities, timestamps⟩ := aligned
  simp only [samples, List.length_map, List.length_zip]
  omega

/-- A sample combines the entries with its index. -/
theorem getElem?_samples {idx : ℕ} {sample : GPSSample}
    (found : fields.samples[idx]? = some sample)
    : fields.coordinates[idx]? = some sample.coordinate
      ∧ fields.altitudes[idx]? = some sample.altitude
      ∧ fields.velocities[idx]? = some sample.speed
      ∧ fields.timestamps[idx]? = some sample.timestamp := by
  rw [samples, List.getElem?_map, Option.map_eq_some_iff] at found
  obtain ⟨⟨coordinate, altitude, speed, timestamp⟩, zipped, rfl⟩ := found
  rw [List.getElem?_zip_eq_some] at zipped
  obtain ⟨coordinates, zipped⟩ := zipped
  rw [List.getElem?_zip_eq_some] at zipped
  obtain ⟨altitudes, zipped⟩ := zipped
  rw [List.getElem?_zip_eq_some] at zipped
  obtain ⟨velocities, timestamps⟩ := zipped
  exact ⟨coordinates, altitudes, velocities, timestamps⟩

/-- An array that agrees with the samples index by index holds more entries at most at its
end.
-/
theorem exists_more {β : Type*} {select : GPSSample → β} {entries : List β}
    (agrees
      : ∀ (idx : ℕ) (sample : GPSSample),
          fields.samples[idx]? = some sample → entries[idx]? = some (select sample))
    : ∃ more, entries = fields.samples.map select ++ more := by
  have isPrefix : fields.samples.map select <+: entries := by
    rw [List.prefix_iff_getElem?]
    intro idx below
    rw [List.length_map] at below
    rw [List.getElem_map]
    exact agrees idx fields.samples[idx] (List.getElem?_eq_getElem below)
  obtain ⟨more, split⟩ := isPrefix
  exact ⟨more, split.symm⟩

theorem map_coordinate_samples (aligned : fields.Aligned)
    : fields.samples.map GPSSample.coordinate = fields.coordinates := by
  obtain ⟨more, split⟩ := exists_more fun idx sample found =>
    (@getElem?_samples fields idx sample found).1
  have none : more = [] := by
    have lengths := congrArg List.length split
    rw [List.length_append, List.length_map, length_samples aligned] at lengths
    exact List.length_eq_zero_iff.mp (by omega)
  rw [split, none, List.append_nil]

end RideFields

namespace Ride

/-- A round of the loop returns exactly when its index is within the three other arrays. -/
theorem addPoint_returns_iff {earth : Distance} {tempAlts tempVels : List ℚ}
    {tempTimes : List Date} (state : Ride × CLLocation)
    (input : CLLocationCoordinate2D × ℕ)
    : (∃ next, addPoint earth tempAlts tempVels tempTimes state input = .ok next)
      ↔ input.2 < tempAlts.length ∧ input.2 < tempVels.length ∧ input.2 < tempTimes.length := by
  obtain ⟨ride, prevPoint⟩ := state
  obtain ⟨point, idx⟩ := input
  constructor
  · rintro ⟨next, returned⟩
    obtain ⟨alt, altRead, returned⟩ := bind_eq_ok.mp returned
    obtain ⟨vel, velRead, returned⟩ := bind_eq_ok.mp returned
    obtain ⟨time, timeRead, -⟩ := bind_eq_ok.mp returned
    exact ⟨element_returns_iff.mp ⟨alt, altRead⟩, element_returns_iff.mp ⟨vel, velRead⟩,
      element_returns_iff.mp ⟨time, timeRead⟩⟩
  · rintro ⟨alts, vels, times⟩
    obtain ⟨alt, altRead⟩ := element_returns_iff.mpr alts
    obtain ⟨vel, velRead⟩ := element_returns_iff.mpr vels
    obtain ⟨time, timeRead⟩ := element_returns_iff.mpr times
    simp [addPoint, altRead, velRead, timeRead]

/-- A round of the loop stops at an index out of range and at nothing else. -/
theorem addPoint_error {earth : Distance} {tempAlts tempVels : List ℚ} {tempTimes : List Date}
    (state : Ride × CLLocation) (input : CLLocationCoordinate2D × ℕ) (trap : Trap)
    (failed : addPoint earth tempAlts tempVels tempTimes state input = .error trap)
    : trap = .indexOutOfRange := by
  obtain ⟨ride, prevPoint⟩ := state
  obtain ⟨point, idx⟩ := input
  rcases bind_eq_error.mp failed with alt | ⟨alt, -, failed⟩
  · exact element_error alt
  · rcases bind_eq_error.mp failed with vel | ⟨vel, -, failed⟩
    · exact element_error vel
    · rcases bind_eq_error.mp failed with time | ⟨time, -, failed⟩
      · exact element_error time
      · cases failed

/-- The loop returns exactly when the other arrays are long enough. -/
theorem foldlM_addPoint_returns_iff {earth : Distance} {fields : RideFields}
    {state : Ride × CLLocation}
    : (∃ final,
          fields.coordinates.zipIdx.foldlM
              (addPoint earth fields.altitudes fields.velocities fields.timestamps) state
            = .ok final)
      ↔ fields.Aligned := by
  rw [foldlM_returns_iff addPoint_returns_iff]
  constructor
  · intro within
    have below {count : ℕ} (reached : ∀ idx < fields.coordinates.length, idx < count)
        : fields.coordinates.length ≤ count := by
      by_contra short
      exact lt_irrefl count (reached count (by omega))
    have each : ∀ idx < fields.coordinates.length,
        idx < fields.altitudes.length ∧ idx < fields.velocities.length
        ∧ idx < fields.timestamps.length := by
      intro idx inRange
      have member : (fields.coordinates[idx], idx) ∈ fields.coordinates.zipIdx :=
        List.mem_zipIdx_iff_getElem?.mpr (List.getElem?_eq_getElem inRange)
      exact within _ member
    exact ⟨below fun idx inRange => (each idx inRange).1,
      below fun idx inRange => (each idx inRange).2.1,
      below fun idx inRange => (each idx inRange).2.2⟩
  · rintro ⟨altitudes, velocities, timestamps⟩ ⟨point, idx⟩ member
    have found := List.mem_zipIdx_iff_getElem?.mp member
    obtain ⟨inRange, -⟩ := List.getElem?_eq_some_iff.mp found
    exact ⟨inRange.trans_le altitudes, inRange.trans_le velocities,
      inRange.trans_le timestamps⟩

/-- The loop over aligned arrays: the locations and the mileage of their samples. -/
theorem foldlM_addPoint_of_aligned (earth : Distance) (start : Ride) {fields : RideFields}
    (aligned : fields.Aligned)
    : ∃ ride prevPoint,
        fields.coordinates.zipIdx.foldlM
            (addPoint earth fields.altitudes fields.velocities fields.timestamps)
            (start, CLLocation.init)
          = .ok (ride, prevPoint)
        ∧ ride.locations = start.locations ++ fields.samples.map GPSSample.documentLocation
        ∧ ride.mileage = start.mileage + pairSum earth.leg fields.coordinates := by
  obtain ⟨moreAlts, altitudes⟩ := RideFields.exists_more fun idx sample found =>
    (@RideFields.getElem?_samples fields idx sample found).2.1
  obtain ⟨moreVels, velocities⟩ := RideFields.exists_more fun idx sample found =>
    (@RideFields.getElem?_samples fields idx sample found).2.2.1
  obtain ⟨moreTimes, timestamps⟩ := RideFields.exists_more fun idx sample found =>
    (@RideFields.getElem?_samples fields idx sample found).2.2.2
  obtain ⟨ride, prevPoint, looped, locations, mileage, -⟩ :=
    foldlM_addPoint earth start fields.samples moreAlts moreVels moreTimes
  rw [← altitudes, ← velocities, ← timestamps, RideFields.map_coordinate_samples aligned] at looped
  rw [RideFields.map_coordinate_samples aligned] at mileage
  exact ⟨ride, prevPoint, looped, locations, mileage⟩

/-- A document whose arrays are aligned is read as they say. -/
theorem ofData_of_aligned (earth : Distance) (now : Date) {data : Document}
    {fields : RideFields} (typed : data.HasRideFields fields) (aligned : fields.Aligned)
    : ∃ ride, ofData earth now data = .ok ride ∧ ride.ReadFrom earth fields := by
  obtain ⟨looped, prevPoint, loop, locations, mileage⟩ :=
    foldlM_addPoint_of_aligned earth (init now) aligned
  have read : ∃ ride,
      ofData earth now data = .ok ride
      ∧ ride.locations = looped.locations
      ∧ ride.mileage = looped.mileage
      ∧ ride.devIdx = fields.index
      ∧ ride.devId = fields.devId
      ∧ ride.didRollover = fields.didRollover := by
    rw [ofData, typed.altitudes, typed.coordinates, typed.velocities, typed.timestamps]
    simp only [ok_bind, loop, typed.index, typed.devId, typed.didRollover]
    split
    · exact ⟨_, rfl, rfl, rfl, rfl, rfl, rfl⟩
    · exact ⟨_, rfl, rfl, rfl, rfl, rfl, rfl⟩
  obtain ⟨ride, returned, sameLocations, sameMileage, others⟩ := read
  obtain ⟨-, date, time⟩ := ofData_eq_ok returned
  have stored : ride.locations = fields.samples.map GPSSample.documentLocation := by
    rw [sameLocations, locations]
    rfl
  refine ⟨ride, returned, ?_, ?_, ?_, ?_, others⟩
  · rw [stored, List.length_map, RideFields.length_samples aligned]
  · intro idx location found
    rw [stored, List.getElem?_map, Option.map_eq_some_iff] at found
    obtain ⟨sample, sampled, rfl⟩ := found
    exact RideFields.getElem?_samples sampled
  · have coordinates : ride.locations.map CLLocation.coordinate = fields.coordinates := by
      rw [stored, List.map_map]
      exact RideFields.map_coordinate_samples aligned
    rw [sameMileage, mileage, coordinates]
    exact zero_add _
  · intro first firstFound last lastFound
    rw [Option.mem_def] at firstFound lastFound
    exact ⟨by rw [date, dateOf, firstFound]; rfl, by rw [time, timeOf, firstFound, lastFound]⟩

/-- Reading a document stops at an index exactly when its arrays are not aligned, and reads
it as they say otherwise.
-/
theorem ofData_correct (earth : Distance) (now : Date) {data : Document} {fields : RideFields}
    (typed : data.HasRideFields fields)
    : (ofData earth now data ≠ .error .indexOutOfRange ↔ fields.Aligned)
      ∧ (fields.Aligned
        → ∃ ride, ofData earth now data = .ok ride ∧ ride.ReadFrom earth fields) := by
  refine ⟨⟨fun avoided => ?_, fun aligned => ?_⟩, ofData_of_aligned earth now typed⟩
  · by_contra short
    apply avoided
    cases loop : fields.coordinates.zipIdx.foldlM
        (addPoint earth fields.altitudes fields.velocities fields.timestamps)
        (init now, CLLocation.init) with
    | error trap =>
        obtain rfl := foldlM_error addPoint_error loop
        rw [ofData, typed.altitudes, typed.coordinates, typed.velocities, typed.timestamps]
        simp only [ok_bind, loop, error_bind]
    | ok final => exact absurd (foldlM_addPoint_returns_iff.mp ⟨final, loop⟩) short
  · obtain ⟨ride, returned, -⟩ := ofData_of_aligned earth now typed aligned
    rw [returned]
    intro stopped
    cases stopped

/-- Every ride that is returned was read from fields of the document. -/
theorem exists_readFrom {earth : Distance} {now : Date} {data : Document} {ride : Ride}
    (returned : ofData earth now data = .ok ride)
    : ∃ fields, data.HasRideFields fields ∧ ride.ReadFrom earth fields := by
  have steps := returned
  rw [ofData] at steps
  obtain ⟨altitudes, altitudesOk, steps⟩ := bind_eq_ok.mp steps
  obtain ⟨coordinates, coordinatesOk, steps⟩ := bind_eq_ok.mp steps
  obtain ⟨velocities, velocitiesOk, steps⟩ := bind_eq_ok.mp steps
  obtain ⟨timestamps, timestampsOk, steps⟩ := bind_eq_ok.mp steps
  obtain ⟨looped, loop, steps⟩ := bind_eq_ok.mp steps
  obtain ⟨index, indexOk, steps⟩ := bind_eq_ok.mp steps
  obtain ⟨devId, devIdOk, steps⟩ := bind_eq_ok.mp steps
  obtain ⟨didRollover, didRolloverOk, -⟩ := bind_eq_ok.mp steps
  let fields : RideFields :=
    ⟨altitudes, coordinates, velocities, timestamps, index, devId, didRollover⟩
  have typed : data.HasRideFields fields :=
    ⟨altitudesOk, coordinatesOk, velocitiesOk, timestampsOk, indexOk, devIdOk, didRolloverOk⟩
  have aligned : fields.Aligned := foldlM_addPoint_returns_iff.mp ⟨looped, loop⟩
  obtain ⟨other, otherReturned, read⟩ := ofData_of_aligned earth now typed aligned
  obtain rfl := Except.ok.inj (returned.symm.trans otherReturned)
  exact ⟨fields, typed, read⟩

/-- Degrees along the axes, as metres. -/
private def alongGrid : Distance where
  distance location other :=
    |location.latitude - other.latitude| + |location.longitude - other.longitude|
  nonneg _ _ := add_nonneg (abs_nonneg _) (abs_nonneg _)

/-- A document with two coordinates and a third timestamp. -/
private def twoPoints : Document
  | "altitudes" => some (.array [.double 10, .double 12])
  | "coordinates" => some (.array [.geoPoint 0 0, .geoPoint 0 1])
  | "velocities" => some (.array [.double 3, .double 4])
  | "gps_timestamps" => some (.array [.timestamp 100, .timestamp 160, .timestamp 900])
  | "index" => some (.integer 0)
  | "dev_id" => some (.string "d0001")
  | "did_rollover" => some (.boolean true)
  | _ => none

private def twoPointFields : RideFields where
  altitudes := [10, 12]
  coordinates := [⟨0, 0⟩, ⟨0, 1⟩]
  velocities := [3, 4]
  timestamps := [100, 160, 900]
  index := 0
  devId := "d0001"
  didRollover := true

theorem ofData_correct_twoPoints
    : (ofData alongGrid 0 twoPoints ≠ .error .indexOutOfRange ↔ twoPointFields.Aligned)
      ∧ (twoPointFields.Aligned
        → ∃ ride,
            ofData alongGrid 0 twoPoints = .ok ride
            ∧ ride.ReadFrom alongGrid twoPointFields) :=
  ofData_correct alongGrid 0 ⟨rfl, rfl, rfl, rfl, rfl, rfl, rfl⟩

end Ride

end AgriGuardian.Rides
