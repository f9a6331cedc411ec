import Mathlib.Data.List.Induction
import AgriGuardian.Basis.PairSum
import AgriGuardian.Rides.RideParameters

/-! The ride in a document that holds a sequence of GPS samples. -/

namespace AgriGuardian.Rides

open Swift
open Basis

/-- The distance travelled from one coordinate to the next. -/
def Distance.leg (earth : Distance) (prev curr : CLLocationCoordinate2D) : ℚ :=
  earth.distance curr prev

/-- The location that a document gives for a sample. -/
def GPSSample.documentLocation (sample : GPSSample) : CLLocation :=
  ⟨sample.coordinate, sample.altitude, 0, 0, 0, sample.speed, sample.timestamp⟩

/-- The document of the collection `ridehistory` for the samples. -/
def rideDocument (samples : List GPSSample) (devIdx : MachineInt) (devId : String)
    (didRollover : Bool)
    : Document
  | "altitudes" => some (.array (samples.map fun sample => .double sample.altitude))
  | "coordinates" =>
      some (.array (samples.map fun sample =>
        .geoPoint sample.coordinate.latitude sample.coordinate.longitude))
  | "velocities" => some (.array (samples.map fun sample => .double sample.speed))
  | "gps_timestamps" => some (.array (samples.map fun sample => .timestamp sample.timestamp))
  | "index" => some (.integer devIdx)
  | "dev_id" => some (.string devId)
  | "did_rollover" => some (.boolean didRollover)
  | _ => none

namespace Ride

/-- The loop over the coordinates, whatever the other arrays hold beyond them. Witness:
induction from the right; the previous point is the last location.
-/
theorem foldlM_addPoint (earth : Distance) (start : Ride) (samples : List GPSSample)
    (moreAlts moreVels : List ℚ) (moreTimes : List Date)
    : ∃ ride prevPoint,
        (samples.map GPSSample.coordinate).zipIdx.foldlM
            (addPoint earth (samples.map GPSSample.altitude ++ moreAlts)
              (samples.map GPSSample.speed ++ moreVels)
              (samples.map GPSSample.timestamp ++ moreTimes))
            (start, CLLocation.init)
          = .ok (ride, prevPoint)
        ∧ ride.locations = start.locations ++ samples.map GPSSample.documentLocation
        ∧ ride.mileage
          = start.mileage + pairSum earth.leg (samples.map GPSSample.coordinate)
        ∧ ∀ last ∈ samples.getLast?, prevPoint = last.documentLocation := by
  induction samples using List.reverseRecOn generalizing moreAlts moreVels moreTimes with
  | nil => exact ⟨start, CLLocation.init, rfl, by simp, by simp, by simp⟩
  | append_singleton earlier sample ih =>
      obtain ⟨ride, prevPoint, looped, locations, mileage, previous⟩ :=
        ih (sample.altitude :: moreAlts) (sample.speed :: moreVels)
          (sample.timestamp :: moreTimes)
      have alt
          : element (earlier.map GPSSample.altitude ++ sample.altitude :: moreAlts) earlier.length
            = .ok sample.altitude :=
        element_eq_ok.mpr (by simp)
      have vel
          : element (earlier.map GPSSample.speed ++ sample.speed :: moreVels) earlier.length
            = .ok sample.speed :=
        element_eq_ok.mpr (by simp)
      have time
          : element (earlier.map GPSSample.timestamp ++ sample.timestamp :: moreTimes)
              earlier.length
            = .ok sample.timestamp :=
        element_eq_ok.mpr (by simp)
      have leg
          : (if earlier.length > 0 then
              ride.mileage + earth.distance sample.coordinate prevPoint.coordinate
            else ride.mileage)
            = start.mileage
              + pairSum earth.leg ((earlier ++ [sample]).map GPSSample.coordinate) := by
        rw [List.map_append, List.map_singleton, pairSum_append_singleton, mileage,
          List.getLast?_map]
        cases last : earlier.getLast? with
        | none =>
            obtain rfl := List.getLast?_eq_none_iff.mp last
            simp
        | some found =>
            have nonempty : earlier ≠ [] := by
              rintro rfl
              simp at last
            have moved : earlier.length > 0 := List.length_pos_iff.mpr nonempty
            rw [if_pos moved, previous found last]
            simp [Distance.leg, GPSSample.documentLocation, add_assoc]
      refine ⟨(ride.addLocation sample.documentLocation).setMileage _, sample.documentLocation,
        ?_, ?_, leg, by simp⟩
      · simp only [List.map_append, List.map_singleton, List.append_assoc,
          List.singleton_append, List.zipIdx_append, List.foldlM_append, looped, ok_bind,
          List.zipIdx_cons, List.zipIdx_nil, List.foldlM_cons, List.foldlM_nil, List.length_map,
          Nat.zero_add, addPoint, alt, vel, time]
        rfl
      · simp [addLocation, setMileage, locations]

end Ride

theorem FirestoreValue.asArray_map {α β : Type} (cast : FirestoreValue → Checked α)
    (encode : β → FirestoreValue) (decode : β → α)
    (casts : ∀ element, cast (encode element) = .ok (decode element)) (elements : List β)
    : asArray cast (.array (elements.map encode)) = .ok (elements.map decode) := by
  have values
      : (elements.map encode).mapM cast = elements.mapM fun element => cast (encode element) :=
    List.mapM_map ..
  rw [asArray, values, mapM_of_ok fun element _ => casts element]

namespace Ride

/-- The ride in the document of the samples has their locations and the length of their
path.
-/
theorem ofData_rideDocument (earth : Distance) (now : Date) (samples : List GPSSample)
    (devIdx : MachineInt) (devId : String) (didRollover : Bool)
    : ∃ ride,
        ofData earth now (rideDocument samples devIdx devId didRollover) = .ok ride
        ∧ ride.locations = samples.map GPSSample.documentLocation
        ∧ ride.mileage = pairSum earth.leg (samples.map GPSSample.coordinate) := by
  let data := rideDocument samples devIdx devId didRollover
  have altitudes
      : data.field "altitudes" (FirestoreValue.asArray FirestoreValue.asDouble)
        = .ok (samples.map GPSSample.altitude) :=
    FirestoreValue.asArray_map FirestoreValue.asDouble
      (fun sample : GPSSample => .double sample.altitude) GPSSample.altitude
      (fun _ => rfl) samples
  have velocities
      : data.field "velocities" (FirestoreValue.asArray FirestoreValue.asDouble)
        = .ok (samples.map GPSSample.speed) :=
    FirestoreValue.asArray_map FirestoreValue.asDouble
      (fun sample : GPSSample => .double sample.speed) GPSSample.speed
      (fun _ => rfl) samples
  have coordinates
      : data.field "coordinates" (FirestoreValue.asArray FirestoreValue.asGeoPoint)
        = .ok (samples.map GPSSample.coordinate) :=
    FirestoreValue.asArray_map FirestoreValue.asGeoPoint
      (fun sample : GPSSample =>
        .geoPoint sample.coordinate.latitude sample.coordinate.longitude)
      GPSSample.coordinate (fun _ => rfl) samples
  have timestamps
      : data.field "gps_timestamps" (FirestoreValue.asArray FirestoreValue.asTimestamp)
        = .ok (samples.map GPSSample.timestamp) :=
    FirestoreValue.asArray_map FirestoreValue.asTimestamp
      (fun sample : GPSSample => .timestamp sample.timestamp) GPSSample.timestamp
      (fun _ => rfl) samples
  have index : data.field "index" FirestoreValue.asInt = .ok devIdx.val := by
    simp [data, Document.field, rideDocument, FirestoreValue.asInt, FirestoreValue.number,
      devIdx.property]
  have id : data.field "dev_id" FirestoreValue.asString = .ok devId := rfl
  have rollover : data.field "did_rollover" FirestoreValue.asBool = .ok didRollover := by
    cases didRollover <;> simp [data, Document.field, rideDocument, FirestoreValue.asBool,
      FirestoreValue.number]
  obtain ⟨ride, prevPoint, looped, locations, mileage, -⟩ :=
    foldlM_addPoint earth (init now) samples [] [] []
  simp only [List.append_nil] at looped
  rw [ofData]
  simp only [altitudes, velocities, coordinates, timestamps, looped, index, id, rollover, ok_bind,
    data]
  split
  · exact ⟨_, rfl, by simpa [init] using locations, by simpa [init] using mileage⟩
  · exact ⟨_, rfl, by simpa [init] using locations, by simpa [init] using mileage⟩

/-- The time from the first location to the last. -/
def timeOf (locations : List CLLocation) : TimeInterval :=
  match locations.head?, locations.getLast? with
  | some begin', some end' => Date.timeIntervalSince end'.timestamp begin'.timestamp
  | _, _ => 0

/-- The date of the first location, or `now` when there is none. -/
def dateOf (now : Date) (locations : List CLLocation) : Date :=
  (locations.head?.map CLLocation.timestamp).getD now

/-- The loop over the coordinates leaves the date and the total time alone. -/
theorem foldlM_addPoint_times {earth : Distance} {tempAlts tempVels : List ℚ}
    {tempTimes : List Date} {points : List (CLLocationCoordinate2D × ℕ)}
    {state final : Ride × CLLocation}
    (looped : points.foldlM (addPoint earth tempAlts tempVels tempTimes) state = .ok final)
    : final.1.rideDate = state.1.rideDate ∧ final.1.totalTime = state.1.totalTime := by
  induction points generalizing state with
  | nil =>
      obtain rfl : state = final := Except.ok.inj looped
      exact ⟨rfl, rfl⟩
  | cons point rest ih =>
      rw [List.foldlM_cons, bind_eq_ok] at looped
      obtain ⟨next, added, later⟩ := looped
      rw [addPoint] at added
      obtain ⟨alt, -, added⟩ := bind_eq_ok.mp added
      obtain ⟨vel, -, added⟩ := bind_eq_ok.mp added
      obtain ⟨time, -, added⟩ := bind_eq_ok.mp added
      obtain rfl := Except.ok.inj added
      have kept := ih later
      exact kept

/-- A ride read from any document belongs to the device the document names, and has the
date of its first location and the time to its last.
-/
theorem ofData_eq_ok {earth : Distance} {now : Date} {data : Document} {ride : Ride}
    (returned : ofData earth now data = .ok ride)
    : data.field "dev_id" FirestoreValue.asString = .ok ride.devId
      ∧ ride.rideDate = dateOf now ride.locations
      ∧ ride.totalTime = timeOf ride.locations := by
  rw [ofData] at returned
  obtain ⟨tempAlts, -, returned⟩ := bind_eq_ok.mp returned
  obtain ⟨tempGPs, -, returned⟩ := bind_eq_ok.mp returned
  obtain ⟨tempVels, -, returned⟩ := bind_eq_ok.mp returned
  obtain ⟨tempTimes, -, returned⟩ := bind_eq_ok.mp returned
  obtain ⟨⟨looped, prevPoint⟩, loop, returned⟩ := bind_eq_ok.mp returned
  obtain ⟨devIdx, -, returned⟩ := bind_eq_ok.mp returned
  obtain ⟨devId, named, returned⟩ := bind_eq_ok.mp returned
  obtain ⟨didRollover, -, returned⟩ := bind_eq_ok.mp returned
  obtain ⟨date, time⟩ := foldlM_addPoint_times loop
  simp only at returned
  split at returned
  · rename_i begin' end' first last
    obtain rfl := Except.ok.inj returned
    exact ⟨named, by simp [dateOf, first], by simp [timeOf, first, last]⟩
  · rename_i incomplete
    obtain rfl := Except.ok.inj returned
    have empty : looped.locations = [] := by
      cases locations : looped.locations with
      | nil => rfl
      | cons head tail =>
          exact absurd (List.getLast?_eq_some_getLast (by simp : head :: tail ≠ []))
            (by simpa [locations] using incomplete head _)
    exact ⟨named, by simpa [dateOf, empty, init] using date,
      by simpa [timeOf, empty, init] using time⟩

end Ride

end AgriGuardian.Rides
