import Mathlib.Data.Rat.Defs
import AgriGuardian.Swift.Runtime

/-! A ride, and building one from a document of the `ridehistory` collection.
`Double` is embedded as exact arithmetic. A date is its number of seconds since the
reference date.
-/

namespace AgriGuardian.Rides

open Swift

abbrev TimeInterval := ℚ

abbrev Date := ℚ

def Date.timeIntervalSince (date other : Date) : TimeInterval := date - other

structure CLLocationCoordinate2D where
  latitude : ℚ
  longitude : ℚ
  deriving DecidableEq, Repr

structure CLLocation where
  coordinate : CLLocationCoordinate2D
  altitude : ℚ
  horizontalAccuracy : ℚ
  verticalAccuracy : ℚ
  course : ℚ
  speed : ℚ
  timestamp : Date
  deriving DecidableEq, Repr

/-- `CLLocation()`, a placeholder whose values are never read. -/
def CLLocation.init : CLLocation := ⟨⟨0, 0⟩, 0, 0, 0, 0, 0, 0⟩

/-- `CLLocation.distance(from:)`, in metres: a function of the two coordinates. -/
structure Distance where
  distance : CLLocationCoordinate2D → CLLocationCoordinate2D → ℚ
  nonneg : ∀ location other, 0 ≤ distance location other

/-- One reading of the GPS. -/
structure GPSSample where
  timestamp : Date
  coordinate : CLLocationCoordinate2D
  speed : ℚ
  altitude : ℚ

structure TerrainPoint where
  x : ℚ
  y : ℚ
  z : ℚ
  rollover : Bool
  deriving DecidableEq, Repr

structure Ride where
  terrain : List TerrainPoint
  locations : List CLLocation
  totalTime : TimeInterval
  mileage : ℚ
  didRollover : Bool
  rideDate : Date
  devId : String
  devIdx : ℤ
  deriving DecidableEq, Repr

/-- A field value of a Firestore document. -/
inductive FirestoreValue
  | boolean (value : Bool)
  | integer (value : ℤ)
  | double (value : ℚ)
  | string (value : String)
  | timestamp (value : Date)
  | geoPoint (latitude longitude : ℚ)
  | array (values : List FirestoreValue)

/-- `[String: Any]`. -/
abbrev Document := String → Option FirestoreValue

namespace FirestoreValue

/-- The number an `NSNumber` bridges from. A boolean is one too. -/
def number : FirestoreValue → Option ℚ
  | .boolean value => some (if value then 1 else 0)
  | .integer value => some value
  | .double value => some value
  | _ => none

/-- `as! Double`, which succeeds on integers it represents exactly: those of which the binary
digits after the first 53 are zero.
-/
def asDouble (value : FirestoreValue) : Checked ℚ :=
  match value with
  | .boolean value => .ok (if value then 1 else 0)
  | .integer value =>
      if 2 ^ (value.natAbs.log2 - 52) ∣ value.natAbs then .ok value else .error .failedCast
  | .double value => .ok value
  | _ => .error .failedCast

/-- `as! Int`, which succeeds on numbers it represents exactly. -/
def asInt (value : FirestoreValue) : Checked ℤ :=
  match value.number with
  | some number =>
      if number.den = 1 ∧ IntRange number.num then .ok number.num else .error .failedCast
  | none => .error .failedCast

/-- `as! Bool`, which succeeds on the numbers 0 and 1. -/
def asBool (value : FirestoreValue) : Checked Bool :=
  match value.number with
  | some number =>
      if number = 0 then .ok false
      else if number = 1 then .ok true
      else .error .failedCast
  | none => .error .failedCast

/-- `as! String` -/
def asString : FirestoreValue → Checked String
  | .string value => .ok value
  | _ => .error .failedCast

/-- `as! Timestamp`, with its `dateValue()`. -/
def asTimestamp : FirestoreValue → Checked Date
  | .timestamp value => .ok value
  | _ => .error .failedCast

/-- `as! GeoPoint`, with its two fields. -/
def asGeoPoint : FirestoreValue → Checked CLLocationCoordinate2D
  | .geoPoint latitude longitude => .ok ⟨latitude, longitude⟩
  | _ => .error .failedCast

/-- `as! [Element]`, element by element. -/
def asArray {α : Type} (element : FirestoreValue → Checked α) : FirestoreValue → Checked (List α)
  | .array values => values.mapM element
  | _ => .error .failedCast

end FirestoreValue

/-- `data[field] as! Element`: a missing field fails the cast. -/
def Document.field {α : Type} (data : Document) (name : String)
    (cast : FirestoreValue → Checked α)
    : Checked α :=
  match data name with
  | some value => cast value
  | none => .error .failedCast

namespace Ride

/-- `Ride()`, at the moment `now`. -/
def init (now : Date) : Ride where
  terrain := []
  locations := []
  totalTime := 0
  mileage := 0
  didRollover := false
  rideDate := now
  devId := ""
  devIdx := 0

def addLocation (ride : Ride) (location : CLLocation) : Ride :=
  { ride with locations := ride.locations ++ [location] }

def setTotalTime (ride : Ride) (time : TimeInterval) : Ride := { ride with totalTime := time }

def setMileage (ride : Ride) (mileage : ℚ) : Ride := { ride with mileage := mileage }

def setDate (ride : Ride) (date : Date) : Ride := { ride with rideDate := date }

/-- One round of the loop over the coordinates, on the ride so far and `prevPoint`. -/
def addPoint (earth : Distance) (tempAlts tempVels : List ℚ) (tempTimes : List Date)
    : Ride × CLLocation → CLLocationCoordinate2D × ℕ → Checked (Ride × CLLocation) :=
  fun (ride, prevPoint) (point, idx) => do
    let alt ← element tempAlts idx
    let vel ← element tempVels idx
    let time ← element tempTimes idx
    let currLocation : CLLocation := ⟨point, alt, 0, 0, 0, vel, time⟩
    let ride := ride.addLocation currLocation
    let mileage :=
      if idx > 0 then
        ride.mileage + earth.distance currLocation.coordinate prevPoint.coordinate
      else ride.mileage
    .ok (ride.setMileage mileage, currLocation)

/-- `Ride(data:)`, at the moment `now`. -/
def ofData (earth : Distance) (now : Date) (data : Document) : Checked Ride := do
  let tempAlts ← data.field "altitudes" (FirestoreValue.asArray FirestoreValue.asDouble)
  let tempGPs ← data.field "coordinates" (FirestoreValue.asArray FirestoreValue.asGeoPoint)
  let tempVels ← data.field "velocities" (FirestoreValue.asArray FirestoreValue.asDouble)
  let tempTimes ← data.field "gps_timestamps" (FirestoreValue.asArray FirestoreValue.asTimestamp)
  let (ride, _) ←
    tempGPs.zipIdx.foldlM (addPoint earth tempAlts tempVels tempTimes) (init now, CLLocation.init)
  let devIdx ← data.field "index" FirestoreValue.asInt
  let devId ← data.field "dev_id" FirestoreValue.asString
  let didRollover ← data.field "did_rollover" FirestoreValue.asBool
  let ride := { ride with devIdx := devIdx, devId := devId, didRollover := didRollover }
  match ride.locations.head?, ride.locations.getLast? with
  | some begin', some end' =>
      .ok { ride with
        rideDate := begin'.timestamp
        totalTime := Date.timeIntervalSince end'.timestamp begin'.timestamp }
  | _, _ => .ok ride

end Ride

end AgriGuardian.Rides
