import AgriGuardian.Accounts.Firestore
import AgriGuardian.Rides.RideOrganization

/-! Devices, the two ways of writing one to the `devices` collection, and reading it back.
The reader needs every field that `AddDeviceViewController` writes. `ProfilesViewController`
leaves five of them out.
-/

namespace AgriGuardian.Accounts

open Swift
open Rides

structure Device where
  name : String
  modelNumber : String
  serialNumber : String
  atvModel : String
  manufacturer : String
  firmwareVersion : String
  hardwareVersion : String
  lastLocation : String
  uid : String
  devId : String
  rideHistory : RideHistory
  rides : List Ride
  gfToggle : Bool
  gfRadius : ℚ
  gfCenter : CLLocation

/-- `CLLocation(latitude:longitude:)`; nothing but the coordinate of it is read. -/
def locationAt (coordinate : CLLocationCoordinate2D) : CLLocation :=
  { CLLocation.init with coordinate := coordinate }

/-- `as! Array` into an array of rides, which no element of a document is. -/
def asRides : FirestoreValue → Checked (List Ride) :=
  FirestoreValue.asArray fun _ => .error .failedCast

/-- The coordinates a `GeoPoint` can have. -/
def ValidCoordinate (coordinate : CLLocationCoordinate2D) : Prop :=
  (-90 ≤ coordinate.latitude ∧ coordinate.latitude ≤ 90)
  ∧ (-180 ≤ coordinate.longitude ∧ coordinate.longitude ≤ 180)

instance (coordinate : CLLocationCoordinate2D) : Decidable (ValidCoordinate coordinate) :=
  inferInstanceAs (Decidable ((_ ∧ _) ∧ _ ∧ _))

/-- `GeoPoint(latitude:longitude:)`. The text of the exception goes on with the value, as in
`, but was 91`, which is left out.
-/
def geoPoint (latitude longitude : ℚ) : Checked FirestoreValue :=
  if latitude < -90 ∨ latitude > 90 then
    .error (.invalidArgument "GeoPoint requires a latitude value in the range of [-90, 90]")
  else if longitude < -180 ∨ longitude > 180 then
    .error (.invalidArgument "GeoPoint requires a longitude value in the range of [-180, 180]")
  else .ok (.geoPoint latitude longitude)

namespace Device

/-- `Device()` -/
def init : Device where
  name := ""
  modelNumber := ""
  serialNumber := ""
  atvModel := ""
  manufacturer := ""
  firmwareVersion := ""
  hardwareVersion := ""
  lastLocation := ""
  uid := ""
  devId := ""
  rideHistory := RideHistory.init
  rides := []
  gfToggle := false
  gfRadius := 0
  gfCenter := CLLocation.init

/-- `Device(data:)` -/
def ofData (data : Document) : Checked Device := do
  let name ← data.field "name" FirestoreValue.asString
  let modelNumber ← data.field "modelNumber" FirestoreValue.asString
  let serialNumber ← data.field "serialNumber" FirestoreValue.asString
  let atvModel ← data.field "atvModel" FirestoreValue.asString
  let manufacturer ← data.field "manufacturer" FirestoreValue.asString
  let hardwareVersion ← data.field "hardwareVersion" FirestoreValue.asString
  let firmwareVersion ← data.field "firmwareVersion" FirestoreValue.asString
  let uid ← data.field "uid" FirestoreValue.asString
  let devId ← data.field "devId" FirestoreValue.asString
  let lastLocation ← data.field "lastLocation" FirestoreValue.asString
  let rides ← data.field "rideHistory" asRides
  let gfToggle ← data.field "gfToggle" FirestoreValue.asBool
  let gfRadius ← data.field "gfRadius" FirestoreValue.asDouble
  let gfGeoPoint ← data.field "gfCenter" FirestoreValue.asGeoPoint
  .ok {
    name, modelNumber, serialNumber, atvModel, manufacturer, hardwareVersion, firmwareVersion,
    uid, devId, lastLocation, rides, gfToggle, gfRadius
    rideHistory := RideHistory.init
    gfCenter := locationAt gfGeoPoint }

end Device

/-- The document `AddDeviceViewController.addToDevice` sets for the signed-in user. -/
def AddDeviceViewController.deviceDocument (currUID documentID : String) (device : Device)
    : Checked Document := do
  let gfGeoPoint ←
    geoPoint device.gfCenter.coordinate.latitude device.gfCenter.coordinate.longitude
  .ok (Document.ofFields [
    ("name", .string device.name),
    ("modelNumber", .string device.modelNumber),
    ("serialNumber", .string device.serialNumber),
    ("atvModel", .string device.atvModel),
    ("manufacturer", .string device.manufacturer),
    ("hardwareVersion", .string device.hardwareVersion),
    ("firmwareVersion", .string device.firmwareVersion),
    ("lastLocation", .string ""),
    ("uid", .string currUID),
    ("devId", .string documentID),
    ("rideHistory", .array []),
    ("gfToggle", .boolean device.gfToggle),
    ("gfRadius", .double device.gfRadius),
    ("gfCenter", gfGeoPoint)])

/-- `ProfilesViewController.currUID`, which nothing sets: the loader that would is commented
out.
-/
def ProfilesViewController.currUID : String := ""

/-- The document `ProfilesViewController.addToDevice` sets. -/
def ProfilesViewController.deviceDocument (documentID : String) (device : Device) : Document :=
  Document.ofFields [
    ("name", .string device.name),
    ("modelNumber", .string device.modelNumber),
    ("serialNumber", .string device.serialNumber),
    ("atvModel", .string device.atvModel),
    ("manufacturer", .string device.manufacturer),
    ("hardwareVersion", .string device.hardwareVersion),
    ("firmwareVersion", .string device.firmwareVersion),
    ("uid", .string ProfilesViewController.currUID),
    ("devId", .string documentID)]

/-- The two controllers that add devices. -/
inductive Adder
  | addDeviceViewController
  | profilesViewController
  deriving DecidableEq

/-- The document `addToDevice` sets under its id for the signed-in user. -/
def Adder.deviceDocument (currUID documentID : String) (device : Device)
    : Adder → Checked Document
  | .addDeviceViewController =>
      AddDeviceViewController.deviceDocument currUID documentID device
  | .profilesViewController => .ok (ProfilesViewController.deviceDocument documentID device)

-----------------------------------------------------------------------------------------
-- Reading back
-----------------------------------------------------------------------------------------

theorem geoPoint_of_valid {coordinate : CLLocationCoordinate2D}
    (valid : ValidCoordinate coordinate)
    : geoPoint coordinate.latitude coordinate.longitude
      = .ok (.geoPoint coordinate.latitude coordinate.longitude) := by
  obtain ⟨⟨south, north⟩, west, east⟩ := valid
  rw [geoPoint, if_neg (by simp [south, north]), if_neg (by simp [west, east])]

/-- A returning conversion had valid coordinates. -/
theorem geoPoint_eq_ok {latitude longitude : ℚ} {value : FirestoreValue}
    (returned : geoPoint latitude longitude = .ok value)
    : ValidCoordinate ⟨latitude, longitude⟩ ∧ value = .geoPoint latitude longitude := by
  rw [geoPoint] at returned
  split at returned
  · cases returned
  · rename_i latitudes
    split at returned
    · cases returned
    · rename_i longitudes
      simp only [not_or, not_lt] at latitudes longitudes
      exact ⟨⟨latitudes, longitudes⟩, (Except.ok.inj returned).symm⟩

/-- A device can be written if and only if its centre is possible. -/
theorem AddDeviceViewController.exists_deviceDocument_iff {currUID documentID : String}
    {device : Device}
    : (∃ document, deviceDocument currUID documentID device = .ok document)
      ↔ ValidCoordinate device.gfCenter.coordinate := by
  constructor
  · rintro ⟨document, written⟩
    obtain ⟨point, returned, -⟩ := bind_eq_ok.mp written
    exact (geoPoint_eq_ok returned).1
  · intro possible
    rw [deviceDocument, geoPoint_of_valid possible, ok_bind]
    exact ⟨_, rfl⟩

/-- The device read from the document that `AddDeviceViewController` sets. -/
def Device.stored (currUID documentID : String) (device : Device) : Device :=
  { device with
    lastLocation := ""
    uid := currUID
    devId := documentID
    rides := []
    rideHistory := RideHistory.init
    gfCenter := locationAt device.gfCenter.coordinate }

theorem asBool_boolean (value : Bool)
    : FirestoreValue.asBool (.boolean value) = .ok value := by
  cases value <;> simp [FirestoreValue.asBool, FirestoreValue.number]

/-- What `AddDeviceViewController` writes is read back. All casts but that of the toggle,
which bridges through a number, are by computation.
-/
theorem AddDeviceViewController.ofData_deviceDocument {currUID documentID : String}
    {device : Device} {document : Document}
    (written : deviceDocument currUID documentID device = .ok document)
    : Device.ofData document = .ok (device.stored currUID documentID) := by
  obtain ⟨gfGeoPoint, converted, built⟩ := bind_eq_ok.mp written
  obtain ⟨-, rfl⟩ := geoPoint_eq_ok converted
  obtain rfl := Except.ok.inj built
  calc
    Device.ofData _
        = (do
            let gfToggle ← FirestoreValue.asBool (.boolean device.gfToggle)
            .ok { device.stored currUID documentID with gfToggle := gfToggle }) := rfl
    _ = .ok (device.stored currUID documentID) := by rw [asBool_boolean, ok_bind]; rfl

/-- The document can be written, and is read back as a device of the user under the id with
the properties of the one written.
-/
def ReadsBack (adder : Adder) (currUID documentID : String) (device : Device) : Prop :=
  ∃ document decoded,
    adder.deviceDocument currUID documentID device = .ok document
    ∧ Device.ofData document = .ok decoded
    ∧ decoded.name = device.name
    ∧ decoded.modelNumber = device.modelNumber
    ∧ decoded.serialNumber = device.serialNumber
    ∧ decoded.atvModel = device.atvModel
    ∧ decoded.manufacturer = device.manufacturer
    ∧ decoded.hardwareVersion = device.hardwareVersion
    ∧ decoded.firmwareVersion = device.firmwareVersion
    ∧ decoded.gfToggle = device.gfToggle
    ∧ decoded.gfRadius = device.gfRadius
    ∧ decoded.gfCenter.coordinate = device.gfCenter.coordinate
    ∧ decoded.uid = currUID
    ∧ decoded.devId = documentID

/-- What `ProfilesViewController` writes is not: it has no last location. -/
theorem ProfilesViewController.ofData_deviceDocument (documentID : String) (device : Device)
    : Device.ofData (deviceDocument documentID device) = .error .failedCast :=
  rfl

/-- A device with a valid geofence centre is written and read back exactly by way of
`AddDeviceViewController`.
-/
theorem readsBack_iff (adder : Adder) (currUID documentID : String) (device : Device)
    (valid : ValidCoordinate device.gfCenter.coordinate)
    : ReadsBack adder currUID documentID device ↔ adder = .addDeviceViewController := by
  cases adder with
  | addDeviceViewController =>
      obtain ⟨document, written⟩
          : ∃ document,
              AddDeviceViewController.deviceDocument currUID documentID device
                = .ok document := by
        rw [AddDeviceViewController.deviceDocument, geoPoint_of_valid valid, ok_bind]
        exact ⟨_, rfl⟩
      have decoded := AddDeviceViewController.ofData_deviceDocument written
      refine iff_of_true ⟨document, _, written, decoded, ?_⟩ rfl
      exact ⟨rfl, rfl, rfl, rfl, rfl, rfl, rfl, rfl, rfl, rfl, rfl, rfl⟩
  | profilesViewController =>
      refine iff_of_false ?_ (by simp)
      intro ⟨document, decoded, written, returned, _⟩
      obtain rfl := Except.ok.inj written
      rw [ProfilesViewController.ofData_deviceDocument] at returned
      cases returned

theorem readsBack_iff_newDevice
    : ReadsBack .addDeviceViewController "u1" "d1" Device.init
      ↔ Adder.addDeviceViewController = .addDeviceViewController :=
  readsBack_iff .addDeviceViewController "u1" "d1" Device.init (by decide)

/-- A new profile is written without the fields that the reader casts. -/
theorem newProfile_not_read_back
    : ¬ ∀ (adder : Adder) (currUID documentID : String) (device : Device),
        ValidCoordinate device.gfCenter.coordinate
        → ReadsBack adder currUID documentID device := by
  intro claim
  obtain ⟨document, decoded, written, returned, -⟩ :=
    claim .profilesViewController "u1" "d1" { Device.init with name := "Quad" } (by decide)
  obtain rfl := Except.ok.inj written
  cases returned

end AgriGuardian.Accounts
