import AgriGuardian.Accounts.Device
import AgriGuardian.Rides.OrganizeUserRides
import AgriGuardian.Rides.RideDocument

/-! Loading the dashboard: the user, the user's devices, and the rides of the chosen one. -/

namespace AgriGuardian.Accounts

open Swift
open Basis
open Rides

structure User where
  firstName : String
  lastName : String
  phoneNumber : String
  emailAddress : String
  uid : String
  devices : List Device
  currentDevice : Device

/-- `User(data:)`, for the signed-in user. -/
def User.ofData (uid : String) (data : Document) : Checked User := do
  let firstName ← data.field "firstName" FirestoreValue.asString
  let lastName ← data.field "lastName" FirestoreValue.asString
  let phoneNumber ← data.field "phoneNumber" FirestoreValue.asString
  let emailAddress ← data.field "email" FirestoreValue.asString
  let devId ← data.field "currentDevice" FirestoreValue.asString
  .ok {
    firstName, lastName, phoneNumber, emailAddress, uid
    devices := []
    currentDevice := { Device.init with devId := devId } }

namespace FirebaseManager

/-- The document that `createUser` sets. -/
def newUserDocument (email : String) : Document :=
  Document.ofFields [
    ("currentDevice", .string ""),
    ("email", .string email),
    ("firstName", .string ""),
    ("lastName", .string ""),
    ("phoneNumber", .string ""),
    ("Devices", .array [])]

def createUser (email uid : String) : Write := .setData .users uid (newUserDocument email)

def setCurrDevice (uid currDev : String) : Write :=
  .updateData .users uid "currentDevice" (.set (.string currDev))

/-- `getUser(uid:completion:)`, the user it completes with. -/
def getUser (store : Store) (uid : String) : Checked User :=
  match (store .users).find? uid with
  | some userDoc => User.ofData uid userDoc
  | none => .error .unexpectedNil

/-- `getDevices(uid:completion:)`, the devices it completes with. -/
def getDevices (store : Store) (uid : String) : Checked (List Device) :=
  ((store .devices).select (Document.matchesField "uid" uid)).mapM fun entry =>
    Device.ofData entry.2

/-- `getRides(devId:completion:)`, the rides it completes with. -/
def getRides (earth : Distance) (now : Date) (store : Store) (devId : String)
    : Checked (List Ride) :=
  ((store .ridehistory).select (Document.matchesField "dev_id" devId)).mapM fun entry =>
    Ride.ofData earth now entry.2

end FirebaseManager

namespace MainTabBarController

open FirebaseManager

/-- `loadCurrDev(devId:)` on the devices of the user. -/
def loadCurrDev (devices : List Device) (devId : String) : Device :=
  if devId ≠ "" then (devices.find? fun dev => devId == dev.devId).getD Device.init
  else devices.head?.getD Device.init

/-- The chain of `viewDidLoad` up to the choice of the device. -/
def chooseDevice (store : Store) (uid : String) : Checked Device := do
  let currUser ← getUser store uid
  let currDevs ← getDevices store uid
  .ok (loadCurrDev currDevs currUser.currentDevice.devId)

/-- The chain of `viewDidLoad`: the chosen device with its rides. -/
def loadChain (earth : Distance) (formatters : Formatters) (now : Date) (store : Store)
    (uid : String)
    : Checked Device := do
  let chosenDevice ← chooseDevice store uid
  let rides ← getRides earth now store chosenDevice.devId
  let history ← Rides.FirebaseManager.organizeUserRides formatters rides
  .ok { chosenDevice with rides := rides, rideHistory := history }

end MainTabBarController

-----------------------------------------------------------------------------------------
-- What the queries return
-----------------------------------------------------------------------------------------

/-- A field that casts to a string is one. -/
theorem field_asString_eq_ok {data : Document} {name text : String}
    : data.field name FirestoreValue.asString = .ok text ↔ data name = some (.string text) := by
  rw [Document.field]
  cases data name with
  | none => simp
  | some value => cases value <;> simp [FirestoreValue.asString]

/-- A device read from a document has the user and the id of the document. -/
theorem Device.ofData_eq_ok {data : Document} {device : Device}
    (returned : ofData data = .ok device)
    : data "uid" = some (.string device.uid) ∧ data "devId" = some (.string device.devId) := by
  rw [ofData] at returned
  obtain ⟨name, -, returned⟩ := bind_eq_ok.mp returned
  obtain ⟨modelNumber, -, returned⟩ := bind_eq_ok.mp returned
  obtain ⟨serialNumber, -, returned⟩ := bind_eq_ok.mp returned
  obtain ⟨atvModel, -, returned⟩ := bind_eq_ok.mp returned
  obtain ⟨manufacturer, -, returned⟩ := bind_eq_ok.mp returned
  obtain ⟨hardwareVersion, -, returned⟩ := bind_eq_ok.mp returned
  obtain ⟨firmwareVersion, -, returned⟩ := bind_eq_ok.mp returned
  obtain ⟨uid, owner, returned⟩ := bind_eq_ok.mp returned
  obtain ⟨devId, id, returned⟩ := bind_eq_ok.mp returned
  obtain ⟨lastLocation, -, returned⟩ := bind_eq_ok.mp returned
  obtain ⟨rides, -, returned⟩ := bind_eq_ok.mp returned
  obtain ⟨gfToggle, -, returned⟩ := bind_eq_ok.mp returned
  obtain ⟨gfRadius, -, returned⟩ := bind_eq_ok.mp returned
  obtain ⟨gfGeoPoint, -, returned⟩ := bind_eq_ok.mp returned
  obtain rfl := Except.ok.inj returned
  exact ⟨field_asString_eq_ok.mp owner, field_asString_eq_ok.mp id⟩

namespace MainTabBarController

/-- The chosen device is that of the stored id, or the first where none is stored, or the
default one.
-/
theorem loadCurrDev_cases (devices : List Device) (devId : String)
    : (loadCurrDev devices devId ∈ devices
        ∧ (devId ≠ "" → (loadCurrDev devices devId).devId = devId)
        ∧ (devId = "" → devices.head? = some (loadCurrDev devices devId)))
      ∨ (loadCurrDev devices devId = Device.init
        ∧ (if devId = "" then devices = [] else ∀ device ∈ devices, device.devId ≠ devId)) := by
  rw [loadCurrDev]
  split
  · rename_i stored
    cases found : devices.find? fun dev => devId == dev.devId with
    | none =>
        right
        refine ⟨rfl, ?_⟩
        intro device member same
        simpa [same] using List.find?_eq_none.mp found device member
    | some chosen =>
        left
        have same : devId = chosen.devId := by simpa using List.find?_some found
        exact ⟨List.mem_of_find?_eq_some found, fun _ => same.symm, fun none => absurd none stored⟩
  · rename_i none
    obtain rfl : devId = "" := not_not.mp none
    cases devices with
    | nil => exact Or.inr ⟨rfl, rfl⟩
    | cons first rest =>
        exact Or.inl ⟨List.mem_cons_self, fun some => absurd rfl some, fun _ => rfl⟩

end MainTabBarController

end AgriGuardian.Accounts
