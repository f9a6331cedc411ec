import AgriGuardian.Rides.LoadGPSData
import AgriGuardian.Accounts.DeviceForm
import AgriGuardian.Accounts.DeviceList
import AgriGuardian.Accounts.UserProfile

/-! The devices screen: pairing with a device, the form of a new device, and the list.
A value of the initial characteristic opens the form. Sending the form issues the request of
a device, and its completion handler closes the form and loads the list again. The only scan of
the screen, in `didTapManage`, is commented out, so nothing in the screen itself brings about
the callback `didDiscover`. What is proved is about the callbacks, as the class implements them.
-/

namespace AgriGuardian.Accounts

open Swift
open Basis
open Rides
open BLE

/-- `String(decoding:as:)` for UTF-8. Texts are read back, and what is not UTF-8 is repaired in
a way of its own.
-/
structure UTF8Decoding where
  decode : List UInt8 → String
  decode_utf8 : ∀ text : String, decode text.toByteArray.data.toList = text

/-- What the screen takes from the library and the bundle. -/
structure DevicesServices where
  decoding : UTF8Decoding
  earth : Distance
  foundation : Foundation
  bundle : Bundle
  now : Date

namespace DataManager

/-- The date that `loadRides` gives to a ride, if it does. -/
def sampleDate : ℕ → Option String
  | 1 => some "2019-04-20 19:25:46.757433"
  | 2 => some "2020-02-22 19:25:46.757433"
  | 3 => some "2016-06-22 19:25:46.757433"
  | _ => none

/-- The rides that every device is shown with. -/
def loadRides (services : DevicesServices) : Checked (List Ride) :=
  (List.range 4).mapM fun i => do
    let ride ←
      FirebaseManager.loadGPSData services.earth services.foundation services.bundle services.now
        "gps_2020_03_09" "csv"
    match sampleDate i with
    | none => .ok ride
    | some dateStr =>
        let date ← FirebaseManager.formatDateFromData services.foundation dateStr
        .ok (ride.setDate date)

/-- `loadDevices(completion:)`, the devices it completes with. -/
def loadDevices (services : DevicesServices) (store : Store) (currUID : String)
    : Checked (List Device) :=
  ((store .devices).select (Document.matchesField "uid" currUID)).mapM fun entry => do
    let dev ← Device.ofData entry.2
    let rides ← loadRides services
    .ok { dev with rides := rides }

/-- `loadDevices_tempUser(completion:)`, the user it completes with. -/
def loadDevices_tempUser (services : DevicesServices) (store : Store) (currUID : String)
    : Checked User := do
  let devices ← loadDevices services store currUID
  .ok {
    firstName := "Johnny"
    lastName := "Farmer"
    phoneNumber := "7147824460"
    uid := "u0001"
    emailAddress := "jfarmer@kadd.com"
    devices := devices
    currentDevice := devices.head?.getD Device.init }

end DataManager

structure DevicesCollectionViewController where
  user : User
  devices : List Device
  kaddInitPeripheral : Option CBPeripheral
  kaddCharactaristic : Option CBUUID
  deviceModelNumber : String
  deviceSerialNumber : String

/-- What is on top of the devices screen, if anything. -/
inductive Presented
  | nothing
  | connectAlert
  | addDevice (form : AddDeviceViewController)
  | disconnectAlert (form : AddDeviceViewController)
  | dashboard

/-- The screen with its requests and the number of its queries that are not answered yet. -/
structure DevicesScreen where
  controller : DevicesCollectionViewController
  presented : Presented
  client : DeviceClient
  queries : ℕ

/-- A callback of Core Bluetooth comes with the location that is known then, and the completion
handler of a new device with whether its form is still there to be closed.
-/
inductive DevicesEvent
  | callback (callback : DelegateCallback) (location : Option CLLocation)
  | answerAlert (confirmed : Bool)
  | edit (edit : FormEdit)
  | didTapDone (documentID : DocumentID)
  | didTapCancel
  | respond (served : Bool)
  | complete (closes : Bool)
  | loaded
  | cellForItemAt (row : ℕ)
  | didSelectItemAt (row : ℕ)

inductive DevicesEffect
  | bluetooth (request : DelegateRequest)
  | writeValue (peripheral : CBPeripheral) (characteristic : CBUUID) (value : Data)
  | answered (request : DeviceRequest) (served : Bool)
  | showCell (deviceName vehicleName : String)
  | setCurrDevice (devId : String)
  | navigateToDashboard (chosenDevice : Device)

/-- A trap, or an event that the screen does not let happen. -/
inductive DevicesFault
  | trapped (trap : Trap)
  | notPossible
  deriving DecidableEq

namespace Presented

/-- Presenting something, which is refused as long as anything else is on top. -/
def present (current next : Presented) : Presented :=
  match current with
  | .nothing => next
  | _ => current

/-- The form that is open, be it below an alert. -/
def form? : Presented → Option AddDeviceViewController
  | .addDevice form | .disconnectAlert form => some form
  | .nothing | .connectAlert | .dashboard => none

end Presented

namespace DevicesCollectionViewController

def kaddInitCharacteristic : CBUUID := "c37ce97e-40cb-4875-9886-df66323f6e4c"

/-- The model and the serial number in a value of the initial characteristic. -/
def readNumbers (decoding : UTF8Decoding) (value : Option Data) : Checked (String × String) :=
  match value with
  | none => .error (.fatalError
      "Unexpectedly foundn nil when unwrapping characteristic value for initial setup")
  | some data => do
      let tokens := components (decoding.decode data.bytes) ','
      let deviceModelNumber ← element tokens 0
      let deviceSerialNumber ← element tokens 1
      .ok (deviceModelNumber, deviceSerialNumber)

/-- The form that `navigateToAddDevice` presents. -/
def navigateToAddDevice (controller : DevicesCollectionViewController)
    (location : Option CLLocation)
    : AddDeviceViewController where
  modelNumber := controller.deviceModelNumber
  serialNumber := controller.deviceSerialNumber
  kaddPeripheral := controller.kaddInitPeripheral
  kaddCharacteristic := controller.kaddCharactaristic
  form := location.map DeviceForm.setupForm

end DevicesCollectionViewController

namespace DevicesScreen

open DevicesCollectionViewController

abbrev Step := Outcome DevicesScreen DevicesEffect DevicesFault

/-- The callbacks of Core Bluetooth. -/
def receive (services : DevicesServices) (screen : DevicesScreen) (location : Option CLLocation)
    : DelegateCallback → Step
  | .centralManagerDidUpdateState _ => ([], .ok screen)
  | .didDiscover peripheral =>
      ([.bluetooth .stopScan],
        .ok { screen with
          controller := { screen.controller with kaddInitPeripheral := some peripheral }
          presented := screen.presented.present .connectAlert })
  | .didConnect _ =>
      match screen.controller.kaddInitPeripheral with
      | some kaddInitPeripheral =>
          ([.bluetooth (.discoverServices kaddInitPeripheral)], .ok screen)
      | none => ([], .error (.trapped .unexpectedNil))
  | .didDiscoverServices peripheral services =>
      match services with
      | some services =>
          (services.map fun service =>
              .bluetooth (.discoverCharacteristics peripheral service),
            .ok screen)
      | none => ([], .error (.trapped (.fatalError "Unable to unwrap services")))
  | .didDiscoverCharacteristicsFor peripheral characteristics =>
      match characteristics with
      | some characteristics =>
          ((characteristics.filter fun characteristic =>
              characteristic.uuid == kaddInitCharacteristic && characteristic.readable).map
              fun characteristic => .bluetooth (.readValue peripheral characteristic.uuid),
            .ok screen)
      | none =>
          ([], .error (.trapped (.fatalError
            "Unexpectedly found nil while unwrapping characteristics")))
  | .didUpdateValueFor _ characteristic =>
      if characteristic.uuid = kaddInitCharacteristic then
        match readNumbers services.decoding characteristic.value with
        | .error trap => ([], .error (.trapped trap))
        | .ok (deviceModelNumber, deviceSerialNumber) =>
            let controller := { screen.controller with
              kaddCharactaristic := some characteristic.uuid
              deviceModelNumber, deviceSerialNumber }
            ([],
              .ok { screen with
                controller
                presented :=
                  screen.presented.present (.addDevice (controller.navigateToAddDevice location)) })
      else ([], .ok screen)

/-- A button of the alert on top. -/
def answerAlert (screen : DevicesScreen) (confirmed : Bool) : Step :=
  match screen.presented with
  | .connectAlert =>
      if confirmed then
        match screen.controller.kaddInitPeripheral with
        | some kaddInitPeripheral =>
            ([.bluetooth (.connect kaddInitPeripheral)], .ok { screen with presented := .nothing })
        | none => ([], .error (.trapped .unexpectedNil))
      else ([], .ok { screen with presented := .nothing })
  | .disconnectAlert form =>
      ([], .ok { screen with presented := if confirmed then .nothing else .addDevice form })
  | _ => ([], .error .notPossible)

def edit (screen : DevicesScreen) (edit : FormEdit) : Step :=
  match screen.presented with
  | .addDevice form =>
      match form.form with
      | some rows =>
          ([], .ok { screen with presented := .addDevice { form with form := rows.edit edit } })
      | none => ([], .error .notPossible)
  | _ => ([], .error .notPossible)

/-- The form is valid: the device is added, and the peripheral gets its acknowledgement. -/
def save (uid : String) (screen : DevicesScreen) (documentID : DocumentID)
    (form : AddDeviceViewController)
    : Step :=
  match form.getDeviceInfo with
  | .error trap => ([], .error (.trapped trap))
  | .ok thisDevice =>
      match screen.client.handle uid
          (.addToDevice .addDeviceViewController documentID thisDevice) with
      | (_, .error (.trapped trap)) => ([], .error (.trapped trap))
      | (_, .error _) => ([], .error .notPossible)
      | (_, .ok client) =>
          match form.kaddPeripheral, form.kaddCharacteristic with
          | some kaddPeripheral, some kaddCharacteristic =>
              ([.writeValue kaddPeripheral kaddCharacteristic PeripheralViewController.ack],
                .ok { screen with client := client })
          | _, _ => ([], .error (.trapped .unexpectedNil))

def didTapDone (uid : String) (screen : DevicesScreen) (documentID : DocumentID) : Step :=
  match screen.presented with
  | .addDevice form =>
      match form.validateForm with
      | .error trap => ([], .error (.trapped trap))
      | .ok false => ([], .ok { screen with presented := .disconnectAlert form })
      | .ok true => screen.save uid documentID form
  | _ => ([], .error .notPossible)

def didTapCancel (screen : DevicesScreen) : Step :=
  match screen.presented with
  | .addDevice form =>
      match form.validateForm with
      | .error trap => ([], .error (.trapped trap))
      | .ok false => ([], .ok { screen with presented := .disconnectAlert form })
      | .ok true => ([], .ok { screen with presented := .nothing })
  | _ => ([], .error .notPossible)

/-- The answer to the oldest request. -/
def respond (uid : String) (screen : DevicesScreen) (served : Bool) : Step :=
  match screen.client.handle uid (.respond served) with
  | (_, .error _) => ([], .error .notPossible)
  | (answers, .ok client) =>
      (answers.map fun answer => .answered answer.1 answer.2, .ok { screen with client := client })

/-- The next completion handler, which lists the device that has been set. It closes the form,
if that is still open, and `unwindFromAddDevice` loads the devices anew.
-/
def complete (uid : String) (screen : DevicesScreen) (closes : Bool) : Step :=
  match screen.client.handle uid .complete with
  | (_, .error _) => ([], .error .notPossible)
  | (_, .ok client) =>
      if closes then
        match screen.presented.form? with
        | some _ =>
            ([], .ok { screen with
              presented := .nothing
              client := client
              queries := screen.queries + 1 })
        | none => ([], .error .notPossible)
      else ([], .ok { screen with client := client })

/-- The completion handler of a query of `loadData`. -/
def loaded (services : DevicesServices) (uid : String) (screen : DevicesScreen) : Step :=
  match screen.queries with
  | 0 => ([], .error .notPossible)
  | queries + 1 =>
      match DataManager.loadDevices_tempUser services screen.client.store uid with
      | .error trap => ([], .error (.trapped trap))
      | .ok user =>
          ([], .ok { screen with
            controller := { screen.controller with user := user, devices := user.devices }
            queries := queries })

def cellForItemAt (screen : DevicesScreen) (row : ℕ) : Step :=
  if row < screen.controller.devices.length then
    match element screen.controller.devices row with
    | .error trap => ([], .error (.trapped trap))
    | .ok device => ([.showCell device.name device.atvModel], .ok screen)
  else ([], .error .notPossible)

def didSelectItemAt (screen : DevicesScreen) (row : ℕ) : Step :=
  match screen.presented with
  | .nothing =>
      if row < screen.controller.devices.length then
        match element screen.controller.devices row with
        | .error trap => ([], .error (.trapped trap))
        | .ok device =>
            ([.setCurrDevice device.devId, .navigateToDashboard device],
              .ok { screen with
                controller := { screen.controller with
                  user := { screen.controller.user with currentDevice := device } }
                presented := .dashboard })
      else ([], .error .notPossible)
  | _ => ([], .error .notPossible)

/-- The handler of an event. Cells are asked for and tapped only in the rows there are. -/
def handle (services : DevicesServices) (uid : String)
    : Handler DevicesScreen DevicesEvent DevicesEffect DevicesFault
  | screen, .callback callback location => screen.receive services location callback
  | screen, .answerAlert confirmed => screen.answerAlert confirmed
  | screen, .edit edit => screen.edit edit
  | screen, .didTapDone documentID => screen.didTapDone uid documentID
  | screen, .didTapCancel => screen.didTapCancel
  | screen, .respond served => screen.respond uid served
  | screen, .complete closes => screen.complete uid closes
  | screen, .loaded => screen.loaded services uid
  | screen, .cellForItemAt row => screen.cellForItemAt row
  | screen, .didSelectItemAt row => screen.didSelectItemAt row

/-- The screen when its view has been loaded, which issues the first query. -/
def start (store : Store) : DevicesScreen where
  controller := {
    user := User.init
    devices := []
    kaddInitPeripheral := none
    kaddCharactaristic := none
    deviceModelNumber := ""
    deviceSerialNumber := "" }
  presented := .nothing
  client := .start store
  queries := 1

end DevicesScreen

end AgriGuardian.Accounts
