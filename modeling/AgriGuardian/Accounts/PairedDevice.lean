import AgriGuardian.Accounts.CurrentDevice
import AgriGuardian.Accounts.DevicesCollection

/-! From a value of a peripheral to the dashboard.
The numbers that a peripheral sends and what is entered in the form are stored, shown in the
list, and are those of the device that the dashboard opens after a tap.
-/

namespace AgriGuardian.Accounts

open Swift
open Basis
open Rides
open BLE
open FirebaseManager
open DevicesCollectionViewController

/-- A text as a value of a characteristic. -/
def utf8Value (text : String) : Data := Data.ofBytes text.toByteArray.data.toList

/-- Connecting to a peripheral, up to the value that tells its numbers. -/
def connecting (peripheral : CBPeripheral) (offered : List CBService)
    (characteristics : List CBCharacteristic) (text : String) (location : CLLocation)
    : List DevicesEvent := [
  .callback (.didDiscover peripheral) none,
  .answerAlert true,
  .callback (.didConnect peripheral) none,
  .callback (.didDiscoverServices peripheral (some offered)) none,
  .callback (.didDiscoverCharacteristicsFor peripheral (some characteristics)) none,
  .callback (.didUpdateValueFor peripheral ⟨kaddInitCharacteristic, true, some (utf8Value text)⟩)
    (some location)]

/-- Sending the form, up to the completion handler that closes it. -/
def sending (documentID : DocumentID) : List DevicesEvent := [
  .didTapDone documentID,
  .respond true,
  .complete true,
  .respond true]

theorem readNumbers_utf8Value (decoding : UTF8Decoding) {text model serial : String}
    {others : List String} (told : components text ',' = model :: serial :: others)
    : readNumbers decoding (some (utf8Value text)) = .ok (model, serial) := by
  rw [readNumbers, utf8Value, Data.ofBytes, decoding.decode_utf8, told]
  rfl

/-- The list has the devices of the user, all with the sample rides. -/
theorem DataManager.loadDevices_of_getDevices {services : DevicesServices} {store : Store}
    {uid : String} {rides : List Ride} (sampled : loadRides services = .ok rides)
    {devices : List Device} (returned : getDevices store uid = .ok devices)
    : loadDevices services store uid
      = .ok (devices.map fun device => { device with rides := rides }) := by
  refine mapM_eq_ok_iff.mpr ?_
  rw [List.forall₂_map_right_iff]
  refine (mapM_eq_ok_iff.mp returned).imp fun entry device read => ?_
  rw [read, ok_bind, sampled, ok_bind]

/-- The sample rides are the ride of the file, three of them at other dates. -/
theorem DataManager.exists_loadRides {services : DevicesServices} {ride : Ride}
    (loaded
      : loadGPSData services.earth services.foundation services.bundle services.now
          "gps_2020_03_09" "csv"
        = .ok ride)
    (dated
      : ∀ i dateStr, sampleDate i = some dateStr
        → ∃ date, formatDateFromData services.foundation dateStr = .ok date)
    : ∃ rides, loadRides services = .ok rides := by
  refine (@exists_mapM_eq_ok ℕ Ride _ (fun _ _ => True) (List.range 4) fun i _ => ?_).imp
    fun rides returned => returned.1
  rw [loaded, ok_bind]
  cases sample : sampleDate i with
  | none => exact ⟨_, rfl, trivial⟩
  | some dateStr =>
      obtain ⟨date, formatted⟩ := dated i dateStr sample
      simp only [formatted, ok_bind]
      exact ⟨_, rfl, trivial⟩

/-- The store after a device is set and listed for a user with an account. -/
theorem Loadable.add_device {uid current : String} (signedIn : uid ≠ "") {store : Store}
    (loadable : Loadable uid current store) (account : ((store .users).find? uid).isSome)
    {documentID : DocumentID} {device : Device} {document : Document}
    (written : AddDeviceViewController.deviceDocument uid documentID device = .ok document)
    : ∃ after,
        (store.replace .devices ((store .devices).insert documentID document)).perform
            (addToUserDevice uid documentID)
          = some after
        ∧ Loadable uid current after
        ∧ ((after .users).find? uid).isSome
        ∧ (documentID.1, document) ∈ after .devices
        ∧ after.Lists uid documentID := by
  have own : Adder.addDeviceViewController.deviceDocument uid documentID device = .ok document :=
    written
  have set := loadable.insert_device signedIn account documentID.2 own
  obtain ⟨user, found⟩ := Option.isSome_iff_exists.mp account
  obtain ⟨after, listed⟩
      : ∃ after,
          (store.replace .devices ((store .devices).insert documentID document)).perform
              (addToUserDevice uid documentID)
            = some after := by
    simp [addToUserDevice, Store.perform, found]
  refine ⟨after, listed, set.update_user listed fun content reads => reads.update_devices _, ?_,
    ?_, (Store.lists_addToUserDevice listed).mpr (Or.inl rfl)⟩
  · obtain ⟨content, -, rfl⟩ := Store.perform_updateData listed
    rw [Store.replace_self, Table.find?_insert, if_pos rfl]
    rfl
  · rw [Store.perform_frame listed (by nofun), Store.replace_self]
    exact Table.mem_insert.mpr (Or.inl rfl)

namespace DevicesScreen

variable {services : DevicesServices} {uid : String} {screen : DevicesScreen}

/-- The screen with the form that was opened by these numbers. -/
def withForm (screen : DevicesScreen) (peripheral : CBPeripheral) (model serial : String)
    (rows : DeviceForm)
    : DevicesScreen :=
  { screen with
    controller := { screen.controller with
      kaddInitPeripheral := some peripheral
      kaddCharactaristic := some kaddInitCharacteristic
      deviceModelNumber := model
      deviceSerialNumber := serial }
    presented := .addDevice ⟨model, serial, peripheral, kaddInitCharacteristic, rows⟩ }

theorem run_connecting (top : screen.presented = .nothing) (peripheral : CBPeripheral)
    (offered : List CBService) (characteristics : List CBCharacteristic)
    {text model serial : String} {others : List String}
    (told : components text ',' = model :: serial :: others)
    (location : CLLocation)
    : (run (handle services uid) screen
          (connecting peripheral offered characteristics text location)).2
      = .ok (screen.withForm peripheral model serial (.setupForm location)) := by
  have read := readNumbers_utf8Value services.decoding told
  simp [connecting, run, handle, receive, answerAlert, top, Presented.present, read,
    navigateToAddDevice, withForm]

theorem run_edits (peripheral : CBPeripheral) (model serial : String) (rows : DeviceForm)
    (edits : List FormEdit)
    : run (handle services uid) (screen.withForm peripheral model serial rows)
        (edits.map .edit)
      = ([], .ok (screen.withForm peripheral model serial (edits.foldl DeviceForm.edit rows))) := by
  induction edits generalizing rows with
  | nil => rfl
  | cons edit rest ih =>
      have edited
          : handle services uid (screen.withForm peripheral model serial rows) (.edit edit)
            = ([], .ok (screen.withForm peripheral model serial (rows.edit edit))) := rfl
      rw [List.map_cons, run_cons_ok edited, ih]
      rfl

/-- A valid form is sent: its device is set and listed, and the form is closed. -/
theorem run_sending (quiet : screen.client.Quiet) (peripheral : CBPeripheral)
    {model serial : String} {rows : DeviceForm} {device : Device}
    (valid
      : AddDeviceViewController.validateForm
          ⟨model, serial, peripheral, kaddInitCharacteristic, rows⟩
        = .ok true)
    (info
      : AddDeviceViewController.getDeviceInfo
          ⟨model, serial, peripheral, kaddInitCharacteristic, rows⟩
        = .ok device)
    {documentID : DocumentID} {document : Document}
    (written : AddDeviceViewController.deviceDocument uid documentID device = .ok document)
    {after : Store}
    (listed
      : (screen.client.store.replace .devices
            ((screen.client.store .devices).insert documentID document)).perform
          (addToUserDevice uid documentID)
        = some after)
    : run (handle services uid) (screen.withForm peripheral model serial rows)
          (sending documentID)
      = ([
          .writeValue peripheral kaddInitCharacteristic PeripheralViewController.ack,
          .answered (.setDevice documentID document) true,
          .answered (.addToUserDevice documentID) true],
          .ok { screen.withForm peripheral model serial rows with
            presented := .nothing
            client := .start after
            queries := screen.queries + 1 }) := by
  obtain ⟨controller, presented, ⟨store, outstanding, completions⟩, queries⟩ := screen
  obtain ⟨rfl, rfl⟩ := quiet
  have set
      : store.perform (.setData .devices documentID document)
        = some (store.replace .devices ((store .devices).insert documentID document)) := rfl
  simp only at listed
  simp [sending, run, handle, didTapDone, save, withForm, valid, info, respond, complete,
    DeviceClient.handle, DeviceClient.issue, DeviceClient.start, DeviceRequest.write,
    DeviceRequest.followUp, Adder.deviceDocument, written, set, listed, Presented.form?]

/-- A query shows the devices it returns. -/
theorem handle_loaded {devices : List Device}
    (listed : DataManager.loadDevices services screen.client.store uid = .ok devices)
    (asked : screen.queries ≠ 0)
    : ∃ next,
        handle services uid screen .loaded = ([], .ok next)
        ∧ next.controller.devices = devices
        ∧ next.presented = screen.presented
        ∧ next.client = screen.client := by
  obtain ⟨queries, asked⟩ := Nat.exists_eq_succ_of_ne_zero asked
  simp [handle, loaded, asked, DataManager.loadDevices_tempUser, listed]

/-- A peripheral is connected, its valid form is sent, and the list is loaded again: the device
is stored, listed for the user and acknowledged, and the screen has a row for it.
-/
theorem run_pairing (signedIn : uid ≠ "") (top : screen.presented = .nothing)
    (quiet : screen.client.Quiet) {current : String}
    (loadable : Loadable uid current screen.client.store)
    (account : ((screen.client.store .users).find? uid).isSome) {rides : List Ride}
    (sampled : DataManager.loadRides services = .ok rides) {text model serial : String}
    {others : List String} (told : components text ',' = model :: serial :: others)
    (location : CLLocation) (edits : List FormEdit) (peripheral : CBPeripheral) {device : Device}
    (info
      : AddDeviceViewController.getDeviceInfo
          ⟨model, serial, peripheral, kaddInitCharacteristic,
            some (edits.foldl DeviceForm.edit (.setupForm location))⟩
        = .ok device)
    (possible : ValidCoordinate device.gfCenter.coordinate) (documentID : DocumentID)
    (offered : List CBService) (characteristics : List CBCharacteristic)
    : ∃ effects shown document, ∃ row : ℕ,
        run (handle services uid) screen
            (connecting peripheral offered characteristics text location
              ++ edits.map .edit
              ++ sending documentID
              ++ [.loaded])
          = (effects, .ok shown)
        ∧ .writeValue peripheral kaddInitCharacteristic PeripheralViewController.ack ∈ effects
        ∧ AddDeviceViewController.deviceDocument uid documentID device = .ok document
        ∧ (documentID.1, document) ∈ shown.client.store .devices
        ∧ shown.client.store.Lists uid documentID
        ∧ Loadable uid current shown.client.store
        ∧ ((shown.client.store .users).find? uid).isSome
        ∧ shown.presented = .nothing
        ∧ shown.controller.devices[row]?
          = some { device.stored uid documentID with rides := rides } := by
  obtain ⟨document, written⟩ :=
    (@AddDeviceViewController.exists_deviceDocument_iff uid documentID device).mpr possible
  obtain ⟨after, added, loadableAfter, accountAfter, stored, listed⟩ :=
    loadable.add_device signedIn account written
  obtain ⟨devices, returned, -⟩ := loadableAfter.getDevices_eq_ok
  have inList : device.stored uid documentID ∈ devices := by
    refine (mem_mapM_iff returned).mpr ⟨(documentID.1, document), ?_, ?_⟩
    · exact Table.mem_select.mpr ⟨stored, AddDeviceViewController.matches_uid written⟩
    · exact AddDeviceViewController.ofData_deviceDocument written
  obtain ⟨row, there⟩ := List.mem_iff_getElem?.mp inList
  obtain ⟨requests, connected⟩
      : ∃ requests,
          run (handle services uid) screen
              (connecting peripheral offered characteristics text location)
            = (requests, .ok (screen.withForm peripheral model serial (.setupForm location))) :=
    ⟨_, Prod.ext rfl (run_connecting top peripheral offered characteristics told location)⟩
  have sent :=
    @run_sending services uid screen quiet peripheral model serial _ device
      (AddDeviceViewController.validateForm_iff_getDeviceInfo.mpr ⟨device, info⟩) info documentID
      document written after added
  obtain ⟨shown, answered, devicesShown, topShown, clientShown⟩ :=
    @handle_loaded services uid
      { screen.withForm peripheral model serial _ with
        presented := .nothing
        client := .start after
        queries := screen.queries + 1 }
      _ (DataManager.loadDevices_of_getDevices sampled returned) (by simp)
  have sameStore : shown.client.store = after := by rw [clientShown]; rfl
  rw [← sameStore] at stored listed loadableAfter accountAfter
  have completed
      : run (handle services uid) screen
            (connecting peripheral offered characteristics text location
              ++ edits.map .edit
              ++ sending documentID
              ++ [.loaded])
          = (requests ++ [
              .writeValue peripheral kaddInitCharacteristic PeripheralViewController.ack,
              .answered (.setDevice documentID document) true,
              .answered (.addToUserDevice documentID) true], .ok shown) := by
    rw [List.append_assoc, List.append_assoc, run_append_ok connected,
      run_append_ok (run_edits peripheral model serial _ edits), run_append_ok sent, run_singleton,
      answered]
    rfl
  refine ⟨_, shown, document, row, completed, by simp, written, stored, listed, loadableAfter,
    accountAfter, topShown, ?_⟩
  rw [devicesShown, List.getElem?_map, there]
  rfl

end DevicesScreen

-----------------------------------------------------------------------------------------
-- A first device
-----------------------------------------------------------------------------------------

/-- A bundle with a file of one row, and the library on its texts. -/
def oneRow : DevicesServices where
  decoding := {
    decode bytes := (String.fromUTF8? ⟨bytes.toArray⟩).getD ""
    decode_utf8 text := by simp [String.fromUTF8?, String.fromUTF8, text.isValidUTF8] }
  earth := {
    distance location other :=
      111320 * (|location.latitude - other.latitude| + |location.longitude - other.longitude|)
    nonneg location other := by positivity }
  foundation := {
    double text := if text = "0.0" then some 0 else if text = "1.0" then some 1 else none
    date text :=
      if text = "2020-03-09 19:25:46.7574" then some 605474746.757
      else if text = "2019-04-20 19:25:46.7574" then some 577481146.757
      else if text = "2020-02-22 19:25:46.7574" then some 604092346.757
      else if text = "2016-06-22 19:25:46.7574" then some 488316346.757
      else none }
  bundle := {
    path _ _ := some "gps_2020_03_09.csv"
    contents _ := some "2020-03-09 19:25:46.757433,0.0,1.0,1.0,0.0,7\n" }
  now := 605491200

/-- The row of the file. -/
def onlyRow : GPSRow oneRow.foundation where
  text := "2020-03-09 19:25:46.757433,0.0,1.0,1.0,0.0,7"
  timestamp := "2020-03-09 19:25:46.757433"
  latitude := "0.0"
  longitude := "1.0"
  speed := "1.0"
  altitude := "0.0"
  others := ["7"]
  sample := ⟨605474746.757, ⟨0, 1⟩, 1, 0⟩
  tokens := by decide
  oneLine := by decide
  parsedTimestamp := rfl
  parsedLatitude := rfl
  parsedLongitude := rfl
  parsedSpeed := rfl
  parsedAltitude := rfl

theorem exists_loadGPSData_oneRow
    : ∃ ride,
        loadGPSData oneRow.earth oneRow.foundation oneRow.bundle oneRow.now "gps_2020_03_09" "csv"
          = .ok ride
        ∧ ride.locations ≠ [] := by
  have read
      : oneRow.bundle.contents "gps_2020_03_09.csv" = some (fileContents [onlyRow]) := by
    decide
  have located : oneRow.bundle.path "gps_2020_03_09" "csv" = some "gps_2020_03_09.csv" := rfl
  refine ⟨_, loadGPSData_eq oneRow.earth oneRow.now located read (by simp), ?_⟩
  exact List.cons_ne_nil _ _

theorem exists_loadRides_oneRow : ∃ rides, DataManager.loadRides oneRow = .ok rides := by
  obtain ⟨ride, loaded, -⟩ := exists_loadGPSData_oneRow
  apply DataManager.exists_loadRides loaded
  intro i dateStr sampled
  match i with
  | 1 | 2 | 3 =>
      obtain rfl := Option.some.inj sampled
      exact ⟨_, rfl⟩
  | 0 | _ + 4 => cases sampled

def barnPeripheral : CBPeripheral := ⟨"7A6C0E5C-2F9D-4D0B-8A55-0C3B7F1E9D42"⟩

def barn : CLLocation := ⟨⟨33, -117⟩, 0, 0, 0, 0, 0, 605491200⟩

def barnEdits : List FormEdit := [
  .nameChanged "Barn",
  .nameLeft,
  .vehicleChanged "Rancher",
  .toggled true,
  .radiusChanged (some 500)]

def barnID : DocumentID := ⟨"d30", by decide⟩

/-- The peripheral of the barn is connected, and its form is filled in and sent. -/
def pairingBarn : List DevicesEvent :=
  connecting barnPeripheral [⟨"AF0F"⟩] [⟨kaddInitCharacteristic, true, none⟩] "KADD-1,0042" barn
    ++ barnEdits.map .edit
    ++ sending barnID
    ++ [.loaded]

theorem validCoordinate_barn : ValidCoordinate barn.coordinate := by
  norm_num [ValidCoordinate, barn]

theorem loadable_newAccountStore (uid email : String)
    : Loadable uid "" (newAccountStore uid email) :=
  (newAccount_empty uid).loadable.replace_user (readsUser_newUserDocument email)

theorem account_newAccountStore (uid email : String)
    : ((newAccountStore uid email .users).find? uid).isSome := by
  rw [newAccountStore, Store.replace_self, Table.find?_insert, if_pos rfl]
  rfl

end AgriGuardian.Accounts
