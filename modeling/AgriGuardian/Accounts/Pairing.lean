import AgriGuardian.Accounts.DevicesSteps
import AgriGuardian.Accounts.PairedDevice

/-! Where the devices of the screen come from.
Every device that the screen shows was stored when it was opened, or has been saved in it: its
numbers are those of a value that opened a form, and the rest is what was edited in that form
before it was sent.
-/

namespace AgriGuardian.Accounts

open Swift
open Basis
open Rides
open BLE
open DevicesCollectionViewController

-----------------------------------------------------------------------------------------
-- What the events say about a device
-----------------------------------------------------------------------------------------

/-- The peripheral discovered last. -/
def lastFound (events : List DevicesEvent) : Option CBPeripheral := events.foldl foundAfter none

/-- The form is that of an event, edited by what came after it. -/
def IsOpen (services : DevicesServices) (events : List DevicesEvent)
    (form : AddDeviceViewController)
    : Prop :=
  ∃ before opening session opened,
    events = before ++ opening :: session
    ∧ Opens services (lastFound before) opening opened
    ∧ form = opened.editedBy session

/-- The device is that of a valid form, which was sent under this id, and the peripheral the
one found before the form was opened.
-/
def Saves (services : DevicesServices) (events : List DevicesEvent) (documentID : String)
    (device : Device) (peripheral : CBPeripheral)
    : Prop :=
  ∃ before drawn after form,
    events = before ++ .didTapDone drawn :: after
    ∧ drawn.1 = documentID
    ∧ IsOpen services before form
    ∧ form.kaddPeripheral = some peripheral
    ∧ form.validateForm = .ok true
    ∧ form.getDeviceInfo = .ok device

/-- The device was stored before the events, or is saved by them. Its rides are the sample. -/
inductive Known (services : DevicesServices) (uid : String) (store : Store)
    (events : List DevicesEvent) : Device → Prop
  | stored (documentID : String) (document : Document) (device : Device) (rides : List Ride)
      (member : (documentID, document) ∈ store .devices)
      (owned : document.matchesField "uid" uid = true)
      (read : Device.ofData document = .ok device)
      : Known services uid store events { device with rides := rides }
  | saved (documentID : String) (device : Device) (peripheral : CBPeripheral)
      (rides : List Ride)
      (saves : Saves services events documentID device peripheral)
      : Known services uid store events
          { device.stored uid documentID with rides := rides }

variable {services : DevicesServices} {uid : String} {store : Store}
  {events : List DevicesEvent} {event : DevicesEvent}

theorem lastFound_append_singleton (events : List DevicesEvent) (event : DevicesEvent)
    : lastFound (events ++ [event]) = foundAfter (lastFound events) event := by
  simp [lastFound]

namespace IsOpen

theorem of_opens {opened : AddDeviceViewController}
    (opens : Opens services (lastFound events) event opened)
    : IsOpen services (events ++ [event]) opened :=
  ⟨events, event, [], opened, rfl, opens, by simp [AddDeviceViewController.editedBy]⟩

theorem edited {form : AddDeviceViewController} (isOpen : IsOpen services events form)
    (event : DevicesEvent)
    : IsOpen services (events ++ [event]) (form.editedBy [event]) := by
  obtain ⟨before, opening, session, opened, rfl, opens, rfl⟩ := isOpen
  refine ⟨before, opening, session ++ [event], opened, by simp, opens, ?_⟩
  exact (opened.editedBy_append session [event]).symm

theorem kaddCharacteristic {form : AddDeviceViewController}
    (isOpen : IsOpen services events form)
    : form.kaddCharacteristic = some kaddInitCharacteristic := by
  obtain ⟨before, opening, session, opened, rfl, opens, rfl⟩ := isOpen
  obtain ⟨sender, characteristic, location, -, -, -, -, initial, -⟩ := opens
  exact initial

end IsOpen

theorem Saves.later {documentID : String} {device : Device} {peripheral : CBPeripheral}
    (saves : Saves services events documentID device peripheral) (event : DevicesEvent)
    : Saves services (events ++ [event]) documentID device peripheral := by
  obtain ⟨before, drawn, after, form, rfl, rest⟩ := saves
  exact ⟨before, drawn, after ++ [event], form, by simp, rest⟩

theorem Saves.nonempty {documentID : String} {device : Device} {peripheral : CBPeripheral}
    (saves : Saves services events documentID device peripheral)
    : documentID ≠ "" := by
  obtain ⟨before, drawn, after, form, -, rfl, -⟩ := saves
  exact drawn.2

theorem Known.later {device : Device} (known : Known services uid store events device)
    (event : DevicesEvent)
    : Known services uid store (events ++ [event]) device := by
  cases known with
  | stored documentID document device rides member owned read =>
      exact .stored documentID document device rides member owned read
  | saved documentID device peripheral rides saves =>
      exact .saved documentID device peripheral rides (saves.later event)

/-- A saved device has a name, a vehicle, and the numbers of a value of the initial
characteristic.
-/
theorem Saves.device {documentID : String} {device : Device} {peripheral : CBPeripheral}
    (saves : Saves services events documentID device peripheral)
    : device.name ≠ ""
      ∧ device.atvModel ≠ ""
      ∧ ∃ sender characteristic location,
          .callback (.didUpdateValueFor sender characteristic) location ∈ events
          ∧ characteristic.uuid = kaddInitCharacteristic
          ∧ readNumbers services.decoding characteristic.value
            = .ok (device.modelNumber, device.serialNumber) := by
  obtain ⟨before, drawn, after, form, rfl, -, isOpen, -, -, info⟩ := saves
  obtain ⟨earlier, opening, session, opened, rfl, opens, rfl⟩ := isOpen
  obtain ⟨sender, characteristic, location, rfl, initial, read, -, -, -⟩ := opens
  obtain ⟨named, modelled⟩ := AddDeviceViewController.getDeviceInfo_nonempty info
  obtain ⟨-, -, -, -, -, model, serial⟩ := AddDeviceViewController.getDeviceInfo_eq_ok info
  refine ⟨named, modelled, sender, characteristic, location, by simp, initial, ?_⟩
  rw [read, model, serial]
  rfl

-----------------------------------------------------------------------------------------
-- Runs
-----------------------------------------------------------------------------------------

namespace DevicesScreen

variable {screen next : DevicesScreen} {effects : List DevicesEffect}

/-- What is on the screen, requested and stored comes from the events or was stored before. -/
structure Traces (services : DevicesServices) (uid : String) (store : Store)
    (events : List DevicesEvent) (effects : List DevicesEffect) (screen : DevicesScreen)
    : Prop where
  found : screen.controller.kaddInitPeripheral = lastFound events
  form : ∀ form, screen.presented.form? = some form → IsOpen services events form
  requested
    : ∀ documentID document,
        .setDevice documentID document ∈ screen.client.outstanding ++ screen.client.completions
        → ∃ device peripheral,
            Saves services events documentID device peripheral
            ∧ AddDeviceViewController.deviceDocument uid documentID device = .ok document
  stored
    : ∀ documentID document,
        (documentID, document) ∈ screen.client.store .devices
        → (documentID, document) ∈ store .devices
          ∨ ∃ device peripheral,
              Saves services events documentID device peripheral
              ∧ AddDeviceViewController.deviceDocument uid documentID device = .ok document
  shown : ∀ device ∈ screen.controller.devices, Known services uid store events device
  written
    : ∀ peripheral characteristic value,
        .writeValue peripheral characteristic value ∈ effects
        → value = PeripheralViewController.ack
          ∧ characteristic = kaddInitCharacteristic
          ∧ ∃ documentID device, Saves services events documentID device peripheral
  chosen
    : ∀ devId, .setCurrDevice devId ∈ effects
        → ∃ device, Known services uid store events device ∧ device.devId = devId

theorem traces_start (store : Store) : Traces services uid store [] [] (start store) where
  found := rfl
  form := by simp [start, Presented.form?]
  requested := by simp [start, DeviceClient.start]
  stored documentID document member := Or.inl member
  shown := by simp [start]
  written := by simp
  chosen := by simp

/-- What a query returns was stored before the events or is saved by them. -/
theorem Traces.known_of_loadDevices (traces : Traces services uid store events effects screen)
    {devices : List Device}
    (listed : DataManager.loadDevices services screen.client.store uid = .ok devices)
    : ∀ device ∈ devices, Known services uid store events device := by
  intro device member
  obtain ⟨⟨documentID, document⟩, selected, read⟩ := (mem_mapM_iff listed).mp member
  obtain ⟨dev, decoded, rest⟩ := bind_eq_ok.mp read
  obtain ⟨rides, -, built⟩ := bind_eq_ok.mp rest
  obtain rfl := Except.ok.inj built
  obtain ⟨inStore, owned⟩ := Table.mem_select.mp selected
  rcases traces.stored documentID document inStore with before | ⟨saved, peripheral, saves, written⟩
  · exact .stored documentID document dev rides before owned decoded
  · rw [AddDeviceViewController.ofData_deviceDocument written] at decoded
    obtain rfl := Except.ok.inj decoded
    exact .saved documentID saved peripheral rides saves

/-- A request that takes effect adds no document but the one it sets. -/
theorem mem_devices_of_perform {current after : Store} {request : DeviceRequest}
    (performed : current.perform (request.write uid) = some after) {documentID : String}
    {document : Document} (member : (documentID, document) ∈ after .devices)
    : (documentID, document) ∈ current .devices ∨ request = .setDevice documentID document := by
  cases request with
  | setDevice drawn content =>
      obtain rfl := Option.some.inj performed
      rw [Store.replace_self] at member
      rcases Table.mem_insert.mp member with here | before
      · cases here
        exact Or.inr rfl
      · exact Or.inl before.1
  | removeFromDevice devId =>
      obtain rfl := Option.some.inj performed
      rw [Store.replace_self] at member
      exact Or.inl (Table.mem_erase.mp member).1
  | addToUserDevice id | removeFromUserDevice devId =>
      rw [Store.perform_frame performed (by nofun)] at member
      exact Or.inl member

/-- A document of the next store was there before, or a request sets it. -/
theorem stored_of_handle {client after : DeviceClient} {request : DeviceEvent}
    {answers : List (DeviceRequest × Bool)}
    (handled : client.handle uid request = (answers, .ok after)) {documentID : String}
    {document : Document} (member : (documentID, document) ∈ after.store .devices)
    : (documentID, document) ∈ client.store .devices
      ∨ .setDevice documentID document ∈ client.outstanding := by
  have effect := DeviceClient.handle_eq_ok handled
  cases request with
  | addToDevice adder drawn device =>
      obtain ⟨-, content, -, rfl⟩ := effect
      exact Or.inl member
  | removeFromDevice devId =>
      obtain ⟨-, rfl⟩ := effect
      exact Or.inl member
  | complete =>
      obtain ⟨-, sent, rest, waiting, rfl⟩ := effect
      exact Or.inl member
  | respond served =>
      obtain ⟨sent, rest, waiting, ⟨-, rfl⟩ | ⟨store, performed, -, rfl⟩⟩ := effect
      · exact Or.inl member
      · rcases mem_devices_of_perform performed member with before | rfl
        · exact Or.inl before
        · exact Or.inr (by simp [waiting])

/-- No request of a device comes from a completion handler. -/
theorem setDevice_of_completions {client after : DeviceClient} {request : DeviceEvent}
    {answers : List (DeviceRequest × Bool)}
    (handled : client.handle uid request = (answers, .ok after)) {documentID : String}
    {document : Document} (member : .setDevice documentID document ∈ after.completions)
    : .setDevice documentID document ∈ client.completions := by
  have effect := DeviceClient.handle_eq_ok handled
  cases request with
  | addToDevice adder drawn device =>
      obtain ⟨-, content, -, rfl⟩ := effect
      exact member
  | removeFromDevice devId =>
      obtain ⟨-, rfl⟩ := effect
      exact member
  | complete =>
      obtain ⟨-, sent, rest, waiting, rfl⟩ := effect
      rw [waiting]
      exact List.mem_cons_of_mem _ member
  | respond served =>
      obtain ⟨sent, rest, waiting, ⟨-, rfl⟩ | ⟨store, performed, -, rfl⟩⟩ := effect
      · exact member
      · rcases List.mem_append.mp member with before | followUp
        · exact before
        · exact absurd followUp sent.setDevice_not_mem_followUp

/-- Every event keeps what is on the screen traceable. -/
theorem Traces.step (traces : Traces services uid store events effects screen)
    {emitted : List DevicesEffect}
    (handled : screen.handle services uid event = (emitted, .ok next))
    : Traces services uid store (events ++ [event]) (effects ++ emitted) next := by
  obtain ⟨found, form, -, client, saved, devices, written, chosen⟩ := stepFacts handled
  have saves {drawn : DocumentID} {documentID : String} {sent : AddDeviceViewController}
      {peripheral : CBPeripheral} {device : Device} (tapped : event = .didTapDone drawn)
      (under : drawn.1 = documentID) (shown : screen.presented.form? = some sent)
      (receiver : sent.kaddPeripheral = some peripheral) (valid : sent.validateForm = .ok true)
      (info : sent.getDeviceInfo = .ok device)
      : Saves services (events ++ [event]) documentID device peripheral :=
    ⟨events, drawn, [], sent, by rw [tapped], under, traces.form sent shown, receiver, valid, info⟩
  have before {documentID : String} {document : Document}
      (requested
        : .setDevice documentID document
          ∈ screen.client.outstanding ++ screen.client.completions)
      : ∃ device peripheral,
          Saves services (events ++ [event]) documentID device peripheral
          ∧ AddDeviceViewController.deviceDocument uid documentID device = .ok document := by
    obtain ⟨device, peripheral, earlier, same⟩ := traces.requested documentID document requested
    exact ⟨device, peripheral, earlier.later event, same⟩
  refine ⟨?_, ?_, ?_, ?_, ?_, ?_, ?_⟩
  · rw [found, traces.found, lastFound_append_singleton]
  · intro current shown
    rcases form current shown with ⟨old, there, rfl⟩ | opens
    · exact (traces.form old there).edited event
    · exact .of_opens (traces.found ▸ opens)
  · intro documentID document member
    rcases List.mem_append.mp member with outstanding | coming
    · rcases saved documentID document outstanding with
        old | ⟨drawn, sent, peripheral, device, tapped, under, shown, receiver, valid, info,
          same⟩
      · exact before old
      · exact ⟨device, peripheral, saves tapped under shown receiver valid info, same⟩
    · apply before
      rcases client with same | ⟨request, answers, worked⟩
      · rw [same] at coming
        exact List.mem_append_right _ coming
      · exact List.mem_append_right _ (setDevice_of_completions worked coming)
  · intro documentID document member
    have earlier (there : (documentID, document) ∈ screen.client.store .devices)
        : (documentID, document) ∈ store .devices
          ∨ ∃ device peripheral,
              Saves services (events ++ [event]) documentID device peripheral
              ∧ AddDeviceViewController.deviceDocument uid documentID device = .ok document := by
      rcases traces.stored documentID document there with
        start | ⟨device, peripheral, saved, same⟩
      · exact Or.inl start
      · exact Or.inr ⟨device, peripheral, saved.later event, same⟩
    rcases client with same | ⟨request, answers, worked⟩
    · rw [same] at member
      exact earlier member
    · rcases stored_of_handle worked member with there | set
      · exact earlier there
      · exact Or.inr (before (List.mem_append_left _ set))
  · intro device member
    rcases devices with same | listed
    · rw [same] at member
      exact (traces.shown device member).later event
    · exact (traces.known_of_loadDevices listed device member).later event
  · intro peripheral characteristic value member
    rcases List.mem_append.mp member with past | now
    · obtain ⟨ack, initial, documentID, device, saved⟩ :=
        traces.written peripheral characteristic value past
      exact ⟨ack, initial, documentID, device, saved.later event⟩
    · obtain ⟨ack, drawn, sent, device, tapped, shown, receiver, target, valid, info⟩ :=
        written peripheral characteristic value now
      refine ⟨ack, ?_, drawn.1, device, saves tapped rfl shown receiver valid info⟩
      exact Option.some.inj (target.symm.trans (traces.form sent shown).kaddCharacteristic)
  · intro devId member
    rcases List.mem_append.mp member with past | now
    · obtain ⟨device, known, same⟩ := traces.chosen devId past
      exact ⟨device, known.later event, same⟩
    · obtain ⟨device, listed, same⟩ := chosen devId now
      exact ⟨device, (traces.shown device listed).later event, same⟩

/-- In every state that a run of the devices screen reaches, every device shown was stored
before the run, or is the one of a valid form that was opened by a value of the initial
characteristic and sent. Acknowledgements go to the peripherals of such forms, each for a device
with a name, a vehicle and the numbers of such a value, and the devices set as current ones are
devices of the same origin.
-/
theorem shown_devices_saved {final : DevicesScreen}
    (completed : run (handle services uid) (start store) events = (effects, .ok final))
    : (∀ device ∈ final.controller.devices, Known services uid store events device)
      ∧ (∀ peripheral characteristic value,
          .writeValue peripheral characteristic value ∈ effects
          → value = PeripheralViewController.ack
            ∧ characteristic = kaddInitCharacteristic
            ∧ ∃ documentID device,
                Saves services events documentID device peripheral
                ∧ device.name ≠ ""
                ∧ device.atvModel ≠ ""
                ∧ ∃ sender told location,
                    .callback (.didUpdateValueFor sender told) location ∈ events
                    ∧ told.uuid = kaddInitCharacteristic
                    ∧ readNumbers services.decoding told.value
                      = .ok (device.modelNumber, device.serialNumber))
      ∧ ∀ devId, .setCurrDevice devId ∈ effects
          → ∃ device, Known services uid store events device ∧ device.devId = devId := by
  have traces : Traces services uid store events effects final :=
    run_trace_invariant (fun before emitted current =>
        Traces services uid store before emitted current)
      (fun _ _ _ _ _ _ traces handled => traces.step handled) (traces_start store) completed
  refine ⟨traces.shown, ?_, traces.chosen⟩
  intro peripheral characteristic value sent
  obtain ⟨ack, initial, documentID, device, saves⟩ :=
    traces.written peripheral characteristic value sent
  exact ⟨ack, initial, documentID, device, saves, saves.device⟩

/-- The barn is shown, and its peripheral is acknowledged. -/
theorem shown_devices_saved_barn
    : ∃ effects final device,
        run (handle oneRow "u1") (start (newAccountStore "u1" "a@b.c")) pairingBarn
          = (effects, .ok final)
        ∧ device ∈ final.controller.devices
        ∧ Known oneRow "u1" (newAccountStore "u1" "a@b.c") pairingBarn device
        ∧ .writeValue barnPeripheral kaddInitCharacteristic PeripheralViewController.ack ∈ effects
        ∧ ∃ documentID saved, Saves oneRow pairingBarn documentID saved barnPeripheral := by
  obtain ⟨rides, sampled⟩ := exists_loadRides_oneRow
  have told : components "KADD-1,0042" ',' = ["KADD-1", "0042"] := by decide
  obtain ⟨effects, final, document, row, completed, acknowledged, -, -, -, -, -, -, there⟩ :=
    @run_pairing oneRow "u1" (start (newAccountStore "u1" "a@b.c")) (by decide) rfl ⟨rfl, rfl⟩ ""
      (loadable_newAccountStore "u1" "a@b.c") (account_newAccountStore "u1" "a@b.c") rides sampled
      "KADD-1,0042" "KADD-1" "0042" [] told barn barnEdits barnPeripheral _ rfl
      validCoordinate_barn barnID [⟨"AF0F"⟩] [⟨kaddInitCharacteristic, true, none⟩]
  obtain ⟨known, written, -⟩ := shown_devices_saved completed
  have listed := List.mem_of_getElem? there
  obtain ⟨-, -, documentID, saved, saves, -⟩ := written _ _ _ acknowledged
  exact ⟨effects, final, _, completed, listed, known _ listed, acknowledged, documentID, saved,
    saves⟩

end DevicesScreen

end AgriGuardian.Accounts
