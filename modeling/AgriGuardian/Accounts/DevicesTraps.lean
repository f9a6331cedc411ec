import AgriGuardian.Accounts.Pairing

/-! When the devices screen traps.
From a store that can be loaded, whatever the order of the events, it traps only at what it is
told from outside: at callbacks without what they should bring, at a value without a comma, and
at a form that was opened without a location or a peripheral or has an impossible centre.
-/

namespace AgriGuardian.Accounts

open Swift
open Basis
open Rides
open BLE
open DevicesCollectionViewController

-----------------------------------------------------------------------------------------
-- The events that trap
-----------------------------------------------------------------------------------------

/-- The event is one that the screen does not survive, with the peripheral found last and what
is on top.
-/
def Crashes (services : DevicesServices) (found : Option CBPeripheral) (top : Presented)
    : DevicesEvent → Prop
  | .callback (.didConnect _) _ => found = none
  | .callback (.didDiscoverServices _ offered) _ => offered = none
  | .callback (.didDiscoverCharacteristicsFor _ characteristics) _ => characteristics = none
  | .callback (.didUpdateValueFor _ characteristic) _ =>
      characteristic.uuid = kaddInitCharacteristic
      ∧ ∀ data, characteristic.value = some data
          → ',' ∉ (services.decoding.decode data.bytes).toList
  | .didTapDone _ =>
      ∃ form,
        top = .addDevice form
        ∧ (form.form = none
          ∨ form.validateForm = .ok true
            ∧ (form.kaddPeripheral = none
              ∨ ∃ rows, form.form = some rows ∧ ¬ ValidCoordinate rows.geoCenter.coordinate))
  | .didTapCancel => ∃ form, top = .addDevice form ∧ form.form = none
  | _ => False

variable {services : DevicesServices} {uid : String} {store : Store}
  {events : List DevicesEvent} {event : DevicesEvent}

/-- A text has a second part if and only if the separator is in it. -/
theorem exists_components_iff {text : String} {separator : Char}
    : (∃ first second others, components text separator = first :: second :: others)
      ↔ separator ∈ text.toList := by
  constructor
  · rintro ⟨first, second, others, parts⟩
    by_contra absent
    rw [components, List.splitOn_eq_singleton absent] at parts
    cases parts
  · intro member
    obtain ⟨before, after, split, absent⟩ := List.eq_append_cons_of_mem member
    rw [components, split, List.splitOn_append_cons_self_of_not_mem absent, List.map_cons]
    obtain ⟨part, rest, parts⟩ := List.exists_cons_of_ne_nil (List.splitOn_ne_nil separator after)
    rw [parts]
    exact ⟨_, _, _, rfl⟩

/-- The numbers are read if and only if there is a value with a comma. -/
theorem exists_readNumbers_iff {decoding : UTF8Decoding} {value : Option Data}
    : (∃ numbers, readNumbers decoding value = .ok numbers)
      ↔ ∃ data, value = some data ∧ ',' ∈ (decoding.decode data.bytes).toList := by
  cases value with
  | none => simp [readNumbers]
  | some data =>
      simp only [readNumbers, Option.some.injEq, exists_eq_left', ← exists_components_iff]
      constructor
      · rintro ⟨numbers, read⟩
        obtain ⟨first, there, rest⟩ := bind_eq_ok.mp read
        obtain ⟨second, next, -⟩ := bind_eq_ok.mp rest
        rcases parts : components (decoding.decode data.bytes) ',' with
          _ | ⟨first', _ | ⟨second', others⟩⟩
        · simp [parts, element] at there
        · simp [parts, element] at next
        · exact ⟨first', second', others, rfl⟩
      · rintro ⟨first, second, others, parts⟩
        rw [parts]
        exact ⟨(first, second), rfl⟩

-----------------------------------------------------------------------------------------
-- What is stored
-----------------------------------------------------------------------------------------

/-- A request that takes effect keeps the store loadable, if what it sets is the document of a
device. Witness: the requests in turn.
-/
theorem Loadable.perform_request (signedIn : uid ≠ "") {current : String}
    (loadable : Loadable uid current store) (account : ((store .users).find? uid).isSome)
    {request : DeviceRequest}
    (sets
      : ∀ documentID document,
          request = .setDevice documentID document
          → documentID ≠ ""
            ∧ ∃ device,
                AddDeviceViewController.deviceDocument uid documentID device = .ok document)
    {after : Store} (served : store.perform (request.write uid) = some after)
    : Loadable uid current after ∧ ((after .users).find? uid).isSome := by
  cases request with
  | setDevice documentID document =>
      obtain ⟨nonempty, device, written⟩ := sets documentID document rfl
      have own
          : Adder.addDeviceViewController.deviceDocument uid documentID device = .ok document :=
        written
      obtain rfl := Option.some.inj served
      refine ⟨loadable.insert_device signedIn account nonempty own, ?_⟩
      rwa [Store.replace_of_ne store (by decide)]
  | removeFromDevice devId =>
      obtain rfl := Option.some.inj served
      refine ⟨loadable.replace_devices _ ?_ fun _ _ => account, ?_⟩
      · intro documentID document member mine
        exact loadable.devices documentID document (Table.mem_erase.mp member).1 mine
      · rwa [Store.replace_of_ne store (by decide)]
  | addToUserDevice id | removeFromUserDevice devId =>
      obtain ⟨user, found, rfl⟩ := Store.perform_updateData served
      refine ⟨loadable.replace_user ((loadable.user user found).update_devices _), ?_⟩
      rw [Store.replace_self, Table.find?_insert, if_pos rfl]
      rfl

/-- So does every step of the client. -/
theorem Loadable.handle_client (signedIn : uid ≠ "") {current : String}
    {client after : DeviceClient} (loadable : Loadable uid current client.store)
    (account : ((client.store .users).find? uid).isSome) {request : DeviceEvent}
    {answers : List (DeviceRequest × Bool)}
    (handled : client.handle uid request = (answers, .ok after))
    (sets
      : ∀ documentID document,
          .setDevice documentID document ∈ client.outstanding
          → documentID ≠ ""
            ∧ ∃ device,
                AddDeviceViewController.deviceDocument uid documentID device = .ok document)
    : Loadable uid current after.store ∧ ((after.store .users).find? uid).isSome := by
  have effect := DeviceClient.handle_eq_ok handled
  cases request with
  | addToDevice adder drawn device =>
      obtain ⟨-, content, -, rfl⟩ := effect
      exact ⟨loadable, account⟩
  | removeFromDevice devId =>
      obtain ⟨-, rfl⟩ := effect
      exact ⟨loadable, account⟩
  | complete =>
      obtain ⟨-, sent, rest, waiting, rfl⟩ := effect
      exact ⟨loadable, account⟩
  | respond served =>
      obtain ⟨sent, rest, waiting, ⟨-, rfl⟩ | ⟨store, performed, -, rfl⟩⟩ := effect
      · exact ⟨loadable, account⟩
      · apply loadable.perform_request signedIn account _ performed
        rintro documentID document rfl
        exact sets documentID document (by simp [waiting])

-----------------------------------------------------------------------------------------
-- The traps of each event
-----------------------------------------------------------------------------------------

namespace DevicesScreen

variable {screen next : DevicesScreen} {effects : List DevicesEffect}

/-- The step ends in a trap. -/
def Traps (step : Step) : Prop := ∃ trap, step.2 = .error (.trapped trap)

@[simp]
theorem traps_ok (effects : List DevicesEffect) (screen : DevicesScreen)
    : ¬ Traps (effects, .ok screen) := by
  simp [Traps]

@[simp]
theorem traps_trapped (effects : List DevicesEffect) (trap : Trap)
    : Traps (effects, .error (.trapped trap)) :=
  ⟨trap, rfl⟩

@[simp]
theorem traps_notPossible (effects : List DevicesEffect)
    : ¬ Traps (effects, .error .notPossible) := by
  simp [Traps]

theorem traps_receive_iff {callback : DelegateCallback} {location : Option CLLocation}
    : Traps (screen.receive services location callback)
      ↔ Crashes services screen.controller.kaddInitPeripheral screen.presented
          (.callback callback location) := by
  cases callback with
  | centralManagerDidUpdateState state => simp [receive, Crashes]
  | didDiscover peripheral => simp [receive, Crashes]
  | didConnect peripheral =>
      simp only [receive, Crashes]
      cases screen.controller.kaddInitPeripheral <;> simp
  | didDiscoverServices peripheral offered => cases offered <;> simp [receive, Crashes]
  | didDiscoverCharacteristicsFor peripheral characteristics =>
      cases characteristics <;> simp [receive, Crashes]
  | didUpdateValueFor peripheral characteristic =>
      simp only [receive, Crashes]
      by_cases initial : characteristic.uuid = kaddInitCharacteristic
      · have returns := @exists_readNumbers_iff services.decoding characteristic.value
        simp only [initial, true_and]
        cases read : readNumbers services.decoding characteristic.value with
        | error trap =>
            rw [read] at returns
            have never := not_exists.mp (returns.not.mp (by simp))
            simpa using fun data present comma => never data ⟨present, comma⟩
        | ok numbers =>
            obtain ⟨data, present, comma⟩ := returns.mp ⟨numbers, read⟩
            simpa using ⟨data, present, comma⟩
      · simp [initial]

/-- An alert is only answered after a peripheral is found. -/
theorem not_traps_answerAlert
    (alert : screen.presented = .connectAlert → screen.controller.kaddInitPeripheral ≠ none)
    (confirmed : Bool)
    : ¬ Traps (screen.answerAlert confirmed) := by
  rw [answerAlert]
  split
  · rename_i top
    obtain ⟨peripheral, found⟩ := Option.ne_none_iff_exists'.mp (alert top)
    rw [found]
    cases confirmed <;> simp
  · simp
  · simp

theorem not_traps_edit (edit : FormEdit) : ¬ Traps (screen.edit edit) := by
  rw [DevicesScreen.edit]
  split
  · split <;> simp
  · simp

/-- A form with rows is told to be valid or not. -/
theorem exists_validateForm_iff {form : AddDeviceViewController}
    : (∃ valid, form.validateForm = .ok valid) ↔ form.form ≠ none := by
  rw [AddDeviceViewController.validateForm]
  cases form.form with
  | none => simp
  | some rows =>
      simp only [ne_eq, reduceCtorEq, not_false_eq_true, iff_true]
      split
      · exact ⟨false, rfl⟩
      · split
        · exact ⟨false, rfl⟩
        · exact ⟨true, rfl⟩

theorem traps_didTapCancel_iff {found : Option CBPeripheral}
    : Traps screen.didTapCancel ↔ Crashes services found screen.presented .didTapCancel := by
  simp only [didTapCancel, Crashes]
  cases screen.presented with
  | nothing | connectAlert | disconnectAlert | dashboard => simp
  | addDevice form =>
      have returns := @exists_validateForm_iff form
      simp only [Presented.addDevice.injEq, exists_eq_left']
      cases validated : form.validateForm with
      | error trap =>
          rw [validated] at returns
          simpa using returns
      | ok valid =>
          have shown := returns.mp ⟨valid, validated⟩
          cases valid <;> simpa using shown

/-- A valid form is sent if and only if its device can be written and it has a peripheral. -/
theorem traps_save_iff {form : AddDeviceViewController} (valid : form.validateForm = .ok true)
    (target : form.kaddCharacteristic ≠ none) (documentID : DocumentID)
    : Traps (screen.save uid documentID form)
      ↔ form.kaddPeripheral = none
        ∨ ∃ rows, form.form = some rows ∧ ¬ ValidCoordinate rows.geoCenter.coordinate := by
  obtain ⟨device, info⟩ := AddDeviceViewController.validateForm_iff_getDeviceInfo.mp valid
  obtain ⟨rows, shown, -, -, centre, -⟩ := AddDeviceViewController.getDeviceInfo_eq_ok info
  obtain ⟨characteristic, target⟩ := Option.ne_none_iff_exists'.mp target
  have writes := @AddDeviceViewController.exists_deviceDocument_iff uid documentID device
  simp only [save, info, DeviceClient.handle, Adder.deviceDocument, shown, Option.some.injEq,
    exists_eq_left', ← centre, target]
  cases written : AddDeviceViewController.deviceDocument uid documentID device with
  | error trap =>
      rw [written] at writes
      have impossible := writes.not.mp (by simp)
      simp [impossible]
  | ok document =>
      have possible := writes.mp ⟨document, written⟩
      cases form.kaddPeripheral <;> simp [possible]

theorem traps_didTapDone_iff
    (target
      : ∀ form, screen.presented.form? = some form → form.kaddCharacteristic ≠ none)
    {found : Option CBPeripheral} (documentID : DocumentID)
    : Traps (screen.didTapDone uid documentID)
      ↔ Crashes services found screen.presented (.didTapDone documentID) := by
  simp only [didTapDone, Crashes]
  cases top : screen.presented with
  | nothing | connectAlert | disconnectAlert | dashboard => simp
  | addDevice form =>
      have returns := @exists_validateForm_iff form
      simp only [Presented.addDevice.injEq, exists_eq_left']
      cases validated : form.validateForm with
      | error trap =>
          rw [validated] at returns
          simpa using returns
      | ok valid =>
          have shown := returns.mp ⟨valid, validated⟩
          cases valid with
          | false => simp [shown]
          | true =>
              have sent :=
                @traps_save_iff uid screen form validated (target form (by rw [top]; rfl))
                  documentID
              simpa [shown] using sent

/-- A request to the store never traps. -/
theorem not_traps_respond (served : Bool) : ¬ Traps (screen.respond uid served) := by
  rw [respond]
  split <;> simp

theorem not_traps_complete (closes : Bool) : ¬ Traps (screen.complete uid closes) := by
  rw [complete]
  split
  · simp
  · split
    · split <;> simp
    · simp

/-- The devices of a store that can be loaded are shown. -/
theorem not_traps_loaded {current : String}
    (loadable : Loadable uid current screen.client.store) {rides : List Ride}
    (sampled : DataManager.loadRides services = .ok rides)
    : ¬ Traps (screen.loaded services uid) := by
  obtain ⟨devices, returned, -⟩ := loadable.getDevices_eq_ok
  have listed := DataManager.loadDevices_of_getDevices sampled returned
  rw [loaded]
  split
  · simp
  · simp [DataManager.loadDevices_tempUser, listed]

theorem not_traps_cellForItemAt (row : ℕ) : ¬ Traps (screen.cellForItemAt row) := by
  rw [cellForItemAt]
  split
  · rename_i inRange
    obtain ⟨device, read⟩ := element_returns_iff.mpr inRange
    simp [read]
  · simp

theorem not_traps_didSelectItemAt (row : ℕ) : ¬ Traps (screen.didSelectItemAt row) := by
  rw [didSelectItemAt]
  split
  · split
    · rename_i inRange
      obtain ⟨device, read⟩ := element_returns_iff.mpr inRange
      simp [read]
    · simp
  · simp

-----------------------------------------------------------------------------------------
-- Runs
-----------------------------------------------------------------------------------------

/-- What holds of the screen in every run: what it shows can be traced, an alert to connect is
about a peripheral, and the devices that are stored can be loaded.
-/
structure Sound (services : DevicesServices) (uid current : String) (store : Store)
    (events : List DevicesEvent) (effects : List DevicesEffect) (screen : DevicesScreen)
    : Prop where
  traces : Traces services uid store events effects screen
  alert : screen.presented = .connectAlert → screen.controller.kaddInitPeripheral ≠ none
  loadable : Loadable uid current screen.client.store
  account : ((screen.client.store .users).find? uid).isSome

/-- Where the screen is sound, an event traps if and only if it is one that crashes. -/
theorem Sound.traps_iff {current : String}
    (sound : Sound services uid current store events effects screen) {rides : List Ride}
    (sampled : DataManager.loadRides services = .ok rides) (event : DevicesEvent)
    : Traps (handle services uid screen event)
      ↔ Crashes services (lastFound events) screen.presented event := by
  cases event with
  | callback callback location =>
      rw [← sound.traces.found]
      exact traps_receive_iff
  | answerAlert confirmed => exact iff_of_false (not_traps_answerAlert sound.alert confirmed) id
  | edit change => exact iff_of_false (not_traps_edit change) id
  | didTapDone documentID =>
      apply traps_didTapDone_iff
      intro form shown
      simp [(sound.traces.form form shown).kaddCharacteristic]
  | didTapCancel => exact traps_didTapCancel_iff
  | respond served => exact iff_of_false (not_traps_respond served) id
  | complete closes => exact iff_of_false (not_traps_complete closes) id
  | loaded => exact iff_of_false (not_traps_loaded sound.loadable sampled) id
  | cellForItemAt row => exact iff_of_false (not_traps_cellForItemAt row) id
  | didSelectItemAt row => exact iff_of_false (not_traps_didSelectItemAt row) id

theorem sound_start {current : String} (loadable : Loadable uid current store)
    (account : ((store .users).find? uid).isSome)
    : Sound services uid current store [] [] (start store) :=
  ⟨traces_start store, nofun, loadable, account⟩

/-- Every event keeps the screen sound. Witness: only a request that is served changes what is
stored, and what it sets is the device of a form.
-/
theorem Sound.step (signedIn : uid ≠ "") {current : String}
    (sound : Sound services uid current store events effects screen)
    {emitted : List DevicesEffect}
    (handled : screen.handle services uid event = (emitted, .ok next))
    : Sound services uid current store (events ++ [event]) (effects ++ emitted) next := by
  obtain ⟨found, -, alert, client, -⟩ := stepFacts handled
  have kept
      : Loadable uid current next.client.store
        ∧ ((next.client.store .users).find? uid).isSome := by
    rcases client with same | ⟨request, answers, worked⟩
    · rw [same]
      exact ⟨sound.loadable, sound.account⟩
    · apply sound.loadable.handle_client signedIn sound.account worked
      intro documentID document waiting
      obtain ⟨device, peripheral, saves, written⟩ :=
        sound.traces.requested documentID document (List.mem_append_left _ waiting)
      exact ⟨saves.nonempty, device, written⟩
  refine ⟨sound.traces.step handled, ?_, kept.1, kept.2⟩
  intro top
  rcases alert top with before | here
  · rw [found]
    have there := sound.alert before
    cases event with
    | callback callback location =>
        cases callback with
        | didDiscover peripheral => simp [foundAfter]
        | _ => exact there
    | _ => exact there
  · exact here

/-- A run from a store that can be loaded traps exactly when it gets to an event that crashes:
a connection before anything was found, services or characteristics that are missing, a value
of the initial characteristic without a comma, or a tap on a form that was opened without a
location, or that is sent without a peripheral or with an impossible centre.
-/
theorem traps_run_iff (signedIn : uid ≠ "") {current : String}
    (loadable : Loadable uid current store) (account : ((store .users).find? uid).isSome)
    {rides : List Ride} (sampled : DataManager.loadRides services = .ok rides)
    : Traps (run (handle services uid) (start store) events)
      ↔ ∃ before event after reached,
          events = before ++ event :: after
          ∧ (run (handle services uid) (start store) before).2 = .ok reached
          ∧ Crashes services (lastFound before) reached.presented event := by
  have crashes {before : List DevicesEvent} {event : DevicesEvent} {reached : DevicesScreen}
      (completed : (run (handle services uid) (start store) before).2 = .ok reached)
      : Traps (handle services uid reached event)
        ↔ Crashes services (lastFound before) reached.presented event := by
    have sound : Sound services uid current store before _ reached :=
      run_trace_invariant (fun events effects screen =>
          Sound services uid current store events effects screen)
        (fun _ _ _ _ _ _ sound handled => sound.step signedIn handled)
        (sound_start loadable account) (Prod.ext rfl completed)
    exact sound.traps_iff sampled event
  constructor
  · rintro ⟨trap, trapped⟩
    obtain ⟨before, event, after, reached, split, completed, failed⟩ :=
      run_faults_iff.mp trapped
    exact ⟨before, event, after, reached, split, completed, (crashes completed).mp ⟨trap, failed⟩⟩
  · rintro ⟨before, event, after, reached, split, completed, crash⟩
    obtain ⟨trap, failed⟩ := (crashes completed).mpr crash
    exact ⟨trap, run_faults_iff.mpr ⟨before, event, after, reached, split, completed, failed⟩⟩

/-- A peripheral that tells one number only. -/
def oneNumber : List DevicesEvent := [
  .callback (.didUpdateValueFor barnPeripheral
    ⟨kaddInitCharacteristic, true, some (utf8Value "KADD-1")⟩) (some barn)]

theorem traps_run_oneNumber
    : Traps (run (handle oneRow "u1") (start (newAccountStore "u1" "a@b.c")) oneNumber) := by
  obtain ⟨rides, sampled⟩ := exists_loadRides_oneRow
  apply (traps_run_iff (by decide) (loadable_newAccountStore "u1" "a@b.c")
    (account_newAccountStore "u1" "a@b.c") sampled).mpr
  refine ⟨[], _, [], _, rfl, rfl, rfl, ?_⟩
  rintro data ⟨⟩
  rw [utf8Value, Data.ofBytes, oneRow.decoding.decode_utf8]
  decide

end DevicesScreen

end AgriGuardian.Accounts
