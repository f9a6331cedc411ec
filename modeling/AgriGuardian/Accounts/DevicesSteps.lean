import AgriGuardian.Accounts.DevicesCollection

/-! What the events of the devices screen can do.
Only a value of the initial characteristic opens a form, only a valid form that is sent issues
a request of a device, and only a query changes the devices shown.
-/

namespace AgriGuardian.Accounts

open Swift
open Basis
open Rides
open BLE
open DevicesCollectionViewController

/-- The peripheral discovered last. -/
def foundAfter (found : Option CBPeripheral) : DevicesEvent → Option CBPeripheral
  | .callback (.didDiscover peripheral) _ => some peripheral
  | _ => found

/-- The event is a value of the initial characteristic, and opens this form. -/
def Opens (services : DevicesServices) (found : Option CBPeripheral) (event : DevicesEvent)
    (form : AddDeviceViewController)
    : Prop :=
  ∃ peripheral characteristic location,
    event = .callback (.didUpdateValueFor peripheral characteristic) location
    ∧ characteristic.uuid = kaddInitCharacteristic
    ∧ readNumbers services.decoding characteristic.value
      = .ok (form.modelNumber, form.serialNumber)
    ∧ form.kaddPeripheral = found
    ∧ form.kaddCharacteristic = some kaddInitCharacteristic
    ∧ form.form = location.map DeviceForm.setupForm

/-- Nothing new is put on top: a form or an alert to connect was there before. -/
structure Presented.Uncovered (current next : Presented) : Prop where
  form : ∀ form, next.form? = some form → current.form? = some form
  alert : next = .connectAlert → current = .connectAlert

def DevicesEvent.edits : DevicesEvent → List FormEdit
  | .edit change => [change]
  | _ => []

/-- The form after its rows are edited. -/
def AddDeviceViewController.editedBy (form : AddDeviceViewController)
    (session : List DevicesEvent)
    : AddDeviceViewController :=
  { form with
    form := form.form.map fun rows =>
      (session.flatMap DevicesEvent.edits).foldl DeviceForm.edit rows }

variable {services : DevicesServices} {uid : String} {event : DevicesEvent}

namespace Presented.Uncovered

variable {current next : Presented}

theorem same : current.Uncovered current := ⟨fun _ shown => shown, id⟩

/-- The form that was open stays open, with or without an alert. -/
theorem of_form {form : AddDeviceViewController} (before : current.form? = some form)
    (after : next.form? = some form)
    : current.Uncovered next := by
  refine ⟨?_, ?_⟩
  · intro other shown
    exact before.trans (after.symm.trans shown)
  · rintro rfl
    cases after

theorem nothing : current.Uncovered .nothing := by
  refine ⟨?_, ?_⟩
  · intro form shown
    cases shown
  · intro top
    cases top

theorem dashboard : current.Uncovered .dashboard := by
  refine ⟨?_, ?_⟩
  · intro form shown
    cases shown
  · intro top
    cases top

end Presented.Uncovered

theorem AddDeviceViewController.editedBy_append (form : AddDeviceViewController)
    (first second : List DevicesEvent)
    : form.editedBy (first ++ second) = (form.editedBy first).editedBy second := by
  simp [editedBy, Function.comp_def]

theorem AddDeviceViewController.editedBy_of_no_edits (form : AddDeviceViewController)
    (none : event.edits = [])
    : form.editedBy [event] = form := by
  simp [editedBy, none]

-----------------------------------------------------------------------------------------
-- What an event does
-----------------------------------------------------------------------------------------

/-- Everything that the events can do to what the screen keeps and shows. -/
structure StepFacts (services : DevicesServices) (uid : String) (screen : DevicesScreen)
    (event : DevicesEvent) (effects : List DevicesEffect) (next : DevicesScreen)
    : Prop where
  found
    : next.controller.kaddInitPeripheral
      = foundAfter screen.controller.kaddInitPeripheral event
  form
    : ∀ form, next.presented.form? = some form
      → (∃ old, screen.presented.form? = some old ∧ form = old.editedBy [event])
        ∨ Opens services screen.controller.kaddInitPeripheral event form
  alert
    : next.presented = .connectAlert
      → screen.presented = .connectAlert ∨ next.controller.kaddInitPeripheral ≠ none
  client
    : next.client = screen.client
      ∨ ∃ request answers, screen.client.handle uid request = (answers, .ok next.client)
  saved
    : ∀ documentID document,
        .setDevice documentID document ∈ next.client.outstanding
        → .setDevice documentID document ∈ screen.client.outstanding ++ screen.client.completions
          ∨ ∃ drawn form peripheral device,
              event = .didTapDone drawn
              ∧ drawn.1 = documentID
              ∧ screen.presented.form? = some form
              ∧ form.kaddPeripheral = some peripheral
              ∧ form.validateForm = .ok true
              ∧ form.getDeviceInfo = .ok device
              ∧ AddDeviceViewController.deviceDocument uid documentID device = .ok document
  devices
    : next.controller.devices = screen.controller.devices
      ∨ DataManager.loadDevices services screen.client.store uid = .ok next.controller.devices
  written
    : ∀ peripheral characteristic value,
        .writeValue peripheral characteristic value ∈ effects
        → value = PeripheralViewController.ack
          ∧ ∃ drawn form device,
              event = .didTapDone drawn
              ∧ screen.presented.form? = some form
              ∧ form.kaddPeripheral = some peripheral
              ∧ form.kaddCharacteristic = some characteristic
              ∧ form.validateForm = .ok true
              ∧ form.getDeviceInfo = .ok device
  chosen
    : ∀ devId, .setCurrDevice devId ∈ effects
        → ∃ device ∈ screen.controller.devices, device.devId = devId

namespace DevicesScreen

variable {screen next : DevicesScreen} {effects : List DevicesEffect}

/-- An event that opens no form, sends none and asks for no device. -/
theorem stepFacts_of_quiet (noEdits : event.edits = [])
    (found
      : next.controller.kaddInitPeripheral
        = foundAfter screen.controller.kaddInitPeripheral event)
    (uncovered : screen.presented.Uncovered next.presented)
    (client : next.client = screen.client)
    (devices
      : next.controller.devices = screen.controller.devices
        ∨ DataManager.loadDevices services screen.client.store uid = .ok next.controller.devices)
    (written
      : ∀ peripheral characteristic value,
          .writeValue peripheral characteristic value ∉ effects)
    (chosen
      : ∀ devId, .setCurrDevice devId ∈ effects
          → ∃ device ∈ screen.controller.devices, device.devId = devId)
    : StepFacts services uid screen event effects next where
  found := found
  form shown there := by
    refine Or.inl ⟨shown, uncovered.form shown there, ?_⟩
    exact (shown.editedBy_of_no_edits noEdits).symm
  alert top := Or.inl (uncovered.alert top)
  client := Or.inl client
  saved documentID document member := by
    rw [client] at member
    exact Or.inl (List.mem_append_left _ member)
  devices := devices
  written peripheral characteristic value member :=
    absurd member (written peripheral characteristic value)
  chosen := chosen

/-- What is presented is on top, or what was there before. -/
theorem present_cases (current new : Presented)
    : current.present new = current ∨ current.present new = new := by
  cases current with
  | nothing => exact Or.inr rfl
  | connectAlert | addDevice | disconnectAlert | dashboard => exact Or.inl rfl

/-- Requests to Core Bluetooth change nothing on the screen. -/
theorem stepFacts_of_requests (noEdits : event.edits = [])
    (found
      : screen.controller.kaddInitPeripheral
        = foundAfter screen.controller.kaddInitPeripheral event)
    (requests : ∀ effect ∈ effects, ∃ request, effect = .bluetooth request)
    : StepFacts services uid screen event effects screen := by
  apply stepFacts_of_quiet noEdits found .same rfl (Or.inl rfl)
  · intro peripheral characteristic value member
    obtain ⟨request, same⟩ := requests _ member
    cases same
  · intro devId member
    obtain ⟨request, same⟩ := requests _ member
    cases same

theorem stepFacts_receive {callback : DelegateCallback} {location : Option CLLocation}
    (received : screen.receive services location callback = (effects, .ok next))
    : StepFacts services uid screen (.callback callback location) effects next := by
  cases callback with
  | centralManagerDidUpdateState state =>
      cases received
      exact stepFacts_of_requests rfl rfl (by simp)
  | didDiscover peripheral =>
      cases received
      have stopped
          : StepFacts services uid screen (.callback (.didDiscover peripheral) location)
              [.bluetooth .stopScan]
              { screen with
                controller := { screen.controller with kaddInitPeripheral := some peripheral } } :=
        stepFacts_of_quiet rfl rfl .same rfl (Or.inl rfl) (by simp) (by simp)
      refine { stopped with form := ?_, alert := fun _ => Or.inr (by simp) }
      intro form shown
      rcases present_cases screen.presented .connectAlert with same | alert
      · rw [same] at shown
        exact stopped.form form shown
      · rw [alert] at shown
        cases shown
  | didConnect peripheral =>
      simp only [receive] at received
      split at received
      · cases received
        exact stepFacts_of_requests rfl rfl (by simp)
      · cases received
  | didDiscoverServices peripheral offered =>
      cases offered with
      | none => cases received
      | some offered =>
          cases received
          exact stepFacts_of_requests rfl rfl (by simp)
  | didDiscoverCharacteristicsFor peripheral characteristics =>
      cases characteristics with
      | none => cases received
      | some characteristics =>
          cases received
          refine stepFacts_of_requests rfl rfl ?_
          intro effect emitted
          obtain ⟨characteristic, -, rfl⟩ := List.mem_map.mp emitted
          exact ⟨_, rfl⟩
  | didUpdateValueFor peripheral characteristic =>
      simp only [receive] at received
      split at received
      · rename_i initial
        split at received
        · cases received
        · rename_i model serial read
          cases received
          have quiet
              : StepFacts services uid screen (.callback (.didUpdateValueFor peripheral
                  characteristic) location) [] screen :=
            stepFacts_of_requests rfl rfl (by simp)
          refine { quiet with form := ?_, alert := ?_ }
          · intro form shown
            rcases present_cases screen.presented _ with same | opened
            · rw [same] at shown
              exact quiet.form form shown
            · rw [opened] at shown
              obtain rfl := Option.some.inj shown
              exact Or.inr ⟨peripheral, characteristic, location, rfl, initial, read, rfl,
                congrArg some initial, rfl⟩
          · intro top
            rcases present_cases screen.presented _ with same | opened
            · exact Or.inl (same.symm.trans top)
            · cases opened.symm.trans top
      · cases received
        exact stepFacts_of_requests rfl rfl (by simp)

/-- Closing what is on top opens no form. -/
theorem stepFacts_answerAlert {confirmed : Bool}
    (answered : screen.answerAlert confirmed = (effects, .ok next))
    : StepFacts services uid screen (.answerAlert confirmed) effects next := by
  simp only [answerAlert] at answered
  split at answered
  · split at answered
    · split at answered
      · cases answered
        exact stepFacts_of_quiet rfl rfl .nothing rfl (Or.inl rfl) (by simp) (by simp)
      · cases answered
    · cases answered
      exact stepFacts_of_quiet rfl rfl .nothing rfl (Or.inl rfl) (by simp) (by simp)
  · rename_i form below
    cases answered
    refine stepFacts_of_quiet rfl rfl ?_ rfl (Or.inl rfl) (by simp) (by simp)
    cases confirmed with
    | true => exact .nothing
    | false =>
        rw [below]
        exact .of_form rfl rfl
  · cases answered

theorem stepFacts_edit {edit : FormEdit} (edited : screen.edit edit = (effects, .ok next))
    : StepFacts services uid screen (.edit edit) effects next := by
  simp only [DevicesScreen.edit] at edited
  split at edited
  · rename_i form top
    split at edited
    · rename_i rows there
      cases edited
      have shown : screen.presented.form? = some form := by simp [top, Presented.form?]
      refine ⟨rfl, ?_, nofun, Or.inl rfl, ?_, Or.inl rfl, by simp, by simp⟩
      · rintro _ ⟨⟩
        refine Or.inl ⟨form, shown, ?_⟩
        simp [AddDeviceViewController.editedBy, DevicesEvent.edits, there]
      · intro documentID document member
        exact Or.inl (List.mem_append_left _ member)
    · cases edited
  · cases edited

theorem stepFacts_didTapCancel (tapped : screen.didTapCancel = (effects, .ok next))
    : StepFacts services uid screen .didTapCancel effects next := by
  simp only [didTapCancel] at tapped
  split at tapped
  · rename_i form top
    split at tapped
    · cases tapped
    · cases tapped
      exact stepFacts_of_quiet rfl rfl (top ▸ .of_form rfl rfl) rfl (Or.inl rfl) (by simp) (by simp)
    · cases tapped
      exact stepFacts_of_quiet rfl rfl .nothing rfl (Or.inl rfl) (by simp) (by simp)
  · cases tapped

/-- Only a valid form issues a request, and the acknowledgement goes to its peripheral. -/
theorem stepFacts_didTapDone {documentID : DocumentID}
    (tapped : screen.didTapDone uid documentID = (effects, .ok next))
    : StepFacts services uid screen (.didTapDone documentID) effects next := by
  simp only [didTapDone] at tapped
  split at tapped
  · rename_i form top
    have shown : screen.presented.form? = some form := by simp [top, Presented.form?]
    split at tapped
    · cases tapped
    · cases tapped
      exact stepFacts_of_quiet rfl rfl (top ▸ .of_form rfl rfl) rfl (Or.inl rfl) (by simp) (by simp)
    · rename_i valid
      simp only [save] at tapped
      split at tapped
      · cases tapped
      · rename_i device info
        split at tapped
        · cases tapped
        · cases tapped
        · rename_i answers client handled
          split at tapped
          · rename_i kaddPeripheral kaddCharacteristic peripheral characteristic
            cases tapped
            obtain ⟨rfl, document, written, issued⟩ := DeviceClient.handle_eq_ok handled
            refine ⟨rfl, ?_, Or.inl, Or.inr ⟨_, _, handled⟩, ?_, Or.inl rfl, ?_, by simp⟩
            · intro other there
              refine Or.inl ⟨other, there, ?_⟩
              exact (other.editedBy_of_no_edits rfl).symm
            · intro drawn content member
              rw [issued] at member
              rcases List.mem_append.mp member with before | new
              · exact Or.inl (List.mem_append_left _ before)
              · obtain ⟨rfl, rfl⟩ := DeviceRequest.setDevice.inj (List.mem_singleton.mp new)
                exact Or.inr ⟨documentID, form, kaddPeripheral, device, rfl, rfl, shown,
                  peripheral, valid, info, written⟩
            · intro receiver target value member
              obtain ⟨rfl, rfl, rfl⟩ : receiver = kaddPeripheral ∧ target = kaddCharacteristic
                  ∧ value = PeripheralViewController.ack := by simpa using member
              exact ⟨rfl, documentID, form, device, rfl, shown, peripheral, characteristic,
                valid, info⟩
          · cases tapped
  · cases tapped

/-- The client works off its requests, of which none is new. -/
theorem stepFacts_of_client (noEdits : event.edits = [])
    (found
      : next.controller.kaddInitPeripheral
        = foundAfter screen.controller.kaddInitPeripheral event)
    (uncovered : screen.presented.Uncovered next.presented)
    (devices : next.controller.devices = screen.controller.devices)
    {request : DeviceEvent} {answers : List (DeviceRequest × Bool)}
    (handled : screen.client.handle uid request = (answers, .ok next.client))
    (old
      : ∀ documentID document,
          .setDevice documentID document ∈ next.client.outstanding
          → .setDevice documentID document
            ∈ screen.client.outstanding ++ screen.client.completions)
    (answered : ∀ effect ∈ effects, ∃ request served, effect = .answered request served)
    : StepFacts services uid screen event effects next where
  found := found
  form shown there := by
    refine Or.inl ⟨shown, uncovered.form shown there, ?_⟩
    exact (shown.editedBy_of_no_edits noEdits).symm
  alert top := Or.inl (uncovered.alert top)
  client := Or.inr ⟨request, answers, handled⟩
  saved documentID document member := Or.inl (old documentID document member)
  devices := Or.inl devices
  written peripheral characteristic value member := by
    obtain ⟨request, served, same⟩ := answered _ member
    cases same
  chosen devId member := by
    obtain ⟨request, served, same⟩ := answered _ member
    cases same

theorem stepFacts_respond {served : Bool}
    (responded : screen.respond uid served = (effects, .ok next))
    : StepFacts services uid screen (.respond served) effects next := by
  simp only [respond] at responded
  split at responded
  · cases responded
  · rename_i answers client handled
    cases responded
    refine stepFacts_of_client rfl rfl .same rfl handled ?_ ?_
    · obtain ⟨request, rest, waiting, ⟨-, rfl⟩ | ⟨store, -, -, rfl⟩⟩ :=
        DeviceClient.handle_eq_ok handled
      · intro documentID document member
        simp [waiting, member]
      · intro documentID document member
        simp [waiting, member]
    · intro effect emitted
      obtain ⟨answer, -, rfl⟩ := List.mem_map.mp emitted
      exact ⟨_, _, rfl⟩

theorem stepFacts_complete {closes : Bool}
    (completed : screen.complete uid closes = (effects, .ok next))
    : StepFacts services uid screen (.complete closes) effects next := by
  simp only [complete] at completed
  split at completed
  · cases completed
  · rename_i answers client handled
    have old
        : ∀ documentID document,
            .setDevice documentID document ∈ client.outstanding
            → .setDevice documentID document
              ∈ screen.client.outstanding ++ screen.client.completions := by
      obtain ⟨-, request, rest, waiting, rfl⟩ := DeviceClient.handle_eq_ok handled
      intro documentID document member
      rcases List.mem_append.mp member with before | here
      · exact List.mem_append_left _ before
      · rw [waiting, List.mem_singleton.mp here]
        simp
    split at completed
    · split at completed
      · cases completed
        exact stepFacts_of_client rfl rfl .nothing rfl handled old (by simp)
      · cases completed
    · cases completed
      exact stepFacts_of_client rfl rfl .same rfl handled old (by simp)

theorem stepFacts_loaded (answered : screen.loaded services uid = (effects, .ok next))
    : StepFacts services uid screen .loaded effects next := by
  simp only [loaded] at answered
  split at answered
  · cases answered
  · split at answered
    · cases answered
    · rename_i user read
      cases answered
      obtain ⟨devices, listed, built⟩ := bind_eq_ok.mp read
      obtain rfl := Except.ok.inj built
      exact stepFacts_of_quiet rfl rfl .same rfl (Or.inr listed) (by simp)
        (by simp)

theorem stepFacts_cellForItemAt {row : ℕ} (drawn : screen.cellForItemAt row = (effects, .ok next))
    : StepFacts services uid screen (.cellForItemAt row) effects next := by
  simp only [cellForItemAt] at drawn
  split at drawn
  · split at drawn
    · cases drawn
    · cases drawn
      exact stepFacts_of_quiet rfl rfl .same rfl (Or.inl rfl) (by simp) (by simp)
  · cases drawn

/-- A tap sets the device of the row that is tapped. -/
theorem stepFacts_didSelectItemAt {row : ℕ}
    (selected : screen.didSelectItemAt row = (effects, .ok next))
    : StepFacts services uid screen (.didSelectItemAt row) effects next := by
  simp only [didSelectItemAt] at selected
  split at selected
  · split at selected
    · split at selected
      · cases selected
      · rename_i device tapped
        cases selected
        refine stepFacts_of_quiet rfl rfl .dashboard rfl (Or.inl rfl) (by simp) ?_
        intro devId emitted
        obtain rfl : devId = device.devId := by simpa using emitted
        exact ⟨device, mem_of_element tapped, rfl⟩
    · cases selected
  · cases selected

theorem stepFacts (handled : screen.handle services uid event = (effects, .ok next))
    : StepFacts services uid screen event effects next := by
  cases event with
  | callback callback location => exact stepFacts_receive handled
  | answerAlert confirmed => exact stepFacts_answerAlert handled
  | edit edit => exact stepFacts_edit handled
  | didTapDone documentID => exact stepFacts_didTapDone handled
  | didTapCancel => exact stepFacts_didTapCancel handled
  | respond served => exact stepFacts_respond handled
  | complete closes => exact stepFacts_complete handled
  | loaded => exact stepFacts_loaded handled
  | cellForItemAt row => exact stepFacts_cellForItemAt handled
  | didSelectItemAt row => exact stepFacts_didSelectItemAt handled

end DevicesScreen

end AgriGuardian.Accounts
