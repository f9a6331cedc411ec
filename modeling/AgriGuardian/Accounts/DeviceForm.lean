import AgriGuardian.Accounts.Device
import AgriGuardian.BLE.PeripheralScreen

/-! The form of a new device.
A row that was refused is validated again at every change, so a row with a text is never
refused. The form can be sent exactly when both of its required rows have a text.
-/

namespace AgriGuardian.Accounts

open Swift
open Rides
open BLE

-----------------------------------------------------------------------------------------
-- Rows
-----------------------------------------------------------------------------------------

/-- A row whose text is required. A text field that is emptied leaves no value, and only a row
without one is refused.
-/
structure TextRow where
  value : Option String
  isValid : Bool
  nonempty : value ≠ some ""
  refused : isValid = false → value = none

namespace TextRow

/-- `RuleRequired` finds no error. -/
def hasText (value : Option String) : Bool := value.any fun text => text ≠ ""

theorem hasText_eq_false {value : Option String} (nonempty : value ≠ some "")
    (missing : hasText value = false)
    : value = none := by
  cases value with
  | none => rfl
  | some text =>
      have empty : text = "" := by simpa [hasText] using missing
      exact absurd (congrArg some empty) nonempty

def init : TextRow where
  value := none
  isValid := true
  nonempty := by simp
  refused _ := rfl

/-- The row after its field is left. -/
def validate (row : TextRow) : TextRow where
  value := row.value
  isValid := hasText row.value
  nonempty := row.nonempty
  refused := hasText_eq_false row.nonempty

/-- The row with another value. It is validated if it was refused before. -/
def setValue (row : TextRow) (value : Option String) (nonempty : value ≠ some "") : TextRow where
  value := value
  isValid := row.isValid || hasText value
  nonempty := nonempty
  refused := by
    intro invalid
    exact hasText_eq_false nonempty (Bool.or_eq_false_iff.mp invalid).2

/-- The text of the field, of which an empty one is no value. -/
def typed (text : String) : Option String := if text = "" then none else some text

theorem typed_ne (text : String) : typed text ≠ some "" := by
  rw [typed]
  split
  · simp
  · rename_i nonempty
    simpa using nonempty

def textFieldDidChange (row : TextRow) (text : String) : TextRow :=
  row.setValue (typed text) (typed_ne text)

/-- The condition on which `validateForm` refuses a row. -/
def isIncomplete (row : TextRow) : Bool := row.value == none || !row.isValid

/-- A row is refused only for want of a text, whatever has been validated when. -/
theorem isIncomplete_eq (row : TextRow) : row.isIncomplete = row.value.isNone := by
  rw [isIncomplete]
  cases value : row.value with
  | none => rfl
  | some text =>
      cases valid : row.isValid with
      | true => rfl
      | false =>
          rw [row.refused valid] at value
          cases value

end TextRow

/-- The rows that can be edited. The toggle and the centre always have a value. -/
structure DeviceForm where
  nameRow : TextRow
  vehicleRow : TextRow
  geoToggle : Bool
  geoRad : Option ℤ
  geoCenter : CLLocation

inductive FormEdit
  | nameChanged (text : String)
  | nameLeft
  | vehicleChanged (text : String)
  | vehicleLeft
  | toggled (value : Bool)
  | radiusChanged (value : Option ℤ)
  | centerChosen (location : CLLocation)

namespace DeviceForm

/-- The form that is set up at the current location. -/
def setupForm (currLoc : CLLocation) : DeviceForm where
  nameRow := TextRow.init
  vehicleRow := TextRow.init
  geoToggle := false
  geoRad := none
  geoCenter := currLoc

def edit (form : DeviceForm) : FormEdit → DeviceForm
  | .nameChanged text => { form with nameRow := form.nameRow.textFieldDidChange text }
  | .nameLeft => { form with nameRow := form.nameRow.validate }
  | .vehicleChanged text => { form with vehicleRow := form.vehicleRow.textFieldDidChange text }
  | .vehicleLeft => { form with vehicleRow := form.vehicleRow.validate }
  | .toggled value => { form with geoToggle := value }
  | .radiusChanged value => { form with geoRad := value }
  | .centerChosen location => { form with geoCenter := location }

end DeviceForm

-----------------------------------------------------------------------------------------
-- The controller of the form
-----------------------------------------------------------------------------------------

/-- The form is there if a location was known when the view was loaded. -/
structure AddDeviceViewController where
  modelNumber : String
  serialNumber : String
  kaddPeripheral : Option CBPeripheral
  kaddCharacteristic : Option CBUUID
  form : Option DeviceForm

namespace AddDeviceViewController

def manufacturer : String := "Kadd Inc."

def hardwareVersion : String := "1.0.0"

def firmwareVersion : String := "1.0.0"

def validateForm (controller : AddDeviceViewController) : Checked Bool :=
  match controller.form with
  | none => .error (.fatalError "Unexpectedly found nil unwrapping row")
  | some form =>
      if form.nameRow.isIncomplete then .ok false
      else if form.vehicleRow.isIncomplete then .ok false
      else .ok true

def getDeviceInfo (controller : AddDeviceViewController) : Checked Device :=
  match controller.form with
  | none => .error (.fatalError "Unexpectedly found nil unwrapping devive data")
  | some form =>
      match form.nameRow.value, form.vehicleRow.value with
      | some name, some atvModel => .ok {
          name, atvModel, manufacturer, hardwareVersion, firmwareVersion
          modelNumber := controller.modelNumber
          serialNumber := controller.serialNumber
          lastLocation := ""
          uid := ""
          devId := ""
          rideHistory := RideHistory.init
          rides := []
          gfToggle := form.geoToggle
          gfRadius := form.geoRad.getD 0
          gfCenter := form.geoCenter }
      | _, _ => .error .unexpectedNil

/-- The form is valid if and only if both of its rows have a text. -/
theorem validateForm_eq_ok_true {controller : AddDeviceViewController}
    : controller.validateForm = .ok true
      ↔ ∃ form name atvModel,
          controller.form = some form
          ∧ form.nameRow.value = some name
          ∧ form.vehicleRow.value = some atvModel := by
  rw [validateForm]
  cases controller.form with
  | none => simp
  | some form =>
      simp only [TextRow.isIncomplete_eq, Option.some.injEq, exists_and_left, exists_and_right,
        exists_eq_left']
      cases form.nameRow.value with
      | none => simp
      | some name =>
          cases form.vehicleRow.value with
          | none => simp
          | some atvModel => simp

/-- The device of a form has what the form shows. The numbers are not edited. -/
theorem getDeviceInfo_eq_ok {controller : AddDeviceViewController} {device : Device}
    (info : controller.getDeviceInfo = .ok device)
    : ∃ rows,
        controller.form = some rows
        ∧ rows.nameRow.value = some device.name
        ∧ rows.vehicleRow.value = some device.atvModel
        ∧ device.gfCenter = rows.geoCenter
        ∧ device.modelNumber = controller.modelNumber
        ∧ device.serialNumber = controller.serialNumber := by
  rw [getDeviceInfo] at info
  split at info
  · cases info
  · rename_i rows shown
    split at info
    · rename_i name atvModel named modelled
      obtain rfl := Except.ok.inj info
      exact ⟨rows, shown, named, modelled, rfl, rfl, rfl⟩
    · cases info

/-- A form is valid if and only if it has the information of a device. -/
theorem validateForm_iff_getDeviceInfo {controller : AddDeviceViewController}
    : controller.validateForm = .ok true ↔ ∃ device, controller.getDeviceInfo = .ok device := by
  constructor
  · intro valid
    obtain ⟨rows, name, atvModel, shown, named, modelled⟩ := validateForm_eq_ok_true.mp valid
    simp only [getDeviceInfo, shown, named, modelled]
    exact ⟨_, rfl⟩
  · rintro ⟨device, info⟩
    obtain ⟨rows, shown, named, modelled, -⟩ := getDeviceInfo_eq_ok info
    exact validateForm_eq_ok_true.mpr ⟨rows, _, _, shown, named, modelled⟩

/-- The device of a form has a name and a model of its vehicle. -/
theorem getDeviceInfo_nonempty {controller : AddDeviceViewController} {device : Device}
    (info : controller.getDeviceInfo = .ok device)
    : device.name ≠ "" ∧ device.atvModel ≠ "" := by
  obtain ⟨rows, -, named, modelled, -⟩ := getDeviceInfo_eq_ok info
  constructor
  · intro empty
    rw [empty] at named
    exact rows.nameRow.nonempty named
  · intro empty
    rw [empty] at modelled
    exact rows.vehicleRow.nonempty modelled

end AddDeviceViewController

end AgriGuardian.Accounts
