import AgriGuardian.Basis.Projection
import AgriGuardian.BLE.Peripheral

/-! The whole peripheral screen: every callback of Core Bluetooth, in any order.
Callbacks connect to the peripheral, discover its characteristics and start reading. A value
is processed only if it is that of the characteristic discovered last, and what becomes of
such values is the datagram handler alone.
-/

namespace AgriGuardian.BLE

open Swift
open Basis

/-- UUIDs are compared by value. -/
abbrev CBUUID := String

/-- A peripheral, by its identifier. -/
structure CBPeripheral where
  identifier : String
  deriving DecidableEq, Repr

/-- A service, by its UUID. -/
structure CBService where
  uuid : CBUUID
  deriving DecidableEq, Repr

/-- A characteristic. Of its properties only `read` decides anything. -/
structure CBCharacteristic where
  uuid : CBUUID
  readable : Bool
  value : Option Data
  deriving DecidableEq, Repr

/-- `central.state`, with the values of later versions of the framework. -/
inductive CBManagerState
  | unknown
  | resetting
  | unsupported
  | unauthorized
  | poweredOff
  | poweredOn
  | later
  deriving DecidableEq, Repr

/-- A callback with what the screen reads from its arguments. -/
inductive DelegateCallback
  | centralManagerDidUpdateState (state : CBManagerState)
  | didDiscover (peripheral : CBPeripheral)
  | didConnect (peripheral : CBPeripheral)
  | didDiscoverServices (peripheral : CBPeripheral) (services : Option (List CBService))
  | didDiscoverCharacteristicsFor (peripheral : CBPeripheral)
      (characteristics : Option (List CBCharacteristic))
  | didUpdateValueFor (peripheral : CBPeripheral) (characteristic : CBCharacteristic)

/-- A request to Core Bluetooth, or what processing a value does to the characteristic. -/
inductive DelegateRequest
  | scanForPeripherals (services : List CBUUID)
  | stopScan
  | connect (peripheral : CBPeripheral)
  | discoverServices (peripheral : CBPeripheral)
  | discoverCharacteristics (peripheral : CBPeripheral) (service : CBService)
  | readValue (peripheral : CBPeripheral) (characteristic : CBUUID)
  | processing (peripheral : CBPeripheral) (characteristic : CBUUID) (effect : PeripheralEffect)
  deriving DecidableEq, Repr

/-- All the state of `PeripheralViewController`, of which `controller` has the datagrams. -/
structure PeripheralScreen where
  raspberryPiPeripheral : Option CBPeripheral
  tempCharacteristic : Option CBUUID
  controller : PeripheralViewController

namespace PeripheralScreen

def raspberryPi : CBUUID := "27cf08c1-076a-41af-becd-02ed6f6109b9"

def init : PeripheralScreen := ⟨none, none, PeripheralViewController.init⟩

/-- The characteristic that `tempCharacteristic` names after a discovery. -/
def lastDiscovered (current : Option CBUUID) (characteristics : Option (List CBCharacteristic))
    : Option CBUUID :=
  (characteristics.getD []).foldl (fun _ characteristic => some characteristic.uuid) current

def receive : Handler PeripheralScreen DelegateCallback DelegateRequest Trap :=
  fun screen callback =>
    match callback with
    | .centralManagerDidUpdateState state =>
        match state with
        | .poweredOn => ([.scanForPeripherals [raspberryPi]], .ok screen)
        | .later => ([], .error (.fatalError "Unknown Peripheral State"))
        | _ => ([], .ok screen)
    | .didDiscover peripheral =>
        ([.stopScan, .connect peripheral],
          .ok { screen with raspberryPiPeripheral := some peripheral })
    | .didConnect _ =>
        match screen.raspberryPiPeripheral with
        | some raspberryPiPeripheral => ([.discoverServices raspberryPiPeripheral], .ok screen)
        | none => ([], .error .unexpectedNil)
    | .didDiscoverServices peripheral services =>
        ((services.getD []).map (.discoverCharacteristics peripheral), .ok screen)
    | .didDiscoverCharacteristicsFor peripheral characteristics =>
        (((characteristics.getD []).filter CBCharacteristic.readable).map
            fun characteristic => .readValue peripheral characteristic.uuid,
          .ok { screen with
            tempCharacteristic := lastDiscovered screen.tempCharacteristic characteristics })
    | .didUpdateValueFor peripheral characteristic =>
        if screen.tempCharacteristic = some characteristic.uuid then
          let processed := screen.controller.processDatagrams characteristic.value
          (processed.1.map (.processing peripheral characteristic.uuid),
            processed.2.map fun controller => { screen with controller := controller })
        else ([], .ok screen)

-----------------------------------------------------------------------------------------
-- The values that are processed
-----------------------------------------------------------------------------------------

/-- The value that a callback hands to `processDatagrams`, if it does. -/
def processedValue (screen : PeripheralScreen) : DelegateCallback → Option (Option Data)
  | .didUpdateValueFor _ characteristic =>
      if screen.tempCharacteristic = some characteristic.uuid then some characteristic.value
      else none
  | _ => none

/-- What processing a value did, among the requests. -/
def processingEffect : DelegateRequest → Option PeripheralEffect
  | .processing _ _ effect => some effect
  | _ => none

/-- The values of the characteristic discovered last, as callbacks deliver them. -/
def accepted (current : Option CBUUID) : List DelegateCallback → List (Option Data)
  | [] => []
  | .didDiscoverCharacteristicsFor _ characteristics :: rest =>
      accepted (lastDiscovered current characteristics) rest
  | .didUpdateValueFor _ characteristic :: rest =>
      if current = some characteristic.uuid then characteristic.value :: accepted current rest
      else accepted current rest
  | _ :: rest => accepted current rest

/-- A connection follows a discovery, and the state of the manager is one the app knows. -/
def ConnectsInOrder (found : Bool) : List DelegateCallback → Prop
  | [] => True
  | .centralManagerDidUpdateState state :: rest => state ≠ .later ∧ ConnectsInOrder found rest
  | .didDiscover _ :: rest => ConnectsInOrder true rest
  | .didConnect _ :: rest => found = true ∧ ConnectsInOrder found rest
  | _ :: rest => ConnectsInOrder found rest

theorem filterMap_processing (peripheral : CBPeripheral) (characteristic : CBUUID)
    (effects : List PeripheralEffect)
    : (effects.map (DelegateRequest.processing peripheral characteristic)).filterMap
        processingEffect
      = effects := by
  rw [List.filterMap_map]
  exact List.filterMap_some

/-- What a returning callback that is no processed value leaves of the screen. -/
theorem receive_hidden {screen next : PeripheralScreen} {callback : DelegateCallback}
    {requests : List DelegateRequest} (unprocessed : screen.processedValue callback = none)
    (called : screen.receive callback = (requests, .ok next))
    : next.controller = screen.controller ∧ requests.filterMap processingEffect = [] := by
  cases callback with
  | centralManagerDidUpdateState state =>
      cases state with
      | poweredOn =>
          obtain ⟨rfl, same⟩ := Prod.mk.inj called
          obtain rfl := Except.ok.inj same
          exact ⟨rfl, rfl⟩
      | later => cases called
      | unknown | resetting | unsupported | unauthorized | poweredOff =>
          obtain ⟨rfl, same⟩ := Prod.mk.inj called
          obtain rfl := Except.ok.inj same
          exact ⟨rfl, rfl⟩
  | didDiscover peripheral =>
      obtain ⟨rfl, same⟩ := Prod.mk.inj called
      obtain rfl := Except.ok.inj same
      exact ⟨rfl, rfl⟩
  | didConnect peripheral =>
      cases found : screen.raspberryPiPeripheral with
      | none => simp [receive, found] at called
      | some raspberryPiPeripheral =>
          obtain ⟨rfl, same⟩ := Prod.mk.inj (by simpa [receive, found] using called)
          exact ⟨congrArg controller same.symm, rfl⟩
  | didDiscoverServices peripheral services =>
      obtain ⟨rfl, same⟩ := Prod.mk.inj called
      obtain rfl := Except.ok.inj same
      refine ⟨rfl, ?_⟩
      rw [List.filterMap_map]
      exact List.filterMap_eq_nil_iff.mpr fun _ _ => rfl
  | didDiscoverCharacteristicsFor peripheral characteristics =>
      obtain ⟨rfl, same⟩ := Prod.mk.inj called
      obtain rfl := Except.ok.inj same
      refine ⟨rfl, ?_⟩
      rw [List.filterMap_map]
      exact List.filterMap_eq_nil_iff.mpr fun _ _ => rfl
  | didUpdateValueFor peripheral characteristic =>
      have other : screen.tempCharacteristic ≠ some characteristic.uuid := by
        intro current
        simp [processedValue, current] at unprocessed
      rw [receive, if_neg other] at called
      obtain ⟨rfl, same⟩ := Prod.mk.inj called
      obtain rfl := Except.ok.inj same
      exact ⟨rfl, rfl⟩

/-- The screen projects to the datagram handler. -/
theorem projection
    : Projection receive PeripheralViewController.processDatagrams controller processedValue
        processingEffect := by
  constructor
  · intro screen callback requests next unprocessed called
    exact receive_hidden unprocessed called
  · intro screen callback value processed
    cases callback with
    | didUpdateValueFor peripheral characteristic =>
        by_cases current : screen.tempCharacteristic = some characteristic.uuid
        · obtain rfl : characteristic.value = value := by
            simpa [processedValue, current] using processed
          rw [receive, if_pos current, filterMap_processing]
          cases outcome : screen.controller.processDatagrams characteristic.value with
          | mk effects result =>
              cases result with
              | error trap => rfl
              | ok next => rfl
        · simp [processedValue, current] at processed
    | centralManagerDidUpdateState | didDiscover | didConnect | didDiscoverServices
    | didDiscoverCharacteristicsFor => cases processed

-----------------------------------------------------------------------------------------
-- Whole runs
-----------------------------------------------------------------------------------------

/-- The peripheral is known after a call. -/
def foundAfter (found : Bool) : DelegateCallback → Bool
  | .didDiscover _ => true
  | _ => found

/-- The characteristic whose values are processed after a call. -/
def currentAfter (current : Option CBUUID) : DelegateCallback → Option CBUUID
  | .didDiscoverCharacteristicsFor _ characteristics => lastDiscovered current characteristics
  | _ => current

/-- The callback can be answered: a connection was preceded by a discovery. -/
def InOrder (found : Bool) : DelegateCallback → Prop
  | .centralManagerDidUpdateState state => state ≠ .later
  | .didConnect _ => found = true
  | _ => True

theorem connectsInOrder_cons (found : Bool) (callback : DelegateCallback)
    (rest : List DelegateCallback)
    : ConnectsInOrder found (callback :: rest)
      ↔ InOrder found callback ∧ ConnectsInOrder (foundAfter found callback) rest := by
  cases callback with
  | centralManagerDidUpdateState state => exact Iff.rfl
  | didConnect peripheral => exact Iff.rfl
  | didDiscover | didDiscoverServices | didDiscoverCharacteristicsFor | didUpdateValueFor =>
      exact Iff.of_eq (true_and _).symm

theorem accepted_cons (screen : PeripheralScreen) (callback : DelegateCallback)
    (rest : List DelegateCallback)
    : accepted screen.tempCharacteristic (callback :: rest)
      = (screen.processedValue callback).toList
        ++ accepted (currentAfter screen.tempCharacteristic callback) rest := by
  cases callback with
  | didUpdateValueFor peripheral characteristic =>
      by_cases current : screen.tempCharacteristic = some characteristic.uuid
      · simp [accepted, processedValue, currentAfter, current]
      · simp [accepted, processedValue, currentAfter, current]
  | centralManagerDidUpdateState | didDiscover | didConnect | didDiscoverServices
  | didDiscoverCharacteristicsFor => rfl

/-- What a call that returns leaves of the connection. -/
theorem receive_connection {screen next : PeripheralScreen} {callback : DelegateCallback}
    (returned : (screen.receive callback).2 = .ok next)
    : next.raspberryPiPeripheral.isSome = foundAfter screen.raspberryPiPeripheral.isSome callback
      ∧ next.tempCharacteristic = currentAfter screen.tempCharacteristic callback := by
  cases callback with
  | centralManagerDidUpdateState state =>
      cases state with
      | later => cases returned
      | unknown | resetting | unsupported | unauthorized | poweredOff | poweredOn =>
          obtain rfl := Except.ok.inj returned
          exact ⟨rfl, rfl⟩
  | didConnect peripheral =>
      cases found : screen.raspberryPiPeripheral with
      | none => simp [receive, found] at returned
      | some raspberryPiPeripheral =>
          obtain rfl : screen = next := by simpa [receive, found] using returned
          exact ⟨congrArg Option.isSome found, rfl⟩
  | didDiscover | didDiscoverServices | didDiscoverCharacteristicsFor =>
      obtain rfl := Except.ok.inj returned
      exact ⟨rfl, rfl⟩
  | didUpdateValueFor peripheral characteristic =>
      by_cases current : screen.tempCharacteristic = some characteristic.uuid
      · rw [receive, if_pos current] at returned
        cases outcome : (screen.controller.processDatagrams characteristic.value).2 with
        | error trap => simp [outcome, Except.map] at returned
        | ok controller =>
            simp only [outcome, Except.map] at returned
            obtain rfl := Except.ok.inj returned
            exact ⟨rfl, rfl⟩
      · rw [receive, if_neg current] at returned
        obtain rfl := Except.ok.inj returned
        exact ⟨rfl, rfl⟩

/-- A call returns exactly when it comes in order and its value, if it is processed, is
handled without trapping.
-/
theorem receive_returns_iff (screen : PeripheralScreen) (callback : DelegateCallback)
    : (∃ next, (screen.receive callback).2 = .ok next)
      ↔ InOrder screen.raspberryPiPeripheral.isSome callback
        ∧ ∀ value ∈ screen.processedValue callback,
            ∃ controller, (screen.controller.processDatagrams value).2 = .ok controller := by
  cases callback with
  | centralManagerDidUpdateState state =>
      cases state with
      | later => simp [receive, InOrder]
      | unknown | resetting | unsupported | unauthorized | poweredOff | poweredOn =>
          simp [receive, InOrder, processedValue]
  | didConnect peripheral =>
      cases found : screen.raspberryPiPeripheral with
      | none => simp [receive, InOrder, found]
      | some raspberryPiPeripheral => simp [receive, InOrder, processedValue, found]
  | didDiscover | didDiscoverServices | didDiscoverCharacteristicsFor =>
      simp [receive, InOrder, processedValue]
  | didUpdateValueFor peripheral characteristic =>
      by_cases current : screen.tempCharacteristic = some characteristic.uuid
      · rw [receive, if_pos current]
        cases outcome : (screen.controller.processDatagrams characteristic.value).2 with
        | error trap => simp [processedValue, current, outcome, Except.map]
        | ok controller => simp [InOrder, processedValue, current, outcome, Except.map]
      · simp [receive, InOrder, processedValue, current]

/-- Along a completed run, the values processed are those of the last discovery. -/
theorem projected_eq_accepted {screen : PeripheralScreen} {callbacks : List DelegateCallback}
    {final : PeripheralScreen} (completed : (run receive screen callbacks).2 = .ok final)
    : projected receive processedValue screen callbacks
      = accepted screen.tempCharacteristic callbacks := by
  induction callbacks generalizing screen with
  | nil => rfl
  | cons callback rest ih =>
      rcases called : screen.receive callback with ⟨requests, trap | next⟩
      · simp [run_cons_error called] at completed
      · rw [run_cons_ok called] at completed
        have current := (receive_connection (congrArg Prod.snd called)).2
        rw [projected_cons_ok called, accepted_cons, ih completed, current]

/-- The datagram handler after a value that was processed, if any was. -/
theorem run_processed {screen next : PeripheralScreen} {callback : DelegateCallback}
    {requests : List DelegateRequest} (called : screen.receive callback = (requests, .ok next))
    (later : List (Option Data))
    : (run PeripheralViewController.processDatagrams screen.controller
          ((screen.processedValue callback).toList ++ later)).2
      = (run PeripheralViewController.processDatagrams next.controller later).2 := by
  cases seen : screen.processedValue callback with
  | none =>
      rw [(projection.hidden seen called).1]
      rfl
  | some value =>
      have mirrored := projection.mirrored seen
      rw [called] at mirrored
      rw [Option.toList_some, List.singleton_append, run_cons_ok mirrored]

/-- A run completes exactly when its callbacks come in order and the values processed are
handled without trapping. Witness: induction on the callbacks. A value that is processed is
the next one of the datagram handler.
-/
theorem receive_completes_iff (screen : PeripheralScreen) (callbacks : List DelegateCallback)
    : (∃ final, (run receive screen callbacks).2 = .ok final)
      ↔ ConnectsInOrder screen.raspberryPiPeripheral.isSome callbacks
        ∧ ∃ controller,
            (run PeripheralViewController.processDatagrams screen.controller
                (accepted screen.tempCharacteristic callbacks)).2
              = .ok controller := by
  induction callbacks generalizing screen with
  | nil => exact iff_of_true ⟨screen, rfl⟩ ⟨trivial, screen.controller, rfl⟩
  | cons callback rest ih =>
      rw [connectsInOrder_cons, accepted_cons]
      rcases called : screen.receive callback with ⟨requests, trap | next⟩
      · have stops := (screen.receive_returns_iff callback).not.mp (by simp [called])
        refine iff_of_false (by simp [run_cons_error called]) ?_
        intro ⟨⟨inOrder, _⟩, controller, completed⟩
        refine stops ⟨inOrder, fun value processed => ?_⟩
        rw [Option.mem_def.mp processed, Option.toList_some] at completed
        obtain ⟨middle, first, -⟩ := run_append_inv completed
        rw [run_singleton] at first
        exact ⟨middle, first⟩
      · obtain ⟨found, current⟩ := receive_connection (congrArg Prod.snd called)
        have inOrder := ((screen.receive_returns_iff callback).mp ⟨next, by rw [called]⟩).1
        have later := ih next
        rw [found, current] at later
        rw [run_cons_ok called, run_processed called, later]
        simp only [inOrder, true_and]

/-- A completed run is a run of the datagram handler on the values processed. -/
theorem run_accepted {screen final : PeripheralScreen} {callbacks : List DelegateCallback}
    {requests : List DelegateRequest}
    (completed : run receive screen callbacks = (requests, .ok final))
    : run PeripheralViewController.processDatagrams screen.controller
          (accepted screen.tempCharacteristic callbacks)
        = (requests.filterMap processingEffect, .ok final.controller) := by
  rw [← projected_eq_accepted (congrArg Prod.snd completed)]
  exact projection.run completed

/-- The screen, under every sequence of callbacks, is the datagram handler on the values of
the characteristic discovered last. It completes exactly when the handler does and the
callbacks come in order, and then it does to the characteristic what the handler does and
ends with the handler's datagrams.
-/
theorem screen_refines_handler (callbacks : List DelegateCallback)
    : ((∃ final, (run receive init callbacks).2 = .ok final)
        ↔ ConnectsInOrder false callbacks
          ∧ ∃ controller,
              (run PeripheralViewController.processDatagrams PeripheralViewController.init
                  (accepted none callbacks)).2
                = .ok controller)
      ∧ ∀ requests final,
          run receive init callbacks = (requests, .ok final)
          → run PeripheralViewController.processDatagrams PeripheralViewController.init
                (accepted none callbacks)
              = (requests.filterMap processingEffect, .ok final.controller) :=
  ⟨receive_completes_iff init callbacks, fun _ _ completed => run_accepted completed⟩

end PeripheralScreen

end AgriGuardian.BLE
