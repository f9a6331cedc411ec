import AgriGuardian.BLE.PeripheralScreen

/-! The reads that the peripheral screen has outstanding.
The app never subscribes to a characteristic, so a value arrives only as the answer to a
read. Discovering a readable characteristic starts a chain of reads: a part of a message
asks for the next value, and any other value ends the chain.
-/

namespace AgriGuardian.BLE

open Swift
open Basis

/-- The screen, and for each characteristic the number of reads not yet answered. -/
structure ReadLink where
  screen : PeripheralScreen
  outstanding : CBUUID → ℕ

/-- A value that no read asked for does not arrive. -/
inductive LinkFailure
  | notRequested
  | trapped (trap : Trap)
  deriving DecidableEq, Repr

/-- The request is a read of the characteristic. -/
def DelegateRequest.reads (uuid : CBUUID) : DelegateRequest → Bool
  | .readValue _ characteristic => characteristic = uuid
  | .processing _ characteristic .readValue => characteristic = uuid
  | _ => false

/-- The value is a part of a message, after which the next one is requested. -/
def continuesReading : Option Data → Bool
  | some charVal =>
      match Datagram.decode charVal with
      | .ok (some datagram) => datagram.header.key == 0
      | _ => false
  | none => false

namespace ReadLink

open PeripheralScreen

def init : ReadLink := ⟨PeripheralScreen.init, fun _ => 0⟩

/-- The reads outstanding once a callback has answered one. -/
def answered (outstanding : CBUUID → ℕ) : DelegateCallback → CBUUID → ℕ
  | .didUpdateValueFor _ characteristic =>
      Function.update outstanding characteristic.uuid (outstanding characteristic.uuid - 1)
  | _ => outstanding

/-- The callback brings a value that was asked for, or none. -/
def Requested (outstanding : CBUUID → ℕ) : DelegateCallback → Prop
  | .didUpdateValueFor _ characteristic => 0 < outstanding characteristic.uuid
  | _ => True

instance (outstanding : CBUUID → ℕ)
    : (callback : DelegateCallback) → Decidable (Requested outstanding callback)
  | .didUpdateValueFor .. => inferInstanceAs (Decidable (0 < _))
  | .centralManagerDidUpdateState _ | .didDiscover _ | .didConnect _ | .didDiscoverServices ..
  | .didDiscoverCharacteristicsFor .. => inferInstanceAs (Decidable True)

/-- A callback of Core Bluetooth, and the requests that it makes the screen send. -/
def deliver : Handler ReadLink DelegateCallback DelegateRequest LinkFailure :=
  fun link callback =>
    if Requested link.outstanding callback then
      match link.screen.receive callback with
      | (requests, .error trap) => (requests, .error (.trapped trap))
      | (requests, .ok screen) =>
          (requests,
            .ok ⟨screen, fun uuid =>
              answered link.outstanding callback uuid
                + requests.countP (DelegateRequest.reads uuid)⟩)
    else ([], .error .notRequested)

/-- The chains of reads of the characteristic that a callback starts. -/
def startsBy (uuid : CBUUID) : DelegateCallback → ℕ
  | .didDiscoverCharacteristicsFor _ characteristics =>
      (characteristics.getD []).countP fun characteristic =>
        characteristic.readable && characteristic.uuid == uuid
  | _ => 0

/-- The chains of reads of the characteristic that a callback continues: one if it brings a
part of a message that is processed.
-/
def continuesBy (uuid : CBUUID) (current : Option CBUUID) : DelegateCallback → ℕ
  | .didUpdateValueFor _ characteristic =>
      if characteristic.uuid = uuid
          ∧ current = some uuid ∧ continuesReading characteristic.value = true then 1
      else 0
  | _ => 0

/-- The chains of reads of the characteristic that a callback ends: one if it brings a value
of it that is not processed or is no part of a message.
-/
def endsBy (uuid : CBUUID) (current : Option CBUUID) : DelegateCallback → ℕ
  | .didUpdateValueFor _ characteristic =>
      if characteristic.uuid = uuid
          ∧ ¬ (current = some uuid ∧ continuesReading characteristic.value = true) then 1
      else 0
  | _ => 0

/-- The chains of reads of the characteristic started by the callbacks. -/
def started (uuid : CBUUID) : List DelegateCallback → ℕ
  | [] => 0
  | callback :: rest => startsBy uuid callback + started uuid rest

/-- The chains of reads of the characteristic ended by the callbacks. -/
def ended (uuid : CBUUID) (current : Option CBUUID) : List DelegateCallback → ℕ
  | [] => 0
  | callback :: rest =>
      endsBy uuid current callback + ended uuid (currentAfter current callback) rest

-----------------------------------------------------------------------------------------
-- One callback
-----------------------------------------------------------------------------------------

/-- Processing a value requests the next one exactly when the value is a part. -/
theorem count_readValue_processDatagrams {controller next : PeripheralViewController}
    {value : Option Data} {effects : List PeripheralEffect}
    (called : controller.processDatagrams value = (effects, .ok next))
    : effects.count .readValue = if continuesReading value = true then 1 else 0 := by
  cases value with
  | none => cases called
  | some charVal =>
      cases decoded : Datagram.decode charVal with
      | error trap => simp [PeripheralViewController.processDatagrams, decoded] at called
      | ok result =>
          cases result with
          | none =>
              obtain ⟨rfl, -⟩ : [.printError] = effects ∧ controller = next := by
                simpa [PeripheralViewController.processDatagrams, decoded] using called
              simp [continuesReading, decoded]
          | some datagram =>
              by_cases part : datagram.header.key = 0
              · obtain ⟨rfl, -⟩
                    : [.readValue] = effects
                      ∧ ⟨controller.datagrams ++ [datagram]⟩ = next := by
                  simpa [PeripheralViewController.processDatagrams, decoded, part] using called
                simp [continuesReading, decoded, part]
              · cases rebuilt : PeripheralViewController.reconstruct controller.datagrams with
                | error trap =>
                    simp [PeripheralViewController.processDatagrams, decoded, part, rebuilt]
                      at called
                | ok reconstructed =>
                    cases reconstructed with
                    | none =>
                        simp [PeripheralViewController.processDatagrams, decoded, part, rebuilt]
                          at called
                    | some message =>
                        obtain ⟨rfl, -⟩
                            : [.writeValue PeripheralViewController.ack,
                                .printMessage message.data] = effects
                              ∧ controller = next := by
                          simpa [PeripheralViewController.processDatagrams, decoded, part,
                            rebuilt] using called
                        simp [continuesReading, decoded, part]

theorem countP_processing (peripheral : CBPeripheral) (characteristic uuid : CBUUID)
    (effects : List PeripheralEffect)
    : (effects.map (.processing peripheral characteristic)).countP (DelegateRequest.reads uuid)
      = if characteristic = uuid then effects.count .readValue else 0 := by
  rw [List.countP_map]
  split
  · rename_i same
    exact List.countP_congr fun effect _ => by
      cases effect <;> simp [DelegateRequest.reads, same]
  · rename_i different
    exact List.countP_eq_zero.mpr fun effect _ => by
      cases effect <;> simp [DelegateRequest.reads, different]

/-- The reads that a returning callback requests. -/
theorem countP_reads {screen next : PeripheralScreen} {callback : DelegateCallback}
    {requests : List DelegateRequest} (called : screen.receive callback = (requests, .ok next))
    (uuid : CBUUID)
    : requests.countP (DelegateRequest.reads uuid)
      = startsBy uuid callback + continuesBy uuid screen.tempCharacteristic callback := by
  cases callback with
  | centralManagerDidUpdateState state =>
      cases state with
      | later => cases called
      | unknown | resetting | unsupported | unauthorized | poweredOff | poweredOn =>
          obtain ⟨rfl, -⟩ := Prod.mk.inj called
          rfl
  | didDiscover peripheral =>
      obtain ⟨rfl, -⟩ := Prod.mk.inj called
      rfl
  | didConnect peripheral =>
      cases found : screen.raspberryPiPeripheral with
      | none => simp [receive, found] at called
      | some raspberryPiPeripheral =>
          obtain ⟨rfl, -⟩ := Prod.mk.inj (by simpa [receive, found] using called)
          rfl
  | didDiscoverServices peripheral services =>
      obtain ⟨rfl, -⟩ := Prod.mk.inj called
      rw [List.countP_map]
      exact List.countP_eq_zero.mpr fun _ _ => Bool.false_ne_true
  | didDiscoverCharacteristicsFor peripheral characteristics =>
      obtain ⟨rfl, -⟩ := Prod.mk.inj called
      rw [List.countP_map, List.countP_filter]
      exact List.countP_congr fun characteristic _ => by
        simp [DelegateRequest.reads, and_comm]
  | didUpdateValueFor peripheral characteristic =>
      by_cases current : screen.tempCharacteristic = some characteristic.uuid
      · rw [receive, if_pos current] at called
        obtain ⟨rfl, outcome⟩ := Prod.mk.inj called
        have counted := countP_processing peripheral characteristic.uuid uuid
          (screen.controller.processDatagrams characteristic.value).1
        cases processed : screen.controller.processDatagrams characteristic.value with
        | mk effects result =>
            cases result with
            | error trap => simp [processed, Except.map] at outcome
            | ok controller =>
                rw [processed, count_readValue_processDatagrams processed] at counted
                rw [counted, current]
                by_cases same : characteristic.uuid = uuid
                · simp [startsBy, continuesBy, same]
                · simp [startsBy, continuesBy, same]
      · rw [receive, if_neg current] at called
        obtain ⟨rfl, -⟩ := Prod.mk.inj called
        have notContinued : continuesBy uuid screen.tempCharacteristic
            (.didUpdateValueFor peripheral characteristic) = 0 := by
          apply if_neg
          rintro ⟨same, processed, -⟩
          exact current (same ▸ processed)
        rw [notContinued]
        rfl

/-- A value continues or ends the chain that had asked for it. -/
theorem answered_add {outstanding : CBUUID → ℕ} {callback : DelegateCallback}
    (requested : Requested outstanding callback) (uuid : CBUUID) (current : Option CBUUID)
    : answered outstanding callback uuid
        + (continuesBy uuid current callback + endsBy uuid current callback)
      = outstanding uuid := by
  cases callback with
  | centralManagerDidUpdateState | didDiscover | didConnect | didDiscoverServices
  | didDiscoverCharacteristicsFor => rfl
  | didUpdateValueFor peripheral characteristic =>
      have positive : 0 < outstanding characteristic.uuid := requested
      by_cases same : characteristic.uuid = uuid
      · subst same
        have one
            : continuesBy characteristic.uuid current
                  (.didUpdateValueFor peripheral characteristic)
                + endsBy characteristic.uuid current
                  (.didUpdateValueFor peripheral characteristic)
              = 1 := by
          by_cases continued
              : current = some characteristic.uuid ∧ continuesReading characteristic.value = true
          · simp [continuesBy, endsBy, continued]
          · simp [continuesBy, endsBy, continued]
        rw [one, answered, Function.update_self]
        omega
      · simp [answered, continuesBy, endsBy, same, Function.update_of_ne (Ne.symm same)]

/-- What a callback does to the reads outstanding. -/
theorem deliver_eq_ok {link next : ReadLink} {callback : DelegateCallback}
    {requests : List DelegateRequest} (delivered : link.deliver callback = (requests, .ok next))
    : link.screen.receive callback = (requests, .ok next.screen)
      ∧ ∀ uuid,
          next.outstanding uuid + endsBy uuid link.screen.tempCharacteristic callback
            = link.outstanding uuid + startsBy uuid callback := by
  obtain ⟨requested, outcome⟩ := guarded_eq_ok delivered
  rcases called : link.screen.receive callback with ⟨sent, trap | screen⟩
  · simp [called] at outcome
  · rw [called] at outcome
    obtain ⟨rfl, same⟩ := Prod.mk.inj outcome
    obtain rfl := Except.ok.inj same
    refine ⟨rfl, fun uuid => ?_⟩
    have counted := countP_reads called uuid
    have balanced := answered_add requested uuid link.screen.tempCharacteristic
    simp only [counted]
    omega

/-- Whatever the order of the callbacks, the reads outstanding for a characteristic are the
chains started by discoveries of it less those ended by its values. Witness: induction on
the callbacks.
-/
theorem outstanding_add_ended {link final : ReadLink} {callbacks : List DelegateCallback}
    {requests : List DelegateRequest}
    (completed : run deliver link callbacks = (requests, .ok final)) (uuid : CBUUID)
    : final.outstanding uuid + ended uuid link.screen.tempCharacteristic callbacks
      = link.outstanding uuid + started uuid callbacks := by
  induction callbacks generalizing link requests with
  | nil =>
      obtain ⟨-, rfl⟩ : [] = requests ∧ link = final := by simpa using completed
      rfl
  | cons callback rest ih =>
      rcases called : link.deliver callback with ⟨sent, failure | next⟩
      · simp [run_cons_error called] at completed
      · rw [run_cons_ok called] at completed
        obtain ⟨received, balanced⟩ := deliver_eq_ok called
        have current := (receive_connection (congrArg Prod.snd received)).2
        have later := ih (Prod.ext rfl (Prod.mk.inj completed).2)
        rw [current] at later
        have here := balanced uuid
        simp only [ended, started]
        omega

/-- The link adds nothing to the screen but the count of its reads. -/
theorem run_receive {link final : ReadLink} {callbacks : List DelegateCallback}
    {requests : List DelegateRequest}
    (completed : run deliver link callbacks = (requests, .ok final))
    : run receive link.screen callbacks = (requests, .ok final.screen) := by
  induction callbacks generalizing link requests with
  | nil =>
      obtain ⟨rfl, rfl⟩ : [] = requests ∧ link = final := by simpa using completed
      rfl
  | cons callback rest ih =>
      rcases called : link.deliver callback with ⟨sent, failure | next⟩
      · simp [run_cons_error called] at completed
      · rw [run_cons_ok called] at completed
        obtain ⟨rfl, restOk⟩ := Prod.mk.inj completed
        rw [run_cons_ok (deliver_eq_ok called).1, ih (Prod.ext rfl restOk)]

/-- In every run in which values answer reads, in any order of the callbacks, the reads
outstanding for a characteristic are the discoveries of it as readable, less the values of
it that ended a chain. So one discovery never has more than one read outstanding, and after
the end of a transfer it has none.
-/
theorem reads_outstanding {callbacks : List DelegateCallback} {requests : List DelegateRequest}
    {final : ReadLink} (completed : run deliver init callbacks = (requests, .ok final))
    : run receive PeripheralScreen.init callbacks = (requests, .ok final.screen)
      ∧ ∀ uuid,
          final.outstanding uuid + ended uuid none callbacks = started uuid callbacks := by
  refine ⟨run_receive completed, fun uuid => ?_⟩
  exact (outstanding_add_ended completed uuid).trans (Nat.zero_add _)

/-- One part and an end of transfer, after the discovery of two characteristics. The one that
is not the last is read once, and its value ends its chain.
-/
private def twoDiscovered : List DelegateCallback := [
  .didDiscoverCharacteristicsFor ⟨"pi"⟩ (some [⟨"a", true, none⟩, ⟨"b", true, none⟩]),
  .didUpdateValueFor ⟨"pi"⟩ ⟨"b", true, some (Data.ofBytes [0, 0, 0, 0, 0, 1, 0, 0, 0, 65])⟩,
  .didUpdateValueFor ⟨"pi"⟩ ⟨"a", true, some (Data.ofBytes [0, 0, 0, 0, 0, 1, 0, 0, 0, 66])⟩,
  .didUpdateValueFor ⟨"pi"⟩ ⟨"b", true, some (Data.ofBytes [6, 0, 0, 0, 0, 1, 0, 0, 0, 0])⟩]

theorem reads_outstanding_two_discovered
    : ∃ requests final,
        run deliver init twoDiscovered = (requests, .ok final)
        ∧ run receive PeripheralScreen.init twoDiscovered = (requests, .ok final.screen)
        ∧ ∀ uuid,
            final.outstanding uuid + ended uuid none twoDiscovered
              = started uuid twoDiscovered :=
  ⟨_, _, rfl, reads_outstanding rfl⟩

end ReadLink

end AgriGuardian.BLE
