import AgriGuardian.Basis.Machine
import AgriGuardian.Accounts.DeviceOperations

/-! The device the dashboard opens on, over runs of the account's operations.
Removing a device leaves its id in `currentDevice`, and for an id that is stored but found
nowhere the choice falls through to the default device, also when the user has others.
-/

namespace AgriGuardian.Accounts

open Swift
open Basis
open Rides
open FirebaseManager

/-- An operation on the account. A document id is one that Firestore has drawn. -/
inductive AccountCall
  | createUser (email : String)
  | addToDevice (adder : Adder) (documentID : String) (device : Device)
  | setCurrDevice (devId : String)
  | removeFromDevice (devId : String)

/-- Why an operation is not a successful one. -/
inductive CallFailure
  | requestFailed
  | notOwned
  | idNotFresh
  | trapped (trap : Trap)
  deriving DecidableEq

/-- The requests of an operation, one after another. -/
def request (store : Store) (writes : List Write) : Outcome Store Write CallFailure :=
  match writes.foldlM Store.perform store with
  | some next => (writes, .ok next)
  | none => ([], .error .requestFailed)

/-- A successful operation of the user. -/
def callAccount (uid : String) : Handler Store AccountCall Write CallFailure
  | store, .createUser email => request store [createUser email uid]
  | store, .addToDevice adder documentID device =>
      if documentID = "" ∨ ((store .devices).find? documentID).isSome then
        ([], .error .idNotFresh)
      else
        match adder.deviceDocument uid documentID device with
        | .error trap => ([], .error (.trapped trap))
        | .ok document =>
            request store
              [.setData .devices documentID document, addToUserDevice uid documentID]
  | store, .setCurrDevice devId =>
      if store.Owns uid devId then request store [setCurrDevice uid devId]
      else ([], .error .notOwned)
  | store, .removeFromDevice devId =>
      if store.Owns uid devId then
        request store [removeFromDevice devId, removeFromUserDevice uid devId]
      else ([], .error .notOwned)

/-- The id in `currentDevice` after an operation. -/
def storedAfter (stored : String) : AccountCall → String
  | .createUser _ => ""
  | .setCurrDevice devId => devId
  | .addToDevice .. | .removeFromDevice _ => stored

def storedDevice (calls : List AccountCall) : String := calls.foldl storedAfter ""

/-- The device last set with `setCurrDevice`. -/
def lastSet (calls : List AccountCall) : Option String :=
  calls.foldl (fun last call => match call with
    | .setCurrDevice devId => some devId
    | _ => last) none

/-- The ids of the devices of the user, in the order of the query. -/
def ownedIDs (store : Store) (uid : String) : List String :=
  ((store .devices).select (Document.matchesField "uid" uid)).map Prod.fst

/-- The load chain returns the devices, and when there are any it chooses one of them, the
one last set if it still exists.
-/
def OpensRight (uid : String) (store : Store) (last : Option String) : Prop :=
  ∃ devices,
    getDevices store uid = .ok devices
    ∧ (devices ≠ []
      → ∃ chosen ∈ devices,
          MainTabBarController.chooseDevice store uid = .ok chosen
          ∧ ∀ devId, last = some devId
              → (∃ device ∈ devices, device.devId = devId)
              → chosen.devId = devId)

/-- The stored id, unless the user has no devices, is empty or of an existing device, and
it is that of the device last set, if this one exists. After creating the account anew the
stored id is empty; then the device last set may be the first one.
-/
def KeepsCurrent (owned : List String) (calls : List AccountCall) : Prop :=
  owned ≠ []
  → (storedDevice calls = "" ∨ storedDevice calls ∈ owned)
    ∧ ∀ devId ∈ owned, lastSet calls = some devId
        → storedDevice calls = devId
          ∨ storedDevice calls = "" ∧ owned.head? = some devId

-----------------------------------------------------------------------------------------
-- What each operation does
-----------------------------------------------------------------------------------------

/-- A document that `User(data:)` reads, with the stored id. -/
structure ReadsUser (stored : String) (document : Document) : Prop where
  firstName : ∃ text, document "firstName" = some (.string text)
  lastName : ∃ text, document "lastName" = some (.string text)
  phoneNumber : ∃ text, document "phoneNumber" = some (.string text)
  email : ∃ text, document "email" = some (.string text)
  currentDevice : document "currentDevice" = some (.string stored)

theorem ReadsUser.ofData {stored : String} {document : Document}
    (reads : ReadsUser stored document) (uid : String)
    : ∃ user, User.ofData uid document = .ok user ∧ user.currentDevice.devId = stored := by
  obtain ⟨⟨firstName, first⟩, ⟨lastName, last⟩, ⟨phoneNumber, phone⟩, ⟨email, mail⟩, current⟩ :=
    reads
  rw [User.ofData]
  simp only [field_asString_eq_ok.mpr first, field_asString_eq_ok.mpr last,
    field_asString_eq_ok.mpr phone, field_asString_eq_ok.mpr mail,
    field_asString_eq_ok.mpr current, ok_bind]
  exact ⟨_, rfl, rfl⟩

theorem readsUser_newUserDocument (email : String) : ReadsUser "" (newUserDocument email) :=
  ⟨⟨_, rfl⟩, ⟨_, rfl⟩, ⟨_, rfl⟩, ⟨_, rfl⟩, rfl⟩

theorem ReadsUser.update_devices {stored : String} {document : Document}
    (reads : ReadsUser stored document) (change : FieldUpdate)
    : ReadsUser stored (document.update "Devices" change) := by
  obtain ⟨first, last, phone, mail, current⟩ := reads
  exact ⟨first, last, phone, mail, current⟩

theorem ReadsUser.setCurrDevice {stored : String} {document : Document}
    (reads : ReadsUser stored document) (devId : String)
    : ReadsUser devId (document.update "currentDevice" (.set (.string devId))) := by
  obtain ⟨first, last, phone, mail, -⟩ := reads
  exact ⟨first, last, phone, mail, rfl⟩

/-- The load chain can read the store: the devices of the user decode under their ids, and
the user's document, which exists if there are devices, has the stored id.
-/
structure Loadable (uid stored : String) (store : Store) : Prop where
  devices
    : ∀ documentID document,
        (documentID, document) ∈ store .devices
        → document.matchesField "uid" uid = true
        → documentID ≠ ""
          ∧ ∃ device, Device.ofData document = .ok device ∧ device.devId = documentID
  account
    : ∀ documentID, store.Owns uid documentID → ((store .users).find? uid).isSome
  user
    : ∀ document, (store .users).find? uid = some document → ReadsUser stored document

theorem request_eq_ok {store next : Store} {writes performed : List Write}
    (requested : request store writes = (performed, .ok next))
    : writes.foldlM Store.perform store = some next := by
  rw [request] at requested
  cases served : writes.foldlM Store.perform store with
  | none => simp [served] at requested
  | some other =>
      rw [served] at requested
      exact congrArg some (Except.ok.inj (congrArg Prod.snd requested))

/-- Two requests that both succeed. -/
theorem request_pair_eq_ok {store next : Store} {first second : Write} {performed : List Write}
    (requested : request store [first, second] = (performed, .ok next))
    : ∃ middle, store.perform first = some middle ∧ middle.perform second = some next := by
  have served := request_eq_ok requested
  simpa [Option.bind_eq_some_iff] using served

/-- What an operation does to the store, with what it found there. -/
theorem callAccount_eq_ok {uid : String} {store next : Store} {input : AccountCall}
    {writes : List Write} (called : callAccount uid store input = (writes, .ok next))
    : match input with
      | .createUser email =>
          next = store.replace .users ((store .users).insert uid (newUserDocument email))
      | .addToDevice adder documentID device =>
          documentID ≠ ""
          ∧ ∃ document,
              adder.deviceDocument uid documentID device = .ok document
              ∧ (store.replace .devices ((store .devices).insert documentID document)).perform
                  (addToUserDevice uid documentID)
                = some next
      | .setCurrDevice devId =>
          store.Owns uid devId ∧ store.perform (setCurrDevice uid devId) = some next
      | .removeFromDevice devId =>
          (store.replace .devices ((store .devices).erase devId)).perform
              (removeFromUserDevice uid devId)
            = some next := by
  cases input with
  | createUser email =>
      simp only [callAccount] at called
      exact (Option.some.inj (request_eq_ok called)).symm
  | addToDevice adder documentID device =>
      obtain ⟨fresh, outcome⟩ := excluded_eq_ok called
      cases written : adder.deviceDocument uid documentID device with
      | error trap => simp [written] at outcome
      | ok document =>
          rw [written] at outcome
          obtain ⟨middle, first, second⟩ := request_pair_eq_ok outcome
          obtain rfl := Option.some.inj first
          exact ⟨fun empty => fresh (Or.inl empty), document, written, second⟩
  | setCurrDevice devId =>
      obtain ⟨owned, outcome⟩ := guarded_eq_ok called
      exact ⟨owned, by simpa using request_eq_ok outcome⟩
  | removeFromDevice devId =>
      obtain ⟨-, outcome⟩ := guarded_eq_ok called
      obtain ⟨middle, first, second⟩ := request_pair_eq_ok outcome
      obtain rfl := Option.some.inj first
      exact second

/-- The store stays loadable when the user's document becomes one that can be read. -/
theorem Loadable.replace_user {uid stored next : String} {store : Store}
    (loadable : Loadable uid stored store) {document : Document}
    (reads : ReadsUser next document)
    : Loadable uid next (store.replace .users ((store .users).insert uid document)) := by
  have devices
      : (store.replace .users ((store .users).insert uid document)) .devices = store .devices :=
    Store.replace_of_ne store (by decide) _
  refine ⟨?_, ?_, ?_⟩
  · rw [devices]
    exact loadable.devices
  · intro documentID _
    rw [Store.replace_self, Table.find?_insert, if_pos rfl]
    rfl
  · intro current read
    rw [Store.replace_self, Table.find?_insert, if_pos rfl] at read
    obtain rfl := Option.some.inj read
    exact reads

/-- A served update of the user's document keeps the store loadable. -/
theorem Loadable.update_user {uid stored next : String} {store after : Store}
    (loadable : Loadable uid stored store) {field : String} {change : FieldUpdate}
    (served : store.perform (.updateData .users uid field change) = some after)
    (reads
      : ∀ document, ReadsUser stored document → ReadsUser next (document.update field change))
    : Loadable uid next after := by
  obtain ⟨document, found, rfl⟩ := Store.perform_updateData served
  exact loadable.replace_user (reads document (loadable.user document found))

/-- The store stays loadable when the devices change and each one of the user decodes under
its id and was there, or the account exists.
-/
theorem Loadable.replace_devices {uid stored : String} {store : Store}
    (loadable : Loadable uid stored store) (documents : Table String Document)
    (decodes
      : ∀ documentID document,
          (documentID, document) ∈ documents
          → document.matchesField "uid" uid = true
          → documentID ≠ ""
            ∧ ∃ device, Device.ofData document = .ok device ∧ device.devId = documentID)
    (account
      : ∀ documentID,
          (store.replace .devices documents).Owns uid documentID
          → ((store .users).find? uid).isSome)
    : Loadable uid stored (store.replace .devices documents) := by
  have users : (store.replace .devices documents) .users = store .users :=
    Store.replace_of_ne store (by decide) _
  refine ⟨?_, ?_, ?_⟩
  · rw [Store.replace_self]
    exact decodes
  · rw [users]
    exact account
  · rw [users]
    exact loadable.user

/-- What `ProfilesViewController` adds is nobody's. -/
theorem ProfilesViewController.not_matches_uid {uid : String} (signedIn : uid ≠ "")
    (documentID : String) (device : Device)
    : (deviceDocument documentID device).matchesField "uid" uid ≠ true := by
  intro mine
  have owner : some (FirestoreValue.string currUID) = some (.string uid) :=
    Document.matchesField_iff.mp mine
  simp only [Option.some.injEq, FirestoreValue.string.injEq] at owner
  exact signedIn owner.symm

/-- The store stays loadable with the document of a device that has been added. Witness: only
that of `AddDeviceViewController` is the user's, and it can be read back.
-/
theorem Loadable.insert_device {uid stored : String} (signedIn : uid ≠ "") {store : Store}
    (loadable : Loadable uid stored store) (account : ((store .users).find? uid).isSome)
    {adder : Adder} {documentID : String} (nonempty : documentID ≠ "") {device : Device}
    {document : Document}
    (written : adder.deviceDocument uid documentID device = .ok document)
    : Loadable uid stored
        (store.replace .devices ((store .devices).insert documentID document)) := by
  refine loadable.replace_devices _ ?_ fun _ _ => account
  intro other content member mine
  cases Table.mem_insert.mp member with
  | inl here =>
      cases here
      cases adder with
      | addDeviceViewController =>
          exact ⟨nonempty, _, AddDeviceViewController.ofData_deviceDocument written, rfl⟩
      | profilesViewController =>
          obtain rfl := Except.ok.inj written
          exact absurd mine (ProfilesViewController.not_matches_uid signedIn documentID device)
  | inr before => exact loadable.devices other content before.1 mine

/-- An operation keeps the store loadable. Witness: the operations in turn. -/
theorem loadable_callAccount {uid stored : String} (signedIn : uid ≠ "") {store next : Store}
    (loadable : Loadable uid stored store) {input : AccountCall} {writes : List Write}
    (called : callAccount uid store input = (writes, .ok next))
    : Loadable uid (storedAfter stored input) next := by
  cases input with
  | createUser email =>
      obtain rfl : next = _ := callAccount_eq_ok called
      exact loadable.replace_user (readsUser_newUserDocument email)
  | addToDevice adder documentID device =>
      obtain ⟨nonempty, document, written, listed⟩ := callAccount_eq_ok called
      have account : ((store .users).find? uid).isSome := by
        obtain ⟨user, found, -⟩ := Store.perform_updateData listed
        rw [Store.replace_of_ne store (by decide)] at found
        exact Option.isSome_of_eq_some found
      have added := Loadable.insert_device signedIn loadable account nonempty written
      exact added.update_user listed fun document reads => reads.update_devices _
  | setCurrDevice devId =>
      have updated := (callAccount_eq_ok called).2
      exact loadable.update_user updated fun document reads => reads.setCurrDevice devId
  | removeFromDevice devId =>
      have unlisted := callAccount_eq_ok called
      have erased
          : Loadable uid stored
              (store.replace .devices ((store .devices).erase devId)) := by
        apply loadable.replace_devices
        · intro other content member mine
          exact loadable.devices other content (Table.mem_erase.mp member).1 mine
        · intro other owned
          exact loadable.account other (Store.owns_erase.mp owned).2
      exact erased.update_user unlisted fun document reads => reads.update_devices _

-----------------------------------------------------------------------------------------
-- What the load chain chooses
-----------------------------------------------------------------------------------------

/-- The query returns the devices of the user under their ids. -/
theorem Loadable.getDevices_eq_ok {uid stored : String} {store : Store}
    (loadable : Loadable uid stored store)
    : ∃ devices,
        getDevices store uid = .ok devices
        ∧ devices.map Device.devId = ownedIDs store uid := by
  obtain ⟨devices, returned, named⟩
      : ∃ devices,
          getDevices store uid = .ok devices
          ∧ List.Forall₂ (fun entry device => device.devId = entry.1)
              ((store .devices).select (Document.matchesField "uid" uid)) devices := by
    apply exists_mapM_eq_ok
    intro entry selected
    obtain ⟨member, owner⟩ := Table.mem_select.mp selected
    exact (loadable.devices entry.1 entry.2 member owner).2
  refine ⟨devices, returned, ?_⟩
  rw [ownedIDs]
  clear returned
  generalize (store .devices).select (Document.matchesField "uid" uid) = entries at named
  induction named with
  | nil => rfl
  | cons same _ ih => rw [List.map_cons, List.map_cons, same, ih]

theorem mem_ownedIDs_iff {store : Store} {uid documentID : String}
    : documentID ∈ ownedIDs store uid ↔ store.Owns uid documentID := by
  simp only [ownedIDs, Store.owns_iff, List.mem_map, Prod.exists, exists_and_right,
    exists_eq_right, Table.mem_select]

/-- The empty id is no device's. -/
theorem Loadable.empty_not_mem {uid stored : String} {store : Store}
    (loadable : Loadable uid stored store)
    : "" ∉ ownedIDs store uid := by
  intro member
  obtain ⟨document, here, owner⟩ := Store.owns_iff.mp (mem_ownedIDs_iff.mp member)
  exact (loadable.devices "" document here owner).1 rfl

/-- With devices, the chain chooses by the stored id. -/
theorem Loadable.chooseDevice_eq_ok {uid stored : String} {store : Store}
    (loadable : Loadable uid stored store) {devices : List Device}
    (returned : getDevices store uid = .ok devices) (some : ownedIDs store uid ≠ [])
    : MainTabBarController.chooseDevice store uid
      = .ok (MainTabBarController.loadCurrDev devices stored) := by
  obtain ⟨documentID, member⟩ := List.exists_mem_of_ne_nil _ some
  have account := loadable.account documentID (mem_ownedIDs_iff.mp member)
  obtain ⟨document, found⟩ := Option.isSome_iff_exists.mp account
  obtain ⟨user, read, named⟩ := (loadable.user document found).ofData uid
  have got : getUser store uid = .ok user := by rw [getUser, found, ← read]
  rw [MainTabBarController.chooseDevice, got, ok_bind, returned, ok_bind, named]

/-- When the chain opens on the right device. Witness: the cases of the choice. The default
device has the empty id, which is no device's.
-/
theorem Loadable.opensRight_iff {uid stored : String} {store : Store}
    (loadable : Loadable uid stored store) (last : Option String)
    : OpensRight uid store last
      ↔ (ownedIDs store uid ≠ []
        → (stored = "" ∨ stored ∈ ownedIDs store uid)
          ∧ ∀ devId ∈ ownedIDs store uid, last = some devId
              → stored = devId
                ∨ stored = "" ∧ (ownedIDs store uid).head? = some devId) := by
  obtain ⟨devices, returned, ids⟩ := loadable.getDevices_eq_ok
  have noDevice := loadable.empty_not_mem
  have chooses := @Loadable.chooseDevice_eq_ok _ _ _ loadable _ returned
  rw [← ids] at noDevice chooses ⊢
  have mapped (devId : String)
      : devId ∈ devices.map Device.devId ↔ ∃ device ∈ devices, device.devId = devId :=
    List.mem_map
  have choice := MainTabBarController.loadCurrDev_cases devices stored
  constructor
  · intro ⟨devices', returned', opens⟩ some
    obtain rfl := Except.ok.inj (returned'.symm.trans returned)
    obtain ⟨chosen, member, chose, kept⟩ := opens (by simpa using some)
    obtain rfl := Except.ok.inj ((chooses some).symm.trans chose)
    cases choice with
    | inl found =>
        obtain ⟨-, named, first⟩ := found
        cases eq_or_ne stored "" with
        | inl empty =>
            refine ⟨Or.inl empty, fun devId owned wasLast => Or.inr ⟨empty, ?_⟩⟩
            have same := kept devId wasLast ((mapped devId).mp owned)
            rw [List.head?_map, first empty, Option.map_some, same]
        | inr nonempty =>
            have same := named nonempty
            refine ⟨Or.inr ((mapped stored).mpr ⟨_, member, same⟩), ?_⟩
            intro devId owned wasLast
            exact Or.inl (same.symm.trans (kept devId wasLast ((mapped devId).mp owned)))
    | inr default =>
        rw [default.1] at member
        exact absurd ((mapped "").mpr ⟨_, member, rfl⟩) noDevice
  · intro keeps
    refine ⟨devices, returned, fun nonempty => ?_⟩
    have some : devices.map Device.devId ≠ [] := by simpa using nonempty
    obtain ⟨known, kept⟩ := keeps some
    cases choice with
    | inl found =>
        obtain ⟨member, named, first⟩ := found
        refine ⟨_, member, chooses some, fun devId wasLast stillThere => ?_⟩
        have owned := (mapped devId).mpr stillThere
        cases kept devId owned wasLast with
        | inl same =>
            rw [← same]
            exact named fun empty => noDevice (empty ▸ same ▸ owned)
        | inr leading =>
            obtain ⟨empty, head⟩ := leading
            rw [List.head?_map, first empty, Option.map_some] at head
            exact Option.some.inj head
    | inr default =>
        obtain ⟨-, missing⟩ := default
        split at missing
        · exact absurd missing nonempty
        · rename_i stored'
          obtain ⟨device, member, same⟩ := (mapped stored).mp (known.resolve_left stored')
          exact absurd same (missing device member)

-----------------------------------------------------------------------------------------
-- Runs from a new account
-----------------------------------------------------------------------------------------

/-- Nothing is stored for the user. -/
def NewAccount (uid : String) (store : Store) : Prop :=
  (store .users).find? uid = none ∧ ∀ documentID, ¬ store.Owns uid documentID

theorem NewAccount.loadable {uid : String} {store : Store} (new : NewAccount uid store)
    : Loadable uid "" store := by
  obtain ⟨noUser, noDevices⟩ := new
  refine ⟨?_, ?_, ?_⟩
  · intro documentID document member owner
    exact absurd (Store.owns_iff.mpr ⟨document, member, owner⟩) (noDevices documentID)
  · intro documentID owned
    exact absurd owned (noDevices documentID)
  · intro document found
    rw [noUser] at found
    cases found

/-- The store stays loadable along a run, with the id that the calls so far leave stored. -/
theorem loadable_run {uid : String} (signedIn : uid ≠ "") {store final : Store}
    (new : NewAccount uid store) {calls : List AccountCall}
    (completed : (run (callAccount uid) store calls).2 = .ok final)
    : Loadable uid (storedDevice calls) final := by
  apply run_history_invariant (fun before current => Loadable uid (storedDevice before) current)
    _ new.loadable completed
  intro before current input writes next loadable called
  have after := loadable_callAccount signedIn loadable called
  rwa [storedDevice, List.foldl_append]

/-- After any run of successful operations, the dashboard opens on the right device exactly
when the stored id is still good.
-/
theorem opensRight_run_iff {uid : String} (signedIn : uid ≠ "") {store final : Store}
    (new : NewAccount uid store) {calls : List AccountCall}
    (completed : (run (callAccount uid) store calls).2 = .ok final)
    : OpensRight uid final (lastSet calls) ↔ KeepsCurrent (ownedIDs final uid) calls :=
  (loadable_run signedIn new completed).opensRight_iff (lastSet calls)

theorem newAccount_empty (uid : String) : NewAccount uid fun _ => Table.empty :=
  ⟨rfl, fun _ => by simp [Store.Owns, Table.find?, Table.empty]⟩

/-- A first device, set as the current one. -/
def firstDevice : List AccountCall := [
  .createUser "a@b.c",
  .addToDevice .addDeviceViewController "d1" Device.init,
  .setCurrDevice "d1"]

theorem opensRight_run_iff_firstDevice
    : ∃ final,
        (run (callAccount "u1") (fun _ => Table.empty) firstDevice).2 = .ok final
        ∧ (OpensRight "u1" final (lastSet firstDevice)
          ↔ KeepsCurrent (ownedIDs final "u1") firstDevice) :=
  ⟨_, rfl, opensRight_run_iff (by decide) (newAccount_empty "u1") rfl⟩

/-- The current of two devices is removed. -/
def removedCurrent : List AccountCall := [
  .createUser "a@b.c",
  .addToDevice .addDeviceViewController "d1" Device.init,
  .addToDevice .addDeviceViewController "d2" Device.init,
  .setCurrDevice "d1",
  .removeFromDevice "d1"]

/-- The dashboard then opens on neither: the stored id is still that of the removed one. -/
theorem removedCurrent_opens_wrong
    : ¬ ∀ (uid : String) (store final : Store) (calls : List AccountCall),
        uid ≠ ""
        → NewAccount uid store
        → (run (callAccount uid) store calls).2 = .ok final
        → OpensRight uid final (lastSet calls) := by
  intro claim
  obtain ⟨final, completed, owned⟩
      : ∃ final,
          (run (callAccount "u1") (fun _ => Table.empty) removedCurrent).2 = .ok final
          ∧ ownedIDs final "u1" = ["d2"] :=
    ⟨_, rfl, rfl⟩
  have new := newAccount_empty "u1"
  have opens := claim "u1" _ final removedCurrent (by decide) new completed
  have loadable := loadable_run (by decide) new completed
  have keeps := (loadable.opensRight_iff _).mp opens (by simp [owned])
  rw [owned] at keeps
  exact absurd keeps.1 (by decide)

end AgriGuardian.Accounts
