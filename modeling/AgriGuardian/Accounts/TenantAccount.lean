import Mathlib.Data.List.Find
import AgriGuardian.Accounts.Tenants

/-! The account of one user, as a machine of its own.
It has the id of the current device and the devices themselves, and knows of no documents and of
no other users. What a user is answered and what its dashboard opens on come from this machine
alone, run on the user's own requests.
-/

namespace AgriGuardian.Accounts

open Swift
open Basis
open Rides
open FirebaseManager

-----------------------------------------------------------------------------------------
-- The machine
-----------------------------------------------------------------------------------------

/-- The id of the current device, once there is an account, and the devices under their ids. -/
structure Account where
  current : Option String
  devices : Table String Device
  named
    : ∀ documentID device, (documentID, device) ∈ devices
        → device.devId = documentID ∧ documentID ≠ ""

namespace Account

def new : Account where
  current := none
  devices := Table.empty
  named := by
    intro documentID device member
    exact absurd member Table.not_mem_empty

def add (account : Account) (documentID : DocumentID) (device : Device)
    (named : device.devId = documentID)
    : Account where
  current := account.current
  devices := account.devices.insert documentID device
  named := by
    intro other added member
    rcases Table.mem_insert.mp member with here | before
    · cases here
      exact ⟨named, documentID.2⟩
    · exact account.named other added before.1

def remove (account : Account) (devId : String) : Account where
  current := account.current
  devices := account.devices.erase devId
  named := by
    intro other device member
    exact account.named other device (Table.mem_erase.mp member).1

/-- The outputs are whether the request takes effect. A device with an impossible centre is not
sent, and one of `ProfilesViewController` is nobody's.
-/
def handle (uid : String) : Handler Account TenantRequest Bool Empty
  | account, .createUser _ => ([true], .ok { account with current := some "" })
  | account, .setDevice .addDeviceViewController documentID device =>
      if ValidCoordinate device.gfCenter.coordinate then
        ([true], .ok (account.add documentID (device.stored uid documentID) rfl))
      else ([], .ok account)
  | account, .setDevice .profilesViewController _ _ => ([true], .ok account)
  | account, .addToUserDevice _ | account, .removeFromUserDevice _ =>
      ([account.current.isSome], .ok account)
  | account, .setCurrDevice devId =>
      ([account.current.isSome],
        .ok { account with current := account.current.map fun _ => devId })
  | account, .removeFromDevice devId => ([true], .ok (account.remove devId))

/-- The device of the id, or the default one. Without an id it is the first. -/
def choose (account : Account) (devId : String) : Device :=
  if devId = "" then (account.devices.entries.head?.map Prod.snd).getD Device.init
  else (account.devices.find? devId).getD Device.init

/-- The device of the current id. Without an account there is none. -/
def opened (account : Account) : Option Device := account.current.map account.choose

-----------------------------------------------------------------------------------------
-- The account in a store
-----------------------------------------------------------------------------------------

/-- The store has the account of the user: the user's document and those of the user's devices
can be read, and tell what the account has.
-/
structure Stored (uid : String) (store : Store) (account : Account) : Prop where
  user
    : Option.Rel (fun document devId => ReadsUser devId document) ((store .users).find? uid)
        account.current
  devices
    : Table.Related (fun document device => Device.ofData document = .ok device)
        ((store .devices).filter (Document.matchesField "uid" uid)) account.devices

variable {uid : String} {store : Store} {account : Account}

/-- The first device with an id is the one under it. -/
theorem find?_devId (account : Account) (devId : String)
    : (account.devices.entries.map Prod.snd).find? (fun dev => devId == dev.devId)
      = account.devices.find? devId := by
  rw [List.find?_map, Table.find?]
  congr 1
  apply List.find?_congr
  intro entry member
  have named := (account.named entry.1 entry.2 member).1
  rw [Function.comp_apply, named, Bool.eq_iff_iff, beq_iff_eq, decide_eq_true_iff]
  exact eq_comm

theorem loadCurrDev_eq (account : Account) (devId : String)
    : MainTabBarController.loadCurrDev (account.devices.entries.map Prod.snd) devId
      = account.choose devId := by
  rw [MainTabBarController.loadCurrDev, account.find?_devId, List.head?_map, ite_not, choose]

namespace Stored

/-- The query returns the devices of the account. -/
theorem getDevices_eq (stored : Stored uid store account)
    : getDevices store uid = .ok (account.devices.entries.map Prod.snd) := by
  refine mapM_eq_ok_iff.mpr ?_
  rw [List.forall₂_map_right_iff]
  exact stored.devices.entries.imp fun _ _ related => related.2

/-- The dashboard opens on the device of the account, and only without an account it traps. -/
theorem chooseDevice_eq (stored : Stored uid store account)
    : MainTabBarController.chooseDevice store uid
      = match account.opened with
        | some device => .ok device
        | none => .error .unexpectedNil := by
  have user := stored.user
  rw [MainTabBarController.chooseDevice, stored.getDevices_eq, getUser, opened]
  generalize (store .users).find? uid = found, account.current = current at user
  cases user with
  | none => rfl
  | some reads =>
      obtain ⟨user, read, named⟩ := reads.ofData uid
      simp only [read, ok_bind, named, Option.map_some, loadCurrDev_eq]

/-- A store that looks the same has the same account. -/
theorem of_looksSame {other : Store} (stored : Stored uid store account)
    (looks : other.LooksSame uid store)
    : Stored uid other account where
  user := by
    rw [looks.user]
    exact stored.user
  devices := by
    have same
        : (other .devices).filter (Document.matchesField "uid" uid)
          = (store .devices).filter (Document.matchesField "uid" uid) := by
      ext entry
      rw [Table.mem_filter, Table.mem_filter]
      apply and_congr_left
      intro mine
      rw [← Table.find?_eq_some_iff, ← Table.find?_eq_some_iff]
      exact looks.devices entry.1 entry.2 mine
    rw [same]
    exact stored.devices

/-- A write to the user's document. -/
theorem serve_user (stored : Stored uid store account) {write : Write}
    (users : write.collection = .users) (mine : write.documentID = uid) {current : Option String}
    (reads
      : Option.Rel (fun document devId => ReadsUser devId document)
          (write.result ((store .users).find? uid)) current)
    : Stored uid (store.serve write) { account with current := current } where
  user := by
    have found := store.find?_serve write uid
    rw [mine, if_pos rfl, users] at found
    rw [found]
    exact reads
  devices := by
    rw [store.serve_frame (by simp [users])]
    exact stored.devices

/-- An update of the user's document takes effect if there is an account. -/
theorem isSome_update (stored : Stored uid store account) (field : String)
    (change : FieldUpdate)
    : (store.perform (.updateData .users uid field change)).isSome = account.current.isSome := by
  have user := stored.user
  rw [Store.isSome_perform, Write.collection, Write.documentID, Write.takesEffect]
  generalize (store .users).find? uid = found, account.current = current at user
  cases user with
  | none => rfl
  | some reads => rfl

/-- The user's document after an update can still be read. -/
theorem update (stored : Stored uid store account) {field : String} {change : FieldUpdate}
    {next : String → String}
    (reads
      : ∀ devId document, ReadsUser devId document
          → ReadsUser (next devId) (document.update field change))
    : Stored uid (store.serve (.updateData .users uid field change))
        { account with current := account.current.map next } := by
  apply stored.serve_user rfl rfl
  have user := stored.user
  rw [Write.result]
  generalize (store .users).find? uid = found, account.current = current at user
  cases user with
  | none => exact .none
  | some holds => exact .some (reads _ _ holds)

/-- A new account has no current device, and the devices of the user before. -/
theorem createUser (stored : Stored uid store account) (email : String)
    : Stored uid (store.serve (FirebaseManager.createUser email uid))
        { account with current := some "" } := by
  have reads
      : Option.Rel (fun document devId => ReadsUser devId document) (some (newUserDocument email))
          (some "") :=
    .some (readsUser_newUserDocument email)
  exact stored.serve_user rfl rfl reads

theorem update_devices (stored : Stored uid store account) (change : FieldUpdate)
    : Stored uid (store.serve (.updateData .users uid "Devices" change)) account := by
  have updated := @stored.update _ _ _ "Devices" change id fun devId document reads =>
    reads.update_devices change
  rwa [Option.map_id] at updated

theorem setCurrDevice (stored : Stored uid store account) (devId : String)
    : Stored uid (store.serve (FirebaseManager.setCurrDevice uid devId))
        { account with current := account.current.map fun _ => devId } :=
  stored.update fun _ _ reads => reads.setCurrDevice devId

/-- A write to a device leaves the user's document alone. -/
theorem serve_device (stored : Stored uid store account) {write : Write}
    (collection : write.collection = .devices) {after : Account}
    (current : after.current = account.current)
    (devices
      : Table.Related (fun document device => Device.ofData document = .ok device)
          ((store.serve write .devices).filter (Document.matchesField "uid" uid)) after.devices)
    : Stored uid (store.serve write) after where
  user := by
    rw [store.serve_frame (by simp [collection]), current]
    exact stored.user
  devices := devices

theorem setDevice (stored : Stored uid store account) {documentID : DocumentID} {device : Device}
    {document : Document}
    (written : AddDeviceViewController.deviceDocument uid documentID device = .ok document)
    : Stored uid (store.serve (.setData .devices documentID document))
        (account.add documentID (device.stored uid documentID) rfl) := by
  refine stored.serve_device rfl rfl ?_
  rw [store.serve_setData,
    Table.filter_insert_of_pos _ _ (AddDeviceViewController.matches_uid written)]
  exact stored.devices.insert documentID.1 (AddDeviceViewController.ofData_deviceDocument written)

/-- What `ProfilesViewController` sets under a free id is no device of the user. -/
theorem setNobodys (signedIn : uid ≠ "") (stored : Stored uid store account)
    {documentID : String}
    (free
      : ((store .devices).filter (Document.matchesField "uid" uid)).find? documentID = none)
    (device : Device)
    : Stored uid
        (store.serve (.setData .devices documentID
          (ProfilesViewController.deviceDocument documentID device)))
        account := by
  refine stored.serve_device rfl rfl ?_
  rw [store.serve_setData, Table.filter_insert_of_neg _ _
    (ProfilesViewController.not_matches_uid signedIn documentID device),
    Table.erase_of_find?_eq_none free]
  exact stored.devices

theorem removeFromDevice (stored : Stored uid store account) (devId : String)
    : Stored uid (store.serve (Accounts.removeFromDevice devId)) (account.remove devId) := by
  refine stored.serve_device rfl rfl ?_
  rw [Accounts.removeFromDevice, store.serve_delete, Table.filter_erase]
  exact stored.devices.erase devId

end Stored

-----------------------------------------------------------------------------------------
-- The store refines the account
-----------------------------------------------------------------------------------------

variable {backend next : Backend} {request : TenantRequest} {answers : List (String × Bool)}

/-- Nothing of the user is stored under a free id. -/
theorem find?_of_free (records : backend.Records uid) {documentID : String}
    (free : backend.drawnFor documentID = none)
    : ((backend.store .devices).filter (Document.matchesField "uid" uid)).find? documentID
      = none := by
  rw [Table.find?_filter, Option.eq_none_iff_forall_ne_some]
  intro document found
  obtain ⟨there, mine⟩ := Option.filter_eq_some_iff.mp found
  have drawn := records documentID document there mine
  rw [free] at drawn
  cases drawn

/-- The user's own request does in the store what it does in the account. Witness: the requests
in turn. The id of a device of nobody is fresh, so that it was none of the user's.
-/
theorem Stored.of_own (signedIn : uid ≠ "") (stored : Stored uid backend.store account)
    (records : backend.Records uid)
    (handled : backend.handle (uid, request) = (answers, .ok next))
    : ∃ after,
        account.handle uid request = (answers.map Prod.snd, .ok after)
        ∧ Stored uid next.store after := by
  obtain ⟨sent, ⟨trap, built, rfl, rfl⟩ | ⟨write, built, rfl, rfl⟩⟩ :=
    Backend.handle_eq_ok handled
  · cases request with
    | createUser | addToUserDevice | setCurrDevice | removeFromDevice | removeFromUserDevice =>
        cases built
    | setDevice adder documentID device =>
        cases adder with
        | profilesViewController => cases built
        | addDeviceViewController =>
            by_cases possible : ValidCoordinate device.gfCenter.coordinate
            · obtain ⟨document, written⟩ :=
                AddDeviceViewController.exists_deviceDocument_iff.mpr possible
              obtain failed | ⟨other, -, sent⟩ := bind_eq_error.mp built
              · cases written.symm.trans failed
              · cases sent
            · exact ⟨account, if_neg possible, stored⟩
  · cases request with
    | createUser email =>
        obtain rfl := Except.ok.inj built
        exact ⟨_, rfl, stored.createUser email⟩
    | setDevice adder documentID device =>
        obtain ⟨document, written, same⟩ := bind_eq_ok.mp built
        obtain rfl := Except.ok.inj same
        cases adder with
        | addDeviceViewController =>
            have possible :=
              AddDeviceViewController.exists_deviceDocument_iff.mp ⟨document, written⟩
            exact ⟨_, if_pos possible, stored.setDevice written⟩
        | profilesViewController =>
            obtain rfl := Except.ok.inj written
            have fresh : backend.drawnFor documentID = none := by
              simpa [TenantRequest.excluded] using sent
            exact ⟨account, rfl, stored.setNobodys signedIn (find?_of_free records fresh) device⟩
    | addToUserDevice documentID =>
        obtain rfl := Except.ok.inj built
        refine ⟨account, ?_, stored.update_devices _⟩
        rw [List.map_singleton, addToUserDevice, stored.isSome_update]
        rfl
    | setCurrDevice devId =>
        obtain rfl := Except.ok.inj built
        refine ⟨_, ?_, stored.setCurrDevice devId⟩
        rw [List.map_singleton, FirebaseManager.setCurrDevice, stored.isSome_update]
        rfl
    | removeFromDevice devId =>
        obtain rfl := Except.ok.inj built
        exact ⟨_, rfl, stored.removeFromDevice devId⟩
    | removeFromUserDevice devId =>
        obtain rfl := Except.ok.inj built
        refine ⟨account, ?_, stored.update_devices _⟩
        rw [List.map_singleton, removeFromUserDevice, stored.isSome_update]
        rfl

/-- What the user itself asks or is answered. -/
def ofUser {α : Type} (uid : String) (entry : String × α) : Option α :=
  if entry.1 = uid then some entry.2 else none

/-- The backend, as a user sees it, refines the account. -/
theorem refinement (signedIn : uid ≠ "")
    : Refinement Backend.handle (Account.handle uid)
        (fun backend account => Stored uid backend.store account ∧ backend.Records uid)
        (ofUser uid) (ofUser uid) some where
  hidden := by
    rintro backend account next ⟨other, request⟩ answers unseen ⟨stored, records⟩ handled
    have different : other ≠ uid := by simpa [ofUser] using unseen
    have same := (Backend.Indistinct.refl records).of_other signedIn different handled
    refine ⟨⟨stored.of_looksSame same.looks, same.records⟩, ?_⟩
    obtain ⟨-, ⟨-, -, rfl, -⟩ | ⟨-, -, rfl, -⟩⟩ := Backend.handle_eq_ok handled
    · rfl
    · simp [ofUser, different]
  mirrored := by
    rintro backend account next ⟨own, request⟩ visible answers seen ⟨stored, records⟩ handled
    obtain ⟨rfl, rfl⟩ : own = uid ∧ request = visible := by simpa [ofUser] using seen
    obtain ⟨after, mirrored, kept⟩ := stored.of_own signedIn records handled
    have theirs
        : answers.filterMap (ofUser own) = answers.map Prod.snd
          ∧ next.Records own := by
      obtain ⟨-, ⟨-, -, rfl, rfl⟩ | ⟨write, built, rfl, rfl⟩⟩ := Backend.handle_eq_ok handled
      · exact ⟨rfl, records⟩
      · exact ⟨by simp [ofUser], Backend.records_of_own records built⟩
    rw [theirs.1]
    exact ⟨after, _, mirrored, ⟨kept, theirs.2⟩, List.filterMap_some.symm⟩

/-- However the requests of all users are interleaved, what a user is answered is what its
account answers to the user's own requests, and what the queries return and the dashboard opens
on is what that account has and opens.
-/
theorem tenant_refines_account (signedIn : uid ≠ "")
    (stored : Stored uid backend.store account) (records : backend.Records uid)
    {requests : List (String × TenantRequest)} {final : Backend}
    (completed : run Backend.handle backend requests = (answers, .ok final))
    : ∃ after,
        run (Account.handle uid) account (requests.filterMap (ofUser uid))
          = (answers.filterMap (ofUser uid), .ok after)
        ∧ getDevices final.store uid = .ok (after.devices.entries.map Prod.snd)
        ∧ MainTabBarController.chooseDevice final.store uid
          = match after.opened with
            | some device => .ok device
            | none => .error .unexpectedNil := by
  obtain ⟨after, ran, kept, -⟩ := (refinement signedIn).run_exact ⟨stored, records⟩ completed
  exact ⟨after, ran, kept.getDevices_eq, kept.chooseDevice_eq⟩

theorem stored_new (uid : String) : Stored uid Backend.init.store new :=
  ⟨.none, fun _ => .none⟩

/-- Two users who each add a device, where the second asks for its own before it has an account. -/
def lateAccount : List (String × TenantRequest) := [
  ("u2", .setDevice .addDeviceViewController ⟨"d41", by decide⟩ Device.init),
  ("u1", .createUser "a@b.c"),
  ("u2", .setCurrDevice "d41"),
  ("u1", .setDevice .addDeviceViewController ⟨"d40", by decide⟩
    { Device.init with name := "Barn" }),
  ("u1", .setCurrDevice "d40"),
  ("u2", .createUser "d@e.f"),
  ("u1", .addToUserDevice "d40")]

theorem tenant_refines_account_late
    : ∃ final,
        run Backend.handle Backend.init lateAccount
          = ([("u2", true), ("u1", true), ("u2", false), ("u1", true), ("u1", true), ("u2", true),
              ("u1", true)], .ok final)
        ∧ MainTabBarController.chooseDevice final.store "u1"
          = .ok (({ Device.init with name := "Barn" } : Device).stored "u1" "d40") := by
  obtain ⟨final, completed⟩
      : ∃ final,
          run Backend.handle Backend.init lateAccount
            = ([("u2", true), ("u1", true), ("u2", false), ("u1", true), ("u1", true),
                ("u2", true), ("u1", true)], .ok final) :=
    ⟨_, rfl⟩
  have records : Backend.init.Records "u1" := by
    intro documentID document here
    cases here
  obtain ⟨after, ran, -, opens⟩ :=
    tenant_refines_account (by decide) (stored_new "u1") records completed
  refine ⟨final, completed, ?_⟩
  obtain ⟨-, same⟩ := Prod.mk.inj ran
  obtain rfl := Except.ok.inj same
  exact opens

end Account

end AgriGuardian.Accounts
