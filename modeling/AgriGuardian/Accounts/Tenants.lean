import AgriGuardian.Basis.Interleaving
import AgriGuardian.Accounts.CurrentDevice
import AgriGuardian.Accounts.DeviceList
import AgriGuardian.Accounts.RideConfinement

/-! Several users of one store.
Every request writes one document: the user's own, or that of a device. Ids of new devices
are drawn by Firestore, and a user removes only devices whose ids were drawn for it. So the
requests of other users, wherever they come in between, change nothing a user can see.
-/

namespace AgriGuardian.Accounts

open Swift
open Basis
open Rides
open FirebaseManager

-----------------------------------------------------------------------------------------
-- What a write does to a document
-----------------------------------------------------------------------------------------

def Write.documentID : Write → String
  | .setData _ documentID _ | .updateData _ documentID _ _ | .delete _ documentID => documentID

/-- What a write leaves under its id. -/
def Write.result (previous : Option Document) : Write → Option Document
  | .setData _ _ document => some document
  | .updateData _ _ field change => previous.map fun document => document.update field change
  | .delete .. => none

/-- Only an update needs the document to exist. -/
def Write.takesEffect (previous : Option Document) : Write → Bool
  | .updateData .. => previous.isSome
  | .setData .. | .delete .. => true

namespace Store

theorem isSome_perform (store : Store) (write : Write)
    : (store.perform write).isSome
      = write.takesEffect ((store write.collection).find? write.documentID) := by
  cases write with
  | setData | delete => rfl
  | updateData collection documentID field change =>
      simp only [perform, Write.takesEffect, Write.collection, Write.documentID]
      cases (store collection).find? documentID with
      | none => rfl
      | some document => rfl

@[simp]
theorem serve_setData (store : Store) (collection : Collection) (documentID : String)
    (document : Document)
    : store.serve (.setData collection documentID document) collection
      = (store collection).insert documentID document := by
  simp only [serve, perform, Option.getD_some, replace_self]

@[simp]
theorem serve_delete (store : Store) (collection : Collection) (documentID : String)
    : store.serve (.delete collection documentID) collection
      = (store collection).erase documentID := by
  simp only [serve, perform, Option.getD_some, replace_self]

/-- The documents of the collection that is written to. -/
theorem find?_serve (store : Store) (write : Write) (other : String)
    : (store.serve write write.collection).find? other
      = if other = write.documentID then write.result ((store write.collection).find? other)
        else (store write.collection).find? other := by
  cases write with
  | setData collection documentID document =>
      simp only [Write.collection, serve_setData]
      exact Table.find?_insert ..
  | delete collection documentID =>
      simp only [Write.collection, serve_delete]
      exact Table.find?_erase ..
  | updateData collection documentID field change =>
      simp only [serve, perform, Write.collection, Write.documentID, Write.result]
      by_cases here : other = documentID
      · subst here
        cases found : (store collection).find? other with
        | none => simp [found]
        | some document => simp [Table.find?_insert]
      · cases found : (store collection).find? documentID with
        | none => simp [here]
        | some document => simp [here, Table.find?_insert]

/-- A request leaves the other collections alone. -/
theorem serve_frame (store : Store) {write : Write} {other : Collection}
    (elsewhere : other ≠ write.collection)
    : store.serve write other = store other := by
  rw [serve]
  cases served : store.perform write with
  | none => rfl
  | some next => exact perform_frame served elsewhere

end Store

-----------------------------------------------------------------------------------------
-- The requests of the users
-----------------------------------------------------------------------------------------

/-- The store, with the user that each document id of a device was drawn for. -/
structure Backend where
  store : Store
  drawnFor : String → Option String

/-- A request of a user that changes the store. -/
inductive TenantRequest
  | createUser (email : String)
  | setDevice (adder : Adder) (documentID : DocumentID) (device : Device)
  | addToUserDevice (id : String)
  | setCurrDevice (devId : String)
  | removeFromDevice (devId : String)
  | removeFromUserDevice (devId : String)

/-- Firestore draws no id twice, and no user removes what was not drawn for it. -/
inductive TenantFailure
  | idNotFresh
  | notDrawnForUser
  deriving DecidableEq

namespace TenantRequest

/-- The write of a request. It is not sent when building the document traps. -/
def write (uid : String) : TenantRequest → Checked Write
  | .createUser email => .ok (FirebaseManager.createUser email uid)
  | .setDevice adder documentID device => do
      let document ← adder.deviceDocument uid documentID device
      .ok (.setData .devices documentID document)
  | .addToUserDevice id => .ok (Accounts.addToUserDevice uid id)
  | .setCurrDevice devId => .ok (FirebaseManager.setCurrDevice uid devId)
  | .removeFromDevice devId => .ok (Accounts.removeFromDevice devId)
  | .removeFromUserDevice devId => .ok (Accounts.removeFromUserDevice uid devId)

/-- The ids drawn once a request is sent. -/
def draw (uid : String) (drawnFor : String → Option String)
    : TenantRequest → String → Option String
  | .setDevice _ documentID _ => Function.update drawnFor documentID (some uid)
  | .createUser _ | .addToUserDevice _ | .setCurrDevice _ | .removeFromDevice _
  | .removeFromUserDevice _ => drawnFor

/-- Why a request is none that a client sends. -/
def excluded (uid : String) (drawnFor : String → Option String)
    : TenantRequest → Option TenantFailure
  | .setDevice _ documentID _ => if drawnFor documentID = none then none else some .idNotFresh
  | .removeFromDevice devId =>
      if drawnFor devId = some uid then none else some .notDrawnForUser
  | .createUser _ | .addToUserDevice _ | .setCurrDevice _ | .removeFromUserDevice _ => none

end TenantRequest

namespace Backend

/-- The outputs are the answers to the users, whether the request took effect. A trap ends
the program of the user before it sends the request, which the others do not notice.
-/
def handle : Handler Backend (String × TenantRequest) (String × Bool) TenantFailure
  | backend, (uid, request) =>
      match request.excluded uid backend.drawnFor with
      | some failure => ([], .error failure)
      | none =>
          match request.write uid with
          | .error _ => ([], .ok backend)
          | .ok write =>
              ([(uid, (backend.store.perform write).isSome)], .ok {
                store := backend.store.serve write
                drawnFor := request.draw uid backend.drawnFor })

/-- What a request does that a client sends. -/
theorem handle_eq_ok {backend next : Backend} {uid : String} {request : TenantRequest}
    {answers : List (String × Bool)}
    (handled : backend.handle (uid, request) = (answers, .ok next))
    : request.excluded uid backend.drawnFor = none
      ∧ ((∃ trap, request.write uid = .error trap ∧ answers = [] ∧ next = backend)
        ∨ ∃ write,
            request.write uid = .ok write
            ∧ answers = [(uid, (backend.store.perform write).isSome)]
            ∧ next = ⟨backend.store.serve write, request.draw uid backend.drawnFor⟩) := by
  rw [handle] at handled
  cases sent : request.excluded uid backend.drawnFor with
  | some failure => simp [sent] at handled
  | none =>
      refine ⟨rfl, ?_⟩
      simp only [sent] at handled
      cases built : request.write uid with
      | error trap =>
          simp only [built, Prod.mk.injEq, Except.ok.injEq] at handled
          exact Or.inl ⟨trap, rfl, handled.1.symm, handled.2.symm⟩
      | ok write =>
          simp only [built, Prod.mk.injEq, Except.ok.injEq] at handled
          exact Or.inr ⟨write, rfl, handled.1.symm, handled.2.symm⟩

end Backend

-----------------------------------------------------------------------------------------
-- What one user can see
-----------------------------------------------------------------------------------------

/-- A request writes the document of the user, or sets or deletes that of a device. -/
theorem TenantRequest.write_cases {uid : String} {request : TenantRequest} {write : Write}
    (built : request.write uid = .ok write)
    : (write.collection = .users ∧ write.documentID = uid ∧ ∀ drawnFor,
        request.draw uid drawnFor = drawnFor)
      ∨ (∃ adder documentID device document,
          request = .setDevice adder documentID device
          ∧ adder.deviceDocument uid documentID device = .ok document
          ∧ write = .setData .devices documentID document)
      ∨ ∃ devId, request = .removeFromDevice devId ∧ write = .delete .devices devId := by
  cases request with
  | createUser | addToUserDevice | setCurrDevice | removeFromUserDevice =>
      obtain rfl := Except.ok.inj built
      exact Or.inl ⟨rfl, rfl, fun _ => rfl⟩
  | setDevice adder documentID device =>
      obtain ⟨document, written, sent⟩ := bind_eq_ok.mp built
      exact Or.inr (Or.inl
        ⟨adder, documentID, device, document, rfl, written, (Except.ok.inj sent).symm⟩)
  | removeFromDevice devId =>
      exact Or.inr (Or.inr ⟨devId, rfl, (Except.ok.inj built).symm⟩)

/-- The document of a new device is of the user who adds it, or of nobody. -/
theorem Adder.eq_of_matches_uid {adder : Adder} {uid other documentID : String}
    (signedIn : uid ≠ "") {device : Device} {document : Document}
    (written : adder.deviceDocument other documentID device = .ok document)
    (mine : document.matchesField "uid" uid = true)
    : other = uid := by
  cases adder with
  | addDeviceViewController =>
      have theirs := AddDeviceViewController.matches_uid written
      have same := (Document.matchesField_iff.mp theirs).symm.trans
        (Document.matchesField_iff.mp mine)
      simpa using same
  | profilesViewController =>
      obtain rfl := Except.ok.inj written
      exact absurd mine (ProfilesViewController.not_matches_uid signedIn documentID device)

/-- No id that is drawn is free again. -/
theorem TenantRequest.draw_eq_none {uid documentID : String} {drawnFor : String → Option String}
    {request : TenantRequest} (free : request.draw uid drawnFor documentID = none)
    : drawnFor documentID = none := by
  cases request with
  | createUser | addToUserDevice | setCurrDevice | removeFromDevice | removeFromUserDevice =>
      exact free
  | setDevice adder drawn device =>
      by_cases here : documentID = drawn.1
      · subst here
        simp [draw] at free
      · simpa [draw, here] using free

/-- Another user's request draws no id for the user, nor takes one away. -/
theorem TenantRequest.draw_eq_some_iff {uid other documentID : String}
    {drawnFor : String → Option String} {request : TenantRequest} (different : other ≠ uid)
    (sent : request.excluded other drawnFor = none)
    : request.draw other drawnFor documentID = some uid ↔ drawnFor documentID = some uid := by
  cases request with
  | createUser | addToUserDevice | setCurrDevice | removeFromDevice | removeFromUserDevice => rfl
  | setDevice adder drawn device =>
      have fresh : drawnFor drawn = none := by simpa [excluded] using sent
      by_cases here : documentID = drawn.1
      · subst here
        simp [draw, fresh, different]
      · simp [draw, here]

/-- Every stored device of the user is recorded as drawn for it. -/
def Backend.Records (backend : Backend) (uid : String) : Prop :=
  ∀ documentID document,
    (backend.store .devices).find? documentID = some document
    → document.matchesField "uid" uid = true
    → backend.drawnFor documentID = some uid

/-- The stores agree on the user's document, the user's devices and the rides. -/
structure Store.LooksSame (uid : String) (left right : Store) : Prop where
  user : (left .users).find? uid = (right .users).find? uid
  devices
    : ∀ documentID document, document.matchesField "uid" uid = true
        → ((left .devices).find? documentID = some document
          ↔ (right .devices).find? documentID = some document)
  rides : left .ridehistory = right .ridehistory

/-- Two backends that the user cannot tell apart. The second may have drawn fewer ids. -/
structure Backend.Indistinct (uid : String) (backend twin : Backend) : Prop where
  looks : backend.store.LooksSame uid twin.store
  records : backend.Records uid
  fresh : ∀ documentID, backend.drawnFor documentID = none → twin.drawnFor documentID = none
  own
    : ∀ documentID,
        backend.drawnFor documentID = some uid → twin.drawnFor documentID = some uid

namespace Backend

variable {uid other : String} {backend twin next : Backend} {request : TenantRequest}
  {write : Write} {answers : List (String × Bool)}

/-- A write to a device that is not the user's, before or after, is not seen. -/
theorem looksSame_of_elsewhere {store : Store} (devices : write.collection = .devices)
    (before
      : ∀ document, (store .devices).find? write.documentID = some document
          → document.matchesField "uid" uid ≠ true)
    (after
      : ∀ previous document, write.result previous = some document
          → document.matchesField "uid" uid ≠ true)
    : (store.serve write).LooksSame uid store where
  user := by rw [store.serve_frame (by simp [devices])]
  devices documentID document mine := by
    have found := store.find?_serve write documentID
    rw [devices] at found
    rw [found]
    split
    · rename_i here
      subst here
      exact iff_of_false (fun set => after _ document set mine)
        (fun stored => before document stored mine)
    · rfl
  rides := store.serve_frame (by simp [devices])

/-- Another user's request changes nothing the user sees. Witness: what it can write to. -/
theorem looksSame_of_other (signedIn : uid ≠ "") (different : other ≠ uid)
    (records : backend.Records uid) (sent : request.excluded other backend.drawnFor = none)
    (built : request.write other = .ok write)
    : (backend.store.serve write).LooksSame uid backend.store := by
  rcases TenantRequest.write_cases built with
    ⟨users, theirs, -⟩ | ⟨adder, documentID, device, document, rfl, written, rfl⟩
      | ⟨devId, rfl, rfl⟩
  · have found := backend.store.find?_serve write uid
    rw [theirs, if_neg different.symm, users] at found
    refine ⟨found, ?_, backend.store.serve_frame (by simp [users])⟩
    rw [backend.store.serve_frame (by simp [users])]
    exact fun _ _ _ => Iff.rfl
  · have fresh : backend.drawnFor documentID = none := by
      simpa [TenantRequest.excluded] using sent
    apply looksSame_of_elsewhere rfl
    · intro previous stored mine
      have drawn := records documentID previous stored mine
      simp [fresh] at drawn
    · intro previous set result mine
      obtain rfl := Option.some.inj result
      exact different (Adder.eq_of_matches_uid signedIn written mine)
  · have theirs : backend.drawnFor devId = some other := by
      simpa [TenantRequest.excluded] using sent
    apply looksSame_of_elsewhere rfl
    · intro previous stored mine
      have drawn := records devId previous stored mine
      simp [theirs, different] at drawn
    · intro previous set result
      cases result

theorem Indistinct.refl (records : backend.Records uid) : Indistinct uid backend backend :=
  ⟨⟨rfl, fun _ _ _ => Iff.rfl, rfl⟩, records, fun _ free => free, fun _ held => held⟩

/-- Another user's request leaves the backends indistinct. -/
theorem Indistinct.of_other (same : Indistinct uid backend twin) (signedIn : uid ≠ "")
    (different : other ≠ uid)
    (handled : backend.handle (other, request) = (answers, .ok next))
    : Indistinct uid next twin := by
  obtain ⟨sent, ⟨-, -, -, rfl⟩ | ⟨write, built, -, rfl⟩⟩ := handle_eq_ok handled
  · exact same
  · obtain ⟨user, devices, rides⟩ :=
      looksSame_of_other signedIn different same.records sent built
    have drawn (documentID : String) :=
      @TenantRequest.draw_eq_some_iff uid other documentID _ _ different sent
    refine ⟨⟨user.trans same.looks.user, ?_, rides.trans same.looks.rides⟩, ?_, ?_, ?_⟩
    · intro documentID document mine
      exact (devices documentID document mine).trans (same.looks.devices documentID document mine)
    · intro documentID document stored mine
      exact (drawn documentID).mpr
        (same.records documentID document ((devices documentID document mine).mp stored) mine)
    · exact fun documentID free => same.fresh documentID (TenantRequest.draw_eq_none free)
    · exact fun documentID held => same.own documentID ((drawn documentID).mp held)

/-- Setting or deleting a device does the same to both stores. -/
theorem serve_blind {left right : Store} (looks : left.LooksSame uid right)
    (collection : write.collection = .devices)
    (blind : ∀ previous other, write.result previous = write.result other)
    : (left.serve write).LooksSame uid (right.serve write) where
  user := by
    rw [left.serve_frame (by simp [collection]), right.serve_frame (by simp [collection])]
    exact looks.user
  devices documentID document mine := by
    have leftFound := left.find?_serve write documentID
    have rightFound := right.find?_serve write documentID
    rw [collection] at leftFound rightFound
    rw [leftFound, rightFound]
    by_cases here : documentID = write.documentID
    · rw [if_pos here, if_pos here, blind]
    · rw [if_neg here, if_neg here]
      exact looks.devices documentID document mine
  rides := by
    rw [left.serve_frame (by simp [collection]), right.serve_frame (by simp [collection])]
    exact looks.rides

/-- The user's own write finds the same in both stores, and leaves the same in them. -/
theorem looksSame_of_own {left right : Store} (looks : left.LooksSame uid right)
    (built : request.write uid = .ok write)
    : (left.perform write).isSome = (right.perform write).isSome
      ∧ (left.serve write).LooksSame uid (right.serve write) := by
  obtain ⟨user, devices, rides⟩ := looks
  rw [Store.isSome_perform, Store.isSome_perform]
  rcases TenantRequest.write_cases built with
    ⟨users, mine, -⟩ | ⟨adder, documentID, device, document, rfl, written, rfl⟩
      | ⟨devId, rfl, rfl⟩
  · have leftFound := left.find?_serve write uid
    have rightFound := right.find?_serve write uid
    rw [mine, if_pos rfl, users] at leftFound rightFound
    rw [mine, users, user]
    refine ⟨rfl, leftFound.trans (user ▸ rightFound.symm), ?_, ?_⟩
    · rw [left.serve_frame (by simp [users]), right.serve_frame (by simp [users])]
      exact devices
    · rw [left.serve_frame (by simp [users]), right.serve_frame (by simp [users])]
      exact rides
  · exact ⟨rfl, serve_blind ⟨user, devices, rides⟩ rfl fun _ _ => rfl⟩
  · exact ⟨rfl, serve_blind ⟨user, devices, rides⟩ rfl fun _ _ => rfl⟩

/-- A client may send in the second backend what it sends in the first. -/
theorem Indistinct.excluded_eq_none (same : Indistinct uid backend twin)
    (sent : request.excluded uid backend.drawnFor = none)
    : request.excluded uid twin.drawnFor = none := by
  cases request with
  | createUser | addToUserDevice | setCurrDevice | removeFromUserDevice => rfl
  | setDevice adder documentID device =>
      have free : backend.drawnFor documentID = none := by
        simpa [TenantRequest.excluded] using sent
      simp [TenantRequest.excluded, same.fresh documentID free]
  | removeFromDevice devId =>
      have held : backend.drawnFor devId = some uid := by
        simpa [TenantRequest.excluded] using sent
      simp [TenantRequest.excluded, same.own devId held]

/-- The user's own request draws alike in both backends. -/
theorem Indistinct.draw (same : Indistinct uid backend twin) (request : TenantRequest)
    (documentID : String)
    : (request.draw uid backend.drawnFor documentID = none
        → request.draw uid twin.drawnFor documentID = none)
      ∧ (request.draw uid backend.drawnFor documentID = some uid
        → request.draw uid twin.drawnFor documentID = some uid) := by
  cases request with
  | createUser | addToUserDevice | setCurrDevice | removeFromDevice | removeFromUserDevice =>
      exact ⟨same.fresh documentID, same.own documentID⟩
  | setDevice adder drawn device =>
      by_cases here : documentID = drawn.1
      · subst here
        simp [TenantRequest.draw]
      · simpa [TenantRequest.draw, here] using ⟨same.fresh documentID, same.own documentID⟩

/-- The user's devices stay recorded. -/
theorem records_of_own (records : backend.Records uid) (built : request.write uid = .ok write)
    : Records ⟨backend.store.serve write, request.draw uid backend.drawnFor⟩ uid := by
  intro other content stored owned
  change (backend.store.serve write .devices).find? other = some content at stored
  change request.draw uid backend.drawnFor other = some uid
  rcases TenantRequest.write_cases built with
    ⟨users, -, drawn⟩ | ⟨adder, documentID, device, document, rfl, written, rfl⟩
      | ⟨devId, rfl, rfl⟩
  · rw [backend.store.serve_frame (by simp [users])] at stored
    rw [drawn]
    exact records other content stored owned
  · have found := backend.store.find?_serve (.setData .devices documentID document) other
    rw [Write.collection, stored] at found
    by_cases here : other = documentID.1
    · subst here
      exact Function.update_self ..
    · simp only [Write.documentID, here, if_false] at found
      have drawn := records other content found.symm owned
      simpa [TenantRequest.draw, here] using drawn
  · have found := backend.store.find?_serve (.delete .devices devId) other
    rw [Write.collection, stored] at found
    by_cases here : other = devId
    · simp [Write.documentID, here, Write.result] at found
    · simp only [Write.documentID, here, if_false] at found
      exact records other content found.symm owned

/-- The user's own request is answered alike and leaves the backends indistinct. -/
theorem Indistinct.of_own (same : Indistinct uid backend twin)
    (handled : backend.handle (uid, request) = (answers, .ok next))
    : ∃ twinNext,
        twin.handle (uid, request) = (answers, .ok twinNext)
        ∧ Indistinct uid next twinNext := by
  obtain ⟨sent, ⟨trap, built, rfl, rfl⟩ | ⟨write, built, rfl, rfl⟩⟩ := handle_eq_ok handled
  · refine ⟨twin, ?_, same⟩
    simp only [handle, same.excluded_eq_none sent, built]
  · obtain ⟨alike, looks⟩ := looksSame_of_own same.looks built
    refine ⟨⟨twin.store.serve write, request.draw uid twin.drawnFor⟩, ?_, looks,
      records_of_own same.records built, ?_, ?_⟩
    · simp only [handle, same.excluded_eq_none sent, built, alike]
    · exact fun documentID => (same.draw request documentID).1
    · exact fun documentID => (same.draw request documentID).2

/-- Purging the requests of the other users. -/
theorem purging (signedIn : uid ≠ "")
    : Purging handle (fun input => decide (input.1 = uid)) (Indistinct uid)
        (fun answer => decide (answer.1 = uid)) where
  hidden := by
    intro backend twin next input answers elsewhere same handled
    have different : input.1 ≠ uid := of_decide_eq_false elsewhere
    refine ⟨same.of_other signedIn different handled, ?_⟩
    obtain ⟨-, ⟨-, -, rfl, -⟩ | ⟨-, -, rfl, -⟩⟩ := handle_eq_ok handled
    · rfl
    · simp [different]
  consistent := by
    intro backend twin next input answers here same handled
    obtain ⟨own, request⟩ := input
    obtain rfl : own = uid := of_decide_eq_true here
    obtain ⟨twinNext, twinHandled, later⟩ := same.of_own handled
    refine ⟨twinNext, answers, twinHandled, later, ?_⟩
    obtain ⟨-, ⟨-, -, rfl, -⟩ | ⟨-, -, rfl, -⟩⟩ := handle_eq_ok handled
    · rfl
    · simp

theorem agree_of_looksSame {left right : Store} (looks : left.LooksSame uid right)
    : Store.Agree uid left right where
  user := looks.user
  devices := by
    intro entry mine
    have found := looks.devices entry.1 entry.2 mine
    rwa [Table.find?_eq_some_iff, Table.find?_eq_some_iff] at found
  rides := by
    intro devId _ entry _
    rw [looks.rides]

/-- What looks the same is loaded alike. -/
theorem loadChain_eq {left right : Store} (looks : left.LooksSame uid right) (earth : Distance)
    (formatters : Formatters) (now : Date)
    : MainTabBarController.loadChain earth formatters now left uid
      = MainTabBarController.loadChain earth formatters now right uid := by
  rw [MainTabBarController.loadChain, MainTabBarController.loadChain,
    (agree_of_looksSame looks).chooseDevice_eq]
  simp only [getRides, looks.rides]

/-- However the requests of all users are interleaved, a user's own requests would be answered
in the same way without those of the others, and would leave it the same document, devices
and dashboard.
-/
theorem tenant_sees_own_requests (signedIn : uid ≠ "") {final : Backend}
    (records : backend.Records uid) {requests : List (String × TenantRequest)}
    (completed : run handle backend requests = (answers, .ok final))
    : ∃ own alone,
        run handle backend (requests.filter fun input => input.1 = uid) = (own, .ok alone)
        ∧ answers.filter (fun answer => answer.1 = uid) = own
        ∧ (final.store .users).find? uid = (alone.store .users).find? uid
        ∧ getDevices final.store uid = getDevices alone.store uid
        ∧ ∀ earth formatters now,
            MainTabBarController.loadChain earth formatters now final.store uid
              = MainTabBarController.loadChain earth formatters now alone.store uid := by
  obtain ⟨alone, ran, same⟩ := (purging signedIn).run (.refl records) completed
  exact ⟨_, alone, ran, rfl, same.looks.user, (agree_of_looksSame same.looks).getDevices_eq,
    loadChain_eq same.looks⟩

/-- The backend without documents. -/
def init : Backend := ⟨fun _ => Table.empty, fun _ => none⟩

/-- Two users who each add a device, of which the second removes its own again. -/
private def twoUsers : List (String × TenantRequest) := [
  ("u1", .createUser "a@b.c"),
  ("u2", .createUser "d@e.f"),
  ("u2", .setDevice .addDeviceViewController ⟨"d20", by decide⟩ Device.init),
  ("u1", .setDevice .addDeviceViewController ⟨"d10", by decide⟩ Device.init),
  ("u2", .addToUserDevice "d20"),
  ("u1", .addToUserDevice "d10"),
  ("u2", .removeFromDevice "d20"),
  ("u1", .setCurrDevice "d10")]

theorem tenant_sees_own_requests_two_users
    : ∃ final own alone,
        run handle init twoUsers
          = ([("u1", true), ("u2", true), ("u2", true), ("u1", true), ("u2", true), ("u1", true),
              ("u2", true), ("u1", true)], .ok final)
        ∧ run handle init (twoUsers.filter fun input => input.1 = "u1") = (own, .ok alone)
        ∧ own = [("u1", true), ("u1", true), ("u1", true), ("u1", true)]
        ∧ getDevices final.store "u1" = getDevices alone.store "u1" := by
  have ran
      : ∃ final,
          run handle init twoUsers
            = ([("u1", true), ("u2", true), ("u2", true), ("u1", true), ("u2", true),
                ("u1", true), ("u2", true), ("u1", true)], .ok final) :=
    ⟨_, rfl⟩
  obtain ⟨final, completed⟩ := ran
  have records : init.Records "u1" := by
    intro documentID document stored
    cases stored
  obtain ⟨own, alone, purged, answered, -, devices, -⟩ :=
    tenant_sees_own_requests (by decide) records completed
  exact ⟨final, own, alone, completed, purged, answered.symm, devices⟩

end Backend

end AgriGuardian.Accounts
