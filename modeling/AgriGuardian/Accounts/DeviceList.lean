import AgriGuardian.Accounts.CurrentDevice

/-! The list of devices in the user's document against the devices collection, over runs in
which any request may fail. Each operation is two requests, the second of which is issued
when the first has succeeded. The client sends its requests one after another.
-/

namespace AgriGuardian.Accounts

open Swift
open Basis
open Rides
open FirebaseManager

/-- The requests of the device operations. -/
inductive DeviceRequest
  | setDevice (documentID : String) (document : Document)
  | addToUserDevice (id : String)
  | removeFromDevice (devId : String)
  | removeFromUserDevice (devId : String)

namespace DeviceRequest

def write (uid : String) : DeviceRequest → Write
  | .setDevice documentID document => .setData .devices documentID document
  | .addToUserDevice id => Accounts.addToUserDevice uid id
  | .removeFromDevice devId => Accounts.removeFromDevice devId
  | .removeFromUserDevice devId => Accounts.removeFromUserDevice uid devId

/-- The request that the completion handler issues if there is no error. -/
def followUp : DeviceRequest → Option DeviceRequest
  | .setDevice documentID _ => some (.addToUserDevice documentID)
  | .removeFromDevice devId => some (.removeFromUserDevice devId)
  | .addToUserDevice _ | .removeFromUserDevice _ => none

/-- Whether the request asks for the id to be in the list, if it asks about it. -/
def asksFor (documentID : String) : DeviceRequest → Option Bool
  | .addToUserDevice id => if id = documentID then some true else none
  | .removeFromUserDevice devId => if devId = documentID then some false else none
  | .setDevice .. | .removeFromDevice _ => none

end DeviceRequest

/-- The requests that are not answered yet, and those that completion handlers will issue. -/
structure DeviceClient where
  store : Store
  outstanding : List DeviceRequest
  completions : List DeviceRequest

/-- An operation of the user, the answer to the oldest request, or the next completion
handler.
-/
inductive DeviceEvent
  | addToDevice (adder : Adder) (documentID : DocumentID) (device : Device)
  | removeFromDevice (devId : String)
  | respond (served : Bool)
  | complete

inductive DeviceFault
  | trapped (trap : Trap)
  | notOwned
  | nothingToDo
  deriving DecidableEq

namespace DeviceClient

def issue (client : DeviceClient) (request : DeviceRequest) : DeviceClient :=
  { client with outstanding := client.outstanding ++ [request] }

/-- The outputs are the answered requests, with whether they took effect. -/
def handle (uid : String)
    : Handler DeviceClient DeviceEvent (DeviceRequest × Bool) DeviceFault
  | client, .addToDevice adder documentID device =>
      match adder.deviceDocument uid documentID device with
      | .ok document => ([], .ok (client.issue (.setDevice documentID document)))
      | .error trap => ([], .error (.trapped trap))
  | client, .removeFromDevice devId =>
      if client.store.Owns uid devId then ([], .ok (client.issue (.removeFromDevice devId)))
      else ([], .error .notOwned)
  | client, .respond served =>
      match client.outstanding with
      | [] => ([], .error .nothingToDo)
      | request :: rest =>
          match if served then client.store.perform (request.write uid) else none with
          | some next =>
              ([(request, true)], .ok {
                store := next
                outstanding := rest
                completions := client.completions ++ request.followUp.toList })
          | none => ([(request, false)], .ok { client with outstanding := rest })
  | client, .complete =>
      match client.completions with
      | [] => ([], .error .nothingToDo)
      | request :: rest => ([], .ok ({ client with completions := rest }.issue request))

/-- No request is outstanding, nor about to be issued. -/
def Quiet (client : DeviceClient) : Prop :=
  client.outstanding = [] ∧ client.completions = []

def start (store : Store) : DeviceClient := ⟨store, [], []⟩

end DeviceClient

/-- The last answered request about the id: whether it asked for it to be in the list, and
whether it took effect.
-/
def lastAnswered (documentID : String) (answers : List (DeviceRequest × Bool))
    : Option (Bool × Bool) :=
  (answers.filterMap fun answer =>
    (answer.1.asksFor documentID).map fun asked => (asked, answer.2)).getLast?

/-- A device with this id is added by `ProfilesViewController`. -/
def AddedByProfiles (documentID : String) (events : List DeviceEvent) : Prop :=
  ∃ drawn : DocumentID,
    drawn.1 = documentID ∧ ∃ device, .addToDevice .profilesViewController drawn device ∈ events

-----------------------------------------------------------------------------------------
-- What the requests of a client ask for
-----------------------------------------------------------------------------------------

/-- The last that the requests ask for, or else the start. -/
def lastAsked (documentID : String) (start : Bool) (requests : List DeviceRequest) : Bool :=
  (requests.filterMap (DeviceRequest.asksFor documentID)).getLastD start

@[simp]
theorem lastAsked_append (documentID : String) (start : Bool) (first second : List DeviceRequest)
    : lastAsked documentID start (first ++ second)
      = lastAsked documentID (lastAsked documentID start first) second := by
  simp only [lastAsked, List.filterMap_append, List.getLastD_eq_getLast?, List.getLast?_append]
  cases ((second.filterMap (DeviceRequest.asksFor documentID)).getLast?) with
  | none => rfl
  | some asked => rfl

@[simp]
theorem lastAsked_nil (documentID : String) (start : Bool)
    : lastAsked documentID start [] = start :=
  rfl

@[simp]
theorem lastAsked_cons (documentID : String) (start : Bool) (request : DeviceRequest)
    (rest : List DeviceRequest)
    : lastAsked documentID start (request :: rest)
      = lastAsked documentID ((request.asksFor documentID).getD start) rest := by
  simp only [lastAsked, List.filterMap_cons]
  cases request.asksFor documentID with
  | none => rfl
  | some asked => simp only [List.getLastD_cons, Option.getD_some]

theorem lastAnswered_append (documentID : String) (answers : List (DeviceRequest × Bool))
    (request : DeviceRequest) (served : Bool)
    : lastAnswered documentID (answers ++ [(request, served)])
      = match request.asksFor documentID with
        | some asked => some (asked, served)
        | none => lastAnswered documentID answers := by
  rw [lastAnswered, List.filterMap_append, List.filterMap_cons]
  cases request.asksFor documentID with
  | none => simp [lastAnswered]
  | some asked => simp

/-- What the last answered request asks for, whether or not it took effect. -/
theorem lastAsked_answers (documentID : String) (start : Bool)
    (answers : List (DeviceRequest × Bool))
    : lastAsked documentID start (answers.map Prod.fst)
      = ((lastAnswered documentID answers).map Prod.fst).getD start := by
  induction answers using List.reverseRecOn with
  | nil => rfl
  | append_singleton before answer ih =>
      rw [List.map_append, lastAsked_append, ih, List.map_singleton, lastAsked_cons, lastAsked_nil,
        lastAnswered_append]
      cases answer.1.asksFor documentID with
      | none => rfl
      | some asked => rfl

/-- What `AddDeviceViewController` adds is the user's. -/
theorem AddDeviceViewController.matches_uid {uid documentID : String} {device : Device}
    {document : Document} (written : deviceDocument uid documentID device = .ok document)
    : document.matchesField "uid" uid = true :=
  Document.matchesField_iff.mpr (Device.ofData_eq_ok (ofData_deviceDocument written)).1

namespace DeviceRequest

variable {uid : String} {store next : Store} {request : DeviceRequest}

/-- No completion handler sets a device. -/
theorem setDevice_not_mem_followUp (request : DeviceRequest) {documentID : String}
    {document : Document}
    : .setDevice documentID document ∉ request.followUp.toList := by
  cases request <;> simp [followUp]

/-- A request that takes effect makes its device owned or not as its follow-up will ask. -/
theorem owns_of_perform (served : store.perform (request.write uid) = some next)
    {documentID : String}
    (ours
      : ∀ document, request = .setDevice documentID document
          → document.matchesField "uid" uid = true)
    : next.Owns uid documentID
      ↔ lastAsked documentID (decide (store.Owns uid documentID)) request.followUp.toList
        = true := by
  cases request with
  | setDevice other document =>
      obtain rfl := Option.some.inj served
      rw [Store.owns_insert]
      cases eq_or_ne other documentID with
      | inl same =>
          subst same
          simp [followUp, asksFor, ours document rfl]
      | inr different => simp [followUp, asksFor, different, different.symm]
  | addToUserDevice id =>
      have devices : next .devices = store .devices := Store.perform_frame served (by nofun)
      simp [followUp, Store.owns_congr devices]
  | removeFromDevice devId =>
      obtain rfl := Option.some.inj served
      rw [Store.owns_erase]
      cases eq_or_ne devId documentID with
      | inl same =>
          subst same
          simp [followUp, asksFor]
      | inr different => simp [followUp, asksFor, different, different.symm]
  | removeFromUserDevice devId =>
      have devices : next .devices = store .devices := Store.perform_frame served (by nofun)
      simp [followUp, Store.owns_congr devices]

/-- A request that takes effect leaves an id in the list or not as it asks for. -/
theorem lists_of_perform (served : store.perform (request.write uid) = some next)
    (documentID : String)
    : next.Lists uid documentID
      ↔ match request.asksFor documentID with
        | some asked => asked = true
        | none => store.Lists uid documentID := by
  cases request with
  | setDevice other document =>
      have users : next .users = store .users := Store.perform_frame served (by nofun)
      exact Store.lists_congr users
  | addToUserDevice id =>
      rw [Store.lists_addToUserDevice served, asksFor]
      cases eq_or_ne id documentID with
      | inl same => simp [same]
      | inr different => simp [different, different.symm]
  | removeFromDevice devId =>
      have users : next .users = store .users := Store.perform_frame served (by nofun)
      exact Store.lists_congr users
  | removeFromUserDevice devId =>
      rw [Store.lists_removeFromUserDevice served, asksFor]
      cases eq_or_ne devId documentID with
      | inl same => simp [same]
      | inr different => simp [different, different.symm]

end DeviceRequest

-----------------------------------------------------------------------------------------
-- Runs
-----------------------------------------------------------------------------------------

namespace DeviceClient

/-- All requests of the client, in the order in which they are answered. -/
def requests (client : DeviceClient) (answers : List (DeviceRequest × Bool))
    : List DeviceRequest :=
  answers.map Prod.fst ++ client.outstanding ++ client.completions

/-- What each event does, with what it found. -/
theorem handle_eq_ok {uid : String} {client next : DeviceClient} {event : DeviceEvent}
    {answers : List (DeviceRequest × Bool)}
    (handled : handle uid client event = (answers, .ok next))
    : match event with
      | .addToDevice adder documentID device =>
          answers = []
          ∧ ∃ document,
              adder.deviceDocument uid documentID device = .ok document
              ∧ next = client.issue (.setDevice documentID document)
      | .removeFromDevice devId => answers = [] ∧ next = client.issue (.removeFromDevice devId)
      | .respond _ =>
          ∃ request rest,
            client.outstanding = request :: rest
            ∧ ((answers = [(request, false)] ∧ next = { client with outstanding := rest })
              ∨ ∃ store,
                  client.store.perform (request.write uid) = some store
                  ∧ answers = [(request, true)]
                  ∧ next = ⟨store, rest, client.completions ++ request.followUp.toList⟩)
      | .complete =>
          answers = []
          ∧ ∃ request rest,
              client.completions = request :: rest
              ∧ next = ⟨client.store, client.outstanding ++ [request], rest⟩ := by
  cases event with
  | addToDevice adder documentID device =>
      simp only [handle] at handled
      cases written : adder.deviceDocument uid documentID device with
      | ok document =>
          rw [written] at handled
          obtain ⟨rfl, built⟩ := Prod.mk.inj handled
          exact ⟨rfl, document, written, (Except.ok.inj built).symm⟩
      | error trap => simp [written] at handled
  | removeFromDevice devId =>
      obtain ⟨-, outcome⟩ := guarded_eq_ok handled
      obtain ⟨rfl, built⟩ := Prod.mk.inj outcome
      exact ⟨rfl, (Except.ok.inj built).symm⟩
  | respond served =>
      simp only [handle] at handled
      cases waiting : client.outstanding with
      | nil => simp [waiting] at handled
      | cons request rest =>
          refine ⟨request, rest, rfl, ?_⟩
          rw [waiting] at handled
          cases effect : if served then client.store.perform (request.write uid) else none with
          | none =>
              simp only [effect] at handled
              obtain ⟨rfl, built⟩ := Prod.mk.inj handled
              exact Or.inl ⟨rfl, (Except.ok.inj built).symm⟩
          | some store =>
              simp only [effect] at handled
              obtain ⟨rfl, built⟩ := Prod.mk.inj handled
              have performed : client.store.perform (request.write uid) = some store := by
                cases served with
                | true => exact effect
                | false => cases effect
              exact Or.inr ⟨store, performed, rfl, (Except.ok.inj built).symm⟩
  | complete =>
      simp only [handle] at handled
      cases waiting : client.completions with
      | nil => simp [waiting] at handled
      | cons request rest =>
          simp only [waiting] at handled
          obtain ⟨rfl, built⟩ := Prod.mk.inj handled
          exact ⟨rfl, request, rest, rfl, (Except.ok.inj built).symm⟩

/-- A device is owned or not as the last request about it asks, counting those to come. It
is in the list as the last answered one asks if that took effect.
-/
structure Consistent (uid documentID : String) (start : Store)
    (answers : List (DeviceRequest × Bool)) (client : DeviceClient)
    : Prop where
  owned
    : client.store.Owns uid documentID
      ↔ lastAsked documentID (decide (start.Owns uid documentID)) (client.requests answers) = true
  listed
    : match lastAnswered documentID answers with
      | none => client.store.Lists uid documentID ↔ start.Lists uid documentID
      | some (asked, true) => client.store.Lists uid documentID ↔ asked = true
      | some (_, false) => True
  ours
    : ∀ document, .setDevice documentID document ∈ client.outstanding ++ client.completions
        → document.matchesField "uid" uid = true

/-- Every event keeps the client consistent for a device that it does not add by
`ProfilesViewController`. Witness: the events in turn. The sequence of requests changes only
when one takes effect, by its follow-up.
-/
theorem Consistent.handle {uid documentID : String} {start : Store}
    {before answers : List (DeviceRequest × Bool)} {client next : DeviceClient}
    {event : DeviceEvent} (consistent : Consistent uid documentID start before client)
    (elsewhere : ¬ AddedByProfiles documentID [event])
    (handled : DeviceClient.handle uid client event = (answers, .ok next))
    : Consistent uid documentID start (before ++ answers) next := by
  obtain ⟨owned, listed, ours⟩ := consistent
  have effect := handle_eq_ok handled
  cases event with
  | addToDevice adder drawn device =>
      obtain ⟨rfl, document, written, rfl⟩ := effect
      refine ⟨?_, ?_, ?_⟩
      · simpa [requests, issue, DeviceRequest.asksFor] using owned
      · rw [List.append_nil]
        exact listed
      · intro content member
        simp only [issue, List.append_assoc, List.mem_append, List.mem_singleton] at member
        rcases member with waiting | here | coming
        · exact ours content (List.mem_append_left _ waiting)
        · obtain ⟨same, rfl⟩ := DeviceRequest.setDevice.inj here
          cases adder with
          | addDeviceViewController => exact AddDeviceViewController.matches_uid written
          | profilesViewController =>
              exact absurd ⟨drawn, same.symm, device, List.mem_singleton_self _⟩ elsewhere
        · exact ours content (List.mem_append_right _ coming)
  | removeFromDevice devId =>
      obtain ⟨rfl, rfl⟩ := effect
      refine ⟨?_, ?_, ?_⟩
      · simpa [requests, issue, DeviceRequest.asksFor] using owned
      · rw [List.append_nil]
        exact listed
      · intro content member
        apply ours content
        simpa [issue] using member
  | respond served =>
      obtain ⟨request, rest, waiting, result⟩ := effect
      rw [requests, waiting] at owned
      rw [waiting] at ours
      cases result with
      | inl failed =>
          obtain ⟨rfl, rfl⟩ := failed
          refine ⟨?_, ?_, ?_⟩
          · simpa [requests] using owned
          · rw [lastAnswered_append]
            cases request.asksFor documentID with
            | none => exact listed
            | some asked => trivial
          · intro content member
            exact ours content (List.mem_cons_of_mem _ member)
      | inr effective =>
          obtain ⟨store, performed, rfl, rfl⟩ := effective
          have owns := request.owns_of_perform performed fun content here =>
            ours content (here ▸ List.mem_cons_self)
          have lists := request.lists_of_perform performed documentID
          refine ⟨?_, ?_, ?_⟩
          · have asked := Bool.eq_iff_iff.mpr (decide_eq_true_iff.trans owned)
            rw [owns, asked]
            simp [requests]
          · rw [lastAnswered_append]
            cases asks : request.asksFor documentID with
            | none =>
                rw [asks] at lists
                simpa only [lists] using listed
            | some asked =>
                rw [asks] at lists
                exact lists
          · intro content member
            apply ours content
            rcases List.mem_append.mp member with queued | coming
            · exact List.mem_append_left _ (List.mem_cons_of_mem _ queued)
            · cases List.mem_append.mp coming with
              | inl before => exact List.mem_append_right _ before
              | inr followUp => exact absurd followUp request.setDevice_not_mem_followUp
  | complete =>
      obtain ⟨rfl, request, rest, waiting, rfl⟩ := effect
      rw [requests, waiting] at owned
      rw [waiting] at ours
      refine ⟨?_, ?_, ?_⟩
      · simpa [requests] using owned
      · rw [List.append_nil]
        exact listed
      · intro content member
        apply ours content
        simpa using member

theorem consistent_start {uid documentID : String} (store : Store)
    : Consistent uid documentID store [] (start store) where
  owned := by simp [start, requests]
  listed := Iff.rfl
  ours := by simp [start]

theorem consistent_run {uid documentID : String} {store : Store} {events : List DeviceEvent}
    {answers : List (DeviceRequest × Bool)} {client : DeviceClient}
    (elsewhere : ¬ AddedByProfiles documentID events)
    (completed : run (handle uid) (start store) events = (answers, .ok client))
    : Consistent uid documentID store answers client := by
  apply run_trace_invariant
    (fun before answers current =>
      ¬ AddedByProfiles documentID before → Consistent uid documentID store answers current)
    _ (fun _ => consistent_start store) completed elsewhere
  intro before answers current event outputs next consistent handled elsewhere
  apply (consistent _).handle _ handled
  · intro ⟨drawn, same, device, member⟩
    exact elsewhere ⟨drawn, same, device, List.mem_append_left _ member⟩
  · intro ⟨drawn, same, device, member⟩
    exact elsewhere ⟨drawn, same, device, List.mem_append_right _ member⟩

end DeviceClient

-----------------------------------------------------------------------------------------
-- Successful operations
-----------------------------------------------------------------------------------------

/-- An operation on the account that succeeds is one in which both requests are served before
anything else happens.
-/
theorem run_addToDevice {uid documentID : String} {store next : Store} {adder : Adder}
    {device : Device} {writes : List Write}
    (called : callAccount uid store (.addToDevice adder documentID device) = (writes, .ok next))
    : ∃ (drawn : documentID ≠ "") (answers : List (DeviceRequest × Bool)),
        run (DeviceClient.handle uid) (DeviceClient.start store) [
            .addToDevice adder ⟨documentID, drawn⟩ device,
            .respond true,
            .complete,
            .respond true]
          = (answers, .ok (DeviceClient.start next)) := by
  obtain ⟨drawn, document, written, listed⟩ := callAccount_eq_ok called
  have set
      : store.perform (.setData .devices documentID document)
        = some (store.replace .devices ((store .devices).insert documentID document)) := rfl
  refine ⟨drawn, [(.setDevice documentID document, true), (.addToUserDevice documentID, true)], ?_⟩
  simp [run, DeviceClient.handle, DeviceClient.start, DeviceClient.issue, DeviceRequest.write,
    DeviceRequest.followUp, written, set, listed]

theorem run_removeFromDevice {uid devId : String} {store next : Store} {writes : List Write}
    (called : callAccount uid store (.removeFromDevice devId) = (writes, .ok next))
    : ∃ answers : List (DeviceRequest × Bool),
        run (DeviceClient.handle uid) (DeviceClient.start store)
            [.removeFromDevice devId, .respond true, .complete, .respond true]
          = (answers, .ok (DeviceClient.start next)) := by
  obtain ⟨owned, -⟩ := guarded_eq_ok called
  have unlisted
      : (store.replace .devices ((store .devices).erase devId)).perform
            (removeFromUserDevice uid devId)
          = some next :=
    callAccount_eq_ok called
  have deleted
      : store.perform (removeFromDevice devId)
        = some (store.replace .devices ((store .devices).erase devId)) := rfl
  refine ⟨[(.removeFromDevice devId, true), (.removeFromUserDevice devId, true)], ?_⟩
  simp [run, DeviceClient.handle, DeviceClient.start, DeviceClient.issue, DeviceRequest.write,
    DeviceRequest.followUp, owned, deleted, unlisted]

/-- The list and the collection agree on the device. -/
def ListAgrees (uid documentID : String) (store : Store) : Prop :=
  store.Lists uid documentID ↔ store.Owns uid documentID

/-- In every quiet state the list and the collection agree on a device that is not added by
`ProfilesViewController`, unless the last request about it has failed. Then the device is
owned or not as that request asked.
-/
theorem deviceList_agrees {uid : String} {store : Store}
    (agree : ∀ documentID, ListAgrees uid documentID store) {events : List DeviceEvent}
    {answers : List (DeviceRequest × Bool)} {client : DeviceClient}
    (completed
      : run (DeviceClient.handle uid) (DeviceClient.start store) events = (answers, .ok client))
    (quiet : client.Quiet) {documentID : String}
    (elsewhere : ¬ AddedByProfiles documentID events)
    : match lastAnswered documentID answers with
      | some (asked, false) => client.store.Owns uid documentID ↔ asked = true
      | some (_, true) | none => ListAgrees uid documentID client.store := by
  obtain ⟨owned, listed, -⟩ := DeviceClient.consistent_run elsewhere completed
  obtain ⟨noneOutstanding, noneComing⟩ := quiet
  rw [DeviceClient.requests, noneOutstanding, noneComing, List.append_nil, List.append_nil,
    lastAsked_answers] at owned
  cases last : lastAnswered documentID answers with
  | none =>
      simp only [last, Option.map_none, Option.getD_none, decide_eq_true_iff] at owned listed
      exact listed.trans ((agree documentID).trans owned.symm)
  | some answer =>
      obtain ⟨asked, served⟩ := answer
      simp only [last, Option.map_some, Option.getD_some] at owned listed
      cases served with
      | true => exact listed.trans owned.symm
      | false => exact owned

/-- The store with a new account and nothing else. -/
def newAccountStore (uid email : String) : Store :=
  Store.replace (fun _ => Table.empty) .users (Table.empty.insert uid (newUserDocument email))

theorem listAgrees_newAccountStore (uid email documentID : String)
    : ListAgrees uid documentID (newAccountStore uid email) := by
  apply iff_of_false
  · intro ⟨document, found, listed⟩
    rw [newAccountStore, Store.replace_self, Table.find?_insert, if_pos rfl] at found
    obtain rfl := Option.some.inj found
    exact List.not_mem_nil listed
  · intro owned
    obtain ⟨document, member, -⟩ := Store.owns_iff.mp owned
    exact Table.not_mem_empty member

/-- The events of adding a device in which the request to list it succeeds or fails. -/
def addingDevice (listed : Bool) : List DeviceEvent := [
  .addToDevice .addDeviceViewController ⟨"d1", by decide⟩ Device.init,
  .respond true,
  .complete,
  .respond listed]

theorem not_addedByProfiles_addingDevice (documentID : String) (listed : Bool)
    : ¬ AddedByProfiles documentID (addingDevice listed) := by
  simp [AddedByProfiles, addingDevice]

theorem deviceList_agrees_addingDevice
    : ∃ answers client,
        run (DeviceClient.handle "u1") (DeviceClient.start (newAccountStore "u1" "a@b.c"))
            (addingDevice true)
          = (answers, .ok client)
        ∧ ListAgrees "u1" "d1" client.store := by
  obtain ⟨answers, client, completed, quiet, last⟩
      : ∃ answers client,
          run (DeviceClient.handle "u1") (DeviceClient.start (newAccountStore "u1" "a@b.c"))
              (addingDevice true)
            = (answers, .ok client)
          ∧ client.Quiet
          ∧ lastAnswered "d1" answers = some (true, true) :=
    ⟨_, _, rfl, ⟨rfl, rfl⟩, rfl⟩
  have agrees := deviceList_agrees (fun _ => listAgrees_newAccountStore ..) completed quiet
    (not_addedByProfiles_addingDevice "d1" true)
  rw [last] at agrees
  exact ⟨answers, client, completed, agrees⟩

/-- A device stays unlisted when that request fails. -/
theorem addingDevice_disagrees
    : ¬ ∀ (uid : String) (store : Store) (events : List DeviceEvent)
          (answers : List (DeviceRequest × Bool)) (client : DeviceClient),
        (∀ documentID, ListAgrees uid documentID store)
        → run (DeviceClient.handle uid) (DeviceClient.start store) events = (answers, .ok client)
        → client.Quiet
        → ∀ documentID, ListAgrees uid documentID client.store := by
  intro claim
  have agrees := claim "u1" (newAccountStore "u1" "a@b.c") (addingDevice false) _ _
    (fun _ => listAgrees_newAccountStore ..) rfl ⟨rfl, rfl⟩ "d1"
  exact absurd (agrees.mpr (by decide)) (by decide)

end AgriGuardian.Accounts
