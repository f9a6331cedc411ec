import AgriGuardian.Basis.Machine
import AgriGuardian.Accounts.DeviceOperations

/-! Signing in, over interleavings of the requests of several clients of one account.
Whether the account exists is one request and creating it another, which replaces the whole
document. A client that found no account may create it after another one has done so and
has stored devices in it.
-/

namespace AgriGuardian.Accounts

open Basis
open Rides
open FirebaseManager

/-- How far a client is with signing in. -/
inductive Phase
  | signedOut
  | creating
  | signedIn
  deriving DecidableEq

variable {Client : Type*} [DecidableEq Client]

/-- A request of a client that is answered, or that fails. -/
inductive ClientRequest (Client : Type*)
  | checkUser (client : Client)
  | createUser (client : Client) (email : String)
  | createUserFails (client : Client)
  | addToUserDevice (client : Client) (id : DocumentID)
  | setCurrDevice (client : Client) (devId : DocumentID)

structure SignInState (Client : Type*) where
  store : Store
  phase : Client → Phase

/-- A client sends no such request in its phase. -/
inductive RequestFailure
  | outOfTurn
  deriving DecidableEq

/-- `checkUser(completion:)`, the value it completes with. -/
def FirebaseManager.checkUser (store : Store) (uid : String) : Bool :=
  ((store .users).find? uid).isSome

namespace SignInState

def setPhase (state : SignInState Client) (client : Client) (phase : Phase)
    : SignInState Client :=
  { state with phase := Function.update state.phase client phase }

@[simp]
theorem phase_setPhase_self (state : SignInState Client) (client : Client) (phase : Phase)
    : (state.setPhase client phase).phase client = phase :=
  Function.update_self ..

theorem phase_setPhase_of_ne (state : SignInState Client) {client other : Client}
    (different : client ≠ other) (phase : Phase)
    : (state.setPhase other phase).phase client = state.phase client :=
  Function.update_of_ne different ..

def serve (state : SignInState Client) (write : Write) : SignInState Client :=
  { state with store := state.store.serve write }

/-- `sign(_:didSignInFor:withError:)` after the authentication, and the requests of signed-in
clients. The outputs are the values that `checkUser` completes with.
-/
def handle (uid : String)
    : Handler (SignInState Client) (ClientRequest Client) Bool RequestFailure
  | state, .checkUser client =>
      if state.phase client = .creating then ([], .error .outOfTurn)
      else
        let check := checkUser state.store uid
        ([check], .ok (state.setPhase client (if check == false then .creating else .signedIn)))
  | state, .createUser client email =>
      if state.phase client = .creating then
        ([], .ok ((state.serve (createUser email uid)).setPhase client .signedIn))
      else ([], .error .outOfTurn)
  | state, .createUserFails client =>
      if state.phase client = .creating then ([], .ok (state.setPhase client .signedIn))
      else ([], .error .outOfTurn)
  | state, .addToUserDevice client id =>
      if state.phase client = .signedIn then ([], .ok (state.serve (addToUserDevice uid id)))
      else ([], .error .outOfTurn)
  | state, .setCurrDevice client devId =>
      if state.phase client = .signedIn then ([], .ok (state.serve (setCurrDevice uid devId)))
      else ([], .error .outOfTurn)

end SignInState

/-- The user's document stores this id as the current device. -/
def Store.StoresCurrent (store : Store) (uid devId : String) : Prop :=
  ∃ document,
    (store .users).find? uid = some document
    ∧ document "currentDevice" = some (.string devId)

/-- Every id in the list of devices is still in it, and a current device is still that. -/
def KeepsAccount (uid : String) (before after : Store) : Prop :=
  (∀ id, before.Lists uid id → after.Lists uid id)
  ∧ ∀ devId, devId ≠ "" → before.StoresCurrent uid devId → after.StoresCurrent uid devId

theorem KeepsAccount.refl (uid : String) (store : Store) : KeepsAccount uid store store :=
  ⟨fun _ listed => listed, fun _ _ current => current⟩

namespace ClientRequest

/-- The requests of signing in. -/
def isSignIn : ClientRequest Client → Bool
  | .checkUser _ | .createUser .. | .createUserFails _ => true
  | .addToUserDevice .. | .setCurrDevice .. => false

end ClientRequest

/-- A request of signing in discards nothing of the account. -/
def SignInKeeps (uid : String) (state : SignInState Client) (request : ClientRequest Client)
    : Prop :=
  request.isSignIn = true
  → ∀ answers next,
      SignInState.handle uid state request = (answers, .ok next)
      → KeepsAccount uid state.store next.store

/-- What has happened to the account since a client found none. -/
inductive Progress
  | missing
  | created
  | stored
  deriving DecidableEq

/-- Nothing can be stored before the account is created. -/
def Progress.storing : Progress → Progress
  | .missing => .missing
  | .created | .stored => .stored

/-- A creation starts the account afresh. -/
def Progress.next (client : Client) (progress : Progress) : ClientRequest Client → Progress
  | .checkUser other => if other = client then .missing else progress
  | .createUser .. => .created
  | .createUserFails _ => progress
  | .addToUserDevice .. | .setCurrDevice .. => progress.storing

/-- The account after the requests served since the client's check, if that found none. -/
def sinceCheck (client : Client) (served : List (ClientRequest Client)) : Progress :=
  served.foldl (Progress.next client) .missing

/-- A client that found no account does not create it when, since its check, another client
has created it and a device has been stored in it.
-/
def CreatesInTime (served : List (ClientRequest Client)) (state : SignInState Client)
    : ClientRequest Client → Prop
  | .createUser client _ => state.phase client = .creating → sinceCheck client served ≠ .stored
  | _ => True

-----------------------------------------------------------------------------------------
-- What each request does
-----------------------------------------------------------------------------------------

theorem sinceCheck_append (client : Client) (served : List (ClientRequest Client))
    (request : ClientRequest Client)
    : sinceCheck client (served ++ [request])
      = (sinceCheck client served).next client request := by
  rw [sinceCheck, List.foldl_append]
  rfl

/-- The phase and the store after a request. -/
theorem handle_eq_ok {uid : String} {state next : SignInState Client}
    {request : ClientRequest Client} {answers : List Bool}
    (handled : SignInState.handle uid state request = (answers, .ok next))
    : match request with
      | .checkUser client =>
          next = state.setPhase client
            (if checkUser state.store uid == false then .creating else .signedIn)
      | .createUser client email =>
          state.phase client = .creating
          ∧ next = (state.serve (createUser email uid)).setPhase client .signedIn
      | .createUserFails client => next = state.setPhase client .signedIn
      | .addToUserDevice _ id => next = state.serve (addToUserDevice uid id)
      | .setCurrDevice _ devId => next = state.serve (setCurrDevice uid devId) := by
  cases request with
  | checkUser client =>
      obtain ⟨-, outcome⟩ := excluded_eq_ok handled
      exact (Except.ok.inj (congrArg Prod.snd outcome)).symm
  | createUser client email =>
      obtain ⟨creating, outcome⟩ := guarded_eq_ok handled
      exact ⟨creating, (Except.ok.inj (congrArg Prod.snd outcome)).symm⟩
  | createUserFails client =>
      obtain ⟨-, outcome⟩ := guarded_eq_ok handled
      exact (Except.ok.inj (congrArg Prod.snd outcome)).symm
  | addToUserDevice client id =>
      obtain ⟨-, outcome⟩ := guarded_eq_ok handled
      exact (Except.ok.inj (congrArg Prod.snd outcome)).symm
  | setCurrDevice client devId =>
      obtain ⟨-, outcome⟩ := guarded_eq_ok handled
      exact (Except.ok.inj (congrArg Prod.snd outcome)).symm

/-- The user's document is as far as the progress says. -/
def Store.Holds (store : Store) (uid : String) : Progress → Prop
  | .missing => (store .users).find? uid = none
  | .created => ∃ email, (store .users).find? uid = some (newUserDocument email)
  | .stored =>
      ((store .users).find? uid).isSome
      ∧ ((∃ id, store.Lists uid id) ∨ ∃ devId, devId ≠ "" ∧ store.StoresCurrent uid devId)

namespace Store

variable {uid : String} {store : Store}

/-- A created account has nothing stored in it. -/
theorem not_lists_newUserDocument {email id : String}
    (created : (store .users).find? uid = some (newUserDocument email))
    : ¬ store.Lists uid id := by
  intro ⟨document, found, listed⟩
  obtain rfl := Option.some.inj (created.symm.trans found)
  exact List.not_mem_nil listed

theorem not_storesCurrent_newUserDocument {email devId : String} (nonempty : devId ≠ "")
    (created : (store .users).find? uid = some (newUserDocument email))
    : ¬ store.StoresCurrent uid devId := by
  intro ⟨document, found, current⟩
  obtain rfl := Option.some.inj (created.symm.trans found)
  have same : some (FirestoreValue.string "") = some (.string devId) := current
  simp only [Option.some.injEq, FirestoreValue.string.injEq] at same
  exact nonempty same.symm

theorem find?_serve_createUser (store : Store) (uid email : String)
    : ((store.serve (createUser email uid)) .users).find? uid
      = some (newUserDocument email) := by
  have served
      : store.serve (createUser email uid)
        = store.replace .users ((store .users).insert uid (newUserDocument email)) := rfl
  rw [served, replace_self, Table.find?_insert, if_pos rfl]

/-- An update that stores a device, where there is an account. -/
theorem holds_serve_updateData {field : String} {change : FieldUpdate} {progress : Progress}
    (holds : store.Holds uid progress)
    (stores
      : ∀ next,
          store.perform (.updateData .users uid field change) = some next
          → (∃ id, next.Lists uid id) ∨ ∃ devId, devId ≠ "" ∧ next.StoresCurrent uid devId)
    : (store.serve (.updateData .users uid field change)).Holds uid progress.storing := by
  have stored (found : ((store .users).find? uid).isSome)
      : (store.serve (.updateData .users uid field change)).Holds uid .stored := by
    obtain ⟨document, here⟩ := Option.isSome_iff_exists.mp found
    have served
        : store.perform (.updateData .users uid field change)
          = some (store.replace .users
              ((store .users).insert uid (document.update field change))) := by
      simp only [perform, here]
      rfl
    rw [serve, served, Option.getD_some]
    refine ⟨?_, stores _ served⟩
    rw [replace_self, Table.find?_insert, if_pos rfl]
    rfl
  cases progress with
  | missing =>
      have missing : (store .users).find? uid = none := holds
      have failed : store.perform (.updateData .users uid field change) = none := by
        simp only [perform, missing]
        rfl
      rw [serve, failed]
      exact holds
  | created =>
      obtain ⟨email, found⟩ := holds
      exact stored (Option.isSome_of_eq_some found)
  | stored => exact stored holds.1

theorem holds_addToUserDevice {progress : Progress} (holds : store.Holds uid progress)
    (id : DocumentID)
    : (store.serve (addToUserDevice uid id)).Holds uid progress.storing := by
  apply holds_serve_updateData holds
  intro next served
  exact Or.inl ⟨id, (lists_addToUserDevice served).mpr (Or.inl rfl)⟩

theorem holds_setCurrDevice {progress : Progress} (holds : store.Holds uid progress)
    (devId : DocumentID)
    : (store.serve (setCurrDevice uid devId)).Holds uid progress.storing := by
  apply holds_serve_updateData holds
  intro next served
  obtain ⟨document, found, rfl⟩ := perform_updateData served
  refine Or.inr ⟨devId, devId.2, document.update "currentDevice" (.set (.string devId)), ?_, rfl⟩
  rw [replace_self, Table.find?_insert, if_pos rfl]

/-- Creating the account discards something exactly when something is stored in it. -/
theorem keepsAccount_createUser_iff {progress : Progress} (holds : store.Holds uid progress)
    (email : String)
    : KeepsAccount uid store (store.serve (createUser email uid)) ↔ progress ≠ .stored := by
  have created := find?_serve_createUser store uid email
  cases progress with
  | missing =>
      refine iff_of_true ⟨?_, ?_⟩ (by simp)
      · intro id ⟨document, found, _⟩
        cases holds.symm.trans found
      · intro devId _ ⟨document, found, _⟩
        cases holds.symm.trans found
  | created =>
      obtain ⟨previous, found⟩ := holds
      refine iff_of_true ⟨?_, ?_⟩ (by simp)
      · intro id listed
        exact absurd listed (not_lists_newUserDocument found)
      · intro devId nonempty current
        exact absurd current (not_storesCurrent_newUserDocument nonempty found)
  | stored =>
      refine iff_of_false ?_ (by simp)
      intro ⟨lists, current⟩
      cases holds.2 with
      | inl listed =>
          obtain ⟨id, listed⟩ := listed
          exact not_lists_newUserDocument created (lists id listed)
      | inr chosen =>
          obtain ⟨devId, nonempty, chosen⟩ := chosen
          exact not_storesCurrent_newUserDocument nonempty created
            (current devId nonempty chosen)

end Store

-----------------------------------------------------------------------------------------
-- Runs
-----------------------------------------------------------------------------------------

/-- For every client that found no account, the document is as far as the requests since
say.
-/
def Tracked (uid : String) (served : List (ClientRequest Client)) (state : SignInState Client)
    : Prop :=
  ∀ client, state.phase client = .creating → state.store.Holds uid (sinceCheck client served)

/-- Every request keeps track. Witness: the requests in turn. The check of a client starts
its own progress, and a creation that of all.
-/
theorem tracked_handle {uid : String} {served : List (ClientRequest Client)}
    {state next : SignInState Client} {request : ClientRequest Client} {answers : List Bool}
    (tracked : Tracked uid served state)
    (handled : SignInState.handle uid state request = (answers, .ok next))
    : Tracked uid (served ++ [request]) next := by
  intro client creating
  rw [sinceCheck_append]
  cases request with
  | checkUser other =>
      obtain rfl : next = _ := handle_eq_ok handled
      cases eq_or_ne client other with
      | inl same =>
          subst same
          rw [Progress.next, if_pos rfl]
          cases check : checkUser state.store uid with
          | true => simp [check] at creating
          | false =>
              have missing : (state.store .users).find? uid = none := by
                simpa [checkUser] using check
              exact missing
      | inr different =>
          rw [Progress.next, if_neg different.symm]
          rw [state.phase_setPhase_of_ne different] at creating
          exact tracked client creating
  | createUser other email =>
      obtain ⟨-, rfl⟩ := handle_eq_ok handled
      exact ⟨email, Store.find?_serve_createUser state.store uid email⟩
  | createUserFails other =>
      obtain rfl : next = _ := handle_eq_ok handled
      cases eq_or_ne client other with
      | inl same =>
          subst same
          simp at creating
      | inr different =>
          rw [state.phase_setPhase_of_ne different] at creating
          exact tracked client creating
  | addToUserDevice other id =>
      obtain rfl : next = _ := handle_eq_ok handled
      exact Store.holds_addToUserDevice (tracked client creating) id
  | setCurrDevice other devId =>
      obtain rfl : next = _ := handle_eq_ok handled
      exact Store.holds_setCurrDevice (tracked client creating) devId

/-- Whether a request discards nothing, from how far the account is. Witness: only creating
the account changes the store.
-/
theorem signInKeeps_iff {uid : String} {served : List (ClientRequest Client)}
    {state : SignInState Client} (tracked : Tracked uid served state)
    (request : ClientRequest Client)
    : SignInKeeps uid state request ↔ CreatesInTime served state request := by
  cases request with
  | checkUser client =>
      refine iff_of_true ?_ trivial
      intro _ answers next handled
      obtain rfl : next = _ := handle_eq_ok handled
      exact .refl uid state.store
  | createUser client email =>
      constructor
      · intro keeps creating
        have handled
            : SignInState.handle uid state (.createUser client email)
              = ([], .ok ((state.serve (createUser email uid)).setPhase client .signedIn)) :=
          if_pos creating
        exact (Store.keepsAccount_createUser_iff (tracked client creating) email).mp
          (keeps rfl [] _ handled)
      · intro inTime _ answers next handled
        obtain ⟨creating, rfl⟩ := handle_eq_ok handled
        exact (Store.keepsAccount_createUser_iff (tracked client creating) email).mpr
          (inTime creating)
  | createUserFails client =>
      refine iff_of_true ?_ trivial
      intro _ answers next handled
      obtain rfl : next = _ := handle_eq_ok handled
      exact .refl uid state.store
  | addToUserDevice client id => exact iff_of_true (fun signIn => by cases signIn) trivial
  | setCurrDevice client devId => exact iff_of_true (fun signIn => by cases signIn) trivial

/-- All clients are signed out. -/
def SignInState.start (store : Store) : SignInState Client := ⟨store, fun _ => .signedOut⟩

theorem tracked_run {uid : String} {store : Store} {requests : List (ClientRequest Client)}
    {state : SignInState Client}
    (reached
      : (run (SignInState.handle uid) (SignInState.start store) requests).2 = .ok state)
    : Tracked uid requests state := by
  apply run_history_invariant (Tracked uid) _ _ reached
  · intro served current request answers next tracked handled
    exact tracked_handle tracked handled
  · intro client creating
    cases creating

/-- Signing in discards nothing along a run exactly when every client that creates the
account does so in time.
-/
theorem signIn_keeps_iff (uid : String) (store : Store) (requests : List (ClientRequest Client))
    : Along (SignInState.handle uid) (SignInState.start store) requests
        (fun _ => SignInKeeps uid)
      ↔ Along (SignInState.handle uid) (SignInState.start store) requests CreatesInTime :=
  along_congr (fun _ _ request reached => signInKeeps_iff (tracked_run reached) request) requests

/-- Two clients find no account. The second one creates it when the first one has already
created it and added a device.
-/
def lateCreation : List (ClientRequest ℕ) := [
  .checkUser 1,
  .checkUser 2,
  .createUser 1 "a@b.c",
  .addToUserDevice 1 ⟨"quad", by decide⟩,
  .createUser 2 "a@b.c"]

theorem lateCreation_discards
    : ¬ ∀ (uid : String) (store : Store) (requests : List (ClientRequest ℕ)),
        Along (SignInState.handle uid) (SignInState.start store) requests
          (fun _ => SignInKeeps uid) := by
  intro claim
  have keeps := claim "u1" (fun _ => Table.empty) lateCreation (lateCreation.take 4)
    (.createUser 2 "a@b.c") [] rfl _ rfl rfl _ _ rfl
  exact absurd (keeps.1 "quad" (by decide)) (by decide)

end AgriGuardian.Accounts
