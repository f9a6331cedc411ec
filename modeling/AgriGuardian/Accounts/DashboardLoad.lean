import AgriGuardian.Accounts.TenantAccount

/-! Loading the dashboard, query by query.
The three queries of `viewDidLoad` are answered one after the other, and the store can change in
between. A query that is not served never calls its completion handler.
-/

namespace AgriGuardian.Accounts

open Swift
open Basis
open Rides
open FirebaseManager

-----------------------------------------------------------------------------------------
-- The chain of queries
-----------------------------------------------------------------------------------------

/-- How far `viewDidLoad` has got: which query is outstanding, with what is known from the ones
before it, or what has come of it. `κ` is what is kept of the user.
-/
inductive Loading (κ : Type)
  | gettingUser
  | gettingDevices (currUser : κ)
  | gettingRides (chosenDevice : Device)
  | shown (chosenDevice : Device)
  | failed
  | trapped (trap : Trap)

/-- What the completion handlers of the three queries compute, each at its own time. -/
structure LoadQueries (κ : Type) where
  user : Checked κ
  choose : κ → Checked Device
  withRides : Device → Checked Device

/-- The three completion handlers after each other. -/
def LoadQueries.chain {κ : Type} (queries : LoadQueries κ) : Checked Device := do
  let currUser ← queries.user
  let chosenDevice ← queries.choose currUser
  queries.withRides chosenDevice

namespace Loading

variable {κ μ : Type}

/-- Where a completion handler gets to. -/
def reached {α : Type} (next : α → Loading κ) : Checked α → Loading κ
  | .ok value => next value
  | .error trap => .trapped trap

/-- The answer to the outstanding query. Where there is none, there is no answer either. -/
def answer (queries : LoadQueries κ) (served : Bool) : Loading κ → Loading κ
  | .gettingUser => if served then reached gettingDevices queries.user else .failed
  | .gettingDevices currUser =>
      if served then reached gettingRides (queries.choose currUser) else .failed
  | .gettingRides chosenDevice =>
      if served then reached shown (queries.withRides chosenDevice) else .failed
  | .shown chosenDevice => .shown chosenDevice
  | .failed => .failed
  | .trapped trap => .trapped trap

/-- The same with less known of the user. -/
def map (know : κ → μ) : Loading κ → Loading μ
  | .gettingUser => .gettingUser
  | .gettingDevices currUser => .gettingDevices (know currUser)
  | .gettingRides chosenDevice => .gettingRides chosenDevice
  | .shown chosenDevice => .shown chosenDevice
  | .failed => .failed
  | .trapped trap => .trapped trap

/-- Queries that return the same, as far as it is known, are answered alike. -/
theorem map_answer {know : κ → μ} {queries : LoadQueries κ} {coarse : LoadQueries μ}
    (user : coarse.user = queries.user.map know)
    (choose : ∀ currUser, coarse.choose (know currUser) = queries.choose currUser)
    (rides : ∀ chosenDevice, coarse.withRides chosenDevice = queries.withRides chosenDevice)
    (served : Bool) (loading : Loading κ)
    : (loading.answer queries served).map know = (loading.map know).answer coarse served := by
  cases served with
  | false => cases loading <;> rfl
  | true =>
      cases loading with
      | gettingUser =>
          simp only [answer, map, if_true, user]
          cases queries.user <;> rfl
      | gettingDevices currUser =>
          simp only [answer, map, if_true, choose]
          cases queries.choose currUser <;> rfl
      | gettingRides chosenDevice =>
          simp only [answer, map, if_true, rides]
          cases queries.withRides chosenDevice <;> rfl
      | shown | failed | trapped => rfl

/-- Three answers from the same queries are the whole chain. -/
theorem answer_three (queries : LoadQueries κ)
    : ((gettingUser.answer queries true).answer queries true).answer queries true
      = reached shown queries.chain := by
  rw [LoadQueries.chain]
  simp only [answer, if_true]
  cases queries.user with
  | error trap => rfl
  | ok currUser =>
      simp only [reached, ok_bind]
      cases queries.choose currUser with
      | error trap => rfl
      | ok chosenDevice => rfl

end Loading

/-- What `viewDidLoad` takes from the library. -/
structure LoadServices where
  earth : Distance
  formatters : Formatters
  now : Date

namespace MainTabBarController

/-- The completion handlers of `viewDidLoad`, when the queries are answered from this store. -/
def queries (services : LoadServices) (store : Store) (uid : String) : LoadQueries User where
  user := getUser store uid
  choose currUser := do
    let currDevs ← getDevices store uid
    .ok (loadCurrDev currDevs currUser.currentDevice.devId)
  withRides chosenDevice := do
    let rides ← getRides services.earth services.now store chosenDevice.devId
    let history ← Rides.FirebaseManager.organizeUserRides services.formatters rides
    .ok { chosenDevice with rides := rides, rideHistory := history }

theorem chain_queries (services : LoadServices) (store : Store) (uid : String)
    : (queries services store uid).chain
      = loadChain services.earth services.formatters services.now store uid := by
  rw [LoadQueries.chain, loadChain, chooseDevice, queries]
  cases getUser store uid with
  | error trap => rfl
  | ok currUser => cases getDevices store uid <;> rfl

end MainTabBarController

-----------------------------------------------------------------------------------------
-- The chain next to the requests of all users
-----------------------------------------------------------------------------------------

/-- The backend with the dashboard of one user that is loading. -/
structure Dashboard where
  backend : Backend
  loading : Loading User

/-- Rides are stored by the devices, so their collection changes as it likes. -/
inductive DashboardEvent
  | request (uid : String) (request : TenantRequest)
  | setRides (rides : Table String Document)
  | answer (served : Bool)

namespace Backend

def setRides (backend : Backend) (rides : Table String Document) : Backend where
  store := backend.store.replace .ridehistory rides
  drawnFor := backend.drawnFor

/-- Rides are no documents of a user. -/
theorem Indistinct.setRides {uid : String} {backend twin : Backend}
    (same : Indistinct uid backend twin) (rides : Table String Document)
    : Indistinct uid (backend.setRides rides) (twin.setRides rides) where
  looks := ⟨same.looks.user, same.looks.devices, rfl⟩
  records := same.records
  fresh := same.fresh
  own := same.own

end Backend

namespace Dashboard

variable (services : LoadServices) (uid : String)

/-- The outputs are the answers to the requests of the users. -/
def handle : Handler Dashboard DashboardEvent (String × Bool) TenantFailure
  | dashboard, .request other request =>
      let (answers, outcome) := dashboard.backend.handle (other, request)
      (answers, outcome.map fun backend => { dashboard with backend := backend })
  | dashboard, .setRides rides =>
      ([], .ok { dashboard with backend := dashboard.backend.setRides rides })
  | dashboard, .answer served =>
      let queries := MainTabBarController.queries services dashboard.backend.store uid
      ([], .ok { dashboard with loading := dashboard.loading.answer queries served })

/-- Everything but the requests of the other users. -/
def concerns : DashboardEvent → Bool
  | .request other _ => other = uid
  | .setRides _ | .answer _ => true

variable {services : LoadServices} {uid : String}

/-- A request that is sent leaves the chain where it is. -/
theorem handle_request_eq_ok {dashboard next : Dashboard} {other : String}
    {request : TenantRequest} {answers : List (String × Bool)}
    (handled
      : handle services uid dashboard (.request other request)
        = (answers, .ok next))
    : dashboard.backend.handle (other, request) = (answers, .ok next.backend)
      ∧ next.loading = dashboard.loading := by
  rw [handle] at handled
  rcases called : dashboard.backend.handle (other, request) with ⟨emitted, failure | backend⟩
  · rw [called] at handled
    cases (Prod.mk.inj handled).2
  · rw [called] at handled
    obtain ⟨rfl, returned⟩ := Prod.mk.inj handled
    obtain rfl := Except.ok.inj returned
    exact ⟨rfl, rfl⟩

/-- Stores that look the same answer the queries alike. -/
theorem queries_eq {left right : Store} (looks : left.LooksSame uid right)
    : MainTabBarController.queries services left uid
      = MainTabBarController.queries services right uid := by
  have agree := Backend.agree_of_looksSame looks
  simp only [MainTabBarController.queries, agree.getUser_eq, agree.getDevices_eq, getRides,
    looks.rides]

/-- Purging the requests of the other users while the dashboard loads. -/
theorem purging (signedIn : uid ≠ "")
    : Purging (handle services uid) (concerns uid)
        (fun dashboard twin =>
          dashboard.backend.Indistinct uid twin.backend ∧ dashboard.loading = twin.loading)
        (fun answer => decide (answer.1 = uid)) where
  hidden := by
    intro dashboard twin next event answers elsewhere ⟨same, loading⟩ handled
    cases event with
    | setRides | answer => cases elsewhere
    | request other request =>
        obtain ⟨served, kept⟩ := handle_request_eq_ok handled
        have theirs : decide ((other, request).1 = uid) = false := elsewhere
        obtain ⟨later, unseen⟩ := (Backend.purging signedIn).hidden theirs same served
        exact ⟨⟨later, kept.trans loading⟩, unseen⟩
  consistent := by
    rintro dashboard ⟨backend, loading⟩ next event answers here ⟨same, rfl⟩ handled
    cases event with
    | request other request =>
        obtain ⟨served, kept⟩ := handle_request_eq_ok handled
        have own : decide ((other, request).1 = uid) = true := here
        obtain ⟨twinNext, twinAnswers, twinServed, later, seen⟩ :=
          (Backend.purging signedIn).consistent own same served
        refine ⟨⟨twinNext, dashboard.loading⟩, twinAnswers, ?_, ⟨later, kept⟩, seen⟩
        rw [handle, twinServed]
        rfl
    | setRides rides =>
        obtain ⟨rfl, returned⟩ := Prod.mk.inj handled
        obtain rfl := Except.ok.inj returned
        exact ⟨_, _, rfl, ⟨same.setRides rides, rfl⟩, rfl⟩
    | answer served =>
        obtain ⟨rfl, returned⟩ := Prod.mk.inj handled
        obtain rfl := Except.ok.inj returned
        refine ⟨_, _, rfl, ⟨same, ?_⟩, rfl⟩
        rw [queries_eq same.looks]

/-- However the requests of other users come between the answers to the queries, and whatever
the user itself requests, the chain gets where it gets without the others. Where the user
requests nothing and no ride changes, that is what the chain loads from the store at its start.
-/
theorem load_unaffected_by_others (signedIn : uid ≠ "") {dashboard final : Dashboard}
    (records : dashboard.backend.Records uid) {events : List DashboardEvent}
    {answers : List (String × Bool)}
    (completed : run (handle services uid) dashboard events = (answers, .ok final))
    : (∃ own alone,
        run (handle services uid) dashboard (events.filter (concerns uid))
          = (own, .ok alone)
        ∧ answers.filter (fun answer => answer.1 = uid) = own
        ∧ final.loading = alone.loading)
      ∧ (dashboard.loading = .gettingUser
        → events.filter (concerns uid) = [.answer true, .answer true, .answer true]
        → final.loading
          = .reached .shown
              (MainTabBarController.loadChain services.earth services.formatters services.now
                dashboard.backend.store uid)) := by
  obtain ⟨alone, ran, same, loading⟩ := (purging signedIn).run ⟨.refl records, rfl⟩ completed
  refine ⟨⟨_, alone, ran, rfl, loading⟩, ?_⟩
  intro start quiet
  rw [quiet] at ran
  obtain ⟨-, reached⟩ := Prod.mk.inj ran
  obtain rfl := Except.ok.inj reached
  rw [loading, start, Loading.answer_three, MainTabBarController.chain_queries]

/-- The users of `Account.lateAccount`, who each have a device. -/
def twoOwners : Backend :=
  match (run Backend.handle Backend.init Account.lateAccount).2 with
  | .ok backend => backend
  | .error _ => Backend.init

def sampleServices : LoadServices where
  earth := ⟨fun _ _ => 2, fun _ _ => zero_le_two⟩
  formatters := ⟨fun _ => "2020", fun _ => "March"⟩
  now := 0

theorem twoOwners_stored
    : ∃ account answers,
        run (Account.handle "u1") Account.new (Account.lateAccount.filterMap (Account.ofUser "u1"))
          = (answers, .ok account)
        ∧ Account.Stored "u1" twoOwners.store account
        ∧ twoOwners.Records "u1" := by
  have records : Backend.init.Records "u1" := by
    intro documentID document here
    cases here
  have completed : run Backend.handle Backend.init Account.lateAccount = (_, .ok twoOwners) := rfl
  obtain ⟨account, ran, stored, kept⟩ :=
    (Account.refinement (by decide)).run_exact ⟨Account.stored_new "u1", records⟩ completed
  exact ⟨account, _, ran, stored, kept⟩

/-- Another user pairs a device while the dashboard loads. -/
private def pairingMeanwhile : List DashboardEvent := [
  .answer true,
  .request "u2" (.setDevice .addDeviceViewController ⟨"d42", by decide⟩ Device.init),
  .answer true,
  .request "u2" (.addToUserDevice "d42"),
  .answer true]

theorem load_unaffected_by_others_pairing
    : ∃ final,
        run (handle sampleServices "u1") ⟨twoOwners, .gettingUser⟩ pairingMeanwhile
          = ([("u2", true), ("u2", true)], .ok final)
        ∧ final.loading
          = .shown (MainTabBarController.showing sampleServices.formatters []
              (({ Device.init with name := "Barn" } : Device).stored "u1" "d40")) := by
  obtain ⟨final, completed⟩
      : ∃ final,
          run (handle sampleServices "u1") ⟨twoOwners, .gettingUser⟩ pairingMeanwhile
            = ([("u2", true), ("u2", true)], .ok final) :=
    ⟨_, rfl⟩
  obtain ⟨account, answers, ran, stored, records⟩ := twoOwners_stored
  have loaded := (load_unaffected_by_others (by decide) records completed).2 rfl rfl
  refine ⟨final, completed, loaded.trans ?_⟩
  have chose
      : MainTabBarController.chooseDevice twoOwners.store "u1"
        = .ok (({ Device.init with name := "Barn" } : Device).stored "u1" "d40") :=
    rfl
  have none
      : getRides sampleServices.earth sampleServices.now twoOwners.store "d40" = .ok [] :=
    rfl
  rw [MainTabBarController.loadChain_of_rides chose none]
  rfl

end Dashboard

end AgriGuardian.Accounts
