import AgriGuardian.Accounts.DashboardLoad

/-! The loading dashboard of an account.
The account machine answers the queries of `viewDidLoad` as the store does. So what is shown can
be told from the account alone: the id of the current device as it was at the first answer, the
devices as they were at the second, and the rides of the chosen one as they were at the third.
-/

namespace AgriGuardian.Accounts

open Swift
open Basis
open Rides
open FirebaseManager
open Dashboard (sampleServices twoOwners twoOwners_stored)

-----------------------------------------------------------------------------------------
-- The chain on the account
-----------------------------------------------------------------------------------------

namespace Account

/-- The queries of `viewDidLoad`, answered from the account and the stored rides. -/
def queries (services : LoadServices) (account : Account) (rides : Table String Document)
    : LoadQueries String where
  user :=
    match account.current with
    | some devId => .ok devId
    | none => .error .unexpectedNil
  choose devId := .ok (account.choose devId)
  withRides chosenDevice := do
    let ofDevice ← (rides.select (Document.matchesField "dev_id" chosenDevice.devId)).mapM
      fun entry => Ride.ofData services.earth services.now entry.2
    .ok (MainTabBarController.showing services.formatters ofDevice chosenDevice)

end Account

/-- The account with its dashboard that is loading. Of the user only the id of the current device
is kept.
-/
structure AccountDashboard where
  account : Account
  rides : Table String Document
  loading : Loading String

inductive AccountEvent
  | request (request : TenantRequest)
  | setRides (rides : Table String Document)
  | answer (served : Bool)

namespace AccountDashboard

def handle (services : LoadServices) (uid : String)
    : Handler AccountDashboard AccountEvent Bool Empty
  | dashboard, .request request =>
      let (answers, outcome) := dashboard.account.handle uid request
      (answers, outcome.map fun account => { dashboard with account := account })
  | dashboard, .setRides rides => ([], .ok { dashboard with rides := rides })
  | dashboard, .answer served =>
      let queries := dashboard.account.queries services dashboard.rides
      ([], .ok { dashboard with loading := dashboard.loading.answer queries served })

end AccountDashboard

namespace Account

variable {services : LoadServices} {uid : String} {store : Store} {account : Account}

/-- The rides of a device are loaded from the collection of rides alone. -/
theorem withRides_queries (account : Account) (chosenDevice : Device)
    : (account.queries services (store .ridehistory)).withRides chosenDevice
      = (MainTabBarController.queries services store uid).withRides chosenDevice := by
  simp only [queries, MainTabBarController.queries, getRides,
    Rides.FirebaseManager.organizeUserRides_eq_history, ok_bind, MainTabBarController.showing]

/-- A stored account answers the queries like the store, as far as it knows the user. -/
theorem Stored.map_answer (stored : Stored uid store account) (served : Bool)
    (loading : Loading User)
    : (loading.answer (MainTabBarController.queries services store uid) served).map
        (fun currUser => currUser.currentDevice.devId)
      = (loading.map fun currUser => currUser.currentDevice.devId).answer
          (account.queries services (store .ridehistory)) served := by
  refine Loading.map_answer ?_ ?_ account.withRides_queries served loading
  · have user := stored.user
    simp only [queries, MainTabBarController.queries, getUser]
    generalize (store .users).find? uid = found, account.current = current at user
    cases user with
    | none => rfl
    | some reads =>
        obtain ⟨currUser, read, named⟩ := reads.ofData uid
        simp only [read, Except.map, named]
  · intro currUser
    simp only [queries, MainTabBarController.queries, stored.getDevices_eq, ok_bind,
      loadCurrDev_eq]

end Account

namespace AccountDashboard

/-- What concerns the account of the user. -/
def ofUser (uid : String) : DashboardEvent → Option AccountEvent
  | .request other request => if other = uid then some (.request request) else none
  | .setRides rides => some (.setRides rides)
  | .answer served => some (.answer served)

variable {services : LoadServices} {uid : String}

/-- The store has the account, its rides, and a dashboard that has got as far. -/
structure Shows (uid : String) (dashboard : Dashboard) (twin : AccountDashboard) : Prop where
  stored : Account.Stored uid dashboard.backend.store twin.account
  records : dashboard.backend.Records uid
  rides : dashboard.backend.store .ridehistory = twin.rides
  loading : dashboard.loading.map (fun currUser => currUser.currentDevice.devId) = twin.loading

/-- Requests change no rides. -/
theorem ridehistory_of_handle {backend next : Backend} {other : String}
    {request : TenantRequest} {answers : List (String × Bool)}
    (handled : backend.handle (other, request) = (answers, .ok next))
    : next.store .ridehistory = backend.store .ridehistory := by
  obtain ⟨-, ⟨-, -, -, rfl⟩ | ⟨write, built, -, rfl⟩⟩ := Backend.handle_eq_ok handled
  · rfl
  · apply backend.store.serve_frame
    rcases TenantRequest.write_cases built with
      ⟨users, -⟩ | ⟨-, -, -, -, -, -, rfl⟩ | ⟨-, -, rfl⟩
    · simp [users]
    · simp [Write.collection]
    · simp [Write.collection]

/-- The dashboard that loads from the backend refines the one that loads from the account. -/
theorem refinement (signedIn : uid ≠ "")
    : Refinement (Dashboard.handle services uid) (handle services uid)
        (Shows uid) (ofUser uid) (Account.ofUser uid) some where
  hidden := by
    intro dashboard twin next event answers unseen shows handled
    cases event with
    | setRides | answer => cases unseen
    | request other request =>
        have different : Account.ofUser uid (other, request) = none := by
          simpa [ofUser, Account.ofUser] using unseen
        obtain ⟨served, kept⟩ := Dashboard.handle_request_eq_ok handled
        obtain ⟨⟨stored, records⟩, silent⟩ :=
          (Account.refinement signedIn).hidden different ⟨shows.stored, shows.records⟩ served
        refine ⟨⟨stored, records, ?_, ?_⟩, silent⟩
        · exact (ridehistory_of_handle served).trans shows.rides
        · rw [kept]
          exact shows.loading
  mirrored := by
    intro dashboard twin next event visible answers seen shows handled
    cases event with
    | request other request =>
        obtain ⟨served, kept⟩ := Dashboard.handle_request_eq_ok handled
        obtain ⟨own, rfl⟩ : other = uid ∧ .request request = visible := by
          simpa [ofUser] using seen
        have mine : Account.ofUser uid (other, request) = some request := by
          simp [Account.ofUser, own]
        obtain ⟨after, theirs, mirrored, ⟨stored, records⟩, same⟩ :=
          (Account.refinement signedIn).mirrored mine ⟨shows.stored, shows.records⟩ served
        refine ⟨{ twin with account := after }, theirs, ?_, ⟨stored, records, ?_, ?_⟩, same⟩
        · rw [handle, mirrored]
          rfl
        · exact (ridehistory_of_handle served).trans shows.rides
        · rw [kept]
          exact shows.loading
    | setRides rides =>
        obtain rfl := Option.some.inj seen
        obtain ⟨rfl, returned⟩ := Prod.mk.inj handled
        obtain rfl := Except.ok.inj returned
        refine ⟨_, _, rfl, ⟨?_, shows.records, rfl, shows.loading⟩, rfl⟩
        exact ⟨shows.stored.user, shows.stored.devices⟩
    | answer served =>
        obtain rfl := Option.some.inj seen
        obtain ⟨rfl, returned⟩ := Prod.mk.inj handled
        obtain rfl := Except.ok.inj returned
        refine ⟨_, _, rfl, ⟨shows.stored, shows.records, shows.rides, ?_⟩, rfl⟩
        rw [shows.stored.map_answer, shows.loading, shows.rides]

-----------------------------------------------------------------------------------------
-- Which account each answer comes from
-----------------------------------------------------------------------------------------

variable (services : LoadServices) (uid : String) (start : AccountDashboard)

/-- A query has been answered, from the account as it is after these of the events. -/
def ServedAt (events before : List AccountEvent) (current : AccountDashboard) : Prop :=
  before ++ [.answer true] <+: events
  ∧ (run (handle services uid) start before).2 = .ok current

/-- The first query has returned this id of the current device. -/
def UserRead (events : List AccountEvent) (devId : String) : Prop :=
  ∃ before current,
    ServedAt services uid start events before current
    ∧ current.account.current = some devId

/-- The second query, after the first, has returned the devices from which this one is chosen. -/
def DeviceRead (events : List AccountEvent) (chosenDevice : Device) : Prop :=
  ∃ before current devId,
    ServedAt services uid start events before current
    ∧ UserRead services uid start before devId
    ∧ chosenDevice = current.account.choose devId

/-- What the third query, after the second, has come to. -/
def RidesRead (events : List AccountEvent) (result : Checked Device) : Prop :=
  ∃ before current chosenDevice,
    ServedAt services uid start events before current
    ∧ DeviceRead services uid start before chosenDevice
    ∧ (current.account.queries services current.rides).withRides chosenDevice = result

/-- Where the chain has got to, and what it was told on the way. -/
def Explained (events : List AccountEvent) : Loading String → Prop
  | .gettingUser => True
  | .gettingDevices devId => UserRead services uid start events devId
  | .gettingRides chosenDevice => DeviceRead services uid start events chosenDevice
  | .shown device => RidesRead services uid start events (.ok device)
  | .failed => .answer false ∈ events
  | .trapped trap =>
      (∃ before current,
        ServedAt services uid start events before current
        ∧ current.account.current = none
        ∧ trap = .unexpectedNil)
      ∨ RidesRead services uid start events (.error trap)

variable {services uid start} {events more : List AccountEvent}

theorem ServedAt.later {before : List AccountEvent} {current : AccountDashboard}
    (served : ServedAt services uid start events before current)
    : ServedAt services uid start (events ++ more) before current :=
  ⟨served.1.trans (List.prefix_append events more), served.2⟩

/-- What explains a state explains it after other events, too. -/
theorem Explained.later {loading : Loading String}
    (explained : Explained services uid start events loading)
    : Explained services uid start (events ++ more) loading := by
  cases loading with
  | gettingUser => trivial
  | gettingDevices devId =>
      obtain ⟨before, current, served, known⟩ := explained
      exact ⟨before, current, served.later, known⟩
  | gettingRides chosenDevice =>
      obtain ⟨before, current, devId, served, known⟩ := explained
      exact ⟨before, current, devId, served.later, known⟩
  | shown device =>
      obtain ⟨before, current, chosenDevice, served, known⟩ := explained
      exact ⟨before, current, chosenDevice, served.later, known⟩
  | failed => exact List.mem_append_left _ explained
  | trapped trap =>
      rcases explained with
        ⟨before, current, served, known⟩ | ⟨before, current, chosenDevice, served, known⟩
      · exact Or.inl ⟨before, current, served.later, known⟩
      · exact Or.inr ⟨before, current, chosenDevice, served.later, known⟩

/-- A served query explains where it leads. Witness: the query that is outstanding. -/
theorem Explained.served {current : AccountDashboard}
    (reached : (run (handle services uid) start events).2 = .ok current)
    (explained : Explained services uid start events current.loading)
    : Explained services uid start (events ++ [.answer true])
        (current.loading.answer (current.account.queries services current.rides) true) := by
  have here : ServedAt services uid start (events ++ [.answer true]) events current :=
    ⟨List.prefix_rfl, reached⟩
  cases stage : current.loading with
  | gettingUser =>
      simp only [Loading.answer, if_true, Account.queries]
      cases known : current.account.current with
      | none => exact Or.inl ⟨events, current, here, known, rfl⟩
      | some devId => exact ⟨events, current, here, known⟩
  | gettingDevices devId =>
      rw [stage] at explained
      exact ⟨events, current, devId, here, explained, rfl⟩
  | gettingRides chosenDevice =>
      rw [stage] at explained
      simp only [Loading.answer, if_true]
      cases loaded : (current.account.queries services current.rides).withRides chosenDevice with
      | error trap => exact Or.inr ⟨events, current, chosenDevice, here, explained, loaded⟩
      | ok device => exact ⟨events, current, chosenDevice, here, explained, loaded⟩
  | shown | failed | trapped =>
      rw [stage] at explained
      exact explained.later

/-- A query that is not served ends the chain, if one was outstanding. -/
theorem Explained.refused {current : AccountDashboard} {queries : LoadQueries String}
    (explained : Explained services uid start events current.loading)
    : Explained services uid start (events ++ [.answer false])
        (current.loading.answer queries false) := by
  cases stage : current.loading with
  | gettingUser | gettingDevices | gettingRides =>
      exact List.mem_append_right _ (List.mem_singleton_self _)
  | shown | failed | trapped =>
      rw [stage] at explained
      exact explained.later

/-- Every state of the chain is explained by the events so far. -/
theorem explained_run {final : AccountDashboard} (fresh : start.loading = .gettingUser)
    (completed : (run (handle services uid) start events).2 = .ok final)
    : Explained services uid start events final.loading := by
  suffices both
      : (run (handle services uid) start events).2 = .ok final
        ∧ Explained services uid start events final.loading from both.2
  refine run_history_invariant
    (fun before current =>
      (run (handle services uid) start before).2 = .ok current
      ∧ Explained services uid start before current.loading)
    ?_ ⟨rfl, ?_⟩ completed
  · intro before current event outputs next ⟨reached, explained⟩ handled
    constructor
    · rw [run_append_ok (Prod.ext rfl reached), run_singleton, handled]
    · cases event with
      | request request =>
          have kept : next.loading = current.loading := by
            rw [handle] at handled
            rcases called : current.account.handle uid request with ⟨emitted, none | account⟩
            · cases none
            · rw [called] at handled
              obtain rfl := Except.ok.inj (Prod.mk.inj handled).2
              rfl
          rw [kept]
          exact explained.later
      | setRides rides =>
          obtain rfl := Except.ok.inj (Prod.mk.inj handled).2
          exact explained.later
      | answer served =>
          obtain rfl := Except.ok.inj (Prod.mk.inj handled).2
          cases served with
          | true => exact explained.served reached
          | false => exact explained.refused
  · rw [fresh]
    trivial

/-- However the requests of all users and changes of the rides come between the answers, the
dashboard of a user gets where that of its account gets, on what concerns the user alone. What
it shows is the device of the devices at the second answer that has the id of the first, or the
default one, with the rides of its id at the third.
-/
theorem dashboard_refines_account (signedIn : uid ≠ "") {backend : Backend} {account : Account}
    (stored : Account.Stored uid backend.store account) (records : backend.Records uid)
    {events : List DashboardEvent} {answers : List (String × Bool)} {final : Dashboard}
    (completed
      : run (Dashboard.handle services uid) ⟨backend, .gettingUser⟩ events
        = (answers, .ok final))
    : ∃ after,
        run (handle services uid) ⟨account, backend.store .ridehistory, .gettingUser⟩
            (events.filterMap (ofUser uid))
          = (answers.filterMap (Account.ofUser uid), .ok after)
        ∧ final.loading.map (fun currUser => currUser.currentDevice.devId) = after.loading
        ∧ Explained services uid ⟨account, backend.store .ridehistory, .gettingUser⟩
            (events.filterMap (ofUser uid)) after.loading := by
  have shows
      : Shows uid ⟨backend, .gettingUser⟩
          ⟨account, backend.store .ridehistory, .gettingUser⟩ :=
    ⟨stored, records, rfl, rfl⟩
  obtain ⟨after, ran, finals⟩ := (refinement signedIn).run_exact shows completed
  exact ⟨after, ran, finals.loading, explained_run rfl (congrArg Prod.snd ran)⟩

/-- A device that is removed between the first two answers, next to requests of another user. -/
private def removedMeanwhile : List DashboardEvent := [
  .request "u2" (.addToUserDevice "d41"),
  .answer true,
  .request "u1" (.removeFromDevice "d40"),
  .request "u2" (.setCurrDevice "d41"),
  .answer true,
  .request "u1" (.removeFromUserDevice "d40"),
  .answer true]

/-- The default device is shown, without rides. -/
theorem dashboard_refines_account_removed
    : ∃ final,
        run (Dashboard.handle sampleServices "u1") ⟨twoOwners, .gettingUser⟩ removedMeanwhile
          = ([("u2", true), ("u1", true), ("u2", true), ("u1", true)], .ok final)
        ∧ final.loading
          = .shown (MainTabBarController.showing sampleServices.formatters [] Device.init) := by
  obtain ⟨final, completed⟩
      : ∃ final,
          run (Dashboard.handle sampleServices "u1") ⟨twoOwners, .gettingUser⟩ removedMeanwhile
            = ([("u2", true), ("u1", true), ("u2", true), ("u1", true)], .ok final) :=
    ⟨_, rfl⟩
  obtain ⟨account, emitted, ran, stored, records⟩ := twoOwners_stored
  obtain ⟨after, loaded, same, -⟩ :=
    dashboard_refines_account (by decide) stored records completed
  refine ⟨final, completed, ?_⟩
  obtain rfl := Except.ok.inj (Prod.mk.inj ran).2
  obtain rfl := Except.ok.inj (Prod.mk.inj loaded).2
  cases stage : final.loading with
  | shown device =>
      rw [stage] at same
      obtain rfl
          : device
            = MainTabBarController.showing sampleServices.formatters [] Device.init :=
        Loading.shown.inj same
      rfl
  | gettingUser | gettingDevices | gettingRides | failed | trapped =>
      rw [stage] at same
      cases same

end AccountDashboard

end AgriGuardian.Accounts
