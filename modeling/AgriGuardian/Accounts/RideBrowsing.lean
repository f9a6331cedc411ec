import AgriGuardian.Accounts.PairedDevice
import AgriGuardian.Accounts.RideConfinement
import AgriGuardian.Rides.NavigationTraps

/-! From the stored rides to the screens of the ride history.
What can be opened there are exactly the stored rides of the device the dashboard has
chosen, each of them under its own year and month. The screens trap at known events, and where
all stored rides are safe on the detail screen, only in cells of the table of months.
-/

namespace AgriGuardian.Rides.Filing

open Swift
open Basis
open HistoryNavigation

variable {formatters : Formatters} {rides : List Ride}

/-- Every ride is in the month of its own year. -/
theorem exists_own_month {ride : Ride} (member : ride ∈ rides)
    : ∃ year ∈ (history formatters rides).years, ∃ month ∈ year.months,
        ride ∈ month.rides
        ∧ year.yearName = formatters.yearOf ride
        ∧ month.monthName = formatters.monthOf ride := by
  have year : formatters.yearOf ride ∈ (rides.map formatters.yearOf).eraseDups :=
    List.mem_eraseDups.mpr (List.mem_map_of_mem member)
  have month
      : formatters.monthOf ride ∈ monthNames formatters rides (formatters.yearOf ride) :=
    mem_monthNames.mpr ⟨ride, member, by simp [isFiledUnder]⟩
  have own : ride ∈ bucket formatters rides (formatters.yearOf ride) (formatters.monthOf ride) :=
    or_self_iff.mp (mem_bucket_of_shared member member rfl rfl)
  exact ⟨_, List.mem_map_of_mem year, _, List.mem_map_of_mem month, own, rfl, rfl⟩

/-- A month holds rides of its own name, of whatever year. -/
theorem monthOf_of_hasMonth {month : RideMonth} (known : HasMonth (history formatters rides) month)
    {ride : Ride} (stored : ride ∈ month.rides)
    : formatters.monthOf ride = month.monthName := by
  obtain ⟨year, inHistory, inYear⟩ := known
  obtain ⟨yearName, -, rfl⟩ := List.mem_map.mp inHistory
  obtain ⟨monthName, -, rfl⟩ := List.mem_map.mp inYear
  exact of_decide_eq_true (List.mem_filter.mp stored).2

end AgriGuardian.Rides.Filing

namespace AgriGuardian.Accounts

open Swift
open Basis
open Rides
open FirebaseManager
open HistoryNavigation

/-- The ride is read from a document of the device. -/
def StoredRide (earth : Distance) (now : Date) (store : Store) (devId : String) (ride : Ride)
    : Prop :=
  ∃ documentID document,
    (documentID, document) ∈ store .ridehistory
    ∧ document.matchesField "dev_id" devId = true
    ∧ Ride.ofData earth now document = .ok ride

/-- The rides that are returned are those of the documents. -/
theorem mem_getRides_iff {earth : Distance} {now : Date} {store : Store} {devId : String}
    {rides : List Ride} (returned : getRides earth now store devId = .ok rides) {ride : Ride}
    : ride ∈ rides ↔ StoredRide earth now store devId ride := by
  rw [mem_mapM_iff returned]
  constructor
  · rintro ⟨⟨documentID, document⟩, selected, read⟩
    obtain ⟨stored, ofDevice⟩ := Table.mem_select.mp selected
    exact ⟨documentID, document, stored, ofDevice, read⟩
  · rintro ⟨documentID, document, stored, ofDevice, read⟩
    exact ⟨(documentID, document), Table.mem_select.mpr ⟨stored, ofDevice⟩, read⟩

namespace MainTabBarController

variable {earth : Distance} {services : HistoryServices} {formatters : Formatters} {now : Date}
  {store : Store} {uid : String} {shown : Device}

/-- The loaded device has the stored rides, filed in the order of their dates. -/
theorem rides_of_loadChain (loaded : loadChain earth formatters now store uid = .ok shown)
    : (∀ ride, ride ∈ shown.rides ↔ StoredRide earth now store shown.devId ride)
      ∧ shown.rideHistory
        = Filing.history formatters (Rides.FirebaseManager.sortedByDate shown.rides) := by
  obtain ⟨chosen, -, later⟩ := bind_eq_ok.mp loaded
  obtain ⟨rides, found, filed⟩ := bind_eq_ok.mp later
  rw [Rides.FirebaseManager.organizeUserRides_eq_history, ok_bind] at filed
  obtain rfl := Except.ok.inj filed
  exact ⟨fun ride => mem_getRides_iff found, rfl⟩

/-- Every stored ride of the chosen device can be reached, through the headers of its own
year and month. Whatever else is asked, tapped and answered, only such rides are opened, each
below the name of its month, and only their first locations are looked up. The events that trap
are known, and none but cells of the table of months if the stored rides are safe on the detail
screen and the sample file is there.
-/
theorem browsing_shows_stored_rides
    (loaded : loadChain services.earth formatters now store uid = .ok shown)
    : (∀ ride, StoredRide services.earth now store shown.devId ride
        → ∃ sectionIndex row item monthTitle month rideTitle final,
            run (navigate services) (start shown.rideHistory) [
                .titleForHeaderInSection sectionIndex,
                .didSelectRowAt sectionIndex row,
                .titleForHeaderInSection 0,
                .didSelectRowAt 0 item]
              = ([
                .header (formatters.yearOf ride),
                .openedMonth monthTitle month,
                .header (formatters.monthOf ride),
                .openedRide rideTitle ride],
                .ok final))
      ∧ (∀ events title ride,
          .openedRide title ride ∈ (run (navigate services) (start shown.rideHistory) events).1
          → StoredRide services.earth now store shown.devId ride)
      ∧ (∀ events final,
          (run (navigate services) (start shown.rideHistory) events).2 = .ok final
          → (∀ controller detail,
              final.pushed = .ride controller detail ∨ final.pushed = .map controller detail
              → StoredRide services.earth now store shown.devId detail.thisRide
                ∧ controller.titleForHeaderInSection = formatters.monthOf detail.thisRide)
            ∧ ∀ location ∈ final.geocoding,
                ∃ ride,
                  StoredRide services.earth now store shown.devId ride
                  ∧ ride.locations.head? = some location)
      ∧ (∀ events,
          Along (navigate services) (start shown.rideHistory) events
            fun _ navigation event =>
              Traps (navigation.navigate services event) ↔ navigation.Crashes services event)
      ∧ ((∀ ride,
            StoredRide services.earth now store shown.devId ride
            → RideDetailCollectionViewController.Safe services.detail ride)
        → services.HasSample
        → ∀ events,
            Along (navigate services) (start shown.rideHistory) events
              fun _ navigation event =>
                Traps (navigation.navigate services event)
                → navigation.pushed = .nothing
                  ∧ ∃ sectionIndex row, event = .cellForRowAt sectionIndex row) := by
  obtain ⟨stored, filed⟩ := rides_of_loadChain loaded
  have sorted (ride : Ride)
      : ride ∈ Rides.FirebaseManager.sortedByDate shown.rides ↔ ride ∈ shown.rides :=
    List.mem_insertionSort _
  have known {ride : Ride} (inHistory : ride ∈ shown.rideHistory.rides)
      : StoredRide services.earth now store shown.devId ride := by
    rw [filed] at inHistory
    exact (stored ride).mp ((sorted ride).mp (Filing.mem_of_mem_history inHistory))
  refine ⟨?_, ?_, ?_, ?_, ?_⟩
  · intro ride found
    rw [filed]
    obtain ⟨year, inHistory, month, listed, filedHere, yearName, monthName⟩ :=
      @Filing.exists_own_month formatters _ ride ((sorted ride).mpr ((stored ride).mpr found))
    obtain ⟨sectionIndex, row, item, monthTitle, rideTitle, ran⟩ :=
      @run_to_ride services _ _ _ _ inHistory listed filedHere
    rw [yearName, monthName] at ran
    exact ⟨sectionIndex, row, item, monthTitle, month, rideTitle, _, ran⟩
  · exact fun events title ride opened => known (mem_rides_of_opened opened)
  · intro events final reached
    have within := within_run reached
    constructor
    · intro controller detail onTop
      have shows : ShowsRide shown.rideHistory controller detail := by
        have opens := within.pushed
        rcases onTop with top | top <;> rwa [top] at opens
      have inHistory := shows.known
      rw [filed] at inHistory
      exact ⟨known shows.mem_rides, (Filing.monthOf_of_hasMonth inHistory shows.stored).symm⟩
    · intro location asked
      obtain ⟨ride, inHistory, first⟩ := within.geocoding location asked
      exact ⟨ride, known inHistory, first⟩
  · intro events before event after split navigation reached
    exact (traps_along services shown.rideHistory events before event after split navigation
      reached).2
  · intro safe sample events before event after split navigation reached trapped
    obtain ⟨within, traps⟩ :=
      traps_along services shown.rideHistory events before event after split navigation reached
    exact crashes_of_safe within (fun ride inHistory => safe ride (known inHistory)) sample
      (traps.mp trapped)

/-- A hundred samples at one place and time. -/
private def standing : List GPSSample := List.replicate 100 ⟨605474746, ⟨33, -117⟩, 0, 20⟩

/-- A user with a device, which has made a ride. -/
private def oneRide : Store
  | .users => Table.empty.insert "u1" (newUserDocument "a@b.c")
  | .devices =>
      match AddDeviceViewController.deviceDocument "u1" "d1" Device.init with
      | .ok document => Table.empty.insert "d1" document
      | .error _ => Table.empty
  | .ridehistory => Table.empty.insert "r1" (rideDocument standing ⟨2, by decide⟩ "d1" false)

/-- The geocoder finds a county everywhere, and the sample file has a row. -/
private def countyHistory : HistoryServices where
  detail := RideDetailCollectionViewController.countyServices
  earth := oneRow.earth
  foundation := oneRow.foundation
  bundle := oneRow.bundle
  now := oneRow.now

/-- The one stored ride is safe on the detail screen. -/
private theorem safe_of_oneRide {ride : Ride} (stored : StoredRide oneRow.earth 0 oneRide "d1" ride)
    : RideDetailCollectionViewController.Safe countyHistory.detail ride := by
  obtain ⟨documentID, document, member, -, read⟩ := stored
  obtain ⟨standingRide, decoded, locations, -⟩ :=
    Ride.ofData_rideDocument oneRow.earth 0 standing ⟨2, by decide⟩ "d1" false
  have only
      : documentID = "r1"
        ∧ document = rideDocument standing ⟨2, by decide⟩ "d1" false := by
    rcases Table.mem_insert.mp member with same | ⟨nowhere, -⟩
    · exact Prod.mk.inj same
    · exact absurd nowhere Table.not_mem_empty
  obtain ⟨-, rfl⟩ := only
  obtain rfl := Except.ok.inj (decoded.symm.trans read)
  obtain ⟨fields, -, readFrom⟩ := Ride.exists_readFrom read
  have first
      : standingRide.locations.head?
        = some (GPSSample.documentLocation ⟨605474746, ⟨33, -117⟩, 0, 20⟩) := by
    rw [locations]
    rfl
  have last
      : standingRide.locations.getLast?
        = some (GPSSample.documentLocation ⟨605474746, ⟨33, -117⟩, 0, 20⟩) := by
    rw [locations, standing, List.map_replicate]
    simp
  have time : standingRide.totalTime = 0 :=
    (readFrom.times _ first _ last).2.trans (sub_self _)
  refine (RideDetailCollectionViewController.safe_iff _ _).mpr ⟨?_, ?_, _, _, first, rfl⟩
  · simp [locations, standing]
  · rw [time]
    norm_num

theorem browsing_shows_stored_rides_one_ride
    : ∃ shown ride title events,
        loadChain oneRow.earth ⟨fun _ => "2020", fun _ => "March"⟩ 0 oneRide "u1" = .ok shown
        ∧ StoredRide oneRow.earth 0 oneRide "d1" ride
        ∧ .openedRide title ride
          ∈ (run (navigate countyHistory) (start shown.rideHistory) events).1
        ∧ ∀ others,
            Along (navigate countyHistory) (start shown.rideHistory) others
              fun _ navigation event =>
                Traps (navigation.navigate countyHistory event)
                → navigation.pushed = .nothing
                  ∧ ∃ sectionIndex row, event = .cellForRowAt sectionIndex row := by
  obtain ⟨ride, read, -, -⟩ :=
    Ride.ofData_rideDocument oneRow.earth 0 standing ⟨2, by decide⟩ "d1" false
  have chose : chooseDevice oneRide "u1" = .ok (Device.init.stored "u1" "d1") := rfl
  have loaded :=
    @loadChain_of_rides oneRow.earth ⟨fun _ => "2020", fun _ => "March"⟩ 0 oneRide "u1" _ chose
      [ride] (mapM_eq_ok_iff.mpr (.cons read .nil))
  have stored : StoredRide oneRow.earth 0 oneRide "d1" ride :=
    ⟨"r1", _, Table.find?_eq_some_iff.mp rfl, rfl, read⟩
  obtain ⟨reachable, -, -, -, untrapped⟩ :=
    @browsing_shows_stored_rides countyHistory _ _ _ _ _ loaded
  obtain ⟨sectionIndex, row, item, monthTitle, month, rideTitle, final, ran⟩ :=
    reachable ride stored
  refine ⟨_, ride, rideTitle, [.titleForHeaderInSection sectionIndex,
    .didSelectRowAt sectionIndex row, .titleForHeaderInSection 0, .didSelectRowAt 0 item],
    loaded, stored, ?_, untrapped (fun _ => safe_of_oneRide) exists_loadGPSData_oneRow⟩
  rw [ran]
  simp

end MainTabBarController

end AgriGuardian.Accounts
