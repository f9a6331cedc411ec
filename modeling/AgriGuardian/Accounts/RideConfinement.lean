import AgriGuardian.Accounts.LoadChain
import AgriGuardian.Rides.Filing

/-! What the rides on the dashboard depend on.
The load chain queries the rides of the chosen device. Where no device of the user is
chosen, it queries those whose device id is empty, which belong to nobody.
-/

namespace AgriGuardian.Accounts

open Swift
open Basis
open Rides
open FirebaseManager

/-- The user owns a device with this id. -/
def Store.OwnsDevice (store : Store) (uid devId : String) : Prop :=
  ∃ entry ∈ store .devices,
    entry.2.matchesField "uid" uid = true ∧ entry.2.matchesField "devId" devId = true

/-- Two stores agree on the document of the user, the devices of the user and the rides of
these devices.
-/
structure Store.Agree (uid : String) (left right : Store) : Prop where
  user : (left .users).find? uid = (right .users).find? uid
  devices
    : ∀ entry, entry.2.matchesField "uid" uid = true
        → (entry ∈ left .devices ↔ entry ∈ right .devices)
  rides
    : ∀ devId, left.OwnsDevice uid devId
        → ∀ entry, entry.2.matchesField "dev_id" devId = true
            → (entry ∈ left .ridehistory ↔ entry ∈ right .ridehistory)

namespace Store.Agree

variable {uid : String} {left right : Store}

theorem ownsDevice_iff (agree : Agree uid left right) {devId : String}
    : left.OwnsDevice uid devId ↔ right.OwnsDevice uid devId := by
  constructor
  · intro ⟨entry, member, owner, named⟩
    exact ⟨entry, (agree.devices entry owner).mp member, owner, named⟩
  · intro ⟨entry, member, owner, named⟩
    exact ⟨entry, (agree.devices entry owner).mpr member, owner, named⟩

theorem getUser_eq (agree : Agree uid left right) : getUser left uid = getUser right uid := by
  rw [getUser, getUser, agree.user]

theorem getDevices_eq (agree : Agree uid left right)
    : getDevices left uid = getDevices right uid := by
  rw [getDevices, getDevices, Table.select_congr agree.devices]

theorem chooseDevice_eq (agree : Agree uid left right)
    : MainTabBarController.chooseDevice left uid
      = MainTabBarController.chooseDevice right uid := by
  rw [MainTabBarController.chooseDevice, MainTabBarController.chooseDevice, agree.getUser_eq,
    agree.getDevices_eq]

/-- The rides of an owned device are the same. -/
theorem getRides_eq (agree : Agree uid left right) {devId : String}
    (owned : left.OwnsDevice uid devId) (earth : Distance) (now : Date)
    : getRides earth now left devId = getRides earth now right devId := by
  rw [getRides, getRides, Table.select_congr (agree.rides devId owned)]

end Store.Agree

/-- Every device that is returned is owned, and the other way round. -/
theorem mem_getDevices_iff {store : Store} {uid devId : String} {devices : List Device}
    (returned : getDevices store uid = .ok devices)
    : (∃ device ∈ devices, device.devId = devId) ↔ store.OwnsDevice uid devId := by
  constructor
  · intro ⟨device, member, named⟩
    obtain ⟨entry, selected, read⟩ := (mem_mapM_iff returned).mp member
    obtain ⟨stored, owner⟩ := Table.mem_select.mp selected
    refine ⟨entry, stored, owner, Document.matchesField_iff.mpr ?_⟩
    rw [(Device.ofData_eq_ok read).2, named]
  · intro ⟨entry, stored, owner, named⟩
    have selected := Table.mem_select.mpr ⟨stored, owner⟩
    obtain ⟨device, read⟩ := mapM_eq_ok returned entry selected
    refine ⟨device, (mem_mapM_iff returned).mpr ⟨entry, selected, read⟩, ?_⟩
    have id := (Device.ofData_eq_ok read).2.symm.trans (Document.matchesField_iff.mp named)
    simpa using id

/-- The rides that are returned are of the device asked for. -/
theorem devId_of_mem_getRides {earth : Distance} {now : Date} {store : Store} {devId : String}
    {rides : List Ride} (returned : getRides earth now store devId = .ok rides)
    : ∀ ride ∈ rides, ride.devId = devId := by
  intro ride member
  obtain ⟨entry, selected, read⟩ := (mem_mapM_iff returned).mp member
  have asked := Document.matchesField_iff.mp (Table.mem_select.mp selected).2
  have named := field_asString_eq_ok.mp (Ride.ofData_eq_ok read).1
  simpa using named.symm.trans asked

namespace MainTabBarController

/-- The chain has a device of the user to open on. It has one when the stored id is that of
a device of the user, or is empty and the user has devices. The default device has the
empty id, which a device of the user could have as well.
-/
def OpensOnOwned (store : Store) (uid : String) : Prop :=
  ∀ user devices,
    getUser store uid = .ok user
    → getDevices store uid = .ok devices
    → store.OwnsDevice uid user.currentDevice.devId
      ∨ (user.currentDevice.devId = "" ∧ devices ≠ [])
      ∨ store.OwnsDevice uid ""

/-- Whether the chosen device is owned. Witness: the cases of the choice. -/
theorem ownsDevice_loadCurrDev_iff {store : Store} {uid : String} {devices : List Device}
    (returned : getDevices store uid = .ok devices) (devId : String)
    : store.OwnsDevice uid (loadCurrDev devices devId).devId
      ↔ store.OwnsDevice uid devId ∨ (devId = "" ∧ devices ≠ []) ∨ store.OwnsDevice uid "" := by
  cases loadCurrDev_cases devices devId with
  | inl chosen =>
      obtain ⟨member, stored, first⟩ := chosen
      have owned := (mem_getDevices_iff returned).mp ⟨_, member, rfl⟩
      refine iff_of_true owned ?_
      by_cases empty : devId = ""
      · exact Or.inr (Or.inl ⟨empty, List.ne_nil_of_mem member⟩)
      · exact Or.inl (stored empty ▸ owned)
  | inr default =>
      obtain ⟨initial, missing⟩ := default
      rw [initial]
      constructor
      · exact fun owned => Or.inr (Or.inr owned)
      · intro either
        split at missing
        · rename_i empty
          rcases either with owned | ⟨-, nonempty⟩ | owned
          · rwa [empty] at owned
          · exact absurd missing nonempty
          · exact owned
        · rename_i stored
          rcases either with owned | ⟨empty, -⟩ | owned
          · obtain ⟨device, member, named⟩ := (mem_getDevices_iff returned).mpr owned
            exact absurd named (missing device member)
          · exact absurd empty stored
          · exact owned

/-- The chain opens on an owned device exactly when the device it chooses, if any, is one. -/
theorem opensOnOwned_iff {store : Store} {uid : String}
    : OpensOnOwned store uid
      ↔ ∀ chosen, chooseDevice store uid = .ok chosen → store.OwnsDevice uid chosen.devId := by
  constructor
  · intro opens chosen chose
    obtain ⟨user, loaded, later⟩ := bind_eq_ok.mp chose
    obtain ⟨devices, returned, choice⟩ := bind_eq_ok.mp later
    obtain rfl := Except.ok.inj choice
    exact (ownsDevice_loadCurrDev_iff returned _).mpr (opens user devices loaded returned)
  · intro owned user devices loaded returned
    apply (ownsDevice_loadCurrDev_iff returned _).mp
    apply owned
    rw [chooseDevice, loaded, ok_bind, returned, ok_bind]

variable (earth : Distance) (formatters : Formatters) (now : Date)

/-- Stores that the user cannot tell apart give the same device and history. -/
def Confined (store : Store) (uid : String) : Prop :=
  ∀ other, Store.Agree uid store other
    → loadChain earth formatters now store uid = loadChain earth formatters now other uid

/-- In no store that the user cannot tell apart from this one is a ride shown that belongs
to no device of the user.
-/
def ShowsOwnRides (store : Store) (uid : String) : Prop :=
  ∀ other chosen, Store.Agree uid store other
    → loadChain earth formatters now other uid = .ok chosen
    → ∀ ride ∈ chosen.rides ++ chosen.rideHistory.rides, other.OwnsDevice uid ride.devId

variable {earth formatters now}

theorem confined_of_opensOnOwned {store : Store} {uid : String}
    (opens : OpensOnOwned store uid)
    : Confined earth formatters now store uid := by
  intro other agree
  rw [loadChain, loadChain, ← agree.chooseDevice_eq]
  cases chose : chooseDevice store uid with
  | error trap => rfl
  | ok chosen =>
      have owned := opensOnOwned_iff.mp opens chosen chose
      rw [ok_bind, ok_bind, agree.getRides_eq owned]

/-- A returning chain has chosen a device, and shows the rides of its id. -/
theorem loadChain_eq_ok {store : Store} {uid : String} {shown : Device}
    (returned : loadChain earth formatters now store uid = .ok shown)
    : ∃ chosen,
        chooseDevice store uid = .ok chosen
        ∧ getRides earth now store chosen.devId = .ok shown.rides
        ∧ shown.rideHistory
          = Filing.history formatters (Rides.FirebaseManager.sortedByDate shown.rides) := by
  obtain ⟨chosen, chose, later⟩ := bind_eq_ok.mp returned
  obtain ⟨rides, found, filed⟩ := bind_eq_ok.mp later
  rw [Rides.FirebaseManager.organizeUserRides_eq_history, ok_bind] at filed
  obtain rfl := Except.ok.inj filed
  exact ⟨chosen, chose, found, rfl⟩

theorem showsOwnRides_of_opensOnOwned {store : Store} {uid : String}
    (opens : OpensOnOwned store uid)
    : ShowsOwnRides earth formatters now store uid := by
  intro other shown agree returned ride member
  obtain ⟨chosen, chose, found, filed⟩ := loadChain_eq_ok returned
  have owned := opensOnOwned_iff.mp opens chosen (agree.chooseDevice_eq.trans chose)
  have fetched : ride ∈ shown.rides := by
    cases List.mem_append.mp member with
    | inl listed => exact listed
    | inr inHistory =>
        rw [filed] at inHistory
        exact (List.mem_insertionSort _).mp (Filing.mem_of_mem_history inHistory)
  rw [devId_of_mem_getRides found ride fetched]
  exact agree.ownsDevice_iff.mp owned

-----------------------------------------------------------------------------------------
-- Rides of nobody
-----------------------------------------------------------------------------------------

/-- The document of a ride without locations and with the empty device id. -/
def nobodysRide : Document := rideDocument [] ⟨0, by decide⟩ "" false

/-- The rides of the table that have a device id. -/
def withDevId (rides : Table String Document) : Table String Document :=
  rides.filter fun document => !document.matchesField "dev_id" ""

/-- Rides with the empty id are not the user's, so replacing them is not seen. -/
theorem agree_replace {store : Store} {uid : String} (unowned : ¬ store.OwnsDevice uid "")
    {rides : Table String Document}
    (same
      : ∀ entry, entry.2.matchesField "dev_id" "" = false
          → (entry ∈ store .ridehistory ↔ entry ∈ rides))
    : Store.Agree uid store (store.replace .ridehistory rides) where
  user := by rw [Store.replace_of_ne _ (by decide)]
  devices entry _ := by rw [Store.replace_of_ne _ (by decide)]
  rides devId owned entry named := by
    rw [Store.replace_self]
    apply same
    have other : devId ≠ "" := by
      rintro rfl
      exact unowned owned
    rw [Bool.eq_false_iff]
    intro empty
    have equal := (Document.matchesField_iff.mp named).symm.trans
      (Document.matchesField_iff.mp empty)
    simp only [Option.some.injEq, FirestoreValue.string.injEq] at equal
    exact other equal

/-- The device with rides and their history. -/
def showing (formatters : Formatters) (rides : List Ride) (device : Device) : Device :=
  { device with
    rides := rides
    rideHistory := Filing.history formatters (Rides.FirebaseManager.sortedByDate rides) }

theorem loadChain_of_rides {store : Store} {uid : String} {chosen : Device}
    (chose : chooseDevice store uid = .ok chosen) {rides : List Ride}
    (found : getRides earth now store chosen.devId = .ok rides)
    : loadChain earth formatters now store uid
      = .ok (showing formatters rides chosen) := by
  rw [loadChain, chose, ok_bind, found, ok_bind,
    Rides.FirebaseManager.organizeUserRides_eq_history, ok_bind]
  rfl

theorem select_withDevId (rides : Table String Document)
    : (withDevId rides).select (Document.matchesField "dev_id" "") = [] := by
  rw [List.eq_nil_iff_forall_not_mem]
  intro entry member
  obtain ⟨kept, empty⟩ := Table.mem_select.mp member
  have named := (Table.mem_filter.mp kept).2
  rw [empty] at named
  cases named

theorem select_insert_nobodysRide (rides : Table String Document) (key : String)
    : ((withDevId rides).insert key nobodysRide).select (Document.matchesField "dev_id" "")
      = [(key, nobodysRide)] := by
  have alone
      : ((withDevId rides).insert key nobodysRide).select (Document.matchesField "dev_id" "")
        = (Table.empty.insert key nobodysRide).select (Document.matchesField "dev_id" "") := by
    apply Table.select_congr
    intro entry empty
    rw [Table.mem_insert, Table.mem_insert]
    apply or_congr_right
    refine iff_of_false ?_ (fun inEmpty => Table.not_mem_empty inEmpty.1)
    intro kept
    have named := (Table.mem_filter.mp kept.1).2
    rw [empty] at named
    cases named
  exact alone

/-- Where the default device is opened, a store with one ride of nobody shows that ride, and
a store without such rides shows none. The user can tell neither from the given one.
-/
theorem exists_agreeing_stores {store : Store} {uid : String} {chosen : Device}
    (chose : chooseDevice store uid = .ok chosen)
    (unowned : ¬ store.OwnsDevice uid chosen.devId) (empty : chosen.devId = "")
    : ∃ without one ride,
        Store.Agree uid store without
        ∧ Store.Agree uid store one
        ∧ loadChain earth formatters now without uid = .ok (showing formatters [] chosen)
        ∧ loadChain earth formatters now one uid = .ok (showing formatters [ride] chosen)
        ∧ ride.devId = "" := by
  obtain ⟨key, fresh⟩ := (withDevId (store .ridehistory)).exists_fresh
  obtain ⟨ride, read, -, -⟩ := Ride.ofData_rideDocument earth now [] ⟨0, by decide⟩ "" false
  have id : ride.devId = "" := by
    have named := field_asString_eq_ok.mp (Ride.ofData_eq_ok read).1
    exact FirestoreValue.string.inj (Option.some.inj named).symm
  rw [empty] at unowned
  have agreeWithout : Store.Agree uid store
      (store.replace .ridehistory (withDevId (store .ridehistory))) := by
    apply agree_replace unowned
    intro entry named
    rw [withDevId, Table.mem_filter, named]
    simp
  have agreeOne : Store.Agree uid store
      (store.replace .ridehistory ((withDevId (store .ridehistory)).insert key nobodysRide)) := by
    apply agree_replace unowned
    intro entry named
    have other : entry ≠ (key, nobodysRide) := by
      rintro rfl
      cases named
    rw [Table.mem_insert, withDevId, Table.mem_filter, named]
    constructor
    · intro member
      refine Or.inr ⟨⟨member, rfl⟩, ?_⟩
      intro here
      apply fresh entry.2
      rw [← here, withDevId, Table.mem_filter, named]
      exact ⟨member, rfl⟩
    · intro either
      cases either with
      | inl same => exact absurd same other
      | inr kept => exact kept.1.1
  refine ⟨_, _, ride, agreeWithout, agreeOne, ?_, ?_, id⟩
  · apply loadChain_of_rides (agreeWithout.chooseDevice_eq.symm.trans chose)
    rw [getRides, Store.replace_self, empty, select_withDevId]
    rfl
  · apply loadChain_of_rides (agreeOne.chooseDevice_eq.symm.trans chose)
    rw [getRides, Store.replace_self, empty, select_insert_nobodysRide]
    exact mapM_eq_ok_iff.mpr (.cons read .nil)

/-- The chosen device is owned or the default one. -/
theorem devId_chooseDevice {store : Store} {uid : String} {chosen : Device}
    (chose : chooseDevice store uid = .ok chosen)
    (unowned : ¬ store.OwnsDevice uid chosen.devId)
    : chosen.devId = "" := by
  obtain ⟨user, loaded, later⟩ := bind_eq_ok.mp chose
  obtain ⟨devices, returned, choice⟩ := bind_eq_ok.mp later
  obtain rfl := Except.ok.inj choice
  cases loadCurrDev_cases devices user.currentDevice.devId with
  | inl owned => exact absurd ((mem_getDevices_iff returned).mp ⟨_, owned.1, rfl⟩) unowned
  | inr default => rw [default.1]; rfl

/-- What the dashboard shows depends on the user's own data alone, and it shows rides of
the user's devices alone, both exactly when the load chain has an owned device to open on.
-/
theorem confined_iff (earth : Distance) (formatters : Formatters) (now : Date) (store : Store)
    (uid : String)
    : (Confined earth formatters now store uid ↔ OpensOnOwned store uid)
      ∧ (ShowsOwnRides earth formatters now store uid ↔ OpensOnOwned store uid) := by
  refine ⟨⟨?_, confined_of_opensOnOwned⟩, ⟨?_, showsOwnRides_of_opensOnOwned⟩⟩
  · intro confined
    apply opensOnOwned_iff.mpr
    intro chosen chose
    by_contra unowned
    obtain ⟨without, one, ride, agreeWithout, agreeOne, shownWithout, shownOne, -⟩ :=
      @exists_agreeing_stores earth formatters now store uid chosen chose unowned
        (devId_chooseDevice chose unowned)
    have same := (confined without agreeWithout).symm.trans (confined one agreeOne)
    rw [shownWithout, shownOne] at same
    exact absurd (congrArg Device.rides (Except.ok.inj same)) (by simp [showing])
  · intro own
    apply opensOnOwned_iff.mpr
    intro chosen chose
    by_contra unowned
    obtain ⟨without, one, ride, -, agreeOne, -, shownOne, empty⟩ :=
      @exists_agreeing_stores earth formatters now store uid chosen chose unowned
        (devId_chooseDevice chose unowned)
    have owned := own one _ agreeOne shownOne ride (by simp [showing])
    rw [empty, ← devId_chooseDevice chose unowned] at owned
    exact unowned (agreeOne.ownsDevice_iff.mpr owned)

/-- The store of a new account, without devices, next to some rides. -/
private def newAccount (rides : Table String Document) : Store
  | .users => Table.empty.insert "u1" (newUserDocument "rider@example.com")
  | .devices => Table.empty
  | .ridehistory => rides

private def anywhere : Distance where
  distance _ _ := 1
  nonneg _ _ := zero_le_one

/-- A new user without devices is shown the rides with the empty device id. -/
theorem loadChain_shows_nobodysRide
    : ¬ ∀ (earth : Distance) (formatters : Formatters) (now : Date) (uid : String)
          (left right : Store),
        Store.Agree uid left right
        → loadChain earth formatters now left uid = loadChain earth formatters now right uid := by
  intro claim
  let formatters : Formatters := ⟨fun _ => "2020", fun _ => "March"⟩
  have noDevice (rides : Table String Document) (devId : String)
      : ¬ (newAccount rides).OwnsDevice "u1" devId := by
    intro ⟨entry, member, _⟩
    exact Table.not_mem_empty member
  have agree
      : Store.Agree "u1" (newAccount Table.empty)
          (newAccount (Table.empty.insert "r1" nobodysRide)) :=
    ⟨rfl, fun _ _ => Iff.rfl, fun devId owned => absurd owned (noDevice _ devId)⟩
  have chose (rides : Table String Document)
      : chooseDevice (newAccount rides) "u1" = .ok Device.init :=
    rfl
  obtain ⟨ride, read, -, -⟩ := Ride.ofData_rideDocument anywhere 0 [] ⟨0, by decide⟩ "" false
  have shownNone := @loadChain_of_rides anywhere formatters 0 _ _ _ (chose Table.empty) [] rfl
  have shownOne :=
    @loadChain_of_rides anywhere formatters 0 _ _ _
      (chose (Table.empty.insert "r1" nobodysRide)) [ride]
      (mapM_eq_ok_iff.mpr (.cons read .nil))
  have same := shownNone.symm.trans ((claim anywhere formatters 0 "u1" _ _ agree).trans shownOne)
  exact absurd (congrArg Device.rides (Except.ok.inj same)) (by simp [showing])

end MainTabBarController

end AgriGuardian.Accounts
