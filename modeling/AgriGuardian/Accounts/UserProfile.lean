import Mathlib.Data.List.Permutation
import AgriGuardian.Accounts.LoadChain

/-! Loading the profile: two replies and a completion that share a variable.
Users are objects, so the variable and the completion refer to them. The reply with the user
replaces the object in the variable, the reply with the devices changes the one it finds
there, and the completion hands over the one the variable holds when it is called.
-/

namespace AgriGuardian.Accounts

open Swift
open Rides

/-- `User()` -/
def User.init : User where
  firstName := ""
  lastName := ""
  phoneNumber := ""
  emailAddress := ""
  uid := ""
  devices := []
  currentDevice := Device.init

/-- The reply of `getUser`, the reply of `getDevices`, and the call of `completion`. -/
inductive ProfileEvent
  | userReply
  | devicesReply
  | completion
  deriving DecidableEq, Repr

/-- The user objects so far, the one the captured variable refers to, and the one that was
handed to `completion`, once it was called.
-/
structure ProfileLoad where
  objects : List User
  currUser : ℕ
  handed : Option ℕ

namespace ProfileLoad

/-- `var currUser = User()` -/
def init : ProfileLoad := ⟨[User.init], 0, none⟩

/-- What an event does, when the replies carry the document of the user and the documents of
the devices.
-/
def step (uid : String) (userDoc : Document) (deviceDocs : List Document)
    (load : ProfileLoad)
    : ProfileEvent → Checked ProfileLoad
  | .userReply => do
      let user ← User.ofData uid userDoc
      .ok { load with objects := load.objects ++ [user], currUser := load.objects.length }
  | .devicesReply => do
      let devices ← deviceDocs.mapM Device.ofData
      let setDevices (user : User) : User := { user with devices := devices }
      .ok { load with objects := load.objects.modify load.currUser setDevices }
  | .completion => .ok { load with handed := some load.currUser }

/-- The object handed over, as it is now. -/
def handedUser (load : ProfileLoad) : Option User :=
  load.handed.bind fun object => load.objects[object]?

end ProfileLoad

/-- `loadUserProfile(completion:)` of a signed-in user, with its events in the given order. -/
def FirebaseManager.loadUserProfile (uid : String) (userDoc : Document)
    (deviceDocs : List Document) (order : List ProfileEvent)
    : Checked ProfileLoad :=
  order.foldlM (ProfileLoad.step uid userDoc deviceDocs) ProfileLoad.init

/-- The object has the profile fields of the user and exactly the devices. -/
structure User.Carries (object user : User) (devices : List Device) : Prop where
  firstName : object.firstName = user.firstName
  lastName : object.lastName = user.lastName
  phoneNumber : object.phoneNumber = user.phoneNumber
  emailAddress : object.emailAddress = user.emailAddress
  currentDevice : object.currentDevice.devId = user.currentDevice.devId
  devices : object.devices = devices

/-- The profile fields of the user are all empty. -/
structure User.Blank (user : User) : Prop where
  firstName : user.firstName = ""
  lastName : user.lastName = ""
  phoneNumber : user.phoneNumber = ""
  emailAddress : user.emailAddress = ""
  currentDevice : user.currentDevice.devId = ""

namespace User

theorem carries_self_iff {user : User} {own devices : List Device}
    : User.Carries { user with devices := own } user devices ↔ own = devices :=
  ⟨User.Carries.devices, fun same => ⟨rfl, rfl, rfl, rfl, rfl, same⟩⟩

/-- The user that the load starts with has a blank profile. -/
theorem init_carries_iff {user : User} {own devices : List Device}
    : User.Carries { User.init with devices := own } user devices
      ↔ user.Blank ∧ own = devices := by
  constructor
  · rintro ⟨firstName, lastName, phoneNumber, emailAddress, currentDevice, same⟩
    exact ⟨⟨firstName.symm, lastName.symm, phoneNumber.symm, emailAddress.symm,
      currentDevice.symm⟩, same⟩
  · rintro ⟨⟨firstName, lastName, phoneNumber, emailAddress, currentDevice⟩, same⟩
    exact ⟨firstName.symm, lastName.symm, phoneNumber.symm, emailAddress.symm,
      currentDevice.symm, same⟩

end User

/-- The first of two events comes before the second. -/
def Precedes (order : List ProfileEvent) (first second : ProfileEvent) : Prop :=
  order.idxOf first < order.idxOf second

instance (order : List ProfileEvent) (first second : ProfileEvent)
    : Decidable (Precedes order first second) :=
  inferInstanceAs (Decidable (_ < _))

namespace FirebaseManager

/-- Each of the three events, in some order. -/
def EachOnce (order : List ProfileEvent) : Prop :=
  order.Perm [.userReply, .devicesReply, .completion]

/-- After its events the object handed over carries the profile of the document of the user
and the devices of their documents.
-/
def LoadsProfile (uid : String) (userDoc : Document) (deviceDocs : List Document)
    (order : List ProfileEvent)
    : Prop :=
  ∃ user devices load object,
    User.ofData uid userDoc = .ok user
    ∧ deviceDocs.mapM Device.ofData = .ok devices
    ∧ loadUserProfile uid userDoc deviceDocs order = .ok load
    ∧ load.handedUser = some object
    ∧ object.Carries user devices

/-- The object handed over at the end. It is the user of the reply if that came before the
completion, and has the devices if they came while the variable referred to it.
-/
def handedOver (user : User) (devices : List Device) (order : List ProfileEvent) : User :=
  let object := if Precedes order .userReply .completion then user else User.init
  if Precedes order .userReply .completion ↔ Precedes order .userReply .devicesReply then
    { object with devices := devices }
  else object

/-- The six orders. -/
theorem eachOnce_iff {order : List ProfileEvent}
    : EachOnce order
      ↔ order ∈
        [[.userReply, .devicesReply, .completion], [.devicesReply, .userReply, .completion],
          [.devicesReply, .completion, .userReply], [.userReply, .completion, .devicesReply],
          [.completion, .userReply, .devicesReply], [.completion, .devicesReply, .userReply]] :=
  List.mem_permutations'.symm

theorem loadUserProfile_eq {uid : String} {userDoc : Document} {deviceDocs : List Document}
    {user : User} {devices : List Device} (read : User.ofData uid userDoc = .ok user)
    (readDevices : deviceDocs.mapM Device.ofData = .ok devices) {order : List ProfileEvent}
    (eachOnce : EachOnce order)
    : ∃ load,
        loadUserProfile uid userDoc deviceDocs order = .ok load
        ∧ load.handedUser = some (handedOver user devices order) := by
  have orders := eachOnce_iff.mp eachOnce
  simp only [List.mem_cons, List.not_mem_nil, or_false] at orders
  rcases orders with rfl | rfl | rfl | rfl | rfl | rfl
  all_goals
    simp only [loadUserProfile, List.foldlM_cons, List.foldlM_nil, ProfileLoad.step, read,
      readDevices, ok_bind, pure_eq_ok]
    exact ⟨_, rfl, rfl⟩

/-- The user of a document has no devices of its own. -/
theorem devices_ofData {uid : String} {userDoc : Document} {user : User}
    (read : User.ofData uid userDoc = .ok user)
    : user.devices = [] := by
  obtain ⟨firstName, -, read⟩ := bind_eq_ok.mp read
  obtain ⟨lastName, -, read⟩ := bind_eq_ok.mp read
  obtain ⟨phoneNumber, -, read⟩ := bind_eq_ok.mp read
  obtain ⟨emailAddress, -, read⟩ := bind_eq_ok.mp read
  obtain ⟨devId, -, read⟩ := bind_eq_ok.mp read
  obtain rfl := Except.ok.inj read
  rfl

/-- The object handed over carries the profile exactly when the user's reply came before the
completion, or has a blank profile, and the devices came while the variable referred to the
object handed over, or there are none.
-/
theorem handedOver_carries_iff {user : User} (noDevices : user.devices = [])
    (devices : List Device) (order : List ProfileEvent)
    : (handedOver user devices order).Carries user devices
      ↔ (Precedes order .userReply .completion ∨ user.Blank)
        ∧ ((Precedes order .userReply .completion ↔ Precedes order .userReply .devicesReply)
          ∨ devices = []) := by
  rw [handedOver]
  by_cases replied : Precedes order .userReply .completion
  · by_cases arrived : Precedes order .userReply .devicesReply
    · simp [replied, arrived, User.carries_self_iff]
    · have kept : user.Carries user devices ↔ user.devices = devices := User.carries_self_iff
      simp [replied, arrived, kept, noDevices, eq_comm]
  · by_cases arrived : Precedes order .userReply .devicesReply
    · have kept : User.init.Carries user devices ↔ user.Blank ∧ [] = devices :=
        User.init_carries_iff
      simp [replied, arrived, kept, eq_comm]
    · simp [replied, arrived, User.init_carries_iff]

/-- Loading the profile succeeds in an order of its events exactly when the reply with the
user precedes the completion, unless the profile is blank, and the reply with the devices
comes on the side of it on which the completion does, unless there are none.
-/
theorem loadsProfile_iff {uid : String} {userDoc : Document} {deviceDocs : List Document}
    {user : User} {devices : List Device} (read : User.ofData uid userDoc = .ok user)
    (readDevices : deviceDocs.mapM Device.ofData = .ok devices) {order : List ProfileEvent}
    (eachOnce : EachOnce order)
    : LoadsProfile uid userDoc deviceDocs order
      ↔ (Precedes order .userReply .completion ∨ user.Blank)
        ∧ ((Precedes order .userReply .completion ↔ Precedes order .userReply .devicesReply)
          ∨ devices = []) := by
  obtain ⟨load, loaded, handed⟩ := loadUserProfile_eq read readDevices eachOnce
  rw [← handedOver_carries_iff (devices_ofData read) devices order]
  constructor
  · rintro ⟨otherUser, otherDevices, otherLoad, object, otherRead, otherReadDevices, otherLoaded,
      otherHanded, carries⟩
    obtain rfl := Except.ok.inj (read.symm.trans otherRead)
    obtain rfl := Except.ok.inj (readDevices.symm.trans otherReadDevices)
    obtain rfl := Except.ok.inj (loaded.symm.trans otherLoaded)
    obtain rfl := Option.some.inj (handed.symm.trans otherHanded)
    exact carries
  · exact fun carries => ⟨user, devices, load, _, read, readDevices, loaded, handed, carries⟩

/-- The replies in the order of the requests, and the completion after them. -/
theorem loadsProfile_iff_inOrder
    : LoadsProfile "u1" (newUserDocument "a@b.c") []
          [.userReply, .devicesReply, .completion]
      ↔ (Precedes [.userReply, .devicesReply, .completion] .userReply .completion
            ∨ User.Blank ⟨"", "", "", "a@b.c", "u1", [], Device.init⟩)
        ∧ ((Precedes [.userReply, .devicesReply, .completion] .userReply .completion
              ↔ Precedes [.userReply, .devicesReply, .completion] .userReply .devicesReply)
          ∨ ([] : List Device) = []) :=
  loadsProfile_iff rfl rfl (List.Perm.refl _)

/-- The completion before the replies, as on one queue, hands over a user without a profile.
-/
theorem loadUserProfile_hands_over_blank
    : ¬ ∀ (uid : String) (userDoc : Document) (deviceDocs : List Document) (user : User)
          (devices : List Device) (order : List ProfileEvent),
        User.ofData uid userDoc = .ok user
        → deviceDocs.mapM Device.ofData = .ok devices
        → EachOnce order
        → LoadsProfile uid userDoc deviceDocs order := by
  intro claim
  let order : List ProfileEvent := [.completion, .userReply, .devicesReply]
  have eachOnce : EachOnce order := eachOnce_iff.mpr (by decide)
  have read : User.ofData "u1" (newUserDocument "a@b.c")
      = .ok ⟨"", "", "", "a@b.c", "u1", [], Device.init⟩ := rfl
  obtain ⟨user, devices, load, object, otherRead, -, loaded, handed, carries⟩ :=
    claim "u1" (newUserDocument "a@b.c") [] _ [] order read rfl eachOnce
  obtain rfl := Except.ok.inj (read.symm.trans otherRead)
  obtain rfl := Except.ok.inj loaded
  obtain rfl := Option.some.inj handed
  exact absurd carries.emailAddress (by decide)

end FirebaseManager

end AgriGuardian.Accounts
