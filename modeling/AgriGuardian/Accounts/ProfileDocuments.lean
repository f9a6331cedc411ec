import AgriGuardian.Accounts.ProfilesScreen
import AgriGuardian.Accounts.DeviceOperations

/-! The documents behind the profiles screen. The id under which a profile is stored is drawn
when it is written, and deleting needs it again. The screen never stores it in the profile,
so what it deletes is not what it has created.
-/

namespace AgriGuardian.Accounts

open Swift
open Basis
open Rides

/-- The screen and the store, with the ids under which the profiles are stored, in their
order, and those of all documents that the screen has created.
-/
structure ProfileAccount where
  screen : ProfilesViewController
  store : Store
  stored : List String
  created : List String

/-- An event that does not happen, or an id that Firestore does not draw. -/
inductive ProfileFault
  | screen (fault : ScreenFault)
  | idNotFresh

/-- There is a document of `devices` with this id. -/
def Store.HasDevice (store : Store) (documentID : String) : Prop :=
  ((store .devices).find? documentID).isSome = true

instance (store : Store) (documentID : String) : Decidable (store.HasDevice documentID) :=
  inferInstanceAs (Decidable (_ = true))

/-- The requests of an output. An added device is stored under the id that is drawn. -/
def ScreenOutput.writes (uid documentID : String) : ScreenOutput → List Write
  | .addToDevice device => [
      .setData .devices documentID (ProfilesViewController.deviceDocument documentID device),
      addToUserDevice uid documentID]
  | .removeFromDevice devId => [
      Accounts.removeFromDevice devId,
      removeFromUserDevice uid devId]
  | .navigateToHome _ | .showCell .. => []

namespace ProfileAccount

/-- An id that Firestore may draw. -/
def Fresh (account : ProfileAccount) (documentID : String) : Prop :=
  IsSegment documentID ∧ ¬ account.store.HasDevice documentID ∧ documentID ∉ account.created

instance (account : ProfileAccount) (documentID : String)
    : Decidable (account.Fresh documentID) :=
  inferInstanceAs (Decidable (_ ∧ ¬ _ ∧ _))

/-- The store after the requests of the outputs. -/
def served (uid documentID : String) (outputs : List ScreenOutput) (store : Store) : Store :=
  (outputs.flatMap (ScreenOutput.writes uid documentID)).foldl Store.serve store

/-- An event of the screen whose requests are served, with the id drawn for a new device. -/
def handle (uid : String)
    : Handler ProfileAccount (ScreenEvent × String) ScreenOutput ProfileFault
  | account, (event, documentID) =>
      match account.screen.handle event with
      | (outputs, .error fault) => (outputs, .error (.screen fault))
      | (outputs, .ok screen) =>
          let store := served uid documentID outputs account.store
          match event with
          | .createDeviceProfile _ =>
              if account.Fresh documentID then
                (outputs, .ok {
                  screen, store
                  stored := account.stored ++ [documentID]
                  created := account.created ++ [documentID] })
              else ([], .error .idNotFresh)
          | .deleteAction =>
              (outputs, .ok { account with
                screen, store
                stored := marked false account.stored account.screen.isSelected })
          | _ => (outputs, .ok { account with screen, store })

/-- A confirmed deletion passes on the ids under which the selected profiles are stored, the
last first. Of the documents that the screen has created it leaves those of the profiles
still listed.
-/
def RemovesOwn (uid : String) (account : ProfileAccount) (event : ScreenEvent × String) : Prop :=
  event.1 = .deleteAction
  → account.screen.verifying = true
  → ∃ next,
      handle uid account event
        = (((marked true account.stored account.screen.isSelected).map fun documentID =>
              .removeFromDevice documentID).reverse,
            .ok next)
      ∧ ∀ documentID ∈ next.created,
          next.store.HasDevice documentID ↔ documentID ∈ next.stored

/-- When a deletion is confirmed, every selected profile has the id it is stored under. -/
def SelectsOwn (account : ProfileAccount) (event : ScreenEvent × String) : Prop :=
  event.1 = .deleteAction
  → account.screen.verifying = true
  → (account.screen.chosen true).map Device.devId
    = marked true account.stored account.screen.isSelected

/-- Each profile has its own id, and of the documents that the screen has created there are
those of its profiles.
-/
structure Kept (account : ProfileAccount) : Prop where
  matching : account.screen.Matching
  parallel : account.stored.length = account.screen.profiles.length
  distinct : account.stored.Nodup
  named : ∀ documentID ∈ account.stored, documentID ∈ account.created ∧ IsSegment documentID
  present
    : ∀ documentID ∈ account.created,
        account.store.HasDevice documentID ↔ documentID ∈ account.stored

end ProfileAccount

-----------------------------------------------------------------------------------------
-- What the requests leave in the store
-----------------------------------------------------------------------------------------

namespace Store

variable {store : Store} {uid documentID other : String}

theorem hasDevice_serve_setData {document : Document}
    : (store.serve (.setData .devices documentID document)).HasDevice other
      ↔ other = documentID ∨ store.HasDevice other := by
  have served
      : store.serve (.setData .devices documentID document)
        = store.replace .devices ((store .devices).insert documentID document) := rfl
  rw [served, HasDevice, replace_self, Table.find?_insert]
  split
  · rename_i here
    simp [here]
  · rename_i elsewhere
    simp [elsewhere, HasDevice]

theorem hasDevice_serve_delete
    : (store.serve (.delete .devices documentID)).HasDevice other
      ↔ other ≠ documentID ∧ store.HasDevice other := by
  have served
      : store.serve (.delete .devices documentID)
        = store.replace .devices ((store .devices).erase documentID) := rfl
  rw [served, HasDevice, replace_self, Table.find?_erase]
  split
  · rename_i here
    simp [here]
  · rename_i elsewhere
    simp [elsewhere, HasDevice]

/-- An update of the user's document changes no devices. -/
theorem hasDevice_serve_updateData {field : String} {change : FieldUpdate}
    : (store.serve (.updateData .users uid field change)).HasDevice other
      ↔ store.HasDevice other := by
  rw [serve]
  cases performed : store.perform (.updateData .users uid field change) with
  | none => rfl
  | some next =>
      have same : next .devices = store .devices := perform_frame performed (by nofun)
      rw [Option.getD_some, HasDevice, HasDevice, same]

end Store

namespace ProfileAccount

variable {store : Store} {uid documentID other : String}

theorem hasDevice_served_addToDevice {device : Device}
    : (served uid documentID [.addToDevice device] store).HasDevice other
      ↔ other = documentID ∨ store.HasDevice other := by
  have served
      : served uid documentID [.addToDevice device] store
        = (store.serve (.setData .devices documentID
            (ProfilesViewController.deviceDocument documentID device))).serve
              (addToUserDevice uid documentID) := rfl
  rw [served, addToUserDevice, Store.hasDevice_serve_updateData, Store.hasDevice_serve_setData]

/-- Removals take away the devices with their ids. -/
theorem hasDevice_served_removeFromDevice (devIds : List String)
    : (served uid documentID (devIds.map .removeFromDevice) store).HasDevice other
      ↔ other ∉ devIds ∧ store.HasDevice other := by
  induction devIds generalizing store with
  | nil => simp [served]
  | cons devId rest ih =>
      have first
          : served uid documentID ((devId :: rest).map .removeFromDevice) store
            = served uid documentID (rest.map .removeFromDevice)
                ((store.serve (removeFromDevice devId)).serve (removeFromUserDevice uid devId)) :=
        rfl
      rw [first, ih, removeFromUserDevice, Store.hasDevice_serve_updateData, removeFromDevice,
        Store.hasDevice_serve_delete, List.mem_cons, not_or]
      tauto

-----------------------------------------------------------------------------------------
-- Runs
-----------------------------------------------------------------------------------------

/-- What each event does to the ids and the store. -/
theorem handle_eq_ok {account next : ProfileAccount} {event : ScreenEvent}
    {outputs : List ScreenOutput}
    (handled : handle uid account (event, documentID) = (outputs, .ok next))
    : account.screen.handle event = (outputs, .ok next.screen)
      ∧ next.store = served uid documentID outputs account.store
      ∧ match event with
        | .createDeviceProfile _ =>
            account.Fresh documentID
            ∧ next.stored = account.stored ++ [documentID]
            ∧ next.created = account.created ++ [documentID]
        | .deleteAction =>
            next.stored = marked false account.stored account.screen.isSelected
            ∧ next.created = account.created
        | _ => next.stored = account.stored ∧ next.created = account.created := by
  simp only [handle] at handled
  split at handled
  · cases handled
  · rename_i emitted screen done
    cases event with
    | createDeviceProfile name =>
        simp only at handled
        split at handled
        · rename_i fresh
          cases handled
          exact ⟨done, rfl, fresh, rfl, rfl⟩
        · cases handled
    | deleteAction =>
        cases handled
        exact ⟨done, rfl, rfl, rfl⟩
    | didSelectItemAt indexPath =>
        cases handled
        exact ⟨done, rfl, rfl, rfl⟩
    | editButtonPressed =>
        cases handled
        exact ⟨done, rfl, rfl, rfl⟩
    | cellForItemAt indexPath =>
        cases handled
        exact ⟨done, rfl, rfl, rfl⟩
    | cancelAction =>
        cases handled
        exact ⟨done, rfl, rfl, rfl⟩

/-- A deletion of own documents leaves those of the other profiles. -/
theorem hasDevice_served_removals {account : ProfileAccount} (kept : account.Kept)
    {documentID' : String} (createdHere : documentID' ∈ account.created)
    : (served uid documentID
          ((marked true account.stored account.screen.isSelected).map
            ScreenOutput.removeFromDevice).reverse account.store).HasDevice documentID'
      ↔ documentID' ∈ marked false account.stored account.screen.isSelected := by
  have matching : account.screen.isSelected.length = account.stored.length :=
    kept.matching.trans kept.parallel.symm
  have parts := marked_perm matching
  have distinct := List.nodup_append.mp (parts.nodup_iff.mpr kept.distinct)
  rw [← List.map_reverse, hasDevice_served_removeFromDevice, List.mem_reverse,
    kept.present documentID' createdHere, ← parts.mem_iff, List.mem_append]
  constructor
  · intro ⟨notSelected, either⟩
    exact either.resolve_left notSelected
  · intro unselected
    refine ⟨fun selected => ?_, Or.inr unselected⟩
    exact distinct.2.2 documentID' selected documentID' unselected rfl

/-- What a deletion of own documents does. -/
theorem handle_deleteAction {account : ProfileAccount} (kept : account.Kept)
    (verifying : account.screen.verifying = true)
    (own
      : (account.screen.chosen true).map Device.devId
        = marked true account.stored account.screen.isSelected)
    : ∃ next,
        handle uid account (.deleteAction, documentID)
          = (((marked true account.stored account.screen.isSelected).map
                ScreenOutput.removeFromDevice).reverse,
              .ok next)
        ∧ next.screen.profiles = account.screen.chosen false := by
  have named : ∀ profile ∈ account.screen.chosen true, NamesDocument profile.devId := by
    intro profile selected
    have listed : profile.devId ∈ marked true account.stored account.screen.isSelected :=
      own ▸ List.mem_map_of_mem selected
    have matching : account.screen.isSelected.length = account.stored.length :=
      kept.matching.trans kept.parallel.symm
    have stored := (marked_perm matching).subset (List.mem_append_left _ listed)
    exact (kept.named _ stored).2.namesDocument
  obtain ⟨screen, handled, profiles, -⟩ :=
    ProfilesViewController.deletesExactly_of_named kept.matching verifying named
  have requests
      : (account.screen.chosen true).map (fun profile =>
            ScreenOutput.removeFromDevice profile.devId)
        = (marked true account.stored account.screen.isSelected).map
            ScreenOutput.removeFromDevice := by
    rw [← own, List.map_map]
    rfl
  rw [requests] at handled
  simp only [handle, handled]
  exact ⟨_, rfl, profiles⟩

/-- Whether a deletion removes the right documents. Witness: the loop passes on the ids of
the selected profiles.
-/
theorem removesOwn_iff {account : ProfileAccount} (kept : account.Kept)
    (event : ScreenEvent × String)
    : account.RemovesOwn uid event ↔ account.SelectsOwn event := by
  obtain ⟨event, documentID⟩ := event
  constructor
  · intro removes deletes verifying
    obtain ⟨next, handled, -⟩ := removes deletes verifying
    obtain rfl : event = .deleteAction := deletes
    obtain ⟨-, profiles, completed, -⟩ :=
      ProfilesViewController.handle_eq_ok (handle_eq_ok handled).1
    have named := @ProfilesViewController.named_of_run_deleteSelected _ [] _ kept.matching profiles
      (by rw [List.append_nil, completed])
    have loop := @ProfilesViewController.run_deleteSelected _ [] _ kept.matching named
    rw [List.append_nil, completed] at loop
    have requests := List.reverse_injective (congrArg Prod.fst loop)
    apply List.map_injective_iff.mpr (fun _ _ => ScreenOutput.removeFromDevice.inj)
    rw [List.map_map]
    exact requests.symm
  · intro own deletes verifying
    obtain rfl : event = .deleteAction := deletes
    obtain ⟨next, handled, -⟩ :=
      @handle_deleteAction uid documentID account kept verifying (own rfl verifying)
    obtain ⟨-, store, stored, created⟩ := handle_eq_ok handled
    refine ⟨next, handled, ?_⟩
    intro other createdHere
    rw [created] at createdHere
    rw [store, stored]
    exact hasDevice_served_removals kept createdHere

/-- An event without requests keeps the account. -/
theorem Kept.of_unchanged {account next : ProfileAccount} (kept : account.Kept)
    (matching : next.screen.Matching) (profiles : next.screen.profiles = account.screen.profiles)
    (store : next.store = account.store) (stored : next.stored = account.stored)
    (created : next.created = account.created)
    : next.Kept := by
  obtain ⟨-, parallel, distinct, named, present⟩ := kept
  refine ⟨matching, ?_, ?_, ?_, ?_⟩
  · rwa [stored, profiles]
  · rwa [stored]
  · rwa [stored, created]
  · rwa [stored, created, store]

/-- A new profile is stored under a fresh id. -/
theorem Kept.of_created {account next : ProfileAccount} (kept : account.Kept)
    (fresh : account.Fresh documentID) (matching : next.screen.Matching) {device : Device}
    (profiles : next.screen.profiles = account.screen.profiles ++ [device])
    (store : next.store = served uid documentID [.addToDevice device] account.store)
    (stored : next.stored = account.stored ++ [documentID])
    (created : next.created = account.created ++ [documentID])
    : next.Kept := by
  obtain ⟨names, -, unknown⟩ := fresh
  have unlisted : documentID ∉ account.stored := fun listed =>
    unknown (kept.named documentID listed).1
  refine ⟨matching, ?_, ?_, ?_, ?_⟩
  · simp [stored, profiles, kept.parallel]
  · rw [stored]
    exact kept.distinct.append (List.nodup_singleton documentID) (by simpa using unlisted)
  · intro listed member
    rw [stored] at member
    rw [created]
    cases List.mem_append.mp member with
    | inl before =>
        obtain ⟨known, named⟩ := kept.named listed before
        exact ⟨List.mem_append_left _ known, named⟩
    | inr here =>
        obtain rfl := List.mem_singleton.mp here
        exact ⟨List.mem_append_right _ here, names⟩
  · intro listed member
    rw [created] at member
    rw [store, stored, hasDevice_served_addToDevice, List.mem_append, List.mem_singleton, or_comm]
    apply or_congr_left'
    intro different
    exact kept.present listed ((List.mem_append.mp member).resolve_right (by simpa using different))

/-- A deletion of own documents keeps the account. -/
theorem Kept.of_removals {account next : ProfileAccount} (kept : account.Kept)
    (matching : next.screen.Matching)
    (profiles : next.screen.profiles = account.screen.chosen false)
    (store
      : next.store = served uid documentID
          ((marked true account.stored account.screen.isSelected).map
            ScreenOutput.removeFromDevice).reverse account.store)
    (stored : next.stored = marked false account.stored account.screen.isSelected)
    (created : next.created = account.created)
    : next.Kept := by
  have listed : account.screen.isSelected.length = account.stored.length :=
    kept.matching.trans kept.parallel.symm
  have parts := marked_perm listed
  refine ⟨matching, ?_, ?_, ?_, ?_⟩
  · rw [stored, profiles, ProfilesViewController.chosen, length_marked listed,
      length_marked kept.matching]
  · rw [stored]
    exact (List.nodup_append.mp (parts.nodup_iff.mpr kept.distinct)).2.1
  · intro other member
    rw [stored] at member
    rw [created]
    exact kept.named other (parts.subset (List.mem_append_right _ member))
  · intro other createdHere
    rw [created] at createdHere
    rw [store, stored]
    exact hasDevice_served_removals kept createdHere

/-- A deletion that removes the right documents, and every other event, keeps the account.
Witness: the events in turn.
-/
theorem kept_handle {account next : ProfileAccount} (kept : account.Kept)
    {event : ScreenEvent × String} {outputs : List ScreenOutput} (own : account.SelectsOwn event)
    (handled : handle uid account event = (outputs, .ok next))
    : next.Kept := by
  obtain ⟨event, documentID⟩ := event
  obtain ⟨done, store, ids⟩ := handle_eq_ok handled
  have matching := ProfilesViewController.matching_handle kept.matching done
  have effect := ProfilesViewController.handle_eq_ok done
  cases event with
  | createDeviceProfile name =>
      obtain ⟨rfl, screen⟩ := effect
      obtain ⟨fresh, stored, created⟩ := ids
      exact kept.of_created fresh matching (congrArg _ screen) store stored created
  | deleteAction =>
      obtain ⟨verifying, -, -, -⟩ := effect
      obtain ⟨stored, created⟩ := ids
      obtain ⟨same, handled', profiles⟩ :=
        @handle_deleteAction uid documentID account kept verifying (own rfl verifying)
      obtain ⟨rfl, equal⟩ := Prod.mk.inj (handled.symm.trans handled')
      obtain rfl := Except.ok.inj equal
      exact kept.of_removals matching profiles store stored created
  | didSelectItemAt indexPath =>
      obtain ⟨-, ⟨profile, rfl, screen⟩ | ⟨toggled, rfl, screen⟩⟩ := effect
      · exact kept.of_unchanged matching (by rw [screen]) store ids.1 ids.2
      · exact kept.of_unchanged matching (by rw [screen]) store ids.1 ids.2
  | editButtonPressed =>
      obtain ⟨rfl, editMode, currentTitle, verifying, screen, -⟩ := effect
      exact kept.of_unchanged matching (by rw [screen]) store ids.1 ids.2
  | cellForItemAt indexPath =>
      obtain ⟨⟨vehicleName, hidden, rfl⟩, screen⟩ := effect
      exact kept.of_unchanged matching (by rw [screen]) store ids.1 ids.2
  | cancelAction =>
      obtain ⟨rfl, screen⟩ := effect
      exact kept.of_unchanged matching (by rw [screen]) store ids.1 ids.2

/-- Along every run, deletions remove the right documents exactly when every selected profile
has the id it is stored under each time.
-/
theorem removesOwn_along_iff {start : ProfileAccount} (kept : start.Kept) (uid : String)
    (events : List (ScreenEvent × String))
    : Along (handle uid) start events (fun _ => RemovesOwn uid)
      ↔ Along (handle uid) start events (fun _ => SelectsOwn) :=
  along_congr_of_invariant (fun _ _ event kept => removesOwn_iff kept event)
    (fun _ _ _ _ _ kept own handled => kept_handle kept own handled) kept events

/-- Two devices with their documents, and a deletion of the second to be confirmed. -/
def confirming : ProfileAccount where
  screen := ProfilesViewController.confirming
  store :=
    let first := Table.empty.insert "d1" (ProfilesViewController.deviceDocument "d1" Device.init)
    Store.replace (fun _ => Table.empty) .devices
      (first.insert "d2" (ProfilesViewController.deviceDocument "d2" Device.init))
  stored := ["d1", "d2"]
  created := ["d1", "d2"]

theorem kept_confirming : confirming.Kept :=
  ⟨rfl, rfl, by decide, by decide, by decide⟩

/-- The profiles of this start have ids, which those of the screen as it opens never do. -/
theorem removesOwn_along_iff_confirming
    : Along (handle "u1") confirming [(.deleteAction, "")] (fun _ => RemovesOwn "u1") := by
  apply (removesOwn_along_iff kept_confirming "u1" [(.deleteAction, "")]).mpr
  intro before event after split account reached
  cases before with
  | nil =>
      cases reached
      intro _ _
      rfl
  | cons _ _ => simp at split

/-- The screen as it opens, over any store. -/
def opened (store : Store) : ProfileAccount where
  screen := ProfilesViewController.opened
  store := store
  stored := []
  created := []

theorem kept_opened (store : Store) : (opened store).Kept :=
  ⟨rfl, rfl, .nil, nofun, nofun⟩

/-- A profile that is stored under the id d1 is created, selected and deleted. -/
theorem deletingQuad_not_removed
    : ¬ ∀ (start : ProfileAccount) (uid : String) (events : List (ScreenEvent × String)),
        start.Kept → Along (handle uid) start events (fun _ => RemovesOwn uid) := by
  intro claim
  let deleting := ProfilesViewController.deletingQuad.map fun event => (event, "d1")
  have removes := claim (opened fun _ => Table.empty) "u1" deleting (kept_opened _)
    (deleting.take 4) (.deleteAction, "d1") [] rfl _ rfl rfl rfl
  obtain ⟨next, handled, -⟩ := removes
  cases handled

end ProfileAccount

end AgriGuardian.Accounts
