import AgriGuardian.Accounts.LoadChain

/-! The requests of the device operations, and what they change.
An owned device is a document of `devices` with the user's id. The user's document lists
device ids on its own, in the field `Devices`.
-/

namespace AgriGuardian.Accounts

open Basis
open Rides

/-- The second request of `addToDevice`, the same in both controllers. -/
def addToUserDevice (uid id : String) : Write :=
  .updateData .users uid "Devices" (.arrayUnion id)

/-- The first request of `removeFromDevice`. -/
def removeFromDevice (devId : String) : Write := .delete .devices devId

/-- The second request of `removeFromDevice`. -/
def removeFromUserDevice (uid devId : String) : Write :=
  .updateData .users uid "Devices" (.arrayRemove devId)

namespace Store

/-- The user owns the device whose document has this id. -/
def Owns (store : Store) (uid documentID : String) : Prop :=
  ((store .devices).find? documentID).any (Document.matchesField "uid" uid) = true

instance (store : Store) (uid documentID : String) : Decidable (store.Owns uid documentID) :=
  inferInstanceAs (Decidable (_ = true))

/-- The user's document lists this id. -/
def Lists (store : Store) (uid documentID : String) : Prop :=
  ∃ document, (store .users).find? uid = some document ∧ document.Lists "Devices" documentID

instance (store : Store) (uid documentID : String) : Decidable (store.Lists uid documentID) :=
  decidable_of_iff
    (((store .users).find? uid).any fun document => document.Lists "Devices" documentID)
    (by simp only [Option.any_eq_true, decide_eq_true_eq, Lists])

theorem owns_iff {store : Store} {uid documentID : String}
    : store.Owns uid documentID
      ↔ ∃ document,
          (documentID, document) ∈ store .devices
          ∧ document.matchesField "uid" uid = true := by
  simp only [Owns, Option.any_eq_true, Table.find?_eq_some_iff]

/-- Ownership depends on the devices alone. -/
theorem owns_congr {left right : Store} (same : left .devices = right .devices)
    {uid documentID : String}
    : left.Owns uid documentID ↔ right.Owns uid documentID := by
  rw [Owns, Owns, same]

/-- Listing depends on the users alone. -/
theorem lists_congr {left right : Store} (same : left .users = right .users)
    {uid documentID : String}
    : left.Lists uid documentID ↔ right.Lists uid documentID := by
  rw [Lists, Lists, same]

theorem owns_insert {store : Store} {uid documentID other : String} {document : Document}
    : (store.replace .devices ((store .devices).insert documentID document)).Owns uid other
      ↔ if other = documentID then document.matchesField "uid" uid = true
        else store.Owns uid other := by
  rw [Owns, replace_self, Table.find?_insert]
  split
  · rfl
  · rfl

theorem owns_erase {store : Store} {uid documentID other : String}
    : (store.replace .devices ((store .devices).erase documentID)).Owns uid other
      ↔ other ≠ documentID ∧ store.Owns uid other := by
  rw [Owns, replace_self, Table.find?_erase]
  split
  · rename_i here
    simp [here]
  · rename_i elsewhere
    simp [elsewhere, Owns]

/-- A write to a collection leaves the others alone. -/
theorem perform_frame {store next : Store} {write : Write}
    (served : store.perform write = some next) {other : Collection}
    (elsewhere : other ≠ write.collection)
    : next other = store other := by
  cases write with
  | setData collection documentID document =>
      obtain rfl := Option.some.inj served
      exact replace_of_ne store elsewhere _
  | updateData collection documentID field change =>
      obtain ⟨document, -, built⟩ := Option.bind_eq_some_iff.mp served
      obtain rfl := Option.some.inj built
      exact replace_of_ne store elsewhere _
  | delete collection documentID =>
      obtain rfl := Option.some.inj served
      exact replace_of_ne store elsewhere _

/-- A served update replaces the document it found. -/
theorem perform_updateData {store next : Store} {collection : Collection}
    {documentID field : String} {change : FieldUpdate}
    (served : store.perform (.updateData collection documentID field change) = some next)
    : ∃ document,
        (store collection).find? documentID = some document
        ∧ next = store.replace collection
            ((store collection).insert documentID (document.update field change)) := by
  obtain ⟨document, found, built⟩ := Option.bind_eq_some_iff.mp served
  exact ⟨document, found, (Option.some.inj built).symm⟩

/-- The list after `addToUserDevice`. -/
theorem lists_addToUserDevice {store next : Store} {uid id other : String}
    (served : store.perform (addToUserDevice uid id) = some next)
    : next.Lists uid other ↔ other = id ∨ store.Lists uid other := by
  obtain ⟨document, found, rfl⟩ := perform_updateData served
  simp only [Lists, replace_self, Table.find?_insert, if_true, found, Option.some.injEq,
    exists_eq_left', Document.lists_arrayUnion]

/-- The list after `removeFromUserDevice`. -/
theorem lists_removeFromUserDevice {store next : Store} {uid id other : String}
    (served : store.perform (removeFromUserDevice uid id) = some next)
    : next.Lists uid other ↔ other ≠ id ∧ store.Lists uid other := by
  obtain ⟨document, found, rfl⟩ := perform_updateData served
  simp only [Lists, replace_self, Table.find?_insert, if_true, found, Option.some.injEq,
    exists_eq_left', Document.lists_arrayRemove]

end Store

end AgriGuardian.Accounts
