import Mathlib.Data.String.Basic
import AgriGuardian.Basis.Table
import AgriGuardian.Rides.RideParameters

/-! The store the app keeps its accounts in.
A write takes effect completely or not at all. A query returns the documents it matches in
the order of their ids, which is the order of the store where none is asked for.
-/

namespace AgriGuardian.Rides

/-- What `updateData` does to a field. The app unites and removes single strings. -/
inductive FieldUpdate
  | set (value : FirestoreValue)
  | arrayUnion (element : String)
  | arrayRemove (element : String)

namespace FirestoreValue

/-- The value is this string. -/
def isString (text : String) : FirestoreValue → Bool
  | .string value => value == text
  | _ => false

/-- The elements of an array; any other value counts as an empty one. -/
def coercedArray : Option FirestoreValue → List FirestoreValue
  | some (.array values) => values
  | _ => []

/-- The value of a field after an update. -/
def updated (previous : Option FirestoreValue) : FieldUpdate → FirestoreValue
  | .set value => value
  | .arrayUnion element =>
      let values := coercedArray previous
      if values.any (isString element) then .array values
      else .array (values ++ [.string element])
  | .arrayRemove element =>
      .array ((coercedArray previous).filter fun value => !isString element value)

end FirestoreValue

namespace Document

/-- The document of a dictionary literal. -/
def ofFields (fields : List (String × FirestoreValue)) : Document := fun name =>
  fields.lookup name

/-- `whereField(field, isEqualTo: text)` -/
def matchesField (field text : String) (document : Document) : Bool :=
  (document field).any (FirestoreValue.isString text)

/-- The document with one field updated, as every `updateData` of the app does. -/
def update (document : Document) (field : String) (change : FieldUpdate) : Document :=
  fun name =>
    if name = field then some (FirestoreValue.updated (document field) change) else document name

/-- The string is an element of the array field. -/
def Lists (document : Document) (field text : String) : Prop :=
  .string text ∈ FirestoreValue.coercedArray (document field)

end Document

-----------------------------------------------------------------------------------------
-- Array fields as sets of strings
-----------------------------------------------------------------------------------------

theorem FirestoreValue.isString_iff {text : String} {value : FirestoreValue}
    : value.isString text = true ↔ value = .string text := by
  cases value <;> simp [isString]

theorem FirestoreValue.any_isString_iff {text : String} {values : List FirestoreValue}
    : values.any (isString text) = true ↔ .string text ∈ values := by
  rw [List.any_eq_true]
  simp only [isString_iff, exists_eq_right]

namespace Document

theorem matchesField_iff {field text : String} {document : Document}
    : document.matchesField field text = true ↔ document field = some (.string text) := by
  rw [matchesField]
  cases document field with
  | none => simp
  | some value => simp [FirestoreValue.isString_iff]

instance (document : Document) (field text : String) : Decidable (document.Lists field text) :=
  decidable_of_iff _ (@FirestoreValue.any_isString_iff text _)

theorem update_self (document : Document) (field : String) (change : FieldUpdate)
    : document.update field change field
      = some (FirestoreValue.updated (document field) change) :=
  if_pos rfl

/-- Uniting adds the element. -/
theorem lists_arrayUnion {document : Document} {field element text : String}
    : (document.update field (.arrayUnion element)).Lists field text
      ↔ text = element ∨ document.Lists field text := by
  simp only [Lists, update_self, FirestoreValue.updated]
  split
  · rename_i known
    have present := FirestoreValue.any_isString_iff.mp known
    constructor
    · exact Or.inr
    · intro either
      cases either with
      | inl same => exact same ▸ present
      | inr listed => exact listed
  · simp [FirestoreValue.coercedArray, or_comm]

/-- Removing takes the element out. -/
theorem lists_arrayRemove {document : Document} {field element text : String}
    : (document.update field (.arrayRemove element)).Lists field text
      ↔ text ≠ element ∧ document.Lists field text := by
  rw [Lists, Lists, update_self, FirestoreValue.updated]
  simp [FirestoreValue.coercedArray, FirestoreValue.isString, and_comm]

end Document

end AgriGuardian.Rides

namespace AgriGuardian.Accounts

open Swift
open Basis
open Rides

/-- The collections of the app. -/
inductive Collection
  | users
  | devices
  | ridehistory
  deriving DecidableEq

/-- Ids that Firestore draws are not empty. -/
abbrev DocumentID := { id : String // id ≠ "" }

/-- The documents of each collection, under their ids. -/
abbrev Store := Collection → Table String Document

/-- A request that changes the store. -/
inductive Write
  | setData (collection : Collection) (documentID : String) (document : Document)
  | updateData (collection : Collection) (documentID field : String) (change : FieldUpdate)
  | delete (collection : Collection) (documentID : String)

def Write.collection : Write → Collection
  | .setData collection _ _ | .updateData collection _ _ _ | .delete collection _ => collection

namespace Store

/-- The store with the documents of a collection replaced. -/
def replace (store : Store) (collection : Collection) (documents : Table String Document)
    : Store :=
  Function.update store collection documents

@[simp]
theorem replace_self (store : Store) (collection : Collection)
    (documents : Table String Document)
    : store.replace collection documents collection = documents :=
  Function.update_self ..

@[simp]
theorem replace_of_ne (store : Store) {collection other : Collection}
    (different : other ≠ collection) (documents : Table String Document)
    : store.replace collection documents other = store other :=
  Function.update_of_ne different ..

/-- The store after a write. An update of a document that does not exist fails. -/
def perform (store : Store) : Write → Option Store
  | .setData collection documentID document =>
      some (store.replace collection ((store collection).insert documentID document))
  | .updateData collection documentID field change => do
      let document ← (store collection).find? documentID
      some (store.replace collection
        ((store collection).insert documentID (document.update field change)))
  | .delete collection documentID =>
      some (store.replace collection ((store collection).erase documentID))

/-- The store after a request that has no effect when it fails. -/
def serve (store : Store) (write : Write) : Store := (store.perform write).getD store

end Store

-----------------------------------------------------------------------------------------
-- References to documents
-----------------------------------------------------------------------------------------

/-- The segments of a path, of which empty ones are skipped. -/
def pathSegments (path : String) : List String :=
  ((path.toList.splitOn '/').filter fun segment => !segment.isEmpty).map String.ofList

/-- `collection(collectionID).document(path)`, which ends the program on a path that names no
document.
-/
def document (collectionID path : String) : Checked Unit :=
  if ['/', '/'] <:+: path.toList then
    .error (.fatalError ("FIRESTORE INTERNAL ASSERTION FAILED: Invalid path (" ++ path
      ++ "). Paths must not contain // in them. "
      ++ "(expected path.find(\"//\") == std::string::npos)"))
  else
    let segments := collectionID :: pathSegments path
    if segments.length % 2 ≠ 0 then
      .error (.fatalError ("FIRESTORE INTERNAL ASSERTION FAILED: Invalid document reference. "
        ++ "Document references must have an even number of segments, but "
        ++ "/".intercalate segments ++ " has " ++ toString segments.length))
    else .ok ()

/-- The path names a document below a collection. -/
def NamesDocument (path : String) : Prop :=
  ¬ ['/', '/'] <:+: path.toList ∧ (pathSegments path).length % 2 = 1

instance (path : String) : Decidable (NamesDocument path) := inferInstanceAs (Decidable (_ ∧ _))

/-- The id of a document is one segment of a path. -/
def IsSegment (documentID : String) : Prop := documentID ≠ "" ∧ '/' ∉ documentID.toList

instance (documentID : String) : Decidable (IsSegment documentID) :=
  inferInstanceAs (Decidable (_ ∧ _))

theorem document_eq_ok_iff {collectionID path : String}
    : document collectionID path = .ok () ↔ NamesDocument path := by
  simp only [document, NamesDocument]
  split
  · rename_i invalid
    simp [invalid]
  · rename_i valid
    split
    · rename_i odd
      simp only [List.length_cons] at odd
      simp only [valid, reduceCtorEq, not_false_iff, true_and, false_iff]
      omega
    · rename_i even
      simp only [List.length_cons] at even
      simp only [valid, not_false_iff, true_and, true_iff]
      omega

theorem IsSegment.namesDocument {documentID : String} (segment : IsSegment documentID)
    : NamesDocument documentID := by
  obtain ⟨nonempty, noSlash⟩ := segment
  constructor
  · intro slashes
    exact noSlash (slashes.subset List.mem_cons_self)
  · have characters : documentID.toList ≠ [] := by simpa using nonempty
    rw [pathSegments, List.splitOn_eq_singleton noSlash]
    simp [characters]

end AgriGuardian.Accounts
