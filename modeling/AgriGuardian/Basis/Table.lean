import Mathlib.Data.Fintype.EquivFin
import Mathlib.Data.List.Sort
import Mathlib.Data.List.Nodup

/-! Tables of entries under distinct keys, kept in the order of the keys.
A table is determined by its entries, so every operation is described by the entries of
its result.
-/

namespace Basis

variable {κ α : Type*} [LinearOrder κ]

/-- Entries in ascending order of their keys, which are therefore distinct. -/
structure Table (κ α : Type*) [LinearOrder κ] where
  entries : List (κ × α)
  ascending : entries.Pairwise fun left right => left.1 < right.1

namespace Table

instance : Membership (κ × α) (Table κ α) := ⟨fun table entry => entry ∈ table.entries⟩

theorem mem_def {table : Table κ α} {entry : κ × α} : entry ∈ table ↔ entry ∈ table.entries :=
  Iff.rfl

theorem ascending_keys (table : Table κ α)
    : (table.entries.map Prod.fst).Pairwise fun first second => first < second :=
  List.pairwise_map.mpr table.ascending

theorem nodup_keys (table : Table κ α) : (table.entries.map Prod.fst).Nodup :=
  List.pairwise_map.mpr (table.ascending.imp ne_of_lt)

/-- A key has one value. -/
theorem value_unique {table : Table κ α} {key : κ} {first second : α}
    (firstMem : (key, first) ∈ table) (secondMem : (key, second) ∈ table)
    : first = second :=
  congrArg Prod.snd (List.inj_on_of_nodup_map table.nodup_keys firstMem secondMem rfl)

/-- The table without entries. -/
def empty : Table κ α := ⟨[], .nil⟩

theorem not_mem_empty {entry : κ × α} : entry ∉ (empty : Table κ α) :=
  List.not_mem_nil

-----------------------------------------------------------------------------------------
-- Looking up, inserting and erasing
-----------------------------------------------------------------------------------------

/-- The value under a key. -/
def find? (table : Table κ α) (key : κ) : Option α :=
  (table.entries.find? fun entry => entry.1 = key).map Prod.snd

theorem find?_eq_some_iff {table : Table κ α} {key : κ} {value : α}
    : table.find? key = some value ↔ (key, value) ∈ table := by
  constructor
  · intro found
    obtain ⟨⟨key', value'⟩, first, rfl⟩ := Option.map_eq_some_iff.mp found
    obtain rfl : key' = key := by simpa using List.find?_some first
    exact List.mem_of_find?_eq_some first
  · intro member
    cases found : table.entries.find? fun entry => entry.1 = key with
    | none => simpa using List.find?_eq_none.mp found (key, value) member
    | some entry =>
        obtain ⟨key', value'⟩ := entry
        obtain rfl : key' = key := by simpa using List.find?_some found
        have same := value_unique (List.mem_of_find?_eq_some found) member
        rw [find?, found, Option.map_some, same]

/-- The table with a value put under a key, in place of the value there before. -/
def insert (table : Table κ α) (key : κ) (value : α) : Table κ α where
  entries :=
    table.entries.filter (fun entry => entry.1 < key)
      ++ (key, value) :: table.entries.filter (fun entry => key < entry.1)
  ascending := by
    rw [List.pairwise_append, List.pairwise_cons]
    refine ⟨table.ascending.filter _, ⟨?_, table.ascending.filter _⟩, ?_⟩
    · intro above member
      simpa using (List.mem_filter.mp member).2
    · intro below belowMem above aboveMem
      have first : below.1 < key := by simpa using (List.mem_filter.mp belowMem).2
      cases List.mem_cons.mp aboveMem with
      | inl here => rwa [here]
      | inr later => exact first.trans (by simpa using (List.mem_filter.mp later).2)

theorem mem_insert {table : Table κ α} {key : κ} {value : α} {entry : κ × α}
    : entry ∈ table.insert key value ↔ entry = (key, value) ∨ entry ∈ table ∧ entry.1 ≠ key := by
  simp only [mem_def, insert, List.mem_append, List.mem_cons, List.mem_filter, decide_eq_true_eq,
    ne_iff_lt_or_gt]
  tauto

/-- The table without the entry under a key. -/
def erase (table : Table κ α) (key : κ) : Table κ α where
  entries := table.entries.filter fun entry => entry.1 ≠ key
  ascending := table.ascending.filter _

theorem mem_erase {table : Table κ α} {key : κ} {entry : κ × α}
    : entry ∈ table.erase key ↔ entry ∈ table ∧ entry.1 ≠ key := by
  simp [mem_def, erase]

theorem isSome_find?_iff {table : Table κ α} {key : κ}
    : (table.find? key).isSome ↔ key ∈ table.entries.map Prod.fst := by
  rw [Option.isSome_iff_exists, List.mem_map]
  constructor
  · rintro ⟨value, found⟩
    exact ⟨(key, value), find?_eq_some_iff.mp found, rfl⟩
  · rintro ⟨⟨key, value⟩, member, rfl⟩
    exact ⟨value, find?_eq_some_iff.mpr member⟩

theorem find?_insert (table : Table κ α) (key : κ) (value : α) (other : κ)
    : (table.insert key value).find? other
      = if other = key then some value else table.find? other := by
  apply Option.ext
  intro found
  rw [find?_eq_some_iff, mem_insert]
  split
  · rename_i here
    simp [here, eq_comm]
  · rename_i elsewhere
    simp [elsewhere, find?_eq_some_iff]

theorem find?_erase (table : Table κ α) (key other : κ)
    : (table.erase key).find? other = if other = key then none else table.find? other := by
  apply Option.ext
  intro found
  rw [find?_eq_some_iff, mem_erase]
  split
  · rename_i here
    simp [here]
  · rename_i elsewhere
    simp [elsewhere, find?_eq_some_iff]

-----------------------------------------------------------------------------------------
-- Selecting
-----------------------------------------------------------------------------------------

/-- The entries whose values satisfy a test, in the order of the keys. -/
def select (table : Table κ α) (test : α → Bool) : List (κ × α) :=
  table.entries.filter fun entry => test entry.2

theorem mem_select {table : Table κ α} {test : α → Bool} {entry : κ × α}
    : entry ∈ table.select test ↔ entry ∈ table ∧ test entry.2 = true :=
  List.mem_filter

/-- The table of the entries whose values satisfy a test. -/
def filter (table : Table κ α) (test : α → Bool) : Table κ α where
  entries := table.select test
  ascending := table.ascending.filter _

theorem mem_filter {table : Table κ α} {test : α → Bool} {entry : κ × α}
    : entry ∈ table.filter test ↔ entry ∈ table ∧ test entry.2 = true :=
  mem_select

theorem find?_filter (table : Table κ α) (test : α → Bool) (key : κ)
    : (table.filter test).find? key = (table.find? key).filter test := by
  apply Option.ext
  intro found
  rw [find?_eq_some_iff, mem_filter, Option.filter_eq_some_iff, find?_eq_some_iff]

/-- A key that is not in the table. -/
theorem exists_fresh [Infinite κ] (table : Table κ α) : ∃ key, ∀ value, (key, value) ∉ table := by
  obtain ⟨key, fresh⟩ := Infinite.exists_notMem_finset (table.entries.map Prod.fst).toFinset
  refine ⟨key, fun value member => fresh ?_⟩
  rw [List.mem_toFinset]
  exact List.mem_map_of_mem member

/-- Tables with the same satisfying entries select the same. -/
theorem select_congr {left right : Table κ α} {test : α → Bool}
    (same : ∀ entry, test entry.2 = true → (entry ∈ left ↔ entry ∈ right))
    : left.select test = right.select test := by
  have irreflexive : Std.Irrefl fun first second : κ × α => first.1 < second.1 :=
    ⟨fun entry => lt_irrefl entry.1⟩
  apply (left.ascending.filter _).eq_of_mem_iff (right.ascending.filter _)
  intro entry
  rw [List.mem_filter, List.mem_filter]
  exact and_congr_left (same entry)

/-- Tables with the same entries are equal. -/
@[ext]
theorem ext {left right : Table κ α} (same : ∀ entry, entry ∈ left ↔ entry ∈ right)
    : left = right := by
  have entries : left.select (fun _ => true) = right.select (fun _ => true) :=
    select_congr fun entry _ => same entry
  simp only [select, List.filter_true] at entries
  cases left
  cases right
  simpa only [mk.injEq] using entries

/-- Nothing is erased where nothing is. -/
theorem erase_of_find?_eq_none {table : Table κ α} {key : κ} (missing : table.find? key = none)
    : table.erase key = table := by
  ext ⟨other, value⟩
  rw [mem_erase]
  apply and_iff_left_of_imp
  rintro member rfl
  rw [find?_eq_some_iff.mpr member] at missing
  cases missing

/-- A value that satisfies the test is put in the selection as well. -/
theorem filter_insert_of_pos (table : Table κ α) {test : α → Bool} (key : κ) {value : α}
    (satisfies : test value = true)
    : (table.insert key value).filter test = (table.filter test).insert key value := by
  ext entry
  simp only [mem_filter, mem_insert]
  constructor
  · rintro ⟨rfl | before, passes⟩
    · exact Or.inl rfl
    · exact Or.inr ⟨⟨before.1, passes⟩, before.2⟩
  · rintro (rfl | ⟨before, elsewhere⟩)
    · exact ⟨Or.inl rfl, satisfies⟩
    · exact ⟨Or.inr ⟨before.1, elsewhere⟩, before.2⟩

/-- A value that does not satisfy the test leaves nothing under its key. -/
theorem filter_insert_of_neg (table : Table κ α) {test : α → Bool} (key : κ) {value : α}
    (fails : test value ≠ true)
    : (table.insert key value).filter test = (table.filter test).erase key := by
  ext entry
  simp only [mem_filter, mem_insert, mem_erase]
  constructor
  · rintro ⟨rfl | before, passes⟩
    · exact absurd passes fails
    · exact ⟨⟨before.1, passes⟩, before.2⟩
  · rintro ⟨before, elsewhere⟩
    exact ⟨Or.inr ⟨before.1, elsewhere⟩, before.2⟩

theorem filter_erase (table : Table κ α) (test : α → Bool) (key : κ)
    : (table.erase key).filter test = (table.filter test).erase key := by
  ext entry
  simp only [mem_filter, mem_erase]
  exact and_right_comm

-----------------------------------------------------------------------------------------
-- Related tables
-----------------------------------------------------------------------------------------

variable {β : Type*} {R : α → β → Prop}

/-- The tables have the same keys, and related values under them. -/
def Related (R : α → β → Prop) (left : Table κ α) (right : Table κ β) : Prop :=
  ∀ key, Option.Rel R (left.find? key) (right.find? key)

theorem Related.insert {left : Table κ α} {right : Table κ β} (related : Related R left right)
    (key : κ) {value : α} {other : β} (here : R value other)
    : Related R (left.insert key value) (right.insert key other) := by
  intro key'
  rw [find?_insert, find?_insert]
  split
  · exact .some here
  · exact related key'

theorem Related.erase {left : Table κ α} {right : Table κ β} (related : Related R left right)
    (key : κ)
    : Related R (left.erase key) (right.erase key) := by
  intro key'
  rw [find?_erase, find?_erase]
  split
  · exact .none
  · exact related key'

/-- The entries of related tables are related one by one. Witness: the keys of both are the same
list, since both ascend.
-/
theorem Related.entries {left : Table κ α} {right : Table κ β} (related : Related R left right)
    : List.Forall₂ (fun first second => first.1 = second.1 ∧ R first.2 second.2) left.entries
        right.entries := by
  have keys : left.entries.map Prod.fst = right.entries.map Prod.fst := by
    apply left.ascending_keys.eq_of_mem_iff right.ascending_keys
    intro key
    have here := related key
    rw [← isSome_find?_iff, ← isSome_find?_iff]
    generalize left.find? key = value, right.find? key = other at here
    cases here with
    | some _ => simp
    | none => rfl
  have lengths : left.entries.length = right.entries.length := by
    simpa using congrArg List.length keys
  refine List.forall₂_iff_get.mpr ⟨lengths, ?_⟩
  intro index inLeft inRight
  have same : (left.entries.get ⟨index, inLeft⟩).1 = (right.entries.get ⟨index, inRight⟩).1 := by
    have both := congrArg (fun list => list[index]?) keys
    simpa [inLeft, inRight] using both
  refine ⟨same, ?_⟩
  have here := related (left.entries.get ⟨index, inLeft⟩).1
  rw [find?_eq_some_iff.mpr (List.get_mem left.entries ⟨index, inLeft⟩), same,
    find?_eq_some_iff.mpr (List.get_mem right.entries ⟨index, inRight⟩)] at here
  cases here with
  | some holds => exact holds

end Table

end Basis
