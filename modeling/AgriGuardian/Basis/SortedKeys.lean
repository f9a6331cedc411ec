import Mathlib.Data.List.Sort
import AgriGuardian.Basis.Grouping

/-! Lists sorted by a key. The distinct keys of such a list increase, and what is left
after its first element with a property of the key is determined by the keys alone.
-/

namespace Basis

section Distinct

variable {κ : Type*} [DecidableEq κ]

theorem eraseDups_sublist (keys : List κ) : keys.eraseDups.Sublist keys := by
  induction keys using List.reverseRecOn with
  | nil => exact List.Sublist.refl []
  | append_singleton earlier key ih =>
      rw [eraseDups_append_singleton]
      split
      · exact ih.trans (List.sublist_append_left earlier [key])
      · exact ih.append (List.Sublist.refl [key])

/-- Distinct keys stay distinct under a renaming that is one-to-one on them. -/
theorem eraseDups_map {β : Type*} [DecidableEq β] {rename : κ → β} {keys : List κ}
    (oneToOne : ∀ key ∈ keys, ∀ other ∈ keys, rename key = rename other → key = other)
    : (keys.map rename).eraseDups = keys.eraseDups.map rename := by
  induction keys using List.reverseRecOn with
  | nil => rfl
  | append_singleton earlier key ih =>
      have earlierOneToOne := ih fun left leftMember right rightMember =>
        oneToOne left (by simp [leftMember]) right (by simp [rightMember])
      have known : rename key ∈ earlier.map rename ↔ key ∈ earlier := by
        rw [List.mem_map]
        constructor
        · rintro ⟨other, member, same⟩
          exact oneToOne other (by simp [member]) key (by simp) same ▸ member
        · exact fun member => ⟨key, member, rfl⟩
      rw [List.map_append, List.map_singleton, eraseDups_append_singleton,
        eraseDups_append_singleton, earlierOneToOne]
      simp only [known]
      split
      · rfl
      · rw [List.map_append, List.map_singleton]

end Distinct

variable {α κ : Type*} [LinearOrder κ] {keyOf : α → κ}

/-- The elements stand in the order of their keys. -/
def SortedBy (keyOf : α → κ) (elements : List α) : Prop :=
  elements.Pairwise fun left right => keyOf left ≤ keyOf right

theorem SortedBy.sublist {elements part : List α} (sorted : SortedBy keyOf elements)
    (sublist : part.Sublist elements)
    : SortedBy keyOf part :=
  List.Pairwise.sublist sublist sorted

theorem sortedBy_insertionSort (keyOf : α → κ) (elements : List α)
    : SortedBy keyOf (elements.insertionSort fun left right => keyOf left ≤ keyOf right) := by
  have total : Std.Total fun left right : α => keyOf left ≤ keyOf right :=
    ⟨fun left right => le_total (keyOf left) (keyOf right)⟩
  have transitive : IsTrans α fun left right => keyOf left ≤ keyOf right :=
    ⟨fun _ _ _ => le_trans⟩
  exact List.pairwise_insertionSort _ elements

/-- An element that is not above those of the second list goes into the first. -/
theorem orderedInsert_append_left {relation : α → α → Prop} [DecidableRel relation] {element : α}
    (first : List α) {second : List α} (below : ∀ other ∈ second, relation element other)
    : (first ++ second).orderedInsert relation element
      = first.orderedInsert relation element ++ second := by
  induction first with
  | nil =>
      cases second with
      | nil => rfl
      | cons other rest => exact List.orderedInsert_cons_of_le _ rest (below other (by simp))
  | cons other rest ih =>
      rw [List.cons_append, List.orderedInsert_cons, List.orderedInsert_cons, ih]
      split
      · rfl
      · rfl

/-- An element that is above those of the first list goes into the second. -/
theorem orderedInsert_append_right {relation : α → α → Prop} [DecidableRel relation]
    {element : α} {first : List α} (above : ∀ other ∈ first, ¬ relation element other)
    (second : List α)
    : (first ++ second).orderedInsert relation element
      = first ++ second.orderedInsert relation element := by
  induction first with
  | nil => rfl
  | cons other rest ih =>
      rw [List.cons_append, List.orderedInsert_of_not_le _ _ (above other (by simp)),
        ih fun later member => above later (List.mem_cons_of_mem _ member), List.cons_append]

/-- Sorting sorts the elements below a key and those from the key on. Witness: induction on
the elements.
-/
theorem insertionSort_eq_append (keyOf : α → κ) (cut : κ) (elements : List α)
    : elements.insertionSort (fun left right => keyOf left ≤ keyOf right)
      = (elements.filter fun element => keyOf element < cut).insertionSort
            (fun left right => keyOf left ≤ keyOf right)
          ++ (elements.filter fun element => cut ≤ keyOf element).insertionSort
            (fun left right => keyOf left ≤ keyOf right) := by
  induction elements with
  | nil => rfl
  | cons element rest ih =>
      rw [List.insertionSort_cons, ih]
      cases lt_or_ge (keyOf element) cut with
      | inl before =>
          rw [List.filter_cons_of_pos (by simpa using before),
            List.filter_cons_of_neg (by simpa using before), List.insertionSort_cons]
          apply orderedInsert_append_left
          intro other member
          have later := (List.mem_filter.mp ((List.mem_insertionSort _).mp member)).2
          exact before.le.trans (by simpa using later)
      | inr after =>
          rw [List.filter_cons_of_neg (by simpa using after),
            List.filter_cons_of_pos (by simpa using after), List.insertionSort_cons]
          apply orderedInsert_append_right
          intro other member
          have earlier := (List.mem_filter.mp ((List.mem_insertionSort _).mp member)).2
          have below : keyOf other < cut := by simpa using earlier
          exact not_le.mpr (below.trans_le after)

/-- The distinct keys of a sorted list increase. -/
theorem pairwise_lt_eraseDups {keys : List κ} (sorted : keys.Pairwise (· ≤ ·))
    : keys.eraseDups.Pairwise (· < ·) := by
  have ordered := sorted.sublist (eraseDups_sublist keys)
  exact (ordered.and (nodup_eraseDups keys)).imp fun both => lt_of_le_of_ne both.1 both.2

/-- The distinct names of keys in their order are those of increasing keys. -/
theorem exists_increasing_names {β : Type*} [DecidableEq β] {nameOf : κ → β}
    (oneToOne : Function.Injective nameOf) {keys : List κ} (sorted : keys.Pairwise (· ≤ ·))
    : ∃ increasing : List κ,
        increasing.Pairwise (· < ·)
        ∧ (keys.map nameOf).eraseDups = increasing.map nameOf :=
  ⟨keys.eraseDups, pairwise_lt_eraseDups sorted, eraseDups_map fun _ _ _ _ same => oneToOne same⟩

/-- Sorting leaves no choice in the sequence of the keys. -/
theorem SortedBy.map_eq_of_perm {elements others : List α} (sorted : SortedBy keyOf elements)
    (othersSorted : SortedBy keyOf others) (perm : elements.Perm others)
    : elements.map keyOf = others.map keyOf := by
  have ordered : (elements.map keyOf).Pairwise (· ≤ ·) := List.pairwise_map.mpr sorted
  have othersOrdered : (others.map keyOf).Pairwise (· ≤ ·) := List.pairwise_map.mpr othersSorted
  exact List.Perm.eq_of_pairwise' ordered othersOrdered (perm.map keyOf)

/-- What a sorted list holds from its first element with a property of the key on: the
elements whose keys are at least the first such key.
-/
theorem SortedBy.dropWhile_eq_filter {elements : List α} (sorted : SortedBy keyOf elements)
    (skipped : κ → Bool)
    : elements.dropWhile (fun element => skipped (keyOf element))
      = match (elements.map keyOf).find? (fun key => !skipped key) with
        | some first => elements.filter fun element => first ≤ keyOf element
        | none => [] := by
  induction elements with
  | nil => rfl
  | cons element rest ih =>
      obtain ⟨least, restSorted⟩ := List.pairwise_cons.mp sorted
      by_cases skip : skipped (keyOf element) = true
      · rw [List.dropWhile_cons, if_pos skip, ih restSorted, List.map_cons,
          List.find?_cons_of_neg (by simp [skip])]
        cases found : (rest.map keyOf).find? (fun key => !skipped key) with
        | none => rfl
        | some first =>
            obtain ⟨other, member, rfl⟩ := List.mem_map.mp (List.mem_of_find?_eq_some found)
            -- The first key kept differs from the skipped one, so it is above it.
            have differs : keyOf element ≠ keyOf other := by
              intro same
              have kept := List.find?_some found
              simp [← same, skip] at kept
            have above := lt_of_le_of_ne (least other member) differs
            exact (List.filter_cons_of_neg (by simpa using above)).symm
      · rw [List.dropWhile_cons, if_neg skip, List.map_cons,
          List.find?_cons_of_pos (by simp [skip])]
        refine (List.filter_eq_self.mpr fun other member => ?_).symm
        rcases List.mem_cons.mp member with rfl | later
        · simp
        · simpa using least other later

/-- Sorted permutations of each other keep permutations of each other. -/
theorem SortedBy.dropWhile_perm {elements others : List α} (sorted : SortedBy keyOf elements)
    (othersSorted : SortedBy keyOf others) (perm : elements.Perm others) (skipped : κ → Bool)
    : (elements.dropWhile fun element => skipped (keyOf element)).Perm
        (others.dropWhile fun element => skipped (keyOf element)) := by
  rw [sorted.dropWhile_eq_filter, othersSorted.dropWhile_eq_filter,
    sorted.map_eq_of_perm othersSorted perm]
  cases (others.map keyOf).find? fun key => !skipped key with
  | none => exact .rfl
  | some first => exact perm.filter _

end Basis
