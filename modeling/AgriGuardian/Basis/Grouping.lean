import Mathlib.Data.List.Forall2
import Mathlib.Data.List.Induction
import Mathlib.Data.List.Perm.Basic

/-! Grouping a list by a key: the distinct keys in the order of their first occurrence,
and the groups, which partition the list.
-/

namespace Basis

variable {α κ : Type*} [DecidableEq κ]

/-- A further key is added at the end, unless it occurred before. -/
theorem eraseDups_append_singleton (keys : List κ) (key : κ)
    : (keys ++ [key]).eraseDups
      = if key ∈ keys then keys.eraseDups else keys.eraseDups ++ [key] := by
  rw [List.eraseDups_append]
  by_cases known : key ∈ keys
  · simp [List.removeAll, known]
  · simp [List.removeAll, known, List.eraseDups_cons]

theorem nodup_eraseDups (keys : List κ) : keys.eraseDups.Nodup := by
  induction keys using List.reverseRecOn with
  | nil => exact List.nodup_nil
  | append_singleton earlier key ih =>
      rw [eraseDups_append_singleton]
      split
      · exact ih
      · rename_i fresh
        rw [List.nodup_append]
        refine ⟨ih, by simp, ?_⟩
        rintro other member _ last rfl
        exact fresh (List.mem_eraseDups.mp (List.mem_singleton.mp last ▸ member))

/-- Containing an element, for elements that are equal when their keys are. -/
theorem contains_eq_decide_key [BEq α] {keyOf : α → κ}
    (byKey : ∀ {left right : α}, left == right ↔ keyOf left = keyOf right) (elements : List α)
    (element : α)
    : elements.contains element = decide (keyOf element ∈ elements.map keyOf) := by
  rw [List.contains_eq_any_beq, Bool.eq_iff_iff]
  simp only [List.any_eq_true, decide_eq_true_eq, List.mem_map, byKey]
  exact exists_congr fun other => and_congr_right fun _ => eq_comm

/-- The groups over distinct keys that cover a list partition it. Witness: induction on the
keys; the groups of the later keys lie in what the first group leaves.
-/
theorem flatMap_filter_perm {keys : List κ} (distinct : keys.Nodup) (keyOf : α → κ)
    {elements : List α} (cover : ∀ element ∈ elements, keyOf element ∈ keys)
    : (keys.flatMap fun key => elements.filter (fun element => keyOf element = key)).Perm
        elements := by
  induction keys generalizing elements with
  | nil =>
      have empty : elements = [] :=
        List.eq_nil_iff_forall_not_mem.mpr fun element member => by
          simpa using cover element member
      simp [empty]
  | cons key rest ih =>
      obtain ⟨fresh, restDistinct⟩ := List.nodup_cons.mp distinct
      let others := elements.filter (fun element => !decide (keyOf element = key))
      have othersCover : ∀ element ∈ others, keyOf element ∈ rest := by
        intro element member
        obtain ⟨inList, different⟩ := List.mem_filter.mp member
        rcases List.mem_cons.mp (cover element inList) with same | later
        · simp [same] at different
        · exact later
      have later
          : (rest.flatMap fun other => elements.filter (fun element => keyOf element = other))
            = rest.flatMap fun other => others.filter (fun element => keyOf element = other) := by
        refine List.flatMap_congr (fun other member => ?_)
        have different : other ≠ key := fun same => fresh (same ▸ member)
        rw [List.filter_filter]
        refine List.filter_congr (fun element _ => ?_)
        by_cases same : keyOf element = other
        · simp [same, different]
        · simp [same]
      rw [List.flatMap_cons, later]
      exact ((ih restDistinct othersCover).append_left _).trans (List.filter_append_perm _ elements)

/-- Two lists made from one list agree entry by entry where the functions do. -/
theorem forall₂_map {β γ : Type*} {related : β → γ → Prop} {left : α → β} {right : α → γ}
    {elements : List α} (agree : ∀ element ∈ elements, related (left element) (right element))
    : List.Forall₂ related (elements.map left) (elements.map right) := by
  rw [List.forall₂_map_left_iff, List.forall₂_map_right_iff, List.forall₂_same]
  exact agree

end Basis
