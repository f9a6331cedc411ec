import Mathlib.Data.List.Basic

/-! The part of a history since its last marked element. Whether an element is marked may
depend on the elements before it.
-/

namespace Basis

variable {α : Type*} {marked : List α → α → Prop}

/-- `since` are the elements of the history after its last marked one, or all of them. -/
def SinceLast (marked : List α → α → Prop) (history since : List α) : Prop :=
  ∃ upTo,
    history = upTo ++ since
    ∧ (upTo = [] ∨ ∃ earlier last, upTo = earlier ++ [last] ∧ marked earlier last)
    ∧ ∀ first element rest,
        since = first ++ element :: rest → ¬ marked (upTo ++ first) element

namespace SinceLast

theorem nil : SinceLast marked [] [] :=
  ⟨[], rfl, Or.inl rfl, by simp⟩

theorem append_marked {history : List α} {element : α} (marks : marked history element)
    : SinceLast marked (history ++ [element]) [] :=
  ⟨history ++ [element], by simp, Or.inr ⟨history, element, rfl, marks⟩, by simp⟩

theorem append_unmarked {history since : List α} (sinceLast : SinceLast marked history since)
    {element : α} (unmarked : ¬ marked history element)
    : SinceLast marked (history ++ [element]) (since ++ [element]) := by
  obtain ⟨upTo, rfl, start, silent⟩ := sinceLast
  refine ⟨upTo, by simp, start, ?_⟩
  intro first other rest split
  rcases List.eq_nil_or_concat rest with rfl | ⟨shorter, last, rfl⟩
  · obtain ⟨rfl, same⟩ := List.append_inj' split rfl
    obtain rfl := (List.cons.inj same).1
    exact unmarked
  · rw [List.concat_eq_append, ← List.cons_append, ← List.append_assoc] at split
    obtain ⟨earlier, -⟩ := List.append_inj' split rfl
    exact silent first other shorter earlier

/-- What stands after the last marked element cannot start later: that element would be
marked in it.
-/
theorem eq_nil_of_append {upTo between since : List α}
    (marks : ∃ earlier last, upTo ++ between = earlier ++ [last] ∧ marked earlier last)
    (silent
      : ∀ first element rest,
          between ++ since = first ++ element :: rest → ¬ marked (upTo ++ first) element)
    : between = [] := by
  rcases List.eq_nil_or_concat between with none | ⟨first, last, rfl⟩
  · exact none
  · obtain ⟨earlier, other, split, mark⟩ := marks
    rw [List.concat_eq_append, ← List.append_assoc] at split
    obtain ⟨rfl, same⟩ := List.append_inj' split rfl
    obtain rfl := (List.cons.inj same).1
    exact absurd mark (silent first last since (by simp))

theorem unique {history left right : List α} (leftSince : SinceLast marked history left)
    (rightSince : SinceLast marked history right)
    : left = right := by
  obtain ⟨leftUpTo, rfl, leftStart, leftSilent⟩ := leftSince
  obtain ⟨rightUpTo, split, rightStart, rightSilent⟩ := rightSince
  rcases List.append_eq_append_iff.mp split with
    ⟨between, rfl, rfl⟩ | ⟨between, rfl, rfl⟩
  · rcases rightStart with empty | marks
    · rw [(List.append_eq_nil_iff.mp empty).2, List.nil_append]
    · rw [eq_nil_of_append marks leftSilent, List.nil_append]
  · rcases leftStart with empty | marks
    · rw [(List.append_eq_nil_iff.mp empty).2, List.nil_append]
    · rw [eq_nil_of_append marks rightSilent, List.nil_append]

end SinceLast

end Basis
