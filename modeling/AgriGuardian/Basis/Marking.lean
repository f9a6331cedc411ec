import Mathlib.Data.List.Zip
import Mathlib.Data.List.Nodup

/-! The elements of a list at the positions that a list of marks selects. -/

namespace Basis

variable {α : Type*}

/-- The elements whose mark is this one, in their order. -/
def marked (mark : Bool) (elements : List α) (marks : List Bool) : List α :=
  ((elements.zip marks).filter fun pair => pair.2 == mark).map Prod.fst

@[simp]
theorem marked_nil (mark : Bool) (marks : List Bool) : marked mark ([] : List α) marks = [] := by
  simp [marked]

/-- One more element comes last, if it is marked so. -/
theorem marked_append_singleton {elements : List α} {marks : List Bool}
    (matching : marks.length = elements.length) (mark : Bool) (element : α) (last : Bool)
    : marked mark (elements ++ [element]) (marks ++ [last])
      = marked mark elements marks ++ if last == mark then [element] else [] := by
  simp only [marked, List.zip_append matching.symm, List.zip_cons_cons, List.zip_nil_left,
    List.filter_append, List.map_append, List.filter_cons, List.filter_nil]
  split
  · rfl
  · rfl

/-- Every element is marked one way or the other. -/
theorem marked_perm {elements : List α} {marks : List Bool}
    (matching : marks.length = elements.length)
    : (marked true elements marks ++ marked false elements marks).Perm elements := by
  have split := List.filter_append_perm (fun pair : α × Bool => pair.2 == true) (elements.zip marks)
  have parts := split.map Prod.fst
  rw [List.map_append, List.map_fst_zip (le_of_eq matching.symm)] at parts
  simpa [marked] using parts

/-- How many elements are marked depends on the marks alone. -/
theorem length_marked {elements : List α} {marks : List Bool}
    (matching : marks.length = elements.length) (mark : Bool)
    : (marked mark elements marks).length = marks.count mark := by
  calc
    (marked mark elements marks).length
        = ((elements.zip marks).filter fun pair => pair.2 == mark).length := List.length_map ..
    _ = (elements.zip marks).countP fun pair => pair.2 == mark :=
      List.countP_eq_length_filter.symm
    _ = ((elements.zip marks).map Prod.snd).count mark := by rw [List.count, List.countP_map]; rfl
    _ = marks.count mark := by rw [List.map_snd_zip (le_of_eq matching)]

end Basis
