import AgriGuardian.Basis.Machine
import AgriGuardian.Basis.Marking
import AgriGuardian.Accounts.Device

/-! The profiles screen, which keeps its profiles and what is selected in two arrays.
Deleting walks the indices downwards, so removing a profile moves none that is still to be
visited. But a removal needs the id of a document, and no profile that the screen creates
has one.
-/

namespace AgriGuardian.Accounts

open Swift
open Basis
open Rides

structure IndexPath where
  inSection : ℕ
  item : ℕ

/-- The state of the screen, with whether it asks to confirm a deletion. -/
structure ProfilesViewController where
  profiles : List Device
  isSelected : List Bool
  selectedIdx : ℕ
  editMode : Bool
  currentTitle : Option String
  verifying : Bool

/-- What the user does, and the drawing of a cell. -/
inductive ScreenEvent
  | createDeviceProfile (name : String)
  | didSelectItemAt (indexPath : IndexPath)
  | editButtonPressed
  | cellForItemAt (indexPath : IndexPath)
  | deleteAction
  | cancelAction

inductive ScreenOutput
  | addToDevice (device : Device)
  | removeFromDevice (devId : String)
  | navigateToHome (chosenDevice : Device)
  | showCell (vehicleName : String) (toggleIsHidden : Bool)

/-- A trap, or an event that the screen does not let happen. -/
inductive ScreenFault
  | trapped (trap : Trap)
  | notPossible

namespace ProfilesViewController

/-- The body of the deletion loop. -/
def deleteSelected : Handler (List Device) (Bool × ℕ) ScreenOutput Trap
  | profiles, (check, i) =>
      if check == true then
        match (do
            let profile ← element profiles i
            document "devices" profile.devId
            .ok profile) with
        | .error trap => ([], .error trap)
        | .ok profile => ([.removeFromDevice profile.devId], removeAt profiles i)
      else ([], .ok profiles)

/-- `isSelected` with nothing selected. -/
def noneSelected (profiles : List Device) : List Bool := List.replicate profiles.length false

/-- The handler of an event. A cell is drawn and tapped only for the sections there are, and
while a deletion is to be confirmed nothing else can be tapped.
-/
def handle : Handler ProfilesViewController ScreenEvent ScreenOutput ScreenFault
  | screen, .createDeviceProfile name =>
      if screen.verifying then ([], .error .notPossible)
      else
        let newVehicle := { Device.init with name := name }
        ([.addToDevice newVehicle], .ok { screen with
          profiles := screen.profiles ++ [newVehicle]
          isSelected := screen.isSelected ++ [false] })
  | screen, .didSelectItemAt indexPath =>
      if screen.verifying ∨ screen.profiles.length ≤ indexPath.inSection then
        ([], .error .notPossible)
      else if screen.editMode == false then
        match element screen.profiles indexPath.inSection with
        | .error trap => ([], .error (.trapped trap))
        | .ok profile =>
            ([.navigateToHome profile], .ok { screen with selectedIdx := indexPath.item })
      else
        match element screen.isSelected indexPath.inSection with
        | .error trap => ([], .error (.trapped trap))
        | .ok selected => ([], .ok { screen with
            isSelected := screen.isSelected.set indexPath.inSection (!selected) })
  | screen, .editButtonPressed =>
      if screen.verifying then ([], .error .notPossible)
      else
        match screen.currentTitle with
        | none => ([], .ok screen)
        | some status =>
            if status == "Edit" then
              ([], .ok { screen with currentTitle := some "Done", editMode := true })
            else
              let count := (screen.isSelected.filter fun selected => selected == true).length
              ([], .ok { screen with
                verifying := count > 0
                currentTitle := some "Edit"
                editMode := false })
  | screen, .cellForItemAt indexPath =>
      if screen.profiles.length ≤ indexPath.inSection then ([], .error .notPossible)
      else
        match (do
            let profile ← element screen.profiles indexPath.inSection
            let selected ← element screen.isSelected indexPath.inSection
            .ok (ScreenOutput.showCell profile.name (!selected))) with
        | .error trap => ([], .error (.trapped trap))
        | .ok cell => ([cell], .ok screen)
  | screen, .deleteAction =>
      if screen.verifying then
        match run deleteSelected screen.profiles screen.isSelected.zipIdx.reverse with
        | (requests, .error trap) => (requests, .error (.trapped trap))
        | (requests, .ok profiles) => (requests, .ok { screen with
            profiles := profiles
            isSelected := noneSelected profiles
            verifying := false })
      else ([], .error .notPossible)
  | screen, .cancelAction =>
      if screen.verifying then
        ([], .ok { screen with
          isSelected := noneSelected screen.profiles
          verifying := false })
      else ([], .error .notPossible)

-----------------------------------------------------------------------------------------
-- The deletion loop
-----------------------------------------------------------------------------------------

variable {profiles rest : List Device} {profile : Device}

theorem deleteSelected_unselected (profiles : List Device) (i : ℕ)
    : deleteSelected profiles (false, i) = ([], .ok profiles) :=
  rfl

theorem deleteSelected_named (named : NamesDocument profile.devId)
    : deleteSelected (profiles ++ profile :: rest) (true, profiles.length)
      = ([.removeFromDevice profile.devId], .ok (profiles ++ rest)) := by
  simp [deleteSelected, document_eq_ok_iff.mpr named]

theorem deleteSelected_nameless (nameless : ¬ NamesDocument profile.devId)
    : ∃ trap,
        deleteSelected (profiles ++ profile :: rest) (true, profiles.length)
          = ([], .error trap) := by
  cases found : document "devices" profile.devId with
  | ok _ => exact absurd (document_eq_ok_iff.mp found) nameless
  | error trap => exact ⟨trap, by simp [deleteSelected, found]⟩

/-- The loop visits the last index first. -/
theorem zipIdx_reverse_append_singleton (before : List Bool) (last : Bool)
    : (before ++ [last]).zipIdx.reverse = (last, before.length) :: before.zipIdx.reverse := by
  simp [List.zipIdx_append]

/-- The loop removes the selected profiles, last first, and leaves the others. Witness:
induction from the right, for any profiles behind those that are still to be visited.
-/
theorem run_deleteSelected {isSelected : List Bool}
    (matching : isSelected.length = profiles.length)
    (named : ∀ profile ∈ marked true profiles isSelected, NamesDocument profile.devId)
    : run deleteSelected (profiles ++ rest) isSelected.zipIdx.reverse
      = (((marked true profiles isSelected).map fun profile =>
            .removeFromDevice profile.devId).reverse,
          .ok (marked false profiles isSelected ++ rest)) := by
  induction profiles using List.reverseRecOn generalizing isSelected rest with
  | nil =>
      obtain rfl := List.length_eq_zero_iff.mp matching
      rfl
  | append_singleton before profile ih =>
      obtain rfl | ⟨marks, last, rfl⟩ := isSelected.eq_nil_or_concat'
      · simp at matching
      have shorter : marks.length = before.length := by simpa using matching
      rw [marked_append_singleton shorter] at named
      rw [zipIdx_reverse_append_singleton, shorter, List.append_assoc, List.singleton_append,
        marked_append_singleton shorter, marked_append_singleton shorter]
      cases last with
      | false =>
          rw [run_cons_ok (deleteSelected_unselected _ _)]
          have others := @ih (profile :: rest) marks shorter (by simpa using named)
          simp [others]
      | true =>
          have here : NamesDocument profile.devId := named profile (by simp)
          rw [run_cons_ok (deleteSelected_named here)]
          have others := @ih rest marks shorter fun other member =>
            named other (List.mem_append_left _ member)
          simp [others]

/-- The loop returns only if every selected profile names a document. -/
theorem named_of_run_deleteSelected {isSelected : List Bool}
    (matching : isSelected.length = profiles.length) {left : List Device}
    (returned : (run deleteSelected (profiles ++ rest) isSelected.zipIdx.reverse).2 = .ok left)
    : ∀ profile ∈ marked true profiles isSelected, NamesDocument profile.devId := by
  induction profiles using List.reverseRecOn generalizing isSelected rest with
  | nil => simp
  | append_singleton before profile ih =>
      obtain rfl | ⟨marks, last, rfl⟩ := isSelected.eq_nil_or_concat'
      · simp at matching
      have shorter : marks.length = before.length := by simpa using matching
      rw [zipIdx_reverse_append_singleton, shorter, List.append_assoc, List.singleton_append]
        at returned
      rw [marked_append_singleton shorter]
      cases last with
      | false =>
          rw [run_cons_ok (deleteSelected_unselected _ _)] at returned
          simpa using ih shorter returned
      | true =>
          have here : NamesDocument profile.devId := by
            apply of_not_not
            intro nameless
            obtain ⟨trap, stopped⟩ := deleteSelected_nameless nameless
            rw [run_cons_error stopped] at returned
            cases returned
          rw [run_cons_ok (deleteSelected_named here)] at returned
          intro other member
          cases List.mem_append.mp member with
          | inl earlier => exact ih shorter returned other earlier
          | inr last =>
              obtain rfl := List.mem_singleton.mp last
              exact here

-----------------------------------------------------------------------------------------
-- Runs of the screen
-----------------------------------------------------------------------------------------

def Matching (screen : ProfilesViewController) : Prop :=
  screen.isSelected.length = screen.profiles.length

/-- The selected profiles, or the others. -/
def chosen (selected : Bool) (screen : ProfilesViewController) : List Device :=
  marked selected screen.profiles screen.isSelected

/-- A confirmed deletion requests one removal for each selected profile, leaves the others in
their order, and leaves nothing selected.
-/
def DeletesExactly (screen : ProfilesViewController) : Prop :=
  ∃ next,
    handle screen .deleteAction
      = (((screen.chosen true).map fun profile => .removeFromDevice profile.devId).reverse,
          .ok next)
    ∧ next.profiles = screen.chosen false
    ∧ ∀ selected ∈ next.isSelected, selected = false

/-- The arrays match, the event does not trap, and a confirmed deletion is exact. -/
def Exact (screen : ProfilesViewController) (event : ScreenEvent) : Prop :=
  screen.Matching
  ∧ (∀ outputs trap, handle screen event ≠ (outputs, .error (.trapped trap)))
  ∧ (event = .deleteAction → screen.verifying = true → screen.DeletesExactly)

/-- When a deletion is confirmed, every selected profile has the id of a document. -/
def DeletesNamed (screen : ProfilesViewController) (event : ScreenEvent) : Prop :=
  event = .deleteAction
  → screen.verifying = true
  → ∀ profile ∈ screen.chosen true, NamesDocument profile.devId

/-- A confirmed deletion is exact if the selected profiles have ids. -/
theorem deletesExactly_of_named {screen : ProfilesViewController} (matching : screen.Matching)
    (verifying : screen.verifying = true)
    (named : ∀ profile ∈ screen.chosen true, NamesDocument profile.devId)
    : screen.DeletesExactly := by
  have loop := @run_deleteSelected _ [] _ matching named
  simp only [List.append_nil] at loop
  refine ⟨{ screen with
    profiles := screen.chosen false
    isSelected := noneSelected (screen.chosen false)
    verifying := false }, ?_, rfl, ?_⟩
  · simp only [handle, verifying, if_true, loop]
    rfl
  · intro selected member
    exact List.eq_of_mem_replicate member

/-- What each event does to the screen. -/
theorem handle_eq_ok {screen next : ProfilesViewController} {event : ScreenEvent}
    {outputs : List ScreenOutput} (handled : handle screen event = (outputs, .ok next))
    : match event with
      | .createDeviceProfile name =>
          outputs = [.addToDevice { Device.init with name := name }]
          ∧ next = { screen with
              profiles := screen.profiles ++ [{ Device.init with name := name }]
              isSelected := screen.isSelected ++ [false] }
      | .didSelectItemAt indexPath =>
          screen.verifying = false
          ∧ ((∃ profile,
              outputs = [.navigateToHome profile]
              ∧ next = { screen with selectedIdx := indexPath.item })
            ∨ ∃ toggled,
                outputs = []
                ∧ next = { screen with
                    isSelected := screen.isSelected.set indexPath.inSection toggled })
      | .editButtonPressed =>
          outputs = []
          ∧ ∃ editMode currentTitle verifying,
              next = { screen with editMode, currentTitle, verifying }
              ∧ (verifying = true → true ∈ screen.isSelected)
      | .cellForItemAt _ =>
          (∃ vehicleName hidden, outputs = [.showCell vehicleName hidden]) ∧ next = screen
      | .deleteAction =>
          screen.verifying = true
          ∧ ∃ profiles,
              run deleteSelected screen.profiles screen.isSelected.zipIdx.reverse
                = (outputs, .ok profiles)
              ∧ next = { screen with
                  profiles := profiles
                  isSelected := noneSelected profiles
                  verifying := false }
      | .cancelAction =>
          outputs = []
          ∧ next = { screen with
              isSelected := noneSelected screen.profiles
              verifying := false } := by
  cases event with
  | createDeviceProfile name =>
      obtain ⟨-, outcome⟩ := excluded_eq_ok handled
      cases outcome
      exact ⟨rfl, rfl⟩
  | didSelectItemAt indexPath =>
      obtain ⟨possible, outcome⟩ := excluded_eq_ok handled
      have idle : screen.verifying = false :=
        Bool.eq_false_iff.mpr fun verifying => possible (Or.inl verifying)
      split at outcome
      · split at outcome
        · cases outcome
        · cases outcome
          exact ⟨idle, Or.inl ⟨_, rfl, rfl⟩⟩
      · split at outcome
        · cases outcome
        · cases outcome
          exact ⟨idle, Or.inr ⟨_, rfl, rfl⟩⟩
  | editButtonPressed =>
      obtain ⟨idle, outcome⟩ := excluded_eq_ok handled
      split at outcome
      · cases outcome
        exact ⟨rfl, _, _, _, rfl, fun verifying => absurd verifying idle⟩
      · split at outcome
        · cases outcome
          exact ⟨rfl, _, _, _, rfl, fun verifying => absurd verifying idle⟩
        · cases outcome
          refine ⟨rfl, _, _, _, rfl, fun some => ?_⟩
          obtain ⟨selected, member⟩ := List.length_pos_iff_exists_mem.mp (of_decide_eq_true some)
          obtain ⟨member, isTrue⟩ := List.mem_filter.mp member
          exact beq_iff_eq.mp isTrue ▸ member
  | cellForItemAt indexPath =>
      obtain ⟨-, outcome⟩ := excluded_eq_ok handled
      split at outcome
      · cases outcome
      · rename_i cell drawn
        cases outcome
        obtain ⟨profile, -, later⟩ := bind_eq_ok.mp drawn
        obtain ⟨selected, -, built⟩ := bind_eq_ok.mp later
        obtain rfl := Except.ok.inj built
        exact ⟨⟨_, _, rfl⟩, rfl⟩
  | deleteAction =>
      obtain ⟨verifying, outcome⟩ := guarded_eq_ok handled
      split at outcome
      · cases outcome
      · rename_i requests profiles completed
        cases outcome
        exact ⟨verifying, profiles, completed, rfl⟩
  | cancelAction =>
      obtain ⟨-, outcome⟩ := guarded_eq_ok handled
      cases outcome
      exact ⟨rfl, rfl⟩

/-- Every event keeps the arrays of one length. -/
theorem matching_handle {screen next : ProfilesViewController} {event : ScreenEvent}
    {outputs : List ScreenOutput} (matching : screen.Matching)
    (handled : handle screen event = (outputs, .ok next))
    : next.Matching := by
  have effect := handle_eq_ok handled
  cases event with
  | createDeviceProfile name =>
      obtain ⟨-, rfl⟩ := effect
      simpa [Matching] using matching
  | didSelectItemAt indexPath =>
      obtain ⟨-, ⟨profile, -, rfl⟩ | ⟨toggled, -, rfl⟩⟩ := effect
      · exact matching
      · simpa [Matching] using matching
  | editButtonPressed =>
      obtain ⟨-, editMode, currentTitle, verifying, rfl, -⟩ := effect
      exact matching
  | cellForItemAt indexPath =>
      obtain ⟨-, rfl⟩ := effect
      exact matching
  | deleteAction =>
      obtain ⟨-, profiles, -, rfl⟩ := effect
      simp [Matching, noneSelected]
  | cancelAction =>
      obtain ⟨-, rfl⟩ := effect
      simp [Matching, noneSelected]

/-- A section that there is has an element in both arrays. -/
theorem elements_of_shown {screen : ProfilesViewController} (matching : screen.Matching)
    {index : ℕ} (shown : index < screen.profiles.length)
    : ∃ profile selected,
        element screen.profiles index = .ok profile
        ∧ element screen.isSelected index = .ok selected := by
  obtain ⟨profile, foundProfile⟩ := element_returns_iff.mpr shown
  obtain ⟨selected, foundSelected⟩ := element_returns_iff.mpr (matching ▸ shown)
  exact ⟨profile, selected, foundProfile, foundSelected⟩

/-- With matching arrays, only a deletion can trap. -/
theorem not_trapped {screen : ProfilesViewController} (matching : screen.Matching)
    {event : ScreenEvent} (other : event ≠ .deleteAction) (outputs : List ScreenOutput)
    (trap : Trap)
    : handle screen event ≠ (outputs, .error (.trapped trap)) := by
  intro trapped
  cases event with
  | createDeviceProfile name =>
      simp only [handle] at trapped
      split at trapped <;> cases trapped
  | didSelectItemAt indexPath =>
      simp only [handle] at trapped
      split at trapped
      · cases trapped
      · rename_i possible
        obtain ⟨profile, selected, foundProfile, foundSelected⟩ :=
          elements_of_shown matching (not_le.mp fun beyond => possible (Or.inr beyond))
        simp only [foundProfile, foundSelected] at trapped
        split at trapped <;> cases trapped
  | editButtonPressed =>
      simp only [handle] at trapped
      split at trapped
      · cases trapped
      · split at trapped
        · cases trapped
        · split at trapped <;> cases trapped
  | cellForItemAt indexPath =>
      simp only [handle] at trapped
      split at trapped
      · cases trapped
      · rename_i shown
        obtain ⟨profile, selected, foundProfile, foundSelected⟩ :=
          elements_of_shown matching (not_le.mp shown)
        simp only [foundProfile, foundSelected, ok_bind] at trapped
        cases trapped
  | deleteAction => exact other rfl
  | cancelAction =>
      simp only [handle] at trapped
      split at trapped <;> cases trapped

/-- With matching arrays, whether an event is exact. -/
theorem exact_iff {screen : ProfilesViewController} (matching : screen.Matching)
    (event : ScreenEvent)
    : screen.Exact event ↔ screen.DeletesNamed event := by
  constructor
  · intro ⟨_, _, exactly⟩ deletes verifying
    obtain ⟨next, handled, -, -⟩ := exactly deletes verifying
    obtain ⟨-, profiles, completed, -⟩ := handle_eq_ok handled
    apply @named_of_run_deleteSelected _ [] _ matching profiles
    rw [List.append_nil, completed]
  · intro named
    refine ⟨matching, ?_, ?_⟩
    · intro outputs trap trapped
      cases event with
      | deleteAction =>
          cases verifying : screen.verifying with
          | false => simp [handle, verifying] at trapped
          | true =>
              obtain ⟨next, handled, -, -⟩ :=
                deletesExactly_of_named matching verifying (named rfl verifying)
              cases handled.symm.trans trapped
      | createDeviceProfile _ => exact not_trapped matching (by nofun) outputs trap trapped
      | didSelectItemAt _ => exact not_trapped matching (by nofun) outputs trap trapped
      | editButtonPressed => exact not_trapped matching (by nofun) outputs trap trapped
      | cellForItemAt _ => exact not_trapped matching (by nofun) outputs trap trapped
      | cancelAction => exact not_trapped matching (by nofun) outputs trap trapped
    · intro deletes verifying
      exact deletesExactly_of_named matching verifying (named deletes verifying)

/-- Along every run, deleting is exact exactly when every selected profile has the id of a
document each time.
-/
theorem exact_along_iff {start : ProfilesViewController} (matching : start.Matching)
    (events : List ScreenEvent)
    : Along handle start events (fun _ => Exact)
      ↔ Along handle start events (fun _ => DeletesNamed) := by
  apply along_congr
  intro before screen event reached
  apply exact_iff
  exact run_invariant Matching (fun _ _ _ _ => matching_handle) matching reached

/-- The screen as it opens, without profiles. -/
def opened : ProfilesViewController where
  profiles := []
  isSelected := []
  selectedIdx := 0
  editMode := false
  currentTitle := some "Edit"
  verifying := false

/-- A deletion is to be confirmed of the second of two stored devices. -/
def confirming : ProfilesViewController where
  profiles := [{ Device.init with devId := "d1" }, { Device.init with devId := "d2" }]
  isSelected := [false, true]
  selectedIdx := 0
  editMode := false
  currentTitle := some "Edit"
  verifying := true

/-- The profiles of this start have ids, which those of the screen as it opens never do. -/
theorem exact_along_iff_confirming
    : Along handle confirming [.deleteAction] (fun _ => Exact) := by
  apply (@exact_along_iff confirming rfl [.deleteAction]).mpr
  intro before event after split screen reached
  cases before with
  | nil =>
      cases reached
      intro _ _
      decide
  | cons _ _ => simp at split

/-- A profile is created, selected and deleted. -/
def deletingQuad : List ScreenEvent := [
  .createDeviceProfile "Quad",
  .editButtonPressed,
  .didSelectItemAt ⟨0, 0⟩,
  .editButtonPressed,
  .deleteAction]

/-- The deletion ends the program: the profile has no id. -/
theorem deletingQuad_not_exact
    : ¬ ∀ (start : ProfilesViewController) (events : List ScreenEvent),
        start.Matching → Along handle start events (fun _ => Exact) := by
  intro claim
  have exactly := claim opened deletingQuad rfl (deletingQuad.take 4) .deleteAction [] rfl _ rfl
  exact exactly.2.1 [] _ rfl

-----------------------------------------------------------------------------------------
-- The screen as it opens
-----------------------------------------------------------------------------------------

/-- No profile has an id, and a deletion is to be confirmed only of something selected. -/
structure Nameless (screen : ProfilesViewController) : Prop where
  matching : screen.Matching
  devIds : ∀ profile ∈ screen.profiles, profile.devId = ""
  asked : screen.verifying = true → true ∈ screen.isSelected

/-- A deletion of a nameless screen traps. -/
theorem Nameless.trapped {screen : ProfilesViewController} (nameless : screen.Nameless)
    (verifying : screen.verifying = true)
    : ∃ requests trap, handle screen .deleteAction = (requests, .error (.trapped trap)) := by
  obtain ⟨matching, devIds, asked⟩ := nameless
  cases loop : run deleteSelected screen.profiles screen.isSelected.zipIdx.reverse with
  | mk requests outcome =>
      cases outcome with
      | error trap =>
          refine ⟨requests, trap, ?_⟩
          simp only [handle, verifying, if_true, loop]
      | ok left =>
          have named := @named_of_run_deleteSelected _ [] _ matching left
            (by rw [List.append_nil, loop])
          obtain ⟨profile, selected⟩
              : ∃ profile, profile ∈ marked true screen.profiles screen.isSelected := by
            apply List.exists_mem_of_length_pos
            rw [length_marked matching]
            exact List.count_pos_iff.mpr (asked verifying)
          have listed := (marked_perm matching).subset (List.mem_append_left _ selected)
          have none := named profile selected
          rw [devIds profile listed] at none
          exact absurd none (by decide)

/-- Every event keeps a screen nameless: new profiles have the empty id. -/
theorem Nameless.handle {screen next : ProfilesViewController} {event : ScreenEvent}
    {outputs : List ScreenOutput} (nameless : screen.Nameless)
    (handled : screen.handle event = (outputs, .ok next))
    : next.Nameless := by
  have matching := matching_handle nameless.matching handled
  have effect := handle_eq_ok handled
  cases event with
  | createDeviceProfile name =>
      obtain ⟨-, rfl⟩ := effect
      refine ⟨matching, ?_, ?_⟩
      · intro profile member
        cases List.mem_append.mp member with
        | inl before => exact nameless.devIds profile before
        | inr here =>
            obtain rfl := List.mem_singleton.mp here
            rfl
      · exact fun verifying => List.mem_append_left _ (nameless.asked verifying)
  | didSelectItemAt indexPath =>
      obtain ⟨idle, ⟨profile, -, rfl⟩ | ⟨toggled, -, rfl⟩⟩ := effect
      · exact ⟨matching, nameless.devIds, nameless.asked⟩
      · exact ⟨matching, nameless.devIds, fun verifying => by simp [idle] at verifying⟩
  | editButtonPressed =>
      obtain ⟨-, editMode, currentTitle, verifying, rfl, asked⟩ := effect
      exact ⟨matching, nameless.devIds, asked⟩
  | cellForItemAt indexPath =>
      obtain ⟨-, rfl⟩ := effect
      exact nameless
  | deleteAction =>
      obtain ⟨verifying, -⟩ := effect
      obtain ⟨requests, trap, trapped⟩ := nameless.trapped verifying
      cases handled.symm.trans trapped
  | cancelAction =>
      obtain ⟨-, rfl⟩ := effect
      exact ⟨matching, nameless.devIds, nofun⟩

/-- On the screen as it opens, whatever has been created, every confirmed deletion ends the
program.
-/
theorem trapped_of_opened {events : List ScreenEvent} {screen : ProfilesViewController}
    (reached : (run handle opened events).2 = .ok screen) (verifying : screen.verifying = true)
    : ∃ requests trap, handle screen .deleteAction = (requests, .error (.trapped trap)) := by
  have initial : opened.Nameless := {
    matching := rfl
    devIds := fun _ member => absurd member List.not_mem_nil
    asked := fun verifying => by cases verifying }
  have nameless := run_invariant Nameless (fun _ _ _ _ => Nameless.handle) initial reached
  exact nameless.trapped verifying

end ProfilesViewController

end AgriGuardian.Accounts
