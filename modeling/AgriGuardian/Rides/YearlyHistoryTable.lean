import AgriGuardian.Basis.Machine
import AgriGuardian.Rides.RideOrganization

/-! When the yearly history table shows what it opens.
A cell reads the year of the header that was requested last, a selection the year of its
index path. So a cell is right exactly when the two years show the same at its row.
-/

namespace AgriGuardian.Rides

open Swift
open Basis

/-- An index path that is valid for the history. -/
structure IndexPath (history : RideHistory) where
  sectionIndex : Fin history.years.length
  row : Fin (history.years.get sectionIndex).months.length

/-- The calls the table makes. -/
inductive TableCallback (history : RideHistory)
  | titleForHeaderInSection (sectionIndex : Fin history.years.length)
  | cellForRowAt (indexPath : IndexPath history)
  | didSelectRowAt (indexPath : IndexPath history)

/-- The texts of a `MonthHistoryTableViewCell`. -/
structure MonthHistoryTableViewCell where
  monthLabel : String
  rideCountLabel : String
  timeLabel : String
  mileageLabel : String
  incidentLabel : String
  deriving DecidableEq, Repr

/-- What a callback puts on the screen. -/
inductive TableEffect
  | header (title : String)
  | cell (content : MonthHistoryTableViewCell)
  | opened (title : String) (thisRideMonth : RideMonth)

structure YearlyHistoryTableViewController where
  rideHistory : RideHistory
  sectionIdx : ℤ

namespace YearlyHistoryTableViewController

def titleForHeaderInSection (controller : YearlyHistoryTableViewController) (sectionIndex : ℤ)
    : Checked (String × YearlyHistoryTableViewController) := do
  let title ← controller.rideHistory.getYearName sectionIndex
  .ok (title, { controller with sectionIdx := sectionIndex })

/-- Of the index path only the row is read. -/
def cellForRowAt (controller : YearlyHistoryTableViewController) (row : ℤ)
    : Checked MonthHistoryTableViewCell := do
  let monthName ← controller.rideHistory.getMonthName controller.sectionIdx row
  let month ← controller.rideHistory.getMonth controller.sectionIdx row
  let timeLabel ← month.getTimeLabel
  .ok {
    monthLabel := monthName ++ ": "
    rideCountLabel := "Rides -  " ++ toString month.rides.length
    timeLabel := timeLabel
    mileageLabel := month.getMileageLabel
    incidentLabel := toString month.rollovers }

def didSelectRowAt (controller : YearlyHistoryTableViewController) (sectionIndex row : ℤ)
    : Checked (String × RideMonth) := do
  let title := "Sec: " ++ toString sectionIndex ++ " Row: " ++ toString row
  let thisRideMonth ← controller.rideHistory.getMonth sectionIndex row
  .ok (title, thisRideMonth)

/-- One callback with an index path valid for the history. -/
def respond {history : RideHistory}
    : Handler YearlyHistoryTableViewController (TableCallback history) TableEffect Trap :=
  fun controller callback =>
    match callback with
    | .titleForHeaderInSection sectionIndex =>
        match controller.titleForHeaderInSection sectionIndex with
        | .ok (title, next) => ([.header title], .ok next)
        | .error trap => ([], .error trap)
    | .cellForRowAt indexPath =>
        match controller.cellForRowAt indexPath.row with
        | .ok content => ([.cell content], .ok controller)
        | .error trap => ([], .error trap)
    | .didSelectRowAt indexPath =>
        match controller.didSelectRowAt indexPath.sectionIndex indexPath.row with
        | .ok (title, month) => ([.opened title month], .ok controller)
        | .error trap => ([], .error trap)

/-- The screen before any callback. -/
def load (history : RideHistory) : YearlyHistoryTableViewController := ⟨history, 0⟩

/-- The cell shows the name, ride count, time, mileage and rollovers of the month. -/
structure Shows (content : MonthHistoryTableViewCell) (month : RideMonth) : Prop where
  name : content.monthLabel = month.monthName ++ ": "
  rideCount : content.rideCountLabel = "Rides -  " ++ toString month.rides.length
  time : month.getTimeLabel = .ok content.timeLabel
  mileage : content.mileageLabel = month.getMileageLabel
  rollovers : content.incidentLabel = toString month.rollovers

/-- A requested cell shows the month that selecting its index path opens. -/
def ShowsWhatItOpens {history : RideHistory} (controller : YearlyHistoryTableViewController)
    (callback : TableCallback history)
    : Prop :=
  ∀ indexPath,
    callback = .cellForRowAt indexPath
    → ∃ content title month,
        controller.respond callback = ([.cell content], .ok controller)
        ∧ controller.respond (.didSelectRowAt indexPath) = ([.opened title month], .ok controller)
        ∧ month = (history.years.get indexPath.sectionIndex).months.get indexPath.row
        ∧ Shows content month

/-- The current section after a callback: only a header moves it. -/
def headerAfter {history : RideHistory} (current : ℤ) : TableCallback history → ℤ
  | .titleForHeaderInSection sectionIndex => sectionIndex
  | _ => current

/-- The section of the last header requested, 0 before any. -/
def lastHeader {history : RideHistory} (callbacks : List (TableCallback history)) : ℤ :=
  callbacks.foldl headerAfter 0

/-- Two months look the same in a cell. -/
def LookAlike (left right : RideMonth) : Prop := ∃ content, Shows content left ∧ Shows content right

/-- The year of the last header has a month at the row of a requested cell that looks like
the month of its index path.
-/
def HeaderSuits {history : RideHistory} (before : List (TableCallback history))
    (callback : TableCallback history)
    : Prop :=
  ∀ indexPath,
    callback = .cellForRowAt indexPath
    → ∃ month,
        history.getMonth (lastHeader before) indexPath.row = .ok month
        ∧ LookAlike month ((history.years.get indexPath.sectionIndex).months.get indexPath.row)

theorem getMonth_eq {history : RideHistory} (indexPath : IndexPath history)
    : history.getMonth indexPath.sectionIndex indexPath.row
      = .ok ((history.years.get indexPath.sectionIndex).months.get indexPath.row) := by
  have year
      : element history.years (indexPath.sectionIndex : ℕ)
        = .ok (history.years.get indexPath.sectionIndex) :=
    element_eq_ok.mpr (by simp)
  have month
      : element (history.years.get indexPath.sectionIndex).months (indexPath.row : ℕ)
        = .ok ((history.years.get indexPath.sectionIndex).months.get indexPath.row) :=
    element_eq_ok.mpr (by simp)
  rw [RideHistory.getMonth, RideHistory.getMonths, year, ok_bind, ok_bind, month]

/-- A selection opens the month of its index path. -/
theorem respond_didSelectRowAt {history : RideHistory} (header : ℤ) (indexPath : IndexPath history)
    : ∃ title,
        respond ⟨history, header⟩ (.didSelectRowAt indexPath)
        = ([.opened title ((history.years.get indexPath.sectionIndex).months.get indexPath.row)],
          .ok ⟨history, header⟩) := by
  simp [respond, didSelectRowAt, getMonth_eq]

/-- A cell is returned exactly when the current year has a month at the row and that month's
time has a label.
-/
theorem cellForRowAt_eq_ok {controller : YearlyHistoryTableViewController} {row : ℤ}
    {content : MonthHistoryTableViewCell}
    : controller.cellForRowAt row = .ok content
      ↔ ∃ month,
          controller.rideHistory.getMonth controller.sectionIdx row = .ok month
          ∧ Shows content month := by
  rw [cellForRowAt, RideHistory.getMonthName]
  cases found : controller.rideHistory.getMonth controller.sectionIdx row with
  | error trap => simp
  | ok month =>
      simp only [ok_bind, bind_eq_ok]
      constructor
      · rintro ⟨timeLabel, timed, filled⟩
        obtain rfl := Except.ok.inj filled
        exact ⟨month, rfl, ⟨rfl, rfl, timed, rfl, rfl⟩⟩
      · rintro ⟨other, same, shows⟩
        obtain rfl := Except.ok.inj same
        refine ⟨content.timeLabel, shows.time, congrArg Except.ok ?_⟩
        cases content
        simp only [MonthHistoryTableViewCell.mk.injEq]
        exact ⟨shows.name.symm, shows.rideCount.symm, trivial, shows.mileage.symm,
          shows.rollovers.symm⟩

/-- A cell shows what its index path opens exactly when the current year suits. -/
theorem showsWhatItOpens_iff {history : RideHistory} (before : List (TableCallback history))
    (callback : TableCallback history)
    : ShowsWhatItOpens ⟨history, lastHeader before⟩ callback ↔ HeaderSuits before callback := by
  refine forall_congr' fun indexPath => imp_congr_right ?_
  rintro rfl
  obtain ⟨title, selected⟩ := respond_didSelectRowAt (lastHeader before) indexPath
  constructor
  · rintro ⟨content, otherTitle, month, responded, -, rfl, shows⟩
    cases called : cellForRowAt ⟨history, lastHeader before⟩ indexPath.row with
    | error trap => simp [respond, called] at responded
    | ok shown =>
        have same : shown = content := by simpa [respond, called] using responded
        obtain ⟨current, found, currentShows⟩ := cellForRowAt_eq_ok.mp called
        exact ⟨current, found, shown, currentShows, same ▸ shows⟩
  · rintro ⟨current, found, content, currentShows, shows⟩
    have called : cellForRowAt ⟨history, lastHeader before⟩ indexPath.row = .ok content :=
      cellForRowAt_eq_ok.mpr ⟨current, found, currentShows⟩
    refine ⟨content, title, _, ?_, selected, rfl, shows⟩
    simp [respond, called]

-----------------------------------------------------------------------------------------
-- Runs of callbacks
-----------------------------------------------------------------------------------------

/-- A callback that returns keeps the history and moves to its header. -/
theorem respond_eq_ok {history : RideHistory} {header : ℤ} {callback : TableCallback history}
    {next : YearlyHistoryTableViewController}
    (responded : (respond ⟨history, header⟩ callback).2 = .ok next)
    : next = ⟨history, headerAfter header callback⟩ := by
  cases callback with
  | titleForHeaderInSection sectionIndex =>
      cases titled : titleForHeaderInSection ⟨history, header⟩ sectionIndex with
      | error trap => simp [respond, titled] at responded
      | ok result =>
          obtain ⟨title, -, filled⟩ := bind_eq_ok.mp titled
          obtain rfl := Except.ok.inj filled
          simpa [respond, titled, headerAfter, eq_comm] using responded
  | cellForRowAt indexPath =>
      cases called : cellForRowAt ⟨history, header⟩ indexPath.row with
      | error trap => simp [respond, called] at responded
      | ok content =>
          simpa [respond, called, headerAfter, eq_comm] using responded
  | didSelectRowAt indexPath =>
      obtain ⟨title, selected⟩ := respond_didSelectRowAt header indexPath
      rw [selected] at responded
      exact (Except.ok.inj responded).symm

/-- The section index of the screen is that of the last header requested. -/
theorem reached_eq {history : RideHistory} {callbacks : List (TableCallback history)}
    {controller : YearlyHistoryTableViewController}
    (reached : (run respond (load history) callbacks).2 = .ok controller)
    : controller = ⟨history, lastHeader callbacks⟩ := by
  induction callbacks using List.reverseRecOn generalizing controller with
  | nil => exact (Except.ok.inj reached).symm
  | append_singleton earlier callback ih =>
      obtain ⟨middle, reachedMiddle, last⟩ := run_append_inv reached
      obtain rfl := ih reachedMiddle
      rw [run_singleton] at last
      rw [respond_eq_ok last, lastHeader, lastHeader, List.foldl_append]
      rfl

/-- Along every sequence of callbacks, the cells show what they open exactly when the last
header before each of them suits.
-/
theorem shows_what_it_opens_iff (history : RideHistory) (callbacks : List (TableCallback history))
    : Along respond (load history) callbacks
          (fun _ controller callback => ShowsWhatItOpens controller callback)
      ↔ Along respond (load history) callbacks
          (fun before _ callback => HeaderSuits before callback) := by
  refine along_congr (fun before controller callback reached => ?_) callbacks
  obtain rfl := reached_eq reached
  exact showsWhatItOpens_iff before callback

/-- Two months in 2019 and one in 2020. -/
private def ragged : RideHistory :=
  ⟨[⟨"2019", [.init "March", .init "June"]⟩, ⟨"2020", [.init "January"]⟩]⟩

/-- After the header of 2020 the second cell of 2019 is out of range. -/
theorem cell_out_of_range_after_header
    : ¬ ∀ history callbacks,
        Along respond (load history) callbacks
          (fun _ controller (callback : TableCallback history) =>
            ShowsWhatItOpens controller callback) := by
  intro claim
  let second : Fin ragged.years.length := ⟨1, by decide⟩
  let june : IndexPath ragged := ⟨⟨0, by decide⟩, ⟨1, by decide⟩⟩
  obtain ⟨content, title, month, responded, -⟩ :=
    claim ragged [.titleForHeaderInSection second, .cellForRowAt june]
      [.titleForHeaderInSection second] (.cellForRowAt june) [] rfl _ rfl june rfl
  cases responded

end YearlyHistoryTableViewController

end AgriGuardian.Rides
