import AgriGuardian.Rides.DrawnRoute
import AgriGuardian.Rides.HistoryPartition
import AgriGuardian.Rides.LoadGPSData
import AgriGuardian.Rides.YearlyHistoryTable

/-! Going through the history: from the table of months to a month, on to a ride, and to the
map behind it.
Every ride is under its own year and month, and a tap in a table never traps. A month may show
rides of another year as well, but none of another month. The completion of the geocoder, which
the header of a ride asks, may come on any screen.
-/

namespace AgriGuardian.Rides

open Swift
open Basis

-----------------------------------------------------------------------------------------
-- The screens
-----------------------------------------------------------------------------------------

/-- What the screens take from the system and the bundle. -/
structure HistoryServices where
  detail : DetailServices
  earth : Distance
  foundation : Foundation
  bundle : Bundle
  now : Date

namespace RideMonth

def getMonthName (month : RideMonth) : String := month.monthName

def getRide (month : RideMonth) (rideIndex : ℤ) : Checked Ride := element month.rides rideIndex

end RideMonth

namespace YearlyHistoryTableViewController

def numberOfSections (controller : YearlyHistoryTableViewController) : ℕ :=
  controller.rideHistory.getYears.length

def numberOfRowsInSection (controller : YearlyHistoryTableViewController) (sectionIndex : ℤ)
    : Checked ℕ := do
  let months ← controller.rideHistory.getMonths sectionIndex
  .ok months.length

end YearlyHistoryTableViewController

structure MonthlyHistoryTableViewController where
  thisRideMonth : RideMonth

namespace MonthlyHistoryTableViewController

def numberOfSections : ℕ := 1

def numberOfRowsInSection (controller : MonthlyHistoryTableViewController) : ℕ :=
  controller.thisRideMonth.rides.length

def titleForHeaderInSection (controller : MonthlyHistoryTableViewController) : String :=
  controller.thisRideMonth.getMonthName

def didSelectRowAt (controller : MonthlyHistoryTableViewController) (sectionIndex row : ℤ)
    : Checked (String × Ride) := do
  let thisRide ← controller.thisRideMonth.getRide row
  .ok ("Sec: " ++ toString sectionIndex ++ " Row: " ++ toString row, thisRide)

end MonthlyHistoryTableViewController

/-- The detail screen with the points of its graph and the route on its map, once the cells of
these are made.
-/
structure RideDetailCollectionViewController where
  thisRide : Ride
  graph : Option (List CLLocation)
  map : Option RideDetailMapCVC.Route

namespace RideDetailCollectionViewController

/-- The screen with a cell that was made. -/
def made (controller : RideDetailCollectionViewController)
    : Cell → RideDetailCollectionViewController
  | .graph points => { controller with graph := some points }
  | .map route => { controller with map := some route }
  | .info .. | .plain => controller

end RideDetailCollectionViewController

namespace RideMapViewController

/-- `viewDidLoad`, the centre of the map and the lines on it. Whatever the ride, they are those
of the sample file.
-/
def viewDidLoad (services : HistoryServices)
    : Checked
        (CLLocationCoordinate2D × List (CLLocationCoordinate2D × CLLocationCoordinate2D)) := do
  let ride ←
    FirebaseManager.loadGPSData services.earth services.foundation services.bundle services.now
      "gps_2020_03_09" "csv"
  let initialLoc ← element ride.locations 0
  let overlays ← loadRoute ride.locations
  .ok (initialLoc.coordinate, overlays)

end RideMapViewController

/-- What is pushed on the table of months: a month, on that a ride, and on that its map. -/
inductive PushedScreens
  | nothing
  | month (controller : MonthlyHistoryTableViewController)
  | ride (controller : MonthlyHistoryTableViewController)
      (detail : RideDetailCollectionViewController)
  | map (controller : MonthlyHistoryTableViewController)
      (detail : RideDetailCollectionViewController)

/-- The navigation controller of the ride history, with the locations that the geocoder has
been asked about and has not answered yet.
-/
structure HistoryNavigation where
  yearly : YearlyHistoryTableViewController
  pushed : PushedScreens
  geocoding : List CLLocation

/-- What the screen on top asks for or is tapped at, the way back, and an answer of the
geocoder.
-/
inductive NavigationEvent
  | titleForHeaderInSection (sectionIndex : ℕ)
  | cellForRowAt (sectionIndex row : ℕ)
  | didSelectRowAt (sectionIndex row : ℕ)
  | viewForSupplementaryElementOfKind
  | cellForItemAt (row : ℕ)
  | value (pointIndex : ℕ)
  | label (pointIndex : ℕ)
  | didSelectMap
  | back
  | geocoded (request : ℕ)

inductive NavigationEffect
  | header (title : String)
  | monthCell (content : MonthHistoryTableViewCell)
  | rideCell
  | openedMonth (title : String) (thisRideMonth : RideMonth)
  | openedRide (title : String) (thisRide : Ride)
  | reverseGeocodeLocation (startingPoint : CLLocation)
  | locationLabel (text : String)
  | detailCell (content : RideDetailCollectionViewController.Cell)
  | pointValue (speed : ℚ)
  | pointLabel (text : String)
  | openedMap (center : CLLocationCoordinate2D)
      (overlays : List (CLLocationCoordinate2D × CLLocationCoordinate2D))

/-- A trap, or an event that the screens do not let happen. -/
inductive NavigationFault
  | trapped (trap : Trap)
  | notPossible
  deriving DecidableEq

namespace HistoryNavigation

/-- The screens before any event. -/
def start (history : RideHistory) : HistoryNavigation :=
  ⟨YearlyHistoryTableViewController.load history, .nothing, []⟩

/-- The sections of the table on top. A ride and its map are no tables. -/
def numberOfSections (navigation : HistoryNavigation) : ℕ :=
  match navigation.pushed with
  | .nothing => navigation.yearly.numberOfSections
  | .month _ => MonthlyHistoryTableViewController.numberOfSections
  | .ride .. | .map .. => 0

def numberOfRowsInSection (navigation : HistoryNavigation) (sectionIndex : ℕ) : Checked ℕ :=
  match navigation.pushed with
  | .nothing => navigation.yearly.numberOfRowsInSection sectionIndex
  | .month controller => .ok controller.numberOfRowsInSection
  | .ride .. | .map .. => .ok 0

/-- A table is asked and tapped only for the rows it has said to have. -/
def hasRow (navigation : HistoryNavigation) (sectionIndex row : ℕ) : Checked Bool :=
  if sectionIndex < navigation.numberOfSections then do
    let rows ← navigation.numberOfRowsInSection sectionIndex
    .ok (decide (row < rows))
  else .ok false

/-- What the effect and the screens of a call are, unless it traps. -/
def responding {α : Type} (call : Checked α)
    (respond : α → List NavigationEffect × HistoryNavigation)
    : Outcome HistoryNavigation NavigationEffect NavigationFault :=
  match call with
  | .error trap => ([], .error (.trapped trap))
  | .ok result => ((respond result).1, .ok (respond result).2)

def header (navigation : HistoryNavigation) (sectionIndex : ℕ)
    : Outcome HistoryNavigation NavigationEffect NavigationFault :=
  match navigation.pushed with
  | .nothing =>
      responding (navigation.yearly.titleForHeaderInSection sectionIndex) fun (title, yearly) =>
        ([.header title], { navigation with yearly := yearly })
  | .month controller => ([.header controller.titleForHeaderInSection], .ok navigation)
  | .ride .. | .map .. => ([], .error .notPossible)

def cell (navigation : HistoryNavigation) (row : ℕ)
    : Outcome HistoryNavigation NavigationEffect NavigationFault :=
  match navigation.pushed with
  | .nothing =>
      responding (navigation.yearly.cellForRowAt row) fun content =>
        ([.monthCell content], navigation)
  | .month _ => ([.rideCell], .ok navigation)
  | .ride .. | .map .. => ([], .error .notPossible)

def select (navigation : HistoryNavigation) (sectionIndex row : ℕ)
    : Outcome HistoryNavigation NavigationEffect NavigationFault :=
  match navigation.pushed with
  | .nothing =>
      responding (navigation.yearly.didSelectRowAt sectionIndex row) fun (title, month) =>
        ([.openedMonth title month], { navigation with pushed := .month ⟨month⟩ })
  | .month controller =>
      responding (controller.didSelectRowAt sectionIndex row) fun (title, thisRide) =>
        ([.openedRide title thisRide],
          { navigation with pushed := .ride controller ⟨thisRide, none, none⟩ })
  | .ride .. | .map .. => ([], .error .notPossible)

/-- The header asks the geocoder about the first location. -/
def detailHeader (navigation : HistoryNavigation)
    : Outcome HistoryNavigation NavigationEffect NavigationFault :=
  match navigation.pushed with
  | .ride _ detail =>
      responding (element detail.thisRide.locations 0) fun startingPoint =>
        ([.reverseGeocodeLocation startingPoint],
          { navigation with geocoding := navigation.geocoding ++ [startingPoint] })
  | _ => ([], .error .notPossible)

def detailCell (services : HistoryServices) (navigation : HistoryNavigation) (row : ℕ)
    : Outcome HistoryNavigation NavigationEffect NavigationFault :=
  match navigation.pushed with
  | .ride controller detail =>
      if row < RideDetailCollectionViewController.numberOfItemsInSection then
        responding
          (RideDetailCollectionViewController.cellForItemAt services.detail detail.thisRide row)
          fun content =>
            ([.detailCell content],
              { navigation with pushed := .ride controller (detail.made content) })
      else ([], .error .notPossible)
  | _ => ([], .error .notPossible)

/-- The graph that is on the screen asks about one of the points it was told to have. -/
def point {α : Type} (navigation : HistoryNavigation) (pointIndex : ℕ)
    (call : List CLLocation → Checked α) (effect : α → NavigationEffect)
    : Outcome HistoryNavigation NavigationEffect NavigationFault :=
  match navigation.pushed with
  | .ride _ ⟨_, some points, _⟩ =>
      if pointIndex < RideGraphCVCell.numberOfPoints then
        responding (call points) fun result => ([effect result], navigation)
      else ([], .error .notPossible)
  | _ => ([], .error .notPossible)

/-- The button is on the map of the screen. -/
def selectMap (services : HistoryServices) (navigation : HistoryNavigation)
    : Outcome HistoryNavigation NavigationEffect NavigationFault :=
  match navigation.pushed with
  | .ride controller detail =>
      if detail.map.isSome then
        responding (RideMapViewController.viewDidLoad services) fun (center, overlays) =>
          ([.openedMap center overlays], { navigation with pushed := .map controller detail })
      else ([], .error .notPossible)
  | _ => ([], .error .notPossible)

def back (navigation : HistoryNavigation)
    : Outcome HistoryNavigation NavigationEffect NavigationFault :=
  match navigation.pushed with
  | .nothing => ([], .error .notPossible)
  | .month _ => ([], .ok { navigation with pushed := .nothing })
  | .ride controller _ => ([], .ok { navigation with pushed := .month controller })
  | .map controller detail => ([], .ok { navigation with pushed := .ride controller detail })

/-- The completion of a request, which may come when its screen is gone. -/
def complete (services : HistoryServices) (navigation : HistoryNavigation) (request : ℕ)
    : Outcome HistoryNavigation NavigationEffect NavigationFault :=
  match navigation.geocoding[request]? with
  | none => ([], .error .notPossible)
  | some startingPoint =>
      responding (Ride.thisCity services.detail startingPoint) fun thisCity =>
        ([.locationLabel (RideDetailCollectionViewController.locationLabel thisCity)],
          { navigation with geocoding := navigation.geocoding.eraseIdx request })

def navigate (services : HistoryServices)
    : Handler HistoryNavigation NavigationEvent NavigationEffect NavigationFault
  | navigation, .titleForHeaderInSection sectionIndex =>
      if sectionIndex < navigation.numberOfSections then navigation.header sectionIndex
      else ([], .error .notPossible)
  | navigation, .cellForRowAt sectionIndex row =>
      match navigation.hasRow sectionIndex row with
      | .error trap => ([], .error (.trapped trap))
      | .ok false => ([], .error .notPossible)
      | .ok true => navigation.cell row
  | navigation, .didSelectRowAt sectionIndex row =>
      match navigation.hasRow sectionIndex row with
      | .error trap => ([], .error (.trapped trap))
      | .ok false => ([], .error .notPossible)
      | .ok true => navigation.select sectionIndex row
  | navigation, .viewForSupplementaryElementOfKind => navigation.detailHeader
  | navigation, .cellForItemAt row => navigation.detailCell services row
  | navigation, .value pointIndex =>
      navigation.point pointIndex (fun points => RideGraphCVCell.value points pointIndex)
        .pointValue
  | navigation, .label pointIndex =>
      navigation.point pointIndex
        (fun points => RideGraphCVCell.label services.detail points pointIndex) .pointLabel
  | navigation, .didSelectMap => navigation.selectMap services
  | navigation, .back => navigation.back
  | navigation, .geocoded request => navigation.complete services request

-----------------------------------------------------------------------------------------
-- What a history lets happen
-----------------------------------------------------------------------------------------

/-- The month is in a year of the history. -/
def HasMonth (history : RideHistory) (month : RideMonth) : Prop :=
  ∃ year ∈ history.years, month ∈ year.months

/-- The detail screen shows a ride of the month, and its graph the locations of that ride. -/
structure ShowsRide (history : RideHistory) (controller : MonthlyHistoryTableViewController)
    (detail : RideDetailCollectionViewController)
    : Prop where
  known : HasMonth history controller.thisRideMonth
  stored : detail.thisRide ∈ controller.thisRideMonth.rides
  points : ∀ points ∈ detail.graph, points = detail.thisRide.locations

/-- What is pushed comes from the history. -/
def Opens (history : RideHistory) : PushedScreens → Prop
  | .nothing => True
  | .month controller => HasMonth history controller.thisRideMonth
  | .ride controller detail | .map controller detail => ShowsRide history controller detail

/-- What is on the screens comes from the history, and so does what the geocoder is asked. -/
structure Within (history : RideHistory) (navigation : HistoryNavigation) : Prop where
  yearly : navigation.yearly.rideHistory = history
  pushed : Opens history navigation.pushed
  geocoding
    : ∀ location ∈ navigation.geocoding,
        ∃ ride ∈ history.rides, ride.locations.head? = some location

theorem hasMonth_of_getMonth {history : RideHistory} {yearIndex monthIndex : ℤ}
    {month : RideMonth} (found : history.getMonth yearIndex monthIndex = .ok month)
    : HasMonth history month := by
  obtain ⟨months, inYear, read⟩ := bind_eq_ok.mp found
  obtain ⟨year, known, listed⟩ := bind_eq_ok.mp inYear
  obtain rfl := Except.ok.inj listed
  exact ⟨year, mem_of_element known, mem_of_element read⟩

theorem mem_rides {history : RideHistory} {ride : Ride}
    : ride ∈ history.rides ↔ ∃ month, HasMonth history month ∧ ride ∈ month.rides := by
  simp only [RideHistory.rides, List.mem_flatMap, HasMonth]
  constructor
  · rintro ⟨year, known, month, listed, stored⟩
    exact ⟨month, ⟨year, known, listed⟩, stored⟩
  · rintro ⟨month, ⟨year, known, listed⟩, stored⟩
    exact ⟨year, known, month, listed, stored⟩

theorem ShowsRide.mem_rides {history : RideHistory}
    {controller : MonthlyHistoryTableViewController}
    {detail : RideDetailCollectionViewController} (shows : ShowsRide history controller detail)
    : detail.thisRide ∈ history.rides :=
  HistoryNavigation.mem_rides.mpr ⟨controller.thisRideMonth, shows.known, shows.stored⟩

/-- A cell that is made shows the same ride. Witness: the graph gets the locations of the ride. -/
theorem ShowsRide.made {history : RideHistory} {controller : MonthlyHistoryTableViewController}
    {detail : RideDetailCollectionViewController} (shows : ShowsRide history controller detail)
    {services : DetailServices} {row : ℕ} {content : RideDetailCollectionViewController.Cell}
    (called
      : RideDetailCollectionViewController.cellForItemAt services detail.thisRide row
        = .ok content)
    : ShowsRide history controller (detail.made content) := by
  cases content with
  | info | plain => exact shows
  | map route => exact ⟨shows.known, shows.stored, shows.points⟩
  | graph points =>
      refine ⟨shows.known, shows.stored, ?_⟩
      rintro _ ⟨⟩
      exact RideDetailCollectionViewController.cellForItemAt_graph called

-----------------------------------------------------------------------------------------
-- The tables
-----------------------------------------------------------------------------------------

/-- The table of months counts the rows of its years without a trap. -/
theorem hasRow_nothing (yearly : YearlyHistoryTableViewController) (geocoding : List CLLocation)
    (sectionIndex row : ℕ)
    : ∃ valid,
        hasRow ⟨yearly, .nothing, geocoding⟩ sectionIndex row = .ok valid
        ∧ (valid = true ↔ ∃ month, yearly.rideHistory.getMonth sectionIndex row = .ok month) := by
  by_cases inRange : sectionIndex < yearly.rideHistory.years.length
  · obtain ⟨year, known⟩ := element_returns_iff.mpr inRange
    have months : yearly.rideHistory.getMonths sectionIndex = .ok year.months := by
      rw [RideHistory.getMonths, known, ok_bind]
    refine ⟨decide (row < year.months.length), ?_, ?_⟩
    · simp [hasRow, numberOfSections, YearlyHistoryTableViewController.numberOfSections,
        RideHistory.getYears, inRange, numberOfRowsInSection,
        YearlyHistoryTableViewController.numberOfRowsInSection, months]
    · rw [decide_eq_true_iff, RideHistory.getMonth, months, ok_bind]
      exact element_returns_iff.symm
  · refine ⟨false, ?_, ?_⟩
    · simp [hasRow, numberOfSections, YearlyHistoryTableViewController.numberOfSections,
        RideHistory.getYears, inRange]
    · refine iff_of_false Bool.false_ne_true ?_
      rintro ⟨month, found⟩
      obtain ⟨months, listed, -⟩ := bind_eq_ok.mp found
      obtain ⟨year, known, -⟩ := bind_eq_ok.mp listed
      exact inRange (element_returns_iff.mp ⟨year, known⟩)

/-- A month is asked for its rides, in one section. -/
theorem hasRow_month (yearly : YearlyHistoryTableViewController)
    (controller : MonthlyHistoryTableViewController) (geocoding : List CLLocation)
    (sectionIndex row : ℕ)
    : ∃ valid,
        hasRow ⟨yearly, .month controller, geocoding⟩ sectionIndex row = .ok valid
        ∧ (valid = true
          ↔ sectionIndex = 0 ∧ ∃ ride, controller.thisRideMonth.getRide row = .ok ride) := by
  by_cases only : sectionIndex = 0
  · refine ⟨decide (row < controller.thisRideMonth.rides.length), ?_, ?_⟩
    · simp [hasRow, numberOfSections, MonthlyHistoryTableViewController.numberOfSections,
        numberOfRowsInSection, MonthlyHistoryTableViewController.numberOfRowsInSection, only]
    · rw [decide_eq_true_iff, and_iff_right only]
      exact element_returns_iff.symm
  · refine ⟨false, ?_, by simp [only]⟩
    simp [hasRow, numberOfSections, MonthlyHistoryTableViewController.numberOfSections, only]

theorem select_nothing {yearly : YearlyHistoryTableViewController} {sectionIndex row : ℕ}
    {month : RideMonth} (geocoding : List CLLocation)
    (read : yearly.rideHistory.getMonth sectionIndex row = .ok month)
    : ∃ title,
        select ⟨yearly, .nothing, geocoding⟩ sectionIndex row
          = ([.openedMonth title month], .ok ⟨yearly, .month ⟨month⟩, geocoding⟩) := by
  simp [select, responding, YearlyHistoryTableViewController.didSelectRowAt, read]

theorem select_month (yearly : YearlyHistoryTableViewController)
    {controller : MonthlyHistoryTableViewController} {row : ℕ} {ride : Ride}
    (geocoding : List CLLocation) (sectionIndex : ℕ)
    (read : controller.thisRideMonth.getRide row = .ok ride)
    : ∃ title,
        select ⟨yearly, .month controller, geocoding⟩ sectionIndex row
          = ([.openedRide title ride],
            .ok ⟨yearly, .ride controller ⟨ride, none, none⟩, geocoding⟩) := by
  simp [select, responding, MonthlyHistoryTableViewController.didSelectRowAt, read]

theorem header_nothing {yearly : YearlyHistoryTableViewController} {sectionIndex : ℕ}
    (geocoding : List CLLocation) (inRange : sectionIndex < yearly.rideHistory.years.length)
    : ∃ title,
        header ⟨yearly, .nothing, geocoding⟩ sectionIndex
          = ([.header title],
            .ok ⟨{ yearly with sectionIdx := sectionIndex }, .nothing, geocoding⟩)
        ∧ yearly.rideHistory.getYearName sectionIndex = .ok title := by
  obtain ⟨year, known⟩ := element_returns_iff.mpr inRange
  have named : yearly.rideHistory.getYearName sectionIndex = .ok year.yearName := by
    rw [RideHistory.getYearName, known, ok_bind]
  refine ⟨year.yearName, ?_, named⟩
  simp [header, responding, YearlyHistoryTableViewController.titleForHeaderInSection, named]

-----------------------------------------------------------------------------------------
-- What an event leads to
-----------------------------------------------------------------------------------------

/-- A call leads to screens from the history and to rides of it, if it does not trap. -/
structure Keeps (history : RideHistory)
    (outcome : Outcome HistoryNavigation NavigationEffect NavigationFault)
    : Prop where
  within : ∀ next, outcome.2 = .ok next → next.Within history
  opened : ∀ title ride, .openedRide title ride ∈ outcome.1 → ride ∈ history.rides

theorem keeps_error {history : RideHistory} (fault : NavigationFault)
    : Keeps history ([], .error fault) :=
  ⟨by simp, by simp⟩

theorem keeps_ok {history : RideHistory} {effects : List NavigationEffect}
    {next : HistoryNavigation} (within : next.Within history)
    (opened : ∀ title ride, .openedRide title ride ∈ effects → ride ∈ history.rides)
    : Keeps history (effects, .ok next) := by
  refine ⟨?_, opened⟩
  rintro _ ⟨⟩
  exact within

theorem keeps_responding {α : Type} {history : RideHistory} {call : Checked α}
    {respond : α → List NavigationEffect × HistoryNavigation}
    (within : ∀ result, call = .ok result → (respond result).2.Within history)
    (opened
      : ∀ result, call = .ok result
          → ∀ title ride, .openedRide title ride ∈ (respond result).1 → ride ∈ history.rides)
    : Keeps history (responding call respond) := by
  cases call with
  | error trap => exact keeps_error _
  | ok result => exact keeps_ok (within result rfl) (opened result rfl)

section Keeping

variable {services : HistoryServices} {history : RideHistory} {navigation : HistoryNavigation}

theorem keeps_header (within : navigation.Within history) (sectionIndex : ℕ)
    : Keeps history (navigation.header sectionIndex) := by
  obtain ⟨yearly, pushed, geocoding⟩ := navigation
  cases pushed with
  | nothing =>
      apply keeps_responding
      · rintro ⟨title, after⟩ called
        obtain ⟨named, -, filled⟩ := bind_eq_ok.mp called
        obtain ⟨-, rfl⟩ := Prod.mk.inj (Except.ok.inj filled)
        exact ⟨within.yearly, trivial, within.geocoding⟩
      · simp
  | month controller => exact keeps_ok within (by simp)
  | ride | map => exact keeps_error _

theorem keeps_cell (within : navigation.Within history) (row : ℕ)
    : Keeps history (navigation.cell row) := by
  obtain ⟨yearly, pushed, geocoding⟩ := navigation
  cases pushed with
  | nothing => exact keeps_responding (fun _ _ => within) (by simp)
  | month controller => exact keeps_ok within (by simp)
  | ride | map => exact keeps_error _

/-- A tap opens a month of the history, or a ride of that month. -/
theorem keeps_select (within : navigation.Within history) (sectionIndex row : ℕ)
    : Keeps history (navigation.select sectionIndex row) := by
  obtain ⟨yearly, pushed, geocoding⟩ := navigation
  cases pushed with
  | nothing =>
      apply keeps_responding
      · rintro ⟨title, month⟩ called
        obtain ⟨other, read, filled⟩ := bind_eq_ok.mp called
        obtain ⟨-, rfl⟩ := Prod.mk.inj (Except.ok.inj filled)
        rw [show yearly.rideHistory = history from within.yearly] at read
        exact ⟨within.yearly, hasMonth_of_getMonth read, within.geocoding⟩
      · simp
  | month controller =>
      have known : HasMonth history controller.thisRideMonth := within.pushed
      have listed : ∀ title thisRide,
          controller.didSelectRowAt sectionIndex row = .ok (title, thisRide)
          → thisRide ∈ controller.thisRideMonth.rides := by
        intro title thisRide called
        obtain ⟨other, read, filled⟩ := bind_eq_ok.mp called
        obtain ⟨-, rfl⟩ := Prod.mk.inj (Except.ok.inj filled)
        exact mem_of_element read
      apply keeps_responding
      · rintro ⟨title, thisRide⟩ called
        exact ⟨within.yearly, ⟨known, listed title thisRide called, nofun⟩, within.geocoding⟩
      · rintro ⟨title, thisRide⟩ called otherTitle opened member
        obtain ⟨-, rfl⟩ : otherTitle = title ∧ opened = thisRide := by simpa using member
        exact mem_rides.mpr ⟨_, known, listed title opened called⟩
  | ride | map => exact keeps_error _

/-- The geocoder is asked about the first location of the ride on top. -/
theorem keeps_detailHeader (within : navigation.Within history)
    : Keeps history navigation.detailHeader := by
  obtain ⟨yearly, pushed, geocoding⟩ := navigation
  cases pushed with
  | ride controller detail =>
      have shows : ShowsRide history controller detail := within.pushed
      apply keeps_responding
      · intro startingPoint called
        refine ⟨within.yearly, shows, ?_⟩
        intro location member
        rcases List.mem_append.mp member with before | here
        · exact within.geocoding location before
        · obtain rfl := List.mem_singleton.mp here
          exact ⟨_, shows.mem_rides, element_zero_eq_ok.mp called⟩
      · simp
  | nothing | month | map => exact keeps_error _

theorem keeps_detailCell (within : navigation.Within history) (row : ℕ)
    : Keeps history (navigation.detailCell services row) := by
  obtain ⟨yearly, pushed, geocoding⟩ := navigation
  cases pushed with
  | ride controller detail =>
      have shows : ShowsRide history controller detail := within.pushed
      simp only [detailCell]
      split
      · apply keeps_responding
        · intro content called
          exact ⟨within.yearly, shows.made called, within.geocoding⟩
        · simp
      · exact keeps_error _
  | nothing | month | map => exact keeps_error _

theorem keeps_point {α : Type} (within : navigation.Within history) (pointIndex : ℕ)
    (call : List CLLocation → Checked α) {effect : α → NavigationEffect}
    (noRide : ∀ result title ride, effect result ≠ .openedRide title ride)
    : Keeps history (navigation.point pointIndex call effect) := by
  rw [point]
  split
  · split
    · apply keeps_responding
      · exact fun _ _ => within
      · intro result _ title ride member
        exact absurd (List.mem_singleton.mp member).symm (noRide result title ride)
    · exact keeps_error _
  · exact keeps_error _

theorem keeps_selectMap (within : navigation.Within history)
    : Keeps history (navigation.selectMap services) := by
  obtain ⟨yearly, pushed, geocoding⟩ := navigation
  cases pushed with
  | ride controller detail =>
      simp only [selectMap]
      split
      · exact keeps_responding (fun _ _ => ⟨within.yearly, within.pushed, within.geocoding⟩)
          (by simp)
      · exact keeps_error _
  | nothing | month | map => exact keeps_error _

theorem keeps_back (within : navigation.Within history) : Keeps history navigation.back := by
  obtain ⟨yearly, pushed, geocoding⟩ := navigation
  cases pushed with
  | nothing => exact keeps_error _
  | month controller => exact keeps_ok ⟨within.yearly, trivial, within.geocoding⟩ (by simp)
  | ride controller detail =>
      have shows : ShowsRide history controller detail := within.pushed
      exact keeps_ok ⟨within.yearly, shows.known, within.geocoding⟩ (by simp)
  | map controller detail =>
      exact keeps_ok ⟨within.yearly, within.pushed, within.geocoding⟩ (by simp)

theorem keeps_complete (within : navigation.Within history) (request : ℕ)
    : Keeps history (navigation.complete services request) := by
  rw [complete]
  split
  · exact keeps_error _
  · apply keeps_responding
    · intro thisCity _
      refine ⟨within.yearly, within.pushed, ?_⟩
      exact fun location member => within.geocoding location (List.mem_of_mem_eraseIdx member)
    · simp

/-- Every event keeps what is on the screens within the history. Witness: the events in turn. -/
theorem keeps_navigate (within : navigation.Within history) (event : NavigationEvent)
    : Keeps history (navigation.navigate services event) := by
  cases event with
  | titleForHeaderInSection sectionIndex =>
      rw [navigate]
      split
      · exact keeps_header within sectionIndex
      · exact keeps_error _
  | cellForRowAt sectionIndex row =>
      rw [navigate]
      split
      · exact keeps_error _
      · exact keeps_error _
      · exact keeps_cell within row
  | didSelectRowAt sectionIndex row =>
      rw [navigate]
      split
      · exact keeps_error _
      · exact keeps_error _
      · exact keeps_select within sectionIndex row
  | viewForSupplementaryElementOfKind => exact keeps_detailHeader within
  | cellForItemAt row => exact keeps_detailCell within row
  | value pointIndex => exact keeps_point within pointIndex _ nofun
  | label pointIndex => exact keeps_point within pointIndex _ nofun
  | didSelectMap => exact keeps_selectMap within
  | back => exact keeps_back within
  | geocoded request => exact keeps_complete within request

end Keeping

-----------------------------------------------------------------------------------------
-- Runs
-----------------------------------------------------------------------------------------

section Runs

variable {services : HistoryServices} {history : RideHistory} {events : List NavigationEvent}

theorem within_start (history : RideHistory) : (start history).Within history :=
  ⟨rfl, trivial, nofun⟩

theorem within_navigate {navigation next : HistoryNavigation} {event : NavigationEvent}
    {effects : List NavigationEffect} (within : navigation.Within history)
    (navigated : navigation.navigate services event = (effects, .ok next))
    : next.Within history :=
  (keeps_navigate within event).within next (congrArg Prod.snd navigated)

/-- What is on the screens after any events comes from the history. -/
theorem within_run {final : HistoryNavigation}
    (completed : (run (navigate services) (start history) events).2 = .ok final)
    : final.Within history :=
  run_invariant (Within history) (fun _ _ _ _ within => within_navigate within)
    (within_start history) completed

/-- Only rides of the history are opened. -/
theorem mem_rides_of_opened {title : String} {ride : Ride}
    (opened : .openedRide title ride ∈ (run (navigate services) (start history) events).1)
    : ride ∈ history.rides := by
  have opens
      : ∀ effect ∈ (run (navigate services) (start history) events).1,
          ∀ title ride, effect = .openedRide title ride → ride ∈ history.rides := by
    refine run_outputs_of_invariant (Within history)
      (fun _ _ _ _ within => within_navigate within) ?_ (within_start history) events
    rintro navigation event within effect emitted title ride rfl
    exact (keeps_navigate within event).opened title ride emitted
  exact opens _ opened title ride rfl

/-- Two headers and two taps lead to any ride of any month. -/
theorem run_to_ride {year : RideYear} {month : RideMonth} {ride : Ride}
    (known : year ∈ history.years) (listed : month ∈ year.months) (stored : ride ∈ month.rides)
    : ∃ sectionIndex row item monthTitle rideTitle,
        run (navigate services) (start history) [
            .titleForHeaderInSection sectionIndex,
            .didSelectRowAt sectionIndex row,
            .titleForHeaderInSection 0,
            .didSelectRowAt 0 item]
          = ([
            .header year.yearName,
            .openedMonth monthTitle month,
            .header month.monthName,
            .openedRide rideTitle ride],
            .ok ⟨⟨history, sectionIndex⟩, .ride ⟨month⟩ ⟨ride, none, none⟩, []⟩) := by
  obtain ⟨sectionIndex, here⟩ := List.mem_iff_getElem?.mp known
  obtain ⟨row, there⟩ := List.mem_iff_getElem?.mp listed
  obtain ⟨item, found⟩ := List.mem_iff_getElem?.mp stored
  have inYears : sectionIndex < history.years.length := (List.getElem?_eq_some_iff.mp here).1
  have yearRead := element_eq_ok.mpr here
  have months : history.getMonths sectionIndex = .ok year.months := by
    rw [RideHistory.getMonths, yearRead, ok_bind]
  have monthRead : history.getMonth sectionIndex row = .ok month := by
    rw [RideHistory.getMonth, months, ok_bind, element_eq_ok.mpr there]
  have rideRead : month.getRide item = .ok ride := element_eq_ok.mpr found
  obtain ⟨title, headed, named⟩ := @header_nothing ⟨history, 0⟩ sectionIndex [] inYears
  obtain rfl : year.yearName = title := by
    rw [RideHistory.getYearName, yearRead, ok_bind] at named
    exact Except.ok.inj named
  obtain ⟨monthTitle, opened⟩ :=
    @select_nothing ⟨history, sectionIndex⟩ sectionIndex row month [] monthRead
  obtain ⟨rideTitle, shown⟩ := select_month ⟨history, sectionIndex⟩ [] 0 rideRead
  obtain ⟨monthRow, counted, rowFound⟩ :=
    hasRow_nothing ⟨history, sectionIndex⟩ [] sectionIndex row
  obtain ⟨rideRow, rideCounted, itemFound⟩ :=
    hasRow_month ⟨history, sectionIndex⟩ ⟨month⟩ [] 0 item
  obtain rfl := rowFound.mpr ⟨month, monthRead⟩
  obtain rfl := itemFound.mpr ⟨rfl, ride, rideRead⟩
  have first
      : navigate services (start history) (.titleForHeaderInSection sectionIndex)
        = ([.header year.yearName], .ok ⟨⟨history, sectionIndex⟩, .nothing, []⟩) :=
    (if_pos inYears).trans headed
  have second
      : navigate services ⟨⟨history, sectionIndex⟩, .nothing, []⟩
          (.didSelectRowAt sectionIndex row)
        = ([.openedMonth monthTitle month],
          .ok ⟨⟨history, sectionIndex⟩, .month ⟨month⟩, []⟩) := by
    simp only [navigate, counted, opened]
  have third
      : navigate services ⟨⟨history, sectionIndex⟩, .month ⟨month⟩, []⟩
          (.titleForHeaderInSection 0)
        = ([.header month.monthName], .ok ⟨⟨history, sectionIndex⟩, .month ⟨month⟩, []⟩) :=
    rfl
  have fourth
      : navigate services ⟨⟨history, sectionIndex⟩, .month ⟨month⟩, []⟩
          (.didSelectRowAt 0 item)
        = ([.openedRide rideTitle ride],
          .ok ⟨⟨history, sectionIndex⟩, .ride ⟨month⟩ ⟨ride, none, none⟩, []⟩) := by
    simp only [navigate, rideCounted, shown]
  refine ⟨sectionIndex, row, item, monthTitle, rideTitle, ?_⟩
  rw [run_cons_ok first, run_cons_ok second, run_cons_ok third, run_cons_ok fourth]
  rfl

end Runs

end HistoryNavigation

end AgriGuardian.Rides
