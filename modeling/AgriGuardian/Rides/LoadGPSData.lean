import Mathlib.Data.List.DropRight
import AgriGuardian.Rides.RideParameters

/-! Loading a ride from a CSV file. -/

namespace AgriGuardian.Rides

open Swift

/-- The files the loader finds. -/
structure Bundle where
  /-- `Bundle.main.path(forResource:ofType:)` -/
  path : String → String → Option String
  /-- `String(contentsOfFile:encoding:)` -/
  contents : String → Option String

/-- How the library reads texts. -/
structure Foundation where
  /-- `Double(_:)`, which `CLLocationSpeed(string:)` and `CLLocationDistance(string:)` also are -/
  double : String → Option ℚ
  /-- `date(from:)` of the formatter of format `yyyy-MM-dd HH:mm:ss.SSS` -/
  date : String → Option Date

/-- `components(separatedBy:)` for a separator of one character. -/
def components (text : String) (separator : Char) : List String :=
  (text.toList.splitOn separator).map String.ofList

namespace FirebaseManager

def getDistanceBetweenCoordinates (earth : Distance) (prev curr : CLLocationCoordinate2D) : ℚ :=
  if prev.longitude = 0 ∧ prev.latitude = 0 then 0 else earth.distance curr prev

/-- The text without its last two characters, as the formatter reads it. -/
def dateText (data : String) : String := String.ofList (data.toList.rdrop 2)

def formatDateFromData (foundation : Foundation) (data : String) : Checked Date :=
  match foundation.date (dateText data) with
  | some thisDate => .ok thisDate
  | none => .error (.fatalError "Unable to convert date to Date()")

def getStartTime (foundation : Foundation) (rowsInFile : List String) : Checked Date := do
  let firstRow ← element rowsInFile 0
  let timestamp ← element (components firstRow ',') 0
  formatDateFromData foundation timestamp

def getEndTime (foundation : Foundation) (rowsInFile : List String) : Checked Date := do
  let lastIndex : ℤ := rowsInFile.length - 2
  let lastRow ← element rowsInFile lastIndex
  let timestamp ← element (components lastRow ',') 0
  formatDateFromData foundation timestamp

/-- The variables of the loop over the rows. -/
structure LoadedRows where
  thisRide : Ride
  mileage : ℚ
  rideDate : Date
  previousLocation : CLLocationCoordinate2D

/-- The body of the loop on a row of at least five tokens. -/
def loadRow (earth : Distance) (foundation : Foundation) (loaded : LoadedRows)
    (tokens : List String)
    : Checked LoadedRows := do
  let latitudeToken ← element tokens 1
  let latitude ←
    (match foundation.double latitudeToken with
    | some latitude => .ok latitude
    | none => .error (.fatalError
        "Unexpectedly found nil trying to convert latitude to Double value"))
  let longitudeToken ← element tokens 2
  let longitude ←
    (match foundation.double longitudeToken with
    | some longitude => .ok longitude
    | none => .error (.fatalError
        "Unexpectedly found nil trying to convert longitude to Double value"))
  let coordinate : CLLocationCoordinate2D := ⟨latitude, longitude⟩
  let timestamp ← element tokens 0
  let date ← formatDateFromData foundation timestamp
  let speedToken ← element tokens 3
  let altitudeToken ← element tokens 4
  match foundation.double altitudeToken, foundation.double speedToken with
  | some altitude, some speed =>
      let location : CLLocation := ⟨coordinate, altitude, 0, 0, -1, speed, date⟩
      .ok {
        thisRide := loaded.thisRide.addLocation location
        mileage :=
          loaded.mileage
            + getDistanceBetweenCoordinates earth loaded.previousLocation coordinate
        rideDate := if loaded.mileage = 0 then date else loaded.rideDate
        previousLocation := coordinate }
  | _, _ => .error .unexpectedNil

/-- The loop over the rows, which ends at a row with fewer than five tokens. -/
def loadRows (earth : Distance) (foundation : Foundation)
    : List String → LoadedRows → Checked LoadedRows
  | [], loaded => .ok loaded
  | item :: rest, loaded =>
      let tokens := components item ','
      if tokens.length < 5 then .ok loaded
      else do
        let loaded ← loadRow earth foundation loaded tokens
        loadRows earth foundation rest loaded

/-- `loadGPSData(csvFile:ofType:)`, at the moment `now`. -/
def loadGPSData (earth : Distance) (foundation : Foundation) (bundle : Bundle) (now : Date)
    (csvFile filetype : String)
    : Checked Ride :=
  match bundle.path csvFile filetype with
  | none => .error (.fatalError "Unable to load CSV in main bundle")
  | some filepath =>
      match bundle.contents filepath with
      | none => .error (.fatalError "Unable to load file contents")
      | some contents => do
          let rows := components contents '\n'
          let loaded ← loadRows earth foundation rows ⟨Ride.init now, 0, now, ⟨0, 0⟩⟩
          let startTime ← getStartTime foundation rows
          let endTime ← getEndTime foundation rows
          let rideTime := Date.timeIntervalSince endTime startTime
          .ok (((loaded.thisRide.setTotalTime rideTime).setMileage loaded.mileage).setDate
            loaded.rideDate)

end FirebaseManager

-----------------------------------------------------------------------------------------
-- Well-formed files
-----------------------------------------------------------------------------------------

/-- A row of a file that the loader reads as a sample. -/
structure GPSRow (foundation : Foundation) where
  text : String
  timestamp : String
  latitude : String
  longitude : String
  speed : String
  altitude : String
  others : List String
  sample : GPSSample
  tokens : components text ',' = timestamp :: latitude :: longitude :: speed :: altitude :: others
  oneLine : '\n' ∉ text.toList
  parsedTimestamp
    : foundation.date (FirebaseManager.dateText timestamp) = some sample.timestamp
  parsedLatitude : foundation.double latitude = some sample.coordinate.latitude
  parsedLongitude : foundation.double longitude = some sample.coordinate.longitude
  parsedSpeed : foundation.double speed = some sample.speed
  parsedAltitude : foundation.double altitude = some sample.altitude

/-- The file of the rows, each ended by a line break. -/
def fileContents {foundation : Foundation} (rows : List (GPSRow foundation)) : String :=
  String.ofList (rows.flatMap fun row => row.text.toList ++ ['\n'])

/-- What stands before the first line break is the first row. -/
theorem components_line {line : String} (oneLine : '\n' ∉ line.toList) (rest : String)
    : components (line ++ "\n" ++ rest) '\n' = line :: components rest '\n' := by
  have split : (line ++ "\n" ++ rest).toList = line.toList ++ '\n' :: rest.toList := by simp
  rw [components, split, List.splitOn_append_cons_self_of_not_mem oneLine, List.map_cons,
    String.ofList_toList]
  rfl

theorem fileContents_cons {foundation : Foundation} (row : GPSRow foundation)
    (rest : List (GPSRow foundation))
    : fileContents (row :: rest) = row.text ++ "\n" ++ fileContents rest := by
  apply String.toList_injective
  simp [fileContents]

/-- The rows of the file are the texts, and an empty one after the last line break. -/
theorem components_fileContents {foundation : Foundation} (rows : List (GPSRow foundation))
    : components (fileContents rows) '\n' = rows.map GPSRow.text ++ [""] := by
  induction rows with
  | nil => rfl
  | cons row rest ih =>
      rw [fileContents_cons, components_line row.oneLine, ih, List.map_cons, List.cons_append]

namespace FirebaseManager

/-- What a sample adds to the variables of the loop. -/
def loadSample (earth : Distance) (loaded : LoadedRows) (sample : GPSSample) : LoadedRows where
  thisRide :=
    loaded.thisRide.addLocation
      ⟨sample.coordinate, sample.altitude, 0, 0, -1, sample.speed, sample.timestamp⟩
  mileage :=
    loaded.mileage
      + getDistanceBetweenCoordinates earth loaded.previousLocation sample.coordinate
  rideDate := if loaded.mileage = 0 then sample.timestamp else loaded.rideDate
  previousLocation := sample.coordinate

theorem formatDateFromData_timestamp {foundation : Foundation} (row : GPSRow foundation)
    : formatDateFromData foundation row.timestamp = .ok row.sample.timestamp := by
  rw [formatDateFromData, row.parsedTimestamp]

/-- A well-formed row is loaded and the loop goes on. -/
theorem loadRows_cons (earth : Distance) {foundation : Foundation} (row : GPSRow foundation)
    (rest : List String) (loaded : LoadedRows)
    : loadRows earth foundation (row.text :: rest) loaded
      = loadRows earth foundation rest (loadSample earth loaded row.sample) := by
  have body
      : loadRow earth foundation loaded (components row.text ',')
        = .ok (loadSample earth loaded row.sample) := by
    simp [loadRow, row.tokens, element, row.parsedLatitude, row.parsedLongitude,
      row.parsedSpeed, row.parsedAltitude, formatDateFromData_timestamp, loadSample]
  have long : ¬ (components row.text ',').length < 5 := by
    rw [row.tokens]
    simp
  rw [loadRows]
  simp only [if_neg long, body, ok_bind]

/-- The loop loads the samples of well-formed rows and stops at the empty row. -/
theorem loadRows_eq (earth : Distance) {foundation : Foundation} (rows : List (GPSRow foundation))
    (loaded : LoadedRows)
    : loadRows earth foundation (rows.map GPSRow.text ++ [""]) loaded
      = .ok ((rows.map GPSRow.sample).foldl (loadSample earth) loaded) := by
  induction rows generalizing loaded with
  | nil => rfl
  | cons row rest ih =>
      rw [List.map_cons, List.cons_append, loadRows_cons, ih, List.map_cons, List.foldl_cons]

theorem getStartTime_eq {foundation : Foundation} (first : GPSRow foundation)
    (rest : List (GPSRow foundation))
    : getStartTime foundation ((first :: rest).map GPSRow.text ++ [""])
      = .ok first.sample.timestamp := by
  have row : element ((first :: rest).map GPSRow.text ++ [""]) 0 = .ok first.text :=
    element_append [] first.text _
  have timestamp : element (components first.text ',') 0 = .ok first.timestamp := by
    rw [first.tokens]
    exact element_append [] first.timestamp _
  rw [getStartTime, row, ok_bind, timestamp, ok_bind, formatDateFromData_timestamp]

/-- The end time is read from the row before the empty one. -/
theorem getEndTime_eq {foundation : Foundation} (earlier : List (GPSRow foundation))
    (last : GPSRow foundation)
    : getEndTime foundation ((earlier ++ [last]).map GPSRow.text ++ [""])
      = .ok last.sample.timestamp := by
  have split
      : (earlier ++ [last]).map GPSRow.text ++ [""]
        = earlier.map GPSRow.text ++ last.text :: [""] := by
    simp
  have index
      : ((earlier.map GPSRow.text ++ last.text :: [""]).length : ℤ) - 2
        = (earlier.map GPSRow.text).length := by
    simp only [List.length_append, List.length_cons, List.length_nil]
    omega
  have timestamp : element (components last.text ',') 0 = .ok last.timestamp := by
    rw [last.tokens]
    exact element_append [] last.timestamp _
  rw [getEndTime, split]
  simp only [index, element_append, ok_bind, timestamp, formatDateFromData_timestamp]

/-- A well-formed file with rows is loaded completely. -/
theorem loadGPSData_eq (earth : Distance) {foundation : Foundation} {bundle : Bundle}
    (now : Date) {csvFile filetype filepath : String}
    (located : bundle.path csvFile filetype = some filepath)
    {rows : List (GPSRow foundation)}
    (read : bundle.contents filepath = some (fileContents rows)) (nonempty : rows ≠ [])
    : let loaded :=
        (rows.map GPSRow.sample).foldl (loadSample earth) ⟨Ride.init now, 0, now, ⟨0, 0⟩⟩
      loadGPSData earth foundation bundle now csvFile filetype
      = .ok (((loaded.thisRide.setTotalTime
            (Date.timeIntervalSince (rows.getLast nonempty).sample.timestamp
              (rows.head nonempty).sample.timestamp)).setMileage loaded.mileage).setDate
          loaded.rideDate) := by
  have start
      : getStartTime foundation (rows.map GPSRow.text ++ [""])
        = .ok (rows.head nonempty).sample.timestamp := by
    conv_lhs => rw [← List.cons_head_tail nonempty]
    exact getStartTime_eq _ _
  have finish
      : getEndTime foundation (rows.map GPSRow.text ++ [""])
        = .ok (rows.getLast nonempty).sample.timestamp := by
    conv_lhs => rw [← List.dropLast_append_getLast nonempty]
    exact getEndTime_eq _ _
  rw [loadGPSData, located]
  simp only [read, components_fileContents, loadRows_eq, ok_bind, start, finish]

/-- A file without rows is not loaded: there is no row before the empty one. -/
theorem loadGPSData_of_empty (earth : Distance) {foundation : Foundation} {bundle : Bundle}
    (now : Date) {csvFile filetype filepath : String}
    (located : bundle.path csvFile filetype = some filepath)
    (read
      : bundle.contents filepath = some (fileContents ([] : List (GPSRow foundation))))
    (ride : Ride)
    : loadGPSData earth foundation bundle now csvFile filetype ≠ .ok ride := by
  intro returned
  rw [loadGPSData, located] at returned
  simp only [read, components_fileContents, loadRows_eq, ok_bind] at returned
  obtain ⟨startTime, -, later⟩ := bind_eq_ok.mp returned
  obtain ⟨endTime, ended, -⟩ := bind_eq_ok.mp later
  cases ended

end FirebaseManager

end AgriGuardian.Rides
