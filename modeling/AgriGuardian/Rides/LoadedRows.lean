import AgriGuardian.Rides.LoadGPSData

/-! Loading a file of any shape.
The loop processes the rows before the first one with fewer than five tokens, while the
start and the end time are read from fixed rows of the file.
-/

namespace AgriGuardian.Rides

open Swift

namespace FirebaseManager

/-- The rows the loop processes. -/
def processedRows (file : List String) : List String :=
  file.takeWhile fun row => 5 ≤ (components row ',').length

theorem processedRows_cons {foundation : Foundation} (row : GPSRow foundation)
    (rest : List String)
    : processedRows (row.text :: rest) = row.text :: processedRows rest := by
  have long : 5 ≤ (components row.text ',').length := by simp [row.tokens]
  exact List.takeWhile_cons_of_pos (decide_eq_true long)

/-- A row with fewer than five tokens, such as an empty one, ends the loop. -/
theorem processedRows_cons_of_short {item : String} (short : (components item ',').length < 5)
    (rest : List String)
    : processedRows (item :: rest) = [] := by
  apply List.takeWhile_cons_of_neg
  simpa using short

/-- The loop loads the samples of the rows it processes. Witness: induction on the file,
where a short row ends both the loop and the processed rows.
-/
theorem loadRows_of_processed (earth : Distance) {foundation : Foundation} {file : List String}
    {rows : List (GPSRow foundation)} (processed : processedRows file = rows.map GPSRow.text)
    (loaded : LoadedRows)
    : loadRows earth foundation file loaded
      = .ok ((rows.map GPSRow.sample).foldl (loadSample earth) loaded) := by
  induction file generalizing rows loaded with
  | nil =>
      obtain rfl : rows = [] := List.map_eq_nil_iff.mp processed.symm
      rfl
  | cons item rest ih =>
      cases rows with
      | nil =>
          have short : (components item ',').length < 5 := by
            simpa [processedRows, List.takeWhile_cons] using processed
          rw [loadRows, if_pos short]
          rfl
      | cons row others =>
          obtain ⟨rfl, later⟩
              : item = row.text ∧ processedRows rest = others.map GPSRow.text := by
            rw [processedRows, List.takeWhile_cons] at processed
            split at processed
            · simpa only [List.map_cons, List.cons.injEq, processedRows] using processed
            · cases processed
          rw [loadRows_cons, ih later, List.map_cons, List.foldl_cons]

/-- The date at the start of a row. -/
def rowTime (foundation : Foundation) (row : String) : Option Date :=
  (components row ',').head?.bind fun timestamp => foundation.date (dateText timestamp)

/-- The row the end time is read from: the one before the last of the file. -/
def endRow (file : List String) : Option String := file.dropLast.getLast?

theorem rowTime_text {foundation : Foundation} (row : GPSRow foundation)
    : rowTime foundation row.text = some row.sample.timestamp := by
  rw [rowTime, row.tokens]
  exact row.parsedTimestamp

/-- The file starts with the first row the loop processes. -/
theorem head?_of_processed {foundation : Foundation} {file : List String}
    {first : GPSRow foundation} {rest : List (GPSRow foundation)}
    (processed : processedRows file = (first :: rest).map GPSRow.text)
    : file.head? = some first.text := by
  cases file with
  | nil => cases processed
  | cons row others =>
      rw [processedRows, List.takeWhile_cons] at processed
      split at processed
      · simp only [List.map_cons, List.cons.injEq] at processed
        rw [List.head?_cons, processed.1]
      · cases processed

/-- The start time is that of the first row. -/
theorem startTime_of_processed {foundation : Foundation} {file : List String}
    {first : GPSRow foundation} {rest : List (GPSRow foundation)}
    (processed : processedRows file = (first :: rest).map GPSRow.text)
    : file.head?.bind (rowTime foundation) = some first.sample.timestamp := by
  rw [head?_of_processed processed]
  exact rowTime_text first

/-- The index of the end time is that of the row before the last. -/
theorem element_endRow {file : List String} {row : String}
    : element file (file.length - 2) = .ok row ↔ endRow file = some row := by
  cases file using List.reverseRecOn with
  | nil => simp [element, endRow]
  | append_singleton before last =>
      have index : ((before ++ [last]).length : ℤ) - 2 = (before.length : ℤ) - 1 := by
        simp only [List.length_append, List.length_singleton]
        omega
      rw [endRow, List.dropLast_concat, index]
      cases before using List.reverseRecOn with
      | nil => simp [element]
      | append_singleton earlier row' =>
          have here : ((earlier ++ [row']).length : ℤ) - 1 = earlier.length := by simp
          rw [here, List.append_assoc, List.singleton_append, element_append,
            List.getLast?_concat, Except.ok.injEq, Option.some.injEq]

/-- The date is read from the first token of the row. -/
theorem readTime_eq_ok {foundation : Foundation} {row : String} {time : Date}
    : (do
        let timestamp ← element (components row ',') 0
        formatDateFromData foundation timestamp) = .ok time
      ↔ rowTime foundation row = some time := by
  rw [bind_eq_ok, rowTime, Option.bind_eq_some_iff]
  simp only [element_zero_eq_ok]
  refine exists_congr fun timestamp => and_congr_right fun _ => ?_
  rw [formatDateFromData]
  cases foundation.date (dateText timestamp) with
  | none => simp
  | some date => simp

theorem getStartTime_eq_ok {foundation : Foundation} {file : List String} {startTime : Date}
    : getStartTime foundation file = .ok startTime
      ↔ file.head?.bind (rowTime foundation) = some startTime := by
  rw [getStartTime, bind_eq_ok, Option.bind_eq_some_iff]
  simp only [element_zero_eq_ok, readTime_eq_ok]

theorem getEndTime_eq_ok {foundation : Foundation} {file : List String} {endTime : Date}
    : getEndTime foundation file = .ok endTime
      ↔ (endRow file).bind (rowTime foundation) = some endTime := by
  rw [getEndTime, bind_eq_ok, Option.bind_eq_some_iff]
  simp only [element_endRow, readTime_eq_ok]

/-- What the loader returns, and that it returns exactly when both times are readable. -/
theorem loadGPSData_eq_ok (earth : Distance) {foundation : Foundation} {bundle : Bundle}
    (now : Date) {csvFile filetype filepath contents : String}
    (located : bundle.path csvFile filetype = some filepath)
    (read : bundle.contents filepath = some contents) {rows : List (GPSRow foundation)}
    (processed : processedRows (components contents '\n') = rows.map GPSRow.text) {ride : Ride}
    : let loaded :=
        (rows.map GPSRow.sample).foldl (loadSample earth) ⟨Ride.init now, 0, now, ⟨0, 0⟩⟩
      loadGPSData earth foundation bundle now csvFile filetype = .ok ride
      ↔ ∃ startTime endTime,
          (components contents '\n').head?.bind (rowTime foundation) = some startTime
          ∧ (endRow (components contents '\n')).bind (rowTime foundation) = some endTime
          ∧ ((loaded.thisRide.setTotalTime
              (Date.timeIntervalSince endTime startTime)).setMileage loaded.mileage).setDate
                loaded.rideDate
            = ride := by
  intro loaded
  rw [loadGPSData, located]
  simp only [read, loadRows_of_processed earth processed, ok_bind, bind_eq_ok,
    getStartTime_eq_ok, getEndTime_eq_ok, Except.ok.injEq, exists_and_left, loaded]

end FirebaseManager

/-- The location the loader makes of a sample. -/
def GPSSample.loadedLocation (sample : GPSSample) : CLLocation :=
  ⟨sample.coordinate, sample.altitude, 0, 0, -1, sample.speed, sample.timestamp⟩

namespace FirebaseManager

/-- The locations loaded are those of the samples. -/
theorem foldl_loadSample_locations (earth : Distance) (samples : List GPSSample)
    (loaded : LoadedRows)
    : (samples.foldl (loadSample earth) loaded).thisRide.locations
      = loaded.thisRide.locations ++ samples.map GPSSample.loadedLocation := by
  induction samples generalizing loaded with
  | nil => simp
  | cons sample rest ih =>
      simp [ih, loadSample, Ride.addLocation, GPSSample.loadedLocation]

end FirebaseManager

end AgriGuardian.Rides
