import AgriGuardian.Rides.LoadedRows
import AgriGuardian.Rides.RideDocument

/-! When the loader gives a ride the time and the date of the rows it loaded.
The loop stops at the first short row, and the end time is read from the row before the
last of the file. So the total time is right exactly when that row has the date of the
last row loaded. The date is set anew at every row until the running distance is positive,
and the loader counts 0 for a leg that starts at latitude 0 and longitude 0. So it is that of
the first sample at a distance from the one before it, where that one is elsewhere, or of the
last sample when there is none.
-/

namespace AgriGuardian.Rides

open Swift

namespace FirebaseManager

/-- The row the end time is read from has the date of the last row loaded. When none is
loaded, it has the date of the first row of the file.
-/
def EndsAtLoaded (foundation : Foundation) (file : List String)
    (rows : List (GPSRow foundation))
    : Prop :=
  match rows.getLast? with
  | some last => (endRow file).bind (rowTime foundation) = some last.sample.timestamp
  | none =>
      ∃ time,
        file.head?.bind (rowTime foundation) = some time
        ∧ (endRow file).bind (rowTime foundation) = some time

/-- A file whose rows all end with a line break, with nothing after it, ends at its last
row.
-/
theorem endsAtLoaded_fileContents {foundation : Foundation} {rows : List (GPSRow foundation)}
    (nonempty : rows ≠ [])
    : EndsAtLoaded foundation (components (fileContents rows) '\n') rows := by
  rw [EndsAtLoaded, List.getLast?_eq_some_getLast nonempty, endRow, components_fileContents,
    List.dropLast_concat, List.getLast?_map, List.getLast?_eq_some_getLast nonempty]
  exact rowTime_text _

/-- The time of the locations loaded from rows. -/
theorem timeOf_loadedLocations {foundation : Foundation} {rows : List (GPSRow foundation)}
    (nonempty : rows ≠ [])
    : Ride.timeOf ((rows.map GPSRow.sample).map GPSSample.loadedLocation)
      = Date.timeIntervalSince (rows.getLast nonempty).sample.timestamp
          (rows.head nonempty).sample.timestamp := by
  rw [Ride.timeOf, List.head?_map, List.head?_map, List.getLast?_map, List.getLast?_map,
    List.head?_eq_some_head nonempty, List.getLast?_eq_some_getLast nonempty]
  rfl

/-- On every file whose processed rows are well-formed, the loader returns a ride with the
time from its first location to its last exactly when the file ends at the last row loaded.
-/
theorem loadGPSData_totalTime_iff (earth : Distance) {foundation : Foundation} {bundle : Bundle}
    (now : Date) {csvFile filetype filepath contents : String}
    (located : bundle.path csvFile filetype = some filepath)
    (read : bundle.contents filepath = some contents) {rows : List (GPSRow foundation)}
    (processed : processedRows (components contents '\n') = rows.map GPSRow.text)
    : (∃ ride,
          loadGPSData earth foundation bundle now csvFile filetype = .ok ride
          ∧ ride.totalTime = Ride.timeOf ride.locations)
      ↔ EndsAtLoaded foundation (components contents '\n') rows := by
  have locations := foldl_loadSample_locations earth (rows.map GPSRow.sample)
    ⟨Ride.init now, 0, now, ⟨0, 0⟩⟩
  simp only [loadGPSData_eq_ok earth now located read processed]
  cases rows with
  | nil =>
      constructor
      · rintro ⟨ride, ⟨startTime, endTime, started, ended, rfl⟩, time⟩
        have same : endTime = startTime := sub_eq_zero.mp time
        exact ⟨startTime, started, same ▸ ended⟩
      · rintro ⟨time, started, ended⟩
        exact ⟨_, ⟨time, time, started, ended, rfl⟩, sub_self time⟩
  | cons first rest =>
      have nonempty : first :: rest ≠ [] := by simp
      have started := startTime_of_processed processed
      rw [EndsAtLoaded, List.getLast?_eq_some_getLast nonempty]
      constructor
      · rintro ⟨ride, ⟨startTime, endTime, started', ended, rfl⟩, time⟩
        obtain rfl := Option.some.inj (started.symm.trans started')
        have span
            : endTime - first.sample.timestamp
              = ((first :: rest).getLast nonempty).sample.timestamp - first.sample.timestamp := by
          calc
            endTime - first.sample.timestamp
                = Ride.timeOf (((first :: rest).map GPSRow.sample).map
                    GPSSample.loadedLocation) := time.trans (congrArg Ride.timeOf locations)
            _ = _ := timeOf_loadedLocations nonempty
        exact ended.trans (congrArg some (sub_left_inj.mp span))
      · intro ended
        refine ⟨_, ⟨_, _, started, ended, rfl⟩, ?_⟩
        exact (timeOf_loadedLocations nonempty).symm.trans (congrArg Ride.timeOf locations).symm

/-- The library on the texts of the two rows below, a minute apart. -/
private def minuteTexts : Foundation where
  double text := if text = "0.0" then some 0 else if text = "1.0" then some 1 else none
  date text :=
    if text = "2020-03-09 19:25:46.7574" then some 605474746
    else if text = "2020-03-09 19:26:46.7574" then some 605474806
    else none

private def minuteRow (timestamp : String) (time : Date)
    (tokens
      : components (timestamp ++ ",1.0,0.0,1.0,0.0,7") ','
        = [timestamp, "1.0", "0.0", "1.0", "0.0", "7"])
    (oneLine : '\n' ∉ (timestamp ++ ",1.0,0.0,1.0,0.0,7").toList)
    (parsed : minuteTexts.date (dateText timestamp) = some time)
    : GPSRow minuteTexts where
  text := timestamp ++ ",1.0,0.0,1.0,0.0,7"
  timestamp := timestamp
  latitude := "1.0"
  longitude := "0.0"
  speed := "1.0"
  altitude := "0.0"
  others := ["7"]
  sample := ⟨time, ⟨1, 0⟩, 1, 0⟩
  tokens := tokens
  oneLine := oneLine
  parsedTimestamp := parsed
  parsedLatitude := rfl
  parsedLongitude := rfl
  parsedSpeed := rfl
  parsedAltitude := rfl

private def startRow : GPSRow minuteTexts :=
  minuteRow "2020-03-09 19:25:46.757480" 605474746 (by decide) (by decide) (by decide)

private def minuteLater : GPSRow minuteTexts :=
  minuteRow "2020-03-09 19:26:46.757480" 605474806 (by decide) (by decide) (by decide)

private def blankLineBetween : String := startRow.text ++ "\n\n" ++ minuteLater.text ++ "\n"

private def withoutLastBreak : String := startRow.text ++ "\n" ++ minuteLater.text

private def minuteBundle (contents : String) : Bundle where
  path _ _ := some "gps.csv"
  contents _ := some contents

/-- Distances that are all zero. -/
private def nowhere : Distance where
  distance _ _ := 0
  nonneg _ _ := le_rfl

/-- A blank line in the middle ends the loop, but the end time comes from the row after
it.
-/
theorem loadGPSData_totalTime_iff_blankLine
    : (∃ ride,
          loadGPSData nowhere minuteTexts (minuteBundle blankLineBetween) 0 "gps" "csv" = .ok ride
          ∧ ride.totalTime = Ride.timeOf ride.locations)
      ↔ EndsAtLoaded minuteTexts (components blankLineBetween '\n') [startRow] :=
  have located : (minuteBundle blankLineBetween).path "gps" "csv" = some "gps.csv" := rfl
  have processed
      : processedRows (components blankLineBetween '\n') = [startRow].map GPSRow.text := by
    have split
        : blankLineBetween
          = startRow.text ++ "\n" ++ ("" ++ "\n" ++ (minuteLater.text ++ "\n")) := by
      rw [blankLineBetween, show "\n\n" = "\n" ++ "\n" from rfl]
      simp only [String.append_assoc, String.empty_append]
    rw [split, components_line startRow.oneLine, components_line (by simp),
      processedRows_cons, processedRows_cons_of_short (by decide)]
    rfl
  loadGPSData_totalTime_iff nowhere 0 located rfl processed

/-- Without a final line break, the end time is that of the row before the last. -/
theorem loadGPSData_totalTime_wrong
    : ¬ ∀ (earth : Distance) (foundation : Foundation) (bundle : Bundle) (now : Date)
          (csvFile filetype filepath contents : String) (rows : List (GPSRow foundation)),
        bundle.path csvFile filetype = some filepath
        → bundle.contents filepath = some contents
        → contents ≠ ""
        → processedRows (components contents '\n') = rows.map GPSRow.text
        → ∃ ride,
            loadGPSData earth foundation bundle now csvFile filetype = .ok ride
            ∧ ride.totalTime = Ride.timeOf ride.locations := by
  intro claim
  have processed
      : processedRows (components withoutLastBreak '\n')
        = [startRow, minuteLater].map GPSRow.text := by
    have last : components minuteLater.text '\n' = [minuteLater.text] := by
      rw [components, List.splitOn_eq_singleton minuteLater.oneLine, List.map_singleton,
        String.ofList_toList]
    rw [withoutLastBreak, components_line startRow.oneLine, last, processedRows_cons,
      processedRows_cons]
    rfl
  have located : (minuteBundle withoutLastBreak).path "gps" "csv" = some "gps.csv" := rfl
  obtain ⟨ride, returned, time⟩ :=
    claim nowhere minuteTexts (minuteBundle withoutLastBreak) 0 "gps" "csv" "gps.csv"
      withoutLastBreak [startRow, minuteLater] located rfl (by decide) processed
  obtain ⟨startTime, endTime, started, ended, rfl⟩ :=
    (loadGPSData_eq_ok nowhere 0 located rfl processed).mp returned
  obtain rfl := Option.some.inj (started.symm.trans ended)
  have still : startTime - startTime = (605474806 - 605474746 : ℚ) := time
  norm_num at still

-----------------------------------------------------------------------------------------
-- The date
-----------------------------------------------------------------------------------------

theorem getDistanceBetweenCoordinates_nonneg (earth : Distance)
    (prev curr : CLLocationCoordinate2D)
    : 0 ≤ getDistanceBetweenCoordinates earth prev curr := by
  rw [getDistanceBetweenCoordinates]
  split
  · exact le_rfl
  · exact earth.nonneg curr prev

/-- The leg to the next sample has a length and does not start at latitude 0 and longitude 0. -/
def Counts (earth : Distance) (prev curr : GPSSample) : Prop :=
  ¬ (prev.coordinate.latitude = 0 ∧ prev.coordinate.longitude = 0)
  ∧ 0 < earth.distance curr.coordinate prev.coordinate

instance (earth : Distance) (prev curr : GPSSample) : Decidable (Counts earth prev curr) :=
  inferInstanceAs (Decidable (_ ∧ _))

/-- The legs that count are those of which the loader adds the length. -/
theorem counts_iff {earth : Distance} {prev curr : GPSSample}
    : Counts earth prev curr
      ↔ 0 < getDistanceBetweenCoordinates earth prev.coordinate curr.coordinate := by
  rw [Counts, getDistanceBetweenCoordinates, and_comm]
  split
  · rename_i skipped
    simp [skipped]
  · rename_i elsewhere
    exact and_iff_left fun there => elsewhere there.symm

/-- The sample that dates a ride starting with a sample: the first one to which a leg counts,
or the last one.
-/
def datedSample (earth : Distance) (sample : GPSSample) : List GPSSample → GPSSample
  | [] => sample
  | next :: rest =>
      if Counts earth sample next then next
      else datedSample earth next rest

/-- Once the distance is positive, the date stays. -/
theorem foldl_loadSample_rideDate_of_pos (earth : Distance) (samples : List GPSSample)
    {loaded : LoadedRows} (moved : 0 < loaded.mileage)
    : (samples.foldl (loadSample earth) loaded).rideDate = loaded.rideDate := by
  induction samples generalizing loaded with
  | nil => rfl
  | cons sample rest ih =>
      have leg :=
        getDistanceBetweenCoordinates_nonneg earth loaded.previousLocation sample.coordinate
      have further : 0 < (loadSample earth loaded sample).mileage :=
        add_pos_of_pos_of_nonneg moved leg
      rw [List.foldl_cons, ih further]
      exact if_neg moved.ne'

/-- While the distance is zero, the date is that of the sample just loaded. Witness:
induction on the samples that follow, by whether the next leg counts.
-/
theorem foldl_loadSample_rideDate (earth : Distance) (sample : GPSSample)
    (samples : List GPSSample) {loaded : LoadedRows} (still : loaded.mileage = 0)
    (here : loaded.previousLocation = sample.coordinate)
    (dated : loaded.rideDate = sample.timestamp)
    : (samples.foldl (loadSample earth) loaded).rideDate
      = (datedSample earth sample samples).timestamp := by
  induction samples generalizing sample loaded with
  | nil => exact dated
  | cons next rest ih =>
      have mileage
          : (loadSample earth loaded next).mileage
            = getDistanceBetweenCoordinates earth sample.coordinate next.coordinate := by
        simp only [loadSample, still, here, zero_add]
      have date : (loadSample earth loaded next).rideDate = next.timestamp := if_pos still
      rw [List.foldl_cons, datedSample]
      split
      · rename_i moved
        have positive : 0 < (loadSample earth loaded next).mileage := by
          rw [mileage]
          exact counts_iff.mp moved
        rw [foldl_loadSample_rideDate_of_pos earth rest positive, date]
      · rename_i still
        have flat
            : getDistanceBetweenCoordinates earth sample.coordinate next.coordinate = 0 :=
          le_antisymm (not_lt.mp fun positive => still (counts_iff.mpr positive))
            (getDistanceBetweenCoordinates_nonneg ..)
        exact ih next (mileage.trans flat) rfl date

/-- The first sample follows the placeholder at latitude and longitude 0 and adds no
distance.
-/
theorem rideDate_loaded (earth : Distance) (now : Date) (first : GPSSample)
    (rest : List GPSSample)
    : ((first :: rest).foldl (loadSample earth) ⟨Ride.init now, 0, now, ⟨0, 0⟩⟩).rideDate
      = (datedSample earth first rest).timestamp := by
  apply foldl_loadSample_rideDate earth first rest
  · exact zero_add _
  · rfl
  · rfl

/-- On every file whose processed rows are well-formed, with at least one, the loader
returns a ride with the date of its first location exactly when the row before the last of
the file has a readable date, which the loader needs to return, and the sample that dates
the ride has the date of the first.
-/
theorem loadGPSData_rideDate_iff (earth : Distance) {foundation : Foundation} {bundle : Bundle}
    (now : Date) {csvFile filetype filepath contents : String}
    (located : bundle.path csvFile filetype = some filepath)
    (read : bundle.contents filepath = some contents) {first : GPSRow foundation}
    {rest : List (GPSRow foundation)}
    (processed : processedRows (components contents '\n') = (first :: rest).map GPSRow.text)
    : (∃ ride,
          loadGPSData earth foundation bundle now csvFile filetype = .ok ride
          ∧ ride.locations ≠ []
          ∧ ride.rideDate = Ride.dateOf now ride.locations)
      ↔ ((endRow (components contents '\n')).bind (rowTime foundation)).isSome
        ∧ (datedSample earth first.sample (rest.map GPSRow.sample)).timestamp
          = first.sample.timestamp := by
  have locations := foldl_loadSample_locations earth ((first :: rest).map GPSRow.sample)
    ⟨Ride.init now, 0, now, ⟨0, 0⟩⟩
  have date := rideDate_loaded earth now first.sample (rest.map GPSRow.sample)
  have started := startTime_of_processed processed
  simp only [loadGPSData_eq_ok earth now located read processed]
  constructor
  · rintro ⟨ride, ⟨startTime, endTime, -, ended, rfl⟩, -, same⟩
    refine ⟨by rw [ended]; rfl, ?_⟩
    calc
      (datedSample earth first.sample (rest.map GPSRow.sample)).timestamp
          = _ := date.symm
      _ = Ride.dateOf now _ := same
      _ = first.sample.timestamp := congrArg (Ride.dateOf now) locations
  · rintro ⟨readable, same⟩
    obtain ⟨endTime, ended⟩ := Option.isSome_iff_exists.mp readable
    refine ⟨_, ⟨_, endTime, started, ended, rfl⟩, ?_, ?_⟩
    · exact ne_of_eq_of_ne locations (by simp)
    · exact (date.trans same).trans (congrArg (Ride.dateOf now) locations).symm

/-- A file of one row: the first sample is also the last. -/
theorem loadGPSData_rideDate_iff_oneRow
    : (∃ ride,
          loadGPSData nowhere minuteTexts (minuteBundle (startRow.text ++ "\n")) 0 "gps" "csv"
            = .ok ride
          ∧ ride.locations ≠ []
          ∧ ride.rideDate = Ride.dateOf 0 ride.locations)
      ↔ ((endRow (components (startRow.text ++ "\n") '\n')).bind (rowTime minuteTexts)).isSome
        ∧ (datedSample nowhere startRow.sample []).timestamp = startRow.sample.timestamp :=
  have located
      : (minuteBundle (startRow.text ++ "\n")).path "gps" "csv" = some "gps.csv" :=
    rfl
  have processed
      : processedRows (components (startRow.text ++ "\n") '\n') = [startRow].map GPSRow.text := by
    have split : startRow.text ++ "\n" = startRow.text ++ "\n" ++ "" := by simp
    have none : components "" '\n' = [""] := rfl
    rw [split, components_line startRow.oneLine, none, processedRows_cons,
      processedRows_cons_of_short (by decide)]
    rfl
  loadGPSData_rideDate_iff nowhere 0 located rfl processed

/-- Of two rows, the second dates the ride. -/
theorem loadGPSData_rideDate_wrong
    : ¬ ∀ (earth : Distance) (foundation : Foundation) (bundle : Bundle) (now : Date)
          (csvFile filetype filepath : String) (rows : List (GPSRow foundation)),
        bundle.path csvFile filetype = some filepath
        → bundle.contents filepath = some (fileContents rows)
        → rows ≠ []
        → ∃ ride,
            loadGPSData earth foundation bundle now csvFile filetype = .ok ride
            ∧ ride.locations ≠ []
            ∧ ride.rideDate = Ride.dateOf now ride.locations := by
  intro claim
  have located
      : (minuteBundle (fileContents [startRow, minuteLater])).path "gps" "csv"
        = some "gps.csv" :=
    rfl
  obtain ⟨ride, returned, -, date⟩ :=
    claim nowhere minuteTexts (minuteBundle (fileContents [startRow, minuteLater])) 0 "gps" "csv"
      "gps.csv" [startRow, minuteLater] located rfl (by simp)
  have loaded := loadGPSData_eq nowhere 0 located rfl (by simp : [startRow, minuteLater] ≠ [])
  obtain rfl := Except.ok.inj (loaded.symm.trans returned)
  have dated := rideDate_loaded nowhere 0 startRow.sample [minuteLater.sample]
  have locations := foldl_loadSample_locations nowhere [startRow.sample, minuteLater.sample]
    ⟨Ride.init 0, 0, 0, ⟨0, 0⟩⟩
  have second
      : datedSample nowhere startRow.sample [minuteLater.sample] = minuteLater.sample :=
    rfl
  have same : minuteLater.sample.timestamp = startRow.sample.timestamp :=
    (congrArg GPSSample.timestamp second).symm.trans
      (dated.symm.trans (date.trans (congrArg (Ride.dateOf 0) locations)))
  have equal : (605474806 : ℚ) = 605474746 := same
  norm_num at equal

end FirebaseManager

end AgriGuardian.Rides
