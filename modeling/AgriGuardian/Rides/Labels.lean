import Mathlib.Algebra.BigOperators.Ring.Finset
import Mathlib.Algebra.BigOperators.Ring.List
import AgriGuardian.Basis.Numerals
import AgriGuardian.Rides.HistoryOrder
import AgriGuardian.Rides.RideDetail
import AgriGuardian.Rides.YearlyHistoryTable

/-! What the labels of times and distances tell.
A time label tells the whole seconds, and a distance label the miles to half a hundredth. So
the labels of a month agree with those of its rides, up to the rounding of each.
-/

namespace AgriGuardian.Rides

open Swift
open Basis

/-- The whole seconds of a time, without the fraction. -/
def wholeSeconds (interval : TimeInterval) : ℤ := if 0 ≤ interval then ⌊interval⌋ else ⌈interval⌉

/-- The seconds that a label `hours:minutes:seconds` tells. -/
def readTime (label : String) : ℤ :=
  match label.toList.splitOn ':' with
  | [hours, minutes, seconds] =>
      3600 * readInteger hours + 60 * readInteger minutes + readInteger seconds
  | _ => 0

/-- The miles that a label tells. -/
def readMiles (label : String) : ℚ := readDecimal label.toList

-----------------------------------------------------------------------------------------
-- Time labels
-----------------------------------------------------------------------------------------

/-- A number written with at least two digits. -/
theorem exists_padded (number : ℕ)
    : ∃ zeros,
        (if (toString number).length < 2 then "0" ++ toString number
          else toString number).toList
            = padded zeros number
        ∧ (number < 100 → (padded zeros number).length = 2) := by
  have digits : (toString number).toList = Nat.toDigits 10 number := Nat.toList_repr
  have count : (toString number).length = (Nat.toDigits 10 number).length := by
    rw [← digits, String.length_toList]
  by_cases short : (toString number).length < 2
  · have one : (Nat.toDigits 10 number).length = 1 := by
      have positive : 0 < (Nat.toDigits 10 number).length := Nat.length_toDigits_pos
      omega
    refine ⟨1, ?_, fun _ => by simp [padded, one]⟩
    rw [if_pos short, String.toList_append, digits]
    rfl
  · refine ⟨0, ?_, ?_⟩
    · rw [if_neg short, digits]
      rfl
    · intro small
      have most : (Nat.toDigits 10 number).length ≤ 2 :=
        (Nat.length_toDigits_le_iff (by decide) (by decide)).mpr (by simpa using small)
      have same : (padded 0 number).length = (Nat.toDigits 10 number).length := by simp [padded]
      omega

theorem exists_numeral_twoDigits (value : ℤ)
    : ∃ zeros,
        (twoDigits value).toList
          = signed (decide (value.bmod (2 ^ 32) < 0))
              (padded zeros (value.bmod (2 ^ 32)).natAbs) := by
  obtain ⟨zeros, numeral, -⟩ := exists_padded (value.bmod (2 ^ 32)).natAbs
  refine ⟨zeros, ?_⟩
  simp only [twoDigits, String.toList_append, numeral]
  by_cases negative : value.bmod (2 ^ 32) < 0
  · rw [if_pos negative, decide_eq_true negative]
    rfl
  · rw [if_neg negative, decide_eq_false negative]
    rfl

theorem readInteger_twoDigits (value : ℤ)
    : readInteger (twoDigits value).toList = value.bmod (2 ^ 32) := by
  obtain ⟨zeros, numeral⟩ := exists_numeral_twoDigits value
  rw [numeral, readInteger_natAbs]

theorem colon_not_mem_twoDigits (value : ℤ) : ':' ∉ (twoDigits value).toList := by
  obtain ⟨zeros, numeral⟩ := exists_numeral_twoDigits value
  rw [numeral]
  exact not_mem_signed (by decide) (by decide) _ _ _

/-- The label of whole seconds. -/
def timeLabel (time : ℤ) : String :=
  twoDigits (time.tdiv 3600) ++ ":" ++ twoDigits ((time.tdiv 60).tmod 60) ++ ":"
    ++ twoDigits (time.tmod 60)

/-- A time that has a label has that of its whole seconds. -/
theorem stringFromTimeInterval_eq_ok {interval : TimeInterval} {label : String}
    (returned : interval.stringFromTimeInterval = .ok label)
    : label = timeLabel (wholeSeconds interval) := by
  obtain ⟨time, truncated, later⟩ := bind_eq_ok.mp returned
  have inRange := checkedInt_range truncated
  obtain rfl : time = wholeSeconds interval := checkedInt_eq_ok truncated
  have sixty : (0 : ℤ) < 60 := by decide
  have hour : (0 : ℤ) < 3600 := by decide
  simpa [remainder, quotient_of_pos inRange sixty, quotient_of_pos inRange hour, timeLabel,
    eq_comm] using later

theorem parts_of_nonneg {time : ℤ} (nonneg : 0 ≤ time)
    : 3600 * time.tdiv 3600 + 60 * (time.tdiv 60).tmod 60 + time.tmod 60 = time := by
  rw [Int.tdiv_eq_ediv_of_nonneg nonneg, Int.tdiv_eq_ediv_of_nonneg nonneg,
    Int.tmod_eq_emod_of_nonneg nonneg, Int.tmod_eq_emod_of_nonneg (by omega)]
  omega

/-- Hours, minutes and seconds make up the time, all of one sign. -/
theorem parts_eq (time : ℤ)
    : 3600 * time.tdiv 3600 + 60 * (time.tdiv 60).tmod 60 + time.tmod 60 = time := by
  cases le_total 0 time with
  | inl nonneg => exact parts_of_nonneg nonneg
  | inr nonpos =>
      have opposite := parts_of_nonneg (neg_nonneg.mpr nonpos)
      simp only [Int.neg_tdiv, Int.neg_tmod] at opposite
      omega

theorem bmod_tmod_sixty (time : ℤ) : (time.tmod 60).bmod (2 ^ 32) = time.tmod 60 := by
  have size : (time.tmod 60).natAbs = time.natAbs % 60 := Int.natAbs_tmod time 60
  apply Int.bmod_eq_of_le
  · omega
  · omega

/-- The label tells the seconds, with the hours as a number of 32 bits. -/
theorem readTime_timeLabel (time : ℤ)
    : readTime (timeLabel time)
      = time + 3600 * ((time.tdiv 3600).bmod (2 ^ 32) - time.tdiv 3600) := by
  let hours := twoDigits (time.tdiv 3600)
  let minutes := twoDigits ((time.tdiv 60).tmod 60)
  let seconds := twoDigits (time.tmod 60)
  have separate : ∀ part ∈ [hours.toList, minutes.toList, seconds.toList], ':' ∉ part := by
    intro part member
    simp only [List.mem_cons, List.not_mem_nil, or_false] at member
    rcases member with rfl | rfl | rfl
    · exact colon_not_mem_twoDigits _
    · exact colon_not_mem_twoDigits _
    · exact colon_not_mem_twoDigits _
  have split
      : (timeLabel time).toList.splitOn ':'
        = [hours.toList, minutes.toList, seconds.toList] := by
    have parts := List.splitOn_intercalate ':' separate (by simp)
    simpa [List.intercalate, timeLabel] using parts
  simp only [readTime, split, hours, minutes, seconds, readInteger_twoDigits, bmod_tmod_sixty]
  have parts := parts_eq time
  omega

/-- Below 2³¹ hours, the label tells the whole seconds. -/
theorem readTime_of_small {time : ℤ} (small : |time| < 3600 * 2 ^ 31)
    : readTime (timeLabel time) = time := by
  have size : (time.tdiv 3600).natAbs = time.natAbs / 3600 := Int.natAbs_tdiv time 3600
  rw [Int.abs_eq_natAbs] at small
  have fits : (time.tdiv 3600).bmod (2 ^ 32) = time.tdiv 3600 := by
    apply Int.bmod_eq_of_le
    · omega
    · omega
  rw [readTime_timeLabel, fits, sub_self, mul_zero, add_zero]

-----------------------------------------------------------------------------------------
-- Distance labels
-----------------------------------------------------------------------------------------

/-- The hundredths that `%.2f` prints, rounded to the nearest. -/
def hundredths (value : ℚ) : ℕ :=
  let scaled := |value| * 100
  let below := ⌊scaled⌋.toNat
  let fraction := scaled - below
  if fraction < 1 / 2 ∨ fraction = 1 / 2 ∧ below % 2 = 0 then below else below + 1

theorem abs_hundredths_sub_le (value : ℚ) : |(hundredths value : ℚ) - |value| * 100| ≤ 1 / 2 := by
  have nonneg : 0 ≤ |value| * 100 := by positivity
  have floorNonneg : 0 ≤ ⌊|value| * 100⌋ := Int.floor_nonneg.mpr nonneg
  have below : ((⌊|value| * 100⌋.toNat : ℕ) : ℚ) = ⌊|value| * 100⌋ := by
    exact_mod_cast Int.toNat_of_nonneg floorNonneg
  have low := Int.floor_le (|value| * 100)
  have high := Int.lt_floor_add_one (|value| * 100)
  rw [← below] at low high
  simp only [hundredths]
  rw [abs_le]
  split
  · rename_i down
    have half : |value| * 100 - (⌊|value| * 100⌋.toNat : ℕ) ≤ 1 / 2 := by
      rcases down with less | ⟨tie, -⟩
      · exact less.le
      · exact tie.le
    constructor <;> linarith
  · rename_i up
    rw [not_or] at up
    have half := not_lt.mp up.1
    push_cast
    constructor <;> linarith

theorem exists_numeral_twoDecimals (value : ℚ)
    : ∃ zeros,
        (twoDecimals value).toList
          = signed (decide (value < 0))
              (padded 0 (hundredths value / 100) ++ '.' :: padded zeros (hundredths value % 100))
        ∧ (padded zeros (hundredths value % 100)).length = 2 := by
  obtain ⟨zeros, numeral, two⟩ := exists_padded (hundredths value % 100)
  refine ⟨zeros, ?_, two (Nat.mod_lt _ (by decide))⟩
  have whole : (toString (hundredths value / 100)).toList = padded 0 (hundredths value / 100) :=
    Nat.toList_repr
  have text
      : twoDecimals value
        = (if value < 0 then "-" else "") ++ toString (hundredths value / 100) ++ "."
          ++ (if (toString (hundredths value % 100)).length < 2
                then "0" ++ toString (hundredths value % 100)
                else toString (hundredths value % 100)) :=
    rfl
  rw [text, String.toList_append, numeral, String.toList_append, String.toList_append, whole]
  by_cases negative : value < 0
  · simp [negative, signed]
  · simp [negative, signed]

theorem readMiles_twoDecimals (value : ℚ)
    : readMiles (twoDecimals value)
      = (if value < 0 then -1 else 1) * (hundredths value / 100 : ℚ) := by
  obtain ⟨zeros, numeral, two⟩ := exists_numeral_twoDecimals value
  have whole : ((hundredths value / 100 : ℕ) : ℚ) + (hundredths value % 100 : ℕ) / 100
      = hundredths value / 100 := by
    have parts := Nat.div_add_mod (hundredths value) 100
    have parts : (100 * (hundredths value / 100 : ℕ) + (hundredths value % 100 : ℕ) : ℚ)
        = hundredths value := by exact_mod_cast parts
    linarith
  rw [readMiles, numeral, readDecimal_signed, two, ← whole]
  simp only [decide_eq_true_eq]
  norm_num

/-- A label with two decimals is off by at most half a hundredth. -/
theorem abs_readMiles_sub_le (value : ℚ)
    : |readMiles (twoDecimals value) - value| ≤ 1 / 200 := by
  have rounded := abs_hundredths_sub_le value
  rw [readMiles_twoDecimals, abs_le]
  rw [abs_le] at rounded
  obtain ⟨low, high⟩ := rounded
  split
  · rename_i negative
    rw [abs_of_neg negative] at low high
    constructor <;> linarith
  · rename_i nonneg
    rw [abs_of_nonneg (not_lt.mp nonneg)] at low high
    constructor <;> linarith

-----------------------------------------------------------------------------------------
-- The labels of a month and those of its rides
-----------------------------------------------------------------------------------------

/-- The time is below 2³¹ hours, so its label tells the whole seconds. -/
def ShowsSeconds (interval : TimeInterval) : Prop := |wholeSeconds interval| < 3600 * 2 ^ 31

theorem exists_timeLabel {interval : TimeInterval} (shown : ShowsSeconds interval)
    : ∃ label,
        interval.stringFromTimeInterval = .ok label ∧ readTime label = wholeSeconds interval := by
  have inRange : IntRange (wholeSeconds interval) := by
    obtain ⟨low, high⟩ := abs_lt.mp shown
    exact ⟨by omega, by omega⟩
  have truncated : nsInteger interval = .ok (wholeSeconds interval) :=
    checkedInt_of_range inRange
  obtain ⟨label, returned⟩ :=
    stringFromTimeInterval_returns_iff.mpr (nsInteger_returns_iff.mp ⟨_, truncated⟩)
  exact ⟨label, returned, stringFromTimeInterval_eq_ok returned ▸ readTime_of_small shown⟩

/-- Leaving out the fraction changes a time by less than a second. -/
theorem abs_wholeSeconds_sub_lt (interval : TimeInterval)
    : |(wholeSeconds interval : ℚ) - interval| < 1 := by
  rw [wholeSeconds, abs_lt]
  split
  · have low := Int.floor_le interval
    have high := Int.lt_floor_add_one interval
    constructor <;> linarith
  · have low := Int.le_ceil interval
    have high := Int.ceil_lt_add_one interval
    constructor <;> linarith

/-- A bound for each element bounds the sum. -/
theorem abs_sum_sub_sum_le {α : Type*} {left right : α → ℚ} {bound : ℚ}
    (each : ∀ element, |left element - right element| ≤ bound) (elements : List α)
    : |(elements.map left).sum - (elements.map right).sum| ≤ elements.length * bound := by
  induction elements with
  | nil => simp
  | cons element rest ih =>
      have here := each element
      rw [List.map_cons, List.map_cons, List.sum_cons, List.sum_cons, List.length_cons]
      rw [abs_le] at here ih ⊢
      push_cast
      constructor <;> linarith [here.1, here.2, ih.1, ih.2]

/-- The miles of a month and the sum of the miles of its rides. -/
theorem mileageLabels_agree {month : RideMonth} (totals : month.TotalsOfRides)
    : |readMiles month.getMileageLabel
          - (month.rides.map fun ride => readMiles ride.getMileage).sum|
        ≤ (month.rides.length + 1) / 200 := by
  have whole := abs_readMiles_sub_le (metersToMiles month.mileage)
  have parts := abs_sum_sub_sum_le
    (fun ride : Ride => abs_readMiles_sub_le (metersToMiles ride.mileage)) month.rides
  have sum
      : (month.rides.map fun ride => metersToMiles ride.mileage).sum
        = metersToMiles month.mileage := by
    rw [totals.mileage]
    simp only [metersToMiles, div_eq_mul_inv, List.sum_map_mul_right]
  rw [sum] at parts
  rw [RideMonth.getMileageLabel]
  simp only [Ride.getMileage]
  rw [abs_le] at whole parts ⊢
  constructor <;> linarith [whole.1, whole.2, parts.1, parts.2]

/-- The whole seconds of a month and the sum of those of its rides. -/
theorem wholeSeconds_agree {month : RideMonth} (totals : month.TotalsOfRides)
    : |wholeSeconds month.time - (month.rides.map fun ride => wholeSeconds ride.totalTime).sum|
        ≤ month.rides.length := by
  have whole := abs_wholeSeconds_sub_lt month.time
  have parts := abs_sum_sub_sum_le
    (fun ride : Ride => (abs_wholeSeconds_sub_lt ride.totalTime).le) month.rides
  have sum
      : ((month.rides.map fun ride => wholeSeconds ride.totalTime).sum : ℚ)
        = (month.rides.map fun ride => (wholeSeconds ride.totalTime : ℚ)).sum := by
    rw [Int.cast_list_sum, List.map_map]
    rfl
  have total : month.time = (month.rides.map fun ride => ride.totalTime).sum := totals.time
  rw [← total, ← sum] at parts
  rw [abs_lt] at whole
  rw [abs_le] at parts ⊢
  have low
      : ((month.rides.map fun ride => wholeSeconds ride.totalTime).sum : ℚ)
        < wholeSeconds month.time + month.rides.length + 1 := by
    linarith [whole.1, whole.2, parts.1, parts.2]
  have high
      : (wholeSeconds month.time : ℚ)
        < (month.rides.map fun ride => wholeSeconds ride.totalTime).sum
          + month.rides.length + 1 := by
    linarith [whole.1, whole.2, parts.1, parts.2]
  have low
      : (month.rides.map fun ride => wholeSeconds ride.totalTime).sum
        < wholeSeconds month.time + month.rides.length + 1 := by exact_mod_cast low
  have high
      : wholeSeconds month.time
        < (month.rides.map fun ride => wholeSeconds ride.totalTime).sum
          + month.rides.length + 1 := by exact_mod_cast high
  constructor
  · omega
  · omega

theorem exists_timeLabels {rides : List Ride}
    (shown : ∀ ride ∈ rides, ShowsSeconds ride.totalTime)
    : ∃ labels,
        rides.mapM Ride.getTime = .ok labels
        ∧ labels.map readTime = rides.map fun ride => wholeSeconds ride.totalTime := by
  obtain ⟨labels, returned, each⟩ :=
    exists_mapM_eq_ok fun ride member => exists_timeLabel (shown ride member)
  refine ⟨labels, returned, ?_⟩
  clear returned shown
  induction each with
  | nil => rfl
  | cons same _ ih => rw [List.map_cons, List.map_cons, same, ih]

/-- In the history of any rides, the distance label of a month tells the sum of those of its
rides up to half a hundredth of a mile for each label, and its time label the sum of theirs
up to a second for each ride.
-/
theorem FirebaseManager.organizeUserRides_labels_agree (formatters : Formatters)
    (rides : List Ride)
    : ∃ history,
        organizeUserRides formatters rides = .ok history
        ∧ ∀ year ∈ history.years, ∀ month ∈ year.months,
            |readMiles month.getMileageLabel
                - (month.rides.map fun ride => readMiles ride.getMileage).sum|
              ≤ (month.rides.length + 1) / 200
            ∧ (ShowsSeconds month.time
              → (∀ ride ∈ month.rides, ShowsSeconds ride.totalTime)
              → ∃ label labels,
                  month.getTimeLabel = .ok label
                  ∧ month.rides.mapM Ride.getTime = .ok labels
                  ∧ |readTime label - (labels.map readTime).sum| ≤ month.rides.length) := by
  obtain ⟨history, organized, totals⟩ := organizeUserRides_totals formatters rides
  refine ⟨history, organized, fun year known month listed => ?_⟩
  have totals := totals year known month listed
  refine ⟨mileageLabels_agree totals, fun shown ridesShown => ?_⟩
  obtain ⟨label, timed, told⟩ := exists_timeLabel shown
  obtain ⟨labels, ridesTimed, ridesTold⟩ := exists_timeLabels ridesShown
  refine ⟨label, labels, timed, ridesTimed, ?_⟩
  rw [told, ridesTold]
  exact wholeSeconds_agree totals

end AgriGuardian.Rides
