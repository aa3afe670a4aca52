/-
  PyBoard.Python.Calendar — months of the local calendar.

  `LocalTime.monthsLater` is what "some months later" means for a date: the same
  day and time of day, or the last day of a shorter month.  Counted in days it is
  at least four weeks later (`civil_monthsLater`); so is the timestamp, up to the
  difference of two offsets of the zone (`LocalClock.monthsLater_le`).
-/
import Mathlib.Tactic.IntervalCases
import PyBoard.Python.Utc

namespace PyBoard

/-! ## §1. Counting the days. -/

/-- The first day of a month, counted from 1970-01-01; the months are numbered through. -/
def monthStart (i : Int) : Int := Utc.daysOfDate (i / 12) (i % 12 + 1) 1

/-- The length of a month. -/
def monthLength (i : Int) : Int := monthrange (i / 12) (i % 12 + 1)

theorem monthLength_bounds (i : Int) : 28 ≤ monthLength i ∧ monthLength i ≤ 31 := by
  unfold monthLength monthrange
  split
  · split <;> omega
  · split <;> omega

theorem daysOfDate_day (year month day : Int) :
    Utc.daysOfDate year month day = Utc.daysOfDate year month 1 + (day - 1) := by
  unfold Utc.daysOfDate
  dsimp only
  omega

/-- March begins 28 or 29 days after February; the years of the count begin in March. -/
theorem daysOfDate_march (y : Int) :
    Utc.daysOfDate y 3 1 = Utc.daysOfDate y 2 1 + if isLeapYear y then 29 else 28 := by
  unfold Utc.daysOfDate isLeapYear
  simp only [Int.reduceLE, Int.reduceGT, if_true, if_false, Bool.and_eq_true, Bool.or_eq_true,
    decide_eq_true_eq]
  split <;> omega

/-- A month begins where the one before it ends. -/
theorem daysOfDate_next {y r : Int} (h0 : 0 ≤ r) (h : r < 11) :
    Utc.daysOfDate y (r + 2) 1 = Utc.daysOfDate y (r + 1) 1 + monthrange y (r + 1) := by
  by_cases hfeb : r = 1
  · rw [hfeb]
    exact daysOfDate_march y
  · -- no other month has a year of its own, or a length that depends on it
    unfold Utc.daysOfDate monthrange
    interval_cases r <;> simp at hfeb ⊢ <;> omega

theorem monthStart_succ (i : Int) : monthStart (i + 1) = monthStart i + monthLength i := by
  unfold monthStart monthLength
  by_cases hdec : i % 12 = 11
  · have hyear : (i + 1) / 12 = i / 12 + 1 := by omega
    have hmonth : (i + 1) % 12 = 0 := by omega
    rw [hyear, hmonth, hdec]
    unfold Utc.daysOfDate monthrange
    simp
    omega
  · have hyear : (i + 1) / 12 = i / 12 := by omega
    have hmonth : (i + 1) % 12 + 1 = i % 12 + 2 := by omega
    rw [hyear, hmonth]
    exact daysOfDate_next (by omega) (by omega)

/-- Later months begin later. -/
theorem monthStart_le {i j : Int} (h : i ≤ j) : monthStart i ≤ monthStart j := by
  induction j, h using Int.leInduction with
  | base => exact le_rfl
  | succ j _ ih =>
    have hnext := monthStart_succ j
    have hlen := (monthLength_bounds j).1
    omega

/-! ## §2. Local times. -/

namespace LocalTime

variable (dt : LocalTime)

/-- The month of a local time. -/
def monthIndex : Int := dt.year * 12 + (dt.month - 1)

/-- The seconds of the local calendar since 1970-01-01. -/
def civil : Int := Utc.daysOfDate dt.year dt.month dt.day * 86400 + dt.second

/-- A date of the calendar with a time of day. -/
structure Valid : Prop where
  month : 1 ≤ dt.month ∧ dt.month ≤ 12
  day : 1 ≤ dt.day ∧ dt.day ≤ monthrange dt.year dt.month
  second : 0 ≤ dt.second ∧ dt.second < 86400

/-- **The local time some months later**: the same day, or the last of a shorter month. -/
def monthsLater (n : Int) : LocalTime :=
  let i := dt.monthIndex + n
  { dt with year := i / 12, month := i % 12 + 1, day := min dt.day (monthLength i) }

variable {dt}

theorem Valid.monthIndex (h : dt.Valid) :
    dt.monthIndex / 12 = dt.year ∧ dt.monthIndex % 12 + 1 = dt.month := by
  have hmonth := h.month
  unfold LocalTime.monthIndex
  omega

theorem Valid.day_le (h : dt.Valid) : dt.day ≤ monthLength dt.monthIndex := by
  rw [monthLength, h.monthIndex.1, h.monthIndex.2]
  exact h.day.2

theorem civil_eq (h : dt.Valid) :
    dt.civil = (monthStart dt.monthIndex + (dt.day - 1)) * 86400 + dt.second := by
  rw [civil, daysOfDate_day, monthStart, h.monthIndex.1, h.monthIndex.2]

theorem Valid.monthsLater (h : dt.Valid) (n : Int) : (dt.monthsLater n).Valid where
  month := by
    unfold LocalTime.monthsLater
    dsimp only
    omega
  day := by
    have hlen := (monthLength_bounds (dt.monthIndex + n)).1
    have hday := h.day.1
    exact ⟨le_min hday (by omega), min_le_right _ _⟩
  second := h.second

theorem civil_monthsLater_eq (h : dt.Valid) (n : Int) :
    (dt.monthsLater n).civil = (monthStart (dt.monthIndex + n) +
      (min dt.day (monthLength (dt.monthIndex + n)) - 1)) * 86400 + dt.second := by
  have hindex : (dt.monthsLater n).monthIndex = dt.monthIndex + n := by
    unfold LocalTime.monthsLater LocalTime.monthIndex
    dsimp only
    omega
  rw [civil_eq (h.monthsLater n), hindex]
  rfl

/-- **Four weeks at least**: months later is later in days, whatever day the month ends on. -/
theorem civil_monthsLater (h : dt.Valid) {n : Int} (hn : 1 ≤ n) :
    dt.civil + 28 * 86400 ≤ (dt.monthsLater n).civil := by
  rw [civil_eq h, civil_monthsLater_eq h]
  have hstart : monthStart (dt.monthIndex + 1) ≤ monthStart (dt.monthIndex + n) :=
    monthStart_le (by omega)
  have hnext := monthStart_succ dt.monthIndex
  have hlen := monthLength_bounds dt.monthIndex
  have hlen' := monthLength_bounds (dt.monthIndex + n)
  have hday := h.day_le
  omega

/-- The end of a shorter month takes three days at most: what is eight days apart stays four
    days apart. -/
theorem civil_monthsLater_apart {dt' : LocalTime} (h : dt.Valid) (h' : dt'.Valid) (n : Int)
    (hapart : dt.civil + 8 * 86400 ≤ dt'.civil) :
    (dt.monthsLater n).civil + 4 * 86400 ≤ (dt'.monthsLater n).civil := by
  rw [civil_eq h, civil_eq h'] at hapart
  rw [civil_monthsLater_eq h, civil_monthsLater_eq h']
  have hday := h.day
  have hday' := h'.day
  have hle := h.day_le
  have hle' := h'.day_le
  have hsecond := h.second
  have hsecond' := h'.second
  have hlen := monthLength_bounds dt.monthIndex
  have hlen' := monthLength_bounds dt'.monthIndex
  have hlater := monthLength_bounds (dt.monthIndex + n)
  have hlater' := monthLength_bounds (dt'.monthIndex + n)
  generalize hi : dt.monthIndex = i at *
  generalize hj : dt'.monthIndex = j at *
  have hcases : j < i ∨ j = i ∨ j = i + 1 ∨ i + 2 ≤ j := by omega
  rcases hcases with hlt | rfl | rfl | hgt
  · -- an earlier month ends before this one begins
    have hstart := monthStart_le (show j + 1 ≤ i by omega)
    have hnext := monthStart_succ j
    omega
  · omega
  · have hnext := monthStart_succ i
    have hnext' := monthStart_succ (i + n)
    rw [show i + n + 1 = i + 1 + n by omega] at hnext'
    omega
  · have hstart := monthStart_le (show i + n + 2 ≤ j + n by omega)
    have hnext := monthStart_succ (i + n)
    have hnext' := monthStart_succ (i + n + 1)
    rw [show i + n + 1 + 1 = i + n + 2 by omega] at hnext'
    have hbound := monthLength_bounds (i + n + 1)
    omega

end LocalTime

/-! ## §3. The local clock. -/

/-- **A local clock**: the offset of the zone is less than a day, both ways. -/
structure LocalClock (rt : Runtime) : Prop where
  shown : ∀ t dt, rt.fromtimestamp t = some dt → dt.Valid ∧ |dt.civil - t| < 86400
  read : ∀ dt t, dt.Valid → rt.timestamp dt = some t → |dt.civil - t| < 86400

/-- The timestamp some calendar months after a timestamp. -/
def Runtime.monthsLater (rt : Runtime) (t n : Int) : Option Int :=
  (rt.fromtimestamp t).bind fun dt => rt.timestamp (dt.monthsLater n)

/-- Months later is later. -/
theorem LocalClock.monthsLater_le {rt : Runtime} (h : LocalClock rt) {t n t' : Int} (hn : 1 ≤ n)
    (ht : rt.monthsLater t n = some t') : t ≤ t' := by
  unfold Runtime.monthsLater at ht
  obtain ⟨dt, hdt, hts⟩ := Option.bind_eq_some_iff.mp ht
  obtain ⟨hvalid, hshown⟩ := h.shown t dt hdt
  have hread := h.read _ t' (hvalid.monthsLater n) hts
  have hcivil := LocalTime.civil_monthsLater hvalid hn
  rw [abs_lt] at hshown hread
  omega

/-- What is ten days apart stays apart. -/
theorem LocalClock.monthsLater_lt {rt : Runtime} (h : LocalClock rt) {t u n t' u' : Int}
    (hapart : t + 10 * 86400 ≤ u) (ht : rt.monthsLater t n = some t')
    (hu : rt.monthsLater u n = some u') : t' < u' := by
  unfold Runtime.monthsLater at ht hu
  obtain ⟨dt, hdt, hts⟩ := Option.bind_eq_some_iff.mp ht
  obtain ⟨du, hdu, hus⟩ := Option.bind_eq_some_iff.mp hu
  obtain ⟨hvalid, hshown⟩ := h.shown t dt hdt
  obtain ⟨hvalid', hshown'⟩ := h.shown u du hdu
  have hread := h.read _ t' (hvalid.monthsLater n) hts
  have hread' := h.read _ u' (hvalid'.monthsLater n) hus
  rw [abs_lt] at hshown hshown' hread hread'
  have hcivil := LocalTime.civil_monthsLater_apart hvalid hvalid' n (by omega)
  omega

end PyBoard
