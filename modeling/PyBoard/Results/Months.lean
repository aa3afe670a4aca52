/-
  PyBoard.Results.Months — what `_add_months` does to a timestamp.

  On a server in the UTC zone a timestamp that is not over moves to the same time of day of
  the month that lies the given number of months later, on the same day or on the last one
  of a shorter month.  Two steps never go further than one step over all their months, and
  go as far if no month is too short for the day.

  Main result: `addMonths_calendar`.
-/
import PyBoard.Python.UtcClock
import PyBoard.Services.Order

namespace PyBoard

variable {rt : Runtime}

/-! ## §1. Dates. -/

namespace LocalTime

variable {dt : LocalTime}

theorem monthIndex_monthsLater (dt : LocalTime) (n : Int) :
    (dt.monthsLater n).monthIndex = dt.monthIndex + n := by
  unfold monthsLater monthIndex
  dsimp only
  omega

theorem day_monthsLater (dt : LocalTime) (n : Int) :
    (dt.monthsLater n).day = min dt.day (monthLength (dt.monthIndex + n)) := rfl

/-- The year that `_add_months` computes. -/
theorem year_monthsLater (dt : LocalTime) (n : Int) :
    (dt.monthsLater n).year = dt.year + (dt.month - 1 + n) / 12 := by
  unfold monthsLater monthIndex
  dsimp only
  omega

theorem month_monthsLater (dt : LocalTime) (n : Int) :
    (dt.monthsLater n).month = (dt.month - 1 + n) % 12 + 1 := by
  unfold monthsLater monthIndex
  dsimp only
  omega

theorem year_le_monthsLater (h : dt.Valid) {n : Int} (hn : 1 ≤ n) :
    dt.year ≤ (dt.monthsLater n).year := by
  rw [year_monthsLater]
  have hmonth := h.month
  omega

/-- Two steps end in the month of the one step, and not on a later day. -/
theorem civil_monthsLater_twice (h : dt.Valid) (a b : Int) :
    ((dt.monthsLater a).monthsLater b).civil ≤ (dt.monthsLater (a + b)).civil := by
  rw [civil_monthsLater_eq (h.monthsLater a), civil_monthsLater_eq h, monthIndex_monthsLater,
    day_monthsLater, add_assoc]
  have hday : min (min dt.day (monthLength (dt.monthIndex + a)))
      (monthLength (dt.monthIndex + (a + b))) ≤
        min dt.day (monthLength (dt.monthIndex + (a + b))) :=
    min_le_min_right _ (min_le_left _ _)
  show _ * 86400 + dt.second ≤ _ * 86400 + dt.second
  omega

/-- Every month has a day 28. -/
theorem monthsLater_twice_of_le (hday : dt.day ≤ 28) (a b : Int) :
    (dt.monthsLater a).monthsLater b = dt.monthsLater (a + b) := by
  have hlength : ∀ i, min dt.day (monthLength i) = dt.day := by
    intro i
    have := (monthLength_bounds i).1
    omega
  unfold monthsLater
  dsimp only
  have hindex := monthIndex_monthsLater dt a
  unfold monthsLater at hindex
  rw [hindex, hlength, hlength, hlength, add_assoc]

end LocalTime

/-! ## §2. Timestamps. -/

/-- **One step**: the timestamp of the date some months later. -/
theorem InUtc.addMonths_eq_ok (h : InUtc rt) {now t n : Int} (hnow : now ≤ t) {dt : LocalTime}
    (hdt : rt.fromtimestamp t = some dt) (hyear : (dt.monthsLater n).year ≤ MAXYEAR) :
    addMonths rt now t n = .ok (dt.monthsLater n).civil := by
  have hread : rt.timestamp (dt.monthsLater n) = some (dt.monthsLater n).civil := by
    rw [h.timestamp]
    rfl
  unfold addMonths
  rw [max_eq_left hnow, hdt]
  dsimp only
  rw [LocalTime.year_monthsLater] at hyear
  rw [if_neg (by omega)]
  have hlater : ({ dt with
      year := dt.year + (dt.month - 1 + n) / 12
      month := (dt.month - 1 + n) % 12 + 1
      day := min dt.day (monthrange (dt.year + (dt.month - 1 + n) / 12)
        ((dt.month - 1 + n) % 12 + 1)) } : LocalTime) = dt.monthsLater n := by
    rw [← LocalTime.year_monthsLater, ← LocalTime.month_monthsLater]
    rfl
  rw [hlater, hread]

/-- What the clock shows then. -/
theorem InUtc.fromtimestamp_monthsLater (h : InUtc rt) {t n : Int} {dt : LocalTime}
    (hdt : rt.fromtimestamp t = some dt) (hn : 1 ≤ n) (hyear : (dt.monthsLater n).year ≤ MAXYEAR) :
    rt.fromtimestamp (dt.monthsLater n).civil = some (dt.monthsLater n) ∧
      t < (dt.monthsLater n).civil := by
  rw [h.fromtimestamp] at hdt ⊢
  obtain ⟨hvalid, hcivil, hfirst, -⟩ := Utc.fromtimestamp_eq_some.mp hdt
  have hlater := LocalTime.civil_monthsLater hvalid hn
  have hle := LocalTime.year_le_monthsLater hvalid hn
  refine ⟨Utc.fromtimestamp_eq_some.mpr ⟨hvalid.monthsLater n, rfl, ?_, hyear⟩, ?_⟩
  · omega
  · omega

/-- **The calendar law of `_add_months`**, for a time `t` that is not over and that the clock
    shows as `dt`. -/
theorem addMonths_calendar (h : InUtc rt) {now t : Int} (hnow : now ≤ t) {dt : LocalTime}
    (hdt : rt.fromtimestamp t = some dt) :
    (∀ a, 1 ≤ a → dt.year + (dt.month - 1 + a) / 12 ≤ MAXYEAR →
      ∃ e dt', addMonths rt now t a = .ok e ∧ t < e ∧ rt.fromtimestamp e = some dt' ∧
        dt'.second = dt.second ∧
        dt'.year * 12 + dt'.month = dt.year * 12 + dt.month + a ∧
        dt'.day = min dt.day (monthrange dt'.year dt'.month)) ∧
    ∀ a b, 1 ≤ a → 1 ≤ b → dt.year + (dt.month - 1 + (a + b)) / 12 ≤ MAXYEAR →
      ∃ e f g, addMonths rt now t a = .ok e ∧ addMonths rt now e b = .ok f ∧
        addMonths rt now t (a + b) = .ok g ∧ f ≤ g ∧ (dt.day ≤ 28 → f = g) := by
  obtain ⟨hvalid, -⟩ := h.localClock.shown t dt hdt
  constructor
  · intro a ha hyear
    rw [← LocalTime.year_monthsLater] at hyear
    obtain ⟨hshown, hlater⟩ := h.fromtimestamp_monthsLater hdt ha hyear
    refine ⟨_, _, h.addMonths_eq_ok hnow hdt hyear, hlater, hshown, rfl, ?_, rfl⟩
    rw [LocalTime.year_monthsLater, LocalTime.month_monthsLater]
    omega
  · intro a b ha hb hyear
    rw [← LocalTime.year_monthsLater] at hyear
    -- the date between the two steps is in range as well
    have hbetween : (dt.monthsLater a).year ≤ MAXYEAR := by
      rw [LocalTime.year_monthsLater] at hyear ⊢
      omega
    have htwice : ((dt.monthsLater a).monthsLater b).year ≤ MAXYEAR := by
      have hindex := LocalTime.monthIndex_monthsLater dt a
      unfold LocalTime.monthsLater at hyear hindex ⊢
      dsimp only at hyear ⊢
      rwa [hindex, add_assoc]
    obtain ⟨hshown, hlater⟩ := h.fromtimestamp_monthsLater hdt ha hbetween
    refine ⟨_, _, _, h.addMonths_eq_ok hnow hdt hbetween,
      h.addMonths_eq_ok (by omega) hshown htwice, h.addMonths_eq_ok hnow hdt hyear,
      LocalTime.civil_monthsLater_twice hvalid a b, fun hday => ?_⟩
    rw [LocalTime.monthsLater_twice_of_le hday]

theorem bare_inUtc : InUtc Utc.bare := ⟨rfl, rfl⟩

/-- From 31 January 2024: after one month the 29th, after two the 31st, in two steps the 29th. -/
theorem addMonths_calendar_january :
    ∃ e f g, addMonths Utc.bare 1700000000 1706659200 1 = .ok e ∧
      addMonths Utc.bare 1700000000 e 1 = .ok f ∧
      addMonths Utc.bare 1700000000 1706659200 (1 + 1) = .ok g ∧ f ≤ g ∧
      ((31 : Int) ≤ 28 → f = g) :=
  (@addMonths_calendar Utc.bare bare_inUtc 1700000000 1706659200 (by decide) ⟨2024, 1, 31, 0⟩
    (by decide)).2 1 1 (by decide) (by decide) (by decide)

end PyBoard
