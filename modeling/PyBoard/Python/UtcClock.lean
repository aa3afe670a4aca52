/-
  PyBoard.Python.UtcClock — the clock of the UTC zone.

  `Utc.dateOfDays` finds the date of a number of days by eras of 400 years, which begin in
  March; it is the date that `Utc.daysOfDate` counts (`dateOfDays_spec`).  So the UTC clock
  shows each timestamp as the one date that is read back as it (`fromtimestamp_eq_some`).
-/
import Mathlib.Tactic.Linarith
import PyBoard.Python.Calendar

namespace PyBoard.Utc

/-! ## §1. Eras. -/

/-- The days of an era are counted by its centuries, their cycles of four years, years and
    days; the last year of a cycle may have a day more. -/
theorem era_parts (doe : Int) (h0 : 0 ≤ doe) (h : doe < 146097) : ∃ c q n r : Int,
    (0 ≤ c ∧ c ≤ 3) ∧ (0 ≤ q ∧ q ≤ 24) ∧ (0 ≤ n ∧ n ≤ 3) ∧ (0 ≤ r ∧ r ≤ 365) ∧
    (r = 365 → n = 3 ∧ (q < 24 ∨ c = 3)) ∧ doe = 36524 * c + 1461 * q + 365 * n + r := by
  have hc : ∃ c r₁ : Int, (0 ≤ c ∧ c ≤ 3) ∧ (0 ≤ r₁ ∧ r₁ ≤ 36524) ∧ (r₁ = 36524 → c = 3) ∧
      doe = 36524 * c + r₁ := by
    refine ⟨min 3 (doe / 36524), doe - 36524 * min 3 (doe / 36524), ?_⟩
    omega
  obtain ⟨c, r₁, hc, hr₁, hlast, rfl⟩ := hc
  have hq : ∃ q r₂ : Int, (0 ≤ q ∧ q ≤ 24) ∧ (0 ≤ r₂ ∧ r₂ ≤ 1460) ∧
      (r₂ = 1460 → q < 24 ∨ c = 3) ∧ r₁ = 1461 * q + r₂ := by
    refine ⟨r₁ / 1461, r₁ % 1461, ?_⟩
    omega
  obtain ⟨q, r₂, hq, hr₂, hlast', rfl⟩ := hq
  have hn : ∃ n r : Int, (0 ≤ n ∧ n ≤ 3) ∧ (0 ≤ r ∧ r ≤ 365) ∧ (r = 365 → n = 3) ∧
      r₂ = 365 * n + r := by
    refine ⟨min 3 (r₂ / 365), r₂ - 365 * min 3 (r₂ / 365), ?_⟩
    omega
  obtain ⟨n, r, hn, hr, hlast'', rfl⟩ := hn
  exact ⟨c, q, n, r, hc, hq, hn, hr, fun h365 => ⟨hlast'' h365, hlast' (by omega)⟩, by omega⟩

/-- The year that a day of an era belongs to. -/
theorem yearOfEra_eq {c q n r : Int} (hc : 0 ≤ c ∧ c ≤ 3) (hq : 0 ≤ q ∧ q ≤ 24)
    (hn : 0 ≤ n ∧ n ≤ 3) (hr : 0 ≤ r ∧ r ≤ 365) (hlast : r = 365 → n = 3 ∧ (q < 24 ∨ c = 3))
    {doe : Int} (hdoe : doe = 36524 * c + 1461 * q + 365 * n + r) :
    (doe - doe / 1460 + doe / 36524 - doe / 146096) / 365 = 100 * c + 4 * q + n := by
  -- a cycle has a day more than four years of 365 days
  have hcycle : doe / 1460 = 25 * c + q + (24 * c + q + 365 * n + r) / 1460 := by omega
  have hcentury : doe / 36524 - doe / 146096 = c := by
    obtain ⟨hc0, hc3⟩ := hc
    have hrest : 1461 * q + 365 * n + r ≤ 36524 ∧ (1461 * q + 365 * n + r = 36524 → c = 3) := by
      omega
    interval_cases c <;> omega
  rw [show doe - doe / 1460 + doe / 36524 - doe / 146096
    = doe - doe / 1460 + (doe / 36524 - doe / 146096) by omega, hcentury, hcycle]
  omega

/-- The date of a day of the year that begins in March, the months counted from March. -/
theorem daysOfDate_marchYear {era y mp : Int} (hy : 0 ≤ y ∧ y < 400) (hmp : 0 ≤ mp ∧ mp ≤ 11)
    (day : Int) :
    daysOfDate (y + era * 400 + if (if mp < 10 then mp + 3 else mp - 9) ≤ 2 then 1 else 0)
        (if mp < 10 then mp + 3 else mp - 9) day
      = era * 146097 + (y * 365 + y / 4 - y / 100 + ((153 * mp + 2) / 5 + day - 1)) - 719468 := by
  unfold daysOfDate
  by_cases hspring : mp < 10
  · have hera : (y + era * 400) / 400 = era := by omega
    have hyoe : (y + era * 400) % 400 = y := by omega
    rw [if_pos hspring]
    simp only [show ¬mp + 3 ≤ 2 by omega, show mp + 3 > 2 by omega, if_true, if_false, add_zero,
      hera, hyoe, show mp + 3 - 3 = mp by omega]
  · have hera : (y + era * 400 + 1 - 1) / 400 = era := by omega
    have hyoe : (y + era * 400 + 1 - 1) % 400 = y := by omega
    rw [if_neg hspring]
    simp only [show mp - 9 ≤ 2 by omega, show ¬mp - 9 > 2 by omega, if_true, if_false,
      hera, hyoe, show mp - 9 + 9 = mp by omega]

/-- The months of the year that begins in March have the lengths of the calendar. -/
theorem dayOfMonth_le (era y : Int) {r : Int} (hr : 0 ≤ r ∧ r ≤ 365)
    (hleap : r = 365 → isLeapYear (y + era * 400 + 1)) :
    let mp := (5 * r + 2) / 153
    r - (153 * mp + 2) / 5 + 1 ≤
      monthrange (y + era * 400 + if (if mp < 10 then mp + 3 else mp - 9) ≤ 2 then 1 else 0)
        (if mp < 10 then mp + 3 else mp - 9) := by
  intro mp
  have hmp : 0 ≤ mp ∧ mp ≤ 11 := by omega
  have hspan : 153 * mp ≤ 5 * r + 2 ∧ 5 * r + 2 ≤ 153 * mp + 152 := by omega
  clear_value mp
  by_cases hfeb : mp = 11
  · rw [hfeb] at hspan ⊢
    unfold monthrange
    norm_num
    split
    · omega
    · next hcommon =>
      have : r ≠ 365 := fun h365 => hcommon (hleap h365)
      omega
  · have hlt : mp < 11 := by omega
    obtain ⟨h0, -⟩ := hmp
    clear hleap hfeb
    unfold monthrange
    interval_cases mp <;> norm_num <;> omega

/-- The last year of a cycle is a leap year, unless it ends a century and no era. -/
theorem isLeapYear_cycle {c q era : Int} (hq : 0 ≤ q ∧ q ≤ 24)
    (hcycle : q < 24 ∨ c = 3) : isLeapYear (100 * c + 4 * q + 3 + era * 400 + 1) = true := by
  have hfour : (100 * c + 4 * q + 3 + era * 400 + 1) % 4 = 0 := by omega
  unfold isLeapYear
  by_cases hend : q = 24
  · have hera : (100 * c + 4 * q + 3 + era * 400 + 1) % 400 = 0 := by omega
    simp [hfour, hera]
  · have hcentury : (100 * c + 4 * q + 3 + era * 400 + 1) % 100 ≠ 0 := by omega
    simp [hfour, hcentury]

theorem marchMonth_bounds {r : Int} (hr : 0 ≤ r ∧ r ≤ 365) :
    (0 ≤ (5 * r + 2) / 153 ∧ (5 * r + 2) / 153 ≤ 11) ∧
      1 ≤ r - (153 * ((5 * r + 2) / 153) + 2) / 5 + 1 := by omega

theorem exists_year {c q n : Int} (hc : 0 ≤ c ∧ c ≤ 3) (hq : 0 ≤ q ∧ q ≤ 24) (hn : 0 ≤ n ∧ n ≤ 3) :
    ∃ y : Int, y = 100 * c + 4 * q + n ∧ (0 ≤ y ∧ y < 400) ∧ y / 4 = 25 * c + q ∧ y / 100 = c :=
  ⟨_, rfl, by omega, by omega, by omega⟩

/-- **The date of a number of days is a date of the calendar, and counts them.** -/
theorem dateOfDays_spec (days : Int) : ∃ year month day, dateOfDays days = (year, month, day) ∧
    (1 ≤ month ∧ month ≤ 12) ∧ (1 ≤ day ∧ day ≤ monthrange year month) ∧
    daysOfDate year month day = days := by
  obtain ⟨c, q, n, r, hc, hq, hn, hr, hlast, hdoe⟩ :=
    era_parts ((days + 719468) % 146097) (by omega) (by omega)
  have hyoe := yearOfEra_eq hc hq hn hr hlast hdoe
  have hdays := Int.mul_ediv_add_emod (days + 719468) 146097
  generalize hera : (days + 719468) / 146097 = era at hdays
  rw [hdoe] at hdays
  obtain ⟨y, hyeq, hybound, hy4, hy100⟩ := exists_year hc hq hn
  have hdoy : (days + 719468) % 146097 - (365 * y + y / 4 - y / 100) = r := by
    rw [hy4, hy100, hdoe, hyeq]
    ring
  obtain ⟨hmp, hday⟩ := marchMonth_bounds hr
  have hlength := dayOfMonth_le era y hr fun h365 => by
    obtain ⟨hn3, hcycle⟩ := hlast h365
    rw [hyeq, hn3]
    exact isLeapYear_cycle hq hcycle
  clear hlast hdoe
  dsimp only at hlength
  generalize hmonths : (5 * r + 2) / 153 = mp at hmp hday hlength
  refine ⟨y + era * 400 + if (if mp < 10 then mp + 3 else mp - 9) ≤ 2 then 1 else 0,
    if mp < 10 then mp + 3 else mp - 9, r - (153 * mp + 2) / 5 + 1, ?_, ?_, ⟨hday, hlength⟩, ?_⟩
  · unfold dateOfDays
    simp only [hyoe, ← hyeq, hdoy, hera, hmonths]
  · clear hyoe hdays hdoy hlength
    split <;> omega
  · rw [daysOfDate_marchYear hybound hmp, hy4, hy100, hyeq]
    linarith

end PyBoard.Utc

namespace PyBoard

/-! ## §2. The clock. -/

namespace LocalTime

variable {dt dt' : LocalTime}

/-- A local time of an earlier month is earlier. -/
theorem civil_lt_of_monthIndex_lt (h : dt.Valid) (h' : dt'.Valid)
    (hlt : dt.monthIndex < dt'.monthIndex) : dt.civil < dt'.civil := by
  rw [civil_eq h, civil_eq h']
  have hstart : monthStart (dt.monthIndex + 1) ≤ monthStart dt'.monthIndex :=
    monthStart_le (by omega)
  have hnext := monthStart_succ dt.monthIndex
  have hday := h.day_le
  have hday' := h'.day.1
  have hsecond := h.second
  have hsecond' := h'.second
  omega

/-- A local time is told by its seconds. -/
theorem civil_injective (h : dt.Valid) (h' : dt'.Valid) (hcivil : dt.civil = dt'.civil) :
    dt = dt' := by
  have hindex : dt.monthIndex = dt'.monthIndex := by
    by_contra hne
    obtain hlt | hgt := Int.lt_or_gt_of_ne hne
    · exact absurd hcivil (civil_lt_of_monthIndex_lt h h' hlt).ne
    · exact absurd hcivil (civil_lt_of_monthIndex_lt h' h hgt).ne'
  have hyear : dt.year = dt'.year := by rw [← h.monthIndex.1, ← h'.monthIndex.1, hindex]
  have hmonth : dt.month = dt'.month := by rw [← h.monthIndex.2, ← h'.monthIndex.2, hindex]
  rw [civil_eq h, civil_eq h', hindex] at hcivil
  have hsecond := h.second
  have hsecond' := h'.second
  have hrest : dt.day = dt'.day ∧ dt.second = dt'.second := by omega
  obtain ⟨year, month, day, second⟩ := dt
  obtain ⟨hday, hsecond⟩ := hrest
  simp only at hyear hmonth hday hsecond
  rw [hyear, hmonth, hday, hsecond]

end LocalTime

/-- **What the UTC clock shows** at a time: the date of the calendar that counts it, if
    `datetime` has its year. -/
theorem Utc.fromtimestamp_eq_some {t : Int} {dt : LocalTime} :
    Utc.fromtimestamp t = some dt ↔ dt.Valid ∧ dt.civil = t ∧ 1 ≤ dt.year ∧ dt.year ≤ MAXYEAR := by
  obtain ⟨year, month, day, hdate, hmonth, hday, hdays⟩ := Utc.dateOfDays_spec (t / 86400)
  have hshown : (⟨year, month, day, t % 86400⟩ : LocalTime).Valid :=
    ⟨hmonth, hday, Int.emod_nonneg t (by decide), Int.emod_lt_of_pos t (by decide)⟩
  have hcivil : (⟨year, month, day, t % 86400⟩ : LocalTime).civil = t := by
    unfold LocalTime.civil
    dsimp only
    omega
  unfold Utc.fromtimestamp
  simp only [hdate]
  constructor
  · intro h
    split at h
    · cases h
    · next hyear =>
      injection h with h
      rw [not_or, not_lt, not_lt] at hyear
      rw [← h]
      exact ⟨hshown, hcivil, hyear⟩
  · rintro ⟨hvalid, heq, hyear⟩
    have hdt := LocalTime.civil_injective hshown hvalid (hcivil.trans heq.symm)
    rw [← hdt] at hyear ⊢
    rw [← not_lt, ← not_lt, ← not_or] at hyear
    exact if_neg hyear

/-- The interpreter runs in the UTC zone. -/
structure InUtc (rt : Runtime) : Prop where
  fromtimestamp : rt.fromtimestamp = Utc.fromtimestamp
  timestamp : rt.timestamp = Utc.timestamp

/-- The UTC zone has a local clock. -/
theorem InUtc.localClock {rt : Runtime} (h : InUtc rt) : LocalClock rt where
  shown := by
    intro t dt hdt
    rw [h.fromtimestamp] at hdt
    obtain ⟨hvalid, hcivil, -⟩ := Utc.fromtimestamp_eq_some.mp hdt
    refine ⟨hvalid, ?_⟩
    rw [hcivil, sub_self]
    decide
  read := by
    intro dt t _ ht
    rw [h.timestamp] at ht
    have hcivil : dt.civil = t := Option.some.inj ht
    rw [hcivil, sub_self]
    decide

end PyBoard
