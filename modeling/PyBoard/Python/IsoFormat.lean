/-
  PyBoard.Python.IsoFormat — dates in the form of an HTML date field.

  `strftimeMinute` is what `strftime("%Y-%m-%dT%H:%M")` writes, and `fromisoformat` reads a
  date with a time to the minute or to the second; a text of another shape is left to a
  parameter.  What the clock of the UTC zone shows is read back without its seconds
  (`Utc.fromisoformat_strftimeMinute`).
-/
import PyBoard.Python.Digits
import PyBoard.Python.UtcClock

namespace PyBoard

/-! ## §1. Dates and times. -/

theorem monthrange_le (year month : Int) : monthrange year month ≤ 31 := by
  unfold monthrange
  split
  · split <;> omega
  · split <;> omega

/-- `dt.strftime("%Y-%m-%dT%H:%M")`. -/
def strftimeMinute (dt : LocalTime) : String :=
  String.ofList (padded 10 4 dt.year.toNat ++ '-' :: (padded 10 2 dt.month.toNat ++
    '-' :: (padded 10 2 dt.day.toNat ++ 'T' :: (padded 10 2 (dt.second / 3600).toNat ++
      ':' :: padded 10 2 (dt.second % 3600 / 60).toNat))))

namespace Utc

/-- `datetime(year, month, day, hour, minute, second)`. -/
def datetime (year month day hour minute second : Nat) : Except PyExc LocalTime :=
  if 1 ≤ year ∧ 1 ≤ month ∧ month ≤ 12 ∧ 1 ≤ day ∧ (day : Int) ≤ monthrange year month ∧
      hour ≤ 23 ∧ minute ≤ 59 ∧ second ≤ 59 then
    .ok ⟨year, month, day, hour * 3600 + minute * 60 + second⟩
  else .error (.value "value is out of range")

/-- The digits of a date and a time to the minute, and what follows them. -/
structure Fields where
  year : List Char
  month : List Char
  day : List Char
  hour : List Char
  minute : List Char
  rest : List Char

/-- `YYYY-MM-DD`, one more character and `HH:MM`. -/
def Fields.ofText : List Char → Option Fields
  | y₁ :: y₂ :: y₃ :: y₄ :: '-' :: m₁ :: m₂ :: '-' :: d₁ :: d₂ :: _ :: h₁ :: h₂ :: ':' ::
      n₁ :: n₂ :: rest => some ⟨[y₁, y₂, y₃, y₄], [m₁, m₂], [d₁, d₂], [h₁, h₂], [n₁, n₂], rest⟩
  | _ => none

/-- The digits of the seconds: nothing or `:SS` follows. -/
def Fields.second (fields : Fields) : Option (List Char) :=
  match fields.rest with
  | [] => some ['0', '0']
  | [':', s₁, s₂] => some [s₁, s₂]
  | _ => none

/-- The date and the time of a text with a time to the minute or to the second; `none` is a
    text of another shape, or the end of a day. -/
def isoTime (text : String) : Option (Except PyExc LocalTime) := do
  let fields ← Fields.ofText text.toList
  let second ← fields.second
  if fields.hour = ['2', '4'] then none
  else
    match digits fields.year, digits fields.month, digits fields.day, digits fields.hour,
      digits fields.minute, digits second with
    | some year, some month, some day, some hour, some minute, some second =>
      some (datetime year month day hour minute second)
    | _, _, _, _, _, _ => some (.error (.value "Invalid isoformat string"))

/-- `int(datetime.fromisoformat(text).timestamp())`; `other` reads the texts of another shape. -/
def fromisoformat (other : String → Except PyExc Int) (text : String) : Except PyExc Int :=
  match isoTime text with
  | none => other text
  | some dt => dt.map LocalTime.civil

/-! ## §2. Reading what was written. -/

theorem ofText_strftimeMinute (dt : LocalTime) :
    Fields.ofText (strftimeMinute dt).toList =
      some ⟨padded 10 4 dt.year.toNat, padded 10 2 dt.month.toNat, padded 10 2 dt.day.toNat,
        padded 10 2 (dt.second / 3600).toNat, padded 10 2 (dt.second % 3600 / 60).toNat, []⟩ := by
  unfold strftimeMinute
  rw [String.toList_ofList]
  rfl

/-- The hours of a day end before 24. -/
theorem padded_hour_ne {n : Nat} (h : n ≤ 23) : padded 10 2 n ≠ ['2', '4'] := by
  intro heq
  have hread := digits_padded (k := 2) (by decide) (show n < 10 ^ 2 by omega)
  rw [heq] at hread
  have htwentyfour : digits ['2', '4'] = some 24 := by decide
  rw [htwentyfour] at hread
  injection hread with hread
  omega

/-- **What was written is read back** without the seconds. -/
theorem isoTime_strftimeMinute {dt : LocalTime} (h : dt.Valid)
    (hyear : 1 ≤ dt.year ∧ dt.year ≤ MAXYEAR) :
    isoTime (strftimeMinute dt) = some (.ok { dt with second := dt.second - dt.second % 60 }) := by
  obtain ⟨year, month, day, second⟩ := dt
  obtain ⟨⟨hmonth, hmonth'⟩, ⟨hday, hday'⟩, hsecond, hsecond'⟩ := h
  obtain ⟨hyear, hyear'⟩ := hyear
  dsimp only at hmonth hmonth' hday hday' hsecond hsecond' hyear hyear'
  unfold MAXYEAR at hyear'
  have hlength := monthrange_le year month
  -- each number has as many digits as its field
  have hy := digits_padded (k := 4) (by decide) (show year.toNat < 10 ^ 4 by omega)
  have hm := digits_padded (k := 2) (by decide) (show month.toNat < 10 ^ 2 by omega)
  have hd := digits_padded (k := 2) (by decide) (show day.toNat < 10 ^ 2 by omega)
  have hh := digits_padded (k := 2) (by decide) (show (second / 3600).toNat < 10 ^ 2 by omega)
  have hn := digits_padded (k := 2) (by decide)
    (show (second % 3600 / 60).toNat < 10 ^ 2 by omega)
  have hhour := padded_hour_ne (show (second / 3600).toNat ≤ 23 by omega)
  have hzero : digits ['0', '0'] = some 0 := by decide
  unfold isoTime
  rw [ofText_strftimeMinute]
  dsimp only [Option.bind_eq_bind, Option.bind_some, Fields.second]
  rw [if_neg hhour, hy, hm, hd, hh, hn, hzero]
  dsimp only
  have hyear_eq : (year.toNat : Int) = year := Int.toNat_of_nonneg (by omega)
  have hmonth_eq : (month.toNat : Int) = month := Int.toNat_of_nonneg (by omega)
  have hday_eq : (day.toNat : Int) = day := Int.toNat_of_nonneg (by omega)
  have hrange : 1 ≤ year.toNat ∧ 1 ≤ month.toNat ∧ month.toNat ≤ 12 ∧ 1 ≤ day.toNat ∧
      (day.toNat : Int) ≤ monthrange year.toNat month.toNat ∧ (second / 3600).toNat ≤ 23 ∧
      (second % 3600 / 60).toNat ≤ 59 ∧ 0 ≤ 59 := by
    rw [hyear_eq, hmonth_eq, hday_eq]
    omega
  have htime : ((second / 3600).toNat * 3600 + (second % 3600 / 60).toNat * 60 + (0 : Nat) : Int)
      = second - second % 60 := by omega
  unfold datetime
  rw [if_pos hrange, hyear_eq, hmonth_eq, hday_eq, htime]

end Utc

end PyBoard
