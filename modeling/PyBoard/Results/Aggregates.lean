/-
  PyBoard.Results.Aggregates — the aggregated statistics of days and months.

  A period is a record type and a start.  Kept per period, the table would hold for each
  one what its last aggregation has found.

  Main results:
    * `aggregated_kept_per_period` — it does, after any sequence of aggregations, if and
      only if no two of them of different types share a start.
    * `month_replaces_first_day` — the aggregation of a month replaces the row of its
      first day.
-/
import PyBoard.Relational.Finer
import PyBoard.Queues.Stat
import PyBoard.Python.Utc

namespace PyBoard

open Relational Queues

/-! ## §1. What is kept per period. -/

/-- A record type and a start. -/
abbrev Period := String × Int

def Stat.period (item : Stat) : Period := (item.1.record_type, item.1.record_at)

/-- The row of a period. -/
def StatTable.of (stat : StatTable) (p : Period) : Option Stat := stat.at? Stat.period Prod.snd p

/-- What an aggregation finds out about its period. -/
def Queues.Aggregation.found (rt : Runtime) (a : Aggregation) : Except PyExc Stat := do
  let end_at ← rangeEnd rt a.record_at a.record_type
  let data ← generateStatData a.db a.record_at end_at
  storedStat { data with record_at := a.record_at, record_type := a.record_type }

/-- The row of an aggregation that completes. -/
def Queues.Aggregation.row? (rt : Runtime) (a : Aggregation) : Option Stat :=
  (a.found rt).toOption

/-- The table after a sequence of aggregations. -/
def aggregated (rt : Runtime) (stat : StatTable) (runs : List Aggregation) : StatTable :=
  runs.foldl (Aggregation.after rt) stat

/-- What the last aggregation of each period has found, over what there was. -/
def lastFound (rt : Runtime) (m : Period → Option Stat) (runs : List Aggregation) :
    Period → Option Stat :=
  runs.foldl (fun m a =>
    match a.row? rt with
    | some item => Function.update m (a.record_type, a.record_at) (some item)
    | none => m) m

/-- **Statistics kept per period**: every period has the row of its last aggregation, and
    to repeat that one over unchanged data changes nothing. -/
def KeptPerPeriod (rt : Runtime) (stat : StatTable) (runs : List Aggregation) : Prop :=
  (∀ p, (aggregated rt stat runs).of p = lastFound rt stat.of runs p) ∧
    ∀ a ∈ runs, ∀ item, a.row? rt = some item →
      lastFound rt stat.of runs (a.record_type, a.record_at) = some item →
      a.after rt (aggregated rt stat runs) = aggregated rt stat runs

/-- The aggregations that complete. -/
def completed (rt : Runtime) (runs : List Aggregation) : List Aggregation :=
  runs.filter fun a => (a.row? rt).isSome

/-- **Starts of one type**: two aggregations that complete, or one and a row there was,
    that share a start share the record type. -/
def OneTypePerStart (rt : Runtime) (stat : StatTable) (runs : List Aggregation) : Prop :=
  (∀ a ∈ completed rt runs, ∀ b ∈ completed rt runs,
    a.record_at = b.record_at → a.record_type = b.record_type) ∧
  ∀ a ∈ completed rt runs, ∀ item ∈ stat.rows,
    a.record_at = item.1.record_at → a.record_type = item.1.record_type

/-! ## §2. An aggregation is a write. -/

theorem storedStat_ok {item : StatColumns} {s : Stat} (h : storedStat item = .ok s) :
    s.1 = item := by
  unfold storedStat at h
  split at h
  · injection h with h
    rw [← h]
  · cases h

/-- The row is of the period of the aggregation. -/
theorem row?_period {rt : Runtime} {a : Aggregation} {item : Stat} (h : a.row? rt = some item) :
    item.period = (a.record_type, a.record_at) := by
  unfold Aggregation.row? at h
  cases hfound : a.found rt with
  | error e =>
      rw [hfound] at h
      cases h
  | ok item' =>
      rw [hfound] at h
      cases h
      obtain ⟨end_at, -, hrest⟩ := except_bind_ok hfound
      obtain ⟨data, -, hstored⟩ := except_bind_ok hrest
      unfold Stat.period
      rw [storedStat_ok hstored]

/-- The job puts the row, whatever the table holds for the start. -/
theorem aggregateStats_eq (rt : Runtime) (stat : StatTable) (a : Aggregation) :
    aggregateStats rt a.db a.record_type a.record_at stat
      = a.found rt >>= fun item => .ok (stat.put item) := by
  unfold aggregateStats Aggregation.found
  simp only [bind_assoc]
  cases hget : stat.get? a.record_at with
  | none => rfl
  | some item =>
      -- the row that is there has the start by which it has been found
      have hat : item.record_at = a.record_at := Table.key_of_get? hget
      show (do
        let end_at ← rangeEnd rt a.record_at a.record_type
        let data ← generateStatData a.db a.record_at end_at
        let item ← storedStat { data with record_at := item.record_at,
                                          record_type := a.record_type }
        Except.ok (stat.put item)) = _
      rw [hat]

/-- **One aggregation** is one write, or none. -/
theorem Queues.Aggregation.after_eq (rt : Runtime) (stat : StatTable) (a : Aggregation) :
    a.after rt stat = (a.row? rt).elim stat stat.put := by
  unfold Aggregation.after Aggregation.row?
  rw [aggregateStats_eq]
  cases a.found rt with
  | error e => rfl
  | ok item => rfl

theorem aggregated_eq (rt : Runtime) (stat : StatTable) (runs : List Aggregation) :
    aggregated rt stat runs = (runs.filterMap (Aggregation.row? rt)).foldl Table.put stat := by
  unfold aggregated
  induction runs generalizing stat with
  | nil => rfl
  | cons a runs ih =>
      rw [List.foldl_cons, ih, Aggregation.after_eq]
      cases hrow : a.row? rt with
      | none => rw [List.filterMap_cons_none hrow]; rfl
      | some item => rw [List.filterMap_cons_some hrow]; rfl

theorem lastFound_eq (rt : Runtime) (m : Period → Option Stat) (runs : List Aggregation) :
    lastFound rt m runs = Table.lastAt Stat.period m (runs.filterMap (Aggregation.row? rt)) := by
  unfold lastFound
  induction runs generalizing m with
  | nil => rfl
  | cons a runs ih =>
      rw [List.foldl_cons, ih]
      cases hrow : a.row? rt with
      | none => rw [List.filterMap_cons_none hrow]
      | some item =>
          rw [List.filterMap_cons_some hrow]
          show Table.lastAt _ (Function.update m (a.record_type, a.record_at) _) _ = _
          rw [← row?_period hrow]
          rfl

/-! ## §3. The exact condition. -/

/-- The aggregations that complete have the periods of the rows that are written. -/
theorem oneFine_iff (rt : Runtime) (stat : StatTable) (runs : List Aggregation) :
    Table.OneFine Stat.period Stat.record_at
      (stat.rows ++ runs.filterMap (Aggregation.row? rt)) ↔ OneTypePerStart rt stat runs := by
  have hwritten : ∀ a ∈ completed rt runs, ∃ item ∈ runs.filterMap (Aggregation.row? rt),
      item.period = (a.record_type, a.record_at) := by
    intro a ha
    obtain ⟨hmem, hsome⟩ := List.mem_filter.mp ha
    obtain ⟨item, hrow⟩ := Option.isSome_iff_exists.mp hsome
    exact ⟨item, List.mem_filterMap.mpr ⟨a, hmem, hrow⟩, row?_period hrow⟩
  constructor
  · intro h
    constructor
    · intro a ha b hb hat
      obtain ⟨item, hitem, hperiod⟩ := hwritten a ha
      obtain ⟨item', hitem', hperiod'⟩ := hwritten b hb
      have hkey : item.record_at = item'.record_at :=
        (congrArg Prod.snd hperiod).trans (hat.trans (congrArg Prod.snd hperiod').symm)
      have heq := h item (List.mem_append_right _ hitem) item' (List.mem_append_right _ hitem') hkey
      rw [hperiod, hperiod'] at heq
      exact congrArg Prod.fst heq
    · intro a ha row hr hat
      obtain ⟨item, hitem, hperiod⟩ := hwritten a ha
      have hkey : item.record_at = row.record_at := (congrArg Prod.snd hperiod).trans hat
      have heq := h item (List.mem_append_right _ hitem) row (List.mem_append_left _ hr) hkey
      rw [hperiod] at heq
      exact congrArg Prod.fst heq
  · rintro ⟨hruns, hrows⟩
    -- a row of the one list or the other, with the period it is of
    have hof : ∀ item ∈ runs.filterMap (Aggregation.row? rt),
        ∃ a ∈ completed rt runs, item.period = (a.record_type, a.record_at) := by
      intro item hitem
      obtain ⟨a, ha, hrow⟩ := List.mem_filterMap.mp hitem
      refine ⟨a, List.mem_filter.mpr ⟨ha, ?_⟩, row?_period hrow⟩
      rw [hrow]
      rfl
    have hpair : ∀ item item' : Stat, item.1.record_type = item'.1.record_type →
        item.record_at = item'.record_at → item.period = item'.period :=
      fun item item' htype hat => Prod.ext htype hat
    intro r hr r' hr' hkey
    rcases List.mem_append.mp hr with hr | hr
    · rcases List.mem_append.mp hr' with hr' | hr'
      · rw [stat.eq_of_key_eq hr hr' hkey]
      · obtain ⟨a, ha, hperiod⟩ := hof r' hr'
        have hat : a.record_at = r.1.record_at := (congrArg Prod.snd hperiod).symm.trans hkey.symm
        exact hpair r r' ((hrows a ha r hr hat).symm.trans (congrArg Prod.fst hperiod).symm) hkey
    · obtain ⟨a, ha, hperiod⟩ := hof r hr
      rcases List.mem_append.mp hr' with hr' | hr'
      · have hat : a.record_at = r'.1.record_at := (congrArg Prod.snd hperiod).symm.trans hkey
        exact hpair r r' ((congrArg Prod.fst hperiod).trans (hrows a ha r' hr' hat)) hkey
      · obtain ⟨b, hb, hperiod'⟩ := hof r' hr'
        have hat : a.record_at = b.record_at :=
          (congrArg Prod.snd hperiod).symm.trans (hkey.trans (congrArg Prod.snd hperiod'))
        rw [hperiod, hperiod', hruns a ha b hb hat, hat]

/-- **The statistics are kept per period** if and only if each start is of one type. -/
theorem aggregated_kept_per_period (rt : Runtime) (stat : StatTable) (runs : List Aggregation) :
    KeptPerPeriod rt stat runs ↔ OneTypePerStart rt stat runs := by
  have hrows : (∀ p, (aggregated rt stat runs).of p = lastFound rt stat.of runs p) ↔
      OneTypePerStart rt stat runs := by
    rw [aggregated_eq, lastFound_eq, ← oneFine_iff]
    exact Table.at?_foldl_put_iff fun _ => rfl
  refine ⟨fun h => hrows.mp h.1, fun h => ⟨hrows.mpr h, fun a _ item hrow hlast => ?_⟩⟩
  rw [Aggregation.after_eq, hrow]
  rw [← hrows.mpr h] at hlast
  -- the row is there already
  have hperiod := row?_period hrow
  have hget : (aggregated rt stat runs).get? a.record_at = some item :=
    (Table.at?_eq_some.mp hlast).1
  have hat : item.record_at = a.record_at := congrArg Prod.snd hperiod
  rw [← hat] at hget
  exact Table.put_eq_self hget

/-! ## §4. A month and its first day. -/

/-- 2024-01-01, and a user who has registered on that day. -/
def newYear : Int := 1704067200

def newYearSources : StatSources where
  orders := []
  commission_log := []
  users := [⟨newYear + 3600,
    { id := 1, email := "a@b.c", password := "p", token := "t", uuid := "u" }⟩]
  stat_server := []

def newYearRuns : List Aggregation :=
  [⟨"d", newYear, newYearSources⟩, ⟨"m", newYear, newYearSources⟩]

/-- **The month takes the row of its first day**, although the day has been aggregated. -/
theorem month_replaces_first_day :
    ¬ KeptPerPeriod Utc.bare Table.empty newYearRuns := by
  intro h
  have hday := h.1 ("d", newYear)
  have hlost : (aggregated Utc.bare Table.empty newYearRuns).of ("d", newYear) = none := by decide
  have hfound : (lastFound Utc.bare (StatTable.of Table.empty) newYearRuns
      ("d", newYear)).isSome = true := by decide
  rw [← hday, hlost] at hfound
  cases hfound

end PyBoard
