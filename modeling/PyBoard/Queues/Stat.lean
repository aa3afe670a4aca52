/-
  PyBoard.Queues.Stat — the aggregation of the site statistics.

  `aggregate_stats` runs as a job of the queue.  It reads what the tables of its period
  add up to and writes one row of the table `stat`, which it looks for by the start of
  the period alone.  The run is one transaction: one that raises writes nothing.
-/
import PyBoard.Queues.PgCache

namespace PyBoard

open Relational

/-! ## §1. The tables. -/

/-- A row with its column `created_at`. -/
structure Dated (ρ : Type) where
  created_at : Int
  row : ρ

/-- What an aggregation reads. -/
structure StatSources where
  orders : List Order
  commission_log : List (Dated CommissionLog)
  users : List (Dated User)
  stat_server : List (Dated StatServer)

/-- The figures of a period. -/
structure StatData where
  order_count : Int
  order_total : Int
  commission_count : Int
  commission_total : Int
  paid_count : Int
  paid_total : Int
  register_count : Int
  invite_count : Int
  transfer_used_total : String
  deriving DecidableEq

/-- 订单统计表 `stat`: the columns of a row. -/
structure StatColumns extends StatData where
  record_at : Int
  record_type : String
  deriving DecidableEq

/-- The row can be stored: the counts, the totals and `record_at` are INTEGER,
    `record_type` is VARCHAR(1) and `transfer_used_total` VARCHAR(32). -/
def StatColumns.fits (item : StatColumns) : Bool :=
  [item.record_at, item.order_count, item.order_total, item.commission_count,
    item.commission_total, item.paid_count, item.paid_total, item.register_count,
    item.invite_count].all integerFits &&
  decide (item.record_type.length ≤ 1) && decide (item.transfer_used_total.length ≤ 32)

/-- A row of the table `stat`. -/
abbrev Stat := { item : StatColumns // item.fits = true }

/-- The column of the constraint `uq_stat_record_at`. -/
def Stat.record_at (item : Stat) : Int := item.1.record_at

/-- The table `stat`. -/
abbrev StatTable := Table Stat.record_at

namespace Queues

/-! ## §2. The figures. -/

/-- `select(func.count()).select_from(model).where(*filters)`. -/
def count {ρ : Type} (rows : List ρ) (filters : ρ → Bool) : Int := (rows.filter filters).length

/-- `select(func.coalesce(func.sum(column), 0)).where(*filters)`. -/
def sum {ρ : Type} (rows : List ρ) (column : ρ → Int) (filters : ρ → Bool) : Int :=
  ((rows.filter filters).map column).sum

/-- `column >= start_at, column < end_at`. -/
def within (start_at end_at t : Int) : Bool := start_at ≤ t && t < end_at

/-- `Order.paid_at >= start_at, Order.paid_at < end_at, Order.status.notin_([0, 2])`. -/
def paidFilter (start_at end_at : Int) (o : Order) : Bool :=
  match o.paid_at with
  | none => false
  | some paid_at => within start_at end_at paid_at && !(o.status = 0 || o.status = 2)

/-- `created_at >= start_at, created_at < end_at`. -/
def createdWithin {ρ : Type} (start_at end_at : Int) (r : Dated ρ) : Bool :=
  within start_at end_at r.created_at

/-- `StatServer.u + StatServer.d`. -/
def transfer (r : Dated StatServer) : Int := r.row.u + r.row.d

/-- `_generate_stat_data`.  `paid_at` is an INTEGER column, so the driver encodes its
    bounds as such, and `u + d` is computed in BIGINT. -/
def generateStatData (db : StatSources) (start_at end_at : Int) : Except PyExc StatData :=
  if !(integerFits start_at && integerFits end_at) then .error (.other "DBAPIError")
  else if (db.stat_server.filter (createdWithin start_at end_at)).any
      fun r => !fitsBigint (transfer r) then
    .error (.other "DBAPIError")
  else .ok {
    order_count := count db.orders fun o => within start_at end_at o.created_at
    order_total := sum db.orders (fun o => o.total_amount) fun o =>
      within start_at end_at o.created_at
    commission_count := count db.commission_log (createdWithin start_at end_at)
    commission_total := sum db.commission_log (fun r => r.row.get_amount)
      (createdWithin start_at end_at)
    paid_count := count db.orders (paidFilter start_at end_at)
    paid_total := sum db.orders (fun o => o.total_amount) (paidFilter start_at end_at)
    register_count := count db.users (createdWithin start_at end_at)
    invite_count := count db.users fun r =>
      createdWithin start_at end_at r && r.row.invite_user_id.isSome
    transfer_used_total :=
      toString (sum db.stat_server transfer (createdWithin start_at end_at)) }

/-- `_range_end`. -/
def rangeEnd (rt : Runtime) (start_at : Int) (record_type : String) : Except PyExc Int :=
  match rt.fromtimestamp start_at with
  | none => .error (.other "OverflowError")
  | some current =>
      if record_type = "m" then .ok (start_at + monthrange current.year current.month * 86400)
      else .ok (start_at + 86400)

/-! ## §3. The job. -/

/-- The INSERT or UPDATE of a row. -/
def storedStat (item : StatColumns) : Except PyExc Stat :=
  if h : item.fits = true then .ok ⟨item, h⟩ else .error (.other "DBAPIError")

/-- `aggregate_stats`, up to the commit. -/
def aggregateStats (rt : Runtime) (db : StatSources) (record_type : String) (record_at : Int)
    (stat : StatTable) : Except PyExc StatTable := do
  let end_at ← rangeEnd rt record_at record_type
  let data ← generateStatData db record_at end_at
  match stat.get? record_at with
  | none =>
      let item ← storedStat { data with record_at := record_at, record_type := record_type }
      .ok (stat.put item)
  | some item =>
      let item ← storedStat { data with record_at := item.record_at, record_type := record_type }
      .ok (stat.put item)

/-- A run of the job and what its source tables hold. -/
structure Aggregation where
  record_type : String
  record_at : Int
  db : StatSources

/-- The table after a run of the job: one that raises has been rolled back. -/
def Aggregation.after (rt : Runtime) (stat : StatTable) (a : Aggregation) : StatTable :=
  match aggregateStats rt a.db a.record_type a.record_at stat with
  | .ok stat => stat
  | .error _ => stat

end Queues

end PyBoard
