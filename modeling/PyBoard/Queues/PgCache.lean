/-
  PyBoard.Queues.PgCache — the traffic cache of the queue jobs.

  The nodes report into the rows of the stage `active`.  A flush moves them to the
  stage `processing`, adds them to the users and deletes them, all in one
  transaction that holds an advisory lock.  A transaction draws whether it gets that
  lock; the draw is right in every run.
-/
import Mathlib.Data.List.Sort
import PyBoard.Relational.Bulk
import PyBoard.Repositories.Queries

namespace PyBoard

open Relational

/-- A report: upload and download of each user. -/
structure TrafficReport where
  items : List (Int × Int × Int)
  nodup : (items.map Prod.fst).Nodup

/-- Replacing entries keeps the users. -/
theorem map_fst_replace (items : List (Int × Int × Int)) (user_id : Int) (value : Int × Int) :
    (items.map fun item => if item.1 = user_id then (user_id, value) else item).map Prod.fst
      = items.map Prod.fst := by
  rw [List.map_map]
  refine List.map_congr_left fun item _ => ?_
  by_cases h : item.1 = user_id <;> simp [h]

/-- The report with one entry more; an entry for the same user is replaced. -/
def TrafficReport.set (traffic : TrafficReport) (user_id : Int) (value : Int × Int) :
    TrafficReport where
  items :=
    if user_id ∈ traffic.items.map Prod.fst then
      traffic.items.map fun item => if item.1 = user_id then (user_id, value) else item
    else traffic.items ++ [(user_id, value)]
  nodup := by
    split
    · rw [map_fst_replace]
      exact traffic.nodup
    · next hnew =>
      rw [List.map_append, List.nodup_append]
      refine ⟨traffic.nodup, List.nodup_singleton _, fun a ha b hb heq => hnew ?_⟩
      have hb' : b = user_id := List.mem_singleton.mp hb
      rw [← hb', ← heq]
      exact ha

/-- The row can be stored. -/
def TrafficCacheRow.fits (row : TrafficCacheRow) : Bool :=
  fitsBigint row.user_id && fitsBigint row.u && fitsBigint row.d

/-- The row of a conflict, after `DO UPDATE`. -/
def TrafficCacheRow.plus (row cur : TrafficCacheRow) : TrafficCacheRow :=
  { cur with u := cur.u + row.u, d := cur.d + row.d }

namespace Queues

def TRAFFIC_UPDATE_LOCK_KEY : Int := 9203202601

def cacheExists (key : String) : Db Bool := do
  let now ← time
  let rows ← Prog.select Tbl.runtime_cache fun (r : RuntimeCacheRow) =>
    r.key = key && (match r.expires_at with
      | none => true
      | some expires_at => expires_at > now)
  return !rows.isEmpty

/-- The row that a report adds for one user. -/
def incrementRow (rate : Decimal) (item : Int × Int × Int) : Except PyExc TrafficCacheRow := do
  let (user_id, upload, download) := item
  let u ← Decimal.scaled upload rate
  let d ← Decimal.scaled download rate
  return { stage := .active, user_id := user_id, u := u, d := d }

def incrementRows (traffic : TrafficReport) (rate : Decimal) :
    Except PyExc (List TrafficCacheRow) :=
  traffic.items.mapM (incrementRow rate)

/-- `ON CONFLICT (stage, user_id) DO UPDATE` for one row. -/
def upsertRow (row : TrafficCacheRow) : Db Unit := do
  let row' ← Prog.upsert Tbl.traffic_cache row (TrafficCacheRow.plus row)
  if TrafficCacheRow.fits row' then return () else Prog.throw (.other "DBAPIError")

/-- All rows are in one statement: a number that does not fit its column, in the report or
    after the addition, makes it fail. -/
def incrementTrafficCache (traffic : TrafficReport) (rate : Decimal) : Db Unit := do
  let rows ← liftExcept (incrementRows traffic rate)
  if rows.all TrafficCacheRow.fits then
    Prog.forEach rows upsertRow
  else Prog.throw (.other "DBAPIError")

/-- `UPDATE traffic_cache SET stage = 'processing' WHERE stage = 'active'`: the stage is
    in the primary key, so the row is removed under one key and added under the other. -/
def moveToProcessing : Db Unit := do
  let rows ← Prog.select Tbl.traffic_cache fun (r : TrafficCacheRow) => r.stage = .active
  Prog.forEach rows (Prog.relock Tbl.traffic_cache
    (fun (r : TrafficCacheRow) => r.stage = .active) fun cur => do
      let _deleted ← Prog.delete Tbl.traffic_cache (TrafficCacheRow.key cur)
      create .traffic_cache { cur with stage := .processing })

/-- The user after the traffic of a row. -/
def credit (rows : List TrafficCacheRow) (now : Int) (user : User) : User :=
  match rows.find? fun r => r.user_id = user.id with
  | some r => { user with u := user.u + r.u, d := user.d + r.d, t := now }
  | none => user

/-- `UPDATE users … FROM traffic WHERE users.id = traffic.user_id`. -/
def applyProcessingTraffic (rows : List TrafficCacheRow) : Db Unit := do
  let now ← time
  Prog.updateWhere Tbl.users (fun (user : User) => rows.any fun r => r.user_id = user.id)
    (credit rows now)

/-- The second half of a flush: what is in the stage `processing` goes to the users. -/
def flushProcessing : Db Bool := do
  let rows ← Prog.select Tbl.traffic_cache fun (r : TrafficCacheRow) => r.stage = .processing
  let rows := rows.insertionSort fun a b => a.user_id ≤ b.user_id
  if rows.isEmpty then
    return true
  else
    applyProcessingTraffic rows
    Prog.deleteWhere Tbl.traffic_cache fun (r : TrafficCacheRow) => r.stage = .processing
    return true

/-- Flush cached traffic to users atomically. -/
def flushTrafficCacheToUsers (granted : Bool) : Db Bool := do
  if ← Prog.tryLock Tbl.advisory_lock TRAFFIC_UPDATE_LOCK_KEY granted then
    if ← cacheExists "traffic_reset_lock" then
      return false
    else
      let processing ← Prog.select Tbl.traffic_cache fun (r : TrafficCacheRow) =>
        r.stage = .processing
      whenever (processing.length = 0) moveToProcessing
      flushProcessing
  else
    return false

/-- 把缓存中的累计流量原子落库到用户。 -/
def trafficUpdate (granted : Bool) : Db Unit := do
  let _flushed ← flushTrafficCacheToUsers granted
  return ()

end Queues

/-- The transactions on the traffic cache. -/
inductive TrafficCall
  | increment (traffic : TrafficReport) (rate : Decimal)
  | trafficUpdate (granted : Bool)

/-- **The transaction of a call.** -/
def TrafficCall.prog : TrafficCall → Db Unit
  | .increment traffic rate => Queues.incrementTrafficCache traffic rate
  | .trafficUpdate granted => Queues.trafficUpdate granted

end PyBoard
