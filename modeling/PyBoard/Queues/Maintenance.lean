/-
  PyBoard.Queues.Maintenance — the scan for open orders.

  `check_order` runs as a job of the queue, every minute.  It enqueues one
  `order_handle` job for each open order, under a key that names the order.  Each
  INSERT is a transaction of its own and draws an id and a time.
-/
import PyBoard.Queues.Order
import PyBoard.Queues.Worker

namespace PyBoard.Queues

open Relational

/-- `select(Order).where(Order.status.in_([0, 1])).order_by(Order.created_at.asc())`. -/
def openOrders (db : Database) : List Order :=
  ((db .orders).rows.filter fun o : Order => o.status = 0 || o.status = 1).insertionSort
    fun a b : Order => a.created_at ≤ b.created_at

/-- `_job_id=f"order_handle:{order.trade_no}"`. -/
def orderHandleKey (trade_no : String) : String := "order_handle:" ++ trade_no

def orderHandleCall (trade_no : String) (scheduled_at : Int) : EnqueueCall where
  queue := QUEUE_ORDER_HANDLE
  job_name := "order_handle"
  job_key := some (orderHandleKey trade_no)
  args := [.str trade_no]
  kwargs := []
  scheduled_at := scheduled_at

/-- The loop of `check_order`. -/
def enqueueOrders (settings : QueueSettings) :
    QueueState → List Order → List (Int × Int) → Option QueueState
  | s, [], _ => some s
  | s, o :: orders, (id, now) :: draws => do
      let s ← enqueue_job settings s id (orderHandleCall o.trade_no now)
      enqueueOrders settings s orders draws
  | _, _ :: _, [] => none

/-- 扫描待处理订单并投递 order_handle。 -/
def check_order (settings : QueueSettings) (s : QueueState) (db : Database)
    (draws : List (Int × Int)) : Option QueueState :=
  enqueueOrders settings s (openOrders db) draws

/-- The `order_handle` jobs that wait in the queue. -/
def queuedOrderJobs (s : QueueState) : List QueueJob :=
  s.jobs.rows.filter fun r => r.status = .pending && r.job_name = "order_handle"

/-- Run jobs one after the other, each at the time it draws; `none` if one of them
    raises. -/
def runOrderJobs (rt : Runtime) : Database → List QueueJob → List (Int × Fresh) → Option Database
  | db, [], _ => some db
  | db, job :: jobs, (now, fresh) :: draws =>
      match job.args, job.kwargs with
      | [.str trade_no], [] =>
          match (orderHandle rt fresh trade_no).run ⟨db, now⟩ Session.fresh with
          | (.ok _, ss) => runOrderJobs rt ((⟨db, now⟩ : State Tbl).commit ss).db jobs draws
          | (.error _, _) => none
      | _, _ => none
  | _, _ :: _, [] => none

end PyBoard.Queues
