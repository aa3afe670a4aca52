/-
  PyBoard.Queues.Traffic — the traffic reports and the daily statistics of the queue jobs.

  `traffic_fetch` drops the entries of a report that it cannot read, and adds the others
  to the traffic cache.  A statistics job adds a report to the rows of its day: it reads
  the rows, adds in memory, and the flush updates the rows that were there and inserts the
  others.  No constraint of the tables names a row by its day and its node or user.
-/
import PyBoard.Queues.PgCache
import PyBoard.Services.Coupon

namespace PyBoard

open Relational

/-- A new row can be stored: `u` and `d` are BIGINT, the other numbers INTEGER, and the
    texts VARCHAR(11), VARCHAR(1) and VARCHAR(2). -/
def StatServer.fits (row : StatServer) : Bool :=
  integerFits row.server_id && decide (row.server_type.length ≤ 11) && fitsBigint row.u &&
    fitsBigint row.d && decide (row.record_type.length ≤ 1) && integerFits row.record_at

def StatUser.fits (row : StatUser) : Bool :=
  integerFits row.user_id && fitsBigint row.u && fitsBigint row.d &&
    decide (row.record_type.length ≤ 2) && integerFits row.record_at

/-- `item.u += upload`, `item.d += download`. -/
def StatServer.plus (item : StatServer) (upload download : Int) : StatServer :=
  { item with u := item.u + upload, d := item.d + download }

def StatUser.plus (item : StatUser) (upload download : Int) : StatUser :=
  { item with u := item.u + upload, d := item.d + download }

namespace Queues

variable (rt : Runtime)

/-- `except (TypeError, ValueError, IndexError, KeyError)`. -/
def isSkipped : PyExc → Bool
  | .value _ => true
  | .other name => name = "TypeError" || name = "IndexError" || name = "KeyError"
  | .app .. => false

/-- `value[i]`. -/
def subscript (value : Json) (i : Nat) : Except PyExc Json :=
  match value with
  | .arr items =>
      match items[i]? with
      | some item => .ok item
      | none => .error (.other "IndexError")
  | .str s =>
      match s.toList[i]? with
      | some c => .ok (.str (String.singleton c))
      | none => .error (.other "IndexError")
  | _ => .error (.other "TypeError")

/-- Upload and download of an entry. -/
def normalizeValue (value : Json) : Except PyExc (Int × Int) :=
  match value with
  | .obj fields => do
      let upload ← CouponService.intOfItem rt
        ((Json.lookup fields "u").getD ((Json.lookup fields "upload").getD (.int 0)))
      let download ← CouponService.intOfItem rt
        ((Json.lookup fields "d").getD ((Json.lookup fields "download").getD (.int 0)))
      return (upload, download)
  | value => do
      let upload ← CouponService.intOfItem rt (← subscript value 0)
      let download ← CouponService.intOfItem rt (← subscript value 1)
      return (upload, download)

/-- One round of the loop of `_normalize_traffic_data`. -/
def normalizeEntry (traffic : TrafficReport) (entry : String × Json) :
    Except PyExc TrafficReport :=
  match rt.int_of_str entry.1 with
  | none => .ok traffic
  | some user_id =>
    match normalizeValue rt entry.2 with
    | .ok value => .ok (traffic.set user_id value)
    | .error e => if isSkipped e then .ok traffic else .error e

/-- `_normalize_traffic_data`. -/
def normalizeTrafficData (data : JsonDict) : Except PyExc TrafficReport :=
  data.foldlM (normalizeEntry rt) ⟨[], List.nodup_nil⟩

/-- `_decimal_rate`. -/
def decimalRate (value : Json) : Decimal :=
  (rt.decimal_of_str (rt.str value)).getD (.ofInt 1)

/-- 累计用户实时流量. -/
def trafficFetch (data server : JsonDict) : Db Unit := do
  let traffic ← liftExcept (normalizeTrafficData rt data)
  if traffic.items.isEmpty then return ()
  else incrementTrafficCache traffic (decimalRate rt ((Json.lookup server "rate").getD (.int 1)))

/-- `_today_timestamp`. -/
def todayTimestamp : Db Int := do
  let now ← time
  return now - now % 86400

/-- The rows that `_record_stat_user` changes, as read and as changed. -/
def statUserUpdates (traffic : TrafficReport) (existing : Int → Option StatUser) :
    List (StatUser × StatUser) :=
  traffic.items.filterMap fun (user_id, upload, download) =>
    (existing user_id).map fun item => (item, item.plus upload download)

/-- The rows that `_record_stat_user` adds. -/
def statUserInserts (traffic : TrafficReport) (existing : Int → Option StatUser)
    (row : Int → Int → Int → StatUser) : List StatUser :=
  traffic.items.filterMap fun (user_id, upload, download) =>
    match existing user_id with
    | some _ => none
    | none => some (row user_id upload download)

/-- The UPDATE of a row, when its new sums fit. -/
def updateStatUser (old new : StatUser) : Db Unit :=
  if fitsBigint new.u && fitsBigint new.d then save .stat_user old new
  else Prog.throw (.other "DBAPIError")

def updateStatServer (old new : StatServer) : Db Unit :=
  if fitsBigint new.u && fitsBigint new.d then save .stat_server old new
  else Prog.throw (.other "DBAPIError")

/-- The INSERT of a row, when it can be stored. -/
def insertStatUser (row : StatUser) : Db Unit :=
  if row.fits then create .stat_user row else Prog.throw (.other "DBAPIError")

def insertStatServer (row : StatServer) : Db Unit :=
  if row.fits then create .stat_server row else Prog.throw (.other "DBAPIError")

/-- `_record_stat_user`.  The flush updates rows in the order of their primary keys, and then
    inserts; a new row of a user draws the identifier `ids user_id`.  The answer is the
    local `record_at`. -/
def recordStatUser (traffic : TrafficReport) (rate : PyFloat) (record_type : String)
    (ids : Int → Int) : Db Int := do
  let record_at ← todayTimestamp
  let user_ids := traffic.items.map Prod.fst
  liftExcept (bindIntegers (record_at :: user_ids) 1)
  let rows ← Prog.select Tbl.stat_user fun (r : StatUser) =>
    r.record_at = record_at && r.server_rate = rate && r.user_id ∈ user_ids
  let existing := fun user_id => rows.reverse.find? fun (r : StatUser) => r.user_id = user_id
  let updates := (statUserUpdates traffic existing).insertionSort fun p q => p.1.id ≤ q.1.id
  Prog.forEach updates fun (old, new) => whenever (old ≠ new) (updateStatUser old new)
  let inserts := statUserInserts traffic existing fun user_id upload download =>
    { id := ids user_id, user_id := user_id, server_rate := rate, u := upload, d := download,
      record_type := record_type, record_at := record_at }
  Prog.forEach inserts insertStatUser
  return record_at

/-- `_record_stat_server`.  A new row draws the identifier `id`.  The answer is the local
    `record_at`. -/
def recordStatServer (server_id : Int) (protocol : String) (traffic : TrafficReport)
    (record_type : String) (id : Int) : Db Int := do
  let record_at ← todayTimestamp
  let upload := (traffic.items.map fun item => item.2.1).sum
  let download := (traffic.items.map fun item => item.2.2).sum
  liftExcept (bindIntegers [record_at, server_id] 1)
  let rows ← Prog.select Tbl.stat_server fun (r : StatServer) =>
    r.record_at = record_at && r.server_id = server_id && r.server_type = protocol
  match ← scalarOneOrNone rows with
  | some (item : StatServer) =>
    let new := item.plus upload download
    whenever (item ≠ new) (updateStatServer item new)
    return record_at
  | none =>
    insertStatServer { id := id, server_id := server_id, server_type := protocol, u := upload,
                       d := download, record_type := record_type, record_at := record_at }
    return record_at

/-- 累计用户维度统计.  The answer is the day that the job counts for. -/
def statUser (traffic : TrafficReport) (rate : PyFloat) (record_type : String)
    (ids : Int → Int) : Db (Option Int) := do
  if traffic.items.isEmpty then return none
  else
    let record_at ← recordStatUser traffic rate record_type ids
    return some record_at

/-- 累计节点维度统计.  The answer is the day that the job counts for. -/
def statServer (server_id : Int) (protocol : String) (traffic : TrafficReport)
    (record_type : String) (id : Int) : Db (Option Int) := do
  if traffic.items.isEmpty then return none
  else
    let record_at ← recordStatServer server_id protocol traffic record_type id
    return some record_at

end Queues

/-- The jobs of the daily statistics. -/
inductive StatJob
  | stat_user (traffic : TrafficReport) (rate : PyFloat) (record_type : String) (ids : Int → Int)
  | stat_server (server_id : Int) (protocol : String) (traffic : TrafficReport)
      (record_type : String) (id : Int)

/-- **The transaction of a job.** -/
def StatJob.prog : StatJob → Db (Option Int)
  | .stat_user traffic rate record_type ids => Queues.statUser traffic rate record_type ids
  | .stat_server server_id protocol traffic record_type id =>
      Queues.statServer server_id protocol traffic record_type id

end PyBoard
