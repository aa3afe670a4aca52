/-
  PyBoard.Services.AdminTools — retrying a failed queue job.

  `retry_job` reads the payload of a row of `failed_jobs`, puts the job into the queue
  again and deletes the row.  §1 is what is enqueued.

  §2 are the requests that retry.  `enqueue_job` has a session of its own and commits it;
  the DELETE belongs to the transaction of the request, which commits when the handler has
  returned.  A DELETE waits while another transaction has deleted the row and is open, and
  finds no row when that one commits; SQLAlchemy only warns then.
-/
import PyBoard.Queues.Worker
import PyBoard.Relational.Clients
import PyBoard.Services.Coupon

namespace PyBoard.FailedJobService

open Relational Queues

variable (rt : Runtime)

/-! ## §1. What is enqueued again. -/

/-- `fields.setdefault(key, value)`. -/
def setdefault (fields : JsonDict) (key : String) (value : Json) : JsonDict :=
  if (Json.lookup fields key).isSome then fields else fields ++ [(key, value)]

/-- The call `queue.enqueue_job(job_name, *args, **enqueue_kwargs)`. -/
structure RetryCall where
  job_name : Json
  args : List Json
  enqueue_kwargs : JsonDict

def invalidPayload : PyExc := BadRequestException "失败任务载荷不是有效 JSON，无法重试"

/-- The payload as a dict; a text is decoded first. -/
def payloadDict (payload : Json) : Except PyExc JsonDict := do
  let payload ← match payload with
    | .str text => match rt.orjson_loads text with
        | some payload => pure payload
        | none => throw invalidPayload
    | payload => pure payload
  match payload with
  | .obj fields => return fields
  | _ => throw invalidPayload

def retry_job (item : FailedJob) : Except PyExc RetryCall := do
  let payload ← payloadDict rt item.payload
  let job_name := (Json.lookup payload "job_name").getD .null
  let args := (Json.lookup payload "args").getD (.arr [])
  let kwargs := (Json.lookup payload "kwargs").getD (.obj [])
  if !job_name.truthy then
    throw (BadRequestException "失败任务缺少 job_name，无法重试")
  match args, kwargs with
  | .arr args, .obj kwargs =>
      return ⟨job_name, args, setdefault kwargs "_queue_name" (.str item.queue)⟩
  | _, _ => throw (BadRequestException "失败任务参数格式无效，无法重试")

/-- **A row that `record_failed_job` added can be retried**: the job is enqueued again
    under its name, with its arguments and on its queue. -/
theorem retry_failedJob (job : Queues.ClaimedJob) (hname : job.job_name ≠ "") (id : Int)
    (exc failed_at : String) :
    retry_job rt (Queues.failedJob job id exc failed_at)
      = .ok ⟨.str job.job_name, job.args, setdefault job.kwargs "_queue_name"
        (.str job.queue)⟩ := by
  have htruthy : (Json.str job.job_name).truthy = true := by simpa [Json.truthy] using hname
  simp [retry_job, payloadDict, Queues.failedJob, Json.lookup, htruthy, pure, Except.pure, bind,
    Except.bind]

/-- `float(value)`. -/
def floatOf : Json → Except PyExc PyFloat
  | .int i =>
      match PyFloat.ofRat i with
      | .finite q => .ok (.finite q)
      | _ => .error (.other "OverflowError")
  | .bool b => .ok (.finite (if b then 1 else 0))
  | .float x => .ok x
  | .str s =>
      match rt.float_of_str s with
      | some x => .ok x
      | none => .error (.value "could not convert string to float")
  | _ => .error (.other "TypeError")

/-- `_scheduled_at`, when `time.time()` is `now`.  A JSON value has no `timestamp`. -/
def scheduledAt (kwargs : JsonDict) (now : PyFloat) : Except PyExc Int :=
  match (Json.lookup kwargs "_defer_until").getD .null with
  | .null =>
      match (Json.lookup kwargs "_defer_by").getD .null with
      | .null => now.toInt
      | defer_by => do
          let delay ← floatOf rt defer_by
          (PyFloat.add now delay).toInt
  | defer_until => CouponService.intOfItem rt defer_until

/-- `kwargs` after `enqueue_job` has popped its options. -/
def withoutOptions (kwargs : JsonDict) : JsonDict :=
  kwargs.filter fun field =>
    field.1 ∉ ["_queue_name", "_job_id", "_defer_until", "_defer_by"]

/-- What `enqueue_job` puts into the queue.  A keyword that names one of its own parameters,
    and a name that is no text, raise. -/
def RetryCall.enqueued (call : RetryCall) (now : PyFloat) : Except PyExc EnqueueCall := do
  let kwargs := call.enqueue_kwargs
  if (Json.lookup kwargs "self").isSome || (Json.lookup kwargs "job_name").isSome then
    throw (.other "TypeError")
  let job_key := (Json.lookup kwargs "_job_id").getD .null
  let scheduled_at ← scheduledAt rt kwargs now
  match call.job_name with
  | .str job_name =>
      return { queue := rt.str ((Json.lookup kwargs "_queue_name").getD .null)
               job_name := job_name
               job_key := if job_key.truthy then some (rt.str job_key) else none
               args := call.args
               kwargs := withoutOptions kwargs
               scheduled_at := scheduled_at }
  | _ => throw (.other "DBAPIError")

/-! ## §2. The requests. -/

/-- Where a `retry_job` stands. -/
inductive RetryPhase
  /-- In `enqueue_job`. -/
  | enqueueing (call : RetryCall)
  /-- Before its DELETE. -/
  | deleting
  /-- The DELETE is done, with or without a row; the transaction is open. -/
  | deleted (found : Bool)
  | over

/-- A retry request: the row that it has read, and the job that it put into the queue. -/
structure RetryRequest where
  item : FailedJob
  phase : RetryPhase
  job : Option Int

/-- `get_by_id`, and the checks of the payload.  A request that finds no row, or a payload
    that is not valid, is over. -/
def readItem (q : QueueState) (job_id : Int) : Option RetryRequest :=
  (q.failed_jobs.get? job_id).map fun item =>
    match retry_job rt item with
    | .ok call => ⟨item, .enqueueing call, none⟩
    | .error _ => ⟨item, .over, none⟩

inductive RetryAct
  /-- With the time that it reads, the id that the INSERT draws, and how it ends. -/
  | enqueue_job (now : PyFloat) (id : Int) (outcome : Outcome)
  | delete
  /-- The handler has returned. -/
  | commit
  /-- An exception leaves the request. -/
  | rollback

/-- The request holds the lock of its deleted row. -/
def RetryRequest.locks (r : RetryRequest) (job_id : Int) : Bool :=
  match r.phase with
  | .deleted found => found && r.item.id = job_id
  | _ => false

/-- The rest of the request when `enqueue_job` has ended. -/
def RetryRequest.next (r : RetryRequest) (outcome : Outcome) : RetryRequest :=
  match outcome with
  | .committed => { r with phase := .deleting }
  | .lost | .rolledBack => { r with phase := .over }

/-- The INSERT of `enqueue_job`.  It returns the id, or nothing when the key is taken. -/
def RetryRequest.insert (settings : QueueSettings) (q : QueueState) (r : RetryRequest)
    (c : EnqueueCall) (id : Int) (outcome : Outcome) : Option (QueueState × RetryRequest) :=
  if outcome = .rolledBack then some (q, r.next .rolledBack)
  else do
    let q' ← (queue settings).step q (.enqueue_job id c)
    let job := if (q'.jobs.get? id).isSome then some id else none
    return (q', { r with job := job }.next outcome)

def RetryRequest.act (settings : QueueSettings) (q : QueueState) (rs : List RetryRequest)
    (r : RetryRequest) : RetryAct → Option (QueueState × RetryRequest)
  | .enqueue_job now id outcome =>
      match r.phase with
      | .enqueueing call =>
          match call.enqueued rt now with
          | .error _ => some (q, r.next .rolledBack)
          | .ok c => r.insert settings q c id outcome
      | _ => none
  | .delete =>
      match r.phase with
      | .deleting =>
          if rs.any fun other => other.locks r.item.id then none
          else some (q, { r with phase := .deleted (q.failed_jobs.get? r.item.id).isSome })
      | _ => none
  | .commit =>
      match r.phase with
      | .deleted true => do
          let q' ← (queue settings).step q (.discard r.item.id)
          return (q', { r with phase := .over })
      | .deleted false => some (q, { r with phase := .over })
      | _ => none
  | .rollback =>
      match r.phase with
      | .over => none
      | _ => some (q, { r with phase := .over })

/-- The event may happen beside the requests: nothing else deletes a row, and a new row of
    `failed_jobs` does not get the id of one that a request has read. -/
def beside (rs : List RetryRequest) : QueueEvent → Bool
  | .discard _ => false
  | .task _ (.record_failed_job id _ _) => rs.all fun r => r.item.id ≠ id
  | _ => true

/-- The retries of any failed jobs, beside any other steps of the queue. -/
def retries (settings : QueueSettings) :
    Service QueueState QueueEvent RetryRequest Int RetryAct where
  base := queue settings
  admits := beside
  arrive := readItem rt
  act := RetryRequest.act rt settings

end PyBoard.FailedJobService
