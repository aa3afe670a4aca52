/-
  PyBoard.Queues.Worker — the PostgreSQL queue and its workers.

  Every transaction of the queue is one statement, so it is one step here: an INSERT
  into `queue_job`, the UPDATE of `claim_jobs`, the UPDATE of `finish_job`, the UPDATE
  of `fail_job`, the INSERT of `record_failed_job`.  Between two of them a worker may
  stop, and each one that marks a job may raise, before or after it commits.

    • `claim_jobs` passes over any set of rows (SKIP LOCKED, and rows that its
      snapshot does not show) and takes the first of the others,
    • the jobs of one claim are `gather`ed: their steps interleave, the worker claims
      again when all of them are over, and never after an exception left one of them,
    • a clock is read where the source reads it, and clocks need not agree.

  `history` is what happened to each job.  No step reads it.
-/
import Mathlib.Data.List.Sort
import PyBoard.Relational.Machine
import PyBoard.Relational.Table
import PyBoard.Models.Entities

namespace PyBoard.Queues

open Relational

/-! ## §1. Settings and rows. -/

/-- The settings of the queue. -/
structure QueueSettings where
  queue_default_name : String := "default"
  /-- Worker 最大并发任务数 -/
  queue_max_jobs : Nat := 20
  /-- 任务最大重试次数 -/
  queue_max_tries : Int := 3
  /-- 失败后是否重试 -/
  queue_retry_jobs : Bool := true

def JOB_REGISTRY : List String :=
  ["send_mail", "send_telegram", "order_handle", "calc_commission", "aggregate_stats",
    "traffic_update", "check_order", "aggregate_yesterday_stats", "cleanup_log_events",
    "traffic_fetch", "stat_user", "stat_server"]

/-- What a caller puts into the queue, the options `_queue_name`, `_job_id`,
    `_defer_until` and `_defer_by` taken out of `kwargs`. -/
structure EnqueueCall where
  queue : String
  job_name : String
  job_key : Option String
  args : List Json
  kwargs : JsonDict
  scheduled_at : Int

/-- The row of a call. -/
def EnqueueCall.row (call : EnqueueCall) (id max_tries : Int) : QueueJob where
  id := id
  queue := call.queue
  job_name := call.job_name
  job_key := call.job_key
  args := call.args
  kwargs := call.kwargs
  status := .pending
  attempts := 0
  max_tries := max_tries
  scheduled_at := call.scheduled_at

@[simp]
theorem EnqueueCall.row_id (call : EnqueueCall) (id max_tries : Int) :
    (call.row id max_tries).id = id := rfl

/-- The columns that `claim_jobs` returns: `run_job` works on this copy of the row. -/
structure ClaimedJob where
  id : Int
  queue : String
  job_name : String
  args : List Json
  kwargs : JsonDict
  attempts : Int
  max_tries : Int

/-- `RETURNING job.id, job.queue, …, job.max_tries`. -/
def claimedRow (row : QueueJob) : ClaimedJob where
  id := row.id
  queue := row.queue
  job_name := row.job_name
  args := row.args
  kwargs := row.kwargs
  attempts := row.attempts
  max_tries := row.max_tries

/-- `int(job.get("max_tries") or settings.queue_max_tries)`. -/
def maxTries (settings : QueueSettings) (max_tries : Int) : Int :=
  if max_tries ≠ 0 then max_tries else settings.queue_max_tries

def QUEUE_DEFAULT : String := "default"
def QUEUE_ORDER_HANDLE : String := "order_handle"
def QUEUE_SEND_EMAIL : String := "send_email"
def QUEUE_SEND_TELEGRAM : String := "send_telegram"
def QUEUE_STAT : String := "stat"
def QUEUE_TRAFFIC_FETCH : String := "traffic_fetch"

def QUEUE_NAMES : List String :=
  [QUEUE_DEFAULT, QUEUE_ORDER_HANDLE, QUEUE_SEND_EMAIL, QUEUE_SEND_TELEGRAM,
    QUEUE_TRAFFIC_FETCH, QUEUE_STAT]

/-! ## §2. The assignments of the UPDATE statements. -/

def setRunning (now : Int) (row : QueueJob) : QueueJob :=
  { row with status := .running, attempts := row.attempts + 1, reserved_at := some now }

def setFinished (now : Int) (row : QueueJob) : QueueJob :=
  { row with status := .finished, finished_at := some now }

def setPending (scheduled_at : Int) (error : String) (row : QueueJob) : QueueJob :=
  { row with
    status := .pending
    reserved_at := none
    scheduled_at := scheduled_at
    last_error := some error }

def setFailed (now : Int) (error : String) (row : QueueJob) : QueueJob :=
  { row with status := .failed, failed_at := some now, last_error := some error }

@[simp]
theorem setRunning_id (now : Int) (row : QueueJob) : (setRunning now row).id = row.id := rfl

@[simp]
theorem setFinished_id (now : Int) (row : QueueJob) : (setFinished now row).id = row.id := rfl

@[simp]
theorem setPending_id (scheduled_at : Int) (error : String) (row : QueueJob) :
    (setPending scheduled_at error row).id = row.id := rfl

@[simp]
theorem setFailed_id (now : Int) (error : String) (row : QueueJob) :
    (setFailed now error row).id = row.id := rfl

/-- The row that `record_failed_job` adds. -/
def failedJob (job : ClaimedJob) (id : Int) (exc failed_at : String) : FailedJob where
  id := id
  connection := "postgresql"
  queue := job.queue
  payload := .obj
    [("job_id", .int job.id), ("job_name", .str job.job_name), ("args", .arr job.args),
      ("kwargs", .obj job.kwargs)]
  exception := exc
  failed_at := failed_at

/-! ## §3. Workers and their tasks. -/

/-- Where a `run_job` stands. -/
inductive TaskPhase
  /-- Handed over by `claim_jobs`. -/
  | claimed
  /-- In `await func(ctx, *args, **kwargs)`. -/
  | executing
  /-- In `finish_job`. -/
  | finishing
  /-- In the UPDATE of `fail_job`. -/
  | failing (exc : String) (retry : Bool)
  /-- In `record_failed_job`. -/
  | recording (exc : String)
  /-- An exception left it with the row still running. -/
  | abandoned
  /-- An exception left it with the row failed and not recorded. -/
  | unrecorded
  deriving DecidableEq

/-- A `run_job` of a worker. -/
structure Task where
  worker : Nat
  job : ClaimedJob
  phase : TaskPhase

/-- A worker is live until an exception leaves `run_worker` or it stops.  The other
    jobs of its batch may still take steps while an exception leaves. -/
inductive WorkerStatus
  | live
  | raised
  | stopped
  deriving DecidableEq

/-- A process in `run_worker`. -/
structure Worker where
  pid : Nat
  queues : List String
  status : WorkerStatus
  deriving DecidableEq

/-- What happened. -/
inductive Record
  | enqueued (row : QueueJob)
  | claimed (id now : Int)
  /-- `func` was called. -/
  | started (id : Int)
  /-- The job's name is not in `JOB_REGISTRY`. -/
  | unregistered (id : Int)
  | retried (id scheduled_at : Int)
  | recorded (id : Int) (row : FailedJob)
  /-- An administrator deleted a row of `failed_jobs`, or retried and so deleted it. -/
  | discarded (row : FailedJob)

/-- The job that a record is about. -/
def Record.job : Record → Option Int
  | .enqueued row => some row.id
  | .claimed id _ => some id
  | .started id => some id
  | .unregistered id => some id
  | .retried id _ => some id
  | .recorded id _ => some id
  | .discarded _ => none

/-- The tables of the queue, its workers and what happened, the last first. -/
structure QueueState where
  jobs : Table QueueJob.id
  failed_jobs : Table FailedJob.id
  workers : Table Worker.pid
  tasks : List Task
  history : List Record

/-- The queue before anything is put into it. -/
def QueueState.empty : QueueState := ⟨Table.empty, Table.empty, Table.empty, [], []⟩

/-- What happened to one job. -/
def QueueState.historyOf (s : QueueState) (id : Int) : List Record :=
  s.history.filter fun r => r.job = some id

def QueueState.note (s : QueueState) (r : Record) : QueueState :=
  { s with history := r :: s.history }

/-! ## §4. Putting jobs into the queue. -/

/-- `INSERT INTO queue_job … ON CONFLICT (job_key) DO NOTHING`. -/
def QueueState.insertJob (s : QueueState) (row : QueueJob) : Option QueueState :=
  if (s.jobs.get? row.id).isSome then none
  else if row.job_key.isSome && s.jobs.rows.any (fun r => r.job_key = row.job_key) then some s
  else some ({ s with jobs := s.jobs.put row }.note (.enqueued row))

def enqueue_job (settings : QueueSettings) (s : QueueState) (id : Int) (call : EnqueueCall) :
    Option QueueState :=
  s.insertJob (call.row id settings.queue_max_tries)

/-- The database function that pg_cron calls. -/
def pyboard_enqueue_queue_job (s : QueueState) (id : Int) (call : EnqueueCall) :
    Option QueueState :=
  s.insertJob (call.row id 3)

/-! ## §5. `claim_jobs`. -/

def claimable (queues : List String) (now : Int) (row : QueueJob) : Bool :=
  row.status = .pending && row.queue ∈ queues && row.scheduled_at ≤ now

/-- `ORDER BY scheduled_at ASC, id ASC`. -/
def scheduledBefore (a b : QueueJob) : Prop :=
  a.scheduled_at < b.scheduled_at ∨ a.scheduled_at = b.scheduled_at ∧ a.id ≤ b.id

instance : DecidableRel scheduledBefore := fun a b =>
  inferInstanceAs (Decidable (a.scheduled_at < b.scheduled_at ∨
    a.scheduled_at = b.scheduled_at ∧ a.id ≤ b.id))

/-- The subquery `picked`, when the rows in `skip` are locked. -/
def picked (jobs : Table QueueJob.id) (queues : List String) (now : Int) (limit : Nat)
    (skip : List Int) : List QueueJob :=
  ((((jobs.rows.filter (claimable queues now)).insertionSort scheduledBefore).filter
    fun row => row.id ∉ skip)).take limit

/-- The task of a claimed row. -/
def claimedTask (pid : Nat) (now : Int) (row : QueueJob) : Task where
  worker := pid
  job := claimedRow (setRunning now row)
  phase := .claimed

@[simp]
theorem claimedTask_id (pid : Nat) (now : Int) (row : QueueJob) :
    (claimedTask pid now row).job.id = row.id := rfl

def claim_jobs (settings : QueueSettings) (s : QueueState) (w : Worker) (now : Int)
    (skip : List Int) : QueueState :=
  let rows := picked s.jobs w.queues now settings.queue_max_jobs skip
  { s with
    jobs := s.jobs.update (fun r => r.id ∈ rows.map QueueJob.id) (setRunning now)
      (setRunning_id now)
    tasks := s.tasks ++ rows.map (claimedTask w.pid now)
    history := rows.map (fun r => .claimed r.id now) ++ s.history }

/-! ## §6. `run_job`, `finish_job`, `fail_job` and `record_failed_job`. -/

/-- How a transaction ends for the task that waits for it. -/
inductive Outcome
  | committed
  /-- Committed, but the task gets an exception. -/
  | lost
  /-- Rolled back, and the task gets an exception. -/
  | rolledBack
  deriving DecidableEq

/-- What a task does next. -/
inductive TaskEvent
  /-- It looks its function up and calls it. -/
  | call
  /-- The function returns, or raises an `Exception`. -/
  | returns
  | raises (exc : String)
  /-- The function raises another `BaseException`, such as `CancelledError`. -/
  | interrupted
  | finish_job (now : Int) (outcome : Outcome)
  | fail_job (now : Int) (outcome : Outcome)
  | record_failed_job (id : Int) (failed_at : String) (outcome : Outcome)

/-- What a step of a task leaves: the tables, where the task stands (`none` is past its
    end) and whether an exception leaves the task. -/
structure TaskStep where
  state : QueueState
  phase : Option TaskPhase
  escapes : Bool

/-- `UPDATE queue_job SET … WHERE id = :job_id`. -/
def QueueState.setJob (s : QueueState) (id : Int) (f : QueueJob → QueueJob)
    (hf : ∀ r, (f r).id = r.id) : QueueState :=
  { s with jobs := s.jobs.update (fun r => r.id = id) f hf }

/-- A transaction from `s` to `done`.  The task goes on with `next`; an exception leaves
    it with `raised` when the transaction committed, else with `kept`. -/
def transaction (outcome : Outcome) (s done : QueueState) (next raised kept : Option TaskPhase) :
    TaskStep :=
  match outcome with
  | .committed => ⟨done, next, false⟩
  | .lost => ⟨done, raised, true⟩
  | .rolledBack => ⟨s, kept, true⟩

def run_job (s : QueueState) (job : ClaimedJob) : TaskStep :=
  if job.job_name ∈ JOB_REGISTRY then
    ⟨s.note (.started job.id), some .executing, false⟩
  else
    ⟨s.note (.unregistered job.id),
      some (.failing ("未注册的队列任务：" ++ job.job_name) false), false⟩

def finish_job (s : QueueState) (job : ClaimedJob) (now : Int) (outcome : Outcome) : TaskStep :=
  transaction outcome s (s.setJob job.id (setFinished now) (setFinished_id now))
    none none (some .abandoned)

/-- `retry and attempts < max_tries`. -/
def shouldRetry (settings : QueueSettings) (job : ClaimedJob) (retry : Bool) : Bool :=
  retry && job.attempts < maxTries settings job.max_tries

def fail_job (settings : QueueSettings) (s : QueueState) (job : ClaimedJob) (exc : String)
    (retry : Bool) (now : Int) (outcome : Outcome) : TaskStep :=
  if shouldRetry settings job retry then
    let scheduled_at := now + min 60 (job.attempts * 5)
    transaction outcome s
      ((s.setJob job.id (setPending scheduled_at exc) (setPending_id _ _)).note
        (.retried job.id scheduled_at))
      none none (some .abandoned)
  else
    transaction outcome s (s.setJob job.id (setFailed now exc) (setFailed_id now exc))
      (some (.recording exc)) (some .unrecorded) (some .abandoned)

def record_failed_job (s : QueueState) (job : ClaimedJob) (exc : String) (id : Int)
    (failed_at : String) (outcome : Outcome) : TaskStep :=
  let failed := failedJob job id exc failed_at
  transaction outcome s
    ({ s with failed_jobs := s.failed_jobs.put failed }.note (.recorded job.id failed))
    none none (some .unrecorded)

def Task.step (settings : QueueSettings) (s : QueueState) (t : Task) (e : TaskEvent) :
    Option TaskStep :=
  match t.phase, e with
  | .claimed, .call => some (run_job s t.job)
  | .executing, .returns => some ⟨s, some .finishing, false⟩
  | .executing, .raises exc => some ⟨s, some (.failing exc settings.queue_retry_jobs), false⟩
  | .executing, .interrupted => some ⟨s, some .abandoned, true⟩
  | .finishing, .finish_job now outcome => some (finish_job s t.job now outcome)
  | .failing exc retry, .fail_job now outcome =>
      some (fail_job settings s t.job exc retry now outcome)
  | .recording exc, .record_failed_job id failed_at outcome =>
      if (s.failed_jobs.get? id).isSome then none
      else some (record_failed_job s t.job exc id failed_at outcome)
  | _, _ => none

/-! ## §7. The queue. -/

inductive QueueEvent
  | enqueue_job (id : Int) (call : EnqueueCall)
  | pyboard_enqueue_queue_job (id : Int) (call : EnqueueCall)
  /-- A worker starts. -/
  | run_worker (pid : Nat) (queues : List String)
  | claim_jobs (pid : Nat) (now : Int) (skip : List Int)
  /-- The task at a place of the list takes a step. -/
  | task (i : Nat) (e : TaskEvent)
  /-- A worker stops, wherever it and its tasks stand. -/
  | stop (pid : Nat)
  /-- `FailedJobService.delete_job`, or the DELETE of `retry_job`. -/
  | discard (id : Int)

def QueueState.setWorker (s : QueueState) (w : Worker) (status : WorkerStatus) : QueueState :=
  { s with workers := s.workers.put { w with status := status } }

/-- `queues or [settings.queue_default_name]`. -/
def run_worker (settings : QueueSettings) (s : QueueState) (pid : Nat) (queues : List String) :
    QueueState :=
  let queue_names := if queues.isEmpty then [settings.queue_default_name] else queues
  { s with workers := s.workers.put ⟨pid, queue_names, .live⟩ }

/-- `if not jobs and once: return`: a worker that claims at a time and gets no job. -/
def QueueState.returnsOnce (settings : QueueSettings) (s : QueueState) (pid : Nat) (now : Int)
    (skip : List Int) : Bool :=
  match s.workers.get? pid with
  | some w =>
      w.status = .live && s.tasks.all (fun t => t.worker ≠ pid)
        && (picked s.jobs w.queues now settings.queue_max_jobs skip).isEmpty
  | none => false

/-- The state after a step of the task at place `i` of worker `w`. -/
def TaskStep.apply (step : TaskStep) (i : Nat) (t : Task) (w : Worker) : QueueState :=
  let tasks := match step.phase with
    | some phase => step.state.tasks.set i { t with phase := phase }
    | none => step.state.tasks.eraseIdx i
  let s := { step.state with tasks := tasks }
  if step.escapes then s.setWorker w .raised else s

def QueueState.stepTask (settings : QueueSettings) (s : QueueState) (i : Nat) (e : TaskEvent) :
    Option QueueState := do
  let t ← s.tasks[i]?
  let w ← s.workers.get? t.worker
  if w.status = .stopped then none
  else
    let step ← t.step settings s e
    return step.apply i t w

def QueueState.step (settings : QueueSettings) (s : QueueState) : QueueEvent → Option QueueState
  | .enqueue_job id call => enqueue_job settings s id call
  | .pyboard_enqueue_queue_job id call => pyboard_enqueue_queue_job s id call
  | .run_worker pid queues =>
      if (s.workers.get? pid).isSome then none else some (run_worker settings s pid queues)
  | .claim_jobs pid now skip => do
      let w ← s.workers.get? pid
      -- the `gather` of the last batch is over
      if w.status = .live && s.tasks.all (fun t => t.worker ≠ pid) then
        some (claim_jobs settings s w now skip)
      else none
  | .task i e => s.stepTask settings i e
  | .stop pid => do
      let w ← s.workers.get? pid
      some (s.setWorker w .stopped)
  | .discard id => do
      let row ← s.failed_jobs.get? id
      some ({ s with failed_jobs := s.failed_jobs.erase id }.note (.discarded row))

/-- The queue under any number of workers. -/
def queue (settings : QueueSettings) : Machine QueueState QueueEvent :=
  ⟨QueueState.step settings⟩

end PyBoard.Queues
