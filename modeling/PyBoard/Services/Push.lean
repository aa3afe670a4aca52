/-
  PyBoard.Services.Push — the traffic reports that nodes push.

  `handle_uniproxy_push` is a straight line of calls: two writes of the cache, then three
  jobs of the report.  A write of the cache belongs to the transaction of the request.
  `enqueue_job` opens a session of its own and commits it, so an enqueued job stays where
  the request fails later.

  Any call may raise; an `enqueue_job` may raise before or after its INSERT commits.
  Between two calls of a push other requests push, and the queue takes any step.
-/
import PyBoard.Python.Runtime
import PyBoard.Queues.Worker
import PyBoard.Relational.Clients

namespace PyBoard

open Relational Queues

namespace ServerService

variable (rt : Runtime)

/-- What a node pushes: its type, its columns `id` and `rate`, and the report.  A body that
    is no dict is an empty one. -/
structure PushReport where
  node_type : String
  node_id : Int
  rate : String
  data : JsonDict

/-- `_server_cache_key`. -/
def serverCacheKey (node_type name : String) (node_id : Int) : String :=
  "SERVER_" ++ rt.upper node_type ++ "_" ++ name ++ "_" ++ toString node_id

/-- A call of `handle_uniproxy_push` that waits for the database. -/
inductive PushCall
  /-- `self.cache.set(key, value, ex=ex)`. -/
  | set (key : String) (value : Json) (ex : Int)
  /-- `queue.enqueue_job(…)`. -/
  | enqueue_job (call : EnqueueCall)

/-- The job `job_name` of a report. -/
def reportJob (job_name queue : String) (report : PushReport) (more : List Json)
    (scheduled_at : Int) : EnqueueCall where
  queue := queue
  job_name := job_name
  job_key := none
  args := [.obj report.data, .obj [("id", .int report.node_id), ("rate", .str report.rate)],
    .str report.node_type] ++ more
  kwargs := []
  scheduled_at := scheduled_at

/-- 处理 UniProxy 流量上报。  The calls in their order, for a clock that shows `now`. -/
def handleUniproxyPush (report : PushReport) (now : Int) : List PushCall :=
  [.set (serverCacheKey rt report.node_type "ONLINE_USER" report.node_id)
      (.int report.data.length) 3600,
    .set (serverCacheKey rt report.node_type "LAST_PUSH_AT" report.node_id) (.int now) 3600] ++
  if report.data.isEmpty then []
  else
    [.enqueue_job (reportJob "traffic_fetch" QUEUE_TRAFFIC_FETCH report [] now),
      .enqueue_job (reportJob "stat_user" QUEUE_STAT report [.str "d"] now),
      .enqueue_job (reportJob "stat_server" QUEUE_STAT report [.str "d"] now)]

/-- A push request: how many calls have returned, the jobs that it put into the queue, and
    whether it failed. -/
structure PushRequest where
  report : PushReport
  returned : Nat
  jobs : List (String × Int)
  failed : Bool

/-- The next call of a push: the time that it reads, the id that its INSERT draws, and how
    it ends.  A write of the cache that does not return raises. -/
structure PushAct where
  now : Int
  id : Int
  outcome : Outcome

/-- The call returns, or its exception leaves the request. -/
def PushRequest.next (r : PushRequest) (outcome : Outcome) : PushRequest :=
  match outcome with
  | .committed => { r with returned := r.returned + 1 }
  | .lost | .rolledBack => { r with failed := true }

/-- A push that has failed, or returned, takes no step. -/
def PushRequest.act (settings : QueueSettings) (q : QueueState) (r : PushRequest) (a : PushAct) :
    Option (QueueState × PushRequest) :=
  if r.failed then none
  else
    match (handleUniproxyPush rt r.report a.now)[r.returned]? with
    | none => none
    | some (.set _ _ _) => some (q, r.next a.outcome)
    | some (.enqueue_job call) =>
        if a.outcome = .rolledBack then some (q, r.next .rolledBack)
        else do
          let q' ← (queue settings).step q (.enqueue_job a.id call)
          return (q', { r with jobs := r.jobs ++ [(call.job_name, a.id)] }.next a.outcome)

/-- The pushes of any nodes, beside any other steps of the queue. -/
def pushes (settings : QueueSettings) :
    Service QueueState QueueEvent PushRequest PushReport PushAct where
  base := queue settings
  admits := fun _ _ => true
  arrive := fun _ report => some ⟨report, 0, [], false⟩
  act := fun q _ r a => r.act rt settings q a

end ServerService

end PyBoard
