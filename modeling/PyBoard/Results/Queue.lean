/-
  PyBoard.Results.Queue — what the queue promises of its jobs.

  §1–§3 are the invariant of one job (`JobInv`), kept by every step of its life: which
  task holds it in which status, what its column `attempts` counts and how far that
  goes.  §4 adds what is shared between jobs: a task whose exception got out belongs to
  a worker that is gone, and a recorded row stays until an administrator discards it.

    • `jobs_kept` — where every enqueued job is,
    • `claims_exclusive` — executions, attempts, retries and claims of a job.
-/
import PyBoard.Python.Utc
import PyBoard.Services.AdminTools
import PyBoard.Specs.Queue

namespace PyBoard.Queues

open Relational

variable {settings : QueueSettings}

/-! ## §1. The invariant of a job. -/

/-- The row keeps what was enqueued. -/
structure SameJob (row row₀ : QueueJob) : Prop where
  id : row.id = row₀.id
  queue : row.queue = row₀.queue
  job_name : row.job_name = row₀.job_name
  job_key : row.job_key = row₀.job_key
  args : row.args = row₀.args
  kwargs : row.kwargs = row₀.kwargs
  max_tries : row.max_tries = row₀.max_tries

/-- The row of `failed_jobs` is about this failure. -/
structure Matches (f : FailedJob) (row : QueueJob) : Prop where
  job : f = failedJob (claimedRow row) f.id f.exception f.failed_at
  error : row.last_error = some f.exception

/-- The task that works on a job, by the status of its row. -/
inductive Held (row : QueueJob) (ts : List Task) (h : List Record) : Prop
  | pending (hstatus : row.status = .pending) (hts : ts = [])
  | running (t : Task) (hstatus : row.status = .running) (hts : ts = [t])
      (hjob : t.job = claimedRow row) (hphase : t.phase.holds = true)
  | finished (hstatus : row.status = .finished) (hts : ts = [])
  | recording (t : Task) (hstatus : row.status = .failed) (hts : ts = [t])
      (hjob : t.job = claimedRow row) (hphase : t.phase.holds = false)
      (herror : ∀ exc, t.phase = .recording exc → row.last_error = some exc)
  | recorded (f : FailedJob) (hstatus : row.status = .failed) (hts : ts = [])
      (hrecord : .recorded row.id f ∈ h) (hmatch : Matches f row)

/-- The tasks that have not looked their function up. -/
def waiting (ts : List Task) : Nat := ts.countP fun t => t.phase = .claimed

/-- **The invariant of a job.** -/
structure JobInv (settings : QueueSettings) (row : QueueJob) (ts : List Task) (h : List Record) :
    Prop where
  held : Held row ts h
  origin : ∀ row₀, .enqueued row₀ ∈ h → SameJob row row₀
  max_tries : row.max_tries = settings.queue_max_tries ∨ row.max_tries = 3
  attempts : row.attempts = h.countP Record.isClaim
  claims : h.countP Record.isClaim
    = h.countP Record.isStart + h.countP Record.isUnregistered + waiting ts
  bound : row.attempts ≤ max 1 (maxTries settings row.max_tries)
  again : row.status = .pending → row.attempts = 0 ∨ row.attempts < maxTries settings row.max_tries
  onTime : ClaimsOnTime h
  due : row.status = .pending → ∀ scheduled_at, lastRetry h = some scheduled_at →
    scheduled_at ≤ row.scheduled_at

/-- The invariant of a view: nothing happened to a job without a row. -/
def JobView.Inv (settings : QueueSettings) (v : JobView) : Prop :=
  match v.row with
  | none => v.tasks = [] ∧ v.history = []
  | some row => JobInv settings row v.tasks v.history

/-- The task that works on a job is the only one, and has a copy of its row. -/
theorem JobInv.only {row : QueueJob} {pre post : List Task} {t : Task} {h : List Record}
    (hinv : JobInv settings row (pre ++ t :: post) h) :
    pre = [] ∧ post = [] ∧ t.job = claimedRow row ∧
      row.status = if t.phase.holds then .running else .failed := by
  have hsplit : ∀ t' : Task, pre ++ t :: post = [t'] → pre = [] ∧ post = [] ∧ t = t' := by
    intro t' heq
    cases pre with
    | nil =>
        cases heq
        exact ⟨rfl, rfl, rfl⟩
    | cons x pre => simp at heq
  cases hinv.held with
  | pending _ hts => simp at hts
  | running t' hstatus hts hjob hphase =>
      obtain ⟨hpre, hpost, rfl⟩ := hsplit t' hts
      exact ⟨hpre, hpost, hjob, by simp [hstatus, hphase]⟩
  | finished _ hts => simp at hts
  | recording t' hstatus hts hjob hphase _ =>
      obtain ⟨hpre, hpost, rfl⟩ := hsplit t' hts
      exact ⟨hpre, hpost, hjob, by simp [hstatus, hphase]⟩
  | recorded _ _ hts _ _ => simp at hts

theorem JobInv.only_one {row : QueueJob} {t : Task} {h : List Record}
    (hinv : JobInv settings row [t] h) :
    t.job = claimedRow row ∧ row.status = if t.phase.holds then .running else .failed := by
  have hinv' : JobInv settings row ([] ++ t :: []) h := hinv
  exact hinv'.only.2.2

/-- A task is recording what the row says. -/
theorem JobInv.error {row : QueueJob} {t : Task} {h : List Record}
    (hinv : JobInv settings row [t] h) {exc : String} (hphase : t.phase = .recording exc) :
    row.last_error = some exc := by
  cases hinv.held with
  | pending _ hts => cases hts
  | running t' _ hts _ hholds =>
      cases hts
      simp [hphase, TaskPhase.holds] at hholds
  | finished _ hts => cases hts
  | recording t' _ hts _ _ herror =>
      cases hts
      exact herror exc hphase
  | recorded _ _ hts _ _ => cases hts

/-! ## §2. Every step of a life keeps the invariant. -/

theorem JobInv.enqueued {row : QueueJob} (hstatus : row.status = .pending)
    (hattempts : row.attempts = 0)
    (htries : row.max_tries = settings.queue_max_tries ∨ row.max_tries = 3) :
    JobInv settings row [] [.enqueued row] where
  held := .pending hstatus rfl
  origin := by
    intro row₀ hrow₀
    cases List.mem_singleton.mp hrow₀
    exact ⟨rfl, rfl, rfl, rfl, rfl, rfl, rfl⟩
  max_tries := htries
  attempts := by simp [hattempts, Record.isClaim]
  claims := by simp [Record.isClaim, Record.isStart, Record.isUnregistered, waiting]
  bound := by omega
  again := fun _ => .inl hattempts
  onTime := trivial
  due := by simp [lastRetry]

theorem JobInv.claimed {row : QueueJob} {ts : List Task} {h : List Record}
    (hinv : JobInv settings row ts h) (hstatus : row.status = .pending) (pid : Nat) (now : Int)
    (hdue : row.scheduled_at ≤ now) :
    JobInv settings (setRunning now row) (ts ++ [claimedTask pid now row])
      (.claimed row.id now :: h) := by
  have hts : ts = [] := by
    cases hinv.held with
    | pending _ hts => exact hts
    | running _ hstatus' => rw [hstatus] at hstatus'; cases hstatus'
    | finished hstatus' => rw [hstatus] at hstatus'; cases hstatus'
    | recording _ hstatus' => rw [hstatus] at hstatus'; cases hstatus'
    | recorded _ hstatus' => rw [hstatus] at hstatus'; cases hstatus'
  subst hts
  constructor
  case held => exact .running _ rfl rfl rfl rfl
  case origin =>
    intro row₀ hrow₀
    have hsame := hinv.origin row₀ (by simpa using hrow₀)
    exact { hsame with }
  case max_tries => exact hinv.max_tries
  case attempts =>
    rw [List.countP_cons_of_pos rfl]
    simp [setRunning, hinv.attempts]
  case claims =>
    have hclaims := hinv.claims
    simp only [waiting, List.countP_nil] at hclaims
    simp [List.countP_cons, Record.isClaim, Record.isStart, Record.isUnregistered, waiting,
      claimedTask, hclaims]
  case bound =>
    show row.attempts + 1 ≤ max 1 (maxTries settings row.max_tries)
    have := hinv.again hstatus
    omega
  case again => intro hpending; cases hpending
  case onTime =>
    refine ⟨?_, hinv.onTime⟩
    intro scheduled_at hlast
    exact le_trans (hinv.due hstatus _ hlast) hdue
  case due => intro hpending; cases hpending

/-- A task looks its function up. -/
theorem JobInv.lookedUp {row : QueueJob} {t : Task} {h : List Record} {phase : TaskPhase}
    {r : Record} (hinv : JobInv settings row [t] h) (hphase : t.phase = .claimed)
    (hnext : phase ≠ .claimed) (hholds : phase.holds = true)
    (hr : r = .started t.job.id ∨ r = .unregistered t.job.id) :
    JobInv settings row [{ t with phase := phase }] (r :: h) := by
  obtain ⟨hjob, hstatus⟩ := hinv.only_one
  rw [hphase] at hstatus
  have hclaims := hinv.claims
  constructor
  case held => exact .running _ hstatus rfl hjob hholds
  case origin =>
    intro row₀ hrow₀
    obtain rfl | rfl := hr <;> exact hinv.origin row₀ (by simpa using hrow₀)
  case max_tries => exact hinv.max_tries
  case attempts =>
    rw [hinv.attempts]
    obtain rfl | rfl := hr <;> simp [Record.isClaim]
  case claims =>
    have hwait : waiting [t] = 1 := by simp [waiting, hphase]
    have hnone : waiting [{ t with phase := phase }] = 0 := by simp [waiting, hnext]
    rw [hwait] at hclaims
    rw [hnone]
    obtain rfl | rfl := hr <;>
      simp only [List.countP_cons, Record.isClaim, Record.isStart, Record.isUnregistered] <;>
      simp only [hclaims] <;> simp <;> omega
  case bound => exact hinv.bound
  case again =>
    intro hpending
    rw [hstatus] at hpending
    cases hpending
  case onTime => obtain rfl | rfl := hr <;> exact hinv.onTime
  case due =>
    intro hpending
    rw [hstatus] at hpending
    cases hpending

/-- A task moves on, and the row stays. -/
theorem JobInv.moved {row : QueueJob} {t : Task} {h : List Record} {phase : TaskPhase}
    (hinv : JobInv settings row [t] h) (hphase : t.phase ≠ .claimed) (hnext : phase ≠ .claimed)
    (hrecord : ∀ exc, phase ≠ .recording exc) (hholds : phase.holds = t.phase.holds) :
    JobInv settings row [{ t with phase := phase }] h := by
  obtain ⟨hjob, hstatus⟩ := hinv.only_one
  refine { hinv with held := ?_, claims := ?_ }
  · cases ht : t.phase.holds with
    | true =>
        rw [ht] at hstatus hholds
        exact .running _ hstatus rfl hjob hholds
    | false =>
        rw [ht] at hstatus hholds
        exact .recording _ hstatus rfl hjob hholds fun exc hexc => absurd hexc (hrecord exc)
  · rw [hinv.claims]
    simp [waiting, hphase, hnext]

theorem JobInv.finished {row : QueueJob} {t : Task} {h : List Record}
    (hinv : JobInv settings row [t] h) (hphase : t.phase = .finishing) (now : Int) :
    JobInv settings (setFinished now row) [] h := by
  have hclaims := hinv.claims
  refine
    { hinv with
      held := .finished rfl rfl
      origin := ?_
      claims := ?_
      again := ?_
      due := ?_ }
  · intro row₀ hrow₀
    have hsame := hinv.origin row₀ hrow₀
    exact { hsame with }
  · simpa [waiting, hphase] using hclaims
  · intro hpending; cases hpending
  · intro hpending; cases hpending

theorem JobInv.retried {row : QueueJob} {t : Task} {h : List Record}
    (hinv : JobInv settings row [t] h) {exc : String} {retry : Bool}
    (hphase : t.phase = .failing exc retry)
    (htries : t.job.attempts < maxTries settings t.job.max_tries) (scheduled_at : Int) :
    JobInv settings (setPending scheduled_at exc row) [] (.retried t.job.id scheduled_at :: h) := by
  obtain ⟨hjob, hstatus⟩ := hinv.only_one
  have hclaims := hinv.claims
  constructor
  case held => exact .pending rfl rfl
  case origin =>
    intro row₀ hrow₀
    have hsame := hinv.origin row₀ (by simpa using hrow₀)
    exact { hsame with }
  case max_tries => exact hinv.max_tries
  case attempts => simpa [setPending, List.countP_cons, Record.isClaim] using hinv.attempts
  case claims =>
    simpa [List.countP_cons, Record.isClaim, Record.isStart, Record.isUnregistered, waiting, hphase]
      using hclaims
  case bound => exact hinv.bound
  case again =>
    intro _
    rw [hjob] at htries
    exact .inr htries
  case onTime => exact hinv.onTime
  case due =>
    intro _ at' hlast
    cases hlast
    exact le_refl _

theorem JobInv.failed {row : QueueJob} {t : Task} {h : List Record}
    (hinv : JobInv settings row [t] h) {exc : String} {retry : Bool}
    (hphase : t.phase = .failing exc retry) {phase : TaskPhase}
    (hnext : phase = .recording exc ∨ phase = .unrecorded) (now : Int) :
    JobInv settings (setFailed now exc row) [{ t with phase := phase }] h := by
  obtain ⟨hjob, hstatus⟩ := hinv.only_one
  have hclaims := hinv.claims
  refine
    { hinv with
      held := .recording _ rfl rfl hjob ?_ ?_
      origin := ?_
      claims := ?_
      again := ?_
      due := ?_ }
  · obtain rfl | rfl := hnext <;> rfl
  · intro exc' hexc'
    obtain rfl | rfl := hnext
    · cases hexc'
      rfl
    · cases hexc'
  · intro row₀ hrow₀
    have hsame := hinv.origin row₀ hrow₀
    exact { hsame with }
  · have hne : phase ≠ .claimed := by
      obtain rfl | rfl := hnext <;> simp
    simpa [waiting, hphase, hne] using hclaims
  · intro hpending; cases hpending
  · intro hpending; cases hpending

theorem JobInv.recorded {row : QueueJob} {t : Task} {h : List Record}
    (hinv : JobInv settings row [t] h) {exc : String} (hphase : t.phase = .recording exc) (id : Int)
    (failed_at : String) :
    JobInv settings row [] (.recorded t.job.id (failedJob t.job id exc failed_at) :: h) := by
  obtain ⟨hjob, hstatus⟩ := hinv.only_one
  have hfailed : row.status = .failed := by simpa [hphase, TaskPhase.holds] using hstatus
  have hid : t.job.id = row.id := by rw [hjob]; rfl
  have hclaims := hinv.claims
  constructor
  case held =>
    refine .recorded (failedJob t.job id exc failed_at) hfailed rfl ?_ ⟨?_, hinv.error hphase⟩
    · rw [hid]
      exact List.mem_cons_self
    · rw [hjob]
      rfl
  case origin =>
    intro row₀ hrow₀
    exact hinv.origin row₀ (by simpa using hrow₀)
  case max_tries => exact hinv.max_tries
  case attempts => simpa [List.countP_cons, Record.isClaim] using hinv.attempts
  case claims =>
    simpa [List.countP_cons, Record.isClaim, Record.isStart, Record.isUnregistered, waiting, hphase]
      using hclaims
  case bound => exact hinv.bound
  case again =>
    intro hpending
    rw [hfailed] at hpending
    cases hpending
  case onTime => exact hinv.onTime
  case due =>
    intro hpending
    rw [hfailed] at hpending
    cases hpending

/-- A job with a task has a row, and the task is alone. -/
theorem JobView.Inv.task {row : Option QueueJob} {pre post : List Task} {t : Task}
    {h : List Record} (hinv : JobView.Inv settings ⟨row, pre ++ t :: post, h⟩) :
    ∃ r, row = some r ∧ pre = [] ∧ post = [] ∧ JobInv settings r [t] h := by
  cases row with
  | none =>
      have hts : pre ++ t :: post = [] := hinv.1
      simp at hts
  | some r =>
      have hjob : JobInv settings r (pre ++ t :: post) h := hinv
      obtain ⟨rfl, rfl, -, -⟩ := hjob.only
      exact ⟨r, rfl, rfl, rfl, hjob⟩

/-- **The step lemma.** -/
theorem Life.inv {v v' : JobView} (hlife : Life settings v v') (hinv : v.Inv settings) :
    v'.Inv settings := by
  cases hlife with
  | enqueued row hstatus hattempts htries =>
      obtain ⟨rfl, rfl⟩ := hinv
      exact JobInv.enqueued hstatus hattempts htries
  | claimed row pid now hstatus hdue => exact JobInv.claimed hinv hstatus pid now hdue
  | started t hphase =>
      obtain ⟨row, rfl, rfl, rfl, hjob⟩ := hinv.task
      exact hjob.lookedUp hphase (by simp) rfl (.inl rfl)
  | unregistered t hphase exc =>
      obtain ⟨row, rfl, rfl, rfl, hjob⟩ := hinv.task
      exact hjob.lookedUp hphase (by simp) rfl (.inr rfl)
  | moved t phase hphase hnext hrecord hholds =>
      obtain ⟨row, rfl, rfl, rfl, hjob⟩ := hinv.task
      exact hjob.moved hphase hnext hrecord hholds
  | finished t now hphase =>
      obtain ⟨row, rfl, rfl, rfl, hjob⟩ := hinv.task
      exact hjob.finished hphase now
  | retried t scheduled_at exc retry hphase htries =>
      obtain ⟨row, rfl, rfl, rfl, hjob⟩ := hinv.task
      exact hjob.retried hphase htries scheduled_at
  | failed t phase now exc retry hphase hnext =>
      obtain ⟨row, rfl, rfl, rfl, hjob⟩ := hinv.task
      exact hjob.failed hphase hnext now
  | recorded t id exc failed_at hphase =>
      obtain ⟨row, rfl, rfl, rfl, hjob⟩ := hinv.task
      exact hjob.recorded hphase id failed_at

/-- **The run lemma.** -/
theorem lives_inv {v v' : JobView} (hlives : Relation.ReflTransGen (Life settings) v v')
    (hinv : v.Inv settings) : v'.Inv settings := by
  induction hlives with
  | refl => exact hinv
  | tail _ hlife ih => exact hlife.inv ih

/-- Every job of a reachable queue satisfies the invariant. -/
theorem reachable_inv {s : QueueState} (h : (queue settings).Reaches .empty s) (id : Int) :
    (s.view id).Inv settings :=
  lives_inv (view_life h id) ⟨rfl, rfl⟩

theorem reachable_job {s : QueueState} (h : (queue settings).Reaches .empty s) {id : Int}
    {row : QueueJob} (hrow : s.jobs.get? id = some row) :
    JobInv settings row (s.tasksOf id) (s.historyOf id) := by
  have hinv := reachable_inv h id
  unfold QueueState.view at hinv
  rw [hrow] at hinv
  exact hinv

theorem reachable_no_job {s : QueueState} (h : (queue settings).Reaches .empty s) {id : Int}
    (hrow : s.jobs.get? id = none) : s.tasksOf id = [] ∧ s.historyOf id = [] := by
  have hinv := reachable_inv h id
  unfold QueueState.view at hinv
  rw [hrow] at hinv
  exact hinv

/-! ## §3. A finished or failed job stays as it is. -/

/-- Nothing is left to execute. -/
def Settled (row : QueueJob) : Prop := row.status = .finished ∨ row.status = .failed

theorem Life.settled {v v' : JobView} (hlife : Life settings v v') (hinv : v.Inv settings)
    {row : QueueJob} (hrow : v.row = some row) (hsettled : Settled row) :
    v'.row = some row ∧ v'.history.countP Record.isClaim = v.history.countP Record.isClaim := by
  have hheld : ∀ {pre post : List Task} {t : Task} {h : List Record},
      JobInv settings row (pre ++ t :: post) h → t.phase.holds = false := by
    intro pre post t h hjob
    obtain ⟨-, -, -, hstatus⟩ := hjob.only
    by_contra hholds
    rw [Bool.not_eq_false] at hholds
    rw [if_pos hholds] at hstatus
    rcases hsettled with hset | hset <;> rw [hset] at hstatus <;> cases hstatus
  cases hlife with
  | enqueued _ _ _ _ => cases hrow
  | claimed r pid now hstatus hdue =>
      cases hrow
      rcases hsettled with hset | hset <;> rw [hset] at hstatus <;> cases hstatus
  | started t hphase =>
      cases hrow
      simpa [hphase, TaskPhase.holds] using hheld hinv
  | unregistered t hphase exc =>
      cases hrow
      simpa [hphase, TaskPhase.holds] using hheld hinv
  | moved t phase hphase hnext hrecord hholds => exact ⟨hrow, rfl⟩
  | finished t now hphase =>
      cases hrow
      simpa [hphase, TaskPhase.holds] using hheld hinv
  | retried t scheduled_at exc retry hphase htries =>
      cases hrow
      simpa [hphase, TaskPhase.holds] using hheld hinv
  | failed t phase now exc retry hphase hnext =>
      cases hrow
      simpa [hphase, TaskPhase.holds] using hheld hinv
  | recorded t id exc failed_at hphase => exact ⟨hrow, by simp [Record.isClaim]⟩

theorem lives_settled {v v' : JobView} (hlives : Relation.ReflTransGen (Life settings) v v')
    (hinv : v.Inv settings) {row : QueueJob} (hrow : v.row = some row) (hsettled : Settled row) :
    v'.row = some row ∧ v'.history.countP Record.isClaim = v.history.countP Record.isClaim := by
  induction hlives with
  | refl => exact ⟨hrow, rfl⟩
  | tail hlives hlife ih =>
      obtain ⟨hrow', hclaims⟩ := hlife.settled (lives_inv hlives hinv) ih.1 hsettled
      exact ⟨hrow', hclaims.trans ih.2⟩

/-! ## §4. What is shared between jobs. -/

/-- A task that an exception has left belongs to a worker that is gone. -/
def Manned (workers : Table Worker.pid) (t : Task) : Prop :=
  ∃ w, workers.get? t.worker = some w ∧ (t.phase.left = true → w.status ≠ .live)

/-- A recorded failure is there until it is discarded, and every task is a worker's. -/
structure Shared (s : QueueState) : Prop where
  recorded : ∀ id f, .recorded id f ∈ s.history → f ∈ s.failed_jobs.rows ∨ .discarded f ∈ s.history
  manned : ∀ t ∈ s.tasks, Manned s.workers t

/-- A worker that is not live any more mans its tasks, wherever they stand. -/
theorem Manned.put {workers : Table Worker.pid} {w : Worker} (hstatus : w.status ≠ .live) {t : Task}
    (h : t.worker ≠ w.pid → Manned workers t) : Manned (workers.put w) t := by
  unfold Manned
  rw [Table.get?_put]
  split
  · exact ⟨w, rfl, fun _ => hstatus⟩
  · next hne => exact h hne

/-- A step that adds to the history something other than a recorded failure. -/
theorem Shared.note {s : QueueState} (h : Shared s) {r : Record}
    (hr : ∀ id f, r ≠ .recorded id f) : Shared (s.note r) := by
  refine ⟨?_, h.manned⟩
  intro id f hf
  rcases List.mem_cons.mp hf with rfl | hf
  · exact absurd rfl (hr id f)
  · exact (h.recorded id f hf).imp_right fun hd => List.mem_cons_of_mem _ hd

theorem TaskMove.left_escapes {s : QueueState} {t : Task} {st : TaskStep}
    (h : TaskMove settings s t st) {phase : TaskPhase} (hphase : st.phase = some phase)
    (hleft : phase.left = true) : st.escapes = true := by
  cases h <;> cases hphase <;> exact hleft

theorem TaskMove.shared {s : QueueState} {t : Task} {st : TaskStep}
    (h : TaskMove settings s t st) (hs : Shared s) : Shared st.state := by
  cases h with
  | started => exact hs.note (by simp)
  | unregistered => exact hs.note (by simp)
  | moved => exact hs
  | finished => exact ⟨hs.recorded, hs.manned⟩
  | retried scheduled_at exc =>
      have hset : Shared (s.setJob t.job.id (setPending scheduled_at exc) (setPending_id _ _)) :=
        ⟨hs.recorded, hs.manned⟩
      exact hset.note (by simp)
  | failed => exact ⟨hs.recorded, hs.manned⟩
  | recorded id exc failed_at escapes hphase hfresh =>
      refine ⟨?_, hs.manned⟩
      intro k f hf
      rcases List.mem_cons.mp hf with heq | hf
      · cases heq
        exact .inl (Table.mem_put.mpr (.inl rfl))
      · refine (hs.recorded k f hf).imp ?_ fun hd => List.mem_cons_of_mem _ hd
        intro hmem
        exact Table.mem_put.mpr (.inr ⟨hmem, Table.get?_eq_none.mp hfresh f hmem⟩)

theorem apply_workers (st : TaskStep) (i : Nat) (t : Task) (w : Worker) :
    (st.apply i t w).workers
      = if st.escapes then st.state.workers.put { w with status := .raised }
        else st.state.workers := by
  unfold TaskStep.apply QueueState.setWorker
  cases st.escapes <;> rfl

theorem Shared.apply {st : TaskStep} {pre post : List Task} {t : Task} {w : Worker}
    (hs : Shared st.state) (hts : st.state.tasks = pre ++ t :: post)
    (hw : st.state.workers.get? t.worker = some w)
    (hleft : ∀ phase, st.phase = some phase → phase.left = true → st.escapes = true) :
    Shared (st.apply pre.length t w) := by
  refine ⟨?_, ?_⟩
  · intro id f
    rw [apply_history, apply_failed_jobs]
    exact hs.recorded id f
  · intro x hx
    have hpid : w.pid = t.worker := Table.key_of_get? hw
    rw [apply_tasks st w hts] at hx
    -- a task at another place is as it was; this one is still its worker's
    have hx' : x ∈ st.state.tasks ∨ ∃ phase, st.phase = some phase ∧
        x = { t with phase := phase } := by
      rw [hts]
      unfold TaskStep.next at hx
      simp only [List.mem_append, Option.mem_toList, Option.map_eq_some_iff,
        List.mem_cons] at hx ⊢
      tauto
    rw [apply_workers]
    cases hescapes : st.escapes with
    | true =>
        rw [if_pos rfl]
        refine Manned.put (by simp) ?_
        intro hne
        obtain hmem | ⟨phase, -, rfl⟩ := hx'
        · exact hs.manned x hmem
        · exact absurd hpid.symm hne
    | false =>
        rw [if_neg (by simp)]
        obtain hmem | ⟨phase, hphase, rfl⟩ := hx'
        · exact hs.manned x hmem
        · refine ⟨w, hw, ?_⟩
          intro hl
          rw [hleft phase hphase hl] at hescapes
          cases hescapes

theorem step_shared (s : QueueState) (e : QueueEvent) (s' : QueueState) (hs : Shared s)
    (h : (queue settings).step s e = some s') : Shared s' := by
  have hinsert : ∀ row : QueueJob, s.insertJob row = some s' → Shared s' := by
    intro row hrow
    obtain ⟨rfl, -⟩ | ⟨-, -, rfl⟩ := insertJob_cases hrow
    · exact hs
    · have hput : Shared { s with jobs := s.jobs.put row } := ⟨hs.recorded, hs.manned⟩
      exact hput.note (by simp)
  cases e with
  | enqueue_job id call => exact hinsert _ h
  | pyboard_enqueue_queue_job id call => exact hinsert _ h
  | run_worker pid queues =>
      simp only [queue, QueueState.step] at h
      split at h
      · cases h
      · next hfresh =>
        cases h
        refine ⟨hs.recorded, ?_⟩
        intro t ht
        obtain ⟨w, hw, hleft⟩ := hs.manned t ht
        have hne : t.worker ≠ pid := by
          intro heq
          rw [heq] at hw
          simp [hw] at hfresh
        refine ⟨w, ?_, hleft⟩
        exact (Table.get?_put_of_ne _ hne).trans hw
  | claim_jobs pid now skip =>
      obtain ⟨w, hw, h⟩ := Option.bind_eq_some_iff.mp h
      split at h
      · cases h
        refine ⟨?_, ?_⟩
        · intro id f hf
          have hold : Record.recorded id f ∈ s.history := by simpa [claim_jobs] using hf
          exact (hs.recorded id f hold).imp_right fun hd => List.mem_append_right _ hd
        · intro t ht
          rcases List.mem_append.mp ht with hold | hnew
          · exact hs.manned t hold
          · obtain ⟨row, -, rfl⟩ := List.mem_map.mp hnew
            have hpid : w.pid = pid := Table.key_of_get? hw
            refine ⟨w, ?_, ?_⟩
            · show s.workers.get? w.pid = some w
              rw [hpid]
              exact hw
            · intro hl
              cases hl
      · cases h
  | task i e =>
      obtain ⟨pre, t, post, w, st, hts, hw, -, hmove, rfl⟩ := stepTask_cases h
      obtain ⟨htasks, hworkers⟩ := hmove.tasks_workers
      exact (hmove.shared hs).apply (htasks.trans hts) (hworkers ▸ hw) fun _ => hmove.left_escapes
  | stop pid =>
      obtain ⟨w, -, h⟩ := Option.bind_eq_some_iff.mp h
      cases h
      exact ⟨hs.recorded, fun t ht => Manned.put (by simp) fun _ => hs.manned t ht⟩
  | discard k =>
      obtain ⟨row, hrow, h⟩ := Option.bind_eq_some_iff.mp h
      cases h
      refine ⟨?_, hs.manned⟩
      intro id f hf
      have hold : Record.recorded id f ∈ s.history := by simpa [QueueState.note] using hf
      obtain hmem | hd := hs.recorded id f hold
      · by_cases hk : f.id = k
        · have heq : f = row :=
            s.failed_jobs.eq_of_key_eq hmem (Table.mem_of_get? hrow)
              (hk.trans (Table.key_of_get? hrow).symm)
          exact .inr (heq ▸ List.mem_cons_self)
        · exact .inl (Table.mem_erase.mpr ⟨hmem, hk⟩)
      · exact .inr (List.mem_cons_of_mem _ hd)

/-- Every reachable queue. -/
theorem reachable_shared {s : QueueState} (h : (queue settings).Reaches .empty s) : Shared s := by
  refine h.invariant step_shared ⟨?_, ?_⟩
  · intro id f hf
    cases hf
  · intro t ht
    cases ht

/-! ## §5. Where a job is. -/

/-- The job is finished, or will be executed, or is, or can be retried. -/
inductive InSight (rt : Runtime) (s : QueueState) (row : QueueJob) : Prop
  | finished (hstatus : row.status = .finished)
  | pending (hstatus : row.status = .pending)
  | executing (t : Task) (w : Worker) (hstatus : row.status = .running) (ht : t ∈ s.tasks)
      (hjob : t.job = claimedRow row) (hw : s.workers.get? t.worker = some w)
      (hlive : w.status = .live)
  | failed (f : FailedJob) (hstatus : row.status = .failed) (hf : f ∈ s.failed_jobs.rows)
      (hmatch : Matches f row)
      (hretry : row.job_name ≠ "" → FailedJobService.retry_job rt f =
        .ok ⟨.str row.job_name, row.args,
          FailedJobService.setdefault row.kwargs "_queue_name" (.str row.queue)⟩)

/-- The job is neither: it is in the hands of a worker that is gone, or failed without
    its row in `failed_jobs`. -/
inductive OutOfSight (s : QueueState) (row : QueueJob) : Prop
  | running (t : Task) (w : Worker) (hstatus : row.status = .running) (ht : t ∈ s.tasks)
      (hjob : t.job = claimedRow row) (hw : s.workers.get? t.worker = some w)
      (hgone : w.status ≠ .live)
  | recording (t : Task) (w : Worker) (exc : String) (hstatus : row.status = .failed)
      (ht : t ∈ s.tasks) (hjob : t.job = claimedRow row) (hphase : t.phase = .recording exc)
      (hw : s.workers.get? t.worker = some w) (hlive : w.status = .live)
  | unrecorded (t : Task) (w : Worker) (hstatus : row.status = .failed) (ht : t ∈ s.tasks)
      (hjob : t.job = claimedRow row) (hw : s.workers.get? t.worker = some w)
      (hgone : w.status ≠ .live)
  | discarded (f : FailedJob) (hstatus : row.status = .failed) (hf : .discarded f ∈ s.history)
      (hmatch : Matches f row)

theorem mem_of_tasksOf {s : QueueState} {id : Int} {t : Task} (h : s.tasksOf id = [t]) :
    t ∈ s.tasks := by
  have hmem : t ∈ s.tasksOf id := by rw [h]; exact List.mem_singleton_self t
  exact List.mem_of_mem_filter hmem

theorem Matches.retry (rt : Runtime) {f : FailedJob} {row : QueueJob} (h : Matches f row)
    (hname : row.job_name ≠ "") :
    FailedJobService.retry_job rt f = .ok ⟨.str row.job_name, row.args,
      FailedJobService.setdefault row.kwargs "_queue_name" (.str row.queue)⟩ := by
  rw [h.job]
  exact FailedJobService.retry_failedJob rt (claimedRow row) hname _ _ _

/-- **Where an enqueued job is.**  It stays in the table, with what was enqueued. -/
theorem jobs_kept (rt : Runtime) {s : QueueState} (h : (queue settings).Reaches .empty s)
    {row₀ : QueueJob} (henqueued : .enqueued row₀ ∈ s.history) :
    ∃ row, s.jobs.get? row₀.id = some row ∧ SameJob row row₀ ∧
      (InSight rt s row ∨ OutOfSight s row) := by
  have hshared := reachable_shared h
  have hmem : Record.enqueued row₀ ∈ s.historyOf row₀.id :=
    List.mem_filter.mpr ⟨henqueued, by simp [Record.job]⟩
  cases hrow : s.jobs.get? row₀.id with
  | none =>
      rw [(reachable_no_job h hrow).2] at hmem
      cases hmem
  | some row =>
      have hjob := reachable_job h hrow
      refine ⟨row, rfl, hjob.origin row₀ hmem, ?_⟩
      cases hjob.held with
      | pending hstatus _ => exact .inl (.pending hstatus)
      | finished hstatus _ => exact .inl (.finished hstatus)
      | running t hstatus hts hcopy _ =>
          have ht := mem_of_tasksOf hts
          obtain ⟨w, hw, -⟩ := hshared.manned t ht
          by_cases hlive : w.status = .live
          · exact .inl (.executing t w hstatus ht hcopy hw hlive)
          · exact .inr (.running t w hstatus ht hcopy hw hlive)
      | recording t hstatus hts hcopy hphase _ =>
          have ht := mem_of_tasksOf hts
          obtain ⟨w, hw, hleft⟩ := hshared.manned t ht
          by_cases hlive : w.status = .live
          · cases hp : t.phase with
            | recording exc => exact .inr (.recording t w exc hstatus ht hcopy hp hw hlive)
            | unrecorded => exact absurd hlive (hleft (by simp [hp, TaskPhase.left]))
            | claimed | executing | finishing | failing | abandoned =>
                simp [hp, TaskPhase.holds] at hphase
          · exact .inr (.unrecorded t w hstatus ht hcopy hw hlive)
      | recorded f hstatus _ hrecord hmatch =>
          have hhist := List.mem_of_mem_filter hrecord
          obtain hf | hd := hshared.recorded _ f hhist
          · exact .inl (.failed f hstatus hf hmatch fun hname => hmatch.retry rt hname)
          · exact .inr (.discarded f hstatus hd hmatch)

/-- A stopped worker and its tasks. -/
def Stopped (s : QueueState) (t : Task) : Prop :=
  t ∈ s.tasks ∧ ∃ w, s.workers.get? t.worker = some w ∧ w.status = .stopped

/-- No step touches the tasks of a worker that has stopped. -/
theorem step_stopped {t : Task} (s : QueueState) (e : QueueEvent) (s' : QueueState)
    (hs : Stopped s t) (h : (queue settings).step s e = some s') : Stopped s' t := by
  obtain ⟨ht, w, hw, hstopped⟩ := hs
  have hinsert : ∀ row : QueueJob, s.insertJob row = some s' → Stopped s' t := by
    intro row hrow
    obtain ⟨rfl, -⟩ | ⟨-, -, rfl⟩ := insertJob_cases hrow <;> exact ⟨ht, w, hw, hstopped⟩
  cases e with
  | enqueue_job id call => exact hinsert _ h
  | pyboard_enqueue_queue_job id call => exact hinsert _ h
  | run_worker pid queues =>
      simp only [queue, QueueState.step] at h
      split at h
      · cases h
      · next hfresh =>
        cases h
        have hne : t.worker ≠ pid := by
          intro heq
          rw [heq] at hw
          simp [hw] at hfresh
        exact ⟨ht, w, (Table.get?_put_of_ne _ hne).trans hw, hstopped⟩
  | claim_jobs pid now skip =>
      obtain ⟨_, _, h⟩ := Option.bind_eq_some_iff.mp h
      split at h
      · cases h
        exact ⟨List.mem_append_left _ ht, w, hw, hstopped⟩
      · cases h
  | task i e =>
      obtain ⟨pre, u, post, wu, st, hts, hwu, hne, hmove, rfl⟩ := stepTask_cases h
      obtain ⟨htasks, hworkers⟩ := hmove.tasks_workers
      have hother : t.worker ≠ u.worker := by
        intro heq
        rw [heq, hwu] at hw
        cases hw
        exact hne hstopped
      refine ⟨?_, w, ?_, hstopped⟩
      · rw [apply_tasks st wu (htasks.trans hts)]
        rw [hts] at ht
        have htu : t ≠ u := fun heq => hother (by rw [heq])
        simp only [List.mem_append, List.mem_cons] at ht ⊢
        tauto
      · rw [apply_workers, hworkers]
        split
        · have hpid : wu.pid = u.worker := Table.key_of_get? hwu
          exact (Table.get?_put_of_ne _ (by simpa [hpid] using hother)).trans hw
        · exact hw
  | stop pid =>
      obtain ⟨v, _, h⟩ := Option.bind_eq_some_iff.mp h
      cases h
      unfold QueueState.setWorker
      refine ⟨ht, ?_⟩
      dsimp only
      rw [Table.get?_put]
      split
      · exact ⟨_, rfl, rfl⟩
      · exact ⟨w, hw, hstopped⟩
  | discard k =>
      obtain ⟨row, _, h⟩ := Option.bind_eq_some_iff.mp h
      cases h
      exact ⟨ht, w, hw, hstopped⟩

/-- **Nothing takes back what a stopped worker held**: the row of such a job is running
    in every later state. -/
theorem stopped_stays {s s' : QueueState} (h : (queue settings).Reaches .empty s) {t : Task}
    (ht : Stopped s t) (hholds : t.phase.holds = true) (hlater : (queue settings).Reaches s s') :
    ∃ row, s'.jobs.get? t.job.id = some row ∧ row.status = .running := by
  have ht' : t ∈ s'.tasks := (hlater.invariant step_stopped ht).1
  have hreach : (queue settings).Reaches .empty s' := Relation.ReflTransGen.trans h hlater
  have hmem : t ∈ s'.tasksOf t.job.id := List.mem_filter.mpr ⟨ht', by simp⟩
  cases hrow : s'.jobs.get? t.job.id with
  | none =>
      rw [(reachable_no_job hreach hrow).1] at hmem
      cases hmem
  | some row =>
      obtain ⟨pre, post, hts⟩ := List.append_of_mem hmem
      have hjob := reachable_job hreach hrow
      rw [hts] at hjob
      exact ⟨row, rfl, by simpa [hholds] using hjob.only.2.2.2⟩

/-! ## §6. Executions, attempts, retries and claims. -/

/-- What the queue has counted and will not do to a job. -/
structure Claims (settings : QueueSettings) (s : QueueState) (row : QueueJob) : Prop where
  /-- `attempts` counts the claims. -/
  attempts : row.attempts = (s.historyOf row.id).countP Record.isClaim
  /-- Of the claims, the others found no function or have not looked for it. -/
  executions : (s.historyOf row.id).countP Record.isClaim
    = (s.historyOf row.id).countP Record.isStart
      + (s.historyOf row.id).countP Record.isUnregistered + waiting (s.tasksOf row.id)
  bound : row.attempts ≤ max 1 row.max_tries
  onTime : ClaimsOnTime (s.historyOf row.id)
  /-- A finished or failed job is never claimed again. -/
  settled : Settled row → ∀ s', (queue settings).Reaches s s' →
    s'.jobs.get? row.id = some row ∧
      (s'.historyOf row.id).countP Record.isClaim = (s.historyOf row.id).countP Record.isClaim

theorem JobInv.tasks_le_one {row : QueueJob} {ts : List Task} {h : List Record}
    (hinv : JobInv settings row ts h) : ts.length ≤ 1 := by
  cases hinv.held with
  | pending _ hts => simp [hts]
  | running _ _ hts => simp [hts]
  | finished _ hts => simp [hts]
  | recording _ _ hts => simp [hts]
  | recorded _ _ hts => simp [hts]

theorem tasksOf_le_one {s : QueueState} (h : (queue settings).Reaches .empty s) (id : Int) :
    (s.tasksOf id).length ≤ 1 := by
  cases hrow : s.jobs.get? id with
  | none => simp [(reachable_no_job h hrow).1]
  | some row => exact (reachable_job h hrow).tasks_le_one

/-- No two tasks, of one worker or of two, have the same job. -/
theorem tasks_nodup {s : QueueState} (h : (queue settings).Reaches .empty s) :
    (s.tasks.map fun t => t.job.id).Nodup := by
  refine List.nodup_iff_count_le_one.mpr ?_
  intro id
  have hone := tasksOf_le_one h id
  rw [List.count_eq_countP, List.countP_map, List.countP_eq_length_filter]
  refine le_trans (le_of_eq ?_) hone
  congr 1

/-- A row's `max_tries` is 0 only where the setting is. -/
theorem maxTries_le {max_tries : Int}
    (h : max_tries = settings.queue_max_tries ∨ max_tries = 3) :
    max 1 (maxTries settings max_tries) ≤ max 1 max_tries := by
  unfold maxTries
  split
  · exact le_refl _
  · omega

/-- **A job is executed by one worker at a time, and its claims are bounded.** -/
theorem claims_exclusive {s : QueueState} (h : (queue settings).Reaches .empty s) :
    (∀ (i j : Nat) (t u : Task), s.tasks[i]? = some t → s.tasks[j]? = some u →
        t.job.id = u.job.id → i = j) ∧
      ∀ row ∈ s.jobs.rows, Claims settings s row := by
  constructor
  · intro i j t u hi hj hid
    obtain ⟨hi', rfl⟩ := List.getElem?_eq_some_iff.mp hi
    obtain ⟨hj', rfl⟩ := List.getElem?_eq_some_iff.mp hj
    have hi'' : i < (s.tasks.map fun t => t.job.id).length := by simpa using hi'
    have hj'' : j < (s.tasks.map fun t => t.job.id).length := by simpa using hj'
    have heq : (s.tasks.map fun t => t.job.id)[i] = (s.tasks.map fun t => t.job.id)[j] := by
      simpa using hid
    exact (tasks_nodup h).getElem_inj_iff.mp heq
  · intro row hrow
    have hget := Table.get?_of_mem hrow
    have hjob := reachable_job h hget
    refine ⟨hjob.attempts, hjob.claims, hjob.bound.trans (maxTries_le hjob.max_tries),
      hjob.onTime, ?_⟩
    intro hsettled s' hlater
    exact lives_settled (view_life hlater row.id) (reachable_inv h row.id) hget hsettled

/-! ## §7. A worker that stops, and a job without a function. -/

/-- A mail to be sent. -/
def mailCall : EnqueueCall :=
  ⟨"send_email", "send_mail", none, [.str "a@example.com"], [], 0⟩

/-- A worker has claimed the mail and stopped. -/
def stoppedQueue : QueueState where
  jobs := ⟨[setRunning 10 (mailCall.row 1 3)], List.nodup_singleton _⟩
  failed_jobs := Table.empty
  workers := ⟨[⟨7, ["send_email"], .stopped⟩], List.nodup_singleton _⟩
  tasks := [claimedTask 7 10 (mailCall.row 1 3)]
  history := [.claimed 1 10, .enqueued (mailCall.row 1 3)]

theorem stoppedQueue_reached : (queue {}).Reaches .empty stoppedQueue := by
  have hrun : (queue {}).run .empty
      [.enqueue_job 1 mailCall, .run_worker 7 ["send_email"], .claim_jobs 7 10 [], .stop 7]
        = some stoppedQueue := rfl
  exact Machine.Reaches.of_run hrun

/-- **A job can be lost**: its row is running, and its worker is gone. -/
theorem jobs_kept_stopped : ¬ ∀ (settings : QueueSettings) (s : QueueState),
    (queue settings).Reaches .empty s → ∀ row₀, .enqueued row₀ ∈ s.history →
      ∃ row, s.jobs.get? row₀.id = some row ∧ InSight Utc.bare s row := by
  intro hall
  obtain ⟨row, hrow, hsight⟩ := hall {} stoppedQueue stoppedQueue_reached (mailCall.row 1 3)
    (by simp [stoppedQueue])
  cases hrow
  cases hsight with
  | finished hstatus => cases hstatus
  | pending hstatus => cases hstatus
  | executing t w _ ht _ hw hlive =>
      cases List.mem_singleton.mp ht
      cases hw
      cases hlive
  | failed _ hstatus => cases hstatus

theorem jobs_kept_mail : ∃ row, stoppedQueue.jobs.get? 1 = some row ∧
    SameJob row (mailCall.row 1 3) ∧
      (InSight Utc.bare stoppedQueue row ∨ OutOfSight stoppedQueue row) := by
  have hqueued : Record.enqueued (mailCall.row 1 3) ∈ stoppedQueue.history := by
    simp [stoppedQueue]
  exact jobs_kept Utc.bare stoppedQueue_reached hqueued

/-- A job whose name is not registered. -/
def renamedCall : EnqueueCall := ⟨"default", "stat", none, [], [], 0⟩

/-- It was claimed, and failed without an execution. -/
def renamedQueue : QueueState where
  jobs := ⟨[setFailed 11 "未注册的队列任务：stat" (setRunning 10 (renamedCall.row 1 3))],
    List.nodup_singleton _⟩
  failed_jobs := ⟨[failedJob (claimedRow (setRunning 10 (renamedCall.row 1 3))) 1
    "未注册的队列任务：stat" "2026-05-15 00:00:11"], List.nodup_singleton _⟩
  workers := ⟨[⟨7, ["default"], .live⟩], nodup_seven⟩
  tasks := []
  history := [.recorded 1 (failedJob (claimedRow (setRunning 10 (renamedCall.row 1 3))) 1
    "未注册的队列任务：stat" "2026-05-15 00:00:11"), .unregistered 1, .claimed 1 10,
    .enqueued (renamedCall.row 1 3)]

theorem renamedQueue_reached : (queue {}).Reaches .empty renamedQueue := by
  have hrun : (queue {}).run .empty
      [.enqueue_job 1 renamedCall, .run_worker 7 [], .claim_jobs 7 10 [], .task 0 .call,
        .task 0 (.fail_job 11 .committed),
        .task 0 (.record_failed_job 1 "2026-05-15 00:00:11" .committed)]
        = some renamedQueue := rfl
  exact Machine.Reaches.of_run hrun

/-- **`attempts` does not count executions**: this job has one attempt and was never
    executed. -/
theorem claims_exclusive_renamed : ¬ ∀ (settings : QueueSettings) (s : QueueState),
    (queue settings).Reaches .empty s → ∀ row ∈ s.jobs.rows,
      row.attempts = (s.historyOf row.id).countP Record.isStart := by
  intro hall
  have hcount := hall {} renamedQueue renamedQueue_reached _ (List.mem_singleton_self _)
  revert hcount
  decide

/-- Two workers share two mails.  The first mail raises and waits until 16, so that a claim at 12
    passes over it and a claim at 16 takes it again. -/
def sharedMails : List QueueEvent :=
  [.enqueue_job 1 mailCall, .enqueue_job 2 mailCall, .run_worker 7 ["send_email"],
    .run_worker 8 ["send_email"], .claim_jobs 7 10 [2], .claim_jobs 8 10 [1], .task 0 .call,
    .task 0 (.raises "SMTPException"), .task 0 (.fail_job 11 .committed), .claim_jobs 7 12 [],
    .task 0 .call, .claim_jobs 7 16 []]

/-- Each worker has one of them in the end, and the first one has been claimed twice. -/
theorem claims_exclusive_mail : ∃ s, (queue {}).Reaches .empty s ∧
    s.tasks.map (fun t => (t.worker, t.job.id, t.job.attempts)) = [(8, 2, 1), (7, 1, 2)] ∧
      (∀ (i j : Nat) (t u : Task), s.tasks[i]? = some t → s.tasks[j]? = some u →
        t.job.id = u.job.id → i = j) ∧
      ∀ row ∈ s.jobs.rows, Claims {} s row := by
  have hrun : ((queue {}).run .empty sharedMails).map (fun s : QueueState =>
      s.tasks.map fun t => (t.worker, t.job.id, t.job.attempts)) =
        some [(8, 2, 1), (7, 1, 2)] := rfl
  obtain ⟨s, hs, htasks⟩ := Option.map_eq_some_iff.mp hrun
  have hreached := Machine.Reaches.of_run hs
  exact ⟨s, hreached, htasks, claims_exclusive hreached⟩

end PyBoard.Queues
