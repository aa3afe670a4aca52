/-
  PyBoard.Results.Drain — which queues a worker without a filter serves.

  `run_worker` without a filter claims from `queue_default_name` alone.  A job on another
  queue keeps its row, whatever such workers and their jobs do (`foreign_kept`), so the
  worker of `--once` returns over it.  The docs start the workers of an installation
  without a filter, and `check_order` and the traffic reports enqueue on other queues.

    • `default_worker_drains_iff` — when nothing due remains where such a worker returns.
-/
import PyBoard.Specs.Queue

namespace PyBoard.Queues

open Relational

variable {settings : QueueSettings}

/-! ## §1. Workers without a filter. -/

/-- The event starts no worker with a filter. -/
def QueueEvent.unfiltered : QueueEvent → Bool
  | .run_worker _ queues => queues.isEmpty
  | _ => true

/-- Every worker serves the default queue alone, and every task is a job of it. -/
structure Unfiltered (settings : QueueSettings) (s : QueueState) : Prop where
  workers : ∀ w ∈ s.workers.rows, w.queues = [settings.queue_default_name]
  tasks : ∀ t ∈ s.tasks, ∃ row, s.jobs.get? t.job.id = some row ∧
    row.queue = settings.queue_default_name

/-- Any jobs, before the first worker starts. -/
theorem Unfiltered.of_idle {s : QueueState} (hworkers : s.workers.rows = [])
    (htasks : s.tasks = []) :
    Unfiltered settings s := by
  constructor
  · intro w hw
    rw [hworkers] at hw
    cases hw
  · intro t ht
    rw [htasks] at ht
    cases ht

/-- A task after a step was a task before it, at an earlier phase, or is of the rows that a
    worker has just claimed. -/
theorem task_origin {s s' : QueueState} {e : QueueEvent} (h : (queue settings).step s e = some s')
    {t : Task} (ht : t ∈ s'.tasks) :
    (∃ t₀ ∈ s.tasks, t₀.job = t.job) ∨
      ∃ w ∈ s.workers.rows, ∃ now skip row,
        row ∈ picked s.jobs w.queues now settings.queue_max_jobs skip ∧
          t.job.id = row.id := by
  have hinsert : ∀ row : QueueJob, s.insertJob row = some s' → ∃ t₀ ∈ s.tasks, t₀.job = t.job := by
    intro row hrow
    obtain ⟨rfl, -⟩ | ⟨-, -, rfl⟩ := insertJob_cases hrow <;> exact ⟨t, ht, rfl⟩
  cases e with
  | enqueue_job id call => exact .inl (hinsert _ h)
  | pyboard_enqueue_queue_job id call => exact .inl (hinsert _ h)
  | run_worker pid queues =>
      simp only [queue, QueueState.step] at h
      split at h
      · cases h
      · cases h
        exact .inl ⟨t, ht, rfl⟩
  | claim_jobs pid now skip =>
      obtain ⟨w, hw, h⟩ := Option.bind_eq_some_iff.mp h
      split at h
      · cases h
        rcases List.mem_append.mp ht with hold | hnew
        · exact .inl ⟨t, hold, rfl⟩
        · obtain ⟨row, hrow, rfl⟩ := List.mem_map.mp hnew
          exact .inr ⟨w, Table.mem_of_get? hw, now, skip, row, hrow, rfl⟩
      · cases h
  | task i e =>
      obtain ⟨pre, t₀, post, w, st, hts, -, -, hmove, rfl⟩ := stepTask_cases h
      rw [apply_tasks st w (hmove.tasks_workers.1.trans hts)] at ht
      left
      rw [hts]
      rcases List.mem_append.mp ht with hmem | hmem
      · rcases List.mem_append.mp hmem with hpre | hnext
        · exact ⟨t, List.mem_append_left _ hpre, rfl⟩
        · unfold TaskStep.next at hnext
          obtain ⟨phase, -, rfl⟩ := Option.map_eq_some_iff.mp (Option.mem_toList.mp hnext)
          exact ⟨t₀, List.mem_append_right _ List.mem_cons_self, rfl⟩
      · exact ⟨t, List.mem_append_right _ (List.mem_cons_of_mem _ hmem), rfl⟩
  | stop pid =>
      obtain ⟨w, -, h⟩ := Option.bind_eq_some_iff.mp h
      cases h
      exact .inl ⟨t, ht, rfl⟩
  | discard k =>
      obtain ⟨row, -, h⟩ := Option.bind_eq_some_iff.mp h
      cases h
      exact .inl ⟨t, ht, rfl⟩

/-- A worker after a step has the queues that it was started with. -/
theorem worker_origin {s s' : QueueState} {e : QueueEvent} (h : (queue settings).step s e = some s')
    {w : Worker} (hw : w ∈ s'.workers.rows) :
    (∃ w₀ ∈ s.workers.rows, w₀.queues = w.queues) ∨
      ∃ queues, e = .run_worker w.pid queues ∧
        w.queues = if queues.isEmpty then [settings.queue_default_name] else queues := by
  have hset : ∀ w₀ status, w₀ ∈ s.workers.rows →
      w ∈ (s.workers.put { w₀ with status := status }).rows →
      ∃ w₀ ∈ s.workers.rows, w₀.queues = w.queues := by
    intro w₀ status hw₀ hmem
    obtain rfl | ⟨hmem, -⟩ := Table.mem_put.mp hmem
    · exact ⟨w₀, hw₀, rfl⟩
    · exact ⟨w, hmem, rfl⟩
  have hinsert : ∀ row : QueueJob, s.insertJob row = some s' →
      ∃ w₀ ∈ s.workers.rows, w₀.queues = w.queues := by
    intro row hrow
    obtain ⟨rfl, -⟩ | ⟨-, -, rfl⟩ := insertJob_cases hrow <;> exact ⟨w, hw, rfl⟩
  cases e with
  | enqueue_job id call => exact .inl (hinsert _ h)
  | pyboard_enqueue_queue_job id call => exact .inl (hinsert _ h)
  | run_worker pid queues =>
      simp only [queue, QueueState.step] at h
      split at h
      · cases h
      · cases h
        obtain rfl | ⟨hmem, -⟩ := Table.mem_put.mp hw
        · exact .inr ⟨queues, rfl, rfl⟩
        · exact .inl ⟨w, hmem, rfl⟩
  | claim_jobs pid now skip =>
      obtain ⟨w₀, -, h⟩ := Option.bind_eq_some_iff.mp h
      split at h
      · cases h
        exact .inl ⟨w, hw, rfl⟩
      · cases h
  | task i e =>
      obtain ⟨pre, t, post, w₀, st, -, hw₀, -, hmove, rfl⟩ := stepTask_cases h
      have hworkers := hmove.tasks_workers.2
      have hmem₀ := Table.mem_of_get? hw₀
      left
      unfold TaskStep.apply QueueState.setWorker at hw
      cases hescapes : st.escapes with
      | true =>
          rw [hescapes, if_pos rfl, hworkers] at hw
          exact hset w₀ .raised hmem₀ hw
      | false =>
          rw [hescapes, if_neg Bool.false_ne_true] at hw
          exact ⟨w, hworkers ▸ hw, rfl⟩
  | stop pid =>
      obtain ⟨w₀, hw₀, h⟩ := Option.bind_eq_some_iff.mp h
      cases h
      exact .inl (hset w₀ .stopped (Table.mem_of_get? hw₀) hw)
  | discard k =>
      obtain ⟨row, -, h⟩ := Option.bind_eq_some_iff.mp h
      cases h
      exact .inl ⟨w, hw, rfl⟩

/-- A worker picks from its queues. -/
theorem queue_of_picked {jobs : Table QueueJob.id} {queues : List String} {now : Int} {limit : Nat}
    {skip : List Int} {row : QueueJob} (h : row ∈ picked jobs queues now limit skip) :
    row.queue ∈ queues := by
  have hsorted := List.mem_of_mem_filter (List.mem_of_mem_take h)
  obtain ⟨-, hclaim⟩ := List.mem_filter.mp ((List.mem_insertionSort _).mp hsorted)
  simp only [claimable, Bool.and_eq_true, decide_eq_true_eq] at hclaim
  exact hclaim.1.2

/-- **The step lemma.** -/
theorem Unfiltered.step {s s' : QueueState} {e : QueueEvent} (hs : Unfiltered settings s)
    (he : e.unfiltered = true) (h : (queue settings).step s e = some s') :
    Unfiltered settings s' := by
  constructor
  · intro w hw
    obtain ⟨w₀, hw₀, hqueues⟩ | ⟨queues, rfl, hqueues⟩ := worker_origin h hw
    · rw [← hqueues]
      exact hs.workers w₀ hw₀
    · have hempty : queues.isEmpty = true := he
      rw [hqueues, if_pos hempty]
  · intro t ht
    obtain ⟨t₀, ht₀, hjob⟩ | ⟨w, hw, now, skip, row, hrow, hid⟩ := task_origin h ht
    · obtain ⟨row, hrow, hqueue⟩ := hs.tasks t₀ ht₀
      rw [hjob] at hrow
      obtain ⟨row', hrow', hsame⟩ := queue_kept h hrow
      exact ⟨row', hrow', hsame.trans hqueue⟩
    · have hqueue := queue_of_picked hrow
      rw [hs.workers w hw] at hqueue
      have hget : s.jobs.get? t.job.id = some row :=
        hid ▸ Table.get?_of_mem (mem_picked hrow).1
      obtain ⟨row', hrow', hsame⟩ := queue_kept h hget
      exact ⟨row', hrow', hsame.trans (List.mem_singleton.mp hqueue)⟩

/-! ## §2. The jobs of the other queues. -/

/-- An UPDATE of rows of the default queue leaves the others alone. -/
theorem mem_update_foreign {jobs : Table QueueJob.id} {p : QueueJob → Bool}
    (f : QueueJob → QueueJob) (hf : ∀ r, (f r).id = r.id) {name : String}
    (hp : ∀ r ∈ jobs.rows, p r = true → r.queue = name) (hfq : ∀ r, (f r).queue = r.queue)
    {row : QueueJob} (hrow : row.queue ≠ name) :
    row ∈ (jobs.update p f hf).rows ↔ row ∈ jobs.rows := by
  constructor
  · intro hmem
    obtain ⟨r, hr, rfl⟩ := List.mem_map.mp hmem
    by_cases hpr : p r = true
    · rw [if_pos hpr] at hrow
      exact absurd ((hfq r).trans (hp r hr hpr)) hrow
    · rw [if_neg hpr]
      exact hr
  · intro hmem
    have hpr : ¬p row = true := fun h => hrow (hp row hmem h)
    exact List.mem_map.mpr ⟨row, hmem, if_neg hpr⟩

/-- The row that an event puts into the queue, when it does. -/
def QueueEvent.inserts (settings : QueueSettings) : QueueEvent → Option QueueJob
  | .enqueue_job id call => some (call.row id settings.queue_max_tries)
  | .pyboard_enqueue_queue_job id call => some (call.row id 3)
  | _ => none

/-- **A job of another queue keeps its row**: only an INSERT adds one, and no step takes
    one away or changes it. -/
theorem foreign_kept {s s' : QueueState} {e : QueueEvent} (hs : Unfiltered settings s)
    (h : (queue settings).step s e = some s') {row : QueueJob}
    (hrow : row.queue ≠ settings.queue_default_name) :
    row ∈ s'.jobs.rows ↔ row ∈ s.jobs.rows ∨
      ∃ r, e.inserts settings = some r ∧ s.accepts r ∧ row = r := by
  have hsame : ∀ {jobs : Table QueueJob.id}, (row ∈ jobs.rows ↔ row ∈ s.jobs.rows) →
      (row ∈ jobs.rows ↔ row ∈ s.jobs.rows ∨
        ∃ r, (none : Option QueueJob) = some r ∧ s.accepts r ∧ row = r) := by
    intro jobs hiff
    rw [hiff]
    constructor
    · exact .inl
    · rintro (hr | ⟨r, hnone, -⟩)
      · exact hr
      · cases hnone
  cases e with
  | enqueue_job id call =>
      rw [mem_insertJob h]
      refine or_congr_right ⟨fun hr => ⟨_, rfl, hr⟩, ?_⟩
      rintro ⟨r, hr, hr'⟩
      cases hr
      exact hr'
  | pyboard_enqueue_queue_job id call =>
      rw [mem_insertJob h]
      refine or_congr_right ⟨fun hr => ⟨_, rfl, hr⟩, ?_⟩
      rintro ⟨r, hr, hr'⟩
      cases hr
      exact hr'
  | run_worker pid queues =>
      simp only [queue, QueueState.step] at h
      split at h
      · cases h
      · cases h
        exact hsame Iff.rfl
  | claim_jobs pid now skip =>
      obtain ⟨w, hw, h⟩ := Option.bind_eq_some_iff.mp h
      split at h
      · cases h
        refine hsame
          (mem_update_foreign (setRunning now) (setRunning_id now) ?_ (fun _ => rfl) hrow)
        intro r hr hpicked
        obtain ⟨r', hr', hid⟩ := List.mem_map.mp (of_decide_eq_true hpicked)
        have heq : r' = r := s.jobs.eq_of_key_eq (mem_picked hr').1 hr hid
        have hqueue := queue_of_picked hr'
        rw [hs.workers w (Table.mem_of_get? hw), heq] at hqueue
        exact List.mem_singleton.mp hqueue
      · cases h
  | task i e =>
      obtain ⟨pre, t, post, w, st, hts, -, -, hmove, rfl⟩ := stepTask_cases h
      rw [apply_jobs]
      -- an UPDATE of the task's own row, or none
      have hown : ∀ r ∈ s.jobs.rows, decide (r.id = t.job.id) = true →
          r.queue = settings.queue_default_name := by
        intro r hr hid
        obtain ⟨r', hr', hqueue⟩ := hs.tasks t (hts ▸ List.mem_append_right _ List.mem_cons_self)
        have hget : s.jobs.get? t.job.id = some r := of_decide_eq_true hid ▸ Table.get?_of_mem hr
        rw [hget] at hr'
        cases hr'
        exact hqueue
      cases hmove with
      | started _ => exact hsame Iff.rfl
      | unregistered _ _ => exact hsame Iff.rfl
      | moved _ _ _ _ _ => exact hsame Iff.rfl
      | finished now _ _ =>
          exact hsame (mem_update_foreign (setFinished now) (setFinished_id now) hown
            (fun _ => rfl) hrow)
      | retried scheduled_at exc _ _ _ _ =>
          exact hsame (mem_update_foreign (setPending scheduled_at exc) (setPending_id _ _) hown
            (fun _ => rfl) hrow)
      | failed _ now exc _ _ _ =>
          exact hsame (mem_update_foreign (setFailed now exc) (setFailed_id now exc) hown
            (fun _ => rfl) hrow)
      | recorded _ _ _ _ _ _ => exact hsame Iff.rfl
  | stop pid =>
      obtain ⟨w, -, h⟩ := Option.bind_eq_some_iff.mp h
      cases h
      exact hsame Iff.rfl
  | discard k =>
      obtain ⟨row, -, h⟩ := Option.bind_eq_some_iff.mp h
      cases h
      exact hsame Iff.rfl

/-! ## §3. Where a worker without a filter returns. -/

/-- The job is on a declared queue, pending and due. -/
def IsDue (now : Int) (row : QueueJob) : Prop :=
  row.queue ∈ QUEUE_NAMES ∧ row.status = .pending ∧ row.scheduled_at ≤ now

/-- No job of a declared queue is due. -/
def Drained (s : QueueState) (now : Int) : Prop := ∀ row ∈ s.jobs.rows, ¬IsDue now row

/-- The job is due on a queue that no worker without a filter serves. -/
def Missed (settings : QueueSettings) (now : Int) (row : QueueJob) : Prop :=
  IsDue now row ∧ row.queue ≠ settings.queue_default_name

/-- No job is due where no worker without a filter looks. -/
def NoneMissed (settings : QueueSettings) (now : Int) (s : QueueState) : Prop :=
  ∀ row ∈ s.jobs.rows, ¬Missed settings now row

/-- The step puts no job into the queue that is due by `now` on another queue. -/
def EnqueuesServed (settings : QueueSettings) (now : Int) (s : QueueState) (e : QueueEvent) :
    Prop :=
  ∀ row, e.inserts settings = some row → s.accepts row → ¬Missed settings now row

/-- The last claim can see every due job of the default queue: no other transaction has it
    locked, and the limit lets a job through. -/
def ClaimSees (settings : QueueSettings) (s : QueueState) (now : Int) (skip : List Int) : Prop :=
  ∀ row ∈ s.jobs.rows, IsDue now row → row.queue = settings.queue_default_name →
    row.id ∉ skip ∧ settings.queue_max_jobs ≠ 0

/-- A claim that gets nothing has none of its rows to see. -/
theorem picked_empty {jobs : Table QueueJob.id} {queues : List String} {now : Int} {limit : Nat}
    {skip : List Int} (h : picked jobs queues now limit skip = []) (hlimit : limit ≠ 0)
    {row : QueueJob} (hrow : row ∈ jobs.rows) (hskip : row.id ∉ skip) :
    claimable queues now row = false := by
  rcases List.take_eq_nil_iff.mp h with h0 | hnil
  · exact absurd h0 hlimit
  · by_contra hclaim
    rw [Bool.not_eq_false] at hclaim
    have hmem : row ∈ (jobs.rows.filter (claimable queues now)).insertionSort scheduledBefore :=
      (List.mem_insertionSort _).mpr (List.mem_filter.mpr ⟨hrow, hclaim⟩)
    have hout := List.filter_eq_nil_iff.mp hnil row hmem
    exact hout (decide_eq_true hskip)

theorem returnsOnce_picked {s : QueueState} {pid : Nat} {now : Int} {skip : List Int}
    (h : s.returnsOnce settings pid now skip = true) :
    ∃ w ∈ s.workers.rows, picked s.jobs w.queues now settings.queue_max_jobs skip = [] := by
  unfold QueueState.returnsOnce at h
  split at h
  · next w hw =>
    rw [Bool.and_eq_true, List.isEmpty_iff] at h
    exact ⟨w, Table.mem_of_get? hw, h.2⟩
  · cases h

/-- What remains where a worker returns is on another queue, or out of the claim's sight. -/
theorem drained_iff {s : QueueState} (hs : Unfiltered settings s) {pid : Nat} {now : Int}
    {skip : List Int} (h : s.returnsOnce settings pid now skip = true) :
    Drained s now ↔ NoneMissed settings now s ∧ ClaimSees settings s now skip := by
  obtain ⟨w, hw, hpicked⟩ := returnsOnce_picked h
  rw [hs.workers w hw] at hpicked
  constructor
  · intro hdrained
    exact ⟨fun row hrow hmissed => hdrained row hrow hmissed.1,
      fun row hrow hdue _ => absurd hdue (hdrained row hrow)⟩
  · rintro ⟨hmissed, hsees⟩ row hrow hdue
    by_cases hqueue : row.queue = settings.queue_default_name
    · obtain ⟨hskip, hlimit⟩ := hsees row hrow hdue hqueue
      have hno := picked_empty hpicked hlimit hrow hskip
      obtain ⟨-, hstatus, htime⟩ := hdue
      simp [claimable, hqueue, hstatus, htime] at hno
    · exact hmissed row hrow ⟨hdue, hqueue⟩

/-- **When the default worker drains the queue.**  Workers without a filter run, among any
    other steps, from any jobs `s₀`, and one of them gets nothing at `now`.  Then no job of a
    declared queue is due if and only if none was due on another queue at the start, none was
    put there since, and the last claim could see the default queue. -/
theorem default_worker_drains_iff {s₀ s : QueueState} {es : List QueueEvent}
    (hs₀ : Unfiltered settings s₀) (hes : ∀ e ∈ es, e.unfiltered = true)
    (hrun : (queue settings).run s₀ es = some s) {pid : Nat} {now : Int} {skip : List Int}
    (hreturn : s.returnsOnce settings pid now skip = true) :
    Drained s now ↔ (NoneMissed settings now s₀ ∧
      (queue settings).Meets (EnqueuesServed settings now) s₀ es) ∧
        ClaimSees settings s now skip := by
  have hstep : ∀ a e b, e ∈ es → Unfiltered settings a → (queue settings).step a e = some b →
      Unfiltered settings b := fun a e b he ha hab => ha.step (hes e he) hab
  rw [drained_iff (Machine.run_invariant hstep hrun hs₀) hreturn]
  refine and_congr_left fun _ => Machine.run_iff hstep ?_ hrun hs₀
  intro a e b _ ha hab
  constructor
  · intro hb
    constructor
    · intro row hrow hmissed
      exact hb row ((foreign_kept ha hab hmissed.2).mpr (.inl hrow)) hmissed
    · intro row hinserts haccepts hmissed
      exact hb row ((foreign_kept ha hab hmissed.2).mpr (.inr ⟨row, hinserts, haccepts, rfl⟩))
        hmissed
  · rintro ⟨ha', hcond⟩ row hrow hmissed
    obtain hrow | ⟨r, hinserts, haccepts, rfl⟩ := (foreign_kept ha hab hmissed.2).mp hrow
    · exact ha' row hrow hmissed
    · exact hcond row hinserts haccepts hmissed

/-- A job on the default queue that nothing registers. -/
def plainCall : EnqueueCall := ⟨"default", "ping", none, [], [], 0⟩

/-- The worker takes it, and comes back for more. -/
def plainRun : List QueueEvent :=
  [.enqueue_job 1 plainCall, .run_worker 7 [], .claim_jobs 7 10 [], .task 0 .call,
    .task 0 (.fail_job 11 .committed), .task 0 (.record_failed_job 1 "2026-05-15" .committed)]

/-- What the run leaves. -/
def plainQueue : QueueState where
  jobs := ⟨[setFailed 11 "未注册的队列任务：ping" (setRunning 10 (plainCall.row 1 3))],
    List.nodup_singleton _⟩
  failed_jobs := ⟨[failedJob (claimedRow (setRunning 10 (plainCall.row 1 3))) 1
    "未注册的队列任务：ping" "2026-05-15"], List.nodup_singleton _⟩
  workers := ⟨[⟨7, ["default"], .live⟩], List.nodup_singleton _⟩
  tasks := []
  history := [.recorded 1 (failedJob (claimedRow (setRunning 10 (plainCall.row 1 3))) 1
    "未注册的队列任务：ping" "2026-05-15"), .unregistered 1, .claimed 1 10,
    .enqueued (plainCall.row 1 3)]

theorem default_worker_drains_plain : Drained plainQueue 20 ↔ (NoneMissed {} 20 .empty ∧
    (queue {}).Meets (EnqueuesServed {} 20) .empty plainRun) ∧ ClaimSees {} plainQueue 20 [] := by
  have hrun : (queue {}).run .empty plainRun = some plainQueue := rfl
  have hreturn : plainQueue.returnsOnce {} 7 20 [] = true := by decide +kernel
  exact default_worker_drains_iff (Unfiltered.of_idle rfl rfl) (by decide) hrun hreturn

/-- The statistics of a traffic report. -/
def statCall : EnqueueCall := ⟨QUEUE_STAT, "stat_server", none, [], [], 0⟩

/-- **The default worker serves one queue**: it returns over a job that is due. -/
theorem default_worker_leaves_stat : ¬ ∀ (s₀ s : QueueState) (es : List QueueEvent) (pid : Nat)
    (now : Int), Unfiltered {} s₀ → (∀ e ∈ es, e.unfiltered = true) →
      (queue {}).run s₀ es = some s → s.returnsOnce {} pid now [] = true → Drained s now := by
  intro hall
  have hdrained := hall .empty _ [.enqueue_job 1 statCall, .run_worker 7 []] 7 10
    (Unfiltered.of_idle rfl rfl) (by decide) rfl (by decide +kernel)
  exact hdrained (statCall.row 1 3) (List.mem_singleton_self _) ⟨by decide, rfl, by decide⟩

end PyBoard.Queues
