/-
  PyBoard.Results.Expiry — when unpaid orders expire.

  The scan enqueues an order under a key that no later scan can use again: the row of
  the job stays when the job is finished.  So an order that was handled while it was
  young is not handled again, and one that nobody pays stays pending for ever
  (`expired_left_pending`).  `expired_cancelled_iff` says for which orders a scan and
  the jobs behind it do their work.
-/
import PyBoard.Queues.Maintenance
import PyBoard.Results.Queue
import PyBoard.Specs.Serial
import PyBoard.Python.Utc

namespace PyBoard.Queues

open Relational

variable {settings : QueueSettings} {rt : Runtime}

/-! ## §1. What the scan enqueues. -/

/-- No job has the key of the order. -/
def KeyFree (s : QueueState) (trade_no : String) : Prop :=
  ∀ r ∈ s.jobs.rows, r.job_key ≠ some (orderHandleKey trade_no)

/-- A job for the order waits in the queue. -/
def Queued (s : QueueState) (trade_no : String) : Prop :=
  ∃ r ∈ queuedOrderJobs s, r.args = [.str trade_no]

theorem mem_queuedOrderJobs {s : QueueState} {r : QueueJob} :
    r ∈ queuedOrderJobs s ↔ r ∈ s.jobs.rows ∧ r.status = .pending ∧
      r.job_name = "order_handle" := by
  simp [queuedOrderJobs]

theorem orderHandleKey_inj {a b : String} (h : orderHandleKey a = orderHandleKey b) : a = b := by
  simpa [orderHandleKey] using h

/-- One INSERT of the scan: the order is queued, or its key was taken before. -/
theorem enqueueOrder_spec {s s' : QueueState} {id now : Int} {trade_no : String}
    (h : enqueue_job settings s id (orderHandleCall trade_no now) = some s') :
    (∀ r ∈ s.jobs.rows, r ∈ s'.jobs.rows) ∧
      (∀ r ∈ s'.jobs.rows, r ∈ s.jobs.rows ∨ KeyFree s trade_no ∧
        r.job_key = some (orderHandleKey trade_no) ∧ r.args = [.str trade_no]) ∧
      (KeyFree s trade_no → Queued s' trade_no) := by
  obtain ⟨rfl, r, hr, hkey⟩ | ⟨hfresh, hfree, rfl⟩ := insertJob_cases h
  · refine ⟨fun _ hr => hr, fun _ hr => .inl hr, ?_⟩
    intro hkf
    exact absurd hkey (hkf r hr)
  · have hkf : KeyFree s trade_no := fun r hr => hfree rfl r hr
    refine ⟨?_, ?_, ?_⟩
    · intro r hr
      exact Table.mem_put.mpr (.inr ⟨hr, Table.get?_eq_none.mp hfresh r hr⟩)
    · intro r hr
      rcases Table.mem_put.mp hr with rfl | ⟨hold, -⟩
      · exact .inr ⟨hkf, rfl, rfl⟩
      · exact .inl hold
    · intro _
      exact ⟨_, mem_queuedOrderJobs.mpr ⟨Table.mem_put.mpr (.inl rfl), rfl, rfl⟩, rfl⟩

theorem Queued.mono {s s' : QueueState} {trade_no : String} (h : Queued s trade_no)
    (hrows : ∀ r ∈ s.jobs.rows, r ∈ s'.jobs.rows) : Queued s' trade_no := by
  obtain ⟨r, hr, hargs⟩ := h
  obtain ⟨hmem, hrest⟩ := mem_queuedOrderJobs.mp hr
  exact ⟨r, mem_queuedOrderJobs.mpr ⟨hrows r hmem, hrest⟩, hargs⟩

/-- The whole scan: the rows stay, only free keys are taken, and every free key is. -/
theorem enqueueOrders_spec {orders : List Order} {s s' : QueueState} {draws : List (Int × Int)}
    (h : enqueueOrders settings s orders draws = some s') :
    (∀ r ∈ s.jobs.rows, r ∈ s'.jobs.rows) ∧
      (∀ trade_no, Queued s' trade_no → Queued s trade_no ∨ KeyFree s trade_no) ∧
      (∀ o ∈ orders, KeyFree s o.trade_no → Queued s' o.trade_no) := by
  induction orders generalizing s draws with
  | nil =>
      cases h
      exact ⟨fun _ hr => hr, fun _ hq => .inl hq, fun _ ho => by cases ho⟩
  | cons o orders ih =>
      cases draws with
      | nil => cases h
      | cons draw draws =>
          obtain ⟨s₁, hs₁, hrest⟩ := Option.bind_eq_some_iff.mp h
          obtain ⟨hkeep, hnew, hqueue⟩ := enqueueOrder_spec hs₁
          obtain ⟨hkeep', honly, hall⟩ := ih hrest
          refine ⟨fun r hr => hkeep' r (hkeep r hr), ?_, ?_⟩
          · intro trade_no hq
            obtain ⟨r, hr, hargs⟩ | hfree := honly trade_no hq
            · obtain ⟨hmem, hpending⟩ := mem_queuedOrderJobs.mp hr
              obtain hold | ⟨hfree, -, hargs'⟩ := hnew r hmem
              · exact .inl ⟨r, mem_queuedOrderJobs.mpr ⟨hold, hpending⟩, hargs⟩
              · rw [hargs] at hargs'
                cases hargs'
                exact .inr hfree
            · exact .inr fun r hr => hfree r (hkeep r hr)
          · intro x hx hfree
            by_cases hfree₁ : KeyFree s₁ x.trade_no
            · rcases List.mem_cons.mp hx with rfl | hx
              · exact (hqueue hfree).mono hkeep'
              · exact hall x hx hfree₁
            · -- the order before it in the scan has the same trade number
              unfold KeyFree at hfree₁
              push Not at hfree₁
              obtain ⟨r, hr, hkey⟩ := hfree₁
              obtain hold | ⟨hfree', hkey', -⟩ := hnew r hr
              · exact absurd hkey (hfree r hold)
              · rw [hkey'] at hkey
                have htrade : o.trade_no = x.trade_no := orderHandleKey_inj (Option.some.inj hkey)
                rw [← htrade]
                exact (hqueue hfree').mono hkeep'

/-- **After the scan** an open order is queued if it was queued before, or its key was
    free. -/
theorem check_order_queued {s s' : QueueState} {db : Database} {draws : List (Int × Int)}
    (h : check_order settings s db draws = some s') {o : Order} (ho : o ∈ (db .orders).rows)
    (hopen : o.status = 0) : Queued s' o.trade_no ↔ KeyFree s o.trade_no ∨ Queued s o.trade_no := by
  obtain ⟨hkeep, honly, hall⟩ := enqueueOrders_spec h
  have hscanned : o ∈ openOrders db := by
    unfold openOrders
    rw [List.mem_insertionSort, List.mem_filter]
    exact ⟨ho, by simp [hopen]⟩
  constructor
  · intro hq
    exact (honly _ hq).symm
  · rintro (hfree | hq)
    · exact hall o hscanned hfree
    · exact hq.mono hkeep

/-! ## §2. What one job does. -/

/-- What handling `trade_no` at `now` makes of an order. -/
inductive Handled (now : Int) (trade_no : String) : Option Order → Option Order → Prop
  | same (o : Option Order) (h : ∀ x, o = some x →
      x.trade_no ≠ trade_no ∨ x.status ≠ 0 ∨ now - 3600 * 2 < x.created_at) :
      Handled now trade_no o o
  | expired (o : Order) (htrade : o.trade_no = trade_no) (hst : o.status = 0) :
      Handled now trade_no (some o) (some { o with status := 2 })
  | opened (o o' : Order) (htrade : o.trade_no = trade_no) (hst : o.status = 1)
      (hst' : o'.status = 3) : Handled now trade_no (some o) (some o')

/-- The order that `get_by_trade_no` finds is the only one with its trade number. -/
theorem getByTradeNo_run {s : State Tbl} {trade_no : String} {r : Option Order} {ss : Session Tbl}
    (hrun : (OrderRepository.getByTradeNo trade_no).run s Session.fresh = (.ok r, ss)) :
    ss = Session.fresh ∧ (∀ o ∈ (s.db .orders).rows, o.trade_no = trade_no → r = some o) ∧
      ∀ o, r = some o → (s.db .orders).get? o.id = some o ∧ o.trade_no = trade_no := by
  unfold OrderRepository.getByTradeNo at hrun
  rw [Prog.bind_eq, Prog.run_bind] at hrun
  have hsel : (Prog.select Tbl.orders fun (o : Order) => o.trade_no = trade_no : Db _).run s
      Session.fresh = (.ok ((s.db .orders).rows.filter fun o : Order => o.trade_no = trade_no),
        Session.fresh) := rfl
  rw [hsel] at hrun
  have hmem : ∀ o : Order, o ∈ (s.db .orders).rows.filter (fun o : Order => o.trade_no = trade_no) ↔
      o ∈ (s.db .orders).rows ∧ o.trade_no = trade_no := by
    intro o
    rw [List.mem_filter, decide_eq_true_eq]
  generalize (s.db .orders).rows.filter (fun o : Order => o.trade_no = trade_no) = found
    at hrun hmem
  match found with
  | [] =>
      cases hrun
      refine ⟨rfl, ?_, fun o ho => by cases ho⟩
      intro o ho htrade
      cases (hmem o).mpr ⟨ho, htrade⟩
  | [x] =>
      cases hrun
      refine ⟨rfl, ?_, ?_⟩
      · intro o ho htrade
        rw [List.mem_singleton.mp ((hmem o).mpr ⟨ho, htrade⟩)]
      · intro o ho
        cases ho
        obtain ⟨hx, htrade⟩ := (hmem x).mp (List.mem_singleton_self x)
        exact ⟨Table.get?_of_mem hx, htrade⟩
  | x :: y :: rest => cases hrun

/-- An UPDATE of the version that is stored. -/
theorem save_order_run {s : State Tbl} {o o' : Order} {ss : Session Tbl}
    (ho : (s.db .orders).get? o.id = some o) (hid : o.id = o'.id)
    (hrun : (save .orders o o').run s Session.fresh = (.ok (), ss)) :
    s.view ss .orders = (s.db .orders).put o' := by
  have hmerge : Order.merge o o' o = o' := Tbl.orders.merge_self o o' hid
  unfold save at hrun
  rw [Prog.bind_eq, Prog.run_bind] at hrun
  have hupd : (Prog.update Tbl.orders o o' : Db _).run s Session.fresh
      = (.ok true, Session.fresh.write (.put Tbl.orders o')) := by
    show (Except.ok ((Stmt.update Tbl.orders o o').exec s Session.fresh).1,
      ((Stmt.update Tbl.orders o o').exec s Session.fresh).2) = _
    have hcur : (s.view Session.fresh Tbl.orders).get? (Schema.key o) = some o := ho
    rw [Stmt.exec_update, hcur]
    exact congrArg (fun r : Order => (Except.ok true, Session.fresh.write (.put Tbl.orders r)))
      hmerge
  rw [hupd] at hrun
  cases hrun
  exact DB.put_same s.db Tbl.orders o'

/-- Orders that the job does not look at, or leaves as they are. -/
theorem Handled.of_same {s : State Tbl} {trade_no : String} {o : Order} {id : Int}
    (hother : ∀ x, (s.db .orders).get? id = some x → x.trade_no = trade_no → x = o)
    (hleft : o.status ≠ 0 ∨ s.now - 3600 * 2 < o.created_at) :
    Handled s.now trade_no ((s.db .orders).get? id) ((s.db .orders).get? id) := by
  refine .same _ ?_
  intro x hx
  by_cases hx' : x.trade_no = trade_no
  · rw [hother x hx hx']
    exact .inr hleft
  · exact .inl hx'

/-- The opening of an order that was accepted. -/
theorem processPaidOrder_handled {fresh : Fresh} {s : State Tbl} {ss : Session Tbl} {o : Order}
    (ho : (s.db .orders).get? o.id = some o) (hst : o.status = 1)
    (hrun : (OrderService.processPaidOrder rt fresh o.id none).run s Session.fresh = (.ok (), ss))
    {id : Int}
    (hother : ∀ x, (s.db .orders).get? id = some x → x.trade_no = o.trade_no → x = o) :
    Handled s.now o.trade_no ((s.db .orders).get? id) ((s.view ss .orders).get? id) := by
  have hpost := wp_run trivial (fun _ _ => rfl)
    (show wp alone (OrderService.processPaidOrder rt fresh o.id none) _ s Session.fresh
      from processPaidOrder_spec rfl)
  rw [hrun] at hpost
  obtain ⟨ws, he, hws⟩ := hpost
  have hview : s.view ss = s.db.apply ws := by
    rw [State.view, he.ws_eq]
    rfl
  have hleft : o.status ≠ 0 := by omega
  rw [hview]
  obtain ⟨rfl, -⟩ | ⟨opened, hid, hv, -, rfl⟩ := hws
  · exact .of_same hother (.inl hleft)
  · obtain ⟨hothers, o', ho', -, hst'⟩ := hv.orders
    by_cases heq : id = opened.order.id
    · rw [heq, ho', hid, ho]
      exact .opened o o' rfl hst hst'
    · rw [hothers id heq]
      exact .of_same hother (.inl hleft)

/-- **What one `order_handle` job does to the orders.** -/
theorem orderHandle_handled {fresh : Fresh} {trade_no : String} {s : State Tbl} {ss : Session Tbl}
    (hrun : (orderHandle rt fresh trade_no).run s Session.fresh = (.ok (), ss)) (id : Int) :
    Handled s.now trade_no ((s.db .orders).get? id) ((s.view ss .orders).get? id) := by
  unfold orderHandle at hrun
  rw [Prog.bind_eq, Prog.run_bind] at hrun
  split at hrun
  · next r ss₁ hget =>
    obtain ⟨rfl, honly, hfound⟩ := getByTradeNo_run hget
    cases r with
    | none =>
        cases hrun
        refine .same _ ?_
        intro x hx
        refine .inl ?_
        intro htrade
        cases honly x (Table.mem_of_get? hx) htrade
    | some o =>
        obtain ⟨ho, rfl⟩ := hfound o rfl
        have hother : ∀ x, (s.db .orders).get? id = some x → x.trade_no = o.trade_no → x = o := by
          intro x hx hx'
          exact (Option.some.inj (honly x (Table.mem_of_get? hx) hx')).symm
        dsimp only at hrun
        split at hrun
        · next hst =>
          rw [Prog.bind_eq, Prog.run_bind] at hrun
          have htime : time.run s Session.fresh = (.ok s.now, Session.fresh) := rfl
          rw [htime] at hrun
          dsimp only at hrun
          unfold whenever at hrun
          split at hrun
          · next hexpired =>
            have hview : s.view ss .orders = (s.db .orders).put { o with status := 2 } :=
              save_order_run ho rfl hrun
            rw [hview, Table.get?_put]
            split
            · next hid =>
              have hid' : id = o.id := hid
              rw [hid', ho]
              exact .expired o rfl hst
            · next hid =>
              refine .same _ ?_
              intro x hx
              refine .inl ?_
              intro hx'
              exact hid (hother x hx hx' ▸ (Table.key_of_get? hx).symm)
          · next hyoung =>
            cases hrun
            exact .of_same hother (.inr (not_le.mp hyoung))
        · next hst =>
          split at hrun
          · next hst' => exact processPaidOrder_handled ho hst' hrun hother
          · next hst' =>
            cases hrun
            exact .of_same hother (.inl hst)
  · cases hrun

/-! ## §3. What the jobs of a scan do. -/

/-- Some job of the list is about the order. -/
def Covers (jobs : List QueueJob) (trade_no : String) : Prop :=
  ∃ job ∈ jobs, job.args = [.str trade_no]

/-- A job of the list: it runs without an error, and then the others do. -/
theorem runOrderJobs_cons {db db' : Database} {job : QueueJob} {jobs : List QueueJob}
    {draws : List (Int × Fresh)} (h : runOrderJobs rt db (job :: jobs) draws = some db') :
    ∃ now fresh rest trade_no ss, draws = (now, fresh) :: rest ∧ job.args = [.str trade_no] ∧
      (orderHandle rt fresh trade_no).run ⟨db, now⟩ Session.fresh = (.ok (), ss) ∧
      runOrderJobs rt ((⟨db, now⟩ : State Tbl).view ss) jobs rest = some db' := by
  cases draws with
  | nil => cases h
  | cons draw rest =>
      obtain ⟨now, fresh⟩ := draw
      unfold runOrderJobs at h
      split at h
      · next trade_no hargs hkwargs =>
        split at h
        · next u ss hrun => exact ⟨now, fresh, rest, trade_no, ss, rfl, hargs, hrun, h⟩
        · cases h
      · cases h

/-- **The orders that are left pending** by the jobs were pending before, and each one is
    young or no job was about it; an order without a job is left as it is. -/
theorem runOrderJobs_spec {jobs : List QueueJob} {db db' : Database} {draws : List (Int × Fresh)}
    {now : Int} (h : runOrderJobs rt db jobs draws = some db') (htimes : ∀ d ∈ draws, now ≤ d.1)
    {id : Int} {o : Order} (hst : o.status = 0) :
    ((db' .orders).get? id = some o → (db .orders).get? id = some o ∧
      (Covers jobs o.trade_no → now - 3600 * 2 < o.created_at)) ∧
    ((db .orders).get? id = some o → ¬ Covers jobs o.trade_no →
      (db' .orders).get? id = some o) := by
  induction jobs generalizing db draws with
  | nil =>
      cases draws <;> cases h <;>
        exact ⟨fun ho => ⟨ho, fun ⟨_, hmem, _⟩ => by cases hmem⟩, fun ho _ => ho⟩
  | cons job jobs ih =>
      obtain ⟨t, fresh, rest, trade_no, ss, rfl, hargs, hrun, hrest⟩ := runOrderJobs_cons h
      have ht : now ≤ t := htimes _ List.mem_cons_self
      have hhandled := orderHandle_handled hrun id
      dsimp only at hhandled
      obtain ⟨hback, hforth⟩ := ih hrest fun d hd => htimes d (List.mem_cons_of_mem _ hd)
      constructor
      · intro ho'
        obtain ⟨ho₁, hyoung⟩ := hback ho'
        rw [ho₁] at hhandled
        generalize (db .orders).get? id = old at hhandled
        cases hhandled with
        | same _ hleft =>
            refine ⟨rfl, ?_⟩
            rintro ⟨j, hj, hj'⟩
            rcases List.mem_cons.mp hj with rfl | hj
            · rw [hargs] at hj'
              cases hj'
              rcases hleft o rfl with hne | hne | hyoung'
              · exact absurd rfl hne
              · exact absurd hst hne
              · omega
            · exact hyoung ⟨j, hj, hj'⟩
        | expired => cases hst
        | opened _ _ _ _ hst' => omega
      · intro ho hnone
        have hne : o.trade_no ≠ trade_no := by
          intro htrade
          exact hnone ⟨job, List.mem_cons_self, htrade ▸ hargs⟩
        have hnone' : ¬ Covers jobs o.trade_no := by
          rintro ⟨j, hj, hj'⟩
          exact hnone ⟨j, List.mem_cons_of_mem _ hj, hj'⟩
        refine hforth ?_ hnone'
        rw [ho] at hhandled
        generalize ((⟨db, t⟩ : State Tbl).view ss .orders).get? id = new at hhandled ⊢
        cases hhandled with
        | same => rfl
        | expired _ htrade => exact absurd htrade hne
        | opened _ _ htrade => exact absurd htrade hne

theorem covers_perm {s : QueueState} {jobs : List QueueJob} (h : jobs.Perm (queuedOrderJobs s))
    (trade_no : String) : Covers jobs trade_no ↔ Queued s trade_no := by
  unfold Covers Queued
  constructor
  · rintro ⟨j, hj, hargs⟩
    exact ⟨j, h.mem_iff.mp hj, hargs⟩
  · rintro ⟨j, hj, hargs⟩
    exact ⟨j, h.mem_iff.mpr hj, hargs⟩

/-! ## §4. Expired orders. -/

/-- **When a scan cancels the expired orders**: after the scan and all queued jobs, run in any
    order at `now` or later, no expired order is pending, exactly if every expired pending
    order had a free key before the scan or a job that waited. -/
theorem expired_cancelled_iff {s s' : QueueState} {db db' : Database} {draws : List (Int × Int)}
    {jobs : List QueueJob} {runs : List (Int × Fresh)} {now : Int}
    (hscan : check_order settings s db draws = some s') (hjobs : jobs.Perm (queuedOrderJobs s'))
    (htimes : ∀ d ∈ runs, now ≤ d.1) (hrun : runOrderJobs rt db jobs runs = some db') :
    (∀ o : Order, o ∈ (db' .orders).rows → o.status = 0 → now - 3600 * 2 < o.created_at) ↔
      ∀ o : Order, o ∈ (db .orders).rows → o.status = 0 → o.created_at ≤ now - 3600 * 2 →
        KeyFree s o.trade_no ∨ Queued s o.trade_no := by
  constructor
  · intro hall o ho hst hexpired
    rw [← check_order_queued hscan ho hst, ← covers_perm hjobs]
    by_contra hnone
    have hleft : (db' .orders).get? o.id = some o :=
      (runOrderJobs_spec hrun htimes hst).2 (Table.get?_of_mem ho) hnone
    have hyoung := hall o (Table.mem_of_get? hleft) hst
    omega
  · intro hall o ho hst
    obtain ⟨hbefore, hcovered⟩ :=
      (runOrderJobs_spec hrun htimes hst).1 (Table.get?_of_mem ho)
    have hmem : o ∈ (db .orders).rows := Table.mem_of_get? hbefore
    by_contra hexpired
    have hqueued := hall o hmem hst (not_lt.mp hexpired)
    rw [← check_order_queued hscan hmem hst, ← covers_perm hjobs] at hqueued
    exact hexpired (hcovered hqueued)

/-- A deposit that nobody pays. -/
def unpaidOrder : Database := Database.empty.apply [
  .put Tbl.orders ({ id := 1, user_id := 1, plan_id := 0, type := 9, period := "deposit",
                     trade_no := "A", total_amount := 100, created_at := 1000 } : Order)]

/-- The first scan finds the order one minute old; a worker has handled it. -/
def handledQueue : QueueState where
  jobs := ⟨[setFinished 1061 (setRunning 1060 ((orderHandleCall "A" 1060).row 1 3))],
    List.nodup_singleton _⟩
  failed_jobs := Table.empty
  workers := ⟨[⟨7, ["order_handle"], .live⟩], List.nodup_singleton _⟩
  tasks := []
  history := [.started 1, .claimed 1 1060, .enqueued ((orderHandleCall "A" 1060).row 1 3)]

theorem handledQueue_reached : (queue {}).Reaches .empty handledQueue := by
  have hrun : (queue {}).run .empty
      [.enqueue_job 1 (orderHandleCall "A" 1060), .run_worker 7 ["order_handle"],
        .claim_jobs 7 1060 [], .task 0 .call, .task 0 .returns,
        .task 0 (.finish_job 1061 .committed)]
        = some handledQueue := rfl
  exact Machine.Reaches.of_run hrun

/-- **An expired order is left pending**: two hours later the scan finds the key of the
    order taken by the finished job, and no job is queued. -/
theorem expired_left_pending : ¬ ∀ (settings : QueueSettings) (rt : Runtime) (s s' : QueueState)
    (db db' : Database) (draws : List (Int × Int)) (jobs : List QueueJob)
    (runs : List (Int × Fresh)) (now : Int), (queue settings).Reaches .empty s →
      check_order settings s db draws = some s' → jobs.Perm (queuedOrderJobs s') →
      (∀ d ∈ runs, now ≤ d.1) → runOrderJobs rt db jobs runs = some db' →
      ∀ o : Order, o ∈ (db' .orders).rows → o.status = 0 → now - 3600 * 2 < o.created_at := by
  intro hall
  have hyoung := hall {} Utc.bare handledQueue handledQueue unpaidOrder unpaidOrder [(2, 9000)] []
    [] 9000 handledQueue_reached rfl (List.Perm.refl _) (by simp) rfl _ List.mem_cons_self rfl
  revert hyoung
  decide

/-- With nothing in the queue, the scan and its job leave no expired order pending. -/
theorem expired_cancelled_iff_unpaid : ∃ s' db',
    check_order {} .empty unpaidOrder [(1, 9000)] = some s' ∧
      runOrderJobs Utc.bare unpaidOrder (queuedOrderJobs s') [(9000, ⟨0, 0, ""⟩)] = some db' ∧
      ((∀ o : Order, o ∈ (db' .orders).rows → o.status = 0 → 9000 - 3600 * 2 < o.created_at) ↔
        ∀ o : Order, o ∈ (unpaidOrder .orders).rows → o.status = 0 →
          o.created_at ≤ 9000 - 3600 * 2 → KeyFree .empty o.trade_no ∨
            Queued .empty o.trade_no) := by
  have htimes : ∀ d ∈ ([(9000, ⟨0, 0, ""⟩)] : List (Int × Fresh)), (9000 : Int) ≤ d.1 := by simp
  exact ⟨_, _, rfl, rfl, @expired_cancelled_iff {} Utc.bare .empty _ unpaidOrder _ [(1, 9000)] _
    [(9000, ⟨0, 0, ""⟩)] 9000 rfl (List.Perm.refl _) htimes rfl⟩

end PyBoard.Queues
