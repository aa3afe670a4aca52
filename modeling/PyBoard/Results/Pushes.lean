/-
  PyBoard.Results.Pushes — a push that fails, and the jobs that it leaves.

  Where a push stands is told by how many of its calls have returned: the jobs that it put
  into the queue are the first of its three (`PushOk`).  A job stays in the table, so a push
  leaves nothing just when it fails before its first INSERT has committed.

    • `push_all_or_nothing_iff` — the runs in which no failed push leaves a job.
-/
import PyBoard.Python.Utc
import PyBoard.Services.Push
import PyBoard.Specs.Queue

namespace PyBoard

open Relational Queues ServerService

variable {rt : Runtime} {settings : QueueSettings}

/-! ## §1. Where a push stands. -/

def PUSH_JOBS : List String := ["traffic_fetch", "stat_user", "stat_server"]

/-- Every job of the push is in the table, and while the push is not over they are the jobs
    of the calls that have returned. -/
structure PushOk (q : QueueState) (r : PushRequest) : Prop where
  stored : ∀ job ∈ r.jobs, ∃ row, q.jobs.get? job.2 = some row
  names : r.jobs.map Prod.fst <+: PUSH_JOBS
  count : r.failed = false → r.jobs.length = r.returned - 2

/-- Jobs that are stored stay so. -/
theorem PushOk.mono {q q' : QueueState} {r : PushRequest} (h : PushOk q r)
    (hmove : q' = q ∨ (queue settings).Moves q q') : PushOk q' r := by
  refine ⟨?_, h.names, h.count⟩
  intro job hjob
  obtain ⟨row, hrow⟩ := h.stored job hjob
  obtain rfl | ⟨e, he⟩ := hmove
  · exact ⟨row, hrow⟩
  · obtain ⟨row', hrow', -⟩ := queue_kept he hrow
    exact ⟨row', hrow'⟩

/-- The calls of a push: two writes of the cache, and then the jobs. -/
theorem call_cases {report : PushReport} {now : Int} {i : Nat} {c : PushCall}
    (h : (handleUniproxyPush rt report now)[i]? = some c) :
    (i < 2 ∧ ∃ key value ex, c = .set key value ex) ∨
      (2 ≤ i ∧ ∃ call, c = .enqueue_job call ∧ PUSH_JOBS[i - 2]? = some call.job_name ∧
        call.job_key = none) := by
  unfold handleUniproxyPush at h
  rcases i with _ | _ | i
  · exact .inl ⟨by omega, _, _, _, (Option.some.inj h).symm⟩
  · exact .inl ⟨by omega, _, _, _, (Option.some.inj h).symm⟩
  · right
    refine ⟨by omega, ?_⟩
    by_cases hempty : report.data.isEmpty = true
    · rw [if_pos hempty] at h
      cases h
    · rw [if_neg hempty] at h
      rcases i with _ | _ | _ | i
      · exact ⟨_, (Option.some.inj h).symm, rfl, rfl⟩
      · exact ⟨_, (Option.some.inj h).symm, rfl, rfl⟩
      · exact ⟨_, (Option.some.inj h).symm, rfl, rfl⟩
      · cases h

/-- **What a step of a push does**: a call that returns, one that raises and leaves what was
    there, or an `enqueue_job` that raises after its INSERT. -/
inductive PushStep (settings : QueueSettings) (q : QueueState) (r : PushRequest) :
    PushAct → QueueState → PushRequest → Prop
  | wrote (a : PushAct) (hi : r.returned < 2) (hreturn : a.outcome = .committed) :
      PushStep settings q r a q { r with returned := r.returned + 1 }
  | enqueued (a : PushAct) (call : EnqueueCall) (q' : QueueState) (hi : 2 ≤ r.returned)
      (hname : PUSH_JOBS[r.returned - 2]? = some call.job_name) (hreturn : a.outcome = .committed)
      (hkey : call.job_key = none)
      (hq : (queue settings).step q (.enqueue_job a.id call) = some q') :
      PushStep settings q r a q'
        { r with jobs := r.jobs ++ [(call.job_name, a.id)], returned := r.returned + 1 }
  | raised (a : PushAct) (hraise : a.outcome ≠ .committed)
      (hkept : r.returned < 2 ∨ 2 ≤ r.returned ∧ a.outcome = .rolledBack) :
      PushStep settings q r a q { r with failed := true }
  | lost (a : PushAct) (call : EnqueueCall) (q' : QueueState) (hi : 2 ≤ r.returned)
      (hname : PUSH_JOBS[r.returned - 2]? = some call.job_name) (hlost : a.outcome = .lost)
      (hkey : call.job_key = none)
      (hq : (queue settings).step q (.enqueue_job a.id call) = some q') :
      PushStep settings q r a q'
        { r with jobs := r.jobs ++ [(call.job_name, a.id)], failed := true }

theorem act_cases {q q' : QueueState} {r r' : PushRequest} {a : PushAct}
    (h : r.act rt settings q a = some (q', r')) :
    r.failed = false ∧ PushStep settings q r a q' r' := by
  unfold PushRequest.act at h
  by_cases hfailed : r.failed = true
  · rw [if_pos hfailed] at h
    cases h
  · rw [if_neg hfailed] at h
    refine ⟨Bool.eq_false_of_not_eq_true hfailed, ?_⟩
    split at h
    · cases h
    · next key value ex hcall =>
      have hi : r.returned < 2 := by
        obtain ⟨hi, -⟩ | ⟨-, call, hc, -⟩ := call_cases hcall
        · exact hi
        · cases hc
      cases h
      unfold PushRequest.next
      cases houtcome : a.outcome with
      | committed => exact .wrote a hi houtcome
      | lost => exact .raised a (by simp [houtcome]) (.inl hi)
      | rolledBack => exact .raised a (by simp [houtcome]) (.inl hi)
    · next call hcall =>
      obtain ⟨-, key, value, ex, hc⟩ | ⟨hi, call', hc, hname, hkey⟩ := call_cases hcall
      · cases hc
      · cases hc
        by_cases hback : a.outcome = .rolledBack
        · rw [if_pos hback] at h
          cases h
          exact .raised a (by simp [hback]) (.inr ⟨hi, hback⟩)
        · rw [if_neg hback] at h
          obtain ⟨q₁, hq, h⟩ := Option.bind_eq_some_iff.mp h
          obtain ⟨rfl, rfl⟩ := Prod.mk.inj (Option.some.inj h)
          unfold PushRequest.next
          cases houtcome : a.outcome with
          | committed => exact .enqueued a call q₁ hi hname houtcome hkey hq
          | lost => exact .lost a call q₁ hi hname houtcome hkey hq
          | rolledBack => exact absurd houtcome hback

/-! ## §2. Every step keeps it. -/

theorem prefix_snoc {l l' : List String} {a : String} (h : l <+: l') (ha : l'[l.length]? = some a) :
    l ++ [a] <+: l' := by
  obtain ⟨rest, rfl⟩ := h
  rw [List.getElem?_append_right (le_refl _), Nat.sub_self] at ha
  cases rest with
  | nil => cases ha
  | cons b rest =>
      cases ha
      exact ⟨rest, by rw [List.append_assoc]; rfl⟩

/-- A job of a push is in the table. -/
theorem stored_of_enqueued {q q' : QueueState} {id : Int} {call : EnqueueCall}
    (hkey : call.job_key = none) (h : (queue settings).step q (.enqueue_job id call) = some q') :
    ∃ row, q'.jobs.get? id = some row := by
  have haccepts : q.accepts (call.row id settings.queue_max_tries) := by
    intro hsome
    have hnone : (call.row id settings.queue_max_tries).job_key = none := hkey
    rw [hnone] at hsome
    cases hsome
  have hmem := (mem_insertJob h _).mpr (.inr ⟨haccepts, rfl⟩)
  exact ⟨_, Table.get?_of_mem hmem⟩

/-- The job of the next call goes behind the others. -/
theorem PushOk.snoc {q q' : QueueState} {r : PushRequest} (h : PushOk q r)
    (hfailed : r.failed = false) {id : Int} {call : EnqueueCall} (hi : 2 ≤ r.returned)
    (hname : PUSH_JOBS[r.returned - 2]? = some call.job_name) (hkey : call.job_key = none)
    (hq : (queue settings).step q (.enqueue_job id call) = some q') (failed : Bool) (returned : Nat)
    (hcount : failed = false → returned = r.returned + 1) :
    PushOk q' { r with
      jobs := r.jobs ++ [(call.job_name, id)], failed := failed, returned := returned } := by
  have hlen := h.count hfailed
  have hmono := h.mono (.inr ⟨_, hq⟩)
  refine ⟨?_, ?_, ?_⟩
  · intro job hjob
    rcases List.mem_append.mp hjob with hold | hnew
    · exact hmono.stored job hold
    · rw [List.mem_singleton.mp hnew]
      exact stored_of_enqueued hkey hq
  · show (r.jobs ++ [(call.job_name, id)]).map Prod.fst <+: PUSH_JOBS
    rw [List.map_append]
    refine prefix_snoc h.names ?_
    rw [List.length_map, hlen]
    exact hname
  · intro hopen
    show (r.jobs ++ [(call.job_name, id)]).length = returned - 2
    rw [List.length_append, hlen, hcount hopen, List.length_singleton]
    omega

theorem PushOk.step {q q' : QueueState} {r r' : PushRequest} {a : PushAct} (h : PushOk q r)
    (hfailed : r.failed = false) (hstep : PushStep settings q r a q' r') : PushOk q' r' := by
  cases hstep with
  | wrote hi hreturn =>
      refine ⟨h.stored, h.names, fun _ => ?_⟩
      have hlen := h.count hfailed
      show r.jobs.length = r.returned + 1 - 2
      omega
  | enqueued call _ hi hname hreturn hkey hq =>
      exact h.snoc hfailed hi hname hkey hq r.failed _ fun _ => rfl
  | raised hraise hkept => exact ⟨h.stored, h.names, fun hopen => by cases hopen⟩
  | lost call _ hi hname hlost hkey hq =>
      exact h.snoc hfailed hi hname hkey hq true _ fun hopen => by cases hopen

theorem PushStep.moves {q q' : QueueState} {r r' : PushRequest} {a : PushAct}
    (h : PushStep settings q r a q' r') : q' = q ∨ (queue settings).Moves q q' := by
  cases h with
  | wrote _ _ => exact .inl rfl
  | enqueued call _ _ _ _ _ hq => exact .inr ⟨_, hq⟩
  | raised _ _ => exact .inl rfl
  | lost call _ _ _ _ _ hq => exact .inr ⟨_, hq⟩

/-- Every push stands where its calls say. -/
def PushesOk (s : Served QueueState PushRequest) : Prop := ∀ r ∈ s.requests, PushOk s.shared r

/-- **The step lemma.** -/
theorem PushesOk.step {s s' : Served QueueState PushRequest}
    {e : ServiceEvent QueueEvent PushReport PushAct} (h : PushesOk s)
    (hstep : (pushes rt settings).machine.step s e = some s') : PushesOk s' := by
  cases Service.step_cases hstep with
  | shared e q _ hq => exact fun r hr => (h r hr).mono (.inr ⟨e, hq⟩)
  | arrive report r harrive =>
      cases harrive
      intro r hr
      rcases List.mem_append.mp hr with hold | hnew
      · exact h r hold
      · rw [List.mem_singleton.mp hnew]
        refine ⟨fun job hjob => ?_, List.nil_prefix, fun _ => rfl⟩
        cases hjob
  | act i a r r' q hr hact =>
      obtain ⟨hfailed, hpush⟩ := act_cases hact
      intro x hx
      obtain rfl | ⟨j, -, hj⟩ := (mem_set_iff hr).mp hx
      · exact (h r (List.mem_of_getElem? hr)).step hfailed hpush
      · exact (h x (List.mem_of_getElem? hj)).mono hpush.moves

/-! ## §3. What failed pushes leave. -/

/-- No push that failed has a job in the queue, and pushes of which at most one did not fail
    have at most one job of each name. -/
structure AllOrNothing (s : Served QueueState PushRequest) : Prop where
  nothing : ∀ r ∈ s.requests, r.failed = true → ∀ job ∈ r.jobs, s.shared.jobs.get? job.2 = none
  once : ∀ attempts : PushRequest → Bool,
    (s.requests.filter attempts).countP (fun r => !r.failed) ≤ 1 →
      ∀ name, ((s.requests.filter attempts).flatMap PushRequest.jobs).countP
        (fun job => job.1 = name) ≤ 1

/-- No push that failed put a job into the queue. -/
def NothingLeft (s : Served QueueState PushRequest) : Prop :=
  ∀ r ∈ s.requests, r.failed = true → r.jobs = []

theorem PushOk.count_le_one {q : QueueState} {r : PushRequest} (h : PushOk q r) (name : String) :
    r.jobs.countP (fun job => job.1 = name) ≤ 1 := by
  have hnodup : PUSH_JOBS.Nodup := by decide
  have hone : (r.jobs.map Prod.fst).count name ≤ 1 :=
    List.nodup_iff_count_le_one.mp (h.names.sublist.nodup hnodup) name
  rw [List.count_eq_countP, List.countP_map] at hone
  refine le_trans (le_of_eq ?_) hone
  exact List.countP_congr fun job _ => by simp

/-- The jobs of a name are at most as many as the pushes that did not fail. -/
theorem count_le_open {q : QueueState} {rs : List PushRequest} (hok : ∀ r ∈ rs, PushOk q r)
    (hleft : ∀ r ∈ rs, r.failed = true → r.jobs = []) (name : String) :
    (rs.flatMap PushRequest.jobs).countP (fun job => job.1 = name)
      ≤ rs.countP (fun r => !r.failed) := by
  induction rs with
  | nil => exact le_refl _
  | cons r rs ih =>
      have hrest := ih (fun x hx => hok x (List.mem_cons_of_mem _ hx))
        (fun x hx => hleft x (List.mem_cons_of_mem _ hx))
      rw [List.flatMap_cons, List.countP_append, List.countP_cons]
      cases hfailed : r.failed with
      | true =>
          rw [hleft r List.mem_cons_self hfailed]
          simpa using hrest
      | false =>
          have hone := (hok r List.mem_cons_self).count_le_one name
          simp only [Bool.not_false, if_true]
          omega

/-- A stored job is left. -/
theorem allOrNothing_iff {s : Served QueueState PushRequest} (h : PushesOk s) :
    AllOrNothing s ↔ NothingLeft s := by
  constructor
  · intro hall r hr hfailed
    by_contra hne
    obtain ⟨job, hjob⟩ := List.exists_mem_of_ne_nil _ hne
    obtain ⟨row, hrow⟩ := (h r hr).stored job hjob
    rw [hall.nothing r hr hfailed job hjob] at hrow
    cases hrow
  · intro hleft
    constructor
    · intro r hr hfailed job hjob
      rw [hleft r hr hfailed] at hjob
      cases hjob
    · intro attempts hone name
      have hok : ∀ r ∈ s.requests.filter attempts, PushOk s.shared r :=
        fun r hr => h r (List.mem_of_mem_filter hr)
      have hnone : ∀ r ∈ s.requests.filter attempts, r.failed = true → r.jobs = [] :=
        fun r hr => hleft r (List.mem_of_mem_filter hr)
      exact (count_le_open hok hnone name).trans hone

/-- A call that raises is a write of the cache, or the first `enqueue_job` of its push with
    its INSERT rolled back. -/
def RaisesEarly (s : Served QueueState PushRequest)
    (e : ServiceEvent QueueEvent PushReport PushAct) : Prop :=
  ∀ i a r, e = .act i a → s.requests[i]? = some r → a.outcome ≠ .committed →
    r.returned < 2 ∨ r.returned = 2 ∧ a.outcome = .rolledBack

theorem PushStep.nothing_iff {q q' : QueueState} {r r' : PushRequest} {a : PushAct}
    (h : PushOk q r) (hfailed : r.failed = false) (hstep : PushStep settings q r a q' r') :
    (r'.failed = true → r'.jobs = []) ↔
      (a.outcome ≠ .committed → r.returned < 2 ∨ r.returned = 2 ∧ a.outcome = .rolledBack) := by
  have hlen := h.count hfailed
  cases hstep with
  | wrote hi hreturn =>
      refine iff_of_true (fun htrue => ?_) fun hraise => absurd hreturn hraise
      rw [show ({ r with returned := r.returned + 1 } : PushRequest).failed = r.failed from rfl,
        hfailed] at htrue
      cases htrue
  | enqueued call q' hi hname hreturn hkey hq =>
      refine iff_of_true (fun htrue => ?_) fun hraise => absurd hreturn hraise
      have hopen : r.failed = true := htrue
      rw [hfailed] at hopen
      cases hopen
  | raised hraise hkept =>
      show (true = true → r.jobs = []) ↔ _
      rw [← List.length_eq_zero_iff, hlen]
      constructor
      · intro hzero _
        have := hzero rfl
        obtain hi | ⟨hi, hback⟩ := hkept
        · exact .inl hi
        · exact .inr ⟨by omega, hback⟩
      · intro hcond _
        obtain hi | ⟨hi, -⟩ := hcond hraise <;> omega
  | lost call q' hi hname hlost hkey hq =>
      refine iff_of_false ?_ ?_
      · intro hempty
        have hnil : r.jobs ++ [(call.job_name, a.id)] = [] := hempty rfl
        exact List.append_ne_nil_of_right_ne_nil _ (List.cons_ne_nil _ _) hnil
      · intro hcond
        obtain hlt | ⟨-, hback⟩ := hcond (by simp [hlost])
        · omega
        · rw [hlost] at hback
          cases hback

/-- A step leaves nothing behind just when it raises early. -/
theorem nothingLeft_step {s s' : Served QueueState PushRequest}
    {e : ServiceEvent QueueEvent PushReport PushAct} (h : PushesOk s)
    (hstep : (pushes rt settings).machine.step s e = some s') :
    NothingLeft s' ↔ NothingLeft s ∧ RaisesEarly s e := by
  cases Service.step_cases hstep with
  | shared e q _ _ =>
      refine (and_iff_left ?_).symm
      intro i a r he
      cases he
  | arrive report r harrive =>
      cases harrive
      constructor
      · intro hleft
        refine ⟨fun r hr => hleft r (List.mem_append_left _ hr), ?_⟩
        intro i a r he
        cases he
      · rintro ⟨hleft, -⟩ r hr hfailed
        rcases List.mem_append.mp hr with hold | hnew
        · exact hleft r hold hfailed
        · rw [List.mem_singleton.mp hnew]
  | act i a r r' q hr hact =>
      obtain ⟨hfailed, hpush⟩ := act_cases hact
      have hiff := hpush.nothing_iff (h r (List.mem_of_getElem? hr)) hfailed
      constructor
      · intro hleft
        constructor
        · intro x hx hxfailed
          obtain ⟨j, hj⟩ := List.mem_iff_getElem?.mp hx
          have hne : j ≠ i := by
            rintro rfl
            rw [hr] at hj
            cases hj
            rw [hfailed] at hxfailed
            cases hxfailed
          exact hleft x ((mem_set_iff hr).mpr (.inr ⟨j, hne, hj⟩)) hxfailed
        · intro i' a' r₁ he hr₁
          cases he
          rw [hr] at hr₁
          cases hr₁
          exact hiff.mp (hleft r' ((mem_set_iff hr).mpr (.inl rfl)))
      · rintro ⟨hleft, hearly⟩ x hx
        obtain rfl | ⟨j, -, hj⟩ := (mem_set_iff hr).mp hx
        · exact hiff.mpr (hearly i a r rfl hr)
        · exact hleft x (List.mem_of_getElem? hj)

/-- **When pushes are all-or-nothing.**  In every run of pushes of any reports, among any
    other steps of the queue and with calls that raise anywhere: no failed push leaves a job,
    and a report is in the queue once, if and only if every call that raises does so before
    the `traffic_fetch` job of its push is committed. -/
theorem push_all_or_nothing_iff {q : QueueState} {s : Served QueueState PushRequest}
    {es : List (ServiceEvent QueueEvent PushReport PushAct)}
    (hrun : (pushes rt settings).machine.run ⟨q, []⟩ es = some s) :
    AllOrNothing s ↔ (pushes rt settings).machine.Meets RaisesEarly ⟨q, []⟩ es := by
  have hinv : ∀ a e b, e ∈ es → PushesOk a → (pushes rt settings).machine.step a e = some b →
      PushesOk b := fun a e b _ ha hab => ha.step hab
  have hstart : PushesOk ⟨q, []⟩ := fun r hr => by cases hr
  have hempty : NothingLeft ⟨q, []⟩ := fun r hr => by cases hr
  rw [allOrNothing_iff (Machine.run_invariant hinv hrun hstart),
    Machine.run_iff hinv (fun a e b _ ha hab => nothingLeft_step ha hab) hrun hstart]
  exact and_iff_right hempty

/-- User 5 has sent one byte and received two. -/
def fiveReport : PushReport := ⟨"vless", 3, "1", [("5", .arr [.int 1, .int 2])]⟩

/-- The next call of a push, with the id of its INSERT. -/
def pushCall (i : Nat) (id : Int) (outcome : Outcome) :
    ServiceEvent QueueEvent PushReport PushAct := .act i ⟨100, id, outcome⟩

/-- The database refuses the second job; the node pushes the report again. -/
def repeatedPush : List (ServiceEvent QueueEvent PushReport PushAct) :=
  [.arrive fiveReport, pushCall 0 0 .committed, pushCall 0 0 .committed, pushCall 0 1 .committed,
    pushCall 0 2 .rolledBack,
    .arrive fiveReport, pushCall 1 0 .committed, pushCall 1 0 .committed, pushCall 1 2 .committed,
    pushCall 1 3 .committed, pushCall 1 4 .committed]

/-- The first job is refused instead. -/
def refusedPush : List (ServiceEvent QueueEvent PushReport PushAct) :=
  [.arrive fiveReport, pushCall 0 0 .committed, pushCall 0 0 .committed, pushCall 0 1 .rolledBack]

theorem push_all_or_nothing_refused : ∃ s,
    (pushes Utc.bare {}).machine.run ⟨.empty, []⟩ refusedPush = some s ∧
      (AllOrNothing s ↔ (pushes Utc.bare {}).machine.Meets RaisesEarly ⟨.empty, []⟩ refusedPush) :=
  ⟨_, rfl, push_all_or_nothing_iff rfl⟩

/-- **A failed push leaves its first job**, and the repeated push counts the traffic of the
    user again. -/
theorem failed_push_counts_twice : ∃ s,
    (pushes Utc.bare {}).machine.run ⟨.empty, []⟩ repeatedPush = some s ∧
      (∃ r ∈ s.requests, r.failed = true ∧ r.jobs = [("traffic_fetch", 1)] ∧
        (s.shared.jobs.get? 1).isSome = true) ∧
      s.requests.countP (fun r => !r.failed) = 1 ∧
      (s.shared.jobs.rows.filter fun row => row.job_name = "traffic_fetch").length = 2 ∧
      ¬AllOrNothing s := by
  refine ⟨_, rfl, ⟨_, List.mem_cons_self, rfl, rfl, rfl⟩, rfl, rfl, ?_⟩
  intro hall
  have hnone := hall.nothing _ List.mem_cons_self rfl _ List.mem_cons_self
  cases hnone

end PyBoard
