/-
  PyBoard.Results.Retries — a failed job that is retried, and how often it is enqueued.

  `retry_job` commits the job before it deletes the row.  `RetryInv` is what holds of one
  row while its retries take turns: it is there until the one request that enqueued it
  commits, and that request is the only one.

    • `retried_exactly_once` — the runs in which a row is gone just when its job was enqueued
      again once.
-/
import PyBoard.Python.Utc
import PyBoard.Services.AdminTools
import PyBoard.Specs.Queue

namespace PyBoard.FailedJobService

open Relational Queues

variable {rt : Runtime} {settings : QueueSettings}

/-! ## §1. What a request does. -/

/-- The request has enqueued and its transaction is open. -/
def RetryRequest.isOpen (r : RetryRequest) : Bool :=
  match r.phase with
  | .deleting | .deleted _ => true
  | _ => false

/-- The request is about the row, and put its job into the queue. -/
def RetryRequest.enqueues (id : Int) (r : RetryRequest) : Bool :=
  r.item.id = id && r.job.isSome

/-- The job that an INSERT answers with. -/
def answer (q' : QueueState) (id : Int) : Option Int :=
  if (q'.jobs.get? id).isSome then some id else none

/-- **The steps of a retry.** -/
inductive RetryStep (rt : Runtime) (settings : QueueSettings) (q : QueueState)
    (r : RetryRequest) : RetryAct → QueueState → RetryRequest → Prop
  | gaveUp (a : RetryAct) (call : RetryCall) (hphase : r.phase = .enqueueing call) :
      RetryStep rt settings q r a q { r with phase := .over }
  | enqueued (now : PyFloat) (id : Int) (outcome : Outcome) (call : RetryCall) (c : EnqueueCall)
      (q' : QueueState) (hphase : r.phase = .enqueueing call) (hcall : call.enqueued rt now = .ok c)
      (houtcome : outcome ≠ .rolledBack)
      (hq : (queue settings).step q (.enqueue_job id c) = some q') :
      RetryStep rt settings q r (.enqueue_job now id outcome) q'
        ({ r with job := answer q' id }.next outcome)
  | deleted (hphase : r.phase = .deleting) :
      RetryStep rt settings q r .delete q
        { r with phase := .deleted (q.failed_jobs.get? r.item.id).isSome }
  | committed (q' : QueueState) (hphase : r.phase = .deleted true)
      (hq : (queue settings).step q (.discard r.item.id) = some q') :
      RetryStep rt settings q r .commit q' { r with phase := .over }
  | missed (hphase : r.phase = .deleted false) :
      RetryStep rt settings q r .commit q { r with phase := .over }
  | failed (hopen : r.isOpen = true) :
      RetryStep rt settings q r .rollback q { r with phase := .over }

theorem act_cases {q q' : QueueState} {rs : List RetryRequest} {r r' : RetryRequest} {a : RetryAct}
    (h : RetryRequest.act rt settings q rs r a = some (q', r')) :
    RetryStep rt settings q r a q' r' := by
  unfold RetryRequest.act at h
  cases a with
  | enqueue_job now id outcome =>
      cases hphase : r.phase with
      | enqueueing call =>
          simp only [hphase] at h
          cases hcall : call.enqueued rt now with
          | error e =>
              simp only [hcall] at h
              cases h
              exact .gaveUp _ call hphase
          | ok c =>
              simp only [hcall] at h
              unfold RetryRequest.insert at h
              by_cases hback : outcome = .rolledBack
              · rw [if_pos hback] at h
                cases h
                exact .gaveUp _ call hphase
              · rw [if_neg hback] at h
                obtain ⟨q₁, hq, h⟩ := Option.bind_eq_some_iff.mp h
                obtain ⟨rfl, rfl⟩ := Prod.mk.inj (Option.some.inj h)
                exact .enqueued now id outcome call c q₁ hphase hcall hback hq
      | _ =>
          simp only [hphase] at h
          cases h
  | delete =>
      cases hphase : r.phase with
      | deleting =>
          simp only [hphase] at h
          split at h
          · cases h
          · cases h
            exact .deleted hphase
      | _ =>
          simp only [hphase] at h
          cases h
  | commit =>
      cases hphase : r.phase with
      | deleted found =>
          simp only [hphase] at h
          cases found with
          | true =>
              obtain ⟨q₁, hq, h⟩ := Option.bind_eq_some_iff.mp h
              obtain ⟨rfl, rfl⟩ := Prod.mk.inj (Option.some.inj h)
              exact .committed q₁ hphase hq
          | false =>
              cases h
              exact .missed hphase
      | _ =>
          simp only [hphase] at h
          cases h
  | rollback =>
      cases hphase : r.phase with
      | enqueueing call =>
          simp only [hphase] at h
          cases h
          exact .gaveUp _ call hphase
      | deleting =>
          simp only [hphase] at h
          cases h
          exact .failed (by simp [RetryRequest.isOpen, hphase])
      | deleted found =>
          simp only [hphase] at h
          cases h
          exact .failed (by simp [RetryRequest.isOpen, hphase])
      | _ =>
          simp only [hphase] at h
          cases h

/-- A step of a retry removes a row of `failed_jobs` at most, its own. -/
theorem RetryStep.failed_jobs {q q' : QueueState} {r r' : RetryRequest} {a : RetryAct}
    (h : RetryStep rt settings q r a q' r') :
    q'.failed_jobs = q.failed_jobs ∨
      q'.failed_jobs = q.failed_jobs.erase r.item.id ∧ r.phase = .deleted true := by
  cases h with
  | gaveUp _ _ _ => exact .inl rfl
  | enqueued now id outcome call c q' _ _ _ hq =>
      obtain hsame | ⟨i, k, failed_at, outcome, f, he, -⟩ | ⟨k, he, -⟩ := step_failed_jobs hq
      · exact .inl hsame
      · cases he
      · cases he
  | deleted _ => exact .inl rfl
  | committed q' hphase hq =>
      obtain ⟨row, -, hq⟩ := Option.bind_eq_some_iff.mp hq
      cases hq
      exact .inr ⟨rfl, hphase⟩
  | missed _ => exact .inl rfl
  | failed _ => exact .inl rfl

theorem RetryStep.item {q q' : QueueState} {r r' : RetryRequest} {a : RetryAct}
    (h : RetryStep rt settings q r a q' r') : r'.item = r.item := by
  cases h with
  | enqueued _ _ outcome _ _ _ _ _ _ _ => cases outcome <;> rfl
  | gaveUp _ _ _ | deleted _ | committed _ _ _ | missed _ | failed _ => rfl

/-- A request is past its `enqueue_job` after its first step. -/
theorem RetryStep.past {q q' : QueueState} {r r' : RetryRequest} {a : RetryAct}
    (h : RetryStep rt settings q r a q' r') (call : RetryCall) : r'.phase ≠ .enqueueing call := by
  cases h with
  | enqueued _ _ outcome _ _ _ _ _ _ _ => cases outcome <;> exact RetryPhase.noConfusion
  | gaveUp _ _ _ | deleted _ | committed _ _ _ | missed _ | failed _ => exact RetryPhase.noConfusion

/-! ## §2. The retries of one row. -/

/-- How many requests have put the job of the row into the queue. -/
def enqueuedTimes (s : Served QueueState RetryRequest) (id : Int) : Nat :=
  s.requests.countP (RetryRequest.enqueues id)

/-- **The invariant of a row**: until it is gone, a request that has enqueued its job is
    open, and there is one at most. -/
structure RetryInv (id : Int) (s : Served QueueState RetryRequest) : Prop where
  waiting : ∀ r ∈ s.requests, ∀ call, r.phase = .enqueueing call → r.job = none
  holds : ∀ r ∈ s.requests, r.item.id = id → r.isOpen = true → r.job.isSome = true ∧
    s.shared.failed_jobs.get? id ≠ none ∧ ∀ found, r.phase = .deleted found → found = true
  once : enqueuedTimes s id ≤ 1
  gone : s.shared.failed_jobs.get? id = none → enqueuedTimes s id = 1
  kept : s.shared.failed_jobs.get? id ≠ none →
    ∀ r ∈ s.requests, r.item.id = id → r.job.isSome = true → r.isOpen = true

/-- A request commits once it has enqueued, and enqueues while its row is there and no other
    request that has enqueued the job is open; the key of the job, if it has one, is free. -/
structure TakesTurns (rt : Runtime) (settings : QueueSettings)
    (s : Served QueueState RetryRequest) (e : ServiceEvent QueueEvent Int RetryAct) : Prop where
  enqueues : ∀ i now id outcome r call c, e = .act i (.enqueue_job now id outcome) →
    s.requests[i]? = some r → r.phase = .enqueueing call → call.enqueued rt now = .ok c →
      outcome = .rolledBack ∨ outcome = .committed ∧
        s.shared.accepts (c.row id settings.queue_max_tries) ∧
        s.shared.failed_jobs.get? r.item.id ≠ none ∧
        ∀ r' ∈ s.requests, r'.item.id = r.item.id → r'.isOpen = false
  commits : ∀ i r, e = .act i .rollback → s.requests[i]? = some r → r.isOpen = false

/-- A request of another row changes nothing for this one. -/
theorem RetryInv.set_other {s : Served QueueState RetryRequest} {id : Int} (h : RetryInv id s)
    {i : Nat} {r r' : RetryRequest} {q : QueueState} (hr : s.requests[i]? = some r)
    (hid : r.item.id ≠ id) (hitem : r'.item = r.item)
    (hpast : ∀ call, r'.phase ≠ .enqueueing call)
    (hget : q.failed_jobs.get? id = s.shared.failed_jobs.get? id) :
    RetryInv id ⟨q, s.requests.set i r'⟩ := by
  have hid' : r'.item.id ≠ id := by rw [hitem]; exact hid
  have hmem : ∀ x ∈ s.requests.set i r', x = r' ∨ x ∈ s.requests := by
    intro x hx
    obtain rfl | ⟨j, -, hj⟩ := (mem_set_iff hr).mp hx
    · exact .inl rfl
    · exact .inr (List.mem_of_getElem? hj)
  have hcount : (s.requests.set i r').countP (RetryRequest.enqueues id) = enqueuedTimes s id := by
    obtain ⟨hi, hget'⟩ := List.getElem?_eq_some_iff.mp hr
    rw [List.countP_set hi, hget']
    simp [RetryRequest.enqueues, hid, hid', enqueuedTimes]
  constructor
  case waiting =>
    intro x hx call hphase
    obtain rfl | hold := hmem x hx
    · exact absurd hphase (hpast call)
    · exact h.waiting x hold call hphase
  case holds =>
    intro x hx hxid hopen
    obtain rfl | hold := hmem x hx
    · exact absurd hxid hid'
    · rw [hget]
      exact h.holds x hold hxid hopen
  case once => exact hcount.trans_le h.once
  case gone =>
    intro hnone
    rw [hget] at hnone
    exact hcount.trans (h.gone hnone)
  case kept =>
    intro hsome x hx hxid hjob
    rw [hget] at hsome
    obtain rfl | hold := hmem x hx
    · exact absurd hxid hid'
    · exact h.kept hsome x hold hxid hjob

/-- A request of the row that moves on, with its job as it was. -/
theorem RetryInv.set_same {s : Served QueueState RetryRequest} {id : Int} (h : RetryInv id s)
    {i : Nat} {r r' : RetryRequest} {q : QueueState} (hr : s.requests[i]? = some r)
    (hitem : r'.item = r.item) (hjob : r'.job = r.job)
    (hpast : ∀ call, r'.phase ≠ .enqueueing call)
    (hget : q.failed_jobs.get? id = s.shared.failed_jobs.get? id)
    (hopen : r'.item.id = id → r'.isOpen = r.isOpen ∨ r.job = none ∧ r'.isOpen = false)
    (hfound : r'.item.id = id → r'.isOpen = true →
      ∀ found, r'.phase = .deleted found → found = true) :
    RetryInv id ⟨q, s.requests.set i r'⟩ := by
  have hold : r ∈ s.requests := List.mem_of_getElem? hr
  have hcount : (s.requests.set i r').countP (RetryRequest.enqueues id) = enqueuedTimes s id := by
    obtain ⟨hi, hget'⟩ := List.getElem?_eq_some_iff.mp hr
    have hsame : r'.enqueues id = r.enqueues id := by simp [RetryRequest.enqueues, hitem, hjob]
    have hle : r.enqueues id = true → 1 ≤ enqueuedTimes s id := fun hyes =>
      List.countP_pos_iff.mpr ⟨r, hold, hyes⟩
    rw [List.countP_set hi, hget', hsame]
    show enqueuedTimes s id - _ + _ = enqueuedTimes s id
    split
    · next hyes =>
      have := hle hyes
      omega
    · rfl
  constructor
  case waiting =>
    intro x hx call hphase
    obtain rfl | ⟨j, -, hj⟩ := (mem_set_iff hr).mp hx
    · exact absurd hphase (hpast call)
    · exact h.waiting x (List.mem_of_getElem? hj) call hphase
  case holds =>
    intro x hx hxid hxopen
    rw [hget]
    obtain rfl | ⟨j, -, hj⟩ := (mem_set_iff hr).mp hx
    · have hropen : r.isOpen = true := by
        obtain hsame | ⟨-, hclosed⟩ := hopen hxid
        · rw [← hsame]
          exact hxopen
        · rw [hclosed] at hxopen
          cases hxopen
      obtain ⟨hrjob, hthere, -⟩ := h.holds r hold (hitem ▸ hxid) hropen
      exact ⟨hjob ▸ hrjob, hthere, hfound hxid hxopen⟩
    · exact h.holds x (List.mem_of_getElem? hj) hxid hxopen
  case once => exact hcount.trans_le h.once
  case gone =>
    intro hnone
    rw [hget] at hnone
    exact hcount.trans (h.gone hnone)
  case kept =>
    intro hsome x hx hxid hxjob
    rw [hget] at hsome
    obtain rfl | ⟨j, -, hj⟩ := (mem_set_iff hr).mp hx
    · obtain hsame | ⟨hnone, -⟩ := hopen hxid
      · rw [hsame]
        exact h.kept hsome r hold (hitem ▸ hxid) (hjob ▸ hxjob)
      · rw [hjob, hnone] at hxjob
        cases hxjob
    · exact h.kept hsome x (List.mem_of_getElem? hj) hxid hxjob

/-- Nothing has enqueued the job of a row that is there and has no open request. -/
theorem RetryInv.none_yet {s : Served QueueState RetryRequest} {id : Int} (h : RetryInv id s)
    (hthere : s.shared.failed_jobs.get? id ≠ none)
    (hclosed : ∀ r ∈ s.requests, r.item.id = id → r.isOpen = false) : enqueuedTimes s id = 0 := by
  refine List.countP_eq_zero.mpr ?_
  intro r hr henqueues
  obtain ⟨hid, hjob⟩ := Bool.and_eq_true_iff.mp henqueues
  have hopen := h.kept hthere r hr (of_decide_eq_true hid) hjob
  rw [hclosed r hr (of_decide_eq_true hid)] at hopen
  cases hopen

/-- The request that enqueues is the first. -/
theorem RetryInv.set_enqueued {s : Served QueueState RetryRequest} {id : Int} (h : RetryInv id s)
    {i : Nat} {r : RetryRequest} {q : QueueState} {k : Int} (hr : s.requests[i]? = some r)
    (hthere : s.shared.failed_jobs.get? id ≠ none)
    (hclosed : ∀ r ∈ s.requests, r.item.id = id → r.isOpen = false)
    (hget : q.failed_jobs.get? id = s.shared.failed_jobs.get? id) :
    RetryInv id ⟨q, s.requests.set i { r with phase := .deleting, job := some k }⟩ := by
  have hzero := h.none_yet hthere hclosed
  have hcount : (s.requests.set i { r with phase := .deleting, job := some k }).countP
      (RetryRequest.enqueues id) ≤ 1 := by
    obtain ⟨hi, -⟩ := List.getElem?_eq_some_iff.mp hr
    rw [List.countP_set hi]
    have hold : s.requests.countP (RetryRequest.enqueues id) = 0 := hzero
    split <;> split <;> omega
  constructor
  case waiting =>
    intro x hx call hphase
    obtain rfl | ⟨j, -, hj⟩ := (mem_set_iff hr).mp hx
    · cases hphase
    · exact h.waiting x (List.mem_of_getElem? hj) call hphase
  case holds =>
    intro x hx hxid hopen
    obtain rfl | ⟨j, -, hj⟩ := (mem_set_iff hr).mp hx
    · refine ⟨rfl, hget ▸ hthere, ?_⟩
      intro found hfound
      cases hfound
    · rw [hclosed x (List.mem_of_getElem? hj) hxid] at hopen
      cases hopen
  case once => exact hcount
  case gone => exact fun hnone => absurd (hget ▸ hnone) hthere
  case kept =>
    intro _ x hx hxid hjob
    obtain rfl | ⟨j, -, hj⟩ := (mem_set_iff hr).mp hx
    · rfl
    · exact h.kept hthere x (List.mem_of_getElem? hj) hxid hjob

/-- The request that deletes the row is the one that enqueued its job. -/
theorem RetryInv.set_committed {s : Served QueueState RetryRequest} {id : Int} (h : RetryInv id s)
    {i : Nat} {r : RetryRequest} {q : QueueState} (hr : s.requests[i]? = some r)
    (hid : r.item.id = id) (hopen : r.isOpen = true) (hget : q.failed_jobs.get? id = none) :
    RetryInv id ⟨q, s.requests.set i { r with phase := .over }⟩ := by
  have hold : r ∈ s.requests := List.mem_of_getElem? hr
  obtain ⟨hjob, -, -⟩ := h.holds r hold hid hopen
  have hyes : r.enqueues id = true := by simp [RetryRequest.enqueues, hid, hjob]
  have hone : enqueuedTimes s id = 1 :=
    le_antisymm h.once (List.countP_pos_iff.mpr ⟨r, hold, hyes⟩)
  obtain ⟨hi, hgeti⟩ := List.getElem?_eq_some_iff.mp hr
  have hcount :
      (s.requests.set i { r with phase := .over }).countP (RetryRequest.enqueues id) = 1 := by
    have hyes' : RetryRequest.enqueues id { r with phase := .over } = true := hyes
    have hone' : s.requests.countP (RetryRequest.enqueues id) = 1 := hone
    rw [List.countP_set hi, hgeti, hyes, hyes', hone']
    rfl
  -- no other request of the row is open: it would have enqueued too
  have hclosed : ∀ x ∈ s.requests.set i { r with phase := .over }, x.item.id = id →
      x.isOpen = false := by
    have hboth : (s.requests.set i { r with phase := .over }).countP
        (fun x => x.enqueues id && x.isOpen) = 0 := by
      have hle : s.requests.countP (fun x => x.enqueues id && x.isOpen) ≤ 1 := by
        refine le_trans (List.countP_mono_left ?_) h.once
        intro x _ hx
        exact (Bool.and_eq_true_iff.mp hx).1
      rw [List.countP_set hi, hgeti]
      simp only [hyes, hopen, Bool.and_self, if_true]
      have hover : RetryRequest.isOpen { r with phase := .over } = false := rfl
      simp only [hover, Bool.and_false, Bool.false_eq_true, if_false]
      omega
    intro x hx hxid
    have hno := List.countP_eq_zero.mp hboth x hx
    obtain rfl | ⟨j, -, hj⟩ := (mem_set_iff hr).mp hx
    · rfl
    · by_contra hxopen
      rw [Bool.not_eq_false] at hxopen
      obtain ⟨hxjob, -, -⟩ := h.holds x (List.mem_of_getElem? hj) hxid hxopen
      exact hno (by simp [RetryRequest.enqueues, hxid, hxjob, hxopen])
  constructor
  case waiting =>
    intro x hx call hphase
    obtain rfl | ⟨j, -, hj⟩ := (mem_set_iff hr).mp hx
    · cases hphase
    · exact h.waiting x (List.mem_of_getElem? hj) call hphase
  case holds =>
    intro x hx hxid hxopen
    rw [hclosed x hx hxid] at hxopen
    cases hxopen
  case once => exact hcount.le
  case gone => exact fun _ => hcount
  case kept => exact fun hthere => absurd hget hthere

/-! ## §3. Every step in turn keeps the invariant. -/

/-- The queue's own steps leave the rows of the requests. -/
theorem beside_get? {q q' : QueueState} {rs : List RetryRequest} {e : QueueEvent}
    (hbeside : beside rs e = true) (h : (queue settings).step q e = some q') {id : Int}
    (hid : q.failed_jobs.get? id ≠ none ∨ ∃ r ∈ rs, r.item.id = id) :
    q'.failed_jobs.get? id = q.failed_jobs.get? id := by
  obtain hsame | ⟨i, k, failed_at, outcome, f, rfl, rfl, hnone, hput⟩ | ⟨k, rfl, -⟩ :=
    step_failed_jobs h
  · rw [hsame]
  · rw [hput]
    refine Table.get?_put_of_ne _ ?_
    rintro rfl
    obtain hthere | ⟨r, hr, hrid⟩ := hid
    · exact hthere hnone
    · exact of_decide_eq_true (List.all_eq_true.mp hbeside r hr) hrid
  · cases hbeside

theorem RetryInv.step {s s' : Served QueueState RetryRequest}
    {e : ServiceEvent QueueEvent Int RetryAct} {id : Int} (h : RetryInv id s)
    (hturn : TakesTurns rt settings s e)
    (hstep : (retries rt settings).machine.step s e = some s') : RetryInv id s' := by
  cases Service.step_cases hstep with
  | shared e q hbeside hq =>
      have hget : q.failed_jobs.get? id = s.shared.failed_jobs.get? id := by
        refine beside_get? hbeside hq ?_
        by_cases hthere : s.shared.failed_jobs.get? id = none
        · right
          have hpos : 0 < enqueuedTimes s id := by rw [h.gone hthere]; exact one_pos
          obtain ⟨r, hr, henq⟩ := List.countP_pos_iff.mp hpos
          exact ⟨r, hr, of_decide_eq_true (Bool.and_eq_true_iff.mp henq).1⟩
        · exact .inl hthere
      refine ⟨h.waiting, ?_, h.once, fun hnone => h.gone (hget ▸ hnone),
        fun hthere => h.kept (hget ▸ hthere)⟩
      intro r hr hid hopen
      show r.job.isSome = true ∧ q.failed_jobs.get? id ≠ none ∧ _
      rw [hget]
      exact h.holds r hr hid hopen
  | arrive k r harrive =>
      obtain ⟨item, -, hr⟩ := Option.map_eq_some_iff.mp harrive
      have hnew : r.job = none ∧ r.isOpen = false := by
        rw [← hr]
        cases retry_job rt item <;> exact ⟨rfl, rfl⟩
      have hcount : (s.requests ++ [r]).countP (RetryRequest.enqueues id) = enqueuedTimes s id := by
        rw [List.countP_append]
        simp [RetryRequest.enqueues, hnew.1, enqueuedTimes]
      refine ⟨?_, ?_, hcount.trans_le h.once, fun hnone => hcount.trans (h.gone hnone), ?_⟩
      · intro x hx call hphase
        rcases List.mem_append.mp hx with hold | hx
        · exact h.waiting x hold call hphase
        · rw [List.mem_singleton.mp hx]
          exact hnew.1
      · intro x hx hid hopen
        rcases List.mem_append.mp hx with hold | hx
        · exact h.holds x hold hid hopen
        · rw [List.mem_singleton.mp hx, hnew.2] at hopen
          cases hopen
      · intro hthere x hx hid hjob
        rcases List.mem_append.mp hx with hold | hx
        · exact h.kept hthere x hold hid hjob
        · rw [List.mem_singleton.mp hx, hnew.1] at hjob
          cases hjob
  | act i a r r' q hr hact =>
      have hretry := act_cases hact
      have hold : r ∈ s.requests := List.mem_of_getElem? hr
      by_cases hid : r.item.id = id
      · cases hretry with
        | gaveUp _ call hphase =>
            have hjob := h.waiting r hold call hphase
            refine h.set_same hr rfl rfl (fun call => RetryPhase.noConfusion) rfl
              (fun _ => .inr ⟨hjob, rfl⟩) ?_
            intro _ hopen
            cases hopen
        | enqueued now k outcome call c q hphase hcall hout hq =>
            obtain hback | ⟨hcommit, haccepts, hthere, hclosed⟩ :=
              hturn.enqueues i now k outcome r call c rfl hr hphase hcall
            · exact absurd hback hout
            · rw [hid] at hthere hclosed
              have hmem := (mem_insertJob hq _).mpr (.inr ⟨haccepts, rfl⟩)
              have hanswer : answer q k = some k := by
                have hrow : q.jobs.get? k = some (c.row k settings.queue_max_tries) :=
                  Table.get?_of_mem hmem
                rw [answer, hrow]
                rfl
              have hfailed : q.failed_jobs = s.shared.failed_jobs := by
                obtain hsame | ⟨-, hdel⟩ :=
                  (RetryStep.enqueued now k outcome call c q hphase hcall hout hq).failed_jobs
                · exact hsame
                · rw [hphase] at hdel
                  cases hdel
              rw [hcommit, hanswer]
              show RetryInv id ⟨q, s.requests.set i { r with phase := .deleting, job := some k }⟩
              exact h.set_enqueued hr hthere hclosed (by rw [hfailed])
        | deleted hphase =>
            have hopen : r.isOpen = true := by simp [RetryRequest.isOpen, hphase]
            obtain ⟨-, hthere, -⟩ := h.holds r hold hid hopen
            refine h.set_same hr rfl rfl (fun call => RetryPhase.noConfusion) rfl
              (fun _ => .inl hopen.symm) ?_
            intro _ _ found hfound
            cases hfound
            rw [hid]
            exact Option.isSome_iff_ne_none.mpr hthere
        | committed q hphase hq =>
            have hopen : r.isOpen = true := by simp [RetryRequest.isOpen, hphase]
            obtain ⟨row, -, hq⟩ := Option.bind_eq_some_iff.mp hq
            cases hq
            refine h.set_committed hr hid hopen ?_
            show (s.shared.failed_jobs.erase r.item.id).get? id = none
            rw [Table.get?_erase, if_pos hid.symm]
        | missed hphase =>
            have hopen : r.isOpen = true := by simp [RetryRequest.isOpen, hphase]
            obtain ⟨-, -, hfound⟩ := h.holds r hold hid hopen
            cases hfound false hphase
        | failed hopen =>
            rw [hturn.commits i r rfl hr] at hopen
            cases hopen
      · refine h.set_other hr hid hretry.item hretry.past ?_
        obtain hsame | ⟨herase, -⟩ := hretry.failed_jobs
        · rw [hsame]
        · rw [herase, Table.get?_erase, if_neg fun heq => hid heq.symm]

/-! ## §4. When a job is retried exactly once. -/

/-- The job of the row is in the queue again once if and only if the row is gone, and never
    more often. -/
structure RetriedOnce (s : Served QueueState RetryRequest) (id : Int) : Prop where
  once_iff : enqueuedTimes s id = 1 ↔ s.shared.failed_jobs.get? id = none
  atMost : enqueuedTimes s id ≤ 1

/-- **A failed job is retried exactly once** where requests take turns: in every run of
    retries of any rows, among any other steps of the queue, from a queue that has the row,
    at every point where no request is under way. -/
theorem retried_exactly_once {q : QueueState} {s : Served QueueState RetryRequest}
    {es : List (ServiceEvent QueueEvent Int RetryAct)} {id : Int}
    (hrow : q.failed_jobs.get? id ≠ none)
    (hrun : (retries rt settings).machine.run ⟨q, []⟩ es = some s)
    (hturns : (retries rt settings).machine.Meets (TakesTurns rt settings) ⟨q, []⟩ es)
    (hover : ∀ r ∈ s.requests, r.isOpen = false) : RetriedOnce s id := by
  have hstart : RetryInv id ⟨q, []⟩ := by
    refine ⟨?_, ?_, Nat.zero_le 1, fun hnone => absurd hnone hrow, ?_⟩
    · intro r hr
      cases hr
    · intro r hr
      cases hr
    · intro _ r hr
      cases hr
  have h : RetryInv id s :=
    Machine.run_of_meets (fun a e b hturn ha hab => ha.step hturn hab) hrun hturns hstart
  refine ⟨⟨?_, h.gone⟩, h.once⟩
  intro hone
  by_contra hthere
  have hzero := h.none_yet hthere fun r hr _ => hover r hr
  omega

/-- A job that failed: its function does not exist. -/
def lostCall : EnqueueCall := ⟨"default", "ping", none, [.int 7], [], 0⟩

/-- It is recorded under the id 1. -/
def failedRun : List QueueEvent :=
  [.enqueue_job 1 lostCall, .run_worker 7 [], .claim_jobs 7 10 [], .task 0 .call,
    .task 0 (.fail_job 11 .committed), .task 0 (.record_failed_job 1 "2026-05-15" .committed)]

/-- The queue after it. -/
def failedQueue : QueueState where
  jobs := ⟨[setFailed 11 "未注册的队列任务：ping" (setRunning 10 (lostCall.row 1 3))],
    List.nodup_singleton _⟩
  failed_jobs := ⟨[failedJob (claimedRow (setRunning 10 (lostCall.row 1 3))) 1
    "未注册的队列任务：ping" "2026-05-15"], List.nodup_singleton _⟩
  workers := ⟨[⟨7, ["default"], .live⟩], nodup_seven⟩
  tasks := []
  history := [.recorded 1 (failedJob (claimedRow (setRunning 10 (lostCall.row 1 3))) 1
    "未注册的队列任务：ping" "2026-05-15"), .unregistered 1, .claimed 1 10,
    .enqueued (lostCall.row 1 3)]

theorem failedQueue_reached : (queue {}).Reaches .empty failedQueue := by
  have hrun : (queue {}).run .empty failedRun = some failedQueue := rfl
  exact Machine.Reaches.of_run hrun

/-- Two administrators retry the row at the same time. -/
def retriedTwice : List (ServiceEvent QueueEvent Int RetryAct) :=
  [.arrive 1, .arrive 1, .act 0 (.enqueue_job (.finite 20) 2 .committed),
    .act 1 (.enqueue_job (.finite 20) 3 .committed), .act 0 .delete, .act 0 .commit,
    .act 1 .delete, .act 1 .commit]

/-- The transaction of the only retry fails when the handler has returned. -/
def rolledBackRetry : List (ServiceEvent QueueEvent Int RetryAct) :=
  [.arrive 1, .act 0 (.enqueue_job (.finite 20) 2 .committed), .act 0 .delete, .act 0 .rollback]

/-- One retry, undisturbed. -/
def plainRetry : List (ServiceEvent QueueEvent Int RetryAct) :=
  [.arrive 1, .act 0 (.enqueue_job (.finite 20) 2 .committed), .act 0 .delete, .act 0 .commit]

/-- **A job is enqueued twice by two retries**, and **a retry that is rolled back leaves the
    row and the job**. -/
theorem retried_twice_or_kept : (queue {}).Reaches .empty failedQueue ∧
    (∃ s, (retries Utc.bare {}).machine.run ⟨failedQueue, []⟩ retriedTwice = some s ∧
      enqueuedTimes s 1 = 2 ∧ s.shared.failed_jobs.get? 1 = none) ∧
    ∃ s, (retries Utc.bare {}).machine.run ⟨failedQueue, []⟩ rolledBackRetry = some s ∧
      enqueuedTimes s 1 = 1 ∧ s.shared.failed_jobs.get? 1 ≠ none := by
  refine ⟨failedQueue_reached, ⟨_, rfl, by decide +kernel, rfl⟩, _, rfl, by decide +kernel, ?_⟩
  intro hnone
  cases hnone

/-- A step that neither enqueues nor fails. -/
theorem TakesTurns.of_other {s : Served QueueState RetryRequest}
    {e : ServiceEvent QueueEvent Int RetryAct}
    (henqueue : ∀ i now id outcome, e ≠ .act i (.enqueue_job now id outcome))
    (hrollback : ∀ i, e ≠ .act i .rollback) : TakesTurns rt settings s e where
  enqueues := fun i now id outcome _ _ _ he => absurd he (henqueue i now id outcome)
  commits := fun i _ he => absurd he (hrollback i)

/-- What the retry enqueues. -/
def lostAgain : EnqueueCall := ⟨"default", "ping", none, [.int 7], [], 20⟩

theorem plainRetry_turns : (retries Utc.bare {}).machine.Meets (TakesTurns Utc.bare {})
    ⟨failedQueue, []⟩ plainRetry := by
  refine .cons (.of_other (by simp) (by simp)) rfl ?_
  refine .cons ⟨?_, by simp⟩ rfl ?_
  · intro i now id outcome r call c he hr hphase hcall
    cases he
    cases hr
    cases hphase
    have hc : c = lostAgain := Except.ok.inj (hcall.symm.trans rfl)
    refine .inr ⟨rfl, ?_, ?_, ?_⟩
    · intro hkey
      rw [hc] at hkey
      cases hkey
    · intro hnone
      cases hnone
    · intro r' hr' _
      rw [List.mem_singleton.mp hr']
      rfl
  refine .cons (.of_other (by simp) (by simp)) rfl ?_
  exact .cons (.of_other (by simp) (by simp)) rfl trivial

theorem retried_exactly_once_plain : ∃ s,
    (retries Utc.bare {}).machine.run ⟨failedQueue, []⟩ plainRetry = some s ∧ RetriedOnce s 1 := by
  have hrow : failedQueue.failed_jobs.get? 1 ≠ none := by
    intro hnone
    cases hnone
  obtain ⟨s, hs⟩ : ∃ s, (retries Utc.bare {}).machine.run ⟨failedQueue, []⟩ plainRetry = some s :=
    ⟨_, rfl⟩
  refine ⟨s, hs, retried_exactly_once hrow hs plainRetry_turns ?_⟩
  intro r hr
  cases hs
  rw [List.mem_singleton.mp hr]
  rfl

end PyBoard.FailedJobService
