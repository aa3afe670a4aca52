/-
  PyBoard.Results.Notification — what the answer to a payment notification means.

  The driver stops repeating a notification that is answered with "success".
  Here that answer is related to the order the notification is about, before and
  after the request.
-/
import PyBoard.Relational.Exclusive
import PyBoard.Specs.Orders
import PyBoard.Python.Utc

namespace PyBoard

open Relational

variable {rt : Runtime}

/-! ## §1. The notified order. -/

/-- `o` is stored, and the driver verified the notification for it. -/
structure Notified (rt : Runtime) (db : Database) (gateway_name payment_uuid : String)
    (params : JsonDict) (o : Order) : Prop where
  stored : (db .orders).get? o.id = some o
  verified : ∃ (p : Payment) (notify : PaymentNotifyResult),
    (db .payment).get? p.id = some p ∧
      Verified rt gateway_name payment_uuid params p o notify

/-- What the answer of a notification says about the database before and after it. -/
inductive Answered (rt : Runtime) (gateway_name payment_uuid : String) (params : JsonDict)
    (before after : Database) : String → Prop
  | fail (h : after = before) : Answered rt gateway_name payment_uuid params before after "fail"
  /-- An open order was fulfilled. -/
  | fulfilled (o o' : Order) (ho : Notified rt before gateway_name payment_uuid params o)
      (hopen : o.isOpen = true) (ho' : (after .orders).get? o.id = some o')
      (hterms : o'.terms = o.terms) (hst : o'.status = 3) :
      Answered rt gateway_name payment_uuid params before after "success"
  /-- An order that is neither pending nor opening is left as it is. -/
  | closed (o : Order) (ho : Notified rt before gateway_name payment_uuid params o)
      (hclosed : o.isOpen = false) (h : after = before) :
      Answered rt gateway_name payment_uuid params before after "success"

/-! ## §2. The request. -/

section

variable {fresh : Fresh} {gateway_name payment_uuid : String} {params : JsonDict}
  {db : Database} {s : State Tbl}

/-- The outcome of a notification that meets the database `db`. -/
def AnsweredPost (rt : Runtime) (gateway_name payment_uuid : String) (params : JsonDict)
    (db : Database) (r : Except PyExc String) (s' : State Tbl) (ss' : Session Tbl) : Prop :=
  match r with
  | .ok answer => Answered rt gateway_name payment_uuid params db (s'.view ss') answer
  | .error _ => True

theorem settleNotify_answered {p : Payment} {notify : PaymentNotifyResult}
    (hdb : s.db = db)
    (hverified : ∀ o : Order, (db .orders).get? o.id = some o → o.trade_no = notify.trade_no →
      o.payment_id = some p.id →
      notify.paid_amount = some (o.total_amount + o.handling_amount.getD 0) →
      Notified rt db gateway_name payment_uuid params o) :
    wp (Contract.solo : Contract Call Tbl) (OrderService.settleNotify rt fresh p notify)
      (AnsweredPost rt gateway_name payment_uuid params db) s Session.fresh := by
  refine (wp_bind _ _ _ _ _).mpr (wp_selectOne (fun s₁ he₁ _ => ?_)
    (fun s₁ o he₁ hget htrade => ?_) fun _ _ => trivial)
  · exact .fail (he₁.rely.solo_db.trans hdb)
  have hdb₁ : s₁.db = db := he₁.rely.solo_db.trans hdb
  have hfail : Answered rt gateway_name payment_uuid params db (s₁.view Session.fresh) "fail" :=
    .fail hdb₁
  have hstored : (db .orders).get? o.id = some o := hdb₁ ▸ hget
  dsimp only
  refine wp_ite (fun _ => hfail) fun hpid => wp_ite (fun _ => hfail) fun hamount => ?_
  have ho : Notified rt db gateway_name payment_uuid params o :=
    hverified o hstored (by simpa using htrade) (not_not.mp hpid) (not_not.mp hamount)
  refine wp_ite (fun hclosed => ?_) fun hopen => ?_
  · refine .closed o ho ?_ hdb₁
    simp [Order.isOpen, hclosed.1, hclosed.2]
  -- the opening answers "success"; an `AppException` rolls back and answers "fail"
  have hst : o.isOpen = true := by
    rw [Order.isOpen_iff]
    by_contra h
    exact hopen ⟨fun h0 => h (Or.inl h0), fun h1 => h (Or.inr h1)⟩
  refine (wp_tryCatch _ _ _ _ _).mpr ((wp_bind _ _ _ _ _).mpr
    (wp_mono (processPaidOrder_spec rfl) ?_))
  rintro (e | _) s₂ ss₂ h
  · dsimp only
    refine wp_ite (fun _ => ?_) fun _ => trivial
    refine (wp_bind _ _ _ _ _).mpr (wp_rollback fun s₃ hr₃ _ => ?_)
    have hdb₂ : s₂.db = db ∨ e.isApp = false := by
      rcases h with h | ⟨ws, he₂, -⟩
      · exact Or.inr h
      · exact Or.inl (he₂.rely.solo_db.trans hdb₁)
    rcases hdb₂ with hdb₂ | happ
    · exact .fail (hr₃.solo_db.trans hdb₂)
    · simp_all
  · obtain ⟨ws, he₂, ⟨-, o₂, hclosed, hheld⟩ | ⟨opened, hid, hv, -, rfl⟩⟩ := h
    · -- the locked row is the one that was read
      have ho₂ : (db .orders).get? o.id = some o₂ :=
        (he₂.rely.solo_db.trans hdb₁) ▸ hheld.committed
      rw [hstored] at ho₂
      cases ho₂
      rcases Order.isOpen_iff.mp hst with h | h
      · exact absurd h hclosed.1
      · exact absurd h hclosed.2
    · have ho₂ : (db .orders).get? o.id = some opened.order :=
        (he₂.rely.solo_db.trans hdb₁) ▸ hid ▸ hv.order_held.committed
      rw [hstored] at ho₂
      obtain ⟨-, o', ho', hterms, hst'⟩ := hv.orders
      have hws : ss₂.ws = opened.writes (some notify.callback_no) := he₂.ws_eq
      refine .fulfilled o o' ho hst ?_ ?_ hst'
      · rw [State.view, hws, ← hid]
        exact ho'
      · rw [hterms, Option.some.inj ho₂]

theorem handlePaymentNotify_answered (hdb : s.db = db) :
    wp (Contract.solo : Contract Call Tbl)
      (OrderService.handlePaymentNotify rt fresh gateway_name payment_uuid params)
      (AnsweredPost rt gateway_name payment_uuid params db) s Session.fresh := by
  refine (wp_bind _ _ _ _ _).mpr (wp_selectOne (fun s₁ he₁ _ => ?_)
    (fun s₁ p he₁ hget hp => ?_) fun _ _ => trivial)
  · exact .fail (he₁.rely.solo_db.trans hdb)
  have hdb₁ : s₁.db = db := he₁.rely.solo_db.trans hdb
  have hfail : Answered rt gateway_name payment_uuid params db (s₁.view Session.fresh) "fail" :=
    .fail hdb₁
  dsimp only
  refine wp_ite (fun _ => hfail) fun henable => ?_
  cases hg : OrderService.notifiedGateway rt gateway_name p with
  | error e => exact wp_ite (fun _ => hfail) fun _ => trivial
  | ok driver =>
    cases driver with
    | none => exact hfail
    | some driver =>
      refine (wp_bind _ _ _ _ _).mpr (wp_liftExcept ?_)
      cases hv : driver.1.verify_notify driver.2 params with
      | error e => trivial
      | ok notify =>
        refine wp_ite (fun _ => hfail) fun hsuccess => ?_
        refine settleNotify_answered hdb₁ fun o ho htrade hpid hamount => ⟨ho, p, notify, ?_, ?_⟩
        · exact hdb₁ ▸ hget
        · exact ⟨by simpa using hp, by simpa using henable, ⟨driver.1, driver.2, hg, hv⟩,
            by simpa using hsuccess, htrade, hpid, hamount⟩

end

/-- **The answer to a notification is faithful** about open orders: "success" means that
    the notified order is fulfilled now, or was neither pending nor opening before and has
    been left alone; "fail" means that nothing has changed. -/
theorem notify_answer_faithful (rt : Runtime) (fresh : Fresh)
    (gateway_name payment_uuid : String) (params : JsonDict) (s : State Tbl) :
    match (OrderService.handlePaymentNotify rt fresh gateway_name payment_uuid params).run s
        Session.fresh with
    | (.ok answer, ss) =>
        Answered rt gateway_name payment_uuid params s.db (s.view ss) answer
    | (.error _, _) => True := by
  have hspec : wp (Contract.solo : Contract Call Tbl)
      (OrderService.handlePaymentNotify rt fresh gateway_name payment_uuid params)
      (AnsweredPost rt gateway_name payment_uuid params s.db) s Session.fresh :=
    handlePaymentNotify_answered rfl
  have h := wp_run trivial (fun _ _ => rfl) hspec
  generalize OrderService.handlePaymentNotify rt fresh gateway_name payment_uuid params = p at h ⊢
  generalize p.run s Session.fresh = out at h ⊢
  obtain ⟨e | answer, ss⟩ := out
  · trivial
  · exact h

/-! ## §3. A notification for a cancelled order. -/

/-- A driver that has verified the payment of 100 for the order "A". -/
def verifiedDriver : PaymentGateway where
  gateway := "EPay"
  aliases := ["epay"]
  required_config := []
  pay _ _ := .ok .null
  verify_notify _ _ := .ok { success := true, trade_no := "A", callback_no := "B",
                             paid_amount := some 100 }

/-- An invoiced deposit that was cancelled before its payment was notified. -/
def cancelledDeposit : Database := Database.empty.apply [
  .put Tbl.users ({ id := 1, email := "a@example.com", password := "", token := "",
                    uuid := "" } : User),
  .put Tbl.orders ({ id := 1, user_id := 1, plan_id := 0, type := 9, period := "deposit",
                     trade_no := "A", total_amount := 100, payment_id := some 1, status := 2,
                     created_at := 0 } : Order),
  .put Tbl.payment ({ id := 1, uuid := "u1", payment := "EPay", config := [],
                      enable := true } : Payment)]

/-- **The payment of a cancelled order is acknowledged**: the answer is "success" and the
    order keeps the status 2. -/
theorem cancelled_answered_success :
    let s : State Tbl := ⟨cancelledDeposit, 1700000000⟩
    let (r, ss) := (OrderService.handlePaymentNotify
      (Utc.runtime (fun _ => none) (fun _ _ => none) [verifiedDriver]) ⟨0, 0, ""⟩ "epay" "u1"
      []).run s Session.fresh
    (r.toOption, ((s.view ss .orders).get? (1 : Int)).map Order.status)
      = (some "success", some 2) := by
  decide +kernel

end PyBoard
