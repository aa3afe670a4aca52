/-
  PyBoard.Specs.Effects — what every request and job has written when it returns.

  `Effect` lists, for the calls of `PyBoard.Operations`, the rows that can be in
  the session when the call returns, together with what is known of the committed
  rows they replace.  It is stable under the rely of its transaction, so it still
  holds when the transaction commits; `keeps_of_effect` turns it into the
  obligation of a contract.

  Main results:
    * `Call.prog_spec` — a call that returns has one of the effects.
    * `keeps_of_effect` — a contract is kept when every effect guarantees it.
-/
import PyBoard.Specs.Opening
import PyBoard.Specs.Creation
import PyBoard.Specs.Giftcard

namespace PyBoard

open Relational

variable {C : Contract Call Tbl} {rt : Runtime} {α β : Type}

/-! ## §1. Why an order is opened. -/

/-- The order with `id` `order_id` was read as `o` since the transaction began. -/
structure Seen (C : Contract Call Tbl) (order_id : Int) (o : Order) (s' : State Tbl) :
    Prop where
  when : ∃ s₁, C.Rely [] s₁ s' ∧ (s₁.db .orders).get? order_id = some o

theorem Seen.rely {order_id : Int} {o : Order} {s s' : State Tbl} (h : Seen C order_id o s)
    (hr : C.Rely [] s s') : Seen C order_id o s' := by
  obtain ⟨s₁, hr₁, ho⟩ := h.when
  exact ⟨s₁, hr₁.trans hr, ho⟩

/-- The driver of `p` verified the notification, for the order `o`. -/
structure Verified (rt : Runtime) (gateway_name payment_uuid : String) (params : JsonDict)
    (p : Payment) (o : Order) (notify : PaymentNotifyResult) : Prop where
  uuid : p.uuid = payment_uuid
  enabled : p.enable = true
  driver : ∃ gateway config,
    OrderService.notifiedGateway rt gateway_name p = .ok (some (gateway, config)) ∧
      gateway.verify_notify config params = .ok notify
  success : notify.success = true
  trade_no : o.trade_no = notify.trade_no
  payment_id : o.payment_id = some p.id
  amount : notify.paid_amount = some (o.total_amount + o.handling_amount.getD 0)

/-- Does the operation mark the order `trade_no` as paid by hand? -/
def Op.marks (trade_no : String) : Op → Prop
  | .adminMarkPaid t => t = trade_no
  | .markOrderPaidAction t _ => t = trade_no
  | _ => False

/-- What makes a call open the order with `id` `order_id`, and the callback number it
    records. -/
inductive Prompt (C : Contract Call Tbl) (rt : Runtime) (op : Op) (order_id : Int)
    (s' : State Tbl) : Option String → Prop
  | free (user_id method : Int) (trade_no : String)
      (hop : op = .checkout user_id trade_no method) (o : Order) (ho : Seen C order_id o s')
      (hst : o.status = 0) (hzero : o.total_amount ≤ 0) : Prompt C rt op order_id s' none
  | notified (gateway_name payment_uuid : String) (params : JsonDict)
      (hop : op = .paymentNotify gateway_name payment_uuid params) (p : Payment) (o : Order)
      (notify : PaymentNotifyResult)
      (hp : ∃ s₁, C.Rely [] s₁ s' ∧ (s₁.db .payment).get? p.id = some p)
      (ho : Seen C order_id o s')
      (hv : Verified rt gateway_name payment_uuid params p o notify) :
      Prompt C rt op order_id s' (some notify.callback_no)
  | marked (trade_no : String) (hop : op.marks trade_no) (o : Order)
      (ho : Seen C order_id o s') (htrade : o.trade_no = trade_no) (hst : o.status = 0) :
      Prompt C rt op order_id s' (some "manual_operation")
  | paid (trade_no : String) (hop : op = .orderHandle trade_no) (o : Order)
      (ho : Seen C order_id o s') (hst : o.status = 1) : Prompt C rt op order_id s' none

theorem Prompt.rely {op : Op} {order_id : Int} {s s' : State Tbl} {cb : Option String}
    (h : Prompt C rt op order_id s cb) (hr : C.Rely [] s s') :
    Prompt C rt op order_id s' cb := by
  cases h with
  | free user_id method trade_no hop o ho hst hzero =>
    exact .free user_id method trade_no hop o (ho.rely hr) hst hzero
  | notified gateway_name payment_uuid params hop p o notify hp ho hv =>
    obtain ⟨s₁, hr₁, hp⟩ := hp
    exact .notified gateway_name payment_uuid params hop p o notify ⟨s₁, hr₁.trans hr, hp⟩
      (ho.rely hr) hv
  | marked trade_no hop o ho htrade hst => exact .marked trade_no hop o (ho.rely hr) htrade hst
  | paid trade_no hop o ho hst => exact .paid trade_no hop o (ho.rely hr) hst

/-! ## §2. Effects. -/

/-- The operations that set an order to the cancelled status. -/
def Op.cancels : Op → Bool
  | .cancelOrder .. | .adminCancelOrder .. | .cancelOrderAction .. | .orderHandle .. => true
  | _ => false

/-- The invoice that a checkout prepares. -/
def Order.invoiced (o : Order) (handling_amount : Option Int) (payment_id : Int) : Order :=
  { o with handling_amount := handling_amount, payment_id := some payment_id }

/-- The user after a transfer, as the session holds it. -/
def User.transferred (user : User) (amount : Int) : User :=
  { user with
    commission_balance := user.commission_balance - amount
    balance := user.balance + amount }

/-- **What a call has written when it returns**, in `s'` and `ss'`. -/
inductive Effect (C : Contract Call Tbl) (rt : Runtime) (op : Op) (s' : State Tbl)
    (ss' : Session Tbl) : List (Write Tbl) → Prop
  | nothing : Effect C rt op s' ss' []
  | opened (opened : Opened) (callback_no : Option String)
      (why : Prompt C rt op opened.order.id s' callback_no)
      (hv : opened.Valid C rt callback_no s' ss') :
      Effect C rt op s' ss' (opened.writes callback_no)
  | refused (trade_no : String) (request : AdminUi.Request) (order_id : Int)
      (ws : List (Write Tbl)) (hop : op = .markOrderPaidAction trade_no request)
      (why : Prompt C rt op order_id s' (some "manual_operation"))
      (h : RefusedWrites order_id (some "manual_operation") s' ss' ws) :
      Effect C rt op s' ss' ws
  | cancelled (o cur : Order) (hop : op.cancels = true) (hst : o.status = 0)
      (seen : Seen C o.id o s')
      (adm : Admitted C (t := .orders) o { o with status := 2 } cur)
      (held : Holds s' ss' .orders o.id (some cur)) :
      Effect C rt op s' ss' [.put .orders (o.merge { o with status := 2 } cur)]
  | invoiced (user_id method : Int) (trade_no : String) (o cur : Order)
      (handling_amount : Option Int) (hop : op = .checkout user_id trade_no method)
      (hst : o.status = 0) (held : Holds s' ss' .orders o.id (some cur)) :
      Effect C rt op s' ss'
        [.put .orders (o.merge (o.invoiced handling_amount method) cur)]
  | updated (data : OrderService.AdminOrderUpdate) (o cur : Order) (commission_status : Int)
      (hop : op = .adminUpdateOrder data) (held : Holds s' ss' .orders o.id (some cur)) :
      Effect C rt op s' ss'
        [.put .orders (o.merge { o with commission_status := commission_status } cur)]
  | created (o : Order) (placed : Placed C rt op o s') (held : Holds s' ss' .orders o.id none) :
      Effect C rt op s' ss' [.put .orders o]
  | granted (order_id : Int) (o : Order) (ws : List (Write Tbl))
      (hop : op = .calcCommission order_id) (held : Holds s' ss' .orders o.id (some o))
      (h : CommissionWrites C rt o s' ss' ws) : Effect C rt op s' ss' ws
  | transferred (user_id amount : Int) (user cur : User) (o : Order)
      (hop : op = .transferCommission user_id amount) (hpos : 0 < amount)
      (seen : SeenUser C user.id user s')
      (adm : Admitted C (t := .users) user (user.transferred amount) cur)
      (held : Holds s' ss' .users user.id (some cur)) (hst : o.status = 3)
      (hbal : o.balance_amount = none) (hzero : o.total_amount = 0) (hnone : o.coupon_id = none)
      (fresh : Holds s' ss' .orders o.id none) :
      Effect C rt op s' ss'
        [.put .users (user.merge (user.transferred amount) cur), .put .orders o]
  | redeemed (user_id : Int) (code : String) (r : Redemption) (hop : op = .redeem user_id code)
      (huser : r.user.id = user_id) (hv : r.Valid C s' ss')
      (hcode : GiftcardService.normalizeCode rt code = .ok r.card.code) :
      Effect C rt op s' ss' (r.writes rt)

/-- An effect is stable while its transaction waits. -/
theorem Effect.rely {op : Op} {s s' : State Tbl} {ss : Session Tbl} {ws : List (Write Tbl)}
    (h : Effect C rt op s ss ws) (hr : C.Rely ss.locks s s') (hi : C.Inv s') :
    Effect C rt op s' ss ws := by
  have he : Extends C s ss s' ss [] := .read hr hi
  have hr₀ : C.Rely [] s s' := hr.mono (List.nil_subset _)
  cases h with
  | nothing => exact .nothing
  | opened opened callback_no why hv =>
    exact .opened opened callback_no (why.rely hr₀) (hv.extends he)
  | refused trade_no request order_id ws hop why h =>
    exact .refused trade_no request order_id ws hop (why.rely hr₀) (h.extends he)
  | cancelled o cur hop hst seen adm held =>
    exact .cancelled o cur hop hst (seen.rely hr₀) adm (held.extends he)
  | invoiced user_id method trade_no o cur handling_amount hop hst held =>
    exact .invoiced user_id method trade_no o cur handling_amount hop hst (held.extends he)
  | updated data o cur commission_status hop held =>
    exact .updated data o cur commission_status hop (held.extends he)
  | created o placed held => exact .created o (placed.rely hr₀) (held.extends he)
  | granted order_id o ws hop held h =>
    exact .granted order_id o ws hop (held.extends he) (h.extends he)
  | transferred user_id amount user cur o hop hpos seen adm held hst hbal hzero hnone fresh =>
    exact .transferred user_id amount user cur o hop hpos (seen.rely hr₀) adm (held.extends he) hst
      hbal hzero hnone (fresh.extends he)
  | redeemed user_id code r hop huser hv hcode =>
    exact .redeemed user_id code r hop huser (hv.extends he) hcode

/-- The tables that hold prices, payment methods and settings are not written. -/
theorem Effect.table {op : Op} {s : State Tbl} {ss : Session Tbl} {ws : List (Write Tbl)}
    (h : Effect C rt op s ss ws) {w : Write Tbl} (hw : w ∈ ws) :
    w.table ≠ .plan ∧ w.table ≠ .payment ∧ w.table ≠ .setting := by
  cases h with
  | nothing => cases hw
  | opened opened callback_no why hv =>
    rcases hv.table hw with h | h | h | h <;> simp [h]
  | refused trade_no request order_id ws hop why h =>
    rcases h.table hw with h | h | h <;> simp [h]
  | cancelled o cur => rw [List.mem_singleton.mp hw]; simp
  | invoiced user_id method trade_no o cur => rw [List.mem_singleton.mp hw]; simp
  | updated data o cur => rw [List.mem_singleton.mp hw]; simp
  | created o => rw [List.mem_singleton.mp hw]; simp
  | granted order_id o ws hop held h => rcases h.table hw with h | h | h <;> simp [h]
  | transferred user_id amount user cur o =>
    simp only [List.mem_cons, List.not_mem_nil, or_false] at hw
    rcases hw with rfl | rfl <;> simp
  | redeemed user_id code r =>
    simp only [Redemption.writes, List.mem_cons, List.not_mem_nil, or_false] at hw
    rcases hw with rfl | rfl | rfl <;> simp

/-- The outcome of a program that runs for `op`. -/
def EffectPost (C : Contract Call Tbl) (rt : Runtime) (op : Op) (r : Except PyExc α)
    (s' : State Tbl) (ss' : Session Tbl) : Prop :=
  match r with
  | .ok _ => Effect C rt op s' ss' ss'.ws
  | .error _ => True

/-- The same for a service whose errors a form action may catch: only an error that
    no action catches leaves writes behind. -/
def ServicePost (C : Contract Call Tbl) (rt : Runtime) (op : Op) (r : Except PyExc α)
    (s' : State Tbl) (ss' : Session Tbl) : Prop :=
  match r with
  | .ok _ => Effect C rt op s' ss' ss'.ws
  | .error (.other _) => True
  | .error _ => ss'.ws = []

theorem ServicePost.effectPost {op : Op} {p : Db α} {s : State Tbl} {ss : Session Tbl}
    (h : wp C p (ServicePost C rt op) s ss) : wp C p (EffectPost C rt op) s ss := by
  refine wp_mono h ?_
  rintro (e | a) s' ss' hq
  · trivial
  · exact hq

/-! ## §3. Openings. -/

/-- A program whose answer is dropped. -/
theorem wp_void {p : Db α} {Q : Except PyExc Unit → State Tbl → Session Tbl → Prop}
    {s : State Tbl} {ss : Session Tbl}
    (h : wp C p (fun r s' ss' => Q (r.map fun _ => ()) s' ss') s ss) :
    wp C (void p) Q s ss := by
  refine (wp_bind _ _ _ _ _).mpr (wp_mono h ?_)
  rintro (e | a) s' ss' hq
  · exact hq
  · exact hq

theorem wp_void_effect {op : Op} {p : Db α} {s : State Tbl} {ss : Session Tbl}
    (h : wp C p (EffectPost C rt op) s ss) : wp C (void p) (EffectPost C rt op) s ss := by
  refine wp_void (wp_mono h ?_)
  rintro (e | a) s' ss' hq
  · exact hq
  · exact hq

/-- The session of a call that has only read so far sees the committed rows. -/
theorem Seen.now {order_id : Int} {o : Order} {s : State Tbl}
    (h : (s.view Session.fresh .orders).get? order_id = some o) : Seen C order_id o s :=
  ⟨s, .refl _ _, h⟩

/-- An opening that is prompted: it returns with an effect, or raises with the writes
    of a refused opening. -/
theorem processPaidOrder_effect {op : Op} {fresh : Fresh} {order_id : Int}
    {callback_no : Option String} {s : State Tbl}
    (why : Prompt C rt op order_id s callback_no) :
    wp C (OrderService.processPaidOrder rt fresh order_id callback_no)
      (fun r s' ss' =>
        match r with
        | .ok _ => Effect C rt op s' ss' ss'.ws
        | .error e => e.isApp = false ∨
          (Prompt C rt op order_id s' callback_no ∧
            RefusedWrites order_id callback_no s' ss' ss'.ws)) s Session.fresh := by
  refine wp_mono (processPaidOrder_spec rfl) ?_
  rintro (e | _) s' ss' h
  · rcases h with h | ⟨ws, he, hr⟩
    · exact Or.inl h
    · have hws : ss'.ws = ws := he.ws_eq
      exact Or.inr ⟨why.rely he.rely, hws ▸ hr⟩
  · obtain ⟨ws, he, ⟨rfl, -⟩ | ⟨opened, rfl, hv, -, rfl⟩⟩ := h
    · have hws : ss'.ws = [] := he.ws_eq
      dsimp only
      rw [hws]
      exact .nothing
    · have hws : ss'.ws = opened.writes callback_no := he.ws_eq
      dsimp only
      rw [hws]
      exact .opened opened callback_no (why.rely he.rely) hv

/-- The opening, when whatever it raises ends the call. -/
theorem processPaidOrder_call {op : Op} {fresh : Fresh} {order_id : Int}
    {callback_no : Option String} {s : State Tbl}
    (why : Prompt C rt op order_id s callback_no) :
    wp C (OrderService.processPaidOrder rt fresh order_id callback_no)
      (EffectPost C rt op) s Session.fresh := by
  refine wp_mono (processPaidOrder_effect why) ?_
  rintro (e | _) s' ss' h
  · trivial
  · exact h

/-- A program that only reads keeps an effect. -/
theorem wp_reads_effect {op : Op} {p : Db α} {s : State Tbl} {ss : Session Tbl}
    (hi : C.Inv s) (hp : Reads p) (h : Effect C rt op s ss ss.ws) :
    wp C p (EffectPost C rt op) s ss :=
  wp_of_reads hp hi (fun _ _ he => h.rely he.rely he.inv) fun _ _ _ _ => trivial

theorem reads_pay (payment : Payment) (order : Order) (trade_no : String) :
    Reads (OrderService.pay rt payment order trade_no) :=
  .bind (reads_liftExcept _) fun _ =>
    .bind (.bind (quiet_getCached _).reads fun _ => trivial) fun _ =>
      .bind (reads_liftExcept _) fun _ => reads_liftExcept _

theorem checkout_effect {fresh : Fresh} {user_id method : Int} {trade_no : String}
    {s : State Tbl} :
    wp C (OrderService.checkout rt fresh user_id trade_no method)
      (EffectPost C rt (.checkout user_id trade_no method)) s Session.fresh := by
  refine (wp_bind _ _ _ _ _).mpr (wp_selectOne (fun s₁ he₁ _ => trivial)
    (fun s₁ o he₁ hget hp => ?_) fun _ _ => trivial)
  have hst : o.status = 0 := by
    simp only [Bool.and_eq_true, decide_eq_true_eq] at hp
    exact hp.2
  dsimp only
  split
  · next hzero =>
    have why : Prompt C rt (.checkout user_id trade_no method) o.id s₁ none :=
      .free user_id method trade_no rfl o (Seen.now hget) hst hzero
    refine (wp_bind _ _ _ _ _).mpr (wp_mono (processPaidOrder_call why) ?_)
    rintro (e | _) s' ss' h
    · trivial
    · exact h
  refine (wp_bind _ _ _ _ _).mpr (wp_selectOne (fun _ _ _ => trivial)
    (fun s₂ p he₂ _ _ => ?_) fun _ _ => trivial)
  dsimp only
  refine (wp_bind _ _ _ _ _).mpr (wp_liftExcept ?_)
  split
  swap
  · trivial
  next handling_amount _ =>
  refine (wp_bind _ _ _ _ _).mpr (wp_ite (fun _ => ?_) fun _ => ?_)
  · refine wp_save (fun _ _ _ => trivial) fun s₃ cur hr hi _ hcur => ?_
    have hcur_id : cur.id = o.id := Table.key_of_get? hcur
    refine wp_reads_effect hi (reads_pay p _ trade_no) ?_
    refine .invoiced user_id method trade_no o cur _ rfl hst ⟨?_, hcur⟩
    rw [← hcur_id]
    exact List.mem_cons_self
  · exact wp_reads_effect he₂.inv (reads_pay p _ trade_no) .nothing

/-- Saving a pending order as cancelled. -/
theorem wp_save_cancelled {op : Op} {o : Order} {s : State Tbl} (hop : op.cancels = true)
    (hst : o.status = 0) (hseen : Seen C o.id o s) :
    wp C (save .orders o { o with status := 2 }) (ServicePost C rt op) s Session.fresh := by
  refine wp_save (fun _ _ _ => trivial) fun s' cur hr hi hstmt hcur => ?_
  have hcur_id : cur.id = o.id := Table.key_of_get? hcur
  refine .cancelled o cur hop hst (hseen.rely hr) ⟨s', _, hstmt, hcur⟩ ⟨?_, hcur⟩
  rw [← hcur_id]
  exact List.mem_cons_self

theorem cancelOrder_effect {trade_no : String} {user_id : Int} {s : State Tbl} :
    wp C (OrderService.cancelOrder trade_no user_id)
      (ServicePost C rt (.cancelOrder trade_no user_id)) s Session.fresh := by
  refine (wp_bind _ _ _ _ _).mpr (wp_selectOne (fun _ _ _ => rfl)
    (fun s₁ o he₁ hget _ => ?_) fun _ _ => trivial)
  dsimp only
  refine wp_ite (fun _ => rfl) fun _ => wp_ite (fun _ => rfl) fun hst => ?_
  exact wp_save_cancelled rfl (not_not.mp hst) (Seen.now hget)

theorem adminCancelOrder_effect (rt : Runtime) (op : Op) {trade_no : String} {s : State Tbl}
    (hop : op.cancels = true) :
    wp C (OrderService.adminCancelOrder trade_no) (ServicePost C rt op) s Session.fresh := by
  refine (wp_bind _ _ _ _ _).mpr (wp_selectOne (fun _ _ _ => rfl)
    (fun s₁ o he₁ hget _ => ?_) fun _ _ => trivial)
  dsimp only
  refine wp_ite (fun _ => rfl) fun hst => ?_
  exact wp_save_cancelled hop (not_not.mp hst) (Seen.now hget)

theorem adminUpdateOrder_effect {data : OrderService.AdminOrderUpdate} {s : State Tbl} :
    wp C (OrderService.adminUpdateOrder data) (EffectPost C rt (.adminUpdateOrder data)) s
      Session.fresh := by
  refine (wp_bind _ _ _ _ _).mpr (wp_selectOne (fun _ _ _ => trivial)
    (fun s₁ o he₁ hget _ => ?_) fun _ _ => trivial)
  dsimp only
  split
  · exact .nothing
  · trivial
  next commission_status _ =>
  refine wp_ite (fun _ => ?_) fun _ => .nothing
  refine wp_save (fun _ _ _ => trivial) fun s' cur hr hi hstmt hcur => ?_
  have hcur_id : cur.id = o.id := Table.key_of_get? hcur
  refine .updated data o cur commission_status rfl ⟨?_, hcur⟩
  rw [← hcur_id]
  exact List.mem_cons_self

theorem orderHandle_effect {fresh : Fresh} {trade_no : String} {s : State Tbl} :
    wp C (Queues.orderHandle rt fresh trade_no) (EffectPost C rt (.orderHandle trade_no)) s
      Session.fresh := by
  refine (wp_bind _ _ _ _ _).mpr (wp_selectOne (fun _ _ _ => .nothing)
    (fun s₁ o he₁ hget _ => ?_) fun _ _ => trivial)
  dsimp only
  refine wp_ite (fun hst => ?_) fun _ => wp_ite (fun hst => ?_) fun _ => .nothing
  · refine (wp_bind _ _ _ _ _).mpr (wp_clock fun s₂ he₂ => ?_)
    have hseen : Seen C o.id o s₂ := (Seen.now hget).rely he₂.rely
    exact wp_ite (fun _ => ServicePost.effectPost (wp_save_cancelled rfl hst hseen))
      fun _ => .nothing
  · exact processPaidOrder_call (.paid trade_no rfl o (Seen.now hget) hst)

/-- An order marked by hand: it returns with an effect, or raises with the writes of a
    refused opening. -/
theorem adminMarkPaid_effect (op : Op) {fresh : Fresh} {trade_no : String} {s : State Tbl}
    (hop : op.marks trade_no) :
    wp C (OrderService.adminMarkPaid rt fresh trade_no)
      (fun r s' ss' =>
        match r with
        | .ok _ => Effect C rt op s' ss' ss'.ws
        | .error e => e.isApp = false ∨ ss'.ws = [] ∨ ∃ order_id,
          Prompt C rt op order_id s' (some "manual_operation") ∧
            RefusedWrites order_id (some "manual_operation") s' ss' ss'.ws) s Session.fresh := by
  refine (wp_bind _ _ _ _ _).mpr (wp_selectOne (fun _ _ _ => Or.inr (Or.inl rfl))
    (fun s₁ o he₁ hget hp => ?_) fun _ _ => Or.inl rfl)
  dsimp only
  refine wp_ite (fun _ => Or.inr (Or.inl rfl)) fun hst => ?_
  have why : Prompt C rt op o.id s₁ (some "manual_operation") :=
    .marked trade_no hop o (Seen.now hget) (by simpa using hp) (not_not.mp hst)
  refine wp_mono (processPaidOrder_effect why) ?_
  rintro (e | _) s' ss' h
  · exact h.imp id fun h => Or.inr ⟨o.id, h⟩
  · exact h

/-! ## §4. The payment callback. -/

theorem settleNotify_effect {fresh : Fresh} {gateway_name payment_uuid : String}
    {params : JsonDict} {p : Payment} {notify : PaymentNotifyResult} {s : State Tbl}
    {gateway : PaymentGateway} {config : JsonDict}
    (hp : (s.db .payment).get? p.id = some p) (huuid : p.uuid = payment_uuid)
    (henable : p.enable = true)
    (hdriver : OrderService.notifiedGateway rt gateway_name p = .ok (some (gateway, config)))
    (hverify : gateway.verify_notify config params = .ok notify)
    (hsuccess : notify.success = true) :
    wp C (OrderService.settleNotify rt fresh p notify)
      (EffectPost C rt (.paymentNotify gateway_name payment_uuid params)) s Session.fresh := by
  refine (wp_bind _ _ _ _ _).mpr (wp_selectOne (fun _ _ _ => .nothing)
    (fun s₁ o he₁ hget htrade => ?_) fun _ _ => trivial)
  dsimp only
  refine wp_ite (fun _ => .nothing) fun hpid => wp_ite (fun _ => .nothing) fun hamount =>
    wp_ite (fun _ => .nothing) fun _ => ?_
  have why : Prompt C rt (.paymentNotify gateway_name payment_uuid params) o.id s₁
      (some notify.callback_no) :=
    .notified gateway_name payment_uuid params rfl p o notify ⟨s, he₁.rely, hp⟩
      (Seen.now hget)
      ⟨huuid, henable, ⟨gateway, config, hdriver, hverify⟩, hsuccess, by simpa using htrade,
        not_not.mp hpid, not_not.mp hamount⟩
  refine (wp_tryCatch _ _ _ _ _).mpr ((wp_bind _ _ _ _ _).mpr
    (wp_mono (processPaidOrder_effect why) ?_))
  rintro (e | _) s₂ ss₂ h
  · dsimp only
    refine wp_ite (fun _ => ?_) fun _ => trivial
    exact (wp_bind _ _ _ _ _).mpr (wp_rollback fun _ _ _ => .nothing)
  · exact h

theorem handlePaymentNotify_effect {fresh : Fresh} {gateway_name payment_uuid : String}
    {params : JsonDict} {s : State Tbl} :
    wp C (OrderService.handlePaymentNotify rt fresh gateway_name payment_uuid params)
      (EffectPost C rt (.paymentNotify gateway_name payment_uuid params)) s Session.fresh := by
  refine (wp_bind _ _ _ _ _).mpr (wp_selectOne (fun _ _ _ => .nothing)
    (fun s₁ p he₁ hget hp => ?_) fun _ _ => trivial)
  dsimp only
  refine wp_ite (fun _ => .nothing) fun henable => ?_
  cases hg : OrderService.notifiedGateway rt gateway_name p with
  | error e => exact wp_ite (fun _ => .nothing) fun _ => trivial
  | ok driver =>
    cases driver with
    | none => exact .nothing
    | some driver =>
      refine (wp_bind _ _ _ _ _).mpr (wp_liftExcept ?_)
      cases hv : driver.1.verify_notify driver.2 params with
      | error e => trivial
      | ok notify =>
        refine wp_ite (fun _ => .nothing) fun hsuccess => ?_
        exact settleNotify_effect hget (by simpa using hp) (by simpa using henable) hg hv
          (by simpa using hsuccess)

/-! ## §5. New orders. -/

/-- An order that was placed is the effect of its call. -/
theorem PlacePost.servicePost {op : Op} {p : Db α} {s : State Tbl} {ss : Session Tbl}
    (h : wp C p (PlacePost C rt op) s ss) : wp C p (ServicePost C rt op) s ss := by
  refine wp_mono h ?_
  rintro (e | _) s' ss' hq
  · cases e <;> exact hq
  · obtain ⟨o, hws, held, placed⟩ := hq
    dsimp only [ServicePost]
    rw [hws]
    exact .created o placed held

/-! ## §6. The admin pages. -/

theorem reads_currentAdmin (request : AdminUi.Request) :
    Reads (AdminUi.currentAdmin rt request) := by
  unfold AdminUi.currentAdmin
  split
  · trivial
  split
  · trivial
  refine .bind quiet_time.reads fun now => ?_
  split
  · trivial
  refine .bind (quiet_get _).reads fun user => ?_
  split <;> trivial

/-- An action reads until its handler runs, in the session it started with. -/
theorem action_spec {request : AdminUi.Request} {run : AdminUi.Form → Db AdminUi.Page}
    {s : State Tbl} {ss : Session Tbl} (hi : C.Inv s)
    {Q : Except PyExc AdminUi.Page → State Tbl → Session Tbl → Prop}
    (hpage : ∀ page s', Extends C s ss s' ss [] → Q (.ok page) s' ss)
    (herr : ∀ e s', Extends C s ss s' ss [] → Q (.error e) s' ss)
    (hrun : ∀ form s', request.form = some form → Extends C s ss s' ss [] →
      wp C (run form) Q s' ss) :
    wp C (AdminUi.action rt request run) Q s ss := by
  refine (wp_bind _ _ _ _ _).mpr (wp_of_reads (reads_currentAdmin request) hi
    (fun admin s₁ he₁ => ?_) fun e s₁ he₁ _ => herr e s₁ he₁)
  cases admin with
  | none => exact hpage _ s₁ he₁
  | some id =>
    refine (wp_bind _ _ _ _ _).mpr ?_
    unfold AdminUi.formData
    split
    swap
    · exact herr _ s₁ he₁
    next form hform =>
    refine (wp_bind _ _ _ _ _).mpr (wp_liftExcept ?_)
    split
    swap
    · exact herr _ s₁ he₁
    exact wp_ite (fun _ => hrun form s₁ hform he₁) fun _ => hpage _ s₁ he₁

theorem reads_ordersTableResponse : Reads AdminUi.ordersTableResponse :=
  .bind (quiet_select _).reads fun _ => trivial

/-- A form action keeps the effect of its service. -/
theorem orFormError_effect {op : Op} {service : Db Unit} {response : Db AdminUi.Page}
    {s : State Tbl} (hi : C.Inv s) (hresp : Reads response)
    (h : wp C service (ServicePost C rt op) s Session.fresh) :
    wp C (AdminUi.orFormError service response) (EffectPost C rt op) s Session.fresh := by
  refine (wp_bind _ _ _ _ _).mpr ((wp_tryCatch _ _ _ _ _).mpr ((wp_bind _ _ _ _ _).mpr
    (wp_mono (wp_inv hi h) ?_)))
  rintro (e | _) s' ss' ⟨hi', hq⟩
  · have hcaught : ss'.ws = [] → Effect C rt op s' ss' ss'.ws := fun hws => by
      rw [hws]
      exact .nothing
    cases e with
    | app => exact hcaught hq
    | value => exact hcaught hq
    | other => trivial
  · exact wp_reads_effect hi' hresp hq

/-- An action keeps the effect of its service, whatever becomes of an `AppException`. -/
theorem orActionError_effect {op : Op} {service : Db Unit} {response : Db AdminUi.Page}
    {s : State Tbl} (hi : C.Inv s) (hresp : Reads response)
    (h : wp C service (fun r s' ss' =>
      match r with
      | .ok _ => Effect C rt op s' ss' ss'.ws
      | .error e => e.isApp = true → Effect C rt op s' ss' ss'.ws) s Session.fresh) :
    wp C (AdminUi.orActionError service response) (EffectPost C rt op) s Session.fresh := by
  refine (wp_bind _ _ _ _ _).mpr ((wp_tryCatch _ _ _ _ _).mpr ((wp_bind _ _ _ _ _).mpr
    (wp_mono (wp_inv hi h) ?_)))
  rintro (e | _) s' ss' ⟨hi', hq⟩
  · cases e with
    | app => exact hq rfl
    | value => trivial
    | other => trivial
  · exact wp_reads_effect hi' hresp hq

theorem assignOrderAction_effect {fresh : Fresh} {request : AdminUi.Request} {s : State Tbl}
    (hi : C.Inv s) :
    wp C (AdminUi.assignOrderAction rt fresh request)
      (EffectPost C rt (.assignOrderAction request)) s Session.fresh := by
  refine action_spec hi (fun _ _ _ => .nothing) (fun _ _ _ => trivial)
    fun form s₁ hform he₁ => ?_
  refine orFormError_effect he₁.inv reads_ordersTableResponse ?_
  refine (wp_bind _ _ _ _ _).mpr (wp_liftExcept ?_)
  split
  swap
  · next e _ =>
    cases e with
    | app => rfl
    | value => rfl
    | other => trivial
  next data hdata =>
  refine (wp_bind _ _ _ _ _).mpr (wp_mono (PlacePost.servicePost (adminAssignOrder_spec
    (.assignOrderAction request) ⟨form, hform, hdata⟩
    fun _ u _ hu he => ⟨form, data, hform, hdata, u, hu, he⟩)) ?_)
  rintro (e | _) s' ss' h
  · cases e <;> exact h
  · exact h

theorem cancelOrderAction_effect {trade_no : String} {request : AdminUi.Request}
    {s : State Tbl} (hi : C.Inv s) :
    wp C (AdminUi.cancelOrderAction rt trade_no request)
      (EffectPost C rt (.cancelOrderAction trade_no request)) s Session.fresh := by
  refine action_spec hi (fun _ _ _ => .nothing) (fun _ _ _ => trivial)
    fun form s₁ hform he₁ => ?_
  refine orActionError_effect he₁.inv reads_ordersTableResponse ?_
  refine wp_mono (adminCancelOrder_effect rt (.cancelOrderAction trade_no request) rfl) ?_
  rintro (e | _) s' ss' h
  · intro happ
    cases e with
    | app =>
      have hws : ss'.ws = [] := h
      rw [hws]
      exact .nothing
    | value => cases happ
    | other => cases happ
  · exact h

theorem markOrderPaidAction_effect {fresh : Fresh} {trade_no : String}
    {request : AdminUi.Request} {s : State Tbl} (hi : C.Inv s) :
    wp C (AdminUi.markOrderPaidAction rt fresh trade_no request)
      (EffectPost C rt (.markOrderPaidAction trade_no request)) s Session.fresh := by
  refine action_spec hi (fun _ _ _ => .nothing) (fun _ _ _ => trivial)
    fun form s₁ hform he₁ => ?_
  refine orActionError_effect he₁.inv reads_ordersTableResponse ?_
  refine wp_mono (adminMarkPaid_effect (.markOrderPaidAction trade_no request) rfl) ?_
  rintro (e | _) s' ss' h
  · intro happ
    rcases h with h | hws | ⟨order_id, why, hr⟩
    · rw [happ] at h
      cases h
    · rw [hws]
      exact .nothing
    · exact .refused trade_no request order_id _ rfl why hr
  · exact h

/-! ## §7. Commission, transfers and gift cards. -/

theorem calcCommission_effect {fresh : Fresh} {order_id : Int} {s : State Tbl} :
    wp C (Queues.calcCommission rt fresh order_id) (EffectPost C rt (.calcCommission order_id))
      s Session.fresh := by
  refine (wp_bind _ _ _ _ _).mpr (wp_get fun s₁ he₁ => ?_)
  dsimp only
  split
  swap
  · exact .nothing
  have hnone : ∀ w ∈ (Session.fresh : Session Tbl).ws, False := fun w hw => by cases hw
  refine wp_mono (CommissionService.calculateForOrder_spec rt fresh _
    (fun w hw => (hnone w hw).elim)
    (fun w hw => (hnone w hw).elim) (fun w hw => (hnone w hw).elim)
    fun _ _ _ _ _ _ w hw => (hnone w hw).elim) ?_
  rintro (e | _) s' ss' h
  · trivial
  obtain ⟨ws, he, rfl | ⟨s₂, ss₂, o, _, he₂, ho, heo, hcw⟩⟩ := h
  · have hws : ss'.ws = [] := he.ws_eq
    dsimp only [EffectPost]
    rw [hws]
    exact .nothing
  · have hws : ss'.ws = ws := he.ws_eq
    have hws₂ : ss₂.ws = [] := he₂.ws_eq
    dsimp only [EffectPost]
    rw [hws]
    refine .granted order_id o ws rfl ?_ hcw
    exact (ho.holds (by simp [hws₂])).extends heo

theorem transferCommission_effect {fresh : Fresh} {user_id amount : Int} {s : State Tbl} :
    wp C (InviteService.transferCommission fresh user_id amount)
      (EffectPost C rt (.transferCommission user_id amount)) s Session.fresh := by
  refine wp_ite (fun _ => trivial) fun hpos => ?_
  refine (wp_bind _ _ _ _ _).mpr (wp_get fun s₁ he₁ => ?_)
  dsimp only
  split
  swap
  · trivial
  next user huser =>
  have huid : user.id = user_id := Table.key_of_get? huser
  have hseen : SeenUser C user.id user s₁ := ⟨s₁, .refl _ _, huid ▸ huser⟩
  refine wp_ite (fun _ => trivial) fun _ => ?_
  refine (wp_bind _ _ _ _ _).mpr (wp_save (fun _ _ _ => trivial)
    fun s₂ cur hr₂ hi₂ hstmt hcur => ?_)
  have hcur_id : cur.id = user.id := Table.key_of_get? hcur
  have hheld : Holds s₂ (Session.fresh.write (.put .users
      (user.merge (user.transferred amount) cur))) .users user.id (some cur) := by
    refine ⟨?_, hcur⟩
    rw [← hcur_id]
    exact List.mem_cons_self
  refine (wp_bind _ _ _ _ _).mpr (wp_clock fun s₃ he₃ => ?_)
  refine wp_create (fun _ _ _ => trivial) fun s₄ he₄ hfresh => ?_
  have hr₄ : C.Rely [] s₂ s₄ := (he₃.trans he₄).rely.mono (List.nil_subset _)
  refine .transferred user_id amount user cur _ rfl (not_le.mp hpos)
    ((hseen.rely hr₂).rely hr₄) ⟨s₂, _, hstmt, hcur⟩
      ((hheld.extends he₃).extends he₄) rfl rfl rfl rfl ⟨List.mem_cons_self, ?_⟩
  refine Session.Avoids.committed ?_ hfresh
  intro w hw
  rw [List.mem_singleton.mp hw]
  simp

theorem redeem_effect {fresh : Fresh} {user_id : Int} {code : String} {s : State Tbl} :
    wp C (GiftcardService.redeem rt fresh user_id code) (EffectPost C rt (.redeem user_id code))
      s Session.fresh := by
  refine wp_mono redeem_spec ?_
  rintro (e | _) s' ss' h
  · trivial
  · obtain ⟨r, huser, hcode, -, hv, hws⟩ := h
    dsimp only [EffectPost]
    rw [hws]
    exact .redeemed user_id code r rfl huser hv hcode

/-! ## §8. Every call. -/

/-- **A call that returns has one of the effects.** -/
theorem Call.prog_spec (c : Call) {s : State Tbl} (hi : C.Inv s) :
    wp C (c.prog rt) (EffectPost C rt c.op) s Session.fresh := by
  obtain ⟨op, fresh⟩ := c
  cases op with
  | createOrder user_id data =>
    exact wp_void_effect (ServicePost.effectPost (PlacePost.servicePost createOrder_spec))
  | checkout user_id trade_no method => exact wp_void_effect checkout_effect
  | cancelOrder trade_no user_id => exact ServicePost.effectPost cancelOrder_effect
  | paymentNotify gateway_name payment_uuid params =>
    exact wp_void_effect handlePaymentNotify_effect
  | adminMarkPaid trade_no =>
    refine wp_mono (adminMarkPaid_effect (.adminMarkPaid trade_no) rfl) ?_
    rintro (e | _) s' ss' h
    · trivial
    · exact h
  | adminCancelOrder trade_no => exact ServicePost.effectPost (adminCancelOrder_effect rt _ rfl)
  | adminAssignOrder data =>
    exact wp_void_effect (ServicePost.effectPost (PlacePost.servicePost
      (adminAssignOrder_spec _ rfl fun _ u _ hu he => ⟨u, hu, he⟩)))
  | adminUpdateOrder data => exact adminUpdateOrder_effect
  | markOrderPaidAction trade_no request =>
    exact wp_void_effect (markOrderPaidAction_effect hi)
  | cancelOrderAction trade_no request => exact wp_void_effect (cancelOrderAction_effect hi)
  | assignOrderAction request => exact wp_void_effect (assignOrderAction_effect hi)
  | orderHandle trade_no => exact orderHandle_effect
  | calcCommission order_id => exact calcCommission_effect
  | redeem user_id code => exact redeem_effect
  | transferCommission user_id amount => exact transferCommission_effect

/-- **A contract is kept when every effect guarantees it** at the moment of the commit. -/
theorem keeps_of_effect (c : Call)
    (h : ∀ s ss, C.Inv s → Effect C rt c.op s ss ss.ws → C.commit c s ss = true →
      C.Guar c s ss) : C.Keeps c (c.prog rt) := by
  intro s hi
  refine wp_mono (wp_inv hi (c.prog_spec hi)) ?_
  rintro (e | a) s' ss' ⟨_, hq⟩
  · trivial
  · exact fun s'' hr hi'' hc => h s'' ss' hi'' (hq.rely hr hi'') hc

end PyBoard
