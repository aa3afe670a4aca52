/-
  PyBoard.Specs.Orders — how one commit may change one order.

  `OrderStep` is the transition relation of an order row under the calls of
  `PyBoard.Operations`: nothing, an insertion, a change that keeps its status, a
  cancellation, an acceptance that was refused, or a completion.  What an order
  was placed for (`Order.terms`) never changes.
-/
import PyBoard.Specs.Effects

namespace PyBoard

open Relational

variable {C : Contract Call Tbl} {rt : Runtime}

/-! ## §1. The change of one order. -/

/-- The columns that are fixed when an order is placed. -/
def Order.terms (o : Order) :
    String × Int × Int × String × Int × Option Int × Int × Option Int × Option Int :=
  (o.trade_no, o.user_id, o.plan_id, o.period, o.total_amount, o.balance_amount, o.created_at,
    o.coupon_id, o.discount_amount)

/-- An order that an opening still takes. -/
def Order.isOpen (o : Order) : Bool := o.status = 0 || o.status = 1

theorem Order.isOpen_iff {o : Order} : o.isOpen = true ↔ o.status = 0 ∨ o.status = 1 := by
  simp [Order.isOpen]

theorem Order.isDeposit_congr {o o' : Order} (h : o'.terms = o.terms) :
    OrderService.isDeposit o' = OrderService.isDeposit o := by
  simp only [Order.terms, Prod.mk.injEq] at h
  obtain ⟨-, -, hplan, hperiod, -⟩ := h
  rw [OrderService.isDeposit, OrderService.isDeposit, hperiod, hplan]

/-- Orders with the same terms are payable together. -/
theorem Order.Payable.congr {o o' : Order} (h : o.Payable) (hterms : o'.terms = o.terms) :
    o'.Payable := by
  have hd := Order.isDeposit_congr hterms
  simp only [Order.terms, Prod.mk.injEq] at hterms
  obtain ⟨-, -, -, hperiod, -, hbal, -⟩ := hterms
  refine ⟨hbal ▸ h.nonneg, fun hpos => ?_⟩
  rw [hd, hperiod]
  exact h.plan (hbal ▸ hpos)

/-- A cancellation changes the status of whatever version is current. -/
theorem Order.merge_cancelled {o : Order} (cur : Order) (h : o.status = 0) :
    o.merge { o with status := 2 } cur = { cur with status := 2 } := by
  simp [Order.merge, column, h]

/-- The operation that moves commission to the balance. -/
def Op.transfers : Op → Bool
  | .transferCommission .. => true
  | _ => false

/-- How a commit of `op` in `s` may change the order with `id` `id`. -/
inductive OrderStep (C : Contract Call Tbl) (rt : Runtime) (op : Op) (s : State Tbl)
    (ss : Session Tbl) (id : Int) : Option Order → Option Order → Prop
  | same (o : Option Order) : OrderStep C rt op s ss id o o
  | inserted (o : Order) (hpay : o.Payable)
      (hnew : (Placed C rt op o s ∧ ss.ws = [.put .orders o]) ∨
        (o.status = 3 ∧ o.total_amount = 0 ∧ o.coupon_id = none ∧ op.transfers = true)) :
      OrderStep C rt op s ss id none (some o)
  | kept (o o' : Order) (hterms : o'.terms = o.terms) (hst : o'.status = o.status) :
      OrderStep C rt op s ss id (some o) (some o')
  | cancelled (o₀ o : Order) (hop : op.cancels = true) (hst : o₀.status = 0)
      (adm : Admitted C (t := .orders) o₀ { o₀ with status := 2 } o) (seen : Seen C id o₀ s) :
      OrderStep C rt op s ss id (some o) (some { o with status := 2 })
  | refused (trade_no : String) (request : AdminUi.Request) (o : Order)
      (hop : op = .markOrderPaidAction trade_no request)
      (why : Prompt C rt op id s (some "manual_operation")) (hst : o.isOpen = true) :
      OrderStep C rt op s ss id (some o)
        (some (OrderService.accepted o (some "manual_operation")))
  | opened (opened : Opened) (callback_no : Option String) (o' : Order)
      (why : Prompt C rt op id s callback_no) (hv : opened.Valid C rt callback_no s ss)
      (hws : ss.ws = opened.writes callback_no) (hid : opened.order.id = id)
      (hterms : o'.terms = opened.order.terms) (hst : o'.status = 3) :
      OrderStep C rt op s ss id (some opened.order) (some o')

variable {s : State Tbl} {ss : Session Tbl}

/-- A commission keeps the terms and the status of its order, and touches no other. -/
theorem CommissionWrites.orders {o : Order} {ws : List (Write Tbl)}
    (h : CommissionWrites C rt o s ss ws) {db : Database} (ho : (db .orders).get? o.id = some o) :
    (∀ id, id ≠ o.id → (db.apply ws .orders).get? id = (db .orders).get? id) ∧
      ∃ o', (db.apply ws .orders).get? o.id = some o' ∧ o'.terms = o.terms ∧
        o'.status = o.status := by
  have hput : ∀ o' : Order, o.SameButCommission o' →
      (∀ id, id ≠ o.id → (((db .orders).put o').get? id = (db .orders).get? id)) ∧
        ∃ o'', ((db .orders).put o').get? o.id = some o'' ∧ o''.terms = o.terms ∧
          o''.status = o.status := by
    intro o' hsame
    have hid : o'.id = o.id := by rw [hsame]
    refine ⟨fun id hne => Table.get?_put_of_ne _ fun h => hne (h.trans hid), o', ?_, ?_, ?_⟩
    · rw [← hid]
      exact Table.get?_put_self _ _
    · rw [hsame]; rfl
    · rw [hsame]
  cases h with
  | nothing => exact ⟨fun _ _ => rfl, o, ho, rfl, rfl⟩
  | status o' hsame => exact hput o' hsame
  | grant g hg => exact hput g.order hg.same

/-- One order written over the current one. -/
theorem OrderStep.of_put {op : Op} {o o' : Order} {db : Database} (id : Int)
    (hcur : (db .orders).get? o'.id = some o)
    (h : o'.id = id → OrderStep C rt op s ss id (some o) (some o')) :
    OrderStep C rt op s ss id ((db .orders).get? id)
      ((db.apply [.put .orders o'] .orders).get? id) := by
  have happ : db.apply [.put .orders o'] .orders = (db .orders).put o' := DB.put_same db _ _
  rw [happ, Table.get?_put]
  split
  · next hid =>
    have hid' : id = o'.id := hid
    rw [hid', hcur, ← hid']
    exact h hid'.symm
  · exact .same _

/-- One order added. -/
theorem OrderStep.of_insert {op : Op} {o : Order} {db : Database} (id : Int)
    (hfresh : (db .orders).get? o.id = none) (hpay : o.Payable)
    (hnew : (Placed C rt op o s ∧ ss.ws = [.put .orders o]) ∨
      (o.status = 3 ∧ o.total_amount = 0 ∧ o.coupon_id = none ∧ op.transfers = true)) :
    OrderStep C rt op s ss id ((db .orders).get? id)
      ((db.apply [.put .orders o] .orders).get? id) := by
  have happ : db.apply [.put .orders o] .orders = (db .orders).put o := DB.put_same db _ _
  rw [happ, Table.get?_put]
  split
  · next hid =>
    have hid' : id = o.id := hid
    rw [hid', hfresh]
    exact .inserted o hpay hnew
  · exact .same _

/-- An opening completes its order and touches no other. -/
theorem Opened.Valid.orders {opened : Opened} {cb : Option String}
    (hv : opened.Valid C rt cb s ss) :
    (∀ id, id ≠ opened.order.id →
      (s.db.apply (opened.writes cb) .orders).get? id = (s.db .orders).get? id) ∧
    ∃ o', (s.db.apply (opened.writes cb) .orders).get? opened.order.id = some o' ∧
      o'.terms = opened.order.terms ∧ o'.status = 3 := by
  rw [opened.apply_orders cb s.db, DB.apply_cons, DB.apply_cons]
  set db' := (s.db.write (.put .orders (OrderService.accepted opened.order cb))).write
    (.put .orders (opened.order' cb)) with hdb'
  have hstored : db' .orders = ((s.db .orders).put (OrderService.accepted opened.order cb)).put
      (opened.order' cb) := by
    rw [hdb']
    exact (DB.put_same _ _ _).trans (by rw [DB.write, DB.put_same])
  have hdone : (db' .orders).get? opened.order.id = some (opened.order' cb) := by
    rw [hstored]
    exact Table.get?_put_self _ (opened.order' cb)
  obtain ⟨hothers, o', ho', hterms, hst⟩ := hv.commission_valid.orders hdone
  refine ⟨fun id hid => ?_, o', ho', hterms, hst⟩
  rw [hothers id hid, hstored, Table.get?_put_of_ne _ (r := opened.order' cb) hid,
    Table.get?_put_of_ne _ (r := OrderService.accepted opened.order cb) hid]

theorem Opened.Valid.orderStep {op : Op} {opened : Opened} {cb : Option String}
    (hv : opened.Valid C rt cb s ss) (why : Prompt C rt op opened.order.id s cb)
    (hws : ss.ws = opened.writes cb) (id : Int) :
    OrderStep C rt op s ss id ((s.db .orders).get? id)
      ((s.db.apply (opened.writes cb) .orders).get? id) := by
  obtain ⟨hothers, o', ho', hterms, hst⟩ := hv.orders
  by_cases hid : id = opened.order.id
  · subst hid
    rw [hv.order_held.committed, ho']
    exact .opened opened cb o' why hv hws rfl hterms hst
  · rw [hothers id hid]
    exact .same _

/-- A refused opening leaves its order accepted, or untouched. -/
theorem RefusedWrites.orderStep {op : Op} {order_id : Int} {ws : List (Write Tbl)}
    {trade_no : String} {request : AdminUi.Request}
    (h : RefusedWrites order_id (some "manual_operation") s ss ws)
    (hop : op = .markOrderPaidAction trade_no request)
    (why : Prompt C rt op order_id s (some "manual_operation")) (id : Int) :
    OrderStep C rt op s ss id ((s.db .orders).get? id)
      ((s.db.apply ws .orders).get? id) := by
  have haccepted : ∀ (o : Order) (ws : List (Write Tbl)), o.id = order_id →
      (o.status = 0 ∨ o.status = 1) → Holds s ss .orders o.id (some o) →
      ws.filter (fun w => w.table = .orders)
        = [.put .orders (OrderService.accepted o (some "manual_operation"))] →
      OrderStep C rt op s ss id ((s.db .orders).get? id)
        ((s.db.apply ws .orders).get? id) := by
    intro o ws hid hst ho hfilter
    rw [DB.apply_filter, hfilter]
    refine .of_put id (o := o) ho.committed fun hid' => ?_
    have hid'' : o.id = id := hid'
    exact .refused trade_no request o hop (hid''.symm.trans hid ▸ why) (Order.isOpen_iff.mpr hst)
  cases h with
  | missing => exact .same _
  | noUser o hid hst ho => exact haccepted o _ hid hst ho rfl
  | refused o user ws hid hst ho huid hu hr =>
    refine haccepted o _ hid hst ho ?_
    cases hr with
    | early => rfl
    | short hd c => simp [couponWrites_filter]
    | unsupported hd c => simp [couponWrites_filter]

/-- **Every commit changes every order by one of the steps.** -/
theorem Effect.orderStep {op : Op} (h : Effect C rt op s ss ss.ws) (id : Int) :
    OrderStep C rt op s ss id ((s.db .orders).get? id) ((s.view ss .orders).get? id) := by
  unfold State.view
  generalize hws : ss.ws = ws at h
  cases h with
  | nothing => exact .same _
  | opened opened cb why hv => exact hv.orderStep why hws id
  | refused trade_no request order_id ws hop why hr => exact hr.orderStep hop why id
  | cancelled o cur hop hst seen adm held =>
    rw [Order.merge_cancelled cur hst]
    have hid : cur.id = o.id := Table.key_of_get? held.committed
    refine .of_put id (o := cur) ?_ fun hid' => .cancelled o cur hop hst adm ?_
    · exact hid ▸ held.committed
    · have hkey : o.id = id := hid.symm.trans hid'
      exact hkey ▸ seen
  | invoiced user_id method trade_no o cur handling_amount hop hst held =>
    have hid : cur.id = o.id := Table.key_of_get? held.committed
    refine .of_put id (o := cur) ?_ fun _ => .kept cur _ ?_ ?_
    · exact hid ▸ held.committed
    · simp [Order.terms, Order.merge, Order.invoiced]
    · simp [Order.merge, Order.invoiced]
  | updated data o cur commission_status hop held =>
    have hid : cur.id = o.id := Table.key_of_get? held.committed
    refine .of_put id (o := cur) ?_ fun _ => .kept cur _ ?_ ?_
    · exact hid ▸ held.committed
    · simp [Order.terms, Order.merge]
    · simp [Order.merge]
  | created o placed held =>
    exact .of_insert id held.committed placed.payable (.inl ⟨placed, hws⟩)
  | granted order_id o ws hop held h =>
    obtain ⟨hothers, o', ho', hterms, hst⟩ := h.orders held.committed
    by_cases hid : id = o.id
    · rw [hid, held.committed, ho']
      exact .kept o o' hterms hst
    · rw [hothers id hid]
      exact .same _
  | transferred user_id amount user cur o hop hpos seen adm held hst hbal hzero hnone fresh =>
    rw [DB.apply_filter]
    exact .of_insert id fresh.committed ⟨by simp [hbal], by simp [hbal]⟩
      (.inr ⟨hst, hzero, hnone, by rw [hop]; rfl⟩)
  | redeemed user_id code r => exact .same _

/-- The operations that commit all of their work or none. -/
def Op.isAtomic : Op → Bool
  | .markOrderPaidAction .. => false
  | _ => true

/-- An order that is open after a commit was open before it on the same terms, or has just
    been placed.  An atomic operation keeps the status too. -/
theorem Effect.open_before {op : Op} (h : Effect C rt op s ss ss.ws)
    {o' : Order} (ho' : o' ∈ (s.view ss .orders).rows) (hopen : o'.isOpen = true) :
    (∃ o, (s.db .orders).get? o'.id = some o ∧ o.isOpen = true ∧ o'.terms = o.terms ∧
        (op.isAtomic = true → o'.status = o.status)) ∨
      (Placed C rt op o' s ∧ ss.ws = [.put .orders o']) := by
  have hstep := h.orderStep o'.id
  have hnew : (s.view ss .orders).get? o'.id = some o' := Table.get?_of_mem ho'
  rw [hnew] at hstep
  generalize hold : (s.db .orders).get? o'.id = old at hstep
  cases hstep with
  | same => exact Or.inl ⟨o', rfl, hopen, rfl, fun _ => rfl⟩
  | inserted _ hpay hplaced =>
    rcases hplaced with hplaced | ⟨h3, -⟩
    · exact Or.inr hplaced
    · simp [Order.isOpen, h3] at hopen
  | kept o _ hterms hst =>
    refine Or.inl ⟨o, rfl, ?_, hterms, fun _ => hst⟩
    rw [← hopen, Order.isOpen, Order.isOpen, hst]
  | cancelled => cases hopen
  | refused trade_no request o hop why hst =>
    refine Or.inl ⟨o, rfl, hst, rfl, fun hatom => ?_⟩
    rw [hop] at hatom
    cases hatom
  | opened opened cb _ why hv hws hid hterms hst => simp [Order.isOpen, hst] at hopen

/-- Every open order is pending, and it is the only one of its user. -/
structure OneOpen (db : Database) : Prop where
  pending : ∀ o ∈ (db .orders).rows, Order.isOpen o = true → o.status = 0
  only : ∀ o ∈ (db .orders).rows, ∀ o' ∈ (db .orders).rows, Order.isOpen o = true →
    Order.isOpen o' = true → o.user_id = o'.user_id → o = o'

/-- **An atomic operation keeps the open orders apart**, if the user of a new order had none. -/
theorem OneOpen.commit {op : Op} (h : OneOpen s.db) (he : Effect C rt op s ss ss.ws)
    (hatom : op.isAtomic = true) (hunpaid : ∀ o', Placed C rt op o' s →
      ∀ o ∈ (s.db .orders).rows, o.user_id = o'.user_id → o.status ≠ 0) :
    OneOpen (s.view ss) := by
  -- a user for whom an order is placed had no open order
  have hplaced_only : ∀ o' : Order, Placed C rt op o' s → ∀ o ∈ (s.db .orders).rows,
      Order.isOpen o = true → o.user_id ≠ o'.user_id := by
    intro o' hplaced o ho hopen huser
    exact hunpaid o' hplaced o ho huser (h.pending o ho hopen)
  constructor
  · intro o' ho' hopen
    rcases he.open_before ho' hopen with ⟨o, ho, hopen₀, -, hst⟩ | ⟨hplaced, -⟩
    · rw [hst hatom]
      exact h.pending o (Table.mem_of_get? ho) hopen₀
    · exact hplaced.pending
  · intro o₁ h₁ o₂ h₂ hopen₁ hopen₂ huser
    rcases he.open_before h₁ hopen₁ with ⟨p₁, hp₁, ho₁, ht₁, -⟩ | ⟨hplaced₁, hws₁⟩
    · have hu₁ : o₁.user_id = p₁.user_id := congrArg (fun t => t.2.1) ht₁
      rcases he.open_before h₂ hopen₂ with ⟨p₂, hp₂, ho₂, ht₂, -⟩ | ⟨hplaced₂, -⟩
      · have hu₂ : o₂.user_id = p₂.user_id := congrArg (fun t => t.2.1) ht₂
        have hsame := h.only p₁ (Table.mem_of_get? hp₁) p₂ (Table.mem_of_get? hp₂) ho₁ ho₂
          (by rw [← hu₁, ← hu₂, huser])
        have hid : o₁.id = o₂.id := by
          have hid₁ : p₁.id = o₁.id := Table.key_of_get? hp₁
          have hid₂ : p₂.id = o₂.id := Table.key_of_get? hp₂
          rw [← hid₁, ← hid₂, hsame]
        exact (s.view ss .orders).eq_of_key_eq h₁ h₂ hid
      · exact absurd (hu₁.symm.trans huser)
          (hplaced_only o₂ hplaced₂ p₁ (Table.mem_of_get? hp₁) ho₁)
    · rcases he.open_before h₂ hopen₂ with ⟨p₂, hp₂, ho₂, ht₂, -⟩ | ⟨-, hws₂⟩
      · have hu₂ : o₂.user_id = p₂.user_id := congrArg (fun t => t.2.1) ht₂
        exact absurd (hu₂.symm.trans huser.symm)
          (hplaced_only o₁ hplaced₁ p₂ (Table.mem_of_get? hp₂) ho₂)
      · rw [hws₁] at hws₂
        injection hws₂ with hput
        injection hput with _ hrow

/-! ## §2. The evolution of the orders. -/

/-- Orders stay, on their terms, and what is closed stays closed. -/
def OrdersEvolve (s s' : State Tbl) : Prop :=
  ∀ id o, (s.db .orders).get? id = some o → ∃ o', (s'.db .orders).get? id = some o' ∧
    o'.terms = o.terms ∧ (o.isOpen = false → o'.isOpen = false)

theorem OrdersEvolve.refl (s : State Tbl) : OrdersEvolve s s :=
  fun _ o ho => ⟨o, ho, rfl, fun h => h⟩

theorem OrdersEvolve.trans {s₁ s₂ s₃ : State Tbl} (h₁ : OrdersEvolve s₁ s₂)
    (h₂ : OrdersEvolve s₂ s₃) : OrdersEvolve s₁ s₃ := by
  intro id o ho
  obtain ⟨o₂, ho₂, ht₂, hc₂⟩ := h₁ id o ho
  obtain ⟨o₃, ho₃, ht₃, hc₃⟩ := h₂ id o₂ ho₂
  exact ⟨o₃, ho₃, ht₃.trans ht₂, fun h => hc₃ (hc₂ h)⟩

/-- Every step keeps the terms, and opens nothing that is closed. -/
theorem OrderStep.evolves {op : Op} {id : Int} {old new : Option Order}
    (h : OrderStep C rt op s ss id old new) {o : Order} (ho : old = some o) :
    ∃ o', new = some o' ∧ o'.terms = o.terms ∧ (o.isOpen = false → o'.isOpen = false) := by
  cases h with
  | same => exact ⟨o, ho, rfl, fun h => h⟩
  | inserted => cases ho
  | kept o₁ o' ht hst =>
    cases ho
    exact ⟨o', rfl, ht, fun h => by rw [Order.isOpen, hst]; exact h⟩
  | cancelled o₀ o₁ hop hst adm =>
    cases ho
    exact ⟨_, rfl, rfl, fun _ => rfl⟩
  | refused trade_no request o₁ hop why hst =>
    cases ho
    exact ⟨_, rfl, rfl, fun h => by rw [hst] at h; cases h⟩
  | opened opened cb o' why hv hws hid ht hst =>
    cases ho
    exact ⟨o', rfl, ht, fun _ => by simp [Order.isOpen, hst]⟩

theorem Effect.ordersEvolve {op : Op} (h : Effect C rt op s ss ss.ws) :
    OrdersEvolve s (s.commit ss) := fun id _ ho => (h.orderStep id).evolves ho

/-! ## §3. Completions. -/

/-- The order `id` becomes completed between two databases. -/
def completes (db db' : Database) (id : Int) : Bool :=
  match (db .orders).get? id, (db' .orders).get? id with
  | some o, some o' => o.isOpen && o'.status = 3
  | _, _ => false

theorem completes_iff {db db' : Database} {id : Int} :
    completes db db' id = true ↔ ∃ o o', (db .orders).get? id = some o ∧
      (db' .orders).get? id = some o' ∧ o.isOpen = true ∧ o'.status = 3 := by
  unfold completes
  constructor
  · intro h
    split at h
    · next o o' ho ho' =>
      rw [Bool.and_eq_true, decide_eq_true_eq] at h
      exact ⟨o, o', ho, ho', h⟩
    · cases h
  · rintro ⟨o, o', ho, ho', h⟩
    rw [ho, ho', Bool.and_eq_true, decide_eq_true_eq]
    exact h

/-- An order is completed by its opening only. -/
theorem Effect.of_completes (h : Effect C rt op s ss ss.ws) {id : Int}
    (hc : completes s.db (s.view ss) id = true) :
    ∃ (opened : Opened) (cb : Option String), opened.Valid C rt cb s ss ∧ ss.ws = opened.writes cb ∧
      opened.order.id = id := by
  obtain ⟨o, o', ho, ho', hopen, h3⟩ := completes_iff.mp hc
  have hstep := h.orderStep id
  rw [ho, ho'] at hstep
  cases hstep with
  | same => rcases Order.isOpen_iff.mp hopen with h | h <;> omega
  | kept _ _ _ hst => rcases Order.isOpen_iff.mp hopen with h | h <;> omega
  | cancelled => cases h3
  | refused => cases h3
  | opened opened cb _ why hv hws hid => exact ⟨opened, cb, hv, hws, hid⟩

/-- Two openings with the same writes are of one order. -/
theorem Opened.order_id_of_writes {o₁ o₂ : Opened} {cb₁ cb₂ : Option String}
    (h : o₁.writes cb₁ = o₂.writes cb₂) : o₁.order.id = o₂.order.id := by
  have hhead := (List.cons.inj h).1
  injection hhead with _ hrow
  have hid : (OrderService.accepted o₁.order cb₁).id = (OrderService.accepted o₂.order cb₂).id :=
    congrArg Order.id hrow
  exact hid

/-- An opening completes no other order. -/
theorem Opened.only_completes {op : Op} {opened : Opened} {cb : Option String}
    (hws : ss.ws = opened.writes cb) (h : Effect C rt op s ss ss.ws) {id : Int}
    (hc : completes s.db (s.view ss) id = true) : id = opened.order.id := by
  obtain ⟨opened', cb', -, hws', hid'⟩ := h.of_completes hc
  exact hid'.symm.trans (Opened.order_id_of_writes (hws'.symm.trans hws))

/-- An opening completes its order. -/
theorem Opened.Valid.completes_order {opened : Opened} {cb : Option String}
    (hv : opened.Valid C rt cb s ss) (hws : ss.ws = opened.writes cb) :
    completes s.db (s.view ss) opened.order.id = true := by
  obtain ⟨-, o', ho', -, hst⟩ := hv.orders
  refine completes_iff.mpr ⟨opened.order, o', hv.order_held.committed, ?_,
    Order.isOpen_iff.mpr hv.pending, hst⟩
  rw [State.view, hws]
  exact ho'

/-- Has a commit of the run completed the order `id`? -/
def completedIn (commits : List (Commit Call Tbl)) (id : Int) : Bool :=
  commits.any fun cm => completes cm.before.db cm.after.db id

/-- What the run has completed is closed. -/
def CompletedAreClosed (s : State Tbl) (commits : List (Commit Call Tbl)) : Prop :=
  ∀ id, completedIn commits id = true → ∃ o, (s.db .orders).get? id = some o ∧ o.isOpen = false

/-- What completes now was not completed before. -/
theorem CompletedAreClosed.not_before {commits : List (Commit Call Tbl)} {db' : Database}
    {id : Int} (h : CompletedAreClosed s commits) (hc : completes s.db db' id = true) :
    completedIn commits id = false := by
  refine Bool.eq_false_iff.mpr fun hbefore => ?_
  obtain ⟨o, ho, hclosed⟩ := h id hbefore
  obtain ⟨o', -, ho', -, hopen, -⟩ := completes_iff.mp hc
  rw [ho] at ho'
  cases ho'
  rw [hopen] at hclosed
  cases hclosed

theorem CompletedAreClosed.commit {commits : List (Commit Call Tbl)} {c : Call}
    (h : CompletedAreClosed s commits) (he : OrdersEvolve s (s.commit ss)) :
    CompletedAreClosed (s.commit ss) (⟨c, s, ss⟩ :: commits) := by
  intro id hid
  rw [completedIn, List.any_cons, Bool.or_eq_true] at hid
  rcases hid with hc | hbefore
  · obtain ⟨-, o', -, ho', -, h3⟩ := completes_iff.mp hc
    exact ⟨o', ho', by simp [Order.isOpen, h3]⟩
  · obtain ⟨o, ho, hclosed⟩ := h id hbefore
    obtain ⟨o', ho', -, hkeep⟩ := he id o ho
    exact ⟨o', ho', hkeep hclosed⟩

/-- The sum of an amount over the orders that `done` picks. -/
def sumOver (db : Database) (f : Order → Int) (done : Int → Bool) : Int :=
  (db .orders).sum fun o : Order => if done o.id = true then f o else 0

theorem sumOver_of_none {db : Database} {f : Order → Int} {done : Int → Bool}
    (h : ∀ id, ¬ done id = true) : sumOver db f done = 0 :=
  Table.sum_eq_zero fun o _ => if_neg (h o.id)

/-- **The completed orders of a run**, after one more commit: an amount that the terms of an
    order fix grows by the orders that the commit completes. -/
theorem sumOver_commit {cs : List (Commit Call Tbl)} {c : Call} {f : Order → Int}
    (hf : ∀ o o' : Order, o'.terms = o.terms → f o' = f o) (he : OrdersEvolve s (s.commit ss))
    (hclosed : CompletedAreClosed s cs) :
    sumOver (s.view ss) f (completedIn (⟨c, s, ss⟩ :: cs))
      = sumOver s.db f (completedIn cs) + sumOver s.db f (completes s.db (s.view ss)) := by
  have hcons : ∀ id, completedIn (⟨c, s, ss⟩ :: cs) id
      = (completes s.db (s.view ss) id || completedIn cs id) := fun id => rfl
  refine Table.sum_add_of_valueAt fun id => ?_
  cases ho : (s.db .orders).get? id with
  | none =>
    rw [Table.valueAt_of_none ho, Table.valueAt_of_none ho]
    cases ho' : (s.view ss .orders).get? id with
    | none => exact Table.valueAt_of_none ho'
    | some o' =>
      have hid : o'.id = id := Table.key_of_get? ho'
      have hnow : completes s.db (s.view ss) id = false := by simp [completes, ho]
      have hbefore : completedIn cs id = false := by
        refine Bool.eq_false_iff.mpr fun h => ?_
        obtain ⟨o, hsome, -⟩ := hclosed id h
        rw [ho] at hsome
        cases hsome
      rw [Table.valueAt_of_get? ho']
      simp [hcons, hid, hnow, hbefore]
  | some o =>
    obtain ⟨o', ho', hterms, -⟩ := he id o ho
    rw [State.commit_db] at ho'
    have hid : o.id = id := Table.key_of_get? ho
    have hid' : o'.id = id := Table.key_of_get? ho'
    rw [Table.valueAt_of_get? ho, Table.valueAt_of_get? ho, Table.valueAt_of_get? ho']
    simp only [hcons, hid, hid', hf o o' hterms]
    cases hc : completes s.db (s.view ss) id with
    | true => simp [hclosed.not_before hc]
    | false => simp

/-- An opening completes one order. -/
theorem Opened.Valid.sumOver_completes {op : Op} {opened : Opened} {cb : Option String}
    (hv : opened.Valid C rt cb s ss) (hws : ss.ws = opened.writes cb)
    (h : Effect C rt op s ss ss.ws) (f : Order → Int) :
    sumOver s.db f (completes s.db (s.view ss)) = f opened.order := by
  have hsingle := Table.sum_eq_single (f := fun o : Order =>
      if completes s.db (s.view ss) o.id = true then f o else 0) hv.order_held.committed
    fun o _ hne => if_neg fun hc => hne (Opened.only_completes hws h hc)
  rw [sumOver, hsingle, hv.completes_order hws, if_pos rfl]

end PyBoard
