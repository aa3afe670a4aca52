/-
  PyBoard.Results.Commissions — the books of the commission.

  `calculateForOrder` runs when an order is opened and again in every `calc_commission`
  job, and an administrator may set `commission_status` to anything in between.  When
  these run one after the other, every order has at most one log row, the row has the
  amount that the rate in force gives, and the inviters are credited by their rows
  (`commission_accounted`).
-/
import PyBoard.Specs.Serial
import PyBoard.Python.Division
import PyBoard.Results.Wallets

namespace PyBoard

open Relational

variable {rt : Runtime} {s : State Tbl} {ss : Session Tbl}

/-! ## §1. The books. -/

/-- The requests and jobs that open orders or calculate commission, and the update of an
    order. -/
def Op.commissions : Op → Bool
  | .checkout .. | .paymentNotify .. | .adminMarkPaid _ | .markOrderPaidAction .. | .orderHandle _
  | .calcCommission _ | .adminUpdateOrder _ => true
  | _ => false

/-- Does an integer fit an INTEGER column? -/
def fitsInteger (a : Int) : Bool := -2 ^ 31 ≤ a && a < 2 ^ 31

/-- Runs of these operations.  The column `get_amount` is an INTEGER: the database refuses
    other values. -/
def granting : Cond Call Tbl where
  begin c := c.op.commissions
  stmt _ _ _ := true
  commit _ _ ss := ss.ws.all fun
    | .put .commission_log l => fitsInteger (CommissionLog.get_amount l)
    | _ => true

/-- `l` is the commission of the stored order `o` for its stored inviter, at the rate in
    force. -/
structure GrantOf (rt : Runtime) (db : Database) (l : CommissionLog) (o : Order) (inviter : User)
    (rate : Int) : Prop where
  order : (db .orders).get? o.id = some o
  trade_no : l.trade_no = o.trade_no
  buyer : l.user_id = o.user_id
  stored : (db .users).get? l.invite_user_id = some inviter
  not_buyer : l.invite_user_id ≠ l.user_id
  rated : rateInForce rt (db .setting).rows inviter = .ok rate
  positive : 0 < l.get_amount
  floor : 0 ≤ rate → l.get_amount = o.total_amount * rate / 100

/-- **The books of the commission**, after a run from `db₀` to `db` with `commits`. -/
structure CommissionAccounted (rt : Runtime) (db₀ db : Database)
    (commits : List (Commit Call Tbl)) : Prop where
  /-- An order has at most one row. -/
  once : ∀ l ∈ (db .commission_log).rows, ∀ l' ∈ (db .commission_log).rows,
    l.trade_no = l'.trade_no → l = l'
  /-- Every new row was granted by a commit, in the state this commit met. -/
  granted : ∀ l ∈ (db .commission_log).rows, l ∈ (db₀ .commission_log).rows ∨
    ∃ cm ∈ commits, ∃ o inviter rate, GrantOf rt cm.before.db l o inviter rate
  /-- The commission balances have grown by the new rows. -/
  credited : ∀ k u₀, (db₀ .users).get? k = some u₀ → ∃ u, (db .users).get? k = some u ∧
    u.commission_balance = u₀.commission_balance + grantedWorth db₀ db k
  /-- While only first orders count, a buyer causes at most one row. -/
  first : intSetting rt (db₀ .setting).rows "commission_first_time_enable" 1 ≠ .ok 0 →
    ∀ l ∈ (db .commission_log).rows, ∀ l' ∈ (db .commission_log).rows, l.user_id = l'.user_id →
      l = l' ∨ (l ∈ (db₀ .commission_log).rows ∧ l' ∈ (db₀ .commission_log).rows)

/-- The unique constraint of the log. -/
def LoggedOnce (db : Database) : Prop :=
  ∀ l ∈ (db .commission_log).rows, ∀ l' ∈ (db .commission_log).rows,
    CommissionLog.trade_no l = l'.trade_no → l = l'

/-- Every log row is of a completed plan order of its user. -/
def LogsOfOrders (db : Database) : Prop :=
  ∀ l ∈ (db .commission_log).rows, ∃ o ∈ (db .orders).rows,
    Order.trade_no o = CommissionLog.trade_no l ∧ o.user_id = l.user_id ∧ 0 < o.plan_id ∧
      o.status = 3

/-- The ids of the plans are not negative. -/
def PlanIdsNonneg (db : Database) : Prop := ∀ o ∈ (db .orders).rows, 0 ≤ Order.plan_id o

/-! ## §2. One commission. -/

/-- What is known of a row that a commit adds to the log. -/
structure NewLog (rt : Runtime) (db db' : Database) (l : CommissionLog) : Prop where
  unlogged : ∀ l' ∈ (db .commission_log).rows, CommissionLog.trade_no l' ≠ l.trade_no
  granted : ∃ o inviter rate, GrantOf rt db l o inviter rate ∧ 0 < o.plan_id ∧
    (∃ o', (db' .orders).get? o.id = some o' ∧ o'.terms = o.terms ∧ o'.status = 3) ∧
    (intSetting rt (db .setting).rows "commission_first_time_enable" 1 = .ok 0 ∨
      ∀ o' ∈ (db .orders).rows, Order.user_id o' = l.user_id → 0 < o'.plan_id → o'.status = 3 →
        o'.id = o.id)

/-- What a commit does to the commission. -/
structure CommissionGrows (rt : Runtime) (db db' : Database) (l : Option CommissionLog) : Prop where
  logged : (db .commission_log).Adds l (db' .commission_log)
  credited : ∀ k u, (db .users).get? k = some u → ∃ u', (db' .users).get? k = some u' ∧
    u'.commission_balance = u.commission_balance + (l.map (CommissionLog.worth k)).getD 0
  valid : ∀ x, l = some x → NewLog rt db db' x

/-- A commit that writes no log row and keeps the commission balances. -/
theorem CommissionGrows.of_quiet {db db' : Database}
    (hlog : db' .commission_log = db .commission_log)
    (hkept : ∀ k u, (db .users).get? k = some u → ∃ u', (db' .users).get? k = some u' ∧
      u'.commission_balance = u.commission_balance) : CommissionGrows rt db db' none where
  logged := by
    rw [hlog]
    exact .nothing
  credited k u hu := by
    obtain ⟨u', hu', hbal⟩ := hkept k u hu
    exact ⟨u', hu', by simp [hbal]⟩
  valid x hx := by cases hx

/-- What is written for the commission of `o` over a database `db` that differs from the
    committed one at most in the order's user. -/
theorem CommissionWrites.commission {o : Order} {ws : List (Write Tbl)}
    (h : CommissionWrites alone rt o s ss ws) {db : Database}
    (hother : ∀ k, k ≠ o.user_id → (db .users).get? k = (s.db .users).get? k)
    (hlog : db .commission_log = s.db .commission_log) :
    ∃ l, (db .commission_log).Adds l (db.apply ws .commission_log) ∧
      (∀ k u, (db .users).get? k = some u → ∃ u', (db.apply ws .users).get? k = some u' ∧
        u'.commission_balance = u.commission_balance + (l.map (CommissionLog.worth k)).getD 0) ∧
      ∀ x, l = some x → ∃ g : Grant, g.Valid alone rt o s ss ∧ x = g.log ∧
        .put .commission_log x ∈ ws := by
  have hnone : ∃ l, (db .commission_log).Adds l (db .commission_log) ∧
      (∀ k u, (db .users).get? k = some u → ∃ u', (db .users).get? k = some u' ∧
        u'.commission_balance = u.commission_balance + (l.map (CommissionLog.worth k)).getD 0) ∧
      ∀ x, l = some x → ∃ g : Grant, g.Valid alone rt o s ss ∧ x = g.log ∧
        .put .commission_log x ∈ ws :=
    ⟨none, .nothing, fun k u hu => ⟨u, hu, by simp⟩, fun x hx => by cases hx⟩
  cases h with
  | nothing => exact hnone
  | status o' => exact hnone
  | grant g hg =>
    -- the UPDATE met the version of the inviter that was read
    have hsame : g.current = g.inviter := by
      have hstored := hg.seen.stored
      rw [hg.held.committed] at hstored
      exact Option.some.inj hstored
    have hrow : g.inviter.merge (g.inviter.granted g.amount) g.current
        = g.inviter.granted g.amount := by
      rw [hsame]
      exact Tbl.users.merge_self g.inviter (g.inviter.granted g.amount) rfl
    have hcur : (db .users).get? (g.inviter.granted g.amount).id = some g.inviter := by
      change (db .users).get? g.inviter.id = some g.inviter
      rw [hother _ hg.inviter_ne]
      exact hg.seen.stored
    have husers : db.apply g.writes .users = (db .users).put (g.inviter.granted g.amount) := by
      rw [← hrow]
      exact DB.put_same db _ _
    have hlogs : db.apply g.writes .commission_log = (db .commission_log).put g.log :=
      DB.put_same _ _ _
    refine ⟨some g.log, ?_, fun k u hu => ?_, ?_⟩
    · rw [hlogs]
      exact .row g.log (by rw [hlog]; exact hg.log_fresh.committed)
    · obtain ⟨u', hu', hbal⟩ := User.put_moves User.commission_balance hcur hu
      refine ⟨u', by rw [husers]; exact hu', ?_⟩
      rw [hbal]
      simp [CommissionLog.worth, User.granted, hg.log_inviter, hg.log_amount]
    · rintro x ⟨⟩
      exact ⟨g, hg, rfl, by simp [Grant.writes]⟩

/-- **A granted commission is the one at the rate in force**, if it fits its column. -/
theorem Grant.Valid.grantOf {g : Grant} {o o₀ : Order} (hg : g.Valid alone rt o s ss)
    (hfits : fitsInteger g.log.get_amount = true) (ho₀ : (s.db .orders).get? o₀.id = some o₀)
    (hterms : o.terms = o₀.terms) : ∃ rate, GrantOf rt s.db g.log o₀ g.inviter rate := by
  simp only [Order.terms, Prod.mk.injEq] at hterms
  obtain ⟨htrade, huser, -, -, htotal, -⟩ := hterms
  obtain ⟨s₁, rate, hr₁, hrate, hamount⟩ := hg.rated
  rw [← hr₁.solo_db] at hrate
  refine ⟨rate, ?_⟩
  simp only [fitsInteger, Bool.and_eq_true, decide_eq_true_eq] at hfits
  rw [hg.log_amount] at hfits
  constructor
  · exact ho₀
  · rw [hg.log_trade_no, htrade]
  · rw [hg.log_user, huser]
  · rw [hg.log_inviter]
    exact hg.seen.stored
  · rw [hg.log_inviter, hg.log_user]
    exact hg.inviter_ne
  · exact hrate
  · rw [hg.log_amount]
    exact hg.amount_pos
  · intro hpos
    rw [hg.log_amount, ← htotal]
    exact toInt_divInt (mul_nonneg hg.total_pos.le hpos) (by norm_num) (by norm_num) hamount
      hfits.2

/-- A granted commission is a new row of the log. -/
theorem Grant.Valid.newLog {g : Grant} {o o₀ : Order} (hg : g.Valid alone rt o s ss)
    (hfits : fitsInteger g.log.get_amount = true) (ho₀ : (s.db .orders).get? o₀.id = some o₀)
    (hterms : o.terms = o₀.terms) (hid : o.id = o₀.id) (hplan : 0 ≤ o₀.plan_id) {db' : Database}
    (hdone : ∃ o', (db' .orders).get? o₀.id = some o' ∧ o'.terms = o₀.terms ∧ o'.status = 3) :
    NewLog rt s.db db' g.log where
  unlogged := by
    obtain ⟨s₁, hr₁, hnone⟩ := hg.unlogged
    rw [hr₁.solo_db, hg.log_trade_no]
    exact hnone
  granted := by
    obtain ⟨rate, hgrant⟩ := hg.grantOf hfits ho₀ hterms
    have hplan_eq : o.plan_id = o₀.plan_id := congrArg (fun t => t.2.2.1) hterms
    have hpos : 0 < o₀.plan_id := by
      have := hg.plan_ne
      omega
    refine ⟨o₀, g.inviter, rate, hgrant, hpos, hdone, ?_⟩
    rcases hg.first (hplan_eq ▸ hpos) with ⟨s₁, hr₁, hoff⟩ | ⟨s₁, hr₁, hfirst⟩
    · left
      rw [hr₁.solo_db]
      exact hoff
    · right
      rw [hr₁.solo_db, hg.log_user, ← hid]
      exact hfirst

/-! ## §3. One commit. -/

/-- The user of an opened order keeps the commission balance. -/
theorem Entitled.commission_balance {o : Order} {user user' : User}
    (h : Entitled alone rt o user s ss user') :
    user'.commission_balance = user.commission_balance := by
  cases h with
  | deposit => rfl
  | reset => rfl
  | plan hd p hp hpid slot carried expired_at hc => rcases hc with rfl | rfl <;> rfl

/-- A refused opening keeps every commission balance. -/
theorem RefusedWrites.commission_balances {order_id : Int} {cb : Option String}
    {ws : List (Write Tbl)} (h : RefusedWrites order_id cb s ss ws) {k : Int} {u : User}
    (hu : (s.db .users).get? k = some u) : ∃ u', (s.db.apply ws .users).get? k = some u' ∧
      u'.commission_balance = u.commission_balance := by
  cases h with
  | missing => exact ⟨u, hu, rfl⟩
  | noUser o => exact ⟨u, hu, rfl⟩
  | refused o user ws hid hst ho huid hheld hr =>
    cases hr with
    | early => exact ⟨u, hu, rfl⟩
    | short hd c =>
      refine ⟨u, ?_, rfl⟩
      rw [DB.apply_of_table_not_mem]
      · exact hu
      · intro w hw
        rcases List.mem_cons.mp hw with rfl | hw
        · simp
        · simp [couponWrites_table hw]
    | unsupported hd c =>
      set payer := OrderService.paying (OrderService.accepted o cb) user with hpayer
      have hput : s.db.apply [.put .users payer] .users = (s.db .users).put payer :=
        DB.put_same s.db _ _
      rw [DB.apply_filter]
      simp only [List.filter_cons, List.filter_append, couponWrites_filter, ne_eq, reduceCtorEq,
        not_false_eq_true, Write.table_put, decide_false, Bool.false_eq_true, if_false,
        List.nil_append, decide_true, if_true, List.filter_nil]
      have hcur : (s.db .users).get? payer.id = some user := hheld.committed
      obtain ⟨u', hu', hbal⟩ := User.put_moves User.commission_balance hcur hu
      refine ⟨u', by rw [hput]; exact hu', ?_⟩
      simpa [hpayer, OrderService.paying] using hbal

theorem Op.commissions_places {op : Op} (hop : op.commissions = true) {user_id : Int} :
    ¬ op.places alone rt user_id s := by
  cases op <;> first | exact id | cases hop

theorem Op.commissions_transfers {op : Op} (hop : op.commissions = true) :
    op.transfers = false := by
  cases op <;> first | rfl | cases hop

/-- What the opening of an order does to the commission. -/
theorem Opened.Valid.commissionGrows {opened : Opened} {cb : Option String}
    (hv : opened.Valid alone rt cb s ss) (hws : ss.ws = opened.writes cb)
    (hfits : ∀ l : CommissionLog, .put .commission_log l ∈ ss.ws → fitsInteger l.get_amount = true)
    (hplans : PlanIdsNonneg s.db) : ∃ l, CommissionGrows rt s.db (s.view ss) l := by
  have hview : s.view ss = s.db.apply (opened.writes cb) := by rw [State.view, hws]
  have hkey : opened.user'.id = opened.order.user_id := hv.entitled.id_eq.trans hv.user_id
  -- the user of the order is stored first, the commission after it
  set db' := s.db.write (.put .users opened.user') with hdb'
  have hstored : db' .users = (s.db .users).put opened.user' := DB.put_same s.db _ _
  have hlog : db' .commission_log = s.db .commission_log := DB.put_other s.db _ (by decide)
  obtain ⟨l, hadds, hcredited, hvalid⟩ := hv.commission_valid.commission (fun k hk => by
    rw [hstored]
    exact Table.get?_put_of_ne _ fun h => hk (h.trans hkey)) hlog
  refine ⟨l, ?_, fun k u hu => ?_, fun x hx => ?_⟩
  · rw [hview, opened.apply_commission_log cb s.db, ← hlog, DB.apply_congr _ hlog.symm]
    exact hadds
  · have hcur : (s.db .users).get? opened.user'.id = some opened.user := by
      rw [hv.entitled.id_eq]
      exact hv.user_held.committed
    obtain ⟨u₁, hu₁, hbal₁⟩ := User.put_moves User.commission_balance hcur hu
    obtain ⟨u₂, hu₂, hbal₂⟩ := hcredited k u₁ (by rw [hstored]; exact hu₁)
    refine ⟨u₂, ?_, ?_⟩
    · rw [hview, opened.apply_users cb s.db, DB.apply_cons]
      exact hu₂
    · rw [hbal₂, hbal₁, hv.entitled.commission_balance]
      simp
  · obtain ⟨g, hg, rfl, hmem⟩ := hvalid x hx
    have hput : .put .commission_log g.log ∈ ss.ws := by
      rw [hws, Opened.writes]
      simp [hmem]
    refine hg.newLog (hfits _ hput) hv.order_held.committed rfl rfl
      (hplans _ (Table.mem_of_get? hv.order_held.committed)) ?_
    rw [hview]
    exact hv.orders.2

/-- **What a commit does to the commission.** -/
theorem Effect.commissionGrows {c : Call} (h : Effect alone rt c.op s ss ss.ws)
    (hop : c.op.commissions = true) (hcommit : granting.commit c s ss = true)
    (hplans : PlanIdsNonneg s.db) : ∃ l, CommissionGrows rt s.db (s.view ss) l := by
  have hfits : ∀ l : CommissionLog, .put .commission_log l ∈ ss.ws →
      fitsInteger l.get_amount = true := fun l hl => List.all_eq_true.mp hcommit _ hl
  unfold State.view
  generalize hws : ss.ws = ws at h
  have hquiet : s.db.apply ws .commission_log = s.db .commission_log →
      s.db.apply ws .users = s.db .users → ∃ l, CommissionGrows rt s.db (s.db.apply ws) l :=
    fun hlog husers => ⟨none, .of_quiet hlog fun k u hu => ⟨u, by rw [husers]; exact hu, rfl⟩⟩
  cases h with
  | nothing => exact hquiet rfl rfl
  | opened opened cb why hv =>
    have hgrows := hv.commissionGrows hws hfits hplans
    rwa [State.view, hws] at hgrows
  | refused trade_no request order_id ws hop' why hr =>
    refine ⟨none, .of_quiet ?_ fun k u hu => hr.commission_balances hu⟩
    refine DB.apply_of_table_not_mem _ _ fun w hw => ?_
    rcases hr.table hw with h | h | h <;> simp [h]
  | cancelled o cur => exact hquiet rfl rfl
  | invoiced user_id method trade_no o cur => exact hquiet rfl rfl
  | updated data o cur => exact hquiet rfl rfl
  | created o placed => exact absurd placed.owner (Op.commissions_places hop)
  | granted order_id o ws hop' held h =>
    obtain ⟨l, hadds, hcredited, hvalid⟩ := h.commission (fun _ _ => rfl) rfl
    refine ⟨l, hadds, hcredited, fun x hx => ?_⟩
    obtain ⟨g, hg, rfl, hmem⟩ := hvalid x hx
    obtain ⟨-, o', ho', hterms, hst⟩ := h.orders held.committed
    exact hg.newLog (hfits _ (hws ▸ hmem)) held.committed rfl rfl
      (hplans _ (Table.mem_of_get? held.committed)) ⟨o', ho', hterms, hst.trans hg.completed⟩
  | transferred user_id amount user cur o hop' => rw [hop'] at hop; cases hop
  | redeemed user_id code r hop' => rw [hop'] at hop; cases hop

/-! ## §4. The orders of the log. -/

/-- These operations insert no order. -/
theorem Effect.order_before {c : Call} (h : Alone rt c s ss) (hop : c.op.commissions = true)
    {o' : Order} (ho' : o' ∈ (s.view ss .orders).rows) :
    ∃ o ∈ (s.db .orders).rows, o'.terms = Order.terms o := by
  have hstep := h.orderStep o'.id
  have hnew : (s.view ss .orders).get? o'.id = some o' := Table.get?_of_mem ho'
  rw [hnew] at hstep
  cases hold : (s.db .orders).get? o'.id with
  | some o =>
    rw [hold] at hstep
    obtain ⟨o'', ho'', hterms, -⟩ := hstep.evolves rfl
    cases ho''
    exact ⟨o, Table.mem_of_get? hold, hterms⟩
  | none =>
    rw [hold] at hstep
    cases hstep with
    | inserted _ hpay hplaced =>
      rcases hplaced with ⟨hplaced, -⟩ | ⟨-, -, -, htransfers⟩
      · exact absurd hplaced.owner (Op.commissions_places hop)
      · rw [Op.commissions_transfers hop] at htransfers
        cases htransfers

/-- What is completed stays completed. -/
theorem Effect.completed_kept {c : Call} (h : Alone rt c s ss) {o : Order}
    (ho : o ∈ (s.db .orders).rows) (h3 : o.status = 3) :
    ∃ o' ∈ (s.view ss .orders).rows, Order.terms o' = o.terms ∧ o'.status = 3 := by
  have hold : (s.db .orders).get? o.id = some o := Table.get?_of_mem ho
  have hstep := h.orderStep o.id
  rw [hold] at hstep
  generalize hnew : (s.view ss .orders).get? o.id = new at hstep
  cases hstep with
  | same => exact ⟨o, Table.mem_of_get? hnew, rfl, h3⟩
  | kept _ o' hterms hst => exact ⟨o', Table.mem_of_get? hnew, hterms, hst.trans h3⟩
  | cancelled o₀ _ hop hst adm seen =>
    have : o₀ = o := seen.unique hold
    rw [this] at hst
    omega
  | refused trade_no request _ hop why hst =>
    rcases Order.isOpen_iff.mp hst with h | h <;> omega
  | opened opened cb o' why hv hws hid hterms hst =>
    exact ⟨o', Table.mem_of_get? hnew, hterms, hst⟩

/-- The order of a log row stays. -/
theorem logOrder_kept {db' : Database} {l : CommissionLog} {o : Order}
    (hkept : ∃ o' ∈ (db' .orders).rows, Order.terms o' = o.terms ∧ o'.status = 3)
    (htrade : o.trade_no = l.trade_no) (huser : o.user_id = l.user_id) (hplan : 0 < o.plan_id) :
    ∃ o' ∈ (db' .orders).rows, Order.trade_no o' = l.trade_no ∧ o'.user_id = l.user_id ∧
      0 < o'.plan_id ∧ o'.status = 3 := by
  obtain ⟨o', ho', hterms, h3⟩ := hkept
  simp only [Order.terms, Prod.mk.injEq] at hterms
  obtain ⟨htrade', huser', hplan', -⟩ := hterms
  exact ⟨o', ho', htrade'.trans htrade, huser'.trans huser, hplan' ▸ hplan, h3⟩

/-! ## §5. The result. -/

/-- What holds in every state of a run from `db₀`. -/
structure CommissionBooks (rt : Runtime) (db₀ : Database) (s : State Tbl)
    (commits : List (Commit Call Tbl)) : Prop where
  accounted : CommissionAccounted rt db₀ s.db commits
  settings : s.db .setting = db₀ .setting
  plans : PlanIdsNonneg s.db
  logs : LogsOfOrders s.db
  free : ∀ id, (s.db .commission_log).get? id = none → (db₀ .commission_log).get? id = none

section

variable {db₀ : Database} {cs : List (Commit Call Tbl)} {c : Call} {l : Option CommissionLog}

/-- A new row is of no user that has one already, while only first orders count. -/
theorem CommissionBooks.new_buyer (h : CommissionBooks rt db₀ s cs) {db' : Database}
    {x x' : CommissionLog} (hx : NewLog rt s.db db' x) (hx' : x' ∈ (s.db .commission_log).rows)
    (hon : intSetting rt (db₀ .setting).rows "commission_first_time_enable" 1 ≠ .ok 0) :
    x'.user_id ≠ x.user_id := by
  intro huser
  obtain ⟨o, inviter, rate, hgrant, -, -, hfirst⟩ := hx.granted
  obtain ⟨o', ho', htrade', huser', hplan', h3'⟩ := h.logs x' hx'
  rcases hfirst with hoff | hfirst
  · rw [h.settings] at hoff
    exact hon hoff
  · -- the order of the earlier row would be the order of the new one
    have hid : o'.id = o.id := hfirst o' ho' (huser'.trans huser) hplan' h3'
    have hsame : o' = o := Table.eq_of_key_eq _ ho' (Table.mem_of_get? hgrant.order) hid
    refine hx.unlogged x' hx' ?_
    rw [← htrade', hsame, hgrant.trade_no]

theorem CommissionBooks.once (h : CommissionBooks rt db₀ s cs)
    (hg : CommissionGrows rt s.db (s.view ss) l) : LoggedOnce (s.view ss) := by
  intro x hx x' hx' htrade
  rcases hg.logged.mem hx with hold | hnew <;> rcases hg.logged.mem hx' with hold' | hnew'
  · exact h.accounted.once x hold x' hold' htrade
  · exact absurd htrade ((hg.valid x' hnew').unlogged x hold)
  · exact absurd htrade.symm ((hg.valid x hnew).unlogged x' hold')
  · exact Option.some.inj (hnew.symm.trans hnew')

theorem CommissionBooks.first (h : CommissionBooks rt db₀ s cs)
    (hg : CommissionGrows rt s.db (s.view ss) l)
    (hon : intSetting rt (db₀ .setting).rows "commission_first_time_enable" 1 ≠ .ok 0) :
    ∀ x ∈ (s.view ss .commission_log).rows, ∀ x' ∈ (s.view ss .commission_log).rows,
      CommissionLog.user_id x = CommissionLog.user_id x' → x = x' ∨
        (x ∈ (db₀ .commission_log).rows ∧ x' ∈ (db₀ .commission_log).rows) := by
  intro x hx x' hx' huser
  rcases hg.logged.mem hx with hold | hnew <;> rcases hg.logged.mem hx' with hold' | hnew'
  · exact h.accounted.first hon x hold x' hold' huser
  · exact absurd huser (h.new_buyer (hg.valid x' hnew') hold hon)
  · exact absurd huser.symm (h.new_buyer (hg.valid x hnew) hold' hon)
  · exact Or.inl (Option.some.inj (hnew.symm.trans hnew'))

/-- A new row moves what was granted. -/
theorem CommissionBooks.grantedWorth (h : CommissionBooks rt db₀ s cs)
    (hg : CommissionGrows rt s.db (s.view ss) l) (k : Int) :
    PyBoard.grantedWorth db₀ (s.view ss) k
      = PyBoard.grantedWorth db₀ s.db k + (l.map (CommissionLog.worth k)).getD 0 := by
  have hlogged := hg.logged
  rw [PyBoard.grantedWorth, hlogged.sum, PyBoard.grantedWorth]
  cases l with
  | none => rfl
  | some x =>
    have hnew : (db₀ .commission_log).get? x.id = none := h.free _ hlogged.row_free
    simp [hnew]

/-- **One more commit**, in the books of the commission. -/
theorem CommissionBooks.commit (h : CommissionBooks rt db₀ s cs) (he : Alone rt c s ss)
    (hop : c.op.commissions = true) (hcommit : granting.commit c s ss = true) :
    CommissionBooks rt db₀ (s.commit ss) (⟨c, s, ss⟩ :: cs) := by
  obtain ⟨l, hg⟩ := he.commissionGrows hop hcommit h.plans
  refine ⟨⟨h.once hg, fun x hx => ?_, fun k u₀ hu₀ => ?_, h.first hg⟩, ?_, fun o ho => ?_,
    fun x hx => ?_, fun id hid => h.free id (hg.logged.free hid)⟩
  · rcases hg.logged.mem hx with hold | hnew
    · refine (h.accounted.granted x hold).imp_right ?_
      rintro ⟨cm, hcm, hgrant⟩
      exact ⟨cm, List.mem_cons_of_mem _ hcm, hgrant⟩
    · obtain ⟨o, inviter, rate, hgrant, -⟩ := (hg.valid x hnew).granted
      exact Or.inr ⟨_, List.mem_cons_self, o, inviter, rate, hgrant⟩
  · obtain ⟨u, hu, hbal⟩ := h.accounted.credited k u₀ hu₀
    obtain ⟨u', hu', hbal'⟩ := hg.credited k u hu
    refine ⟨u', hu', ?_⟩
    rw [hbal', hbal, State.commit_db, h.grantedWorth hg]
    ring
  · rw [State.commit_db, ← h.settings]
    exact DB.apply_of_table_not_mem _ _ fun _ hw => (he.table hw).2.2
  · obtain ⟨o₀, ho₀, hterms⟩ := he.order_before hop ho
    have hplan : o.plan_id = o₀.plan_id := congrArg (fun t => t.2.2.1) hterms
    rw [hplan]
    exact h.plans o₀ ho₀
  · rcases hg.logged.mem hx with hold | hnew
    · obtain ⟨o, ho, htrade, huser, hplan, h3⟩ := h.logs x hold
      exact logOrder_kept (he.completed_kept ho h3) htrade huser hplan
    · obtain ⟨o, inviter, rate, hgrant, hplan, ⟨o', ho', hterms, h3⟩, -⟩ :=
        (hg.valid x hnew).granted
      exact logOrder_kept ⟨o', Table.mem_of_get? ho', hterms, h3⟩ hgrant.trade_no.symm
        hgrant.buyer.symm hplan

end

theorem CommissionBooks.start {db : Database} {now : Int} (hlogged : LoggedOnce db)
    (hlogs : LogsOfOrders db) (hplans : PlanIdsNonneg db) : CommissionBooks rt db ⟨db, now⟩ [] where
  accounted := by
    refine ⟨hlogged, fun l hl => Or.inl hl, fun k u hu => ⟨u, hu, ?_⟩,
      fun _ l hl l' hl' _ => Or.inr ⟨hl, hl'⟩⟩
    have hnone : PyBoard.grantedWorth db db k = 0 := Table.sum_eq_zero fun l hl => by
      have : (db .commission_log).get? l.id = some l := Table.get?_of_mem hl
      simp [this]
    change u.commission_balance = u.commission_balance + PyBoard.grantedWorth db db k
    omega
  settings := rfl
  plans := hplans
  logs := hlogs
  free _ h := h

/-- **Commission at most once**: in every serial run of order openings, commission jobs and
    updates of orders, the books of the commission are right. -/
theorem commission_accounted {db : Database} {now : Int} {c : Server} (hlogged : LoggedOnce db)
    (hlogs : LogsOfOrders db) (hplans : PlanIdsNonneg db)
    (hrun : SerialRuns rt granting (Server.start db now) c) :
    CommissionAccounted rt db c.state.db c.commits :=
  (hrun.state_induction (I := CommissionBooks rt db) (.start hlogged hlogs hplans)
    (fun _ _ _ h => ⟨h.accounted, h.settings, h.plans, h.logs, h.free⟩)
    fun _ _ _ _ hb hc he h => h.commit he hb hc).accounted

/-- A buyer who was invited by user 2, with a pending order. -/
def invitedBuyer : Database
  | .users => ⟨[{ id := 1, email := "a@example.com", password := "", token := "", uuid := "",
                  invite_user_id := some 2 },
                { id := 2, email := "b@example.com", password := "", token := "", uuid := "" }],
      by decide⟩
  | .plan => ⟨[{ id := 1, group_id := 1, transfer_enable := 0, «show» := true,
                 month_price := some 1055 }], by decide⟩
  | .orders => ⟨[{ id := 1, user_id := 1, plan_id := 1, type := 1, period := "month_price",
                   trade_no := "A", total_amount := 1055, created_at := 0 }], by decide⟩
  | _ => Table.empty

/-- The amounts of the log, and the commission balance of user 2. -/
def Server.commission (c : Server) : List Int × Option Int :=
  ((c.state.db .commission_log).rows.map CommissionLog.get_amount,
    ((c.state.db .users).get? (2 : Int)).map User.commission_balance)

/-- The order is opened, its commission is set back to pending and calculated again. -/
theorem commission_accounted_invitedBuyer : ∃ c : Server,
    SerialRuns Utc.bare granting (Server.start invitedBuyer 1700000000) c ∧
      c.commission = ([105], some 105) ∧
      CommissionAccounted Utc.bare invitedBuyer c.state.db c.commits := by
  obtain ⟨c, hrun, hc⟩ : ∃ c : Server,
      SerialRuns Utc.bare granting (Server.start invitedBuyer 1700000000) c ∧
        c.commission = ([105], some 105) :=
    Exclusively.exists_of_steps
      ([.begin ⟨.adminMarkPaid "A", ⟨0, 7, ""⟩⟩] ++ List.replicate 21 (.exec 0) ++
        [.finish 0, .begin ⟨.adminUpdateOrder ⟨"A", some (some 0)⟩, ⟨0, 0, ""⟩⟩, .exec 0, .exec 0,
          .finish 0, .begin ⟨.calcCommission 1, ⟨0, 8, ""⟩⟩] ++
        List.replicate 4 (.exec 0) ++ [.finish 0])
      Server.commission (by decide +kernel)
  refine ⟨c, hrun, hc, commission_accounted ?_ ?_ ?_ hrun⟩
  · intro l hl
    cases hl
  · intro l hl
    cases hl
  · intro o ho
    rw [List.mem_singleton.mp ho]
    decide

end PyBoard
