/-
  PyBoard.Results.Periods — the orders that can be placed and the orders that can be opened.

  `createOrder` takes the periods of the prices only, and the opening knows exactly these,
  so what a user has ordered can be opened.  An administrator may assign an order with any
  period: with "deposit" its plan is never applied, and with any other text the opening
  is refused (`placed_orders_open_iff`).
-/
import PyBoard.Python.Utc
import PyBoard.Specs.Serial
import PyBoard.Specs.Instant
import PyBoard.Specs.Users

namespace PyBoard

open Relational

variable {C : Contract Call Tbl} {rt : Runtime} {s : State Tbl} {ss : Session Tbl}

/-! ## §1. Orders that can be opened. -/

/-- Nothing else stands against opening the order: the user and the plan are there, the plan
    has room, and the user has the balance that the order takes. -/
structure ReadyToOpen (s : State Tbl) (o : Order) (user : User) (plan : Plan) : Prop where
  stored : (s.db .orders).get? o.id = some o
  isOpen : o.status = 0 ∨ o.status = 1
  owner : (s.db .users).get? o.user_id = some user
  offered : o.plan_id ≠ 0 → (s.db .plan).get? o.plan_id = some plan
  room : ∀ limit, plan.capacity_limit = some limit → 0 < limit →
    (activeCount s.db s.now plan.id : Int) < limit
  funds : 0 < OrderService.deduction o → OrderService.deduction o ≤ user.balance

open OrderService in
/-- The user has the entitlement of the plan, or his traffic is reset. -/
inductive AppliesPlan (o : Order) (user : User) (plan : Plan) : User → Prop
  | reset (hperiod : o.period = "reset_price") :
      AppliesPlan o user plan (resetTraffic (paying o user))
  | entitled (carried : User)
    (hc : carried = paying o user ∨ carried = resetTraffic (paying o user))
      (expired_at : Int) : AppliesPlan o user plan (entitle carried plan expired_at)

/-- **An order that can be fulfilled**, whatever else becomes of its row: opening it is never
    refused for its period, and an opening that completes applies its plan. -/
def Fulfillable (rt : Runtime) (o : Order) : Prop :=
  ∀ (fresh : Fresh) (cb : Option String) (s : State Tbl) (o' : Order) (user : User) (plan : Plan),
    o'.id = o.id → o'.terms = o.terms → ReadyToOpen s o' user plan →
    ((OrderService.processPaidOrder rt fresh o.id cb).run s Session.fresh).1 ≠ .error badPeriod ∧
      (0 < o.plan_id → ∀ ss,
        (OrderService.processPaidOrder rt fresh o.id cb).run s Session.fresh = (.ok (), ss) →
          ∃ user', (s.view ss .users).get? o.user_id = some user' ∧
            AppliesPlan o' user plan user')

/-- The period fits the plan: it is one of the periods of the prices.  An order without a
    plan is a deposit, whatever its period. -/
def PeriodFits (plan_id : Int) (period : String) : Prop :=
  period ∈ PRICE_PERIODS ∨ plan_id = 0 ∨ (plan_id < 0 ∧ period = "deposit")

instance (plan_id : Int) (period : String) : Decidable (PeriodFits plan_id period) := by
  unfold PeriodFits
  infer_instance

/-- The plan branch of such an order knows the period. -/
theorem PeriodFits.supported {o : Order} (h : PeriodFits o.plan_id o.period)
    (hd : OrderService.isDeposit o = false) : ¬unsupportedPeriod o := by
  rcases h with hperiod | hzero | ⟨-, hdeposit⟩
  · exact not_unsupportedPeriod hperiod
  · simp [OrderService.isDeposit, hzero] at hd
  · simp [OrderService.isDeposit, hdeposit] at hd

/-- An order for a plan that is a deposit has no period of a price. -/
theorem PeriodFits.not_deposit {o : Order} (h : PeriodFits o.plan_id o.period)
    (hplan : 0 < o.plan_id) : OrderService.isDeposit o = false := by
  have hperiod : o.period ∈ PRICE_PERIODS := by
    rcases h with hperiod | hzero | ⟨hneg, -⟩
    · exact hperiod
    · omega
    · omega
  have hne : o.period ≠ "deposit" := by
    intro heq
    rw [heq] at hperiod
    exact absurd hperiod (by decide)
  have hzero : o.plan_id ≠ 0 := by omega
  simp [OrderService.isDeposit, hne, hzero]

/-- What an opening that is no deposit makes of its user. -/
theorem OpensTo.appliesPlan {o : Order} {user user' : User} {now : Int} {plan : Plan}
    (h : OpensTo rt o user now s ss user') (hd : OrderService.isDeposit o = false)
    (hplan : (s.db .plan).get? o.plan_id = some plan) : AppliesPlan o user plan user' := by
  have hsame : ∀ p : Plan, p.id = o.plan_id → Holds s ss .plan p.id (some p) → p = plan := by
    intro p hpid hp
    have hstored := hp.committed
    rw [hpid, hplan] at hstored
    exact (Option.some.inj hstored).symm
  cases h with
  | deposit hd' => rw [hd] at hd'; cases hd'
  | reset _ hperiod => exact .reset hperiod
  | onetime _ hperiod p hpid hp =>
    rw [hsame p hpid hp]
    exact .entitled _ (Or.inr rfl) _
  | months _ hreset n hmonths p hpid carried hc e he hp =>
    rw [hsame p hpid hp]
    exact .entitled carried hc e

/-- **An order whose period fits can be fulfilled.** -/
theorem PeriodFits.fulfillable {o : Order} (h : PeriodFits o.plan_id o.period) :
    Fulfillable rt o := by
  intro fresh cb s o' user plan hid hterms hready
  have hplan_id : o'.plan_id = o.plan_id := congrArg (fun t => t.2.2.1) hterms
  have hperiod : o'.period = o.period := congrArg (fun t => t.2.2.2.1) hterms
  have huser_id : o'.user_id = o.user_id := congrArg (fun t => t.2.1) hterms
  have h' : PeriodFits o'.plan_id o'.period := by
    rw [hplan_id, hperiod]
    exact h
  have hstored := hready.stored
  constructor
  · have hraises := wp_run trivial (fun _ _ => rfl)
      (show wp (Contract.solo : Contract Call Tbl)
        (OrderService.processPaidOrder rt fresh o.id cb) _ s Session.fresh
        from processPaidOrder_raises (E := fun e => e ≠ badPeriod) (fun _ he => he.2) rfl
          (fun _ _ _ _ _ _ _ _ _ _ _ => by decide) (fun s₁ o₁ hr₁ ho₁ _ hd hbad => by
            rw [hr₁.solo_db, ← hid, hstored] at ho₁
            cases ho₁
            exact absurd hbad (h'.supported hd)))
    intro hbad
    exact hraises badPeriod hbad rfl
  · intro hpos ss hrun
    rw [← hid] at hrun
    obtain ⟨u, user', hu, hu', hopens⟩ := processPaidOrder_opens hstored hready.isOpen hrun
    rw [hready.owner] at hu
    cases hu
    have hd : OrderService.isDeposit (OrderService.accepted o' cb) = false :=
      h'.not_deposit (by omega)
    have happlied := hopens.appliesPlan hd (hready.offered (by omega))
    refine ⟨user', huser_id ▸ hu', ?_⟩
    -- accepting the order changes neither its period nor what it takes
    cases happlied with
    | reset hreset => exact .reset hreset
    | entitled carried hc e => exact .entitled (o := o') carried hc e

/-! ## §2. Orders that cannot. -/

section

variable (o : Order)

/-- The order as it waits for its payment; its commission has been refused by hand. -/
def Order.waiting : Order := { o with status := 0, commission_status := 3 }

/-- A user of the order, who has nothing yet. -/
def Order.buyer : User :=
  { id := o.user_id, email := "", password := "", token := "", uuid := "",
    balance := -o.total_amount }

/-- A plan of the order, without limits. -/
def Order.bought : Plan := { id := o.plan_id, group_id := 0, transfer_enable := 0 }

/-- Nothing but the order, its user and its plan. -/
def Order.shop : Database
  | .orders => ⟨[o.waiting], List.nodup_singleton _⟩
  | .users => ⟨[o.buyer], List.nodup_singleton _⟩
  | .plan => ⟨[o.bought], List.nodup_singleton _⟩
  | _ => Table.empty

variable {o}

/-- The order could be opened there. -/
theorem Order.readyToOpen (hbalance : o.balance_amount = none) :
    ReadyToOpen ⟨o.shop, 0⟩ o.waiting o.buyer o.bought where
  stored := Table.get?_of_mem (t := o.shop .orders) (List.mem_singleton_self o.waiting)
  isOpen := Or.inl rfl
  owner := Table.get?_of_mem (t := o.shop .users) (List.mem_singleton_self o.buyer)
  offered _ := Table.get?_of_mem (t := o.shop .plan) (List.mem_singleton_self o.bought)
  room limit hlimit := by cases hlimit
  funds hpos := by
    have hzero : OrderService.deduction o.waiting = 0 := by
      have hnone : o.waiting.balance_amount = none := hbalance
      simp [OrderService.deduction, hnone]
    omega

/-- **An opening in the shop**: the order is accepted, then it is fulfilled for its buyer. -/
theorem Order.run_shop {fresh : Fresh} (hbalance : o.balance_amount = none) :
    (OrderService.processPaidOrder rt fresh o.id none).run ⟨o.shop, 0⟩ Session.fresh =
      match (OrderService.fulfil rt (OrderService.accepted o.waiting none) o.buyer).run
          ⟨o.shop, 0⟩ (acceptedSession o.waiting none) with
      | (.ok _, ss) =>
        (OrderService.completeOrder rt fresh (OrderService.accepted o.waiting none)).run
          ⟨o.shop, 0⟩ ss
      | (.error e, ss) => (.error e, ss) := by
  have hready := readyToOpen hbalance
  exact run_processPaidOrder hready.stored hready.isOpen hready.owner

/-- The buyer is still there when the order is fulfilled. -/
theorem Order.view_shop_users (hbalance : o.balance_amount = none) :
    (State.view ⟨o.shop, 0⟩ (acceptedSession o.waiting none) .users).get? o.buyer.id
      = some o.buyer := by
  rw [view_acceptedSession_of_ne (by decide)]
  exact (readyToOpen hbalance).owner

/-- A period that the opening does not know is refused. -/
theorem Order.shop_refuses {fresh : Fresh} (hd : OrderService.isDeposit o = false)
    (hbad : unsupportedPeriod o) (hcoupon : o.coupon_id = none)
    (hbalance : o.balance_amount = none) :
    ((OrderService.processPaidOrder rt fresh o.id none).run ⟨o.shop, 0⟩ Session.fresh).1
      = .error badPeriod := by
  have hplan_id : o.waiting.plan_id ≠ 0 := by
    intro hzero
    have hzero' : o.plan_id = 0 := hzero
    simp [OrderService.isDeposit, hzero'] at hd
  have hfound : (State.view ⟨o.shop, 0⟩ (acceptedSession o.waiting none) .plan).get?
      (OrderService.accepted o.waiting none).plan_id = some o.bought := by
    rw [view_acceptedSession_of_ne (by decide)]
    exact (readyToOpen hbalance).offered hplan_id
  have hplanned : ¬OrderService.isDeposit (OrderService.accepted o.waiting none) = true := by
    show ¬OrderService.isDeposit o = true
    simp [hd]
  have hfulfil : ((OrderService.fulfil rt (OrderService.accepted o.waiting none) o.buyer).run
      ⟨o.shop, 0⟩ (acceptedSession o.waiting none)).1 = .error badPeriod := by
    unfold OrderService.fulfil PlanRepository.getByIdForUpdate
    rw [if_neg hplanned, Prog.bind_eq, Prog.run_getForUpdate_found hfound]
    exact run_openPlan_unsupported (view_shop_users hbalance) rfl hcoupon hbalance hbad
  rw [run_shop hbalance]
  generalize (OrderService.fulfil rt (OrderService.accepted o.waiting none) o.buyer).run
    ⟨o.shop, 0⟩ (acceptedSession o.waiting none) = outcome at hfulfil ⊢
  obtain ⟨r, ss⟩ := outcome
  cases hfulfil
  rfl

/-- With the period of a deposit, the order is credited, and its plan is not applied. -/
theorem Order.shop_credits (rt : Runtime) (fresh : Fresh) (hd : OrderService.isDeposit o = true)
    (hbalance : o.balance_amount = none) :
    ∃ ss, (OrderService.processPaidOrder rt fresh o.id none).run ⟨o.shop, 0⟩ Session.fresh
        = (.ok (), ss) ∧
      (State.view ⟨o.shop, 0⟩ ss .users).get? o.user_id = some { o.buyer with balance := 0 } := by
  have hcredited : o.buyer.balance + (OrderService.accepted o.waiting none).total_amount + 0
      = 0 := by
    show -o.total_amount + o.total_amount + 0 = 0
    omega
  have hdeposit : OrderService.isDeposit (OrderService.accepted o.waiting none) = true := hd
  have hrows : State.view ⟨o.shop, 0⟩ (acceptedSession o.waiting none) .setting = o.shop .setting :=
    view_acceptedSession_of_ne (by decide)
  obtain ⟨ss', hsince, hcredit⟩ := @run_creditDeposit rt _ _ .stored
    (OrderService.accepted o.waiting none) _ hrows (view_shop_users hbalance)
  have hfulfil : (OrderService.fulfil rt (OrderService.accepted o.waiting none) o.buyer).run
      ⟨o.shop, 0⟩ (acceptedSession o.waiting none)
        = (.ok (), ss'.write (.put .users { o.buyer with balance := 0 })) := by
    rw [OrderService.fulfil, if_pos hdeposit, hcredit]
    -- no bonus is configured
    show (if _ then _ else _ : Except PyExc Unit × Session Tbl) = _
    rw [hcredited]
    rfl
  rw [run_shop hbalance, hfulfil]
  obtain ⟨ids, hcompleted⟩ : ∃ ids, (OrderService.completeOrder rt fresh
      (OrderService.accepted o.waiting none)).run ⟨o.shop, 0⟩ _ = (.ok (), Session.lock _ ids) :=
    run_completeOrder_refused (view_acceptedSession_order hsince { o.buyer with balance := 0 })
      rfl rfl
  refine ⟨_, hcompleted, ?_⟩
  rw [State.view_lock, view_write_of_ne (w := .orders) _ (by decide), view_write_self (t := .users)]
  exact Table.get?_put_self (State.view ⟨o.shop, 0⟩ ss' .users) { o.buyer with balance := 0 }

/-- **An order that can be fulfilled has a period that fits.** -/
theorem Fulfillable.periodFits (h : Fulfillable rt o) (hcoupon : o.coupon_id = none)
    (hbalance : o.balance_amount = none) : PeriodFits o.plan_id o.period := by
  by_contra hno
  simp only [PeriodFits, not_or] at hno
  obtain ⟨hperiod, hzero, hneg⟩ := hno
  obtain ⟨haccepted, happlied⟩ := h ⟨0, 0, ""⟩ none ⟨o.shop, 0⟩ o.waiting o.buyer o.bought rfl rfl
    (Order.readyToOpen hbalance)
  by_cases hd : o.period = "deposit"
  · have hpos : 0 < o.plan_id := by
      by_contra hle
      exact hneg ⟨by omega, hd⟩
    obtain ⟨ss, hrun, huser⟩ := Order.shop_credits rt ⟨0, 0, ""⟩
      (show OrderService.isDeposit o = true by simp [OrderService.isDeposit, hd]) hbalance
    obtain ⟨user', huser', hplan⟩ := happlied hpos ss hrun
    rw [huser] at huser'
    cases huser'
    have hnone : ({ o.buyer with balance := 0 } : User).plan_id = none := rfl
    generalize ({ o.buyer with balance := 0 } : User) = credited at hplan hnone
    cases hplan with
    | reset hreset =>
      have heq : o.period = "reset_price" := hreset
      rw [hd] at heq
      exact absurd heq (by decide)
    | entitled carried hc e => cases hnone
  · have hplanned : OrderService.isDeposit o = false := by simp [OrderService.isDeposit, hd, hzero]
    exact haccepted (Order.shop_refuses hplanned (unsupportedPeriod_of_not_mem hperiod) hcoupon
      hbalance)

end

/-! ## §3. The orders that are placed. -/

/-- Does the operation place orders? -/
def Op.placesOrder : Op → Bool
  | .createOrder .. => true
  | .adminAssignOrder .. => true
  | .assignOrderAction .. => true
  | _ => false

/-- Such an operation opens no order. -/
theorem Prompt.placesOrder {op : Op} {order_id : Int} {cb : Option String}
    (h : Prompt C rt op order_id s cb) : op.placesOrder = false := by
  cases h with
  | free user_id method trade_no hop => rw [hop]; rfl
  | notified gateway_name payment_uuid params hop => rw [hop]; rfl
  | marked trade_no hop =>
    cases op with
    | adminMarkPaid => rfl
    | markOrderPaidAction => rfl
    | _ => exact hop.elim
  | paid trade_no hop => rw [hop]; rfl

/-- **It writes nothing but the order that it places.** -/
theorem Effect.placed {op : Op} {ws : List (Write Tbl)} (h : Effect C rt op s ss ws)
    (hplaces : op.placesOrder = true) :
    ws = [] ∨ ∃ o, ws = [.put .orders o] ∧ Placed C rt op o s := by
  cases h with
  | nothing => exact Or.inl rfl
  | opened opened cb why hv =>
    rw [why.placesOrder] at hplaces
    cases hplaces
  | refused trade_no request order_id ws hop => rw [hop] at hplaces; cases hplaces
  | cancelled o cur hop =>
    cases op <;> simp [Op.cancels, Op.placesOrder] at hop hplaces
  | invoiced user_id method trade_no o cur handling_amount hop => rw [hop] at hplaces; cases hplaces
  | updated data o cur commission_status hop => rw [hop] at hplaces; cases hplaces
  | created o placed held => exact Or.inr ⟨o, rfl, placed⟩
  | granted order_id o ws hop => rw [hop] at hplaces; cases hplaces
  | transferred user_id amount user cur o hop => rw [hop] at hplaces; cases hplaces
  | redeemed user_id code r hop => rw [hop] at hplaces; cases hplaces

/-- Orders of a call can be fulfilled if a user placed them, and depending on their period
    if they were assigned. -/
def OrdersFulfillable (rt : Runtime) (op : Op) (ws : List (Write Tbl)) : Prop :=
  ∀ o : Order, Write.put .orders o ∈ ws →
    (∀ user_id data, op = .createOrder user_id data → Fulfillable rt o) ∧
      ∀ data, op.assigns rt data → (Fulfillable rt o ↔ PeriodFits data.plan_id data.period)

theorem Placed.fulfillable {op : Op} {o : Order} (h : Placed C rt op o s) :
    (∀ user_id data, op = .createOrder user_id data → Fulfillable rt o) ∧
      ∀ data, op.assigns rt data → (Fulfillable rt o ↔ PeriodFits data.plan_id data.period) := by
  cases h.ordered with
  | deposit user_id data hzero hplan =>
    exact ⟨fun _ _ _ => PeriodFits.fulfillable (Or.inr (Or.inl hplan)), fun _ hno => hno.elim⟩
  | plan user_id data hplan hp =>
    refine ⟨fun _ _ _ => PeriodFits.fulfillable (Or.inl ?_), fun _ hno => hno.elim⟩
    rw [hp.period]
    exact hp.known
  | assigned op data hassigns hplan hperiod hcoupon hbalance =>
    constructor
    · intro user_id data' hop
      rw [hop] at hassigns
      exact hassigns.elim
    · intro data' hassigns'
      rw [hassigns.unique hassigns', ← hplan, ← hperiod]
      exact ⟨fun h => h.periodFits hcoupon hbalance, PeriodFits.fulfillable⟩

/-- What every commit has placed can be fulfilled so far. -/
def fulfillable (rt : Runtime) : Contract Call Tbl where
  toCond := Cond.any
  Inv _ := True
  Evol _ _ _ := True
  Guar c _ ss := OrdersFulfillable rt c.op ss.ws
  evol_refl _ _ := trivial
  evol_trans _ _ := trivial
  evol_mono _ _ := trivial
  inv_tick _ _ := trivial
  evol_tick _ _ _ := trivial
  guar_inv _ _ _ := trivial
  guar_evol _ _ _ _ := trivial

/-- A commit that places orders names the assigned data, or the user who orders. -/
theorem Call.keeps_fulfillable (c : Call) : (fulfillable rt).Keeps c (c.prog rt) := by
  refine keeps_of_effect c fun s ss _ he _ => ?_
  intro o ho
  have hplaced : c.op.placesOrder = true → Placed (fulfillable rt) rt c.op o s := by
    intro hplaces
    rcases he.placed hplaces with hws | ⟨o', hws, hp⟩
    · rw [hws] at ho
      cases ho
    · rw [hws, List.mem_singleton] at ho
      cases ho
      exact hp
  constructor
  · intro user_id data hop
    exact (hplaced (by rw [hop]; rfl)).fulfillable.1 user_id data hop
  · intro data hassigns
    have hplaces : c.op.placesOrder = true := by
      cases hop : c.op with
      | adminAssignOrder => rfl
      | assignOrderAction => rfl
      | _ => rw [hop] at hassigns; exact hassigns.elim
    exact (hplaced hplaces).fulfillable.2 data hassigns

/-- **When a placed order can be fulfilled**, in every interleaving of calls: always if a user
    ordered it, and if it was assigned, exactly when its period fits its plan. -/
theorem placed_orders_open_iff {db : Database} {now : Int} {c : Server}
    (hrun : Runs rt Cond.any (Server.start db now) c) :
    ∀ cm ∈ c.commits, OrdersFulfillable rt cm.label.op cm.session.ws :=
  hrun.state_induction (C := fulfillable rt)
    (P := fun _ cs => ∀ cm ∈ cs, OrdersFulfillable rt cm.label.op cm.session.ws)
    (fun l _ => l.keeps_fulfillable) (.quiet trivial) (by simp [Server.start, Config.quiet])
    (fun _ _ _ _ h => h) fun l s ss cs _ _ hg h => List.forall_mem_cons.mpr ⟨hg, h⟩

/-- A user without a plan, and one plan. -/
def oneBuyer : Database
  | .users => ⟨[{ id := 1, email := "a@example.com", password := "", token := "a", uuid := "" }],
      nodup_one⟩
  | .plan => ⟨[{ id := 1, group_id := 1, transfer_enable := 0, month_price := some 100 }],
      nodup_one⟩
  | _ => Table.empty

/-- An administrator assigns the plan to the user for a period. -/
def assigning (period : String) : List (Event Call) :=
  [.begin ⟨.adminAssignOrder { email := "a@example.com", plan_id := 1, period := period,
                               total_amount := 100 }, ⟨1, 0, "T"⟩⟩] ++
    List.replicate 6 (.exec 0) ++ [.finish 0]

/-- What opening the order answers, with the plan and the balance of the user after it. -/
def openingAnswers (c : Server) : Except PyExc Unit × Option (Option Int × Int) :=
  let (r, ss) := (OrderService.processPaidOrder Utc.bare ⟨2, 0, ""⟩ 1 none).run c.state
    Session.fresh
  (r, ((c.state.view ss .users).get? (1 : Int)).map fun u : User => (u.plan_id, u.balance))

/-- **Two assigned orders that do not bring their plan**: one is refused, the other one is
    credited to the balance. -/
theorem assigned_orders_unfulfilled :
    ((Server.start oneBuyer 1700000000).steps (Call.prog Utc.bare) Cond.any
        (assigning "week_price")).map openingAnswers = some (.error badPeriod, some (none, 0)) ∧
      ((Server.start oneBuyer 1700000000).steps (Call.prog Utc.bare) Cond.any
        (assigning "deposit")).map openingAnswers = some (.ok (), some (none, 100)) := by
  decide +kernel

/-- A month is assigned; what was placed can be fulfilled. -/
theorem placed_orders_open_month : ∃ c : Server,
    Runs Utc.bare Cond.any (Server.start oneBuyer 1700000000) c ∧ c.commits.length = 1 ∧
      ∀ cm ∈ c.commits, OrdersFulfillable Utc.bare cm.label.op cm.session.ws := by
  obtain ⟨c, -, hrun, -, hlen, -⟩ : ∃ c c' : Server,
      Runs Utc.bare Cond.any (Server.start oneBuyer 1700000000) c ∧ Runs Utc.bare Cond.any c c' ∧
        c.commits.length = 1 ∧ c'.commits.length = 1 :=
    Reaches.exists_of_steps (assigning "month_price") [] (fun c : Server => c.commits.length)
      (by decide +kernel)
  exact ⟨c, hrun, hlen, placed_orders_open_iff hrun⟩

end PyBoard
