/-
  PyBoard.Specs.Creation — what placing an order does to the database.

  A request that places an order reads until it inserts one row.  `Placed` is what
  is known of that row: whose order it is, that its user had no pending order when
  that was checked, and that the balance it takes was there.
-/
import PyBoard.Specs.Basic
import PyBoard.Operations

namespace PyBoard

open Relational

variable {C : Contract Call Tbl} {rt : Runtime}

/-! ## §1. Placed orders. -/

/-- An order takes no balance unless it buys a plan for a known period. -/
structure Order.Payable (o : Order) : Prop where
  nonneg : 0 ≤ o.balance_amount.getD 0
  plan : 0 < o.balance_amount.getD 0 →
    OrderService.isDeposit o = false ∧ o.period ∈ PRICE_PERIODS

/-- An order with a coupon buys a plan at a discount. -/
def Order.Discounted (o : Order) : Prop :=
  o.coupon_id.isSome = true →
    OrderService.isDeposit o = false ∧ 0 < o.discount_amount.getD 0

/-- Does the operation place an order for the user `user_id`?  An assignment names the
    user by the e-mail address. -/
def Op.places (C : Contract Call Tbl) (rt : Runtime) (user_id : Int) (s' : State Tbl) :
    Op → Prop
  | .createOrder id _ => user_id = id
  | .adminAssignOrder data => ∃ u, SeenUser C user_id u s' ∧ u.email = data.email
  | .assignOrderAction request => ∃ form data, request.form = some form ∧
      AdminUi.orderAssignFromForm rt form = .ok data ∧
      ∃ u, SeenUser C user_id u s' ∧ u.email = data.email
  | _ => False

/-- Does the operation assign an order with this data? -/
def Op.assigns (rt : Runtime) (data : OrderService.AdminOrderAssign) : Op → Prop
  | .adminAssignOrder data' => data' = data
  | .assignOrderAction request =>
      ∃ form, request.form = some form ∧ AdminUi.orderAssignFromForm rt form = .ok data
  | _ => False

/-- A request assigns one order. -/
theorem Op.assigns.unique {op : Op} {data data' : OrderService.AdminOrderAssign}
    (h : op.assigns rt data) (h' : op.assigns rt data') : data' = data := by
  cases op with
  | adminAssignOrder d =>
    have hd : d = data := h
    have hd' : d = data' := h'
    rw [← hd, hd']
  | assignOrderAction request =>
    obtain ⟨form, hform, hdata⟩ := h
    obtain ⟨form', hform', hdata'⟩ := h'
    rw [hform] at hform'
    cases hform'
    rw [hdata] at hdata'
    exact (Except.ok.inj hdata').symm
  | _ => exact h.elim

/-- What an order costs before anything is taken off. -/
def Order.fullPrice (o : Order) : Int :=
  o.total_amount + o.balance_amount.getD 0 + o.discount_amount.getD 0

/-- The discount of the order is the one that its coupon gave. -/
inductive Order.CouponApplied (C : Contract Call Tbl) (o : Order) (s' : State Tbl) : Prop
  | none (hc : o.coupon_id = none) (hd : o.discount_amount = none)
  | some (coupon : Coupon) (discount : Int) (seen : SeenRow C .coupon coupon s')
      (hc : o.coupon_id = some coupon.id) (hd : o.discount_amount = some discount)
      (hdiscount : CouponService.calculateDiscount coupon o.fullPrice = .ok discount)
      (hpos : 0 < discount)

/-- An order for a plan: the plan could be bought for the period, and the order takes its
    price apart. -/
structure PlanPlaced (C : Contract Call Tbl) (data : OrderService.OrderCreate) (o : Order)
    (s' : State Tbl) : Prop where
  plan_id : o.plan_id = data.plan_id
  period : o.period = data.period
  known : data.period ∈ PRICE_PERIODS
  agreed : ∃ (user : User) (plan : Plan) (s₁ : State Tbl), SeenUser C o.user_id user s' ∧
    SeenRow C .plan plan s' ∧ plan.id = o.plan_id ∧ C.Inv s₁ ∧ s₁.now ≤ s'.now ∧
    OrderService.checkPurchasable s₁.now user plan o.period = .ok () ∧
    plan.price o.period = some o.fullPrice ∧
    ∀ amount, o.balance_amount = some amount → amount ≤ user.balance
  total_nonneg : 0 ≤ o.total_amount
  coupon : o.CouponApplied C s'

/-- What the operation has ordered. -/
inductive Op.Orders (C : Contract Call Tbl) (rt : Runtime) (o : Order) (s' : State Tbl) :
    Op → Prop
  | deposit (user_id : Int) (data : OrderService.OrderCreate) (hzero : data.plan_id = 0)
      (hplan : o.plan_id = 0) : Orders C rt o s' (.createOrder user_id data)
  | plan (user_id : Int) (data : OrderService.OrderCreate) (hplan : data.plan_id ≠ 0)
      (h : PlanPlaced C data o s') : Orders C rt o s' (.createOrder user_id data)
  | assigned (op : Op) (data : OrderService.AdminOrderAssign) (h : op.assigns rt data)
      (hplan : o.plan_id = data.plan_id) (hperiod : o.period = data.period)
      (hcoupon : o.coupon_id = none) (hbalance : o.balance_amount = none) :
      Orders C rt o s' op

/-- The user had no pending order at a moment since the transaction began. -/
def SeenUnpaid (C : Contract Call Tbl) (user_id : Int) (s' : State Tbl) : Prop :=
  ∃ s₁, C.Rely [] s₁ s' ∧ ∀ o' ∈ (s₁.db .orders).rows, o'.user_id = user_id → o'.status ≠ 0

theorem SeenUnpaid.rely {user_id : Int} {s s' : State Tbl} (h : SeenUnpaid C user_id s)
    (hr : C.Rely [] s s') : SeenUnpaid C user_id s' := by
  obtain ⟨s₁, hr₁, hnone⟩ := h
  exact ⟨s₁, hr₁.trans hr, hnone⟩

/-- The rows of the pending-order check, when it finds none. -/
theorem unpaid_of_filter {rows : List Order} {user_id : Int}
    (h : ¬(!(rows.filter fun o => o.user_id = user_id && o.status = 0).isEmpty) = true) :
    ∀ o ∈ rows, o.user_id = user_id → o.status ≠ 0 := by
  intro o ho huid hst
  refine h ?_
  have hmem : o ∈ rows.filter fun o => o.user_id = user_id && o.status = 0 :=
    List.mem_filter.mpr ⟨ho, by simp [huid, hst]⟩
  rw [List.isEmpty_eq_false_iff.mpr (List.ne_nil_of_mem hmem)]
  rfl

/-- What is known of an order that `op` has placed when it ends in `s'`. -/
structure Placed (C : Contract Call Tbl) (rt : Runtime) (op : Op) (o : Order) (s' : State Tbl) :
    Prop where
  pending : o.status = 0
  owner : op.places C rt o.user_id s'
  ordered : op.Orders C rt o s'
  payable : o.Payable
  discounted : o.Discounted
  unpaid : SeenUnpaid C o.user_id s'
  reserved : 0 < o.balance_amount.getD 0 →
    ∃ u, SeenUser C o.user_id u s' ∧ o.balance_amount.getD 0 ≤ u.balance

theorem Op.places.rely {op : Op} {user_id : Int} {s s' : State Tbl}
    (h : op.places C rt user_id s) (hr : C.Rely [] s s') : op.places C rt user_id s' := by
  cases op with
  | createOrder id data => exact h
  | adminAssignOrder data =>
    obtain ⟨u, hu, he⟩ := h
    exact ⟨u, hu.rely hr, he⟩
  | assignOrderAction request =>
    obtain ⟨form, data, hform, hdata, u, hu, he⟩ := h
    exact ⟨form, data, hform, hdata, u, hu.rely hr, he⟩
  | _ => exact h.elim

theorem Order.CouponApplied.rely {o : Order} {s s' : State Tbl} (h : o.CouponApplied C s)
    (hr : C.Rely [] s s') : o.CouponApplied C s' := by
  cases h with
  | none hc hd => exact .none hc hd
  | some coupon discount seen hc hd hdiscount hpos =>
    exact .some coupon discount (seen.rely hr) hc hd hdiscount hpos

theorem PlanPlaced.rely {data : OrderService.OrderCreate} {o : Order} {s s' : State Tbl}
    (h : PlanPlaced C data o s) (hr : C.Rely [] s s') : PlanPlaced C data o s' := by
  obtain ⟨user, plan, s₁, huser, hplan, hid, hi, hnow, hrest⟩ := h.agreed
  exact { h with
    agreed := ⟨user, plan, s₁, huser.rely hr, hplan.rely hr, hid, hi, hnow.trans hr.now, hrest⟩
    coupon := h.coupon.rely hr }

theorem Op.Orders.rely {op : Op} {o : Order} {s s' : State Tbl} (h : op.Orders C rt o s)
    (hr : C.Rely [] s s') : op.Orders C rt o s' := by
  cases h with
  | deposit user_id data hzero hplan => exact .deposit user_id data hzero hplan
  | plan user_id data hplan h => exact .plan user_id data hplan (h.rely hr)
  | assigned op data h hplan hperiod hcoupon hbalance =>
    exact .assigned op data h hplan hperiod hcoupon hbalance

/-- An assigned order is for the user with the address. -/
theorem Op.places.assigned {op : Op} {user_id : Int} {s : State Tbl}
    {data : OrderService.AdminOrderAssign} (h : op.places C rt user_id s)
    (hassigns : op.assigns rt data) : ∃ u, SeenUser C user_id u s ∧ u.email = data.email := by
  cases op with
  | adminAssignOrder d =>
    have hd : d = data := hassigns
    exact hd ▸ h
  | assignOrderAction request =>
    obtain ⟨form, d, hform, hdata, hu⟩ := h
    have hd' : (Op.assignOrderAction request).assigns rt d := ⟨form, hform, hdata⟩
    have hd : data = d := hd'.unique hassigns
    exact hd ▸ hu
  | _ => exact hassigns.elim

theorem Placed.rely {op : Op} {o : Order} {s s' : State Tbl} (h : Placed C rt op o s)
    (hr : C.Rely [] s s') : Placed C rt op o s' := by
  refine { h with
    owner := h.owner.rely hr
    ordered := h.ordered.rely hr
    unpaid := h.unpaid.rely hr
    reserved := ?_ }
  intro hpos
  obtain ⟨u, hu, hle⟩ := h.reserved hpos
  exact ⟨u, hu.rely hr, hle⟩

/-- The outcome of a program that places an order: only an error that no action catches
    could leave a write behind. -/
def PlacePost {α : Type} (C : Contract Call Tbl) (rt : Runtime) (op : Op) (r : Except PyExc α)
    (s' : State Tbl) (ss' : Session Tbl) : Prop :=
  match r with
  | .ok _ => ∃ o, ss'.ws = [.put .orders o] ∧ Holds s' ss' .orders o.id none ∧
      Placed C rt op o s'
  | .error (.other _) => True
  | .error _ => ss'.ws = []

theorem placePost_error {α : Type} {op : Op} (e : PyExc) (s : State Tbl) :
    PlacePost (α := α) C rt op (.error e) s Session.fresh := by
  cases e <;> trivial

/-! ## §2. The steps of placing an order. -/

/-- Inserting the row is the last step. -/
theorem wp_place {α : Type} {op : Op} {o : Order} {s : State Tbl} {a : α}
    (h : Placed C rt op o s) :
    wp C ((create .orders o).bind fun _ => .ret a) (PlacePost C rt op) s Session.fresh := by
  refine (wp_bind _ _ _ _ _).mpr (wp_create (fun _ _ _ => trivial) fun s' he hfresh => ?_)
  exact ⟨o, rfl, ⟨List.mem_cons_self, hfresh⟩, h.rely he.rely⟩

/-- A coupon moves a part of the price to the discount. -/
theorem applyCoupon_spec {o : Order} {coupon_code : Option String} {s : State Tbl}
    {ss : Session Tbl} (hws : ss.ws = []) (hi : C.Inv s) (htotal : 0 ≤ o.total_amount)
    (hbalance : o.balance_amount = none) (hnone : o.coupon_id = none)
    (hdiscount : o.discount_amount = none)
    {Q : Except PyExc Order → State Tbl → Session Tbl → Prop}
    (hok : ∀ o' s', Extends C s ss s' ss [] → 0 ≤ o'.total_amount →
      o'.fullPrice = o.total_amount → o'.CouponApplied C s' →
      o' = { o with
        coupon_id := o'.coupon_id
        discount_amount := o'.discount_amount
        total_amount := o'.total_amount } → Q (.ok o') s' ss)
    (herr : ∀ e s', Extends C s ss s' ss [] → Q (.error e) s' ss) :
    wp C (OrderService.applyCoupon rt o coupon_code) Q s ss := by
  have hsame : wp C (.ret o : Db Order) Q s ss := by
    refine hok o s (.refl hi) htotal ?_ (.none hnone hdiscount) rfl
    simp [Order.fullPrice, hbalance, hdiscount]
  unfold OrderService.applyCoupon
  split
  · exact hsame
  refine wp_ite (fun _ => hsame) fun _ => ?_
  refine (wp_bind _ _ _ _ _).mpr (wp_liftExcept ?_)
  split
  swap
  · exact herr _ s (.refl hi)
  refine (wp_bind _ _ _ _ _).mpr (wp_selectOne
    (fun s₁ he₁ _ => (wp_bind _ _ _ _ _).mpr (wp_validateCoupon he₁.inv
      (fun _ _ _ h => by cases h) fun e s₂ he₂ => herr e s₂ (he₁.trans he₂)))
    (fun s₁ coupon he₁ hcoupon _ => ?_) fun s₁ he₁ => herr _ s₁ he₁)
  have hstored : (s₁.db .coupon).get? coupon.id = some coupon := by
    rw [State.view, hws] at hcoupon
    exact hcoupon
  refine (wp_bind _ _ _ _ _).mpr (wp_validateCoupon he₁.inv (fun s₂ coupon' he₂ h => ?_)
    fun e s₂ he₂ => herr e s₂ (he₁.trans he₂))
  cases h
  refine (wp_bind _ _ _ _ _).mpr (wp_liftExcept ?_)
  have he := he₁.trans he₂
  split
  swap
  · exact herr _ s₂ he
  next discount hcalc =>
  refine wp_ite (fun _ => herr _ s₂ he) fun hpos => ?_
  obtain ⟨-, hle⟩ := calculateDiscount_range htotal hcalc
  have hprice : Order.fullPrice { o with
      coupon_id := some coupon.id
      discount_amount := some discount
      total_amount := max 0 (o.total_amount - discount) } = o.total_amount := by
    simp only [Order.fullPrice, hbalance, Option.getD_none, Option.getD_some]
    omega
  refine hok _ s₂ he (le_max_left _ _) hprice ?_ rfl
  refine .some coupon discount ⟨s₁, he₂.rely.mono (List.nil_subset _), hstored⟩ rfl rfl ?_
    (not_le.mp hpos)
  rw [hprice]
  exact hcalc

/-- The balance a new order takes is not negative, and the user has it. -/
theorem deductBalance_amount (user : User) {o : Order} (htotal : 0 ≤ o.total_amount)
    (hnone : o.balance_amount = none) :
    0 ≤ (OrderService.deductBalance user o).balance_amount.getD 0 ∧
      (∀ amount, (OrderService.deductBalance user o).balance_amount = some amount →
        amount ≤ user.balance) ∧
      0 ≤ (OrderService.deductBalance user o).total_amount ∧
      (OrderService.deductBalance user o).total_amount
        + (OrderService.deductBalance user o).balance_amount.getD 0 = o.total_amount := by
  unfold OrderService.deductBalance
  split
  · split
    · simp only [Option.getD_some, Option.some.injEq, forall_eq']
      omega
    · simp only [Option.getD_some, Option.some.injEq, forall_eq']
      omega
  · rw [hnone]
    simp only [Option.getD_none, reduceCtorEq, false_implies, implies_true, true_and]
    omega

theorem deductBalance_same (user : User) (o : Order) :
    OrderService.deductBalance user o = { o with
      balance_amount := (OrderService.deductBalance user o).balance_amount
      total_amount := (OrderService.deductBalance user o).total_amount } := by
  unfold OrderService.deductBalance
  split
  · split <;> rfl
  · rfl

theorem reads_whenever {c : Prop} [Decidable c] {p : Db Unit} (h : Reads p) :
    Reads (whenever c p) := by
  unfold whenever
  split
  · exact h
  · trivial

theorem reads_ensurePlanCapacityAvailable (plan_id : Int) (capacity_limit : Option Int) :
    Reads (OrderService.ensurePlanCapacityAvailable plan_id capacity_limit) := by
  unfold OrderService.ensurePlanCapacityAvailable
  split
  · trivial
  · split
    · trivial
    · refine .bind (.bind quiet_time.reads fun _ => .bind (quiet_select _).reads fun _ => trivial)
        fun _ => ?_
      split <;> trivial

/-! ## §3. The user's orders. -/

section

variable {user_id : Int} {fresh : Fresh} {created_at : Int} {user : User}
  {data : OrderService.OrderCreate} {s : State Tbl}

theorem createDeposit_spec (hid : user.id = user_id) (hunpaid : SeenUnpaid C user.id s)
    (hzero : data.plan_id = 0) :
    wp C (OrderService.createDeposit fresh created_at user data)
      (PlacePost C rt (.createOrder user_id data)) s Session.fresh := by
  unfold OrderService.createDeposit
  refine wp_ite (fun _ => placePost_error _ _) fun _ => ?_
  split
  · exact placePost_error _ _
  refine wp_ite (fun _ => placePost_error _ _) fun _ => wp_ite (fun _ => placePost_error _ _)
    fun _ => ?_
  refine wp_place ⟨rfl, hid, .deposit user_id data hzero rfl,
    ⟨le_refl _, fun h => absurd h (lt_irrefl _)⟩, ?_, hunpaid, fun h => absurd h (lt_irrefl _)⟩
  intro h
  cases h

theorem createPlanOrder_spec (hid : user.id = user_id) (hunpaid : SeenUnpaid C user.id s)
    (huser : SeenUser C user.id user s) (hplan : data.plan_id ≠ 0) :
    wp C (OrderService.createPlanOrder rt fresh created_at user data)
      (PlacePost C rt (.createOrder user_id data)) s Session.fresh := by
  refine (wp_bind _ _ _ _ _).mpr (wp_get fun s₁ he₁ => ?_)
  dsimp only
  split
  swap
  · exact placePost_error _ _
  next plan hget =>
  have hplan_id : plan.id = data.plan_id := Table.key_of_get? hget
  refine wp_ite (fun _ => placePost_error _ _) fun hperiod => ?_
  refine (wp_bind _ _ _ _ _).mpr (wp_clock fun s₂ he₂ => ?_)
  refine (wp_bind _ _ _ _ _).mpr (wp_liftExcept ?_)
  split
  swap
  · exact placePost_error _ _
  next hbuy =>
  refine (wp_bind _ _ _ _ _).mpr (wp_clock fun s₃ he₃ => ?_)
  refine (wp_bind _ _ _ _ _).mpr (wp_of_reads
    (reads_whenever (reads_ensurePlanCapacityAvailable _ _)) he₃.inv (fun _ s₄ he₄ => ?_)
    fun e s' _ _ => placePost_error e s')
  dsimp only
  split
  · exact placePost_error _ _
  next price hprice =>
  refine wp_ite (fun _ => placePost_error _ _) fun hnonneg => ?_
  refine (wp_bind _ _ _ _ _).mpr (wp_clock fun s₅ he₅ => ?_)
  refine (wp_bind _ _ _ _ _).mpr (applyCoupon_spec rfl he₅.inv (not_lt.mp hnonneg) rfl rfl rfl
    (fun o' s₆ he₆ htotal hfull hcoupon hsame => ?_) fun e s' _ => placePost_error e s')
  have hafter := (((he₂.trans he₃).trans he₄).trans he₅).trans he₆
  have hr : C.Rely [] s s₆ := (he₁.trans hafter).rely
  have hbalance : o'.balance_amount = none := by rw [hsame]
  obtain ⟨hnonneg', hle, htotal', hsum⟩ := deductBalance_amount user htotal hbalance
  set o := OrderService.deductBalance user o' with ho
  have hdeducted : o = { o' with
      balance_amount := o.balance_amount, total_amount := o.total_amount } :=
    deductBalance_same user o'
  have huid : o.user_id = user.id := by rw [hdeducted, hsame]
  have hperiod' : o.period = data.period := by rw [hdeducted, hsame]
  have hplan' : o.plan_id = data.plan_id := by rw [hdeducted, hsame]
  have hknown : data.period ∈ PRICE_PERIODS := not_not.mp hperiod
  have hdeposit : OrderService.isDeposit o = false := by
    rw [OrderService.isDeposit, hplan', Bool.or_eq_false_iff]
    refine ⟨decide_eq_false fun h => ?_, by simpa using hplan⟩
    rw [← hperiod', h] at hknown
    exact absurd hknown (by decide)
  have hstatus : o.status = 0 := by rw [hdeducted, hsame]
  have hcoupon_id : o.coupon_id = o'.coupon_id := by rw [hdeducted]
  have hdiscount : o.discount_amount = o'.discount_amount := by rw [hdeducted]
  have hfull' : o.fullPrice = o'.fullPrice := by
    rw [Order.fullPrice, Order.fullPrice, hsum, hdiscount, hbalance]
    simp
  have hseen : SeenUser C o.user_id user s₆ := huid ▸ huser.rely hr
  have hstored : (s₁.db .plan).get? plan.id = some plan := by
    rw [hplan_id]
    exact hget
  have hreserved : 0 < o.balance_amount.getD 0 → o.balance_amount.getD 0 ≤ user.balance := by
    intro hpos
    cases hamount : o.balance_amount with
    | none =>
        rw [hamount] at hpos
        exact absurd hpos (lt_irrefl _)
    | some amount => exact hle amount hamount
  refine wp_place ⟨hstatus, huid.trans hid, .plan user_id data hplan ?_,
    ⟨hnonneg', fun _ => ⟨hdeposit, hperiod' ▸ hknown⟩⟩, fun hc => ⟨hdeposit, ?_⟩, ?_,
    fun hpos => ⟨user, hseen, hreserved hpos⟩⟩
  · refine ⟨hplan', hperiod', hknown, ?_, htotal', ?_⟩
    · refine ⟨user, plan, s₂, hseen, ⟨s₁, hafter.rely, hstored⟩,
        hplan_id.trans hplan'.symm, he₂.inv, (((he₃.trans he₄).trans he₅).trans he₆).rely.now, ?_,
        ?_, hle⟩
      · rw [hperiod']
        exact hbuy
      · rw [hperiod', hfull', hfull]
        exact hprice
    · cases hcoupon with
      | none hc hd => exact .none (hcoupon_id.trans hc) (hdiscount.trans hd)
      | some coupon discount seen hc hd hcalc hpos =>
        exact .some coupon discount seen (hcoupon_id.trans hc) (hdiscount.trans hd)
          (hfull' ▸ hcalc) hpos
  · rw [hdiscount]
    cases hcoupon with
    | none hcnone hd =>
      rw [hcoupon_id, hcnone] at hc
      cases hc
    | some coupon discount seen hsome hd hcalc hpos =>
      rw [hd]
      exact hpos
  · rw [huid]
    exact hunpaid.rely hr

end

/-- **What `createOrder` inserts.** -/
theorem createOrder_spec {fresh : Fresh} {user_id : Int} {data : OrderService.OrderCreate}
    {s : State Tbl} :
    wp C (OrderService.createOrder rt fresh user_id data)
      (PlacePost C rt (.createOrder user_id data)) s Session.fresh := by
  refine (wp_bind _ _ _ _ _).mpr (wp_clock fun s₁ he₁ => ?_)
  refine (wp_bind _ _ _ _ _).mpr ((wp_bind _ _ _ _ _).mpr (wp_select fun s₂ he₂ => ?_))
  dsimp only [Prog.pure_eq, wp_ret]
  refine wp_ite (fun _ => placePost_error _ _) fun hnone => ?_
  refine (wp_bind _ _ _ _ _).mpr (wp_get fun s₃ he₃ => ?_)
  dsimp only
  split
  swap
  · exact placePost_error _ _
  next user huser =>
  have hid : user.id = user_id := Table.key_of_get? huser
  have hunpaid : SeenUnpaid C user.id s₃ := by
    rw [hid]
    exact ⟨s₂, he₃.rely, unpaid_of_filter hnone⟩
  have hseen : SeenUser C user.id user s₃ := ⟨s₃, .refl _ _, hid ▸ huser⟩
  exact wp_ite (fun hzero => createDeposit_spec hid hunpaid hzero)
    fun h => createPlanOrder_spec hid hunpaid hseen h

/-! ## §4. Assigned orders. -/

/-- **What an assignment inserts.** -/
theorem adminAssignOrder_spec {fresh : Fresh} {data : OrderService.AdminOrderAssign} (op : Op)
    {s : State Tbl} (hassigns : op.assigns rt data)
    (howner : ∀ user_id u s', SeenUser C user_id u s' → u.email = data.email →
      op.places C rt user_id s') :
    wp C (OrderService.adminAssignOrder fresh data) (PlacePost C rt op) s Session.fresh := by
  refine (wp_bind _ _ _ _ _).mpr (wp_clock fun s₁ he₁ => ?_)
  refine (wp_bind _ _ _ _ _).mpr (wp_selectOne (fun _ _ _ => placePost_error _ _)
    (fun s₂ user he₂ huser hemail => ?_) fun _ _ => placePost_error _ _)
  refine (wp_bind _ _ _ _ _).mpr (wp_get fun s₃ he₃ => ?_)
  dsimp only
  split
  swap
  · exact placePost_error _ _
  next plan hget =>
  have hplan_id : plan.id = data.plan_id := Table.key_of_get? hget
  refine (wp_bind _ _ _ _ _).mpr ((wp_bind _ _ _ _ _).mpr (wp_select fun s₄ he₄ => ?_))
  dsimp only [Prog.pure_eq, wp_ret]
  refine wp_ite (fun _ => placePost_error _ _) fun hnone => ?_
  refine (wp_bind _ _ _ _ _).mpr (wp_clock fun s₅ he₅ => ?_)
  have hseen : SeenUser C user.id user s₅ :=
    ⟨s₂, ((he₃.trans he₄).trans he₅).rely, huser⟩
  refine wp_place ⟨rfl, howner user.id user s₅ hseen (by simpa using hemail),
    .assigned op data hassigns hplan_id rfl rfl rfl,
    ⟨le_refl _, fun h => absurd h (lt_irrefl _)⟩, ?_,
    ⟨s₄, he₅.rely, unpaid_of_filter hnone⟩, fun h => absurd h (lt_irrefl _)⟩
  intro h
  cases h

end PyBoard
