/-
  PyBoard.Results.Amounts — how an order takes a price apart.

  An order for a plan is placed with a discount, a part that the balance pays and the rest.
  The opening puts the three together again and computes the discount once more, from the
  coupon as it is then.  The parts add up to the price that was read
  (`amounts_add_up`), so that the second computation gives the stored discount as long as
  the coupon keeps its type and its value.

  Main results:
    * `consumeForPaidOrder_agrees` — the second computation.
    * `amounts_add_up` — every order of a run.
-/
import PyBoard.Relational.Spans
import PyBoard.Results.Periods

namespace PyBoard

open Relational

variable {rt : Runtime} {s : State Tbl} {ss : Session Tbl}

/-! ## §1. The second computation. -/

/-- The refusal of a changed discount. -/
def changedAmount : PyExc := BadRequestException "优惠券金额已变化，请重新下单"

/-- Anything may happen, but that the coupon changes its type or its value. -/
def couponKept (coupon : Coupon) : Contract Call Tbl where
  toCond := Cond.any
  Inv s := ∀ k, (s.db .coupon).get? coupon.id = some k →
    k.type = coupon.type ∧ k.value = coupon.value
  Evol _ _ _ := True
  Guar _ s ss := ∀ k, (s.view ss .coupon).get? coupon.id = some k →
    k.type = coupon.type ∧ k.value = coupon.value
  evol_refl _ _ := trivial
  evol_trans _ _ := trivial
  evol_mono _ _ := trivial
  inv_tick _ h := h
  evol_tick _ _ _ := trivial
  guar_inv _ _ h := h
  guar_evol _ _ _ _ := trivial

/-- The discount depends on the type and the value only. -/
theorem calculateDiscount_congr {k coupon : Coupon} (htype : k.type = coupon.type)
    (hvalue : k.value = coupon.value) (amount : Int) :
    CouponService.calculateDiscount k amount = CouponService.calculateDiscount coupon amount := by
  unfold CouponService.calculateDiscount
  rw [htype, hvalue]

theorem couponRefusals_unchanged :
    ∀ detail ∈ couponRefusals, BadRequestException detail ≠ changedAmount := by
  intro detail hdetail heq
  have hne : ∀ detail ∈ couponRefusals, detail ≠ "优惠券金额已变化，请重新下单" := by decide
  injection heq with _ hsame
  exact hne detail hdetail hsame

theorem quiet_unchanged {e : PyExc} (h : e.isApp = false) : e ≠ changedAmount := by
  intro heq
  rw [heq] at h
  cases h

/-- The coupon is one with which the order got its discount. -/
structure Order.DiscountedBy (o : Order) (coupon : Coupon) : Prop where
  coupon_id : o.coupon_id = some coupon.id
  discount : CouponService.calculateDiscount coupon o.fullPrice = .ok (o.discount_amount.getD 0)

/-- **The opening computes the stored discount again**, whatever happens in between, as
    long as the coupon keeps its type and its value. -/
theorem consumeForPaidOrder_agrees {o : Order} {coupon : Coupon} (h : o.DiscountedBy coupon)
    (ha : ss.Avoids .coupon) :
    wp (couponKept coupon) (CouponService.consumeForPaidOrder rt o)
      (fun r _ _ => r ≠ .error changedAmount) s ss := by
  unfold CouponService.consumeForPaidOrder
  rw [h.coupon_id]
  dsimp only
  refine (wp_bind _ _ _ _ _).mpr (wp_getForUpdate (fun s₁ he₁ _ => ?_) fun s₁ k he₁ hk ho₁ => ?_)
  · intro heq
    injection heq with heq
    exact couponRefusals_unchanged _ (by decide) heq
  -- the locked coupon has the type and the value of the first computation
  have hstored : (s₁.db .coupon).get? coupon.id = some k := by
    have hholds := ho₁.holds fun w hw heq => ha w hw (congrArg Sigma.fst heq)
    have hk' : k.id = coupon.id := hk
    rw [← hk']
    exact hholds.committed
  obtain ⟨htype, hvalue⟩ := he₁.inv k hstored
  have hraises : Raises (fun e => e ≠ changedAmount) (CouponService.validateCoupon rt (some k)
      o.user_id o.plan_id o.period (some o.id)) :=
    validateCoupon_raises (fun _ => quiet_unchanged) couponRefusals_unchanged _ _ _ _ _
  have hsame : wp (couponKept coupon) (CouponService.validateCoupon rt (some k) o.user_id o.plan_id
      o.period (some o.id)) (fun r _ _ => ∀ k', r = .ok k' → k' = k) s₁
      (ss.lock [⟨Tbl.coupon, coupon.id⟩]) := by
    refine wp_validateCoupon he₁.inv (fun _ k' _ hk' => ?_) fun _ _ _ => ?_
    · intro k'' hok
      cases hok
      exact (Option.some.inj hk').symm
    · intro k' hok
      cases hok
  refine (wp_bind _ _ _ _ _).mpr (wp_mono (wp_and (wp_raises hraises) hsame) ?_)
  intro r s₂ ss₂ hr
  cases r with
  | error e =>
      intro heq
      exact hr.1 e rfl (Except.error.inj heq)
  | ok k' =>
      have hfound : k' = k := hr.2 k' rfl
      have hdiscount : CouponService.calculateDiscount k' (o.total_amount +
          o.balance_amount.getD 0 + o.discount_amount.getD 0) =
          .ok (o.discount_amount.getD 0) := by
        rw [hfound, calculateDiscount_congr htype hvalue]
        exact h.discount
      refine wp_mono (wp_raises (E := fun e => e ≠ changedAmount) ?_) fun r _ _ hr heq =>
        hr changedAmount heq rfl
      rw [hdiscount]
      change Raises _ (ite _ _ _)
      rw [if_neg (not_not.mpr rfl)]
      split
      · trivial
      · refine raises_stmt fun saved => ?_
        cases saved with
        | false => exact quiet_unchanged rfl
        | true => trivial

/-- The second computation gives the stored discount, and the opening does not refuse it. -/
structure Order.Rechecked (rt : Runtime) (o : Order) (coupon : Coupon) : Prop where
  recomputed : ∀ k : Coupon, k.type = coupon.type → k.value = coupon.value →
    CouponService.calculateDiscount k (o.total_amount + o.balance_amount.getD 0
      + o.discount_amount.getD 0) = .ok (o.discount_amount.getD 0)
  accepted : ∀ (s : State Tbl) (ss : Session Tbl), ss.Avoids .coupon →
    wp (couponKept coupon) (CouponService.consumeForPaidOrder rt o)
      (fun r _ _ => r ≠ .error changedAmount) s ss

theorem Order.DiscountedBy.rechecked {o : Order} {coupon : Coupon} (h : o.DiscountedBy coupon) :
    o.Rechecked rt coupon where
  recomputed k htype hvalue := by
    rw [calculateDiscount_congr htype hvalue]
    exact h.discount
  accepted _ _ ha := consumeForPaidOrder_agrees h ha

theorem Order.DiscountedBy.congr {o o' : Order} {coupon : Coupon} (h : o.DiscountedBy coupon)
    (hterms : o'.terms = o.terms) : o'.DiscountedBy coupon := by
  simp only [Order.terms, Prod.mk.injEq] at hterms
  obtain ⟨-, -, -, -, htotal, hbalance, -, hcoupon, hdiscount⟩ := hterms
  refine ⟨hcoupon.trans h.coupon_id, ?_⟩
  unfold Order.fullPrice
  rw [htotal, hbalance, hdiscount]
  exact h.discount

/-! ## §2. The parts of a price. -/

/-- What the order says about its parts: they add up to the price of the plan for the
    period, and the user had what the balance pays.  Plan, user and coupon are rows of the
    databases `met`. -/
structure Order.AddsUp (o : Order) (user_id : Int) (data : OrderService.OrderCreate)
    (met : Database → Prop) : Prop where
  price : ∃ db plan, met db ∧ (db .plan).get? data.plan_id = some plan ∧
    plan.price data.period = some (o.total_amount + o.balance_amount.getD 0
      + o.discount_amount.getD 0)
  total_nonneg : 0 ≤ o.total_amount
  balance_nonneg : 0 ≤ o.balance_amount.getD 0
  discount_nonneg : 0 ≤ o.discount_amount.getD 0
  available : ∃ db user, met db ∧ (db .users).get? user_id = some user ∧
    ∀ amount, o.balance_amount = some amount → amount ≤ user.balance
  discount : o.coupon_id = none ∧ o.discount_amount = none ∨
    ∃ db coupon, met db ∧ (db .coupon).get? coupon.id = some coupon ∧ o.DiscountedBy coupon

/-- The parts of an order that a plan was bought with. -/
theorem Placed.addsUp {R : Database → Prop} {c : Call} {o : Order} {user_id : Int}
    {data : OrderService.OrderCreate} (h : Placed (meeting R) rt c.op o s) (hmet : R s.db)
    (hop : c.op = .createOrder user_id data) (hplan : data.plan_id ≠ 0) :
    o.AddsUp user_id data R := by
  have hplaced : PlanPlaced (meeting R) data o s := by
    have hordered := h.ordered
    rw [hop] at hordered
    cases hordered with
    | deposit _ _ hzero => exact absurd hzero hplan
    | plan _ _ _ hplaced => exact hplaced
    | assigned _ _ hassigns => exact hassigns.elim
  have howner : o.user_id = user_id := by
    have hplaces := h.owner
    rw [hop] at hplaces
    exact hplaces
  obtain ⟨user, plan, s₁, huser, hfound, hid, -, -, -, hprice, havailable⟩ := hplaced.agreed
  obtain ⟨s₂, hr₂, huser⟩ := huser
  obtain ⟨s₃, hr₃, hfound⟩ := hfound
  have hkey : plan.id = data.plan_id := hid.trans hplaced.plan_id
  have hstored : (s₃.db .plan).get? data.plan_id = some plan := by
    rw [← hkey]
    exact hfound
  rw [howner] at huser
  rw [hplaced.period] at hprice
  refine ⟨⟨s₃.db, plan, meeting_rely hr₃ hmet, hstored, hprice⟩, hplaced.total_nonneg,
    h.payable.nonneg, ?_, ⟨s₂.db, user, meeting_rely hr₂ hmet, huser, havailable⟩, ?_⟩
  · cases hplaced.coupon with
    | none _ hd =>
        rw [hd]
        exact le_refl _
    | some coupon discount _ _ hd _ hpos =>
        rw [hd]
        exact hpos.le
  · cases hplaced.coupon with
    | none hc hd => exact Or.inl ⟨hc, hd⟩
    | some coupon discount seen hc hd hdiscount hpos =>
        obtain ⟨s₄, hr₄, hcoupon⟩ := seen
        refine Or.inr ⟨s₄.db, coupon, meeting_rely hr₄ hmet, hcoupon, hc, ?_⟩
        rw [hd]
        exact hdiscount

/-! ## §3. The runs. -/

/-- Orders keep their terms, and what is placed is stored. -/
def orderly : Contract Call Tbl where
  toCond := Cond.any
  Inv _ := True
  Evol _ _ _ := True
  Guar c s ss := OrdersEvolve s (s.commit ss) ∧ (c.op.placesOrder = true →
    ss.ws = [] ∨ ∃ o, ss.ws = [.put .orders o])
  evol_refl _ _ := trivial
  evol_trans _ _ := trivial
  evol_mono _ _ := trivial
  inv_tick _ _ := trivial
  evol_tick _ _ _ := trivial
  guar_inv _ _ _ := trivial
  guar_evol _ _ _ _ := trivial

theorem Call.keeps_orderly (c : Call) : orderly.Keeps c (c.prog rt) := by
  refine keeps_of_effect c fun s ss _ he _ => ⟨he.ordersEvolve, fun hplaces => ?_⟩
  cases he.placed hplaces with
  | inl hnone => exact Or.inl hnone
  | inr hplaced =>
      obtain ⟨o, hws, -⟩ := hplaced
      exact Or.inr ⟨o, hws⟩

/-- An order that a run has placed is there, on its terms. -/
theorem placed_stays {db : Database} {now : Int} {c : Server}
    (hrun : Runs rt Cond.any (Server.start db now) c) :
    ∀ cm ∈ c.commits, cm.label.op.placesOrder = true → ∀ o : Order,
      Write.put Tbl.orders o ∈ cm.session.ws →
      ∃ o', (c.state.db .orders).get? o.id = some o' ∧ o'.terms = o.terms := by
  refine hrun.state_induction (C := orderly) (P := fun s cs => ∀ cm ∈ cs,
    cm.label.op.placesOrder = true → ∀ o : Order, Write.put Tbl.orders o ∈ cm.session.ws →
    ∃ o', (s.db .orders).get? o.id = some o' ∧ o'.terms = o.terms)
    (fun l _ => l.keeps_orderly) (.quiet trivial) (by simp [Server.start, Config.quiet])
    (fun _ _ _ _ h => h) fun l s ss cs _ _ hg h cm hcm hplaces o ho => ?_
  cases List.mem_cons.mp hcm with
  | inl heq =>
      rw [heq] at hplaces ho
      cases hg.2 hplaces with
      | inl hnone =>
          rw [show ss.ws = [] from hnone] at ho
          cases ho
      | inr hput =>
          obtain ⟨o₁, hws⟩ := hput
          have hsame : o = o₁ := by
            have hmem : Write.put Tbl.orders o ∈ [Write.put Tbl.orders o₁] := hws ▸ ho
            have := List.mem_singleton.mp hmem
            injection this
          refine ⟨o, ?_, rfl⟩
          rw [State.commit_db, State.view, hws, hsame]
          exact Table.get?_put_self _ _
  | inr hcm =>
      obtain ⟨o₁, ho₁, hterms₁⟩ := h cm hcm hplaces o ho
      obtain ⟨o₂, ho₂, hterms₂, -⟩ := hg.1 o.id o₁ ho₁
      exact ⟨o₂, ho₂, hterms₂.trans hterms₁⟩

/-- **The amounts of an order add up**, in every interleaving of calls, to the price that the
    plan had between the begin and the commit of the call.  The order stays on its terms,
    and an opening computes the discount that it has, as long as the coupon keeps its type
    and its value. -/
theorem amounts_add_up {db : Database} {now : Int} {c : Server}
    (hrun : Runs rt Cond.any (Server.start db now) c) :
    ∀ cm ∈ c.commits, ∀ user_id data, cm.label.op = .createOrder user_id data →
      data.plan_id ≠ 0 → ∀ o : Order, Write.put Tbl.orders o ∈ cm.session.ws →
      (∃ c₀ c₁ c₂ : Server, Runs rt Cond.any (Server.start db now) c₀ ∧
        c₀.step (Call.prog rt) (.begin cm.label) = some c₁ ∧ Runs rt Cond.any c₁ c₂ ∧
        c₂.state = cm.before ∧ Runs rt Cond.any c₂ c ∧
        o.AddsUp user_id data (Between (Call.prog rt) Cond.any c₁ c₂)) ∧
      (∃ o', (c.state.db .orders).get? o.id = some o' ∧ o'.terms = o.terms) ∧
      ∀ (o' : Order) (coupon : Coupon), o'.terms = o.terms → o.DiscountedBy coupon →
        o'.Rechecked rt coupon := by
  intro cm hcm user_id data hop hplan o ho
  have hplaces : cm.label.op.placesOrder = true := by
    rw [hop]
    rfl
  refine ⟨?_, placed_stays hrun cm hcm hplaces o ho, fun o' coupon hterms h =>
    (h.congr hterms).rechecked⟩
  obtain ⟨c₁, c₂, hlater, hspan⟩ := hrun.spanned.commits cm hcm
  obtain ⟨c₀, hbefore, hbegin⟩ := hspan.began
  refine ⟨c₀, c₁, c₂, hbefore, hbegin, hspan.since, hspan.state, hlater, ?_⟩
  have hfirst : Between (Call.prog rt) Cond.any c₁ c₂ c₁.state.db :=
    ⟨c₁, .refl _, hspan.since, rfl⟩
  have hlast : Between (Call.prog rt) Cond.any c₁ c₂ cm.before.db :=
    ⟨c₂, hspan.since, .refl _, by rw [hspan.state]⟩
  obtain ⟨a, s₁, hr, heffect⟩ := hspan.proof _ _ (fun _ h => h)
    (Call.prog_spec (C := meeting (Between (Call.prog rt) Cond.any c₁ c₂)) cm.label hfirst)
  have hcommitted := Effect.rely heffect hr hlast
  cases hcommitted.placed hplaces with
  | inl hnone =>
      rw [hnone] at ho
      cases ho
  | inr hplaced =>
      obtain ⟨o₁, hws, hplaced⟩ := hplaced
      have hsame : o = o₁ := by
        rw [hws] at ho
        have hput := List.mem_singleton.mp ho
        injection hput
      rw [hsame]
      exact hplaced.addsUp hlast hop hplan

/-! A user buys a month with a coupon and a part of the balance, and the order is marked as
paid. -/

/-- A user with some balance, a plan for 150 and a coupon of a tenth. -/
def couponBuyer : Database
  | .users => ⟨[{ id := 1, email := "a@example.com", password := "", token := "", uuid := "",
                  balance := 100 }], nodup_one⟩
  | .plan => ⟨[{ id := 1, group_id := 1, transfer_enable := 0, «show» := true,
                 month_price := some 150 }], nodup_one⟩
  | .coupon => ⟨[{ id := 1, code := "TENTH", type := 2, value := 10, «show» := true,
                   started_at := 0, ended_at := 4000000000 }], nodup_one⟩
  | _ => Table.empty

/-- The rest, the balance and the discount of the order `1`, and its status. -/
def Server.parts (c : Server) : Option (List Int) :=
  ((c.state.db .orders).get? (1 : Int)).map fun o : Order =>
    [o.total_amount, o.balance_amount.getD 0, o.discount_amount.getD 0, o.status]

/-- The balance pays 100 of what the coupon leaves, and 35 are to be paid. -/
theorem amounts_add_up_tenth : ∃ c : Server,
    Runs Utc.bare Cond.any (Server.start couponBuyer 1700000000) c ∧
      c.parts = some [35, 100, 15, 3] ∧
      ∀ cm ∈ c.commits, ∀ user_id data, cm.label.op = .createOrder user_id data →
        data.plan_id ≠ 0 → ∀ o : Order, Write.put Tbl.orders o ∈ cm.session.ws →
        ∃ met, o.AddsUp user_id data met := by
  obtain ⟨c, -, hrun, -, hparts, -⟩ : ∃ c c' : Server,
      Runs Utc.bare Cond.any (Server.start couponBuyer 1700000000) c ∧ Runs Utc.bare Cond.any c c' ∧
        c.parts = some [35, 100, 15, 3] ∧ c'.parts = some [35, 100, 15, 3] :=
    Reaches.exists_of_steps
      ([.begin ⟨.createOrder 1 ⟨1, "month_price", some "TENTH", none⟩, ⟨1, 0, "A"⟩⟩] ++
        List.replicate 10 (.exec 0) ++ [.finish 0, .begin ⟨.adminMarkPaid "A", ⟨2, 0, "B"⟩⟩] ++
        List.replicate 17 (.exec 0) ++ [.finish 0])
      [] Server.parts (by decide +kernel)
  refine ⟨c, hrun, hparts, fun cm hcm user_id data hop hplan o ho => ?_⟩
  have hadds := (amounts_add_up hrun cm hcm user_id data hop hplan o ho).1
  obtain ⟨_, _, _, -, -, -, -, -, hadds⟩ := hadds
  exact ⟨_, hadds⟩

end PyBoard
