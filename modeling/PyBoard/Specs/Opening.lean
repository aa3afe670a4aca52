/-
  PyBoard.Specs.Opening — what opening an order does to the database.

  One specification of `processPaidOrder` for every contract: either nothing is
  written, or the order is opened (`Opened`), or an exception is raised and the
  writes so far are those of `RefusedWrites`.  The rows involved are held under
  lock from the moment they are read, so their committed versions at the commit
  are the ones the opening computed with.
-/
import PyBoard.Specs.Commission

namespace PyBoard

open Relational

variable {L : Type} {C : Contract L Tbl} {rt : Runtime}

/-! ## §1. The deposit bonus. -/

/-- The bonus of a deposit under the stored `deposit_bounus` tiers. -/
def depositBonusOf (rt : Runtime) (settings : List Setting) (total_amount : Int) :
    Except PyExc Int := do
  match ← storedSetting settings "deposit_bounus" with
  | none => .ok 0
  | some val =>
    match rt.orjson_loads val with
    | none => .error (.value "JSONDecodeError")
    | some (.arr tiers) => OrderService.bonusOfTiers rt total_amount tiers 0
    | some _ => .ok 0

theorem bonusTier_quiet (tier : Json) {e : PyExc}
    (h : OrderService.bonusTier rt tier = .error e) : e.isApp = false := by
  unfold OrderService.bonusTier at h
  have hint : ∀ (x : PyFloat) {e : PyExc}, x.toInt = .error e → e.isApp = false := by
    intro x e hx
    cases x <;> cases hx <;> rfl
  split at h
  · cases h
  split at h
  · cases h
  split at h
  · cases h
  · next hx =>
    cases h
    exact hint _ hx
  split at h
  · cases h
  split at h
  · cases h
  · next hx =>
    cases h
    exact hint _ hx
  · cases h

theorem bonusOfTiers_quiet (total_amount : Int) (tiers : List Json) (bonus : Int) {e : PyExc}
    (h : OrderService.bonusOfTiers rt total_amount tiers bonus = .error e) :
    e.isApp = false := by
  induction tiers generalizing bonus with
  | nil => cases h
  | cons tier tiers ih =>
    unfold OrderService.bonusOfTiers at h
    cases ht : OrderService.bonusTier rt tier with
    | error e' =>
      rw [ht] at h
      cases h
      exact bonusTier_quiet tier ht
    | ok t? =>
      rw [ht] at h
      cases t? with
      | none => exact ih _ h
      | some t => exact ih _ h

theorem depositBonus_spec {s : State Tbl} {ss : Session Tbl} (total_amount : Int)
    {Q : Except PyExc Int → State Tbl → Session Tbl → Prop}
    (hok : ∀ s' bonus, Extends C s ss s' ss [] →
      depositBonusOf rt (s'.view ss .setting).rows total_amount = .ok bonus →
      Q (.ok bonus) s' ss)
    (herr : ∀ e s', Extends C s ss s' ss [] → e.isApp = false → Q (.error e) s' ss) :
    wp C (OrderService.depositBonus rt total_amount) Q s ss := by
  refine (wp_bind _ _ _ _ _).mpr ((wp_bind _ _ _ _ _).mpr ((wp_bind _ _ _ _ _).mpr
    ((wp_bind _ _ _ _ _).mpr (wp_select fun s' he => wp_scalarOneOrNone
      (fun hl => ?_) (fun a hl => ?_) (herr _ s' he rfl)))))
  · refine hok s' 0 he ?_
    rw [depositBonusOf, storedSetting, hl]
    rfl
  · have hstored : storedSetting (s'.view ss .setting).rows "deposit_bounus"
        = .ok (some a.value) := by rw [storedSetting, hl]
    have hbonus : depositBonusOf rt (s'.view ss .setting).rows total_amount =
        match rt.orjson_loads a.value with
        | none => .error (.value "JSONDecodeError")
        | some (.arr tiers) => OrderService.bonusOfTiers rt total_amount tiers 0
        | some _ => .ok 0 := by rw [depositBonusOf, hstored]; rfl
    simp only [Prog.pure_eq, wp_ret, Option.map]
    cases hv : rt.orjson_loads a.value with
    | none => exact herr _ s' he rfl
    | some v =>
      rw [hv] at hbonus
      cases v with
      | arr tiers =>
        refine wp_liftExcept ?_
        dsimp only at hbonus
        cases hb : OrderService.bonusOfTiers rt total_amount tiers 0 with
        | error e => exact herr e s' he (bonusOfTiers_quiet total_amount tiers 0 hb)
        | ok bonus => exact hok s' bonus he (hbonus.trans hb)
      | _ => exact hok s' 0 he hbonus

/-! ## §2. The coupon. -/

/-- A coupon whose stock was taken: before and after. -/
structure CouponUse where
  before : Coupon
  after : Coupon

/-- The rows written for the coupon. -/
def couponWrites : Option CouponUse → List (Write Tbl)
  | none => []
  | some c => [.put .coupon c.after]

/-- What is known of a consumed coupon. -/
structure CouponUse.Valid (c : CouponUse) (o : Order) (s' : State Tbl) (ss' : Session Tbl) :
    Prop where
  ordered : o.coupon_id = some c.before.id
  discounted : 0 < o.discount_amount.getD 0
  stock : ∃ n, c.before.limit_use = some n ∧
    c.after = { c.before with limit_use := some (n - 1) }
  held : Holds s' ss' .coupon c.before.id (some c.before)

theorem CouponUse.Valid.extends {c : CouponUse} {o : Order} {s s' : State Tbl}
    {ss ss' : Session Tbl} {ws : List (Write Tbl)} (h : c.Valid o s ss)
    (he : Extends C s ss s' ss' ws) : c.Valid o s' ss' :=
  { h with held := h.held.extends he }

/-- The number of other orders of the user with the coupon that count against its limit
    for one user. -/
def usedByUser (db : Database) (coupon_id user_id order_id : Int) : Nat :=
  (db .orders).rows.countP fun o : Order =>
    o.coupon_id = some coupon_id && o.user_id = user_id && o.status ≠ 0 && o.status ≠ 2 &&
      o.id ≠ order_id

/-- `k` is the coupon of `o`: it was locked and has passed its checks, and `c` takes one
    from its stock if that is limited. -/
structure CouponPassed (C : Contract L Tbl) (o : Order) (c : Option CouponUse) (s' : State Tbl)
    (ss' : Session Tbl) (k : Coupon) : Prop where
  ordered : o.coupon_id = some k.id
  held : Holds s' ss' .coupon k.id (some k)
  unlimited : k.limit_use = none → c = none
  limited : ∀ n, k.limit_use = some n →
    0 < n ∧ c = some ⟨k, { k with limit_use := some (n - 1) }⟩
  within : ∀ limit, k.limit_use_with_user = some limit →
    ∃ s₁, C.Rely [] s₁ s' ∧ (usedByUser s₁.db k.id o.user_id o.id : Int) < limit

theorem CouponPassed.extends {o : Order} {c : Option CouponUse} {k : Coupon} {s s' : State Tbl}
    {ss ss' : Session Tbl} {ws : List (Write Tbl)} (h : CouponPassed C o c s ss k)
    (he : Extends C s ss s' ss' ws) : CouponPassed C o c s' ss' k := by
  refine { h with held := h.held.extends he, within := fun limit hlimit => ?_ }
  obtain ⟨s₁, hr₁, hlt⟩ := h.within limit hlimit
  exact ⟨s₁, hr₁.trans (he.rely.mono (List.nil_subset _)), hlt⟩

/-- Does the opening of `o` look at its coupon? -/
def Order.takesCoupon (o : Order) : Prop :=
  OrderService.isDeposit o = false ∧ o.coupon_id.isSome = true ∧ 0 < o.discount_amount.getD 0

theorem checkCoupon_limit {coupon : Coupon} {now plan_id n : Int} {period : String}
    (h : CouponService.checkCoupon rt now coupon plan_id period = .ok ())
    (hn : coupon.limit_use = some n) : 0 < n := by
  unfold CouponService.checkCoupon at h
  split at h
  · cases h
  · next hlimit =>
    rw [hn] at hlimit
    simpa using hlimit

/-- The count of a session that has written no other order is at least the committed one. -/
theorem usedByUser_le {s : State Tbl} {ss : Session Tbl} {coupon_id user_id order_id : Int}
    (horders : ∀ w ∈ ss.ws, ∀ k, w.rowId = ⟨Tbl.orders, k⟩ → k = order_id) :
    usedByUser s.db coupon_id user_id order_id
      ≤ ((s.view ss .orders).rows.filter fun o : Order =>
          o.coupon_id = some coupon_id && o.user_id = user_id && o.status ≠ 0 && o.status ≠ 2 &&
            (match some order_id with | some id => o.id ≠ id | none => true)).length := by
  rw [usedByUser, ← List.countP_eq_length_filter]
  refine Table.countP_le_of_keys fun o ho hp => ⟨o, ?_, rfl, by simpa using hp⟩
  have hne : o.id ≠ order_id := by
    simp only [Bool.and_eq_true] at hp
    simpa using hp.2
  have hget : (s.view ss .orders).get? o.id = some o := by
    rw [State.view, DB.get?_apply_of_not_mem _ _ fun w hw heq => hne (horders w hw _ heq)]
    exact Table.get?_of_mem ho
  exact Table.mem_of_get? hget

/-- A coupon that passes the validation is the one that was given to it. -/
theorem validateCoupon_spec {s : State Tbl} {ss : Session Tbl} {coupon : Coupon}
    {user_id plan_id order_id : Int} {period : String} (hi : C.Inv s)
    (horders : ∀ w ∈ ss.ws, ∀ k, w.rowId = ⟨Tbl.orders, k⟩ → k = order_id)
    {Q : Except PyExc Coupon → State Tbl → Session Tbl → Prop}
    (hok : ∀ s', Extends C s ss s' ss [] → (∀ n, coupon.limit_use = some n → 0 < n) →
      (∀ limit, coupon.limit_use_with_user = some limit →
        (usedByUser s'.db coupon.id user_id order_id : Int) < limit) → Q (.ok coupon) s' ss)
    (herr : ∀ e s', Extends C s ss s' ss [] → Q (.error e) s' ss) :
    wp C (CouponService.validateCoupon rt (some coupon) user_id plan_id period (some order_id))
      Q s ss := by
  unfold CouponService.validateCoupon
  dsimp only
  split
  · exact herr _ s (.refl hi)
  refine (wp_bind _ _ _ _ _).mpr (wp_clock fun s₁ he₁ => ?_)
  refine (wp_bind _ _ _ _ _).mpr (wp_liftExcept ?_)
  split
  swap
  · exact herr _ s₁ he₁
  next _ hcheck =>
  have hstock : ∀ n, coupon.limit_use = some n → 0 < n := fun n hn => checkCoupon_limit hcheck hn
  split
  · next hnone =>
    refine hok s₁ he₁ hstock fun limit hlimit => ?_
    rw [hnone] at hlimit
    cases hlimit
  next limit hlimit =>
  refine (wp_bind _ _ _ _ _).mpr ((wp_bind _ _ _ _ _).mpr (wp_select fun s₂ he₂ => ?_))
  refine wp_ite (fun _ => herr _ s₂ (he₁.trans he₂)) fun hlt => ?_
  refine hok s₂ (he₁.trans he₂) hstock fun l hl => ?_
  rw [hlimit] at hl
  cases hl
  exact lt_of_le_of_lt (Int.ofNat_le.mpr (usedByUser_le horders)) (not_le.mp hlt)

/-- The coupon step of the opening, skipped or not. -/
theorem consume_spec {s : State Tbl} {ss : Session Tbl} {o : Order} (hi : C.Inv s)
    (ha : ss.Avoids .coupon)
    (horders : ∀ w ∈ ss.ws, ∀ k, w.rowId = ⟨Tbl.orders, k⟩ → k = o.id)
    {Q : Except PyExc Unit → State Tbl → Session Tbl → Prop}
    (hok : ∀ s' ss' (c : Option CouponUse), Extends C s ss s' ss' (couponWrites c) →
      (∀ u, c = some u → u.Valid o s' ss') →
      (o.takesCoupon → ∃ k, CouponPassed C o c s' ss' k) → Q (.ok ()) s' ss')
    (herr : ∀ e s' ss', Extends C s ss s' ss' [] → Q (.error e) s' ss') :
    wp C (whenever (o.coupon_id.isSome ∧ 0 < o.discount_amount.getD 0)
      (CouponService.consumeForPaidOrder rt o)) Q s ss := by
  unfold whenever
  split
  swap
  · next hcond => exact hok s ss none (.refl hi) (by simp) fun h => absurd h.2 hcond
  next hcond =>
  unfold CouponService.consumeForPaidOrder
  split
  · next hnone =>
    rw [hnone] at hcond
    exact absurd hcond.1 (by simp)
  next coupon_id hid =>
  refine (wp_bind _ _ _ _ _).mpr (wp_getForUpdate (fun s₁ he₁ _ => ?_)
    fun s₁ coupon he₁ hcid ho₁ => ?_)
  · exact herr _ _ _ he₁
  dsimp only
  have horders₁ : ∀ w ∈ (ss.lock [⟨Tbl.coupon, coupon_id⟩]).ws, ∀ k,
      w.rowId = ⟨Tbl.orders, k⟩ → k = o.id := horders
  refine (wp_bind _ _ _ _ _).mpr (validateCoupon_spec he₁.inv horders₁
    (fun s₂ he₂ hstock hwithin => ?_) fun e s₂ he₂ => herr _ _ _ (he₁.trans he₂))
  refine (wp_bind _ _ _ _ _).mpr (wp_liftExcept ?_)
  split
  swap
  · exact herr _ _ _ (he₁.trans he₂)
  split
  · exact herr _ _ _ (he₁.trans he₂)
  have hordered : o.coupon_id = some coupon.id := hid.trans (congrArg some hcid.symm)
  have hheld : Holds s₂ (ss.lock [⟨Tbl.coupon, coupon_id⟩]) .coupon coupon.id (some coupon) :=
    (ho₁.holds fun w hw heq => ha w hw (congrArg Sigma.fst heq)).extends he₂
  have hwithin' : ∀ limit, coupon.limit_use_with_user = some limit →
      ∃ s₁, C.Rely [] s₁ s₂ ∧ (usedByUser s₁.db coupon.id o.user_id o.id : Int) < limit :=
    fun limit hlimit => ⟨s₂, .refl _ _, hwithin limit hlimit⟩
  split
  · next hunlimited =>
    refine hok _ _ none (he₁.trans he₂) (by simp) fun _ => ⟨coupon, hordered, hheld,
      fun _ => rfl, fun n hn => ?_, hwithin'⟩
    rw [hunlimited] at hn
    cases hn
  next n hn =>
  refine wp_save_owned (ho₁.extends he₂ (by simp)) rfl fun s₃ he₃ => ?_
  refine hok _ _ (some ⟨coupon, _⟩) ((he₁.trans he₂).trans he₃) ?_ fun _ => ⟨coupon, ?_⟩
  · rintro u ⟨⟩
    exact ⟨hordered, hcond.2, ⟨n, hn, rfl⟩, hheld.extends he₃⟩
  · refine CouponPassed.extends ⟨hordered, hheld, fun hnone => ?_, fun m hm => ?_, hwithin'⟩ he₃
    · rw [hn] at hnone
      cases hnone
    · have : n = m := Option.some.inj (hn.symm.trans hm)
      subst this
      exact ⟨hstock n hn, rfl⟩

/-! ## §3. The capacity of the plan. -/

/-- The number of users that count against the capacity of a plan at a time. -/
def activeCount (db : Database) (now plan_id : Int) : Nat :=
  (db .users).rows.countP fun u : User =>
    PlanRepository.isActiveRow now u && u.plan_id = some plan_id

/-- Why `user` may hold a slot of `plan` when the transaction ends in `s'`: since the
    plan was locked, either fewer users than its capacity were counted, or the user
    already held a slot. -/
inductive HasSlot (C : Contract L Tbl) (user : User) (plan : Plan) (s' : State Tbl) : Prop
  | counted (s₁ : State Tbl) (now : Int) (hi : C.Inv s₁)
      (hr : C.Rely [⟨Tbl.plan, plan.id⟩] s₁ s') (hnow : now ≤ s₁.now)
      (hlt : ∀ limit, plan.capacity_limit = some limit → 0 < limit →
        (activeCount s₁.db now plan.id : Int) < limit)
  | held (s₁ : State Tbl) (hi : C.Inv s₁) (hr : C.Rely [⟨Tbl.plan, plan.id⟩] s₁ s')
      (hrow : (s₁.db .users).get? user.id = some user)
      (hplan : user.plan_id = some plan.id) (hactive : isUserActive s₁.now user.expired_at)

theorem HasSlot.rely {user : User} {plan : Plan} {s s' : State Tbl}
    (h : HasSlot C user plan s) (hr : C.Rely [⟨Tbl.plan, plan.id⟩] s s') :
    HasSlot C user plan s' := by
  cases h with
  | counted s₁ now hi hr₁ hnow hlt => exact .counted s₁ now hi (hr₁.trans hr) hnow hlt
  | held s₁ hi hr₁ hrow hplan hactive =>
    exact .held s₁ hi (hr₁.trans hr) hrow hplan hactive

theorem filter_countP_active (rows : List User) (now plan_id : Int) :
    (rows.filter (PlanRepository.isActiveRow now)).countP
        (fun u : User => u.plan_id = some plan_id)
      = rows.countP fun u => PlanRepository.isActiveRow now u && u.plan_id = some plan_id := by
  rw [List.countP_filter]
  exact List.countP_congr fun u _ => by simp [and_comm]

/-- The capacity step of the opening, for a period that needs a slot: it passes only if
    the user has one. -/
theorem capacity_spec {s : State Tbl} {ss : Session Tbl} {user : User} {plan : Plan}
    {now : Int} {period : String} (hi : C.Inv s) (hnow : now = s.now)
    (hperiod : period ≠ "reset_price") (ha : ss.Avoids .users)
    (hu : Holds s ss .users user.id (some user)) (hp : ⟨Tbl.plan, plan.id⟩ ∈ ss.locks)
    {Q : Except PyExc Unit → State Tbl → Session Tbl → Prop}
    (hok : ∀ s', Extends C s ss s' ss [] → HasSlot C user plan s' → Q (.ok ()) s' ss)
    (herr : ∀ e s', Extends C s ss s' ss [] → Q (.error e) s' ss) :
    wp C (whenever (requiresCapacitySlot now user.plan_id user.expired_at plan.id period)
      (OrderService.ensurePlanCapacityAvailable plan.id plan.capacity_limit)) Q s ss := by
  have hsub : [⟨Tbl.plan, plan.id⟩] ⊆ ss.locks := by simpa using hp
  unfold whenever
  split
  swap
  · next hslot =>
    simp only [requiresCapacitySlot, hperiod, if_false, Bool.not_eq_true, Bool.not_eq_false',
      Bool.and_eq_true, decide_eq_true_eq] at hslot
    refine hok s (.refl hi) (.held s hi (.refl _ _) hu.committed hslot.1 ?_)
    rw [← hnow]
    exact hslot.2
  unfold OrderService.ensurePlanCapacityAvailable
  split
  · next hcap => exact hok s (.refl hi) (.counted s now hi (.refl _ _) hnow.le (by simp [hcap]))
  next limit hcap =>
  split
  · next hle =>
    refine hok s (.refl hi) (.counted s now hi (.refl _ _) hnow.le fun l hl hpos => ?_)
    rw [hcap] at hl
    cases hl
    omega
  refine (wp_bind _ _ _ _ _).mpr ((wp_bind _ _ _ _ _).mpr (wp_clock fun s₁ he₁ => ?_))
  refine (wp_bind _ _ _ _ _).mpr (wp_select fun s₂ he₂ => ?_)
  dsimp only [Prog.pure_eq, wp_ret]
  split
  · exact herr _ s₂ (he₁.trans he₂)
  · next hlt =>
    refine hok s₂ (he₁.trans he₂) (.counted s₂ s₁.now he₂.inv (.refl _ _) he₂.rely.now
      fun l hl _ => ?_)
    rw [hcap] at hl
    cases hl
    rw [ha.view s₂, filter_countP_active] at hlt
    exact not_le.mp hlt

/-! ## §4. The user. -/

open OrderService in
/-- What the opening of `o` makes of its user. -/
inductive Entitled (C : Contract L Tbl) (rt : Runtime) (o : Order) (user : User)
    (s' : State Tbl) (ss' : Session Tbl) : User → Prop
  | deposit (hd : isDeposit o = true) (bonus : Int) (s₁ : State Tbl) (hi : C.Inv s₁)
      (hbonus : depositBonusOf rt (s₁.db .setting).rows o.total_amount = .ok bonus) :
      Entitled C rt o user s' ss'
        { user with balance := user.balance + o.total_amount + bonus }
  | reset (hd : isDeposit o = false) (hperiod : o.period = "reset_price") :
      Entitled C rt o user s' ss' (resetTraffic (paying o user))
  | plan (hd : isDeposit o = false) (p : Plan) (hp : Holds s' ss' .plan p.id (some p))
      (hpid : p.id = o.plan_id) (slot : HasSlot C user p s') (carried : User)
      (expired_at : Int) (hc : carried = paying o user ∨ carried = resetTraffic (paying o user)) :
      Entitled C rt o user s' ss' (entitle carried p expired_at)

theorem Entitled.extends {o : Order} {user user' : User} {s s' : State Tbl}
    {ss ss' : Session Tbl} {ws : List (Write Tbl)} (h : Entitled C rt o user s ss user')
    (he : Extends C s ss s' ss' ws) : Entitled C rt o user s' ss' user' := by
  cases h with
  | deposit hd bonus s₁ hi hbonus => exact .deposit hd bonus s₁ hi hbonus
  | reset hd hperiod => exact .reset hd hperiod
  | plan hd p hp hpid slot carried expired_at hc =>
    exact .plan hd p (hp.extends he) hpid
      (slot.rely (he.rely.mono (by simpa using hp.locked))) carried expired_at hc

/-- An opened user keeps its identity. -/
theorem Entitled.id_eq {o : Order} {user user' : User} {s : State Tbl} {ss : Session Tbl}
    (h : Entitled C rt o user s ss user') : user'.id = user.id := by
  cases h with
  | deposit => rfl
  | reset => rfl
  | plan hd p hp hpid slot carried expired_at hc => rcases hc with rfl | rfl <;> rfl

open OrderService in
/-- The opening of `o` at the time `now` makes `user` into a user: a deposit is credited, a
    packet resets the traffic, and any other period brings the plan with its term. -/
inductive OpensTo (rt : Runtime) (o : Order) (user : User) (now : Int) (s' : State Tbl)
    (ss' : Session Tbl) : User → Prop
  | deposit (hd : isDeposit o = true) (bonus : Int) :
      OpensTo rt o user now s' ss' { user with balance := user.balance + o.total_amount + bonus }
  | reset (hd : isDeposit o = false) (hperiod : o.period = "reset_price") :
      OpensTo rt o user now s' ss' (resetTraffic (paying o user))
  | onetime (hd : isDeposit o = false) (hperiod : o.period = "onetime_price") (p : Plan)
      (hpid : p.id = o.plan_id) (hp : Holds s' ss' .plan p.id (some p)) :
      OpensTo rt o user now s' ss' (entitle (resetTraffic (paying o user)) p NEVER_EXPIRES_AT)
  | months (hd : isDeposit o = false) (hreset : o.period ≠ "reset_price") (n : Int)
      (hmonths : PERIOD_MONTHS o.period = some n) (p : Plan) (hpid : p.id = o.plan_id)
      (carried : User) (hc : carried = paying o user ∨ carried = resetTraffic (paying o user))
      (e : Int) (he : addMonths rt now (user.expired_at.getD 0) n = .ok e)
      (hp : Holds s' ss' .plan p.id (some p)) :
      OpensTo rt o user now s' ss' (entitle carried p e)

theorem OpensTo.extends {o : Order} {user user' : User} {now : Int} {s s' : State Tbl}
    {ss ss' : Session Tbl} {ws : List (Write Tbl)} (h : OpensTo rt o user now s ss user')
    (he : Extends C s ss s' ss' ws) : OpensTo rt o user now s' ss' user' := by
  cases h with
  | deposit hd bonus => exact .deposit hd bonus
  | reset hd hperiod => exact .reset hd hperiod
  | onetime hd hperiod p hpid hp => exact .onetime hd hperiod p hpid (hp.extends he)
  | months hd hreset n hmonths p hpid carried hc e hadd hp =>
    exact .months hd hreset n hmonths p hpid carried hc e hadd (hp.extends he)

/-- A period for which the opening knows no number of months. -/
def unsupportedPeriod (o : Order) : Prop :=
  o.period ≠ "reset_price" ∧ o.period ≠ "onetime_price" ∧ PERIOD_MONTHS o.period = none

instance (o : Order) : Decidable (unsupportedPeriod o) := by
  unfold unsupportedPeriod
  infer_instance

/-- Every period of a price is supported. -/
theorem not_unsupportedPeriod {o : Order} (h : o.period ∈ PRICE_PERIODS) :
    ¬unsupportedPeriod o := by
  rintro ⟨hreset, honetime, hmonths⟩
  simp only [PRICE_PERIODS, List.mem_cons, List.not_mem_nil, or_false, hreset, honetime] at h
  rcases h with h | h | h | h | h | h <;> simp [h, PERIOD_MONTHS] at hmonths

theorem unsupportedPeriod_of_not_mem {o : Order} (h : o.period ∉ PRICE_PERIODS) :
    unsupportedPeriod o := by
  have hne : ∀ period ∈ PRICE_PERIODS, o.period ≠ period := by
    intro period hmem heq
    exact h (heq ▸ hmem)
  refine ⟨hne _ (by decide), hne _ (by decide), ?_⟩
  unfold PERIOD_MONTHS
  rw [if_neg (hne _ (by decide)), if_neg (hne _ (by decide)), if_neg (hne _ (by decide)),
    if_neg (hne _ (by decide)), if_neg (hne _ (by decide)), if_neg (hne _ (by decide))]

/-- What is written besides the order when the plan branch is refused. -/
inductive RefusedPlan (o : Order) (user : User) (s' : State Tbl) (ss' : Session Tbl) :
    List (Write Tbl) → Prop
  | early : RefusedPlan o user s' ss' []
  | short (hd : OrderService.isDeposit o = false) (c : CouponUse) (hc : c.Valid o s' ss')
      (hpos : 0 < OrderService.deduction o) (hshort : user.balance < OrderService.deduction o)
      (p : Plan) (hp : Holds s' ss' .plan p.id (some p)) (hpid : p.id = o.plan_id) :
      RefusedPlan o user s' ss' (couponWrites (some c))
  | unsupported (hd : OrderService.isDeposit o = false) (c : Option CouponUse)
      (hc : ∀ u, c = some u → u.Valid o s' ss') (hpaid : ¬(0 < OrderService.deduction o ∧
        user.balance < OrderService.deduction o)) (hperiod : unsupportedPeriod o)
      (p : Plan) (hp : Holds s' ss' .plan p.id (some p)) (hpid : p.id = o.plan_id) :
      RefusedPlan o user s' ss' (couponWrites c ++ [.put .users (OrderService.paying o user)])

theorem RefusedPlan.extends {o : Order} {user : User} {s s' : State Tbl}
    {ss ss' : Session Tbl} {ws ws' : List (Write Tbl)} (h : RefusedPlan o user s ss ws)
    (he : Extends C s ss s' ss' ws') : RefusedPlan o user s' ss' ws := by
  cases h with
  | early => exact .early
  | short hd c hc hpos hshort p hp hpid =>
    exact .short hd c (hc.extends he) hpos hshort p (hp.extends he) hpid
  | unsupported hd c hc hpaid hperiod p hp hpid =>
    exact .unsupported hd c (fun u hu => (hc u hu).extends he) hpaid hperiod p (hp.extends he)
      hpid

/-- The outcome of fulfilling `o` for its user. -/
def FulfilPost (C : Contract L Tbl) (rt : Runtime) (o : Order) (user : User)
    (s : State Tbl) (ss : Session Tbl) (r : Except PyExc Unit) (s' : State Tbl)
    (ss' : Session Tbl) : Prop :=
  match r with
  | .ok _ => ∃ c user', Extends C s ss s' ss' (couponWrites c ++ [.put .users user']) ∧
      (∀ u, c = some u → u.Valid o s' ss') ∧
      (o.takesCoupon → ∃ k, CouponPassed C o c s' ss' k) ∧ Entitled C rt o user s' ss' user' ∧
      ∃ now, s.now ≤ now ∧ now ≤ s'.now ∧ OpensTo rt o user now s' ss' user'
  | .error e => e.isApp = false ∨
      ∃ ws, Extends C s ss s' ss' ws ∧ RefusedPlan o user s' ss' ws

theorem addMonths_quiet {now timestamp months : Int} {e : PyExc}
    (h : addMonths rt now timestamp months = .error e) : e.isApp = false := by
  unfold addMonths at h
  split at h
  · cases h; rfl
  · dsimp only at h
    split at h
    · cases h; rfl
    · split at h
      · cases h; rfl
      · cases h

theorem creditDeposit_spec {s : State Tbl} {ss : Session Tbl} {o : Order} {user : User}
    (hd : OrderService.isDeposit o = true) (hu : Owns s ss .users user)
    (ha : ss.Avoids .setting) :
    wp C (OrderService.creditDeposit rt o user) (FulfilPost C rt o user s ss) s ss := by
  refine (wp_bind _ _ _ _ _).mpr (depositBonus_spec _ (fun s₁ bonus he₁ hb => ?_)
    fun e s₁ _ hE => Or.inl hE)
  refine wp_ite (fun _ => Or.inl rfl) fun _ => ?_
  refine wp_save_owned (hu.extends he₁ (by simp)) rfl fun s₂ he₂ => ?_
  rw [ha.view s₁] at hb
  refine ⟨none, _, he₁.trans he₂, by simp, fun h => ?_, .deposit hd bonus s₁ he₁.inv hb,
    s.now, le_rfl, (he₁.trans he₂).rely.now, .deposit hd bonus⟩
  have hplan := h.1
  rw [hd] at hplan
  cases hplan

/-- Saving the entitled user ends the plan branch. -/
theorem wp_save_entitled {s₀ s : State Tbl} {ss₀ ss : Session Tbl} {o : Order}
    {user user' : User} {c : Option CouponUse}
    (he₀ : Extends C s₀ ss₀ s ss (couponWrites c)) (hc : ∀ u, c = some u → u.Valid o s ss)
    (hk : o.takesCoupon → ∃ k, CouponPassed C o c s ss k) (hu : Owns s ss .users user)
    (h : Entitled C rt o user s ss user') {now : Int} (hlow : s₀.now ≤ now) (hnow : now ≤ s.now)
    (hopens : OpensTo rt o user now s ss user') :
    wp C (save .users user user') (FulfilPost C rt o user s₀ ss₀) s ss := by
  refine wp_save_owned hu h.id_eq.symm fun s' he => ?_
  refine ⟨c, user', he₀.trans he, fun u hcu => (hc u hcu).extends he, fun htakes => ?_,
    h.extends he, now, hlow, hnow.trans he.rely.now, hopens.extends he⟩
  obtain ⟨k, hpassed⟩ := hk htakes
  exact ⟨k, hpassed.extends he⟩

theorem openPlan_spec {s : State Tbl} {ss : Session Tbl} {o : Order} {user : User}
    {plan : Plan} (hd : OrderService.isDeposit o = false) (hpid : plan.id = o.plan_id)
    (hu : Owns s ss .users user) (hp : Holds s ss .plan plan.id (some plan))
    (hau : ss.Avoids .users) (hac : ss.Avoids .coupon)
    (horders : ∀ w ∈ ss.ws, ∀ k, w.rowId = ⟨Tbl.orders, k⟩ → k = o.id) :
    wp C (OrderService.openPlan rt o user plan) (FulfilPost C rt o user s ss) s ss := by
  have hheld : Holds s ss .users user.id (some user) :=
    hu.holds fun w hw heq => hau w hw (congrArg Sigma.fst heq)
  refine (wp_bind _ _ _ _ _).mpr (wp_clock fun s₁ he₁ => ?_)
  refine (wp_bind _ _ _ _ _).mpr ?_
  -- the capacity step; a reset packet takes no slot
  have hcap : wp C (whenever (requiresCapacitySlot s₁.now user.plan_id user.expired_at
      plan.id o.period) (OrderService.ensurePlanCapacityAvailable plan.id plan.capacity_limit))
      (fun r s' ss' => ss' = ss ∧ Extends C s ss s' ss [] ∧
        ((∃ e, r = .error e) ∨
          r = .ok () ∧ (o.period = "reset_price" ∨ HasSlot C user plan s'))) s₁ ss := by
    by_cases hperiod : o.period = "reset_price"
    · have hno : requiresCapacitySlot s₁.now user.plan_id user.expired_at plan.id o.period
          = false := by simp [requiresCapacitySlot, hperiod]
      unfold whenever
      rw [hno]
      exact ⟨rfl, he₁, Or.inr ⟨rfl, Or.inl hperiod⟩⟩
    · exact capacity_spec he₁.inv rfl hperiod hau (hheld.extends he₁) hp.locked
        (fun s' he hslot => ⟨rfl, he₁.trans he, Or.inr ⟨rfl, Or.inr hslot⟩⟩)
        fun e s' he => ⟨rfl, he₁.trans he, Or.inl ⟨e, rfl⟩⟩
  refine wp_mono hcap ?_
  rintro r s₂ _ ⟨rfl, he₂, ⟨e, rfl⟩ | ⟨rfl, hslot⟩⟩
  · exact Or.inr ⟨[], he₂, .early⟩
  dsimp only
  refine (wp_bind _ _ _ _ _).mpr (consume_spec he₂.inv hac horders
    (fun s₃ ss₃ c he₃ hc hk => ?_) fun e s₃ ss₃ he₃ => Or.inr ⟨[], he₂.trans he₃, .early⟩)
  have he₀₃ := he₂.trans he₃
  have hu₃ : Owns s₃ ss₃ .users user := hu.extends he₀₃ (by
    cases c <;> simp [couponWrites, Write.rowId])
  dsimp only
  split
  · next hshort =>
    cases c with
    | none => exact Or.inr ⟨[], he₀₃, .early⟩
    | some u =>
      exact Or.inr ⟨_, he₀₃, .short hd u (hc u rfl) hshort.1 hshort.2 plan (hp.extends he₀₃) hpid⟩
  next hshort =>
  split
  · next hperiod =>
    exact wp_save_entitled he₀₃ hc hk hu₃ (.reset hd hperiod) he₀₃.rely.now le_rfl
      (.reset hd hperiod)
  next hreset =>
  have hslot₃ : HasSlot C user plan s₃ :=
    (hslot.resolve_left hreset).rely (he₃.rely.mono (by simpa using hp.locked))
  have hp₃ := hp.extends he₀₃
  split
  · next honetime =>
    exact wp_save_entitled he₀₃ hc hk hu₃ (.plan hd plan hp₃ hpid hslot₃ _ _ (Or.inr rfl))
      he₀₃.rely.now le_rfl (.onetime hd honetime plan hpid hp₃)
  next honetime =>
  split
  · next hmonths =>
    refine (wp_bind _ _ _ _ _).mpr (wp_save_owned hu₃ rfl fun s₄ he₄ => ?_)
    exact Or.inr ⟨_, he₀₃.trans he₄, .unsupported hd c (fun u h => (hc u h).extends he₄)
      hshort ⟨hreset, honetime, hmonths⟩ plan (hp₃.extends he₄) hpid⟩
  · next months hmonths =>
    refine (wp_bind _ _ _ _ _).mpr (wp_clock fun s₄ he₄ => ?_)
    refine (wp_bind _ _ _ _ _).mpr (wp_clock fun s₅ he₅ => ?_)
    refine (wp_bind _ _ _ _ _).mpr (wp_liftExcept ?_)
    have he₃₅ := he₄.trans he₅
    split
    swap
    · next e hmonth => exact Or.inl (addMonths_quiet hmonth)
    next e hadd =>
    have he₀₅ := he₀₃.trans he₃₅
    simp only [List.append_nil, List.nil_append] at he₀₅
    exact wp_save_entitled he₀₅ (fun u h => (hc u h).extends he₃₅)
      (fun h => (hk h).imp fun k hpassed => hpassed.extends he₃₅) (hu₃.extends he₃₅ (by simp))
      (.plan hd plan (hp₃.extends he₃₅) hpid
        (hslot₃.rely (he₃₅.rely.mono (by simpa using hp₃.locked))) _ _
        (ite_eq_or_eq _ _ _).symm)
      he₀₅.rely.now le_rfl (.months hd hreset months hmonths plan hpid _
        (ite_eq_or_eq _ _ _).symm e hadd (hp₃.extends he₃₅))

theorem fulfil_spec {s : State Tbl} {ss : Session Tbl} {o : Order} {user : User}
    (hu : Owns s ss .users user) (hau : ss.Avoids .users) (hac : ss.Avoids .coupon)
    (has : ss.Avoids .setting) (hap : ss.Avoids .plan)
    (horders : ∀ w ∈ ss.ws, ∀ k, w.rowId = ⟨Tbl.orders, k⟩ → k = o.id) :
    wp C (OrderService.fulfil rt o user) (FulfilPost C rt o user s ss) s ss := by
  unfold OrderService.fulfil
  refine wp_ite (fun hd => creditDeposit_spec hd hu has) fun hd => ?_
  refine (wp_bind _ _ _ _ _).mpr (wp_getForUpdate (fun s₁ he₁ _ => ?_)
    fun s₁ plan he₁ hpid hp₁ => ?_)
  · exact Or.inr ⟨[], he₁, .early⟩
  dsimp only
  have hp : Holds s₁ (ss.lock [⟨Tbl.plan, o.plan_id⟩]) .plan plan.id (some plan) :=
    hp₁.holds fun w hw heq => hap w hw (congrArg Sigma.fst heq)
  refine wp_mono (openPlan_spec (by simpa using hd) hpid (hu.extends he₁ (by simp)) hp
    (hau.lock _) (hac.lock _) horders) ?_
  rintro (e | _) s' ss' h
  · rcases h with h | ⟨ws, he, hr⟩
    · exact Or.inl h
    · exact Or.inr ⟨ws, he₁.trans he, hr⟩
  · obtain ⟨c, user', he, hc, hk, hent, now, hlow, hnow, hopens⟩ := h
    exact ⟨c, user', he₁.trans he, hc, hk, hent, now, he₁.rely.now.trans hlow, hnow, hopens⟩

/-! ## §5. The opening. -/

/-- An opened order: the rows the opening found under its locks, and what it made of
    them. -/
structure Opened where
  order : Order
  user : User
  user' : User
  coupon : Option CouponUse
  opened_at : Int
  paid_at : Int
  commission : List (Write Tbl)

/-- The completed version of the order. -/
def Opened.order' (op : Opened) (callback_no : Option String) : Order :=
  OrderService.completed (OrderService.accepted op.order callback_no) op.paid_at

/-- The rows an opening writes, first to last. -/
def Opened.writes (op : Opened) (callback_no : Option String) : List (Write Tbl) :=
  .put .orders (OrderService.accepted op.order callback_no) ::
    (couponWrites op.coupon ++ [.put .users op.user'] ++ [.put .orders (op.order' callback_no)] ++
      op.commission)

/-- **What is known of an opening** at its end in `s'`, `ss'`. -/
structure Opened.Valid (C : Contract L Tbl) (rt : Runtime) (callback_no : Option String)
    (op : Opened) (s' : State Tbl) (ss' : Session Tbl) : Prop where
  pending : op.order.status = 0 ∨ op.order.status = 1
  user_id : op.user.id = op.order.user_id
  order_held : Holds s' ss' .orders op.order.id (some op.order)
  user_held : Holds s' ss' .users op.user.id (some op.user)
  coupon_valid : ∀ u, op.coupon = some u →
    u.Valid (OrderService.accepted op.order callback_no) s' ss'
  coupon_passed : (OrderService.accepted op.order callback_no).takesCoupon →
    ∃ k, CouponPassed C (OrderService.accepted op.order callback_no) op.coupon s' ss' k
  entitled : Entitled C rt (OrderService.accepted op.order callback_no) op.user s' ss' op.user'
  opened_at_le : op.opened_at ≤ s'.now
  opens : OpensTo rt (OrderService.accepted op.order callback_no) op.user op.opened_at s' ss'
    op.user'
  commission_valid : CommissionWrites C rt (op.order' callback_no) s' ss' op.commission

theorem Opened.Valid.extends {callback_no : Option String} {op : Opened} {s s' : State Tbl}
    {ss ss' : Session Tbl} {ws : List (Write Tbl)} (h : op.Valid C rt callback_no s ss)
    (he : Extends C s ss s' ss' ws) : op.Valid C rt callback_no s' ss' :=
  { h with
    order_held := h.order_held.extends he
    user_held := h.user_held.extends he
    coupon_valid := fun u hu => (h.coupon_valid u hu).extends he
    coupon_passed := fun ht => (h.coupon_passed ht).imp fun _ hk => hk.extends he
    entitled := h.entitled.extends he
    opened_at_le := h.opened_at_le.trans he.rely.now
    opens := h.opens.extends he
    commission_valid := h.commission_valid.extends he }

/-- What is written when an opening raises an `AppException`. -/
inductive RefusedWrites (order_id : Int) (callback_no : Option String) (s' : State Tbl)
    (ss' : Session Tbl) : List (Write Tbl) → Prop
  | missing : RefusedWrites order_id callback_no s' ss' []
  | noUser (o : Order) (hid : o.id = order_id) (hst : o.status = 0 ∨ o.status = 1)
      (ho : Holds s' ss' .orders o.id (some o)) :
      RefusedWrites order_id callback_no s' ss'
        [.put .orders (OrderService.accepted o callback_no)]
  | refused (o : Order) (user : User) (ws : List (Write Tbl)) (hid : o.id = order_id)
      (hst : o.status = 0 ∨ o.status = 1) (ho : Holds s' ss' .orders o.id (some o))
      (huid : user.id = o.user_id) (hu : Holds s' ss' .users user.id (some user))
      (h : RefusedPlan (OrderService.accepted o callback_no) user s' ss' ws) :
      RefusedWrites order_id callback_no s' ss'
        (.put .orders (OrderService.accepted o callback_no) :: ws)

theorem RefusedWrites.extends {order_id : Int} {callback_no : Option String}
    {s s' : State Tbl} {ss ss' : Session Tbl} {ws ws' : List (Write Tbl)}
    (h : RefusedWrites order_id callback_no s ss ws) (he : Extends C s ss s' ss' ws') :
    RefusedWrites order_id callback_no s' ss' ws := by
  cases h with
  | missing => exact .missing
  | noUser o hid hst ho => exact .noUser o hid hst (ho.extends he)
  | refused o user ws hid hst ho huid hu h =>
    exact .refused o user ws hid hst (ho.extends he) huid (hu.extends he) (h.extends he)

/-- The outcome of an opening started in `s`, `ss`. -/
def OpeningPost (C : Contract L Tbl) (rt : Runtime) (order_id : Int)
    (callback_no : Option String) (s : State Tbl) (ss : Session Tbl)
    (r : Except PyExc Unit) (s' : State Tbl) (ss' : Session Tbl) : Prop :=
  match r with
  | .ok _ => ∃ ws, Extends C s ss s' ss' ws ∧
      ((ws = [] ∧ ∃ o : Order, (o.status ≠ 0 ∧ o.status ≠ 1) ∧
          Holds s' ss' .orders order_id (some o)) ∨
        ∃ op : Opened, op.order.id = order_id ∧ op.Valid C rt callback_no s' ss' ∧
          s.now ≤ op.opened_at ∧ ws = op.writes callback_no)
  | .error e => e.isApp = false ∨
      ∃ ws, Extends C s ss s' ss' ws ∧ RefusedWrites order_id callback_no s' ss' ws

theorem couponWrites_table {c : Option CouponUse} {w : Write Tbl} (h : w ∈ couponWrites c) :
    w.table = .coupon := by
  cases c with
  | none => cases h
  | some u =>
    rw [List.mem_singleton.mp h]
    rfl

/-- A refused opening writes no gift card and no commission. -/
theorem RefusedWrites.table {order_id : Int} {callback_no : Option String} {s' : State Tbl}
    {ss' : Session Tbl} {ws : List (Write Tbl)} (h : RefusedWrites order_id callback_no s' ss' ws)
    {w : Write Tbl} (hw : w ∈ ws) :
    w.table = .orders ∨ w.table = .users ∨ w.table = .coupon := by
  cases h with
  | missing => cases hw
  | noUser o => rw [List.mem_singleton.mp hw]; simp
  | refused o user ws hid hst ho huid hu h =>
    rcases List.mem_cons.mp hw with rfl | hw
    · simp
    cases h with
    | early => cases hw
    | short hd c => simp [couponWrites_table hw]
    | unsupported hd c =>
      rcases List.mem_append.mp hw with hw | hw
      · simp [couponWrites_table hw]
      · rw [List.mem_singleton.mp hw]; simp

theorem couponWrites_filter {c : Option CouponUse} {t : Tbl} (ht : t ≠ .coupon) :
    (couponWrites c).filter (fun w => w.table = t) = [] := by
  refine List.filter_eq_nil_iff.mpr fun w hw => ?_
  rw [couponWrites_table hw]
  simpa using ht.symm

/-- What an opening does to the users: the order's user, then the commission. -/
theorem Opened.apply_users (op : Opened) (callback_no : Option String) (db : Database) :
    db.apply (op.writes callback_no) .users
      = db.apply (.put .users op.user' :: op.commission) .users := by
  rw [DB.apply_filter db (op.writes callback_no), DB.apply_filter db (_ :: op.commission)]
  simp [Opened.writes, couponWrites_filter]

/-- What an opening does to the orders: accepted, completed, then the commission. -/
theorem Opened.apply_orders (op : Opened) (callback_no : Option String) (db : Database) :
    db.apply (op.writes callback_no) .orders
      = db.apply (.put .orders (OrderService.accepted op.order callback_no) ::
          .put .orders (op.order' callback_no) :: op.commission) .orders := by
  rw [DB.apply_filter db (op.writes callback_no), DB.apply_filter db (_ :: _ :: op.commission)]
  simp [Opened.writes, couponWrites_filter]

theorem CommissionWrites.table {o : Order} {s' : State Tbl} {ss' : Session Tbl}
    {ws : List (Write Tbl)} (h : CommissionWrites C rt o s' ss' ws) {w : Write Tbl} (hw : w ∈ ws) :
    w.table = .users ∨ w.table = .orders ∨ w.table = .commission_log := by
  cases h with
  | nothing => cases hw
  | status o' => rw [List.mem_singleton.mp hw]; simp
  | grant g =>
    simp only [Grant.writes, List.mem_cons, List.not_mem_nil, or_false] at hw
    rcases hw with rfl | rfl | rfl <;> simp

/-- The tables an opening writes. -/
theorem Opened.Valid.table {op : Opened} {callback_no : Option String} {s' : State Tbl}
    {ss' : Session Tbl} (h : op.Valid C rt callback_no s' ss') {w : Write Tbl}
    (hw : w ∈ op.writes callback_no) :
    w.table = .users ∨ w.table = .orders ∨ w.table = .coupon ∨ w.table = .commission_log := by
  simp only [Opened.writes, List.mem_cons, List.mem_append, List.not_mem_nil, or_false] at hw
  rcases hw with rfl | (((hw | rfl) | rfl) | hw)
  · simp
  · simp [couponWrites_table hw]
  · simp
  · simp
  · rcases h.commission_valid.table hw with h | h | h <;> simp [h]

/-- What an opening does to the commission log: the commission. -/
theorem Opened.apply_commission_log (op : Opened) (callback_no : Option String) (db : Database) :
    db.apply (op.writes callback_no) .commission_log = db.apply op.commission .commission_log := by
  rw [DB.apply_filter db (op.writes callback_no), DB.apply_filter db op.commission]
  simp [Opened.writes, couponWrites_filter]

/-- What an opening does to the coupons. -/
theorem Opened.Valid.apply_coupons {op : Opened} {callback_no : Option String} {s' : State Tbl}
    {ss' : Session Tbl} (h : op.Valid C rt callback_no s' ss') (db : Database) :
    db.apply (op.writes callback_no) .coupon = db.apply (couponWrites op.coupon) .coupon := by
  have hself : (couponWrites op.coupon).filter (fun w => w.table = .coupon)
      = couponWrites op.coupon :=
    List.filter_eq_self.mpr fun w hw => by simpa using couponWrites_table hw
  have hcommission : op.commission.filter (fun w => w.table = .coupon) = [] := by
    refine List.filter_eq_nil_iff.mpr fun w hw => ?_
    rcases h.commission_valid.table hw with h | h | h <;> simp [h]
  rw [DB.apply_filter]
  simp [Opened.writes, hself, hcommission]

/-- **What opening an order does**, for a session that has written nothing yet. -/
theorem processPaidOrder_spec {s : State Tbl} {ss : Session Tbl} {fresh : Fresh}
    {order_id : Int} {callback_no : Option String} (hws : ss.ws = []) :
    wp C (OrderService.processPaidOrder rt fresh order_id callback_no)
      (OpeningPost C rt order_id callback_no s ss) s ss := by
  refine (wp_bind _ _ _ _ _).mpr (wp_getForUpdate (fun s₁ he₁ _ => ?_)
    fun s₁ locked he₁ hid ho₁ => ?_)
  · exact Or.inr ⟨[], he₁, .missing⟩
  have hheld₁ : Holds s₁ (ss.lock [⟨Tbl.orders, order_id⟩]) .orders locked.id (some locked) :=
    ho₁.holds (by simp [hws])
  dsimp only
  refine wp_ite (fun hclosed => ⟨[], he₁, Or.inl ⟨rfl, locked, hclosed, hid ▸ hheld₁⟩⟩)
    fun hpending => ?_
  have hst : locked.status = 0 ∨ locked.status = 1 := by
    by_contra h
    exact hpending ⟨fun h0 => h (Or.inl h0), fun h1 => h (Or.inr h1)⟩
  refine (wp_bind _ _ _ _ _).mpr (wp_save_owned ho₁ rfl fun s₂ he₂ => ?_)
  set order := OrderService.accepted locked callback_no with horder
  have hheld₂ := hheld₁.extends he₂
  have he₀₂ := he₁.trans he₂
  dsimp only
  refine (wp_bind _ _ _ _ _).mpr (wp_getForUpdate (fun s₃ he₃ _ => ?_)
    fun s₃ user he₃ huid hu₃ => ?_)
  · exact Or.inr ⟨_, he₀₂.trans he₃, .noUser locked hid hst (hheld₂.extends he₃)⟩
  dsimp only
  -- from here on the session has written the accepted order only
  have hwritten : ∀ t, t ≠ Tbl.orders → Session.Avoids
      (((ss.lock [⟨Tbl.orders, order_id⟩]).write (.put Tbl.orders order)).lock
        [⟨Tbl.users, order.user_id⟩]) t := by
    intro t ht w hw
    simp only [Session.lock_ws, Session.write_ws, hws, List.nil_append,
      List.mem_singleton] at hw
    rw [hw]
    exact Ne.symm ht
  have hheld₃ := hheld₂.extends he₃
  have huheld₃ := hu₃.holds fun w hw heq =>
    hwritten .users (by decide) w hw (congrArg Sigma.fst heq)
  have he₀₃ := he₀₂.trans he₃
  have hown₃ : Owns s₃ _ .orders order := (Owns.write_self s₂ _ .orders order).extends he₃
    (by simp)
  have honly : ∀ w ∈ (((ss.lock [⟨Tbl.orders, order_id⟩]).write (.put Tbl.orders order)).lock
      [⟨Tbl.users, order.user_id⟩]).ws, ∀ k, w.rowId = ⟨Tbl.orders, k⟩ → k = order.id := by
    intro w hw k hk
    simp only [Session.lock_ws, Session.write_ws, hws, List.nil_append, List.mem_singleton] at hw
    rw [hw] at hk
    exact (eq_of_heq (Sigma.mk.inj hk).2).symm
  refine (wp_bind _ _ _ _ _).mpr (wp_mono (fulfil_spec hu₃ (hwritten _ (by decide))
    (hwritten _ (by decide)) (hwritten _ (by decide)) (hwritten _ (by decide)) honly) ?_)
  rintro (e | _) s₄ ss₄ h
  · rcases h with h | ⟨ws, he₄, hr⟩
    · exact Or.inl h
    · exact Or.inr ⟨_, he₀₃.trans he₄, .refused locked user ws hid hst (hheld₃.extends he₄)
        huid (huheld₃.extends he₄) hr⟩
  obtain ⟨c, user', he₄, hc, hk, hent, now, hlow, hnow, hopens⟩ := h
  have hlow₀ : s.now ≤ now := he₀₃.rely.now.trans hlow
  have hid' : user'.id = user.id := hent.id_eq
  have hown₄ : Owns s₄ ss₄ .orders order := hown₃.extends he₄ (by
    intro w hw heq
    have ht : w.table = .orders := congrArg Sigma.fst heq
    rcases List.mem_append.mp hw with hw | hw
    · rw [couponWrites_table hw] at ht
      cases ht
    · rw [List.mem_singleton.mp hw] at ht
      cases ht)
  have he₀₄ := he₀₃.trans he₄
  have hheld₄ := hheld₃.extends he₄
  have huheld₄ := huheld₃.extends he₄
  dsimp only
  refine (wp_bind _ _ _ _ _).mpr (wp_clock fun s₅ he₅ => ?_)
  dsimp only
  refine wp_ite (fun _ => Or.inl rfl) fun _ => ?_
  refine (wp_bind _ _ _ _ _).mpr (wp_save_owned (hown₄.extends he₅ (by simp)) rfl
    fun s₆ he₆ => ?_)
  set done := OrderService.completed order s₅.now with hdone
  have he₀₆ := (he₀₄.trans he₅).trans he₆
  have he₄₆ := he₅.trans he₆
  have hown₆ : Owns s₆ (ss₄.write (.put .orders done)) .orders done := Owns.write_self _ _ _ _
  dsimp only
  unfold whenever
  refine wp_ite (fun _ => ?_) fun _ => ?_
  swap
  · refine ⟨_, he₀₆, Or.inr ⟨⟨locked, user, user', c, now, s₅.now, []⟩, hid, ?_, hlow₀, ?_⟩⟩
    · exact ⟨hst, huid, hheld₄.extends he₄₆, huheld₄.extends he₄₆,
        fun u h => (hc u h).extends he₄₆, fun h => (hk h).imp fun _ hk => hk.extends he₄₆,
        hent.extends he₄₆, hnow.trans he₄₆.rely.now,
        hopens.extends he₄₆, .nothing⟩
    · simp [Opened.writes, Opened.order', hdone, horder]
  have hws₆ : ∀ w ∈ (ss₄.write (.put .orders done)).ws,
      w.rowId = ⟨Tbl.orders, order.id⟩ ∨ w.table = .coupon ∨ w = .put .users user' := by
    intro w hw
    rw [he₀₆.ws_eq, hws] at hw
    simp only [List.nil_append, List.append_nil, List.mem_append, List.mem_singleton] at hw
    rcases hw with (rfl | hw | rfl) | rfl
    · exact Or.inl rfl
    · exact Or.inr (Or.inl (couponWrites_table hw))
    · exact Or.inr (Or.inr rfl)
    · exact Or.inl rfl
  have havoids : ∀ t, t ≠ Tbl.orders → t ≠ Tbl.coupon → t ≠ Tbl.users →
      (ss₄.write (.put .orders done)).Avoids t := by
    intro t ho hc hu w hw ht
    rcases hws₆ w hw with h | h | rfl
    · exact ho (ht.symm.trans (congrArg Sigma.fst h))
    · exact hc (ht.symm.trans h)
    · exact hu ht.symm
  refine wp_mono (CommissionService.calculateForOrder_spec rt fresh order.id
    (havoids _ (by decide) (by decide) (by decide)) (havoids _ (by decide) (by decide) (by decide))
    ?_ ?_) ?_
  · intro w hw k hk
    rcases hws₆ w hw with h | h | rfl
    · rw [h] at hk
      exact (eq_of_heq (Sigma.mk.inj hk).2).symm
    · rw [show w.table = Tbl.orders from congrArg Sigma.fst hk] at h
      cases h
    · cases congrArg Sigma.fst hk
  · intro s₇ ss₇ o he₇ ho₇ hoid w hw k hk
    have ho : o = done := ho₇.unique (hown₆.extends he₇ (by simp)) hoid
    rcases hws₆ w hw with h | h | rfl
    · rw [h] at hk
      cases congrArg Sigma.fst hk
    · rw [show w.table = Tbl.users from congrArg Sigma.fst hk] at h
      cases h
    · have : user'.id = k := eq_of_heq (Sigma.mk.inj hk).2
      rw [← this, ho, hid']
      exact huid
  · rintro (e | _) s' ss' h
    · exact Or.inl h
    obtain ⟨ws, he₇, hcw⟩ := h
    have he₄' := he₄₆.trans he₇
    refine ⟨_, he₀₆.trans he₇, Or.inr ⟨⟨locked, user, user', c, now, s₅.now, ws⟩, hid, ?_, hlow₀,
      ?_⟩⟩
    · refine ⟨hst, huid, hheld₄.extends he₄', huheld₄.extends he₄',
        fun u h => (hc u h).extends he₄', fun h => (hk h).imp fun _ hk => hk.extends he₄',
        hent.extends he₄', hnow.trans he₄'.rely.now,
        hopens.extends he₄', ?_⟩
      rcases hcw with rfl | ⟨s₇, ss₇, o, hoid, he₇', ho₇, _, hcw⟩
      · exact .nothing
      · have ho : o = done := ho₇.unique (hown₆.extends he₇' (by simp)) hoid
        rw [ho] at hcw
        exact hcw
    · simp [Opened.writes, Opened.order', hdone, horder]

end PyBoard
