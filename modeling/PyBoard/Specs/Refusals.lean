/-
  PyBoard.Specs.Refusals — which exceptions the parts of an opening can raise.

  Only the comparison of the balance with the deduction raises 用户余额不足, and only
  a period without a number of months raises 不支持的支付周期.  The coupon, the
  capacity and the plan are refused with other texts, and the rest of an opening
  raises no `AppException` at all.
-/
import PyBoard.Specs.Opening
import PyBoard.Specs.Steady

namespace PyBoard

open Relational

variable {L : Type} {C : Contract L Tbl} {rt : Runtime} {s : State Tbl} {ss : Session Tbl}

/-! ## §1. Programs whose errors are of a kind. -/

/-- Every error that the program raises satisfies `E`. -/
abbrev Raises {α : Type} (E : PyExc → Prop) (p : Db α) : Prop := p.All (fun _ => True) E

/-- The refusals of the plan branch: the balance is short, the period is unsupported. -/
def shortBalance : PyExc := BadRequestException "用户余额不足"
def badPeriod : PyExc := BadRequestException "不支持的支付周期"

/-- None of these two refusals. -/
def Elsewhere (e : PyExc) : Prop := e ≠ shortBalance ∧ e ≠ badPeriod

theorem elsewhere_of_ne {detail : String} (hshort : detail ≠ "用户余额不足")
    (hperiod : detail ≠ "不支持的支付周期") : Elsewhere (BadRequestException detail) := by
  constructor
  · intro heq
    injection heq with _ hdetail
    exact hshort hdetail
  · intro heq
    injection heq with _ hdetail
    exact hperiod hdetail

theorem elsewhere_of_quiet {e : PyExc} (h : e.isApp = false) : Elsewhere e := by
  constructor <;>
    · rintro rfl
      cases h

theorem elsewhere_notFound (detail : String) : Elsewhere (NotFoundException detail) := by
  constructor <;>
    · intro heq
      cases heq

theorem wp_raises {α : Type} {E : PyExc → Prop} {p : Db α} (h : Raises E p) :
    wp C p (fun r _ _ => ∀ e, r = .error e → E e) s ss := by
  induction p generalizing s ss with
  | ret a =>
    intro e he
    cases he
  | throw e =>
    intro e' he
    cases he
    exact h
  | step st k ih => exact fun s' _ _ _ => ih _ (h.2 _)

/-- What a program alone raises. -/
theorem Raises.run {α : Type} {E : PyExc → Prop} {p : Db α} (h : Raises E p) {e : PyExc}
    (he : (p.run s ss).1 = .error e) : E e := by
  induction p generalizing ss with
  | ret a => cases he
  | throw e' =>
    cases he
    exact h
  | step st k ih => exact ih _ (h.2 _) he

/-- The program raises no `AppException`. -/
abbrev NeverRefuses {α : Type} (p : Db α) : Prop := Raises (·.isApp = false) p

theorem Quiet.neverRefuses {α : Type} {p : Db α} (h : Quiet p) : NeverRefuses p :=
  h.imp (fun _ _ => trivial) fun _ => id

theorem NeverRefuses.elsewhere {α : Type} {p : Db α} (h : NeverRefuses p) : Raises Elsewhere p :=
  h.imp (fun _ => id) fun _ => elsewhere_of_quiet

theorem Quiet.elsewhere {α : Type} {p : Db α} (h : Quiet p) : Raises Elsewhere p :=
  h.neverRefuses.elsewhere

theorem raises_stmt {α : Type} {E : PyExc → Prop} {st : Stmt Tbl} {k : st.Resp → Db α}
    (h : ∀ r, Raises E (k r)) : Raises E (.step st k) := ⟨trivial, h⟩

theorem raises_save {E : PyExc → Prop} (h : E (.other "StaleDataError")) (t : Tbl)
    (old new : t.Row) : Raises E (save t old new) := by
  refine raises_stmt fun r => ?_
  cases r
  · exact h
  · trivial

theorem raises_create {E : PyExc → Prop} (h : E (.other "IntegrityError")) (t : Tbl)
    (r : t.Row) : Raises E (create t r) := by
  refine raises_stmt fun ok => ?_
  cases ok
  · exact h
  · trivial

theorem neverRefuses_save (t : Tbl) (old new : t.Row) : NeverRefuses (save t old new) :=
  raises_save (E := (·.isApp = false)) rfl t old new

theorem neverRefuses_create (t : Tbl) (r : t.Row) : NeverRefuses (create t r) :=
  raises_create (E := (·.isApp = false)) rfl t r

theorem raises_liftExcept {α : Type} {E : PyExc → Prop} {x : Except PyExc α}
    (h : ∀ e, x = .error e → E e) : Raises E (liftExcept x) := by
  cases x with
  | ok a => trivial
  | error e => exact h e rfl

theorem raises_whenever {E : PyExc → Prop} {c : Prop} [Decidable c] {p : Db Unit}
    (h : Raises E p) : Raises E (whenever c p) := by
  unfold whenever
  split
  · exact h
  · trivial

/-! ## §2. Commission. -/

/-- The cache raises nothing. -/
theorem neverRefuses_total {α : Type} {p : Db α} (h : p.Total) : NeverRefuses p :=
  h.imp (fun _ => id) fun _ => False.elim

theorem neverRefuses_getCached (key : String) :
    NeverRefuses (SettingService.Cached.getCached rt key) := by
  refine .bind (neverRefuses_total (total_get _)) fun copy => ?_
  cases copy with
  | some val => trivial
  | none =>
    refine .bind (.bind (quiet_select _).neverRefuses fun _ =>
      (quiet_scalarOneOrNone _).neverRefuses) fun item => ?_
    cases item with
    | none => trivial
    | some item => exact .bind (neverRefuses_total (total_cacheSet _ _)) fun _ => trivial

/-- A setting is read in either way without a refusal: a text that is no number raises a
    ValueError. -/
theorem SettingSource.neverRefuses_getInt (settings : SettingSource) (key : String)
    (default : Int) : NeverRefuses (settings.getInt rt key default) := by
  cases settings with
  | stored => exact (quiet_getInt rt key default).neverRefuses
  | cached =>
    refine .bind (neverRefuses_getCached key) fun found => ?_
    cases found with
    | none => trivial
    | some val =>
      dsimp only
      cases rt.int_of_str val <;> trivial

theorem SettingSource.neverRefuses_getJson (settings : SettingSource) (key : String)
    (default : Json) : NeverRefuses (settings.getJson rt key default) := by
  cases settings with
  | stored => exact (quiet_getJson rt key default).neverRefuses
  | cached =>
    refine .bind (neverRefuses_getCached key) fun found => ?_
    cases found with
    | none => trivial
    | some val =>
      dsimp only
      cases rt.orjson_loads val <;> trivial

theorem neverRefuses_commissionRate (inviter : User) (settings : SettingSource) :
    NeverRefuses (CommissionService.commissionRate rt inviter settings) := by
  unfold CommissionService.commissionRate
  split
  · trivial
  · exact settings.neverRefuses_getInt _ _

/-- **A commission is settled or fails**, whatever it finds: nothing of it is refused. -/
theorem neverRefuses_calculateForOrder (fresh : Fresh) (order_id : Int)
    (settings : SettingSource) :
    NeverRefuses (CommissionService.calculateForOrder rt fresh order_id settings) := by
  refine raises_stmt fun found => ?_
  cases found with
  | none => trivial
  | some o =>
    change NeverRefuses (ite _ _ _)
    split
    · trivial
    refine .bind (.bind (quiet_select _).neverRefuses fun _ =>
      (quiet_scalarOneOrNone _).neverRefuses) fun logged => ?_
    cases logged with
    | some _ => exact neverRefuses_save _ _ _
    | none =>
      refine .bind (quiet_get _).neverRefuses fun user => ?_
      cases user with
      | none => exact neverRefuses_save _ _ _
      | some user =>
        dsimp only
        split
        · exact neverRefuses_save _ _ _
        split
        · exact neverRefuses_save _ _ _
        refine .bind (quiet_get _).neverRefuses fun inviter => ?_
        cases inviter with
        | none => exact neverRefuses_save _ _ _
        | some inviter =>
          refine .bind (settings.neverRefuses_getInt _ _) fun first => ?_
          refine .bind (quiet_completedBefore _ _).neverRefuses fun completed => ?_
          split
          · exact neverRefuses_save _ _ _
          refine .bind (neverRefuses_commissionRate inviter settings) fun rate => ?_
          refine .bind (quiet_toInt _).neverRefuses fun amount => ?_
          split
          · exact neverRefuses_save _ _ _
          split
          · rfl
          · exact .bind (neverRefuses_save _ _ _) fun _ => .bind (neverRefuses_save _ _ _) fun _ =>
              neverRefuses_create _ _

/-! ## §3. The coupon. -/

/-- The texts with which a coupon is refused. -/
def couponRefusals : List String :=
  ["优惠券无效", "优惠券已被使用完", "优惠券尚未开始", "优惠券已过期", "优惠券不可用于该套餐",
    "优惠券不可用于该周期", "该优惠券已达到单用户使用上限"]

theorem intOfItem_quiet {item : Json} {e : PyExc}
    (h : CouponService.intOfItem rt item = .error e) : e.isApp = false := by
  unfold CouponService.intOfItem at h
  split at h
  · cases h
  · cases h
  · next x =>
    have hquiet := quiet_toInt x
    rw [h] at hquiet
    exact hquiet
  · split at h
    · cases h
    · cases h
      rfl
  · cases h
    rfl

section

variable {E : PyExc → Prop} (hquiet : ∀ e, e.isApp = false → E e)
  (htext : ∀ detail ∈ couponRefusals, E (BadRequestException detail))

include hquiet htext

theorem checkPlanIds_raises {plan_id : Int} {coupon : Coupon} {e : PyExc}
    (h : CouponService.checkPlanIds rt coupon plan_id = .error e) : E e := by
  unfold CouponService.checkPlanIds at h
  dsimp only at h
  split at h
  · cases h
  cases hids : (CouponService.parseOptionalList rt coupon.limit_plan_ids).mapM
      (CouponService.intOfItem rt) with
  | error e' =>
      obtain ⟨item, -, hitem⟩ := mem_of_mapM_error hids
      rw [hids] at h
      cases h
      exact hquiet _ (intOfItem_quiet hitem)
  | ok ids =>
      rw [hids] at h
      change (if plan_id ∈ ids then _ else _) = _ at h
      split at h
      · cases h
      · cases h
        exact htext _ (by decide)

theorem checkCoupon_raises {now plan_id : Int} {coupon : Coupon} {period : String} {e : PyExc}
    (h : CouponService.checkCoupon rt now coupon plan_id period = .error e) : E e := by
  unfold CouponService.checkCoupon at h
  split at h
  · cases h
    exact htext _ (by decide)
  split at h
  · cases h
    exact htext _ (by decide)
  split at h
  · cases h
    exact htext _ (by decide)
  cases hplan : CouponService.checkPlanIds rt coupon plan_id with
  | error e' =>
      rw [hplan] at h
      cases h
      exact checkPlanIds_raises hquiet htext hplan
  | ok _ =>
      rw [hplan] at h
      change CouponService.checkPeriods rt coupon period = _ at h
      unfold CouponService.checkPeriods at h
      dsimp only at h
      split at h
      · cases h
      · cases h
        exact htext _ (by decide)

/-- A coupon is refused with one of its texts. -/
theorem validateCoupon_raises (coupon : Option Coupon) (user_id plan_id : Int) (period : String)
    (exclude : Option Int) :
    Raises E (CouponService.validateCoupon rt coupon user_id plan_id period exclude) := by
  unfold CouponService.validateCoupon
  cases coupon with
  | none => exact htext _ (by decide)
  | some coupon =>
      dsimp only
      split
      · exact htext _ (by decide)
      refine .bind (quiet_time.imp (fun _ _ => trivial) hquiet) fun now => ?_
      refine .bind (raises_liftExcept fun e => checkCoupon_raises hquiet htext) fun _ => ?_
      split
      · trivial
      refine .bind (.bind ((quiet_select _).imp (fun _ _ => trivial) hquiet) fun _ => trivial)
        fun used => ?_
      split
      · exact htext _ (by decide)
      · trivial

end

theorem couponRefusals_elsewhere :
    ∀ detail ∈ couponRefusals, Elsewhere (BadRequestException detail) := by
  intro detail hdetail
  have hne : ∀ detail ∈ couponRefusals,
      detail ≠ "用户余额不足" ∧ detail ≠ "不支持的支付周期" := by decide
  exact elsewhere_of_ne (hne detail hdetail).1 (hne detail hdetail).2

theorem calculateDiscount_elsewhere {coupon : Coupon} {amount : Int} {e : PyExc}
    (h : CouponService.calculateDiscount coupon amount = .error e) : Elsewhere e := by
  unfold CouponService.calculateDiscount at h
  split at h
  · cases h
  split at h
  · cases h
  split at h
  · cases hx : (PyFloat.mulInt amount (PyFloat.divInt coupon.value 100)).toInt with
    | error e' =>
      have hquiet := quiet_toInt (PyFloat.mulInt amount (PyFloat.divInt coupon.value 100))
      rw [hx] at h hquiet
      cases h
      exact elsewhere_of_quiet hquiet
    | ok discount =>
      rw [hx] at h
      cases h
  · cases h
    exact elsewhere_of_ne (by decide) (by decide)

theorem consumeForPaidOrder_raises (o : Order) :
    Raises Elsewhere (CouponService.consumeForPaidOrder rt o) := by
  unfold CouponService.consumeForPaidOrder
  split
  · trivial
  refine .bind (raises_stmt fun _ => trivial) fun found => ?_
  refine .bind (validateCoupon_raises (fun _ => elsewhere_of_quiet) couponRefusals_elsewhere
    _ _ _ _ _) fun coupon => ?_
  refine .bind (raises_liftExcept fun e => calculateDiscount_elsewhere) fun discount => ?_
  split
  · exact elsewhere_of_ne (by decide) (by decide)
  split
  · trivial
  · exact (neverRefuses_save _ _ _).elsewhere

/-! ## §4. The opening. -/

theorem ensurePlanCapacityAvailable_raises (plan_id : Int) (capacity_limit : Option Int) :
    Raises Elsewhere (OrderService.ensurePlanCapacityAvailable plan_id capacity_limit) := by
  unfold OrderService.ensurePlanCapacityAvailable
  split
  · trivial
  split
  · trivial
  refine .bind (.bind quiet_time.elsewhere fun _ => .bind (quiet_select _).elsewhere fun _ =>
    trivial)
    fun counts => ?_
  split
  · exact elsewhere_of_ne (by decide) (by decide)
  · trivial

/-- **A deposit is credited or fails**: nothing of it is refused. -/
theorem neverRefuses_creditDeposit (o : Order) (user : User) (settings : SettingSource) :
    NeverRefuses (OrderService.creditDeposit rt o user settings) := by
  refine .bind (.bind (settings.neverRefuses_getJson _ _) fun tiers => ?_) fun bonus => ?_
  · split
    · exact raises_liftExcept fun e he => bonusOfTiers_quiet _ _ _ he
    · trivial
  · split
    · rfl
    · exact neverRefuses_save _ _ _

/-- The plan branch raises its own refusals for their own reasons only. -/
theorem openPlan_raises {E : PyExc → Prop} (hE : ∀ e, Elsewhere e → E e) {o : Order} {user : User}
    {plan : Plan} (hshort : 0 < OrderService.deduction o →
      user.balance < OrderService.deduction o → E shortBalance)
    (hperiod : unsupportedPeriod o → E badPeriod) :
    Raises E (OrderService.openPlan rt o user plan) := by
  have hother : ∀ {α : Type} {p : Db α}, Raises Elsewhere p → Raises E p :=
    fun h => h.imp (fun _ h => h) hE
  refine .bind (hother quiet_time.elsewhere) fun now => ?_
  refine .bind (hother (raises_whenever (ensurePlanCapacityAvailable_raises _ _))) fun _ => ?_
  refine .bind (hother (raises_whenever (consumeForPaidOrder_raises o))) fun _ => ?_
  split
  · next h => exact hshort h.1 h.2
  dsimp only
  split
  · exact hother (neverRefuses_save _ _ _).elsewhere
  next hreset =>
  split
  · exact hother (neverRefuses_save _ _ _).elsewhere
  next honetime =>
  split
  · next hmonths =>
    exact .bind (hother (neverRefuses_save _ _ _).elsewhere) fun _ =>
      hperiod ⟨hreset, honetime, hmonths⟩
  · refine .bind (hother quiet_time.elsewhere) fun _ =>
      .bind (hother quiet_time.elsewhere) fun _ => ?_
    refine .bind (raises_liftExcept fun e he => hE e (elsewhere_of_quiet (addMonths_quiet he)))
      fun _ => ?_
    exact hother (neverRefuses_save _ _ _).elsewhere

theorem fulfil_raises {E : PyExc → Prop} (hE : ∀ e, Elsewhere e → E e) {o : Order} {user : User}
    (hshort : 0 < OrderService.deduction o → user.balance < OrderService.deduction o →
      E shortBalance)
    (hperiod : OrderService.isDeposit o = false → unsupportedPeriod o → E badPeriod) :
    Raises E (OrderService.fulfil rt o user) := by
  unfold OrderService.fulfil
  split
  · exact (neverRefuses_creditDeposit o user _).elsewhere.imp (fun _ h => h) hE
  · next hplan =>
    refine raises_stmt fun found => ?_
    cases found with
    | none => exact hE _ (elsewhere_notFound _)
    | some plan => exact openPlan_raises hE hshort (hperiod (by simpa using hplan))

theorem neverRefuses_completeOrder (fresh : Fresh) (o : Order) (settings : SettingSource) :
    NeverRefuses (OrderService.completeOrder rt fresh o settings) := by
  refine .bind quiet_time.neverRefuses fun _ => ?_
  split
  · rfl
  · exact .bind (neverRefuses_save _ _ _) fun _ =>
      raises_whenever (neverRefuses_calculateForOrder fresh o.id settings)

/-- **An opening raises the refusals of the plan branch for their own reasons only**: the
    balance of the order's user is short, or the order has an unsupported period. -/
theorem processPaidOrder_raises {E : PyExc → Prop} (hE : ∀ e, Elsewhere e → E e) {fresh : Fresh}
    {order_id : Int} {callback_no : Option String} (hws : ss.ws = [])
    (hshort : ∀ s' (o : Order) (u : User), C.Rely ss.locks s s' →
      (s'.db .orders).get? order_id = some o →
      (o.status = 0 ∨ o.status = 1) → ∀ s'', C.Rely ss.locks s' s'' →
      (s''.db .users).get? o.user_id = some u →
      0 < OrderService.deduction o → u.balance < OrderService.deduction o → E shortBalance)
    (hperiod : ∀ s' (o : Order), C.Rely ss.locks s s' → (s'.db .orders).get? order_id = some o →
      (o.status = 0 ∨ o.status = 1) → OrderService.isDeposit o = false → unsupportedPeriod o →
      E badPeriod) :
    wp C (OrderService.processPaidOrder rt fresh order_id callback_no)
      (fun r _ _ => ∀ e, r = .error e → E e) s ss := by
  refine (wp_bind _ _ _ _ _).mpr (wp_getForUpdate (fun s₁ he₁ _ => ?_)
    fun s₁ locked he₁ hid ho₁ => ?_)
  · rintro e ⟨⟩
    exact hE _ (elsewhere_notFound _)
  have hlocked : (s₁.db .orders).get? order_id = some locked := by
    have hseen := ho₁.seen
    rw [State.view_lock, State.view, hws] at hseen
    exact hid ▸ hseen
  dsimp only
  refine wp_ite (fun _ e he => by cases he) fun hopen => ?_
  have hst : locked.status = 0 ∨ locked.status = 1 := by
    by_contra hno
    exact hopen ⟨fun h0 => hno (Or.inl h0), fun h1 => hno (Or.inr h1)⟩
  refine (wp_bind _ _ _ _ _).mpr (wp_save_owned ho₁ rfl fun s₂ he₂ => ?_)
  refine (wp_bind _ _ _ _ _).mpr (wp_getForUpdate (fun s₃ he₃ _ => ?_)
    fun s₃ user he₃ huid hu₃ => ?_)
  · rintro e ⟨⟩
    exact hE _ (elsewhere_notFound _)
  have huser : (s₃.db .users).get? locked.user_id = some user := by
    -- the session has written the accepted order only
    have hseen := hu₃.seen
    rw [State.view_lock, State.view, DB.apply_of_table_not_mem] at hseen
    · have huid' : user.id = locked.user_id := huid
      exact huid' ▸ hseen
    · intro w hw
      simp only [Session.write_ws, Session.lock_ws, hws, List.nil_append,
        List.mem_singleton] at hw
      rw [hw]
      simp
  have hshort' : 0 < OrderService.deduction locked →
      user.balance < OrderService.deduction locked → E shortBalance :=
    hshort s₁ locked user he₁.rely hlocked hst s₃
      ((he₂.trans he₃).rely.mono fun _ hl => List.mem_append_right _ hl) huser
  have hfulfil :
      Raises E (OrderService.fulfil rt (OrderService.accepted locked callback_no) user) :=
    fulfil_raises hE hshort' (hperiod s₁ locked he₁.rely hlocked hst)
  exact wp_raises (.bind hfulfil fun _ =>
    (neverRefuses_completeOrder _ _ _).elsewhere.imp (fun _ h => h) hE)

end PyBoard
