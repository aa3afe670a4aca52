/-
  PyBoard.Services.Coupon — validating, applying and consuming a coupon.
-/
import PyBoard.Services.Setting

namespace PyBoard.CouponService

open Relational

variable (rt : Runtime)

/-- `_normalize_code`. -/
def normalizeCode (code : String) : Except PyExc String :=
  let code := rt.upper (rt.strip code)
  if code = "" then .error (BadRequestException "优惠券码不能为空") else .ok code

/-- `_parse_optional_list`. -/
def parseOptionalList (value : Option String) : List Json :=
  match value with
  | none => []
  | some value =>
    if value = "" then []
    else
      match rt.orjson_loads value with
      | none => (splitCommas rt value).map .str
      | some (.arr items) => items
      | some _ => []

/-- `int(item)`. -/
def intOfItem : Json → Except PyExc Int
  | .int i => .ok i
  | .bool b => .ok (if b then 1 else 0)
  | .float x => x.toInt
  | .str s =>
      match rt.int_of_str s with
      | some i => .ok i
      | none => .error (.value "invalid literal for int()")
  | _ => .error (.other "TypeError")

/-- 计算优惠金额。 -/
def calculateDiscount (coupon : Coupon) (amount : Int) : Except PyExc Int :=
  if amount ≤ 0 then .ok 0
  else do
    let discount ←
      if coupon.type = 1 then .ok coupon.value
      else if coupon.type = 2 then
        (PyFloat.mulInt amount (PyFloat.divInt coupon.value 100)).toInt
      else .error (BadRequestException "未知优惠券类型")
    return max 0 (min amount discount)

/-- `plan_id not in {int(item) for item in plan_ids}`, when there is a list. -/
def checkPlanIds (coupon : Coupon) (plan_id : Int) : Except PyExc Unit :=
  let plan_ids := parseOptionalList rt coupon.limit_plan_ids
  if plan_ids.isEmpty then .ok ()
  else do
    let ids ← plan_ids.mapM (intOfItem rt)
    if plan_id ∈ ids then .ok () else .error (BadRequestException "优惠券不可用于该套餐")

/-- `period not in {str(item) for item in periods}`, when there is a list. -/
def checkPeriods (coupon : Coupon) (period : String) : Except PyExc Unit :=
  let periods := parseOptionalList rt coupon.limit_period
  if periods.isEmpty ∨ period ∈ periods.map rt.str_of_json then .ok ()
  else .error (BadRequestException "优惠券不可用于该周期")

/-- The checks of `_validate_coupon` that need no further query. -/
def checkCoupon (now : Int) (coupon : Coupon) (plan_id : Int) (period : String) :
    Except PyExc Unit :=
  if coupon.limit_use.any (· ≤ 0) then
    .error (BadRequestException "优惠券已被使用完")
  else if now < coupon.started_at then
    .error (BadRequestException "优惠券尚未开始")
  else if now > coupon.ended_at then
    .error (BadRequestException "优惠券已过期")
  else do
    checkPlanIds rt coupon plan_id
    checkPeriods rt coupon period

/-- `_validate_coupon`. -/
def validateCoupon (coupon : Option Coupon) (user_id plan_id : Int) (period : String)
    (exclude_order_id : Option Int) : Db Coupon := do
  match coupon with
  | none => Prog.throw (BadRequestException "优惠券无效")
  | some coupon =>
    if !coupon.show then
      Prog.throw (BadRequestException "优惠券无效")
    else
      let now ← time
      liftExcept (checkCoupon rt now coupon plan_id period)
      match coupon.limit_use_with_user with
      | none => return coupon
      | some limit =>
        let used ← CouponRepository.countUserUsed coupon.id user_id exclude_order_id
        if used ≥ limit then
          Prog.throw (BadRequestException "该优惠券已达到单用户使用上限")
        else return coupon

/-- 校验并把优惠券应用到订单。 The order is not persisted yet. -/
def applyToOrder (order : Order) (code : String) : Db Order := do
  let code ← liftExcept (normalizeCode rt code)
  let coupon ← validateCoupon rt (← CouponRepository.getByCode code) order.user_id
    order.plan_id order.period none
  let discount ← liftExcept (calculateDiscount coupon order.total_amount)
  if discount ≤ 0 then
    Prog.throw (BadRequestException "优惠券不可用于当前订单")
  else
    return { order with
      coupon_id := some coupon.id
      discount_amount := some discount
      total_amount := max 0 (order.total_amount - discount) }

/-- 支付完成开通时锁定并扣减优惠券库存。 -/
def consumeForPaidOrder (order : Order) : Db Unit := do
  match order.coupon_id with
  | none => return ()
  | some coupon_id =>
    let coupon ← validateCoupon rt (← CouponRepository.getByIdForUpdate coupon_id)
      order.user_id order.plan_id order.period (some order.id)
    let discount_base :=
      order.total_amount + order.balance_amount.getD 0 + order.discount_amount.getD 0
    let discount ← liftExcept (calculateDiscount coupon discount_base)
    if discount ≠ order.discount_amount.getD 0 then
      Prog.throw (BadRequestException "优惠券金额已变化，请重新下单")
    else
      match coupon.limit_use with
      | none => return ()
      | some n => save .coupon coupon { coupon with limit_use := some (n - 1) }

end PyBoard.CouponService
