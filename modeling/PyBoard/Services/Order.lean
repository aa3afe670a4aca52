/-
  PyBoard.Services.Order — creating, paying, opening and cancelling orders.

  `processPaidOrder` is the opening: it locks the order, its user and its plan,
  and writes the coupon, the user and the order before the commission is
  granted.  A row that was read FOR UPDATE is saved where the source's session
  flushes it; where the source raises with such a row still dirty in its
  session, the row is saved before the raise, since a handler that swallows the
  exception commits it.  The audit rows of `log_event` are write-only and left
  out.  The settings are read as the service was built to: from the rows, or behind
  the runtime cache (`SettingSource`).
-/
import PyBoard.Services.Coupon
import PyBoard.Services.Commission

namespace PyBoard

open Relational

variable (rt : Runtime)

/-! ## §1. Periods, activity and order types. -/

def PRICE_PERIODS : List String :=
  ["month_price", "quarter_price", "half_year_price", "year_price", "two_year_price",
    "three_year_price", "onetime_price", "reset_price"]

/-- `PERIOD_MONTHS.get(period)`. -/
def PERIOD_MONTHS (period : String) : Option Int :=
  if period = "month_price" then some 1
  else if period = "quarter_price" then some 3
  else if period = "half_year_price" then some 6
  else if period = "year_price" then some 12
  else if period = "two_year_price" then some 24
  else if period = "three_year_price" then some 36
  else none

/-- 2100-01-01 00:00:00 UTC. -/
def NEVER_EXPIRES_AT : Int := 4102444800

/-- `getattr(plan, period)` for a period of `PRICE_PERIODS`. -/
def Plan.price (plan : Plan) (period : String) : Option Int :=
  if period = "month_price" then plan.month_price
  else if period = "quarter_price" then plan.quarter_price
  else if period = "half_year_price" then plan.half_year_price
  else if period = "year_price" then plan.year_price
  else if period = "two_year_price" then plan.two_year_price
  else if period = "three_year_price" then plan.three_year_price
  else if period = "onetime_price" then plan.onetime_price
  else if period = "reset_price" then plan.reset_price
  else none

/-- 判断用户订阅是否有效。None 表示永久有效。 -/
def isUserActive (now : Int) (expired_at : Option Int) : Bool :=
  match expired_at with
  | none => true
  | some e => now < e

/-- 按自然月延长 Unix 时间戳。 -/
def addMonths (now timestamp months : Int) : Except PyExc Int :=
  match rt.fromtimestamp (max timestamp now) with
  | none => .error (.other "OverflowError")
  | some dt =>
    let month := dt.month - 1 + months
    let year := dt.year + month / 12
    let month := month % 12 + 1
    let day := min dt.day (monthrange year month)
    if year > MAXYEAR then .error (.value "year is out of range")
    else
      match rt.timestamp { dt with year := year, month := month, day := day } with
      | none => .error (.other "OverflowError")
      | some ts => .ok ts

/-- 判断这笔订单是否会新增一个占用套餐容量的活跃用户。 -/
def requiresCapacitySlot (now : Int) (user_plan_id expired_at : Option Int) (plan_id : Int)
    (period : String) : Bool :=
  if period = "reset_price" then false
  else !(user_plan_id = some plan_id && isUserActive now expired_at)

/-- 根据用户当前订阅推断订单类型。 -/
def determineOrderType (now : Int) (user_plan_id expired_at : Option Int) (plan_id : Int)
    (period : String) : Int :=
  if period = "reset_price" then 4
  else if user_plan_id.isSome ∧ some plan_id ≠ user_plan_id ∧ isUserActive now expired_at then 3
  else if user_plan_id = some plan_id ∧ isUserActive now expired_at then 2
  else 1

namespace OrderService

/-! ## §2. Helpers of the opening. -/

/-- The amounts of one tier `"amount:value"` in cents; `none` is a tier that is
    skipped. -/
def bonusTier (tier : Json) : Except PyExc (Option (Int × Int)) :=
  match splitOnce ':' (rt.str_of_json tier) with
  | none => .ok none
  | some (amount, value) =>
    match rt.float_of_str amount, rt.float_of_str value with
    | none, _ => .ok none
    | some a, v? =>
      match (PyFloat.mulInt 100 a).toInt with
      | .error (.value _) => .ok none
      | .error e => .error e
      | .ok amount_cents =>
        match v? with
        | none => .ok none
        | some v =>
          match (PyFloat.mulInt 100 v).toInt with
          | .error (.value _) => .ok none
          | .error e => .error e
          | .ok value_cents => .ok (some (amount_cents, value_cents))

/-- The best bonus among the tiers that `total_amount` reaches. -/
def bonusOfTiers (total_amount : Int) : List Json → Int → Except PyExc Int
  | [], bonus => .ok bonus
  | tier :: tiers, bonus => do
    match ← bonusTier rt tier with
    | some (amount_cents, value_cents) =>
      bonusOfTiers total_amount tiers
        (if total_amount ≥ amount_cents then max bonus value_cents else bonus)
    | none => bonusOfTiers total_amount tiers bonus

/-- 按 deposit_bounus 配置计算充值赠送金额。 -/
def depositBonus (total_amount : Int) (settings : SettingSource := .stored) : Db Int := do
  match ← settings.getJson rt "deposit_bounus" (.arr []) with
  | .arr tiers => liftExcept (bonusOfTiers rt total_amount tiers 0)
  | _ => return 0

/-- 检查套餐是否仍有容量。 -/
def ensurePlanCapacityAvailable (plan_id : Int) (capacity_limit : Option Int) : Db Unit := do
  match capacity_limit with
  | none => return ()
  | some limit =>
    if limit ≤ 0 then return ()
    else
      let counts ← PlanRepository.countActiveUsers
      if counts plan_id ≥ limit then
        Prog.throw (BadRequestException "当前套餐已售罄")
      else return ()

/-- The entitlement of `plan`, until `expired_at`. -/
def entitle (user : User) (plan : Plan) (expired_at : Int) : User :=
  { user with
    transfer_enable := plan.transfer_enable
    device_limit := plan.device_limit
    plan_id := some plan.id
    group_id := some plan.group_id
    speed_limit := plan.speed_limit
    expired_at := some expired_at }

/-- `user.u = 0; user.d = 0`. -/
def resetTraffic (user : User) : User := { user with u := 0, d := 0 }

/-- The largest value of an INTEGER column. -/
def INTEGER_MAX : Int := 2147483647

/-- The deposit branch of the opening.  The bonus is whatever the setting says, so the sum
    may be more than `users.balance` can hold. -/
def creditDeposit (order : Order) (user : User) (settings : SettingSource := .stored) :
    Db Unit := do
  let bonus ← depositBonus rt order.total_amount settings
  if user.balance + order.total_amount + bonus > INTEGER_MAX then
    Prog.throw (.other "DataError")
  else
    save .users user { user with balance := user.balance + order.total_amount + bonus }

/-- The amount of balance an order takes; zero and less take nothing. -/
def deduction (order : Order) : Int := max 0 (order.balance_amount.getD 0)

/-- The user after the balance deduction. -/
def paying (order : Order) (user : User) : User :=
  { user with balance := user.balance - deduction order }

/-- The plan branch of the opening, after the plan has been locked. -/
def openPlan (order : Order) (user : User) (plan : Plan) : Db Unit := do
  let now ← time
  whenever (requiresCapacitySlot now user.plan_id user.expired_at plan.id order.period)
    (ensurePlanCapacityAvailable plan.id plan.capacity_limit)
  whenever (order.coupon_id.isSome ∧ 0 < order.discount_amount.getD 0)
    (CouponService.consumeForPaidOrder rt order)
  if 0 < deduction order ∧ user.balance < deduction order then
    Prog.throw (BadRequestException "用户余额不足")
  else
    let user' := paying order user
    if order.period = "reset_price" then
      save .users user (resetTraffic user')
    else if order.period = "onetime_price" then
      save .users user (entitle (resetTraffic user') plan NEVER_EXPIRES_AT)
    else
      match PERIOD_MONTHS order.period with
      | none => do
        -- the deduction is already in the session when the period is refused
        save .users user user'
        Prog.throw (BadRequestException "不支持的支付周期")
      | some months => do
        let now ← time
        let carried :=
          if order.type = 1 ∨ !isUserActive now user.expired_at then resetTraffic user'
          else user'
        let now ← time
        let expired_at ← liftExcept (addMonths rt now (user.expired_at.getD 0) months)
        save .users user (entitle carried plan expired_at)

/-- `order.period == "deposit" or order.plan_id == 0`. -/
def isDeposit (order : Order) : Bool := order.period = "deposit" || order.plan_id = 0

/-- Credit the deposit, or lock the plan and open it. -/
def fulfil (order : Order) (user : User) (settings : SettingSource := .stored) : Db Unit :=
  if isDeposit order then
    creditDeposit rt order user settings
  else do
    let some plan ← PlanRepository.getByIdForUpdate order.plan_id
      | Prog.throw (NotFoundException "套餐不存在")
    openPlan rt order user plan

/-- The locked order once its payment is accepted. -/
def accepted (locked_order : Order) (callback_no : Option String) : Order :=
  { locked_order with
    status := 1
    callback_no := callback_no.orElse fun _ => locked_order.callback_no }

/-- The order once it is fulfilled. -/
def completed (order : Order) (paid_at : Int) : Order :=
  { order with status := 3, paid_at := some paid_at }

/-- 更新订单状态并计算佣金。 `paid_at` is an INTEGER column. -/
def completeOrder (fresh : Fresh) (order : Order) (settings : SettingSource := .stored) :
    Db Unit := do
  let paid_at ← time
  if !integerFits paid_at then
    Prog.throw (.other "DBAPIError")
  else
    save .orders order (completed order paid_at)
    whenever (order.plan_id > 0)
      (CommissionService.calculateForOrder rt fresh order.id settings)

/-- 处理已支付订单：扣余额、充值、开通套餐或重置流量。 -/
def processPaidOrder (fresh : Fresh) (order_id : Int) (callback_no : Option String)
    (settings : SettingSource := .stored) : Db Unit := do
  let some locked_order ← OrderRepository.getByIdForUpdate order_id
    | Prog.throw (NotFoundException "订单不存在")
  if locked_order.status ≠ 0 ∧ locked_order.status ≠ 1 then
    return ()
  else
    let order := accepted locked_order callback_no
    save .orders locked_order order
    let some user ← UserRepository.getByIdForUpdate order.user_id
      | Prog.throw (NotFoundException "用户不存在")
    fulfil rt order user settings
    completeOrder rt fresh order settings

/-! ## §3. The user's side. -/

/-- 创建订单请求。 -/
structure OrderCreate where
  plan_id : Int
  period : String
  coupon_code : Option String := none
  deposit_amount : Option Int := none

/-- The deposit branch of `create_order`. -/
def createDeposit (fresh : Fresh) (created_at : Int) (user : User) (data : OrderCreate) :
    Db String :=
  if data.coupon_code.any (· ≠ "") then
    Prog.throw (BadRequestException "充值订单不能使用优惠券")
  else
    match data.deposit_amount with
    | none => Prog.throw (BadRequestException "充值金额必须大于0")
    | some amount =>
      if amount ≤ 0 then Prog.throw (BadRequestException "充值金额必须大于0")
      else if amount ≥ 9999999 then Prog.throw (BadRequestException "充值金额过大")
      else do
        create .orders
          { id := fresh.id, user_id := user.id, plan_id := 0, period := "deposit",
            trade_no := fresh.trade_no, total_amount := amount,
            invite_user_id := user.invite_user_id, type := 9, created_at := created_at }
        return fresh.trade_no

/-- Why a plan cannot be bought for a period, if it cannot. -/
def checkPurchasable (now : Int) (user : User) (plan : Plan) (period : String) :
    Except PyExc Unit :=
  let is_active := isUserActive now user.expired_at
  if period = "reset_price" ∧ (!is_active ∨ user.plan_id ≠ some plan.id) then
    .error (BadRequestException "当前订阅不可购买流量重置包")
  else if period ≠ "reset_price" ∧ !plan.show ∧
      (!plan.renew ∨ user.plan_id ≠ some plan.id ∨ !is_active) then
    .error (BadRequestException "该套餐暂不可购买")
  else if period ≠ "reset_price" ∧ user.plan_id = some plan.id ∧ !plan.renew then
    .error (BadRequestException "该套餐暂不可购买")
  else .ok ()

/-- 余额抵扣。 -/
def deductBalance (user : User) (order : Order) : Order :=
  if 0 < user.balance then
    if user.balance ≥ order.total_amount then
      { order with balance_amount := some order.total_amount, total_amount := 0 }
    else
      { order with
        balance_amount := some user.balance
        total_amount := order.total_amount - user.balance }
  else order

/-- 优惠券抵扣在余额抵扣之前计算，避免余额支付影响优惠金额。 -/
def applyCoupon (order : Order) (coupon_code : Option String) : Db Order :=
  match coupon_code with
  | none => return order
  | some code => if code = "" then return order else CouponService.applyToOrder rt order code

/-- The plan branch of `create_order`. -/
def createPlanOrder (fresh : Fresh) (created_at : Int) (user : User) (data : OrderCreate) :
    Db String := do
  let some plan ← PlanRepository.getById data.plan_id
    | Prog.throw (NotFoundException "套餐不存在")
  if data.period ∉ PRICE_PERIODS then
    Prog.throw (BadRequestException "不支持的支付周期")
  else
    let now ← time
    liftExcept (checkPurchasable now user plan data.period)
    let now ← time
    whenever (requiresCapacitySlot now user.plan_id user.expired_at plan.id data.period)
      (ensurePlanCapacityAvailable plan.id plan.capacity_limit)
    match plan.price data.period with
    | none => Prog.throw (BadRequestException "不支持的支付周期")
    | some period_price =>
      if period_price < 0 then
        Prog.throw (BadRequestException "不支持的支付周期")
      else
        let now ← time
        let priced ← applyCoupon rt
          { id := fresh.id, user_id := user.id, invite_user_id := user.invite_user_id,
            plan_id := data.plan_id, period := data.period, trade_no := fresh.trade_no,
            total_amount := period_price,
            type := determineOrderType now user.plan_id user.expired_at plan.id data.period,
            created_at := created_at } data.coupon_code
        create .orders (deductBalance user priced)
        return fresh.trade_no

/-- 创建订单。 -/
def createOrder (fresh : Fresh) (user_id : Int) (data : OrderCreate) : Db String := do
  let created_at ← time
  if ← OrderRepository.hasPendingOrder user_id then
    Prog.throw (ConflictException "您有未支付的订单，请先支付或取消")
  else
    let some user ← UserRepository.getById user_id
      | Prog.throw (NotFoundException "用户不存在")
    if data.plan_id = 0 then createDeposit fresh created_at user data
    else createPlanOrder rt fresh created_at user data

/-- 计算手续费。 -/
def handlingFee (payment : Payment) (total_amount : Int) : Except PyExc Int :=
  let fixed := payment.handling_fee_fixed.getD 0
  match payment.handling_fee_percent with
  | none => .ok fixed
  | some percent =>
    if percent = .finite 0 then .ok fixed
    else
      ((PyFloat.mulInt total_amount percent).overInt 100).toInt.map (fixed + ·)

/-- An UPDATE is emitted only for a row that changed. -/
def flush (old new : Order) : Db Unit := whenever (old ≠ new) (save .orders old new)

/-- Hand the invoice to the payment driver. -/
def pay (payment : Payment) (order : Order) (trade_no : String)
    (settings : SettingSource := .stored) : Db Json := do
  let (gateway, config) ← liftExcept (createPaymentGateway rt payment.payment payment.config)
  let app_url ← settings.getStr rt "app_url" ""
  let notify_domain := match payment.notify_domain with
    | some domain => if domain = "" then app_url else rstripSlash domain
    | none => app_url
  let route ← liftExcept (routeGatewayName rt payment.payment)
  liftExcept (gateway.pay config
    { trade_no := order.trade_no
      total_amount := order.total_amount + order.handling_amount.getD 0
      notify_url := notify_domain ++ "/notify/" ++ route ++ "/" ++ payment.uuid
      return_url := app_url ++ "/#/order/" ++ trade_no
      user_id := some order.user_id })

/-- 订单结账。 -/
def checkout (fresh : Fresh) (user_id : Int) (trade_no : String) (method : Int)
    (settings : SettingSource := .stored) : Db Json := do
  let some order ← OrderRepository.getPendingByTradeNo trade_no user_id
    | Prog.throw (NotFoundException "订单不存在或已支付")
  if order.total_amount ≤ 0 then
    processPaidOrder rt fresh order.id none settings
    return .obj [("type", .int (-1)), ("data", .bool true)]
  else
    let some payment ← PaymentRepository.getEnabledById method
      | Prog.throw (NotFoundException "支付方式不可用")
    let handling_amount ← liftExcept (handlingFee payment order.total_amount)
    let invoiced :=
      { order with
        handling_amount := if handling_amount > 0 then some handling_amount
          else order.handling_amount
        payment_id := some method }
    flush order invoiced
    pay rt payment invoiced trade_no settings

/-- 取消订单。 -/
def cancelOrder (trade_no : String) (user_id : Int) : Db Unit := do
  let some order ← OrderRepository.getByTradeNo trade_no
    | Prog.throw (NotFoundException "订单不存在")
  if order.user_id ≠ user_id then
    Prog.throw (NotFoundException "订单不存在")
  else if order.status ≠ 0 then
    Prog.throw (BadRequestException "只能取消待支付订单")
  else
    save .orders order { order with status := 2 }

/-! ## §4. The payment callback. -/

/-- The driver that a notification addresses, when the method stored under the
    uuid is enabled and of the addressed gateway. -/
def notifiedGateway (gateway_name : String) (payment : Payment) :
    Except PyExc (Option (PaymentGateway × JsonDict)) := do
  let addressed ← canonicalGatewayName rt gateway_name
  let stored ← canonicalGatewayName rt payment.payment
  if addressed ≠ stored then return none
  else
    let gateway ← createPaymentGateway rt payment.payment payment.config
    return some gateway

/-- The part of `handle_payment_notify` after the driver has verified. -/
def settleNotify (fresh : Fresh) (payment : Payment) (notify : PaymentNotifyResult)
    (settings : SettingSource := .stored) : Db String := do
  let some order ← OrderRepository.getByTradeNo notify.trade_no | return "fail"
  if order.payment_id ≠ some payment.id then return "fail"
  else if notify.paid_amount ≠ some (order.total_amount + order.handling_amount.getD 0) then
    return "fail"
  else if order.status ≠ 0 ∧ order.status ≠ 1 then return "success"
  else
    Prog.tryCatch
      (do
        processPaidOrder rt fresh order.id (some notify.callback_no) settings
        return "success")
      (fun e => if e.isApp then do Prog.rollback; return "fail" else Prog.throw e)

/-- 处理支付回调。 -/
def handlePaymentNotify (fresh : Fresh) (gateway_name payment_uuid : String)
    (params : JsonDict) (settings : SettingSource := .stored) : Db String := do
  let some payment ← PaymentRepository.getByUuid payment_uuid | return "fail"
  if !payment.enable then return "fail"
  else
    match notifiedGateway rt gateway_name payment with
    | .error e => if e.isApp then return "fail" else Prog.throw e
    | .ok none => return "fail"
    | .ok (some (gateway, config)) =>
      let notify ← liftExcept (gateway.verify_notify config params)
      if !notify.success then return "fail"
      else settleNotify rt fresh payment notify settings

/-! ## §5. The administrator's side. -/

/-- 管理端手动标记待支付订单为已支付并开通。 -/
def adminMarkPaid (fresh : Fresh) (trade_no : String) (settings : SettingSource := .stored) :
    Db Unit := do
  let some order ← OrderRepository.getByTradeNo trade_no
    | Prog.throw (NotFoundException "订单不存在")
  if order.status ≠ 0 then
    Prog.throw (BadRequestException "只能操作待支付订单")
  else
    processPaidOrder rt fresh order.id (some "manual_operation") settings

/-- 管理端取消待支付订单。 -/
def adminCancelOrder (trade_no : String) : Db Unit := do
  let some order ← OrderRepository.getByTradeNo trade_no
    | Prog.throw (NotFoundException "订单不存在")
  if order.status ≠ 0 then
    Prog.throw (BadRequestException "只能操作待支付订单")
  else
    save .orders order { order with status := 2 }

/-- 管理端更新订单。 A field is `none` when the request does not set it. -/
structure AdminOrderUpdate where
  trade_no : String
  commission_status : Option (Option Int) := none

/-- 管理端更新订单字段。 The column is NOT NULL. -/
def adminUpdateOrder (data : AdminOrderUpdate) : Db Unit := do
  let some order ← OrderRepository.getByTradeNo data.trade_no
    | Prog.throw (NotFoundException "订单不存在")
  match data.commission_status with
  | none => return ()
  | some none => Prog.throw (.other "IntegrityError")
  | some (some commission_status) =>
    flush order { order with commission_status := commission_status }

/-- 管理端给用户分配订单。 -/
structure AdminOrderAssign where
  email : String
  plan_id : Int
  period : String
  total_amount : Int := 0

/-- 管理端给用户分配套餐订单。 -/
def adminAssignOrder (fresh : Fresh) (data : AdminOrderAssign) : Db String := do
  let created_at ← time
  let some user ← UserRepository.getByEmail data.email
    | Prog.throw (NotFoundException "用户不存在")
  let some plan ← PlanRepository.getById data.plan_id
    | Prog.throw (NotFoundException "套餐不存在")
  if ← OrderRepository.hasPendingOrder user.id then
    Prog.throw (ConflictException "该用户还有待支付订单，无法分配")
  else
    let now ← time
    create .orders
      { id := fresh.id, invite_user_id := user.invite_user_id, user_id := user.id,
        plan_id := plan.id, period := data.period, trade_no := fresh.trade_no,
        total_amount := data.total_amount,
        type := determineOrderType now user.plan_id user.expired_at plan.id data.period,
        created_at := created_at }
    return fresh.trade_no

end OrderService

end PyBoard
