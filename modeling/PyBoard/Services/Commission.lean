/-
  PyBoard.Services.Commission — granting and transferring commission.

  The inviter's row is read without a lock in `calculateForOrder`, and so is
  the user's row in `transferCommission`; both write a balance computed from
  that read.  The audit rows of `log_event` are write-only and left out.
-/
import PyBoard.Services.SettingCache

namespace PyBoard

open Relational

variable (rt : Runtime)

/-- What the database sequences and `generate_trade_no` give to one request. -/
structure Fresh where
  /-- The `id` of an order, user, or redemption that the request inserts. -/
  id : Int
  /-- The `id` of a commission log row that the request inserts. -/
  log_id : Int
  trade_no : String
  deriving DecidableEq

namespace CommissionService

/-- `int(total_amount * rate / 100)`. -/
def commissionAmount (total_amount rate : Int) : Except PyExc Int :=
  (PyFloat.divInt (total_amount * rate) 100).toInt

/-- `a or b` of an optional integer: zero counts as missing. -/
def orElse (a b : Option Int) : Option Int :=
  match a with
  | some 0 => b
  | none => b
  | a => a

/-- The number of completed orders that `commission_first_time_enable` looks at. -/
def completedBefore (first_time_only user_id : Int) : Db Int :=
  if first_time_only ≠ 0 then OrderRepository.countCompletedPlanOrders user_id else return 0

/-- `invite_user.commission_rate or invite_commission`. -/
def commissionRate (invite_user : User) (settings : SettingSource := .stored) : Db Int :=
  match orElse invite_user.commission_rate none with
  | some rate => return rate
  | none => settings.getInt rt "invite_commission" 10

/-- The columns that a grant writes take its amounts. -/
def grantFits (invite_user : User) (amount : Int) : Bool :=
  integerFits amount && integerFits (invite_user.commission_balance + amount)

/-- 订单佣金计算。 -/
def calculateForOrder (fresh : Fresh) (order_id : Int) (settings : SettingSource := .stored) :
    Db Unit := do
  let some locked_order ← OrderRepository.getByIdForUpdate order_id | return ()
  if locked_order.status ≠ 3 ∨ locked_order.plan_id = 0 ∨ locked_order.total_amount ≤ 0 ∨
      locked_order.commission_status = 2 ∨ locked_order.commission_status = 3 then
    return ()
  else
    match ← CommissionLogRepository.getByTradeNo locked_order.trade_no with
    | some _ => save .orders locked_order { locked_order with commission_status := 2 }
    | none =>
      let refused := { locked_order with commission_status := 3 }
      match ← UserRepository.getById locked_order.user_id with
      | none => save .orders locked_order { locked_order with commission_status := 1 }
      | some user =>
        match orElse locked_order.invite_user_id user.invite_user_id with
        | none => save .orders locked_order refused
        | some invite_user_id =>
          if invite_user_id = user.id then
            save .orders locked_order refused
          else
            match ← UserRepository.getById invite_user_id with
            | none => save .orders locked_order refused
            | some invite_user =>
              let first_time_only ←
                settings.getInt rt "commission_first_time_enable" 1
              let completed ← completedBefore first_time_only locked_order.user_id
              if completed > 1 then
                save .orders locked_order refused
              else
                let rate ← commissionRate rt invite_user settings
                let amount ← liftExcept (commissionAmount locked_order.total_amount rate)
                if amount ≤ 0 then
                  save .orders locked_order refused
                else if !grantFits invite_user amount then
                  Prog.throw (.other "DBAPIError")
                else
                  save .users invite_user
                    { invite_user with
                      commission_balance := invite_user.commission_balance + amount }
                  save .orders locked_order
                    { locked_order with
                      invite_user_id := some invite_user_id
                      commission_balance := amount
                      actual_commission_balance := some amount
                      commission_status := 2 }
                  create .commission_log
                    { id := fresh.log_id, invite_user_id := invite_user_id,
                      user_id := locked_order.user_id, trade_no := locked_order.trade_no,
                      order_amount := locked_order.total_amount, get_amount := amount }

end CommissionService

namespace InviteService

/-- 佣金划转到余额。 -/
def transferCommission (fresh : Fresh) (user_id amount : Int) : Db Unit := do
  if amount ≤ 0 then
    Prog.throw (BadRequestException "划转金额必须大于 0")
  else
    let some user ← UserRepository.getById user_id
      | Prog.throw (NotFoundException "用户不存在")
    if amount > user.commission_balance then
      Prog.throw (BadRequestException "佣金余额不足")
    else
      save .users user
        { user with
          commission_balance := user.commission_balance - amount
          balance := user.balance + amount }
      let created_at ← time
      create .orders
        { id := fresh.id, invite_user_id := user.invite_user_id, user_id := user_id,
          plan_id := 0, period := "deposit", trade_no := fresh.trade_no,
          callback_no := some "佣金划转 Commission transfer", total_amount := 0,
          surplus_amount := some amount, type := 9, status := 3, created_at := created_at }

end InviteService

end PyBoard
