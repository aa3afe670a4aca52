/-
  PyBoard.Repositories.Queries — the queries of the repository layer.

  A function here is one method of a repository under `repositories/`, under
  its table's repository name.  Reads are plain SELECTs unless the method is
  one of the `*_for_update` ones.
-/
import PyBoard.Models.Columns
import PyBoard.Models.Schema

namespace PyBoard

open Relational

/-- `result.scalar_one_or_none()`. -/
def scalarOneOrNone {α : Type} : List α → Db (Option α)
  | [] => return none
  | [a] => return some a
  | _ => Prog.throw (.other "MultipleResultsFound")

/-- The UPDATE a flush emits for one dirty row.  The row was read as `old` and is
    now `new`. -/
def save (t : Tbl) (old new : t.Row) : Db Unit := do
  if ← Prog.update t old new then return () else Prog.throw (.other "StaleDataError")

/-- The UPDATE of a user, of whom a column may have outgrown its type. -/
def saveUser (old new : User) : Db Unit :=
  if old.changeFits new then save .users old new else Prog.throw (.other "DBAPIError")

/-- The INSERT of `BaseRepository.create`. -/
def create (t : Tbl) (r : t.Row) : Db Unit := do
  if ← Prog.insert t r then return () else Prog.throw (.other "IntegrityError")

/-- The INSERT of a user, of whom a column may not take its value. -/
def createUserRow (new : User) : Db Unit :=
  if new.insertFits then create .users new else Prog.throw (.other "DBAPIError")

/-- Raise what a pure computation raised. -/
def liftExcept {α : Type} : Except PyExc α → Db α
  | .ok a => return a
  | .error e => Prog.throw e

theorem run_liftExcept {α : Type} {s : State Tbl} {ss : Session Tbl} (x : Except PyExc α) :
    (liftExcept x).run s ss = (x, ss) := by
  cases x <;> rfl

theorem run_liftExcept_bind {α β : Type} {s : State Tbl} {ss ss' : Session Tbl}
    {x : Except PyExc α} {f : α → Db β} {b : β}
    (h : ((liftExcept x).bind f).run s ss = (.ok b, ss')) :
    ∃ a, x = .ok a ∧ (f a).run s ss = (.ok b, ss') := by
  cases x with
  | error e => cases h
  | ok a => exact ⟨a, rfl, h⟩

/-- An `if` without `else`. -/
def whenever (c : Prop) [Decidable c] (p : Db Unit) : Db Unit := if c then p else return ()

/-- `int(time.time())`. -/
def time : Db Int := Prog.clock

namespace UserRepository

def getById (id : Int) : Db (Option User) := Prog.get Tbl.users id

def getByEmail (email : String) : Db (Option User) := do
  scalarOneOrNone (← Prog.select Tbl.users fun (u : User) => u.email = email)

/-- 根据订阅/安全 token 查询用户。 -/
def getByToken (token : String) : Db (Option User) := do
  scalarOneOrNone (← Prog.select Tbl.users fun (u : User) => u.token = token)

/-- 锁定用户行，用于余额、流量、套餐权益等强一致变更。 -/
def getByIdForUpdate (user_id : Int) : Db (Option User) := Prog.getForUpdate Tbl.users user_id

end UserRepository

namespace OrderRepository

def getById (id : Int) : Db (Option Order) := Prog.get Tbl.orders id

def getByTradeNo (trade_no : String) : Db (Option Order) := do
  scalarOneOrNone (← Prog.select Tbl.orders fun (o : Order) => o.trade_no = trade_no)

/-- 根据 ID 锁定订单行。 -/
def getByIdForUpdate (order_id : Int) : Db (Option Order) := Prog.getForUpdate Tbl.orders order_id

def hasPendingOrder (user_id : Int) : Db Bool := do
  let rows ← Prog.select Tbl.orders fun (o : Order) => o.user_id = user_id && o.status = 0
  return !rows.isEmpty

def getPendingByTradeNo (trade_no : String) (user_id : Int) : Db (Option Order) := do
  scalarOneOrNone (← Prog.select Tbl.orders fun (o : Order) =>
    o.trade_no = trade_no && o.user_id = user_id && o.status = 0)

/-- 统计用户已完成的套餐订单。 -/
def countCompletedPlanOrders (user_id : Int) : Db Int := do
  let rows ← Prog.select Tbl.orders fun (o : Order) =>
    o.user_id = user_id && 0 < o.plan_id && o.status = 3
  return rows.length

end OrderRepository

namespace PlanRepository

def getById (id : Int) : Db (Option Plan) := Prog.get Tbl.plan id

/-- 锁定套餐行，用于容量校验与开通串行化。 -/
def getByIdForUpdate (plan_id : Int) : Db (Option Plan) := Prog.getForUpdate Tbl.plan plan_id

/-- The WHERE clause of `count_active_users`. -/
def isActiveRow (now : Int) (u : User) : Bool :=
  u.plan_id.isSome && (match u.expired_at with | some e => now ≤ e | none => true)

/-- 统计每个套餐的活跃用户数: `counts.get(plan_id, 0)` for every plan id. -/
def countActiveUsers : Db (Int → Int) := do
  let now ← time
  let rows ← Prog.select Tbl.users (isActiveRow now)
  return fun plan_id => rows.countP fun (u : User) => u.plan_id = some plan_id

end PlanRepository

namespace CouponRepository

def getByCode (code : String) : Db (Option Coupon) := do
  scalarOneOrNone (← Prog.select Tbl.coupon fun (c : Coupon) => c.code = code)

def getByIdForUpdate (coupon_id : Int) : Db (Option Coupon) :=
  Prog.getForUpdate Tbl.coupon coupon_id

def countUserUsed (coupon_id user_id : Int) (exclude_order_id : Option Int) : Db Int := do
  let rows ← Prog.select Tbl.orders fun (o : Order) =>
    o.coupon_id = some coupon_id && o.user_id = user_id && o.status ≠ 0 && o.status ≠ 2 &&
      (match exclude_order_id with | some id => o.id ≠ id | none => true)
  return rows.length

end CouponRepository

namespace GiftcardRepository

def getByCodeForUpdate (code : String) : Db (Option Giftcard) := do
  scalarOneOrNone (← Prog.selectForUpdate Tbl.giftcard fun (g : Giftcard) => g.code = code)

end GiftcardRepository

namespace GiftcardRedemptionRepository

def getByGiftcardAndUser (giftcard_id user_id : Int) : Db (Option GiftcardRedemption) := do
  scalarOneOrNone (← Prog.select Tbl.giftcard_redemption fun (r : GiftcardRedemption) =>
    r.giftcard_id = giftcard_id && r.user_id = user_id)

end GiftcardRedemptionRepository

namespace CommissionLogRepository

def getByTradeNo (trade_no : String) : Db (Option CommissionLog) := do
  scalarOneOrNone (← Prog.select Tbl.commission_log fun (l : CommissionLog) =>
    l.trade_no = trade_no)

end CommissionLogRepository

namespace PaymentRepository

def getEnabledById (payment_id : Int) : Db (Option Payment) := do
  scalarOneOrNone (← Prog.select Tbl.payment fun (p : Payment) => p.id = payment_id && p.enable)

def getByUuid (uuid : String) : Db (Option Payment) := do
  scalarOneOrNone (← Prog.select Tbl.payment fun (p : Payment) => p.uuid = uuid)

end PaymentRepository

namespace SettingRepository

def getByKey (key : String) : Db (Option Setting) := do
  scalarOneOrNone (← Prog.select Tbl.setting fun (s : Setting) => s.key = key)

end SettingRepository

namespace ServerV2NodeRepository

/-- `ORDER BY sort ASC NULLS LAST, id ASC`. -/
def inOrder (a b : ServerV2Node) : Bool :=
  match a.sort, b.sort with
  | some x, some y => x < y || (x = y && a.id ≤ b.id)
  | some _, none => true
  | none, some _ => false
  | none, none => a.id ≤ b.id

/-- Does the value, read as a list or one integer, contain the group? -/
def parsedContains (rt : Runtime) (group_id : Int) : Json → Bool
  | .int i => i = group_id
  | .bool b => (if b then 1 else 0) = group_id
  | .arr items => toString group_id ∈ items.map rt.str
  | _ => false

/-- `_group_contains`. -/
def groupContains (rt : Runtime) (raw_group_id : Json) (group_id : Int) : Bool :=
  match raw_group_id with
  | .int i => parsedContains rt group_id (.int i)
  | .bool b => parsedContains rt group_id (.bool b)
  | .arr items => parsedContains rt group_id (.arr items)
  | raw =>
      let value := if raw.truthy then rt.str raw else ""
      if value = toString group_id then true
      else
        match rt.orjson_loads value with
        | some parsed => parsedContains rt group_id parsed
        | none =>
            toString group_id ∈
              (value.toList.splitOn ',').map fun l => rt.strip (String.ofList l)

def getById (id : Int) : Db (Option ServerV2Node) := Prog.get Tbl.server_v2node id

/-- 查询用户分组可见节点。 -/
def listVisibleByGroup (rt : Runtime) (group_id : Option Int) : Db (List ServerV2Node) := do
  match group_id with
  | none => return []
  | some group_id =>
    let nodes ← Prog.select Tbl.server_v2node fun (n : ServerV2Node) => n.show
    return (nodes.mergeSort inOrder).filter fun n => groupContains rt n.group_id group_id

end ServerV2NodeRepository

namespace ServerRouteRepository

/-- 按传入 ID 顺序返回路由规则。 -/
def getByIdsOrdered (route_ids : List Int) : Db (List ServerRoute) := do
  if route_ids.isEmpty then return []
  else
    liftExcept (bindIntegers route_ids 0)
    let routes ← Prog.select Tbl.server_route fun (r : ServerRoute) => r.id ∈ route_ids
    return route_ids.filterMap fun id => routes.find? fun (r : ServerRoute) => r.id = id

end ServerRouteRepository

end PyBoard
