/-
  PyBoard.Services.Removal — deletions that are refused while something refers to the row.

  The tables have no foreign keys.  A plan with orders or active users, a payment method with
  orders and a route with nodes are kept by a query before the DELETE.  The first query binds
  the identifier of the request as an INTEGER.  The `_int_list_cast` of the administration
  reads a column as that of the node API does.
-/
import PyBoard.Services.Server

namespace PyBoard

open Relational

variable (rt : Runtime)

/-- `int(select(func.count()).select_from(…).where(…)) > 0`. -/
def existsRow (t : Tbl) (p : t.Row → Bool) : Db Bool := do
  let rows ← Prog.select t p
  return 0 < rows.length

/-- `BaseRepository.delete`: a row that is gone already is no error. -/
def deleteRow (t : Tbl) (row : t.Row) : Db Unit := do
  let _found ← Prog.delete t (t.key row)
  return ()

/-! ## §1. Plans. -/

/-- 检查套餐下是否存在订单（用于删除校验）。 -/
def PlanRepository.hasOrders (plan_id : Int) : Db Bool :=
  existsRow .orders fun (o : Order) => o.plan_id = plan_id

/-- The WHERE clause of `has_active_users`. -/
def PlanRepository.isActiveUserOf (plan_id now : Int) (u : User) : Bool :=
  u.plan_id = some plan_id && ServerService.notExpired now u.expired_at

/-- 检查套餐下是否存在活跃用户（用于删除校验）。 -/
def PlanRepository.hasActiveUsers (plan_id : Int) : Db Bool := do
  let now ← time
  existsRow .users (PlanRepository.isActiveUserOf plan_id now)

/-- 安全删除套餐 —— 有订单或活跃用户时拒绝删除。 -/
def PlanService.delete (plan_id : Int) : Db Unit := do
  liftExcept (bindIntegers [plan_id] 0)
  if ← PlanRepository.hasOrders plan_id then
    Prog.throw (ConflictException "该套餐下存在订单，无法删除")
  else
    if ← PlanRepository.hasActiveUsers plan_id then
      Prog.throw (ConflictException "该套餐下存在活跃用户，无法删除")
    else
      match ← PlanRepository.getById plan_id with
      | none => Prog.throw (NotFoundException ("套餐 " ++ toString plan_id ++ " 不存在"))
      | some plan => deleteRow .plan plan

/-! ## §2. Payment methods. -/

/-- 检查支付方式是否已被订单引用。 -/
def PaymentRepository.hasOrders (payment_id : Int) : Db Bool :=
  existsRow .orders fun (o : Order) => o.payment_id = some payment_id

/-- 删除支付方式。 -/
def PaymentService.deletePayment (payment_id : Int) : Db Unit := do
  liftExcept (bindIntegers [payment_id] 0)
  match ← Prog.get Tbl.payment payment_id with
  | none => Prog.throw (NotFoundException "支付方式不存在")
  | some payment =>
    if ← PaymentRepository.hasOrders payment_id then
      Prog.throw (ConflictException "该支付方式已被订单引用，无法删除")
    else deleteRow .payment payment

/-! ## §3. Routes. -/

namespace ServerAdminService

/-- `route_id in _int_list_cast(node.route_id)` for every node, in the order of the list. -/
def nodesInRoute (route_id : Int) (nodes : List ServerV2Node) : Except PyExc (List Bool) :=
  (nodes.mergeSort ServerV2NodeRepository.inOrder).mapM fun node =>
    (intListCast rt node.route_id).map fun ids => decide (route_id ∈ ids)

/-- `_count_nodes_in_route`. -/
def countNodesInRoute (route_id : Int) : Db Nat := do
  let nodes ← Prog.select Tbl.server_v2node fun _ => true
  let used ← liftExcept (nodesInRoute rt route_id nodes)
  return used.count true

def deleteRoute (route_id : Int) : Db Unit := do
  liftExcept (bindIntegers [route_id] 0)
  match ← Prog.get Tbl.server_route route_id with
  | none => Prog.throw (NotFoundException "路由不存在")
  | some route =>
    let count ← countNodesInRoute rt route_id
    if count ≠ 0 then Prog.throw (ConflictException "该路由已被节点所使用，无法删除")
    else deleteRow .server_route route

end ServerAdminService

/-- A guarded deletion. -/
inductive Removal
  | plan (plan_id : Int)
  | payment (payment_id : Int)
  | route (route_id : Int)

def Removal.prog : Removal → Db Unit
  | .plan plan_id => PlanService.delete plan_id
  | .payment payment_id => PaymentService.deletePayment payment_id
  | .route route_id => ServerAdminService.deleteRoute rt route_id

end PyBoard
