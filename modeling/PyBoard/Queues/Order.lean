/-
  PyBoard.Queues.Order — the jobs about one order.
-/
import PyBoard.Services.Order

namespace PyBoard.Queues

open Relational

variable (rt : Runtime)

/-- 处理订单状态：超过 2 小时未支付的取消，已支付的开通。 -/
def orderHandle (fresh : Fresh) (trade_no : String) : Db Unit := do
  let some order ← OrderRepository.getByTradeNo trade_no | return ()
  if order.status = 0 then
    let now ← time
    whenever (order.created_at ≤ now - 3600 * 2)
      (save .orders order { order with status := 2 })
  else if order.status = 1 then
    OrderService.processPaidOrder rt fresh order.id none
  else
    return ()

/-- 计算订单佣金。 -/
def calcCommission (fresh : Fresh) (order_id : Int) : Db Unit := do
  let some order ← OrderRepository.getById order_id | return ()
  CommissionService.calculateForOrder rt fresh order.id

end PyBoard.Queues
