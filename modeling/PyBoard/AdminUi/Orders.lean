/-
  PyBoard.AdminUi.Orders — the order actions of the admin pages.
-/
import PyBoard.AdminUi.Deps
import PyBoard.Services.Order

namespace PyBoard.AdminUi

open Relational

variable (rt : Runtime)

/-- `orders_table_response`: the list of orders is read once more. -/
def ordersTableResponse : Db Page := do
  let _orders ← Prog.select Tbl.orders fun _ => true
  return .table

/-- `order_assign_from_form`. -/
def orderAssignFromForm (form : Form) : Except PyExc OrderService.AdminOrderAssign := do
  let plan_id ← requiredInt rt (form.get "plan_id")
  let total_amount ← intOrNone rt (form.get "total_amount")
  return { email := orEmpty (form.get "email"), plan_id := plan_id,
           period := orEmpty (form.get "period"), total_amount := total_amount.getD 0 }

/-- `assign_order_action`. -/
def assignOrderAction (fresh : Fresh) (request : Request) : Db Page :=
  action rt request fun form =>
    orFormError
      (do
        let data ← liftExcept (orderAssignFromForm rt form)
        let _trade_no ← OrderService.adminAssignOrder fresh data)
      ordersTableResponse

/-- `mark_order_paid_action`. -/
def markOrderPaidAction (fresh : Fresh) (trade_no : String) (request : Request)
    (settings : SettingSource := .stored) : Db Page :=
  action rt request fun _ =>
    orActionError (OrderService.adminMarkPaid rt fresh trade_no settings) ordersTableResponse

/-- `cancel_order_action`. -/
def cancelOrderAction (trade_no : String) (request : Request) : Db Page :=
  action rt request fun _ =>
    orActionError (OrderService.adminCancelOrder trade_no) ordersTableResponse

end PyBoard.AdminUi
