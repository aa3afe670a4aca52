/-
  PyBoard.Operations — the requests and jobs that move orders and wallets.

  One transaction is one request (`get_db` commits when its handler returns and
  rolls back when it raises) or one job of the queue.  Whatever a request draws
  from the database sequences or at random comes with it in `Fresh`.  A call reads a setting
  from its row.  A request of the source asks the runtime cache first: which copy it may
  find there is the subject of `PyBoard.Results.Settings`, and the openings that read
  behind the cache are those of `PyBoard.Specs.Instant` and `PyBoard.Controllers.Payment`.
-/
import PyBoard.AdminUi.Orders
import PyBoard.Queues.Order
import PyBoard.Services.Giftcard
import PyBoard.Relational.ReadCommitted

namespace PyBoard

open Relational

/-- A request or a job. -/
inductive Op
  | createOrder (user_id : Int) (data : OrderService.OrderCreate)
  | checkout (user_id : Int) (trade_no : String) (method : Int)
  | cancelOrder (trade_no : String) (user_id : Int)
  | paymentNotify (gateway_name payment_uuid : String) (params : JsonDict)
  | adminMarkPaid (trade_no : String)
  | adminCancelOrder (trade_no : String)
  | adminAssignOrder (data : OrderService.AdminOrderAssign)
  | adminUpdateOrder (data : OrderService.AdminOrderUpdate)
  /-- The actions of the admin pages. -/
  | markOrderPaidAction (trade_no : String) (request : AdminUi.Request)
  | cancelOrderAction (trade_no : String) (request : AdminUi.Request)
  | assignOrderAction (request : AdminUi.Request)
  /-- The jobs of the queue. -/
  | orderHandle (trade_no : String)
  | calcCommission (order_id : Int)
  | redeem (user_id : Int) (code : String)
  | transferCommission (user_id amount : Int)

/-- A started request or job with its draws. -/
structure Call where
  op : Op
  fresh : Fresh

variable (rt : Runtime)

/-- The answer is dropped. -/
def void {α : Type} (p : Db α) : Db Unit := do
  let _answer ← p
  return ()

/-- **The transaction of a call.** -/
def Call.prog (c : Call) : Db Unit :=
  match c.op with
  | .createOrder user_id data => void (OrderService.createOrder rt c.fresh user_id data)
  | .checkout user_id trade_no method =>
      void (OrderService.checkout rt c.fresh user_id trade_no method)
  | .cancelOrder trade_no user_id => OrderService.cancelOrder trade_no user_id
  | .paymentNotify gateway_name payment_uuid params =>
      void (OrderService.handlePaymentNotify rt c.fresh gateway_name payment_uuid params)
  | .adminMarkPaid trade_no => OrderService.adminMarkPaid rt c.fresh trade_no
  | .adminCancelOrder trade_no => OrderService.adminCancelOrder trade_no
  | .adminAssignOrder data => void (OrderService.adminAssignOrder c.fresh data)
  | .adminUpdateOrder data => OrderService.adminUpdateOrder data
  | .markOrderPaidAction trade_no request =>
      void (AdminUi.markOrderPaidAction rt c.fresh trade_no request)
  | .cancelOrderAction trade_no request =>
      void (AdminUi.cancelOrderAction rt trade_no request)
  | .assignOrderAction request => void (AdminUi.assignOrderAction rt c.fresh request)
  | .orderHandle trade_no => Queues.orderHandle rt c.fresh trade_no
  | .calcCommission order_id => Queues.calcCommission rt c.fresh order_id
  | .redeem user_id code => GiftcardService.redeem rt c.fresh user_id code
  | .transferCommission user_id amount =>
      InviteService.transferCommission c.fresh user_id amount

/-- Interleaved runs of calls. -/
abbrev Server := Config Call Tbl PyExc Unit

/-- The server with a database at a time, before anything runs. -/
def Server.start (db : Database) (now : Int) : Server := Config.quiet ⟨db, now⟩

/-- Reachable by interleaved calls under a condition. -/
abbrev Runs (C : Cond Call Tbl) : Server → Server → Prop := Reaches (Call.prog rt) C

end PyBoard
