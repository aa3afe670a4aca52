/-
  PyBoard.Controllers.Payment — the notification endpoint with the EPay driver.

  The posted object is decoded by `json.loads`, so its texts may hold surrogates and
  its values may be of any type and of any depth.  The interpreter follows arrays and
  objects inside each other to a limit only.  EPay is the only registered driver.  A text
  that the database does not take is refused when it is bound to a query.
-/
import PyBoard.Payments.Epay
import PyBoard.Services.Order

namespace PyBoard

open Relational

/-! ## §1. The request. -/

/-- `sys.int_info.default_max_str_digits`. -/
def MAX_STR_DIGITS : Nat := 4300

mutual

/-- Every integer has few enough digits to be converted. -/
def PyJson.digitsFit : PyJson → Bool
  | .int i => Decimal.digits i.natAbs ≤ MAX_STR_DIGITS
  | .arr items => PyJson.itemsFit items
  | .obj fields => PyJson.fieldsFit fields
  | _ => true

def PyJson.itemsFit : List PyJson → Bool
  | [] => true
  | item :: items => item.digitsFit && PyJson.itemsFit items

def PyJson.fieldsFit : List (PyStr × PyJson) → Bool
  | [] => true
  | (_, value) :: fields => value.digitsFit && PyJson.fieldsFit fields

end

mutual

/-- How many arrays and objects stand inside each other. -/
def PyJson.depth : PyJson → Nat
  | .arr items => PyJson.itemsDepth items + 1
  | .obj fields => PyJson.fieldsDepth fields + 1
  | _ => 0

def PyJson.itemsDepth : List PyJson → Nat
  | [] => 0
  | item :: items => max item.depth (PyJson.itemsDepth items)

def PyJson.fieldsDepth : List (PyStr × PyJson) → Nat
  | [] => 0
  | (_, value) :: fields => max value.depth (PyJson.fieldsDepth fields)

end

/-- How deep the recursion limit lets the handler go into arrays and objects. -/
structure Nesting where
  /-- In `json.loads`. -/
  loads : Nat
  /-- In `str` of a list or a dict. -/
  str : Nat

/-- `await request.json()` of an object.  An integer that is too long is a `ValueError`, and
    arrays and objects that are too deep are a `RecursionError`; none is a
    `JSONDecodeError`. -/
def requestJson (nesting : Nesting) (body : PyDict) : Except PyExc PyDict :=
  if !PyJson.fieldsFit body.items then
    .error (.value "Exceeds the limit (4300 digits) for integer string conversion")
  else if nesting.loads < PyJson.fieldsDepth body.items + 1 then
    .error (.other "RecursionError")
  else .ok body

/-- A value bound to a VARCHAR column of a length, or compared with one: asyncpg takes texts
    only, and PostgreSQL none with a zero byte. -/
def textParam (length : Option Nat) : PyJson → Except PyExc String
  | .str s =>
      match PyStr.toString? s with
      | none => .error (.other "DBAPIError")
      | some t =>
          if (0 : CodePoint) ∈ s ∨ length.any (· < s.length) then .error (.other "DBAPIError")
          else .ok t
  | _ => .error (.other "DBAPIError")

/-- `EPay(config)`. -/
def EPay.ofConfig (config : JsonDict) : EPay :=
  let get := fun key => PyJson.ofJson ((Json.lookup config key).getD (.str ""))
  { url := get "url", pid := get "pid", key := get "key", pay_type := get "type" }

/-! ## §2. The handler. -/

namespace PaymentController

variable (rt : Runtime) (libs : EpayLibs) (nesting : Nesting)

/-- `_process_paid_order(order, callback_no)`: a number that the column does not take is
    refused when the locked order is flushed. -/
def processNotified (fresh : Fresh) (order_id : Int) (callback_no : PyJson) : Db Unit :=
  match textParam (some 255) callback_no with
  | .ok callback_no =>
      OrderService.processPaidOrder rt fresh order_id (some callback_no) .cached
  | .error e => do
    let some locked_order ← OrderRepository.getByIdForUpdate order_id
      | Prog.throw (NotFoundException "订单不存在")
    if locked_order.status ≠ 0 ∧ locked_order.status ≠ 1 then return ()
    else Prog.throw e

/-- The part of `handle_payment_notify` after the driver has verified. -/
def settleNotify (fresh : Fresh) (payment : Payment) (notify : EpayNotifyResult) :
    Db String := do
  let trade_no ← liftExcept (textParam none notify.trade_no)
  let some order ← OrderRepository.getByTradeNo trade_no | return "fail"
  if order.payment_id ≠ some payment.id then return "fail"
  else if notify.paid_amount ≠ some (order.total_amount + order.handling_amount.getD 0) then
    return "fail"
  else if order.status ≠ 0 ∧ order.status ≠ 1 then return "success"
  else
    Prog.tryCatch
      (do processNotified rt fresh order.id notify.callback_no; return "success")
      (fun e => if e.isApp then do Prog.rollback; return "fail" else Prog.throw e)

/-- `gateway.verify_notify(params)`: the values that are signed are written by `str`. -/
def verifyNotify (self : EPay) (params : PyDict) : Except PyExc EpayNotifyResult :=
  if (EPay.signParams (EPay.verifyParams params)).any fun item => nesting.str < item.2.depth then
    .error (.other "RecursionError")
  else EPay.verifyNotify libs self params

/-- 处理支付回调。 -/
def handlePaymentNotify (fresh : Fresh) (gateway_name payment_uuid : String)
    (params : PyDict) : Db String := do
  let some payment ← PaymentRepository.getByUuid payment_uuid | return "fail"
  if !payment.enable then return "fail"
  else
    match OrderService.notifiedGateway rt gateway_name payment with
    | .error e => if e.isApp then return "fail" else Prog.throw e
    | .ok none => return "fail"
    | .ok (some (_, config)) =>
      let notify ← liftExcept (verifyNotify libs nesting (EPay.ofConfig config) params)
      if !notify.success then return "fail"
      else settleNotify rt fresh payment notify

/-- 支付网关 JSON 回调。 -/
def paymentNotify (fresh : Fresh) (gateway uuid : String) (body : PyDict) : Db String := do
  let params ← liftExcept (requestJson nesting body)
  handlePaymentNotify rt libs nesting fresh gateway uuid params

end PaymentController

end PyBoard
