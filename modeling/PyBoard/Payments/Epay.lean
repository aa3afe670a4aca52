/-
  PyBoard.Payments.Epay — the EPay driver.

  A request and a notification are signed in the same way: the pairs that have a value are
  sorted by name and written as a form, the form is decoded again as a whole and stripped of
  slashes, as the PHP version does, and the key is appended before the digest is taken.
-/
import Mathlib.Data.List.Sort
import PyBoard.Python.DecimalText
import PyBoard.Python.Runtime
import PyBoard.Python.Url

namespace PyBoard

/-- What the driver calls. -/
structure EpayLibs where
  /-- `hashlib.md5(data).hexdigest()`. -/
  md5_hexdigest : List Nat → PyStr
  /-- `str(value)` of a float, a list or a dict. -/
  repr : PyJson → PyStr
  /-- `Decimal(text)`; `none` is InvalidOperation or ValueError. -/
  decimal_of_str : PyStr → Option Decimal

/-- EPay 易支付网关: `self` after `__init__`. -/
structure EPay where
  url : PyJson
  pid : PyJson
  key : PyJson
  pay_type : PyJson

/-- 支付回调验证结果, as the notification gives it. -/
structure EpayNotifyResult where
  success : Bool
  trade_no : PyJson := .str []
  callback_no : PyJson := .str []
  paid_amount : Option Int := none

namespace EPay

/-! ## §1. The signature. -/

/-- A name or a value of the driver. -/
def text (s : String) : PyStr := PyStr.ofString s

variable (libs : EpayLibs)

/-- `str(value)`. -/
def str : PyJson → PyStr
  | .str s => s
  | .int i => text (toString i)
  | .bool b => text (if b then "True" else "False")
  | .null => text "None"
  | value => libs.repr value

/-- `value in ("", None)`. -/
def isBlank : PyJson → Bool
  | .null => true
  | .str s => s.isEmpty
  | _ => false

/-- `key in ("sign", "sign_type")`. -/
def isSignature (name : PyStr) : Bool := name = text "sign" || name = text "sign_type"

/-- `sign_params`. -/
def signParams (params : List (PyStr × PyJson)) : List (PyStr × PyJson) :=
  params.filter fun item => !isSignature item.1 && !isBlank item.2

/-- The order of texts by their code points. -/
def textLe : PyStr → PyStr → Bool
  | [], _ => true
  | _ :: _, [] => false
  | a :: l, b :: l' => a < b || (a = b && textLe l l')

/-- `sorted(items)`: the names differ, so the values are never compared. -/
def sortedItems (items : List (PyStr × PyJson)) : List (PyStr × PyJson) :=
  items.insertionSort fun a b => textLe a.1 b.1

/-- A character that a slash may stand before. -/
def isSlashed (c : CodePoint) : Bool := c = 0x5C || c = 0x27 || c = 0x22

/-- 模拟 PHP stripslashes 对签名字符串的处理。 -/
def phpStripslashes : PyStr → PyStr
  | [] => []
  | [c] => [c]
  | c :: d :: rest =>
      if c = 0x5C ∧ isSlashed d then d :: phpStripslashes rest
      else c :: phpStripslashes (d :: rest)

/-- `param_str`. -/
def paramStr (params : List (PyStr × PyJson)) : Except PyExc PyStr := do
  let sorted_params := sortedItems (signParams params)
  let param_str ← Url.urlencode (sorted_params.map fun item => (item.1, str libs item.2))
  return phpStripslashes (Url.unquotePlus param_str)

/-- `sign_str`. -/
def signStr (self : EPay) (params : List (PyStr × PyJson)) : Except PyExc PyStr := do
  let param_str ← paramStr libs params
  match self.key with
  | .str key => return param_str ++ key
  | _ => .error (.other "TypeError")

/-- 按 EPay/PHP 版规则生成 MD5 签名。 -/
def generateSign (self : EPay) (params : List (PyStr × PyJson)) : Except PyExc PyStr := do
  let sign_str ← signStr libs self params
  let bytes ← Utf8.encode sign_str
  return libs.md5_hexdigest bytes

/-! ## §2. Amounts. -/

/-- 将分转换为 EPay 使用的元字符串: the quotient in the precision of the context, without
    trailing zeros. -/
def centsToMoney (cents : Int) : String :=
  let excess := Decimal.digits cents.natAbs - Decimal.prec
  let n := Decimal.roundHalfEven cents.natAbs excess * 10 ^ excess
  let sign := if cents < 0 then "-" else ""
  let fraction :=
    if n % 100 = 0 then ""
    else if n % 10 = 0 then "." ++ Nat.repr (n % 100 / 10)
    else "." ++ Nat.repr (n % 100 / 10) ++ Nat.repr (n % 10)
  sign ++ Nat.repr (n / 100) ++ fraction

/-- The same text, in the operations of the module `decimal`. -/
def centsToMoneySteps (cents : Int) : Except PyExc String := do
  let amount ← (Decimal.ofInt cents).div (.ofInt 100)
  return amount.normalize.formatF

/-- 将 EPay 回调里的元金额转换为分。 -/
def moneyToCents (money : PyJson) : Except PyExc (Option Int) :=
  match libs.decimal_of_str (str libs money) with
  | none => .ok none
  | some amount => do
    let cents ← (← amount.mul (.ofInt 100)).quantizeUnit
    if ← cents.isNegative then return none
    else return some (← cents.toInt)

/-! ## §3. The payment. -/

/-- `params` before the signature. -/
def payParams (self : EPay) (request : PaymentRequest) : List (PyStr × PyJson) :=
  [(text "money", .str (text (centsToMoney request.total_amount))),
    (text "name", .str (text request.trade_no)),
    (text "notify_url", .str (text request.notify_url)),
    (text "return_url", .str (text request.return_url)),
    (text "out_trade_no", .str (text request.trade_no)), (text "pid", self.pid)] ++
    if self.pay_type.truthy then [(text "type", self.pay_type)] else []

/-- The sign that `pay` puts into the URL. -/
def paySign (self : EPay) (request : PaymentRequest) : Except PyExc PyStr :=
  generateSign libs self (payParams self request)

/-- 生成支付参数: the URL. -/
def pay (self : EPay) (request : PaymentRequest) : Except PyExc PyStr := do
  let sign ← paySign libs self request
  let params := payParams self request ++
    [(text "sign", .str sign), (text "sign_type", .str (text "MD5"))]
  let query ← Url.urlencode (params.map fun item => (item.1, str libs item.2))
  return str libs self.url ++ text "/submit.php?" ++ query.map (Fin.ofNat 0x110000)

/-! ## §4. The notification. -/

/-- `hmac.compare_digest(a, b)`. -/
def hashEquals (a : PyStr) : PyJson → Except PyExc Bool
  | .str b => if a.isascii ∧ b.isascii then .ok (a = b) else .error (.other "TypeError")
  | _ => .error (.other "TypeError")

/-- `verify_params`. -/
def verifyParams (params : PyDict) : List (PyStr × PyJson) :=
  params.items.filter fun item => !isSignature item.1

/-- 验证回调签名。 -/
def verifyNotify (self : EPay) (params : PyDict) : Except PyExc EpayNotifyResult := do
  let sign := params.getD (text "sign") (.str [])
  let generated_sign ← generateSign libs self (verifyParams params)
  if !(← hashEquals generated_sign sign) then return { success := false }
  else if self.pid.truthy ∧ str libs (params.getD (text "pid") (.str [])) ≠ str libs self.pid then
    return { success := false }
  else if !(params.getD (text "trade_status") (.str [])).isText (text "TRADE_SUCCESS") then
    return { success := false }
  else
    let out_trade_no := params.getD (text "out_trade_no") (.str [])
    let trade_no := params.getD (text "trade_no") (.str [])
    let paid_amount ← moneyToCents libs (params.getD (text "money") .null)
    if !out_trade_no.truthy ∨ !trade_no.truthy ∨ paid_amount.isNone then
      return { success := false }
    else
      return { success := true, trade_no := out_trade_no, callback_no := trade_no,
               paid_amount := paid_amount }

end EPay

end PyBoard
