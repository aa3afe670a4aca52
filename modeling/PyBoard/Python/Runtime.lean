/-
  PyBoard.Python.Runtime — what the services call outside the repository.

  Unicode tables of `str`, number syntax, the JSON decoder, the local time
  zone and the payment drivers are parameters of the model: every result
  holds whatever they answer.
-/
import PyBoard.Python.Decimal

namespace PyBoard

/-- The fields of a local `datetime` that month arithmetic reads. -/
structure LocalTime where
  year : Int
  month : Int
  day : Int
  /-- Seconds since local midnight. -/
  second : Int
  deriving DecidableEq, Repr

/-- 发起支付所需的标准参数。 -/
structure PaymentRequest where
  trade_no : String
  total_amount : Int
  notify_url : String
  return_url : String
  user_id : Option Int

/-- 支付回调验证结果。 -/
structure PaymentNotifyResult where
  success : Bool
  trade_no : String := ""
  callback_no : String := ""
  paid_amount : Option Int := none
  deriving DecidableEq

/-- A decoded JSON object. -/
abbrev JsonDict := List (String × Json)

/-- A registered payment driver. -/
structure PaymentGateway where
  gateway : String
  aliases : List String
  required_config : List String
  pay : JsonDict → PaymentRequest → Except PyExc Json
  verify_notify : JsonDict → JsonDict → Except PyExc PaymentNotifyResult

/-- The interpreter, its libraries and the registered drivers. -/
structure Runtime where
  /-- `str.strip`, `str.upper`, `str.lower`, `str.isdigit`, `str.isnumeric`. -/
  strip : String → String
  upper : String → String
  lower : String → String
  isdigit : String → Bool
  isnumeric : String → Bool
  /-- `int(text)` and `float(text)`; `none` is ValueError. -/
  int_of_str : String → Option Int
  float_of_str : String → Option PyFloat
  /-- `Decimal(text)`; `none` is InvalidOperation. -/
  decimal_of_str : String → Option Decimal
  /-- `str(value)` of a decoded JSON value. -/
  str_of_json : Json → String
  /-- `orjson.loads`; `none` is JSONDecodeError. -/
  orjson_loads : String → Option Json
  /-- `orjson.dumps(value).decode()`. -/
  orjson_dumps : Json → String
  /-- `orjson.dumps` of a list of integers. -/
  orjson_dumps_ints : List Int → String
  /-- The `bigint` that the JSONB text of a float stands for, zero when it is no integer. -/
  bigint_of_float : PyFloat → Int
  /-- `datetime.fromtimestamp` and `datetime.timestamp` in the local zone; `none`
      is a time outside the platform's range. -/
  fromtimestamp : Int → Option LocalTime
  timestamp : LocalTime → Option Int
  /-- `int(datetime.fromisoformat(text).timestamp())`. -/
  fromisoformat : String → Except PyExc Int
  /-- The subject of a bearer token that verifies at a time. -/
  decode_user_id : Int → String → Option Int
  gateways : List PaymentGateway

variable (rt : Runtime)

/-! ## §1. Text. -/

/-- `str(value)` of a JSON value. -/
def Runtime.str : Json → String
  | .str s => s
  | .int i => toString i
  | value => rt.str_of_json value

/-- A decimal notation belongs to one natural number. -/
theorem natRepr_injective {m n : Nat} (h : m.repr = n.repr) : m = n := by
  have hm : Nat.ofDigitChars 10 m.repr.toList 0 = m := by rw [Nat.toList_repr]; simp
  have hn : Nat.ofDigitChars 10 n.repr.toList 0 = n := by rw [Nat.toList_repr]; simp
  rw [← hm, h, hn]

/-- A decimal notation has no minus sign. -/
theorem minus_append_ne_natRepr (m : Nat) (s : String) : "-" ++ s ≠ m.repr := by
  intro h
  have hmem : '-' ∈ m.repr.toList := by
    rw [← h, String.toList_append]
    exact List.mem_cons_self
  rw [Nat.toList_repr] at hmem
  have hdigit := Nat.isDigit_of_mem_toDigits (by decide) (by decide) hmem
  revert hdigit
  decide

/-- `str` of an integer is read in one way. -/
theorem toString_int_injective {a b : Int} (h : toString a = toString b) : a = b := by
  cases a with
  | ofNat m =>
      cases b with
      | ofNat n => exact congrArg Int.ofNat (natRepr_injective h)
      | negSucc n => exact absurd h.symm (minus_append_ne_natRepr m _)
  | negSucc m =>
      cases b with
      | ofNat n => exact absurd h (minus_append_ne_natRepr n _)
      | negSucc n =>
          have hrepr : m.succ.repr = n.succ.repr := String.append_right_inj "-" |>.mp h
          have := natRepr_injective hrepr
          omega

/-- `text.split(sep, 1)` unpacked into two parts; `none` when there is one. -/
def splitOnce (sep : Char) (text : String) : Option (String × String) :=
  let l := text.toList
  let head := l.takeWhile (· ≠ sep)
  match l.drop head.length with
  | [] => none
  | _ :: tail => some (String.ofList head, String.ofList tail)

/-- `text.rstrip("/")`. -/
def rstripSlash (text : String) : String :=
  String.ofList (text.toList.reverse.dropWhile (· = '/')).reverse

/-- `[item.strip() for item in text.split(",") if item.strip()]`. -/
def splitCommas (text : String) : List String :=
  ((text.toList.splitOn ',').map fun l => rt.strip (String.ofList l)).filter (· ≠ "")

/-! ## §2. The calendar. -/

def isLeapYear (year : Int) : Bool :=
  year % 4 = 0 && (year % 100 ≠ 0 || year % 400 = 0)

/-- `calendar.monthrange(year, month)[1]`. -/
def monthrange (year month : Int) : Int :=
  if month = 2 then (if isLeapYear year then 29 else 28)
  else if month = 4 ∨ month = 6 ∨ month = 9 ∨ month = 11 then 30
  else 31

/-- `datetime.MAXYEAR`. -/
def MAXYEAR : Int := 9999

/-! ## §3. The driver registry. -/

/-- `_key`. -/
def gatewayKey (name : String) : String := rt.lower (rt.strip name)

/-- The names a driver is registered under. -/
def PaymentGateway.names (g : PaymentGateway) : List String :=
  g.gateway :: rt.lower g.gateway :: g.aliases

/-- `get_payment_gateway`.  A later registration takes over a name. -/
def getPaymentGateway (name : String) : Except PyExc PaymentGateway :=
  match rt.gateways.reverse.find?
      (fun g => (g.names rt).any fun n => gatewayKey rt n = gatewayKey rt name) with
  | some g => .ok g
  | none => .error (BadRequestException "支付网关不存在")

/-- `canonical_gateway_name`. -/
def canonicalGatewayName (name : String) : Except PyExc String :=
  (getPaymentGateway rt name).map (·.gateway)

/-- `route_gateway_name`. -/
def routeGatewayName (name : String) : Except PyExc String :=
  (getPaymentGateway rt name).map fun g => g.aliases.head?.getD (rt.lower g.gateway)

/-- `PaymentGateway.validate_config`. -/
def PaymentGateway.validateConfig (g : PaymentGateway) (config : JsonDict) :
    Except PyExc JsonDict :=
  let missing := g.required_config.filter fun k =>
    !((Json.lookup config k).map Json.truthy).getD false
  if missing.isEmpty then .ok config
  else .error (BadRequestException ("支付配置缺少字段: " ++ ", ".intercalate missing))

/-- `create_payment_gateway`: the driver and its checked configuration. -/
def createPaymentGateway (name : String) (config : JsonDict) :
    Except PyExc (PaymentGateway × JsonDict) := do
  let g ← getPaymentGateway rt name
  let parsed ← g.validateConfig config
  return (g, parsed)

end PyBoard
