/-
  PyBoard.Python.Utc — an interpreter for ASCII texts in the UTC zone.

  The calendar is computed by counting the days of 400-year eras, and texts are
  converted character by character.  Hashes are empty texts.  It runs the model on
  concrete requests; no general result is about it.
-/
import PyBoard.Python.Formats

namespace PyBoard.Utc

/-! ## §1. The calendar. -/

/-- The local date of a number of days since 1970-01-01. -/
def dateOfDays (days : Int) : Int × Int × Int :=
  let z := days + 719468
  let era := z / 146097
  let doe := z % 146097
  let yoe := (doe - doe / 1460 + doe / 36524 - doe / 146096) / 365
  let doy := doe - (365 * yoe + yoe / 4 - yoe / 100)
  let mp := (5 * doy + 2) / 153
  let day := doy - (153 * mp + 2) / 5 + 1
  let month := if mp < 10 then mp + 3 else mp - 9
  let year := yoe + era * 400 + if month ≤ 2 then 1 else 0
  (year, month, day)

/-- The number of days since 1970-01-01 of a date. -/
def daysOfDate (year month day : Int) : Int :=
  let y := if month ≤ 2 then year - 1 else year
  let era := y / 400
  let yoe := y % 400
  let mp := if month > 2 then month - 3 else month + 9
  let doy := (153 * mp + 2) / 5 + day - 1
  let doe := yoe * 365 + yoe / 4 - yoe / 100 + doy
  era * 146097 + doe - 719468

/-- `datetime.fromtimestamp`, for the years that `datetime` has. -/
def fromtimestamp (ts : Int) : Option LocalTime :=
  let (year, month, day) := dateOfDays (ts / 86400)
  if year < 1 ∨ MAXYEAR < year then none
  else some { year := year, month := month, day := day, second := ts % 86400 }

/-- `datetime.timestamp`. -/
def timestamp (dt : LocalTime) : Option Int :=
  some (daysOfDate dt.year dt.month dt.day * 86400 + dt.second)

example : fromtimestamp 1709164800 = some ⟨2024, 2, 29, 0⟩ := by decide

/-! ## §2. Texts. -/

def isSpace (c : Char) : Bool :=
  c = ' ' || c = '\t' || c = '\n' || c = '\r'

def strip (text : String) : String :=
  String.ofList
    (((text.toList.dropWhile isSpace).reverse.dropWhile isSpace).reverse)

def upper (text : String) : String := String.ofList (text.toList.map Char.toUpper)

def lower (text : String) : String := String.ofList (text.toList.map Char.toLower)

def isdigit (text : String) : Bool := !text.toList.isEmpty && text.toList.all Char.isDigit

/-- The value of a text of decimal digits. -/
def digits (l : List Char) : Option Nat :=
  if l.isEmpty ∨ !l.all Char.isDigit then none
  else some (l.foldl (fun n c => 10 * n + (c.toNat - '0'.toNat)) 0)

/-- `int(text)`. -/
def intOfStr (text : String) : Option Int :=
  match (strip text).toList with
  | '-' :: l => (digits l).map fun n => -(n : Int)
  | l => (digits l).map fun n => (n : Int)

/-- The decimal notation of an integer. -/
def strOfInt (i : Int) : String := toString i

/-- The interpreter, with the JSON texts it can decode, the tokens that verify and
    the registered drivers. -/
def runtime (loads : String → Option Json) (decode_user_id : Int → String → Option Int)
    (gateways : List PaymentGateway) : Runtime where
  strip := strip
  upper := upper
  lower := lower
  isdigit := isdigit
  isnumeric := isdigit
  int_of_str := intOfStr
  float_of_str text := (intOfStr text).map fun i => .ofRat i
  decimal_of_str text := (intOfStr text).map .ofInt
  str_of_json
    | .str s => s
    | .int i => strOfInt i
    | .bool b => if b then "True" else "False"
    | _ => "None"
  orjson_loads := loads
  orjson_dumps _ := "null"
  orjson_dumps_ints l := "[" ++ ",".intercalate (l.map strOfInt) ++ "]"
  bigint_of_float _ := 0
  fromtimestamp := fromtimestamp
  timestamp := timestamp
  fromisoformat _ := .error (.value "Invalid isoformat string")
  decode_user_id := decode_user_id
  gateways := gateways

/-- The interpreter without tokens, drivers or JSON texts. -/
def bare : Runtime := runtime (fun _ => none) (fun _ _ => none) []

end PyBoard.Utc

namespace PyBoard

/-- Formats for runs on fixed inputs. -/
def plainFormats : Formats where
  md5_hexdigest _ := ""
  sha1_hexdigest _ := ""
  hmac_sha1_hexdigest _ _ := ""
  ip_version _ := none
  quote text := text
  unquote text := text
  strftime _ _ := ""
  round2 x := x
  fixed2 _ := ""
  split text := [text]
  render _ _ := .ok ""
  jwt_encode _ _ := ""

end PyBoard
