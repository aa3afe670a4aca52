/-
  PyBoard.AdminUi.Deps — what every action of the admin pages does first.

  A request carries its cookies, its headers and the decoded form.  The
  administrator is looked up from the token cookie, the CSRF token is compared,
  and the fields of the form are converted; a `ValueError` of a conversion and
  an `AppException` of the service become the error fragment.  The fragments
  themselves are left out, except for which one it is and its message.
-/
import PyBoard.Python.IsoFormat
import PyBoard.Repositories.Queries

namespace PyBoard.AdminUi

open Relational

variable (rt : Runtime)

/-- A decoded form: `parse_qs` keeps the last value of each key. -/
abbrev Form := List (String × String)

/-- A request to an admin action. -/
structure Request where
  /-- The cookies `admin_token` and `admin_csrf`. -/
  token : Option String
  csrf_cookie : Option String
  /-- The header `x-csrf-token`. -/
  csrf_header : Option String
  /-- `none` is a body that is not UTF-8. -/
  form : Option Form

/-- What an action answers. -/
inductive Page
  | unauthorized_fragment
  | action_error (message : String)
  | table
  deriving DecidableEq

/-- `form.get(key)`. -/
def Form.get (form : Form) (key : String) : Option String :=
  (form.reverse.find? fun f => f.1 = key).map (·.2)

/-- `value or ""` of an optional text. -/
def orEmpty (value : Option String) : String := value.getD ""

/-- `blank_none`. -/
def blankNone (value : Option String) : Option String :=
  let value := rt.strip (orEmpty value)
  if value = "" then none else some value

/-- `int(text)`. -/
def intOf (text : String) : Except PyExc Int :=
  match rt.int_of_str text with
  | some i => .ok i
  | none => .error (.value "invalid literal for int()")

/-- `int_or_none`. -/
def intOrNone (value : Option String) : Except PyExc (Option Int) :=
  let value := rt.strip (orEmpty value)
  if value = "" then .ok none else (intOf rt value).map some

/-- `required_int`. -/
def requiredInt (value : Option String) : Except PyExc Int := do
  match ← intOrNone rt value with
  | some i => return i
  | none => .error (.value "必填数字字段不能为空")

/-- `datetime_or_none`. -/
def datetimeOrNone (value : Option String) : Except PyExc (Option Int) :=
  let value := rt.strip (orEmpty value)
  if value = "" then .ok none
  else if rt.isdigit value then (intOf rt value).map some
  else
    match rt.fromisoformat value with
    | .ok i => .ok (some i)
    | .error (.value _) => .error (.value "时间格式不正确")
    | .error e => .error e

/-- `as_bool`. -/
def asBool (value : Option String) : Bool :=
  rt.lower (orEmpty value) ∈ ["1", "true", "on", "yes"]

/-- `_timestamp_or_none`.  No column holds a `datetime`. -/
def timestampOrNone : Json → Except PyExc (Option Int)
  | .null => .ok none
  | .int i => .ok (some i)
  | .bool b => .ok (some (if b then 1 else 0))
  | .float x => x.toInt.map some
  | value =>
    let text := rt.strip (rt.str value)
    if text = "" then .ok none
    else if rt.isdigit (String.ofList (text.toList.dropWhile (· = '-'))) then
      (intOf rt text).map some
    else .ok none

/-- `datetime_input_value`. -/
def datetimeInputValue (value : Json) : Except PyExc String := do
  match ← timestampOrNone rt value with
  | none => return ""
  | some timestamp =>
    if timestamp ≤ 0 then return ""
    else
      match rt.fromtimestamp timestamp with
      | none => .error (.value "year is out of range")
      | some dt => return strftimeMinute dt

/-- `current_admin`: the `id` of the administrator the token names. -/
def currentAdmin (request : Request) : Db (Option Int) := do
  match request.token with
  | none => return none
  | some token =>
    if token = "" then return none
    else
      let now ← time
      match rt.decode_user_id now token with
      | none => return none
      | some user_id =>
        match ← UserRepository.getById user_id with
        | none => return none
        | some user => return if user.banned ∨ !user.is_admin then none else some user.id

/-- `form_data`. -/
def formData (request : Request) : Db Form :=
  match request.form with
  | some form => return form
  | none => Prog.throw (.value "UnicodeDecodeError")

/-- Only ASCII texts can be compared by `secrets.compare_digest`. -/
def isAscii (text : String) : Bool := text.toList.all fun c => c.toNat < 128

/-- `a or b` of two optional texts: an empty text counts as missing. -/
def orText (a b : Option String) : String :=
  if orEmpty a = "" then orEmpty b else orEmpty a

/-- `valid_csrf`. -/
def validCsrf (request : Request) (form : Form) : Except PyExc Bool :=
  let cookie_token := orEmpty request.csrf_cookie
  let submitted := orText request.csrf_header (form.get "csrf_token")
  if cookie_token = "" ∨ submitted = "" then .ok false
  else if !isAscii cookie_token ∨ !isAscii submitted then .error (.other "TypeError")
  else .ok (cookie_token = submitted)

/-- `validation_error_message` of a `ValueError`. -/
def validationErrorMessage (msg : String) : String :=
  if msg = "" then "表单参数不正确" else msg

/-- `except AppException as exc: return action_error(request, exc.detail)`. -/
def orActionError (service : Db Unit) (response : Db Page) : Db Page := do
  let error ← Prog.tryCatch (do service; return none) fun e =>
    match e with
    | .app _ detail => return some detail
    | e => Prog.throw e
  match error with
  | some detail => return .action_error detail
  | none => response

/-- The same with `except (ValidationError, ValueError)` before it. -/
def orFormError (service : Db Unit) (response : Db Page) : Db Page := do
  let error ← Prog.tryCatch (do service; return none) fun e =>
    match e with
    | .app _ detail => return some detail
    | .value msg => return some (validationErrorMessage msg)
    | e => Prog.throw e
  match error with
  | some detail => return .action_error detail
  | none => response

/-- An action of an administrator with a valid CSRF token. -/
def action (request : Request) (run : Form → Db Page) : Db Page := do
  match ← currentAdmin rt request with
  | none => return .unauthorized_fragment
  | some _ =>
    let form ← formData request
    if ← liftExcept (validCsrf request form) then run form
    else return .action_error "CSRF 校验失败"

end PyBoard.AdminUi
