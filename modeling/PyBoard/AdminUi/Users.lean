/-
  PyBoard.AdminUi.Users — the login form and the user actions of the admin pages.

  The login form and the creation form pass through the validators of their request bodies.
  Of the table of users only what can fail is kept: its filters are numbers and digits in a
  text.
-/
import PyBoard.AdminUi.Forms
import PyBoard.Services.Account

namespace PyBoard

open Relational

variable (rt : Runtime) (fm : Formats)

/-! ## §1. Request bodies. -/

/-- `normalize_email`, with the message of the ValidationError. -/
def normalizeEmail (value : String) : Except PyExc String :=
  let value := rt.lower (rt.strip value)
  if '@' ∈ value.toList then .ok value else .error (.value "Value error, 邮箱格式不正确")

/-- `validate_password`, with the message of the ValidationError. -/
def validatePassword (value : String) : Except PyExc String :=
  if value.length < 8 then .error (.value "Value error, 密码长度至少 8 位") else .ok value

/-- `UserCreate(email=…, password=…)`. -/
def AuthService.UserCreate.validated (email password : String) :
    Except PyExc AuthService.UserCreate := do
  let email ← normalizeEmail rt email
  let password ← validatePassword password
  return { email := email, password := password }

/-- `LoginRequest(email=…, password=…)`. -/
def AuthService.LoginRequest.validated (email password : String) :
    Except PyExc AuthService.LoginRequest := do
  let email ← normalizeEmail rt email
  return { email := email, password := password }

namespace AdminUi

/-! ## §2. Logging in. -/

/-- What the login form answers. -/
inductive LoginPage
  | login_error (error : String)
  | redirect (raw_token : String)

/-- `auth_token.removeprefix("Bearer ").strip()`. -/
def rawToken (auth_token : String) : String :=
  rt.strip (if startsWith "Bearer " auth_token then String.ofList (auth_token.toList.drop 7)
    else auth_token)

/-- `login_submit`. -/
def loginSubmit (libs : PasswordLibs) (hash_password : String → String) (request : Request) :
    Db LoginPage := do
  let form ← formData request
  if orEmpty request.csrf_cookie = "" ∨ form.get "csrf_token" ≠ request.csrf_cookie then
    return .login_error "页面已过期，请刷新后重试"
  else
    Prog.tryCatch
      (do
        let data ← liftExcept (AuthService.LoginRequest.validated rt
          (orEmpty (form.get "email")) (orEmpty (form.get "password")))
        let auth_token ←
          AuthService.login rt fm libs (fun _ _ _ => none) hash_password data none false
        let _user ← AuthService.requireAdmin rt (rawToken rt auth_token)
        return .redirect (rawToken rt auth_token))
      fun e =>
        match e with
        | .app _ detail => return .login_error detail
        | e => Prog.throw e

/-! ## §3. The table of users. -/

/-- A text of `filters_from_request`: an empty form leaves it to the query of the URL. -/
def filterText (query form : Form) (key default : String) : String :=
  let text := orEmpty (Form.get (if form.isEmpty then query else form) key)
  if text = "" then default else text

/-- `search_users` reads a keyword of digits as an identifier. -/
def searchKeyword (q : Option String) : Except PyExc Unit :=
  match q with
  | none => .ok ()
  | some q =>
    let keyword := rt.strip q
    if rt.isdigit keyword then (intOf rt keyword).map fun _ => () else .ok ()

/-- `users_table_response`. -/
def usersTableResponse (query form : Form) : Db Page := do
  let _offset ← liftExcept (intOrNone rt (some (filterText query form "offset" "0")))
  let _limit ← liftExcept (intOrNone rt (some (filterText query form "limit" "20")))
  liftExcept (searchKeyword rt (blankNone rt (some (filterText query form "q" ""))))
  let _users ← Prog.select Tbl.users fun _ => true
  return .table

/-! ## §4. Actions. -/

variable (query : Form) (request : Request)

/-- `create_user_action`. -/
def createUserAction (drawn : UserService.NewAccount) (bytes : BitVec (8 * 18)) : Db Page :=
  action rt request fun form =>
    orFormError
      (do
        let data ← liftExcept (AuthService.UserCreate.validated rt
          (orEmpty (form.get "email")) (orEmpty (form.get "password")))
        let _user ← UserService.createUser drawn bytes data)
      (usersTableResponse rt query form)

/-- The fields of the generation form. -/
def userGenerateFromForm (form : Form) : Except PyExc UserService.AdminUserGenerate := do
  return {
    email_prefix := blankNone rt (form.get "email_prefix")
    email_suffix := orEmpty (form.get "email_suffix")
    password := blankNone rt (form.get "password")
    plan_id := ← intOrNone rt (form.get "plan_id")
    expired_at := ← datetimeOrNone rt (form.get "expired_at")
    generate_count := ← intOrNone rt (form.get "generate_count") }

/-- `generate_users_action`. -/
def generateUsersAction (draws : Nat → UserService.Generated) : Db Page :=
  action rt request fun form =>
    orFormError
      (do
        let data ← liftExcept (userGenerateFromForm rt form)
        let _generated ← UserService.adminGenerateUsers rt draws data)
      (usersTableResponse rt query form)

/-- `update_user_action`. -/
def updateUserAction (hash_password : String → String) (user_id : Int) : Db Page :=
  action rt request fun form =>
    orFormError
      (do
        let data ← liftExcept (userUpdateFromForm rt form)
        let _user ← UserService.updateUser hash_password user_id data)
      (usersTableResponse rt query form)

/-- `ban_user_action`. -/
def banUserAction (user_id : Int) : Db Page :=
  action rt request fun form => do
    let _done ← UserService.adminSetBanned user_id ⟨asBool rt (form.get "banned")⟩
    usersTableResponse rt query form

/-- `reset_user_security_action`. -/
def resetUserSecurityAction (user_id : Int) (uuid token : String) : Db Page :=
  action rt request fun form => do
    let _done ← UserService.adminResetSecurity user_id uuid token
    usersTableResponse rt query form

/-- `delete_user_action`. -/
def deleteUserAction (user_id : Int) : Db Page :=
  action rt request fun form =>
    orActionError (UserService.deleteUser user_id) (usersTableResponse rt query form)

end AdminUi

end PyBoard
