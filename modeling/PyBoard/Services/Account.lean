/-
  PyBoard.Services.Account — logging in, passwords, and who may do what.

  A request acts for the account that its bearer token names, and the account is looked up
  again by every request.  The password libraries are parameters, and so is what a request
  draws.  A `UserRead` is the row that it is read from: the columns it takes are NOT NULL.
-/
import PyBoard.Relational.Bulk
import PyBoard.Services.Telegram
import PyBoard.Services.User

namespace PyBoard

open Relational

variable (rt : Runtime) (fm : Formats)

/-! ## §1. Passwords. -/

/-- What `utils/password.py` calls of `argon2` and `bcrypt`. -/
structure PasswordLibs where
  /-- `_argon2.verify(hash, secret)`; `false` is a VerificationError. -/
  argon2_verify : String → String → Except PyExc Bool
  check_needs_rehash : String → Bool
  /-- `bcrypt.checkpw`; `none` is a ValueError or a TypeError. -/
  bcrypt_checkpw : String → String → Option Bool

/-- `text.startswith(head)`. -/
def startsWith (head text : String) : Bool := head.toList.isPrefixOf text.toList

section

variable (libs : PasswordLibs) (hash_password : String → String)

/-- `_verify_argon2id`. -/
def verifyArgon2id (secret hash : String) : Except PyExc (Bool × Option String) := do
  if ← libs.argon2_verify hash secret then
    if libs.check_needs_rehash hash then return (true, some (hash_password secret))
    else return (true, none)
  else return (false, none)

/-- `_verify_bcrypt`. -/
def verifyBcrypt (secret hash : String) : Bool × Option String :=
  match libs.bcrypt_checkpw secret hash with
  | some true => (true, some (hash_password secret))
  | _ => (false, none)

/-- 验证密码，如果是 Bcrypt 则自动升级为 Argon2id。 -/
def verifyAndUpgrade (secret hash : String) : Except PyExc (Bool × Option String) :=
  if startsWith "$argon2" hash then verifyArgon2id libs hash_password secret hash
  else if startsWith "$2" hash then .ok (verifyBcrypt libs hash_password secret hash)
  else .ok (false, none)

end

/-! ## §2. The bearer of a token. -/

/-- What `HTTPBearer` reads of the header; `none` is a header that is missing. -/
structure HTTPAuthorizationCredentials where
  scheme : String
  credentials : String

/-- `get_bearer_token`. -/
def getBearerToken : Option HTTPAuthorizationCredentials → Except PyExc String
  | none => .error UnauthorizedException
  | some credentials =>
    if rt.lower credentials.scheme ≠ "bearer" then .error UnauthorizedException
    else .ok credentials.credentials

namespace AuthService

def decodeUserId (token : String) : Db Int := do
  let now ← time
  match rt.decode_user_id now token with
  | none => Prog.throw UnauthorizedException
  | some user_id => return user_id

/-- 解析 JWT 并返回当前用户。 -/
def getCurrentUser (token : String) : Db User := do
  let user_id ← decodeUserId rt token
  match ← UserRepository.getById user_id with
  | none => Prog.throw UnauthorizedException
  | some user =>
    if User.banned user then Prog.throw (ForbiddenException "账号已被封禁") else return user

/-- 解析 JWT 并要求管理员权限。 -/
def requireAdmin (token : String) : Db User := do
  let user ← getCurrentUser rt token
  if !user.is_admin then Prog.throw ForbiddenException else return user

/-- 解析 JWT 并要求员工或管理员权限。 -/
def requireStaff (token : String) : Db User := do
  let user ← getCurrentUser rt token
  if !user.is_staff && !user.is_admin then Prog.throw ForbiddenException else return user

/-! ## §3. Logging in. -/

/-- 登录请求。 -/
structure LoginRequest where
  email : String
  password : String
  recaptcha_data : Option String := none

variable (libs : PasswordLibs) (http : TurnstileService.Siteverify)
  (hash_password : String → String)

/-- 验证邮箱密码并签发访问令牌。 -/
def login (data : LoginRequest) (client_ip : Option String) (verify_turnstile : Bool := true) :
    Db String := do
  whenever (verify_turnstile = true)
    (TurnstileService.verifyIfEnabled rt http data.recaptcha_data client_ip)
  match ← UserRepository.getByEmail data.email with
  | none => Prog.throw (UnauthorizedException "邮箱或密码错误")
  | some user =>
    let (valid, new_hash) ←
      liftExcept (verifyAndUpgrade libs hash_password data.password user.password)
    if !valid then Prog.throw (UnauthorizedException "邮箱或密码错误")
    else if user.banned then Prog.throw (ForbiddenException "账号已被封禁")
    else
      let now ← time
      let user ← UserRepository.update user
        { user with password := new_hash.getD user.password, last_login_at := some now }
      let now ← time
      return buildAuthToken fm user now

/-- 忘记密码重置。 -/
structure ForgetPasswordRequest where
  email : String
  email_code : String
  password : String
  recaptcha_data : Option String := none

/-- `email_code if email_code is not None else await self.cache.get(…)`. -/
def expectedCode (email : String) : Option String → Db (Option Json)
  | some code => return some (.str code)
  | none => RuntimeCache.get (emailVerifyCodeKey email)

/-- 通过邮箱验证码重置密码。 -/
def forgetPassword (data : ForgetPasswordRequest) (email_code client_ip : Option String) :
    Db Bool := do
  TurnstileService.verifyIfEnabled rt http data.recaptcha_data client_ip
  let email_code ← expectedCode data.email email_code
  if !(email_code.getD .null).truthy ∨ cachedText rt email_code ≠ data.email_code then
    Prog.throw (BadRequestException "邮箱验证码错误")
  else
    match ← UserRepository.getByEmail data.email with
    | none => Prog.throw (NotFoundException "该邮箱未注册")
    | some user =>
      let _user ← UserRepository.update user { user with password := hash_password data.password }
      let _count ← RuntimeCache.delete [emailVerifyCodeKey data.email]
      return true

/-- 记录邀请码访问次数。 -/
def recordInvitePv (invite_code : Option String) : Db Bool := do
  match carriedCode rt invite_code with
  | none => return true
  | some code =>
    match ← InviteCodeRepository.getByCode code with
    | none => return true
    | some invite =>
      let _invite ← updateRow .invite_code invite { invite with pv := invite.pv + 1 }
      return true

end AuthService

/-! ## §4. What an account changes of itself. -/

namespace UserService

/-- `repo.get_by_id` of an account that has to exist. -/
def existing (user_id : Int) (detail : String) : Db User := do
  match ← UserRepository.getById user_id with
  | none => Prog.throw (NotFoundException detail)
  | some user => return user

/-- 用户可自行更新的偏好字段。 -/
structure UserSelfUpdate where
  auto_renewal : Sent Int := none
  remind_expire : Sent Int := none
  remind_traffic : Sent Int := none

/-- The account after `setattr`. -/
def UserSelfUpdate.apply (data : UserSelfUpdate) (user : User) : Except PyExc User := do
  return { user with
    auto_renewal := ← data.auto_renewal.required user.auto_renewal
    remind_expire := ← data.remind_expire.required user.remind_expire
    remind_traffic := ← data.remind_traffic.required user.remind_traffic }

/-- 更新当前用户偏好。 -/
def updateProfile (user_id : Int) (data : UserSelfUpdate) : Db Bool := do
  let user ← existing user_id "用户不存在"
  let _user ← UserRepository.update user (← liftExcept (data.apply user))
  return true

/-- 用户修改密码。 -/
structure UserChangePassword where
  old_password : String
  new_password : String

/-- 当前用户修改密码。 -/
def changePassword (libs : PasswordLibs) (hash_password : String → String) (user_id : Int)
    (data : UserChangePassword) : Db Bool := do
  let user ← existing user_id "用户不存在"
  let (valid, _new_hash) ←
    liftExcept (verifyAndUpgrade libs hash_password data.old_password user.password)
  if !valid then Prog.throw (BadRequestException "旧密码错误")
  else
    let _user ← UserRepository.update user
      { user with password := hash_password data.new_password }
    return true

/-! ## §5. What the administration changes. -/

/-- 管理端重置用户安全标识。 -/
def adminResetSecurity (user_id : Int) (uuid token : String) : Db Bool := do
  let _identity ← resetSecurity user_id uuid token
  return true

/-- 管理端封禁/解封用户。 -/
structure AdminUserBan where
  banned : Bool := true

/-- 管理端封禁/解封用户。 -/
def adminSetBanned (user_id : Int) (data : AdminUserBan) : Db Bool := do
  let user ← existing user_id "用户不存在"
  let _user ← UserRepository.update user { user with banned := data.banned }
  return true

/-- 管理端设置邀请人。 -/
structure AdminUserInviteSetter where
  invite_user_email : Option String := none

/-- The inviter that an address names; an empty address names nobody. -/
def inviterOf (user : User) (data : AdminUserInviteSetter) : Db (Option Int) := do
  match data.invite_user_email.filter (· ≠ "") with
  | none => return none
  | some email =>
    match ← UserRepository.getByEmail (rt.lower (rt.strip email)) with
    | none => Prog.throw (BadRequestException "邀请人无效")
    | some invite_user =>
      if User.id invite_user = user.id then Prog.throw (BadRequestException "邀请人无效")
      else return some invite_user.id

/-- 管理端设置邀请人。 -/
def adminSetInviteUser (user_id : Int) (data : AdminUserInviteSetter) : Db Bool := do
  let user ← existing user_id "用户不存在"
  let invite_user_id ← inviterOf rt user data
  let _user ← UserRepository.update user { user with invite_user_id := invite_user_id }
  return true

/-- `_delete_user_related_data`. -/
def deleteUserRelatedData (user_id : Int) : Db Unit := do
  let tickets ← Prog.select Tbl.ticket fun (t : Ticket) => t.user_id = user_id
  let ticket_ids := tickets.map Ticket.id
  whenever (ticket_ids ≠ []) (do
    let _messages ← Prog.deleteReturning Tbl.ticket_message fun (m : TicketMessage) =>
      m.ticket_id ∈ ticket_ids)
  let _tickets ← Prog.deleteReturning Tbl.ticket fun (t : Ticket) => t.user_id = user_id
  let _orders ← Prog.deleteReturning Tbl.orders fun (o : Order) => o.user_id = user_id
  let _codes ← Prog.deleteReturning Tbl.invite_code fun (i : InviteCode) => i.user_id = user_id
  let _users ← Prog.updateReturning Tbl.users (fun (u : User) => u.invite_user_id = some user_id)
    fun (u : User) => { u with invite_user_id := none }

/-- 删除用户。 -/
def deleteUser (user_id : Int) : Db Unit := do
  let user ← existing user_id ("用户 " ++ toString user_id ++ " 不存在")
  deleteUserRelatedData user_id
  let _found ← Prog.delete Tbl.users user.id

end UserService

end PyBoard
