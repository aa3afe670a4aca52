/-
  PyBoard.Services.Auth — registration and the codes that are sent by mail.

  A request counts against the limits of its address in the runtime cache, inside its own
  transaction.  What a request draws at random and what the captcha service answers are
  parameters.
-/
import PyBoard.Controllers.Tokens
import PyBoard.Services.Codes

namespace PyBoard

open Relational

variable (rt : Runtime) (fm : Formats)

/-! ## §1. Captcha. -/

namespace TurnstileService

open SettingService.Cached

/-- `_MAX_TOKEN_LENGTH`. -/
def MAX_TOKEN_LENGTH : Nat := 2048

/-- What the siteverify call with a secret, a token and an address gives: the decoded
    response, or `none` if it raises. -/
abbrev Siteverify := String → String → Option String → Option Json

/-- `isinstance(result, dict) and result.get("success")`. -/
def succeeded : Json → Bool
  | .obj fields => ((Json.lookup fields "success").getD .null).truthy
  | _ => false

def verifyIfEnabled (http : Siteverify) (token remote_ip : Option String) : Db Unit := do
  if (← getInt rt "recaptcha_enable" 0) = 0 then return ()
  else
    let secret ← getStr rt "recaptcha_key" ""
    if secret = "" then Prog.throw (BadRequestException "Turnstile Secret Key 未配置")
    else
      let token := rt.strip (token.getD "")
      if token = "" ∨ token.length > MAX_TOKEN_LENGTH then
        Prog.throw (BadRequestException "请完成人机验证")
      else
        match http secret token (remote_ip.filter fun ip => ip ≠ "") with
        | none => Prog.throw (BadRequestException "人机验证服务暂不可用，请稍后重试")
        | some result =>
          if succeeded result then return ()
          else Prog.throw (BadRequestException "人机验证失败，请重试")

end TurnstileService

def UserRepository.emailExists (email : String) : Db Bool := do
  return (← UserRepository.getByEmail email).isSome

namespace AuthService

open SettingService.Cached TurnstileService

/-! ## §2. Addresses. -/

/-- `email.rsplit("@", 1)[-1]`. -/
def lastPart (email : String) : String :=
  String.ofList ((email.toList.splitOn '@').getLastD [])

/-- `local` of `email.partition("@")`. -/
def localPart (email : String) : List Char := email.toList.takeWhile (· ≠ '@')

/-- `domain` of `email.partition("@")`. -/
def domainPart (email : String) : String :=
  String.ofList ((email.toList.dropWhile (· ≠ '@')).drop 1)

/-- `text.lstrip("@")`. -/
def lstripAt (text : String) : String := String.ofList (text.toList.dropWhile (· = '@'))

/-- `for item in value`. -/
def itemsOf : Json → Except PyExc (List Json)
  | .arr items => .ok items
  | .obj fields => .ok (fields.map fun f => .str f.1)
  | .str text => .ok (text.toList.map fun c => .str c.toString)
  | _ => .error (.other "TypeError")

/-- `{str(item).lower().lstrip("@") for item in suffixes}`. -/
def allowedDomains (suffixes : Json) : Except PyExc (List String) := do
  return (← itemsOf suffixes).map fun item => lstripAt (rt.lower (rt.str item))

/-- A Gmail address with a tag or with dots. -/
def isGmailAlias (email : String) : Bool :=
  rt.lower (domainPart email) = "gmail.com" && ('+' ∈ localPart email || '.' ∈ localPart email)

def checkEmailPolicy (email : String) : Db Unit := do
  whenever ((← getInt rt "email_whitelist_enable" 0) ≠ 0) (do
    let suffixes ← getJson rt "email_whitelist_suffix" (.arr [])
    let allowed ← liftExcept (allowedDomains rt suffixes)
    if rt.lower (lastPart email) ∈ allowed then return ()
    else Prog.throw (BadRequestException "当前邮箱后缀不允许注册"))
  if (← getInt rt "email_gmail_limit_enable" 0) ≠ 0 ∧ isGmailAlias rt email then
    Prog.throw (BadRequestException "当前 Gmail 邮箱格式不允许注册")
  else return ()

/-! ## §3. Limits. -/

/-- `f"register_limit:\x7bclient_ip\x7d"`. -/
def registerLimitKey (client_ip : String) : String := "register_limit:" ++ client_ip

/-- `f"\x7b_EMAIL_VERIFY_RATE_PREFIX\x7d\x7bclient_ip\x7d"`. -/
def emailVerifyRateKey (client_ip : String) : String := "email_verify_rate:" ++ client_ip

/-- `f"\x7b_EMAIL_VERIFY_CODE_PREFIX\x7d\x7bemail\x7d"`. -/
def emailVerifyCodeKey (email : String) : String := "email_verify_code:" ++ email

/-- `f"\x7b_EMAIL_VERIFY_LAST_SEND_PREFIX\x7d\x7bemail\x7d"`. -/
def emailVerifyLastSendKey (email : String) : String := "email_verify_last_send:" ++ email

def checkRegisterLimit (client_ip : Option String) : Db Unit := do
  match client_ip.filter fun ip => ip ≠ "" with
  | none => return ()
  | some client_ip =>
    if (← getInt rt "register_limit_by_ip_enable" 0) = 0 then return ()
    else
      let count ← getInt rt "register_limit_count" 3
      let expire ← getInt rt "register_limit_expire" 60
      let current ← RuntimeCache.incr rt (registerLimitKey client_ip) (some expire)
      if current > count then Prog.throw (BadRequestException "该 IP 注册过于频繁")
      else return ()

def checkEmailVerifyRate (client_ip : Option String) : Db Unit := do
  match client_ip.filter fun ip => ip ≠ "" with
  | none => return ()
  | some client_ip =>
    let current ← RuntimeCache.incr rt (emailVerifyRateKey client_ip) (some 60)
    if current > 3 then Prog.throw (BadRequestException "请求过于频繁，请稍后再试")
    else return ()

/-- `str(code)` of a cached value. -/
def cachedText : Option Json → String
  | none => "None"
  | some value => rt.str value

def verifyEmailCode (email : String) (email_code : Option String) : Db Unit := do
  match email_code.filter fun code => code ≠ "" with
  | none => Prog.throw (BadRequestException "邮箱验证码不能为空")
  | some email_code =>
    let code ← RuntimeCache.get (emailVerifyCodeKey email)
    if cachedText rt code ≠ email_code then Prog.throw (BadRequestException "邮箱验证码错误")
    else return ()

/-! ## §4. Registration. -/

/-- `invite_code.strip().upper()` of a code that is not empty. -/
def carriedCode (invite_code : Option String) : Option String :=
  (invite_code.filter fun code => code ≠ "").map fun code => rt.upper (rt.strip code)

/-- `_resolve_invite_user_id`. -/
def resolveInviteUserId (invite_code : Option String) : Db (Option Int) := do
  let invite_force ← getInt rt "invite_force" 0
  match carriedCode rt invite_code with
  | none =>
    if invite_force ≠ 0 then Prog.throw (BadRequestException "请填写邀请码") else return none
  | some code =>
    match ← InviteCodeRepository.getActiveByCode code with
    | none => Prog.throw (BadRequestException "邀请码无效")
    | some invite =>
      let never_expire ← getInt rt "invite_never_expire" 0
      let used : InviteCode :=
        { invite with
          pv := invite.pv + 1
          status := if never_expire = 0 then 1 else invite.status }
      let _invite ← updateRow .invite_code invite used
      return some invite.user_id

/-- 注册/创建用户。 -/
structure UserCreate where
  email : String
  password : String
  invite_code : Option String := none
  email_code : Option String := none
  recaptcha_data : Option String := none

/-- What a registration draws: the identifier of its row, the salt of `hash_password`,
    `secrets.token_hex(16)` and `uuid.uuid4()`. -/
structure Drawn where
  id : Int
  hash_password : String → String
  token : String
  uuid : String

/-- 注册用户并签发访问令牌。 -/
def register (http : Siteverify) (drawn : Drawn) (data : UserCreate)
    (client_ip : Option String) : Db String := do
  if (← getInt rt "stop_register" 0) ≠ 0 then
    Prog.throw (ForbiddenException "当前停止注册")
  else
    checkEmailPolicy rt data.email
    checkRegisterLimit rt client_ip
    verifyIfEnabled rt http data.recaptcha_data client_ip
    whenever ((← getInt rt "email_verify" 0) ≠ 0) (verifyEmailCode rt data.email data.email_code)
    if ← UserRepository.emailExists data.email then
      Prog.throw (ConflictException "邮箱已注册")
    else
      let invite_user_id ← resolveInviteUserId rt data.invite_code
      let last_login_at ← time
      let user : User :=
        { id := drawn.id
          email := data.email
          password := drawn.hash_password data.password
          token := drawn.token
          uuid := drawn.uuid
          invite_user_id := invite_user_id
          last_login_at := some last_login_at }
      create .users user
      let _count ← RuntimeCache.delete [emailVerifyCodeKey data.email]
      let now ← time
      return buildAuthToken fm user now

/-! ## §5. Codes by mail. -/

/-- 发送邮箱验证码。 -/
structure EmailVerifyRequest where
  email : String
  isforget : Option Int := none
  recaptcha_data : Option String := none

/-- 创建邮箱验证码并写入运行期缓存。  `drawn` is what `secrets.randbelow(900000)` gives. -/
def createEmailVerifyCode (http : Siteverify) (drawn : Nat) (data : EmailVerifyRequest)
    (client_ip : Option String) : Db String := do
  checkEmailVerifyRate rt client_ip
  checkEmailPolicy rt data.email
  verifyIfEnabled rt http data.recaptcha_data client_ip
  let «exists» ← UserRepository.emailExists data.email
  if data.isforget = some 0 ∧ «exists» then Prog.throw (ConflictException "该邮箱已注册")
  else if data.isforget = some 1 ∧ ¬«exists» then Prog.throw (NotFoundException "该邮箱未注册")
  else
    let last_send ← RuntimeCache.get (emailVerifyLastSendKey data.email)
    if (last_send.getD .null).truthy then
      Prog.throw (BadRequestException "邮箱验证码已发送，请稍后再试")
    else
      let code := toString (drawn + 100000)
      let _done ← RuntimeCache.set (emailVerifyCodeKey data.email) (.str code) (some 300)
      let now ← time
      let _done ← RuntimeCache.set (emailVerifyLastSendKey data.email) (.int now) (some 60)
      return code

end AuthService

/-- The handler of `/email-verify`.  The mail is queued in a transaction of its own. -/
def sendEmailVerify (http : TurnstileService.Siteverify) (drawn : Nat)
    (data : AuthService.EmailVerifyRequest) (client_ip : Option String) : Db String := do
  let code ← AuthService.createEmailVerifyCode rt http drawn data client_ip
  let _app_name ← SettingService.Cached.getStr rt "app_name" "PyBoard"
  let _app_url ← SettingService.Cached.getStr rt "app_url" ""
  return code

end PyBoard
