/-
  PyBoard.Controllers.Tokens — the requests that hand out and take tokens.

  A request runs in one transaction, which commits when its handler returns.  What a
  request draws at random (`secrets.token_bytes`, `secrets.token_urlsafe`) is part of
  its label.
-/
import PyBoard.Services.Subscription

namespace PyBoard

open Relational

variable (rt : Runtime) (fm : Formats)

/-- `self.repo.update(user)`: the UPDATE of the columns that changed, if any did, and a
    refresh of the row. -/
def UserRepository.update (old new : User) : Db User := do
  whenever (old ≠ new) (save .users old new)
  match ← Prog.get Tbl.users old.id with
  | none => Prog.throw (.other "InvalidRequestError")
  | some user => return user

namespace AuthService

/-- `_build_auth_token`. -/
def buildAuthToken (user : User) (now : Int) : String :=
  "Bearer " ++ fm.jwt_encode
    [("sub", .str (toString user.id)), ("email", .str user.email),
      ("is_admin", .bool user.is_admin), ("is_staff", .bool user.is_staff)] now

/-- 为指定用户签发访问令牌。 -/
def buildTokenForUserId (user_id : Int) : Db String := do
  match ← UserRepository.getById user_id with
  | none => Prog.throw (UnauthorizedException)
  | some user =>
    if User.banned user then Prog.throw (ForbiddenException "账号已被封禁")
    else
      let now ← time
      let user ← UserRepository.update user { user with last_login_at := some now }
      let now ← time
      return buildAuthToken fm user now

end AuthService

/-- 重置用户安全标识。 `uuid` and `token` are what `uuid.uuid4` and `secrets.token_hex` draw. -/
def UserService.resetSecurity (user_id : Int) (uuid token : String) : Db (String × String) := do
  match ← UserRepository.getById user_id with
  | none => Prog.throw (NotFoundException "用户不存在")
  | some user =>
    let user ← UserRepository.update user { user with uuid := uuid, token := token }
    return (user.uuid, user.token)

/-! ## §1. Handlers. -/

/-- `f"temp_token:\x7bcode\x7d"`. -/
def tempTokenKey (code : String) : String := "temp_token:" ++ code

/-- `redirect or 'dashboard'`. -/
def redirectOr (redirect : String) : String := if redirect = "" then "dashboard" else redirect

/-- `/token2-login` answers a text or an access token. -/
inductive LoginAnswer
  | text (data : String)
  | token (auth_token : String)

/-- 使用一次性 token 登录，或生成前端 verify 跳转地址。 -/
def token2Login (verify token : Option String) (redirect : String) : Db LoginAnswer := do
  let token := token.getD ""
  let verify := verify.getD ""
  if token ≠ "" then
    return .text ("/#/login?verify=" ++ token ++ "&redirect=" ++ redirectOr redirect)
  else if verify = "" then return .text ""
  else
    match ← RuntimeCache.get (tempTokenKey verify) with
    | none => return .text ""
    | some user_id =>
      let _count ← RuntimeCache.delete [tempTokenKey verify]
      let user_id ← liftExcept (CouponService.intOfItem rt user_id)
      return .token (← AuthService.buildTokenForUserId fm user_id)

/-- 生成一次性快速登录链接。 -/
def getQuickLoginUrl (user_id : Int) (code redirect : String) : Db String := do
  let _done ← RuntimeCache.set (tempTokenKey code) (.int user_id) (some 60)
  let app_url := rstripSlash (← SettingService.Cached.getStr rt "app_url" "")
  return app_url ++ "/#/login?verify=" ++ code ++ "&redirect=" ++ redirectOr redirect

/-- 客户端订阅入口。 -/
def subscribe (token flag : String) (token_bytes : List UInt8) : Db SubscribeService.Rendered := do
  let user ← SubscribeService.resolveSubscribeUser rt fm token
  SubscribeService.renderSubscription rt fm user flag token_bytes

/-- The answer of `/user/servers`: 304 carries the ETag alone. -/
structure UserServers where
  etag : String
  data : Option (List JsonDict)

/-- 获取当前用户可用节点列表。  `if_none_match` is the header without its quotes. -/
def getUserServers (user_id : Int) (if_none_match : String) : Db UserServers := do
  match ← UserRepository.getById user_id with
  | none => return answer []
  | some user => return answer (← SubscribeService.getAvailableServers rt fm user)
where
  answer (servers : List JsonDict) : UserServers :=
    let etag := fm.sha1_hexdigest
      (rt.orjson_dumps (.arr (servers.map fun server => dictGet server "cache_key")))
    { etag := etag, data := if if_none_match = etag then none else some servers }

/-! ## §2. Requests. -/

inductive Request
  | subscribe (token flag : String) (token_bytes : List UInt8)
  | getSubscribeInfo (user_id : Int) (token_bytes : List UInt8)
  | getUserServers (user_id : Int) (if_none_match : String)
  | token2Login (verify token : Option String) (redirect : String)
  | getQuickLoginUrl (user_id : Int) (code redirect : String)
  /-- `pyboard_cleanup_runtime_cache`, which pg_cron calls. -/
  | cleanupRuntimeCache

inductive Response
  | subscription (answer : SubscribeService.Rendered)
  | info (data : JsonDict)
  | servers (answer : UserServers)
  | login (answer : LoginAnswer)
  | url (data : String)
  | count (n : Int)

/-- The transaction of a request. -/
def Request.prog : Request → Db Response
  | .subscribe token flag token_bytes => do
      return .subscription (← PyBoard.subscribe rt fm token flag token_bytes)
  | .getSubscribeInfo user_id token_bytes => do
      return .info (← SubscribeService.getUserSubscribeInfo rt fm user_id token_bytes)
  | .getUserServers user_id if_none_match => do
      return .servers (← PyBoard.getUserServers rt fm user_id if_none_match)
  | .token2Login verify token redirect => do
      return .login (← PyBoard.token2Login rt fm verify token redirect)
  | .getQuickLoginUrl user_id code redirect => do
      return .url (← PyBoard.getQuickLoginUrl rt user_id code redirect)
  | .cleanupRuntimeCache => do return .count (← RuntimeCache.cleanupExpired)

end PyBoard
