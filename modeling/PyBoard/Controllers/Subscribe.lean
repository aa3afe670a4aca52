/-
  PyBoard.Controllers.Subscribe — subscription tokens as clients send them.

  `PyBoard.Services.Subscribe` resolves a token whose parts the database can take.  A client
  may send any text: the token is bound to a query before anything is known about it, and so
  is the identifier that a TOTP token spells.
-/
import PyBoard.Controllers.Payment
import PyBoard.Services.Subscribe

namespace PyBoard.SubscribeService.Sent

open Relational

-- `takes` says which keys fit an entry of the index of `runtime_cache`: 2704 bytes at most
variable (rt : Runtime) (fm : Formats) (takes : String → Bool)

/-- `self.user_repo.get_by_id(user_id)`: asyncpg encodes the identifier as an INTEGER. -/
def getById (user_id : Int) : Db (Option User) :=
  if -2 ^ 31 ≤ user_id ∧ user_id < 2 ^ 31 then UserRepository.getById user_id
  else Prog.throw (.other "DBAPIError")

/-- `self.cache.set(key, value, ex=ex)`: `expires_at` is a BIGINT. -/
def cacheSet (key value : String) (ex : Int) : Db Unit := do
  let now ← time
  if RuntimeCache.inBigint (now + ex) ∧ takes key then
    let _done ← RuntimeCache.set key (.str value) (some ex)
    return ()
  else Prog.throw (.other "DBAPIError")

/-- Method 2 of `resolve_subscribe_user`. -/
def checkTotpToken (token : String) : Db String := do
  match ← RuntimeCache.get (totpKey token) with
  | some cached => return rt.str cached
  | none =>
    let (user_id, digest) ← liftExcept (decodeTotpToken rt token)
    match ← getById user_id with
    | none => Prog.throw (UnauthorizedException "token is error")
    | some user =>
      let expire_minutes ← SettingService.Cached.getInt rt "show_subscribe_expire" 5
      let timestep := timestepOf expire_minutes
      let now ← time
      let expected ← liftExcept (totpDigest fm (User.token user) timestep now)
      if ← liftExcept (compareDigest expected digest) then
        cacheSet takes (totpKey token) (User.token user) timestep
        return User.token user
      else Prog.throw (UnauthorizedException "token is error")

/-- The user's own token that a token stands for, by the configured method. -/
def userTokenOf (method : Int) (token : String) : Db String :=
  if method = 1 then takeOneTimeToken rt token
  else if method = 2 then checkTotpToken rt fm takes token
  else return token

/-- 解析订阅 token 并返回用户。 -/
def resolveSubscribeUser (token : PyStr) : Db User := do
  if token = [] then Prog.throw (UnauthorizedException "token is null")
  else
    let method ← SettingService.Cached.getInt rt "show_subscribe_method" 0
    -- every method begins with a query for the token, or for a key that ends with it
    let token ← liftExcept (textParam none (.str token))
    let user_token ← userTokenOf rt fm takes method token
    match ← UserRepository.getByToken user_token with
    | none => Prog.throw (UnauthorizedException "token is error")
    | some user => return user

end PyBoard.SubscribeService.Sent
