/-
  PyBoard.Services.Giftcard — redeeming a gift card.
-/
import PyBoard.Services.Commission

namespace PyBoard.GiftcardService

open Relational

variable (rt : Runtime)

def GIB : Int := 1024 * 1024 * 1024

/-- `_normalize_code`. -/
def normalizeCode (code : String) : Except PyExc String :=
  let code := rt.upper (rt.strip code)
  if code = "" then .error (BadRequestException "礼品卡码不能为空") else .ok code

/-- The entries of `parsed` that `isinstance(item, int | str) and
    str(item).isdigit()` keeps, as integers. -/
def usedUsers : List Json → Except PyExc (List Int)
  | [] => .ok []
  | .int i :: items =>
      if i < 0 then usedUsers items else (usedUsers items).map (i :: ·)
  | .str s :: items =>
      if rt.isdigit s then
        match rt.int_of_str s with
        | some i => (usedUsers items).map (i :: ·)
        | none => .error (.value "invalid literal for int()")
      else usedUsers items
  | _ :: items => usedUsers items

/-- `_parse_used_users`. -/
def parseUsedUsers (value : Option String) : Except PyExc (List Int) :=
  match value with
  | none => .ok []
  | some value =>
    if value = "" then .ok []
    else
      match rt.orjson_loads value with
      | some (.arr items) => usedUsers rt items
      | _ => .ok []

/-- `_apply_plan_giftcard`. -/
def applyPlanGiftcard (giftcard : Giftcard) (user : User) (now : Int) : Db User := do
  if user.plan_id.isSome ∧ user.expired_at.any (fun e => e ≠ 0 && e > now) then
    Prog.throw (BadRequestException "当前订阅未过期，不能使用套餐礼品卡")
  else
    match giftcard.plan_id with
    | none => Prog.throw (BadRequestException "套餐礼品卡未绑定套餐")
    | some plan_id =>
      let some plan ← (Prog.getForUpdate Tbl.plan plan_id : Db (Option Plan))
        | Prog.throw (BadRequestException "礼品卡绑定的套餐不存在")
      return { user with
        plan_id := some plan.id
        group_id := some plan.group_id
        transfer_enable := plan.transfer_enable
        device_limit := plan.device_limit
        speed_limit := plan.speed_limit
        u := 0
        d := 0
        expired_at := some (if giftcard.value = some 0 then 4102444800
          else now + giftcard.value.getD 0 * 86400) }

/-- What the card does to its user. -/
def applyGiftcard (giftcard : Giftcard) (user : User) (now : Int) : Db User :=
  let value := giftcard.value.getD 0
  if giftcard.type = 1 then
    return { user with balance := user.balance + value }
  else if giftcard.type = 2 then
    if value ≤ 0 then Prog.throw (BadRequestException "礼品卡时长必须大于 0")
    else return { user with
      expired_at := some (max (user.expired_at.getD 0) now + value * 86400) }
  else if giftcard.type = 3 then
    if value ≤ 0 then Prog.throw (BadRequestException "礼品卡流量必须大于 0")
    else return { user with transfer_enable := user.transfer_enable + value * GIB }
  else if giftcard.type = 4 then
    return { user with u := 0, d := 0 }
  else if giftcard.type = 5 then
    applyPlanGiftcard giftcard user now
  else
    Prog.throw (BadRequestException "未知礼品卡类型")

/-- The checks on the card itself. -/
def checkGiftcard (giftcard : Giftcard) (now : Int) : Except PyExc Unit :=
  if now < giftcard.started_at then .error (BadRequestException "礼品卡尚未生效")
  else if now > giftcard.ended_at then .error (BadRequestException "礼品卡已过期")
  else if giftcard.limit_use.any (· ≤ 0) then
    .error (BadRequestException "礼品卡使用次数已耗尽")
  else .ok ()

/-- `used_user_ids VARCHAR(16384)`. -/
def USED_USER_IDS_LENGTH : Nat := 16384

/-- `self.repo.update(giftcard)`: a list of users that is longer than its column is
    refused by the database. -/
def updateGiftcard (old new : Giftcard) : Db Unit :=
  if new.used_user_ids.any (fun text => USED_USER_IDS_LENGTH < text.length) then
    Prog.throw (.other "DataError")
  else save .giftcard old new

/-- Record the use of the card.  A refused redemption row is the unique
    constraint of the card and the user. -/
def recordRedemption (fresh : Fresh) (giftcard : Giftcard) (user_id : Int) : Db Unit := do
  if ← Prog.insert Tbl.giftcard_redemption
      ({ id := fresh.id, giftcard_id := giftcard.id, user_id := user_id,
         code := giftcard.code, type := giftcard.type, value := giftcard.value,
         plan_id := giftcard.plan_id } : GiftcardRedemption) then
    return ()
  else
    Prog.throw (BadRequestException "该礼品卡已被当前用户使用")

/-- 兑换礼品卡。 -/
def redeem (fresh : Fresh) (user_id : Int) (code : String) : Db Unit := do
  let normalized_code ← liftExcept (normalizeCode rt code)
  let some giftcard ← GiftcardRepository.getByCodeForUpdate normalized_code
    | Prog.throw (BadRequestException "礼品卡不存在")
  let some user ← UserRepository.getByIdForUpdate user_id
    | Prog.throw (NotFoundException "用户不存在")
  let now ← time
  liftExcept (checkGiftcard giftcard now)
  match ← GiftcardRedemptionRepository.getByGiftcardAndUser giftcard.id user_id with
  | some _ => Prog.throw (BadRequestException "该礼品卡已被当前用户使用")
  | none =>
    let used_user_ids ← liftExcept (parseUsedUsers rt giftcard.used_user_ids)
    if user_id ∈ used_user_ids then
      Prog.throw (BadRequestException "该礼品卡已被当前用户使用")
    else
      let user' ← applyGiftcard giftcard user now
      saveUser user user'
      updateGiftcard giftcard
        { giftcard with
          used_user_ids := some (rt.orjson_dumps_ints (used_user_ids ++ [user_id]))
          limit_use := giftcard.limit_use.map (· - 1) }
      recordRedemption fresh giftcard user_id

end PyBoard.GiftcardService
