/-
  PyBoard.Services.Codes — creating, updating and generating coupons, gift cards and invite
  codes.

  No constraint of the database keeps the codes apart: a code is looked up before it is
  stored.  What `secrets.choice` draws and the identifiers of new rows are parameters.
-/
import PyBoard.Services.Coupon
import PyBoard.Services.Giftcard
import PyBoard.Services.SettingCache

namespace PyBoard

open Relational

variable (rt : Runtime)

/-! ## §1. Codes. -/

/-- The codes that a call of `_generate_code` may draw. -/
abbrev Draws := Nat → String

/-- `for _ in range(100)` of `_generate_code`: the first code that is not taken. -/
def firstUnused (codeExists : String → Db Bool) (detail : String) : List String → Db String
  | [] => Prog.throw (ConflictException detail)
  | code :: codes => do
    if ← codeExists code then firstUnused codeExists detail codes
    else return code

/-- The codes of the hundred rounds. -/
def Draws.codes (draws : Draws) : List String := (List.range 100).map draws

/-- A code that was sent and is not empty: `code or …`. -/
def givenCode : Option String → Option String
  | none => none
  | some code => if code = "" then none else some code

/-- `code or await self._generate_code()`. -/
def codeOr (sent : Option String) (generated : Db String) : Db String :=
  match givenCode sent with
  | some code => return code
  | none => generated

/-- `_ensure_code_available`. -/
def ensureUnused (codeExists : String → Db Bool) (detail code : String) : Db Unit := do
  if ← codeExists code then Prog.throw (ConflictException detail)
  else return ()

/-- A field of an update: unset, `None` or a value. -/
abbrev Sent (α : Type) := Option (Option α)

/-- `setattr` of a column that is NOT NULL: the flush refuses `None`. -/
def Sent.required {α : Type} (sent : Sent α) (cur : α) : Except PyExc α :=
  match sent with
  | none => .ok cur
  | some (some value) => .ok value
  | some none => .error (.other "IntegrityError")

/-- `updates["code"]`, looked up unless it is the code of the item. -/
def lookedUpCode (normalize : String → Except PyExc String) (ensure : String → Db Unit)
    (sent : Sent String) (cur : String) : Db (Sent String) := do
  match sent with
  | some (some code) =>
    let code ← liftExcept (normalize code)
    whenever (code ≠ cur) (ensure code)
    return some (some code)
  | sent => return sent

/-- The value in the payload of an update. -/
def Sent.payload {α : Type} (sent : Sent α) (cur : α) : Option α := sent.getD (some cur)

/-- `payload["started_at"] >= payload["ended_at"]`. -/
def endsBeforeStart (started_at ended_at : Option Int) : Except PyExc Bool :=
  match started_at, ended_at with
  | some started_at, some ended_at => .ok (decide (started_at ≥ ended_at))
  | _, _ => .error (.other "TypeError")

/-- `self.db.refresh(obj)`. -/
def refresh (t : Tbl) (obj : t.Row) : Db t.Row := do
  match ← Prog.get t (t.key obj) with
  | none => Prog.throw (.other "InvalidRequestError")
  | some obj => return obj

/-- `BaseRepository.update`: the UPDATE of the columns that changed, if any did, and a refresh
    of the row. -/
def updateRow (t : Tbl) [DecidableEq t.Row] (old new : t.Row) : Db t.Row := do
  whenever (old ≠ new) (save t old new)
  refresh t old

/-! ## §2. Coupons. -/

def CouponRepository.codeExists (code : String) : Db Bool := do
  return (← CouponRepository.getByCode code).isSome

namespace CouponService

def generateCode (draws : Draws) : Db String :=
  firstUnused CouponRepository.codeExists "优惠券码生成失败，请重试" draws.codes

def ensureCodeAvailable : String → Db Unit :=
  ensureUnused CouponRepository.codeExists "优惠券码已存在"

/-- `_dump_optional_list`. -/
def dumpOptionalList : Json → Option String
  | .null => none
  | .str value => if value = "" then none else some value
  | .arr [] => none
  | value => some (rt.orjson_dumps value)

/-- `_validate_payload`. -/
def validatePayload (type value started_at ended_at : Option Int) : Except PyExc Unit := do
  if type ≠ some 1 ∧ type ≠ some 2 then
    .error (BadRequestException "优惠券类型只支持 1=固定金额 或 2=百分比")
  else
    match value with
    | none => .error (.other "TypeError")
    | some value =>
      if value ≤ 0 then .error (BadRequestException "优惠券面值必须大于 0")
      else if ← endsBeforeStart started_at ended_at then
        .error (BadRequestException "优惠券结束时间必须晚于开始时间")
      else return ()

/-- 创建优惠券, and with `generate_count` 批量生成. -/
structure CouponCreate where
  code : Option String := none
  name : String
  type : Int
  value : Int
  «show» : Bool := true
  limit_use : Option Int := none
  limit_use_with_user : Option Int := none
  limit_plan_ids : Json := .null
  limit_period : Json := .null
  started_at : Int
  ended_at : Int

/-- `Coupon(**payload)`.  The name of a coupon is only shown. -/
def CouponCreate.row (data : CouponCreate) (id : Int) (code : String) : Coupon where
  id := id
  code := code
  type := data.type
  value := data.value
  «show» := data.show
  limit_use := data.limit_use
  limit_use_with_user := data.limit_use_with_user
  limit_plan_ids := dumpOptionalList rt data.limit_plan_ids
  limit_period := dumpOptionalList rt data.limit_period
  started_at := data.started_at
  ended_at := data.ended_at

def CouponCreate.validate (data : CouponCreate) : Except PyExc Unit :=
  validatePayload (some data.type) (some data.value) (some data.started_at) (some data.ended_at)

def create (id : Int) (draws : Draws) (data : CouponCreate) : Db Coupon := do
  let code ← codeOr data.code (generateCode draws)
  let code ← liftExcept (normalizeCode rt code)
  ensureCodeAvailable code
  liftExcept data.validate
  PyBoard.create .coupon (data.row rt id code)
  return data.row rt id code

structure CouponUpdate where
  code : Sent String := none
  name : Sent String := none
  type : Sent Int := none
  value : Sent Int := none
  «show» : Sent Bool := none
  limit_use : Sent Int := none
  limit_use_with_user : Sent Int := none
  limit_plan_ids : Option Json := none
  limit_period : Option Json := none
  started_at : Sent Int := none
  ended_at : Sent Int := none

/-- The item after `setattr`; the columns that are NOT NULL are checked by the flush. -/
def CouponUpdate.apply (data : CouponUpdate) (code : Sent String) (item : Coupon) :
    Except PyExc Coupon := do
  let _name ← data.name.required ""
  return { item with
    code := ← code.required item.code
    type := ← data.type.required item.type
    value := ← data.value.required item.value
    «show» := ← data.show.required item.show
    limit_use := data.limit_use.getD item.limit_use
    limit_use_with_user := data.limit_use_with_user.getD item.limit_use_with_user
    limit_plan_ids := (data.limit_plan_ids.map (dumpOptionalList rt)).getD item.limit_plan_ids
    limit_period := (data.limit_period.map (dumpOptionalList rt)).getD item.limit_period
    started_at := ← data.started_at.required item.started_at
    ended_at := ← data.ended_at.required item.ended_at }

def update (coupon_id : Int) (data : CouponUpdate) : Db Coupon := do
  match ← Prog.get Tbl.coupon coupon_id with
  | none => Prog.throw (NotFoundException "优惠券不存在")
  | some item =>
    let code ← lookedUpCode (normalizeCode rt) ensureCodeAvailable data.code item.code
    liftExcept (validatePayload (data.type.payload (Coupon.type item))
      (data.value.payload (Coupon.value item)) (data.started_at.payload (Coupon.started_at item))
      (data.ended_at.payload (Coupon.ended_at item)))
    updateRow .coupon item (← liftExcept (data.apply rt code item))

/-- The rounds of `generate`. -/
def generateRounds (data : CouponCreate) (ids : Nat → Int) (draws : Nat → Draws) :
    List Nat → Db (List Coupon)
  | [] => return []
  | round :: rounds => do
    let code ← generateCode (draws round)
    liftExcept data.validate
    PyBoard.create .coupon (data.row rt (ids round) code)
    return data.row rt (ids round) code :: (← generateRounds data ids draws rounds)

def generate (ids : Nat → Int) (draws : Nat → Draws) (data : CouponCreate)
    (generate_count : Int) : Db (List Coupon) :=
  if generate_count < 1 ∨ generate_count > 500 then
    Prog.throw (BadRequestException "生成数量必须在 1 到 500 之间")
  else generateRounds rt data ids draws (List.range generate_count.toNat)

end CouponService

/-! ## §3. Gift cards. -/

def GiftcardRepository.getByCode (code : String) : Db (Option Giftcard) := do
  scalarOneOrNone (← Prog.select Tbl.giftcard fun (g : Giftcard) => g.code = code)

def GiftcardRepository.codeExists (code : String) : Db Bool := do
  return (← GiftcardRepository.getByCode code).isSome

namespace GiftcardService

def generateCode (draws : Draws) : Db String :=
  firstUnused GiftcardRepository.codeExists "礼品卡码生成失败，请重试" draws.codes

def ensureCodeAvailable : String → Db Unit :=
  ensureUnused GiftcardRepository.codeExists "礼品卡码已存在"

/-- `_validate_payload`. -/
def validatePayload (type plan_id started_at ended_at : Option Int) : Except PyExc Unit := do
  if ¬type.any (fun type => 1 ≤ type && type ≤ 5) then
    .error (BadRequestException "礼品卡类型只支持 1=余额 2=时长 3=流量 4=重置 5=套餐")
  else if ← endsBeforeStart started_at ended_at then
    .error (BadRequestException "礼品卡结束时间必须晚于开始时间")
  else if type = some 5 ∧ plan_id = none then
    .error (BadRequestException "套餐礼品卡必须绑定套餐")
  else return ()

/-- 创建礼品卡, and with `generate_count` 批量生成. -/
structure GiftcardCreate where
  code : Option String := none
  name : String
  type : Int
  value : Option Int := none
  plan_id : Option Int := none
  limit_use : Option Int := none
  started_at : Int
  ended_at : Int

/-- `Giftcard(**payload)`. -/
def GiftcardCreate.row (data : GiftcardCreate) (id : Int) (code : String) : Giftcard where
  id := id
  code := code
  type := data.type
  value := data.value
  plan_id := data.plan_id
  limit_use := data.limit_use
  started_at := data.started_at
  ended_at := data.ended_at

def GiftcardCreate.validate (data : GiftcardCreate) : Except PyExc Unit :=
  validatePayload (some data.type) data.plan_id (some data.started_at) (some data.ended_at)

def create (id : Int) (draws : Draws) (data : GiftcardCreate) : Db Giftcard := do
  let code ← codeOr data.code (generateCode draws)
  let code ← liftExcept (normalizeCode rt code)
  ensureCodeAvailable code
  liftExcept data.validate
  PyBoard.create .giftcard (data.row id code)
  return data.row id code

structure GiftcardUpdate where
  code : Sent String := none
  name : Sent String := none
  type : Sent Int := none
  value : Sent Int := none
  plan_id : Sent Int := none
  limit_use : Sent Int := none
  used_user_ids : Sent String := none
  started_at : Sent Int := none
  ended_at : Sent Int := none

/-- The item after `setattr`; the columns that are NOT NULL are checked by the flush. -/
def GiftcardUpdate.apply (data : GiftcardUpdate) (code : Sent String) (item : Giftcard) :
    Except PyExc Giftcard := do
  let _name ← data.name.required ""
  return { item with
    code := ← code.required item.code
    type := ← data.type.required item.type
    value := data.value.getD item.value
    plan_id := data.plan_id.getD item.plan_id
    limit_use := data.limit_use.getD item.limit_use
    used_user_ids := data.used_user_ids.getD item.used_user_ids
    started_at := ← data.started_at.required item.started_at
    ended_at := ← data.ended_at.required item.ended_at }

def update (giftcard_id : Int) (data : GiftcardUpdate) : Db Giftcard := do
  match ← Prog.get Tbl.giftcard giftcard_id with
  | none => Prog.throw (NotFoundException "礼品卡不存在")
  | some item =>
    let code ← lookedUpCode (normalizeCode rt) ensureCodeAvailable data.code item.code
    liftExcept (validatePayload (data.type.payload (Giftcard.type item))
      (data.plan_id.getD (Giftcard.plan_id item))
      (data.started_at.payload (Giftcard.started_at item))
      (data.ended_at.payload (Giftcard.ended_at item)))
    updateRow .giftcard item (← liftExcept (data.apply code item))

/-- The rounds of `generate`. -/
def generateRounds (data : GiftcardCreate) (ids : Nat → Int) (draws : Nat → Draws) :
    List Nat → Db (List Giftcard)
  | [] => return []
  | round :: rounds => do
    let code ← generateCode (draws round)
    liftExcept data.validate
    PyBoard.create .giftcard (data.row (ids round) code)
    return data.row (ids round) code :: (← generateRounds data ids draws rounds)

def generate (ids : Nat → Int) (draws : Nat → Draws) (data : GiftcardCreate)
    (generate_count : Int) : Db (List Giftcard) :=
  if generate_count < 1 ∨ generate_count > 500 then
    Prog.throw (BadRequestException "生成数量必须在 1 到 500 之间")
  else generateRounds data ids draws (List.range generate_count.toNat)

end GiftcardService

/-! ## §4. Invite codes. -/

namespace InviteCodeRepository

/-- `select(InviteCode.id).where(InviteCode.code == code).limit(1)`. -/
def codeExists (code : String) : Db Bool := do
  let rows ← Prog.select Tbl.invite_code fun (i : InviteCode) => i.code = code
  return !rows.isEmpty

def countActiveByUser (user_id : Int) : Db Int := do
  let rows ← Prog.select Tbl.invite_code fun (i : InviteCode) => i.user_id = user_id && i.status = 0
  return rows.length

def getActiveByCode (code : String) : Db (Option InviteCode) := do
  scalarOneOrNone (← Prog.select Tbl.invite_code fun (i : InviteCode) =>
    i.code = code && i.status = 0)

def getByCode (code : String) : Db (Option InviteCode) := do
  scalarOneOrNone (← Prog.select Tbl.invite_code fun (i : InviteCode) => i.code = code)

end InviteCodeRepository

namespace InviteService

def generateCode (draws : Draws) : Db String :=
  firstUnused InviteCodeRepository.codeExists "邀请码生成失败，请重试" draws.codes

def createForUser (id : Int) (draws : Draws) (user_id : Int) : Db InviteCode := do
  let limit ← SettingService.Cached.getInt rt "invite_gen_limit" 5
  if (← InviteCodeRepository.countActiveByUser user_id) ≥ limit then
    Prog.throw (BadRequestException "邀请码创建数量已达上限")
  else
    let item : InviteCode :=
      { id := id, user_id := user_id, code := ← generateCode draws, status := 0 }
    PyBoard.create .invite_code item
    return item

structure InviteCodeCreate where
  user_id : Option Int := none
  code : Option String := none
  status : Int := 0

/-- `data.code.strip().upper() if data.code else await self._generate_code()`. -/
def codeOrGenerated (code : Option String) (draws : Draws) : Db String :=
  match givenCode code with
  | some code => return rt.upper (rt.strip code)
  | none => generateCode draws

def adminCreateInviteCode (id : Int) (draws : Draws) (data : InviteCodeCreate) :
    Db InviteCode := do
  match data.user_id with
  | none => Prog.throw (BadRequestException "user_id 不能为空")
  | some user_id =>
    match ← UserRepository.getById user_id with
    | none => Prog.throw (NotFoundException "用户不存在")
    | some _ =>
      let code ← codeOrGenerated rt data.code draws
      if ← InviteCodeRepository.codeExists code then
        Prog.throw (ConflictException "邀请码已存在")
      else
        let item : InviteCode :=
          { id := id, user_id := user_id, code := code, status := data.status }
        PyBoard.create .invite_code item
        return item

structure InviteCodeUpdate where
  status : Sent Int := none
  pv : Sent Int := none

/-- The item after `setattr`. -/
def InviteCodeUpdate.apply (data : InviteCodeUpdate) (item : InviteCode) :
    Except PyExc InviteCode := do
  return { item with
    status := ← data.status.required item.status
    pv := ← data.pv.required item.pv }

def adminUpdateInviteCode (invite_id : Int) (data : InviteCodeUpdate) : Db InviteCode := do
  match ← Prog.get Tbl.invite_code invite_id with
  | none => Prog.throw (NotFoundException "邀请码不存在")
  | some item => updateRow .invite_code item (← liftExcept (data.apply item))

end InviteService

end PyBoard
