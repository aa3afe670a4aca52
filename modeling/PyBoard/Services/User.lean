/-
  PyBoard.Services.User — creating, generating and updating accounts.

  What a request draws is a parameter: the identifiers of the new rows, the salts of
  `hash_password`, and the bytes behind `secrets` and `uuid`.  The validators of the request
  bodies are left out.
-/
import PyBoard.Python.Uuid
import PyBoard.Services.Auth

namespace PyBoard.UserService

open Relational

variable (rt : Runtime)

/-! ## §1. New accounts. -/

/-- What a new account draws. -/
structure NewAccount where
  id : Int
  hash_password : String → String
  token : BitVec (8 * 16)

/-- 注册新用户。  `bytes` is what `secrets.token_hex(18)` draws for the column `uuid`. -/
def createUser (drawn : NewAccount) (bytes : BitVec (8 * 18)) (data : AuthService.UserCreate) :
    Db User := do
  if ← UserRepository.emailExists data.email then
    Prog.throw (ConflictException "邮箱已注册")
  else
    let user : User :=
      { id := drawn.id
        email := data.email
        password := drawn.hash_password data.password
        token := tokenHex drawn.token
        uuid := tokenHex bytes }
    createUserRow user
    return user

/-- 管理端生成用户。 -/
structure AdminUserGenerate where
  email_prefix : Option String := none
  email_suffix : String
  password : Option String := none
  plan_id : Option Int := none
  expired_at : Option Int := none
  generate_count : Option Int := none

/-- What one of the generated accounts draws. -/
structure Generated extends NewAccount where
  uuid : BitVec 128
  /-- `_random_prefix()`. -/
  prefix_drawn : String

/-- `text.lstrip('@')`. -/
def lstripAt (text : String) : String := String.ofList (text.toList.dropWhile (· = '@'))

/-- The address of the account with an index. -/
def generatedEmail (data : AdminUserGenerate) (count : Int) (index : Nat) (drawn : Generated) :
    String :=
  let sent := data.email_prefix.filter (· ≠ "")
  let name := match sent with
    | some name => rt.lower (rt.strip name)
    | none => drawn.prefix_drawn
  let name := if count > 1 ∧ sent.isSome then name ++ toString (index + 1) else name
  name ++ "@" ++ lstripAt (rt.lower (rt.strip data.email_suffix))

/-- `data.password or email`. -/
def AdminUserGenerate.passwordFor (data : AdminUserGenerate) (email : String) : String :=
  (data.password.filter (· ≠ "")).getD email

/-- The account with an address. -/
def AdminUserGenerate.user (data : AdminUserGenerate) (plan : Option Plan) (email : String)
    (drawn : Generated) : User where
  id := drawn.id
  email := email
  password := drawn.hash_password (data.passwordFor email)
  token := tokenHex drawn.token
  uuid := uuid4 drawn.uuid
  plan_id := plan.map Plan.id
  group_id := plan.map Plan.group_id
  transfer_enable := (plan.map Plan.transfer_enable).getD 0
  device_limit := plan.bind Plan.device_limit
  speed_limit := plan.bind Plan.speed_limit
  expired_at := some (data.expired_at.getD 0)

/-- `for index in range(count)`: the accounts and their passwords. -/
def generateRounds (data : AdminUserGenerate) (count : Int) (plan : Option Plan)
    (draws : Nat → Generated) : List Nat → Db (List (User × String))
  | [] => return []
  | index :: rest => do
    let email := generatedEmail rt data count index (draws index)
    if ← UserRepository.emailExists email then
      Prog.throw (ConflictException ("邮箱 " ++ email ++ " 已存在"))
    else
      let user := data.user plan email (draws index)
      createUserRow user
      return (user, data.passwordFor email) :: (← generateRounds data count plan draws rest)

/-- `if data.plan_id: plan = …`. -/
def generatedPlan (plan_id : Option Int) : Db (Option Plan) := do
  match plan_id.filter (· ≠ 0) with
  | none => return none
  | some plan_id =>
    match ← PlanRepository.getById plan_id with
    | none => Prog.throw (NotFoundException "套餐不存在")
    | some plan => return some plan

/-- 管理端批量生成用户。 -/
def adminGenerateUsers (draws : Nat → Generated) (data : AdminUserGenerate) :
    Db (List (User × String)) := do
  if data.email_suffix = "" ∨ '@' ∈ data.email_suffix.toList then
    Prog.throw (BadRequestException "邮箱后缀格式不正确")
  else
    let count := (data.generate_count.filter (· ≠ 0)).getD 1
    if count < 1 ∨ count > 500 then
      Prog.throw (BadRequestException "生成数量必须在 1-500 之间")
    else
      let plan ← generatedPlan data.plan_id
      generateRounds rt data count plan draws (List.range count.toNat)

/-! ## §2. Updates. -/

/-- 部分更新，所有字段 Optional。 -/
structure UserUpdate where
  email : Sent String := none
  password : Sent String := none
  balance : Sent Int := none
  discount : Sent Int := none
  commission_type : Sent Int := none
  commission_rate : Sent Int := none
  transfer_enable : Sent Int := none
  device_limit : Sent Int := none
  banned : Sent Bool := none
  is_admin : Sent Bool := none
  is_staff : Sent Bool := none
  speed_limit : Sent Int := none
  group_id : Sent Int := none
  plan_id : Sent Int := none
  auto_renewal : Sent Int := none
  remind_expire : Sent Int := none
  remind_traffic : Sent Int := none
  expired_at : Sent Int := none
  remarks : Sent String := none

/-- The account after `setattr`; the columns that are NOT NULL are checked by the flush. -/
def UserUpdate.apply (data : UserUpdate) (hash_password : String → String) (user : User) :
    Except PyExc User := do
  let expired_at ← match data.expired_at with
    | none => .ok user.expired_at
    | some (some expired_at) => .ok (some expired_at)
    | some none => .error (.other "IntegrityError")
  return { user with
    email := (data.email.getD none).getD user.email
    password := ((data.password.getD none).map hash_password).getD user.password
    balance := ← data.balance.required user.balance
    discount := data.discount.getD user.discount
    commission_type := ← data.commission_type.required user.commission_type
    commission_rate := data.commission_rate.getD user.commission_rate
    transfer_enable := ← data.transfer_enable.required user.transfer_enable
    device_limit := data.device_limit.getD user.device_limit
    banned := ← data.banned.required user.banned
    is_admin := ← data.is_admin.required user.is_admin
    is_staff := ← data.is_staff.required user.is_staff
    speed_limit := data.speed_limit.getD user.speed_limit
    group_id := data.group_id.getD user.group_id
    plan_id := data.plan_id.getD user.plan_id
    auto_renewal := ← data.auto_renewal.required user.auto_renewal
    remind_expire := ← data.remind_expire.required user.remind_expire
    remind_traffic := ← data.remind_traffic.required user.remind_traffic
    expired_at := expired_at
    remarks := data.remarks.getD user.remarks }

/-- `elif email != user.email and await self.repo.email_exists(email): raise …`. -/
def ensureEmailAvailable (user : User) : Sent String → Db Unit
  | some (some email) => do
    if email ≠ user.email then
      if ← UserRepository.emailExists email then Prog.throw (ConflictException "邮箱已注册")
  | _ => return ()

/-- 更新用户资料（部分更新）。 -/
def updateUser (hash_password : String → String) (user_id : Int) (data : UserUpdate) : Db User := do
  match ← UserRepository.getById user_id with
  | none => Prog.throw (NotFoundException ("用户 " ++ toString user_id ++ " 不存在"))
  | some user =>
    ensureEmailAvailable user data.email
    updateRow .users user (← liftExcept (data.apply hash_password user))

end PyBoard.UserService
