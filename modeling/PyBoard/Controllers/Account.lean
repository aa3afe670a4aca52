/-
  PyBoard.Controllers.Account — the requests that make, use and change accounts.

  A request of the API carries its bearer token, an action of the admin pages its cookies.
  What a request draws at random and what the captcha service answers come with it.
-/
import PyBoard.AdminUi.Users

namespace PyBoard

open Relational

variable (rt : Runtime) (fm : Formats) (libs : PasswordLibs)

/-- `get_current_user`, `get_current_staff` or `get_current_admin`. -/
inductive Role
  | user | staff | admin
  deriving DecidableEq

/-- May an account act in the role? -/
def Role.admits : Role → User → Bool
  | .user, _ => true
  | .staff, u => u.is_staff || u.is_admin
  | .admin, u => u.is_admin

/-- The dependency of a router. -/
def Role.current (role : Role) (credentials : Option HTTPAuthorizationCredentials) : Db User := do
  let token ← liftExcept (getBearerToken rt credentials)
  match role with
  | .user => AuthService.getCurrentUser rt token
  | .staff => AuthService.requireStaff rt token
  | .admin => AuthService.requireAdmin rt token

/-- What an account asks for itself. -/
inductive OwnOp
  | me
  | updateProfile (data : UserService.UserSelfUpdate)
  | changePassword (hash_password : String → String) (data : UserService.UserChangePassword)
  | resetSecurity (uuid token : String)
  | unbindTelegram
  | getQuickLoginUrl (code redirect : String)

/-- What is asked about the accounts of others. -/
inductive ManageOp
  | createUser (drawn : UserService.NewAccount) (bytes : BitVec (8 * 18))
      (data : AuthService.UserCreate)
  | generateUsers (draws : Nat → UserService.Generated) (data : UserService.AdminUserGenerate)
  | updateUser (hash_password : String → String) (user_id : Int) (data : UserService.UserUpdate)
  | banUser (user_id : Int) (data : UserService.AdminUserBan)
  | resetUserSecurity (user_id : Int) (uuid token : String)
  | setInviteUser (user_id : Int) (data : UserService.AdminUserInviteSetter)
  | deleteUser (user_id : Int)

/-- The part of it that the router of the staff offers. -/
inductive StaffOp
  | updateUser (hash_password : String → String) (user_id : Int) (data : UserService.UserUpdate)
  | banUser (user_id : Int) (data : UserService.AdminUserBan)

/-- The actions of the admin pages. -/
inductive PageOp
  | createUser (drawn : UserService.NewAccount) (bytes : BitVec (8 * 18))
  | generateUsers (draws : Nat → UserService.Generated)
  | updateUser (hash_password : String → String) (user_id : Int)
  | banUser (user_id : Int)
  | resetUserSecurity (user_id : Int) (uuid token : String)
  | deleteUser (user_id : Int)

/-- A request about accounts. -/
inductive AccountOp
  | register (http : TurnstileService.Siteverify) (drawn : AuthService.Drawn)
      (data : AuthService.UserCreate) (client_ip : Option String)
  | login (http : TurnstileService.Siteverify) (hash_password : String → String)
      (data : AuthService.LoginRequest) (client_ip : Option String)
  | token2Login (verify token : Option String) (redirect : String)
  | forgetPassword (http : TurnstileService.Siteverify) (hash_password : String → String)
      (data : AuthService.ForgetPasswordRequest) (client_ip : Option String)
  | sendEmailVerify (http : TurnstileService.Siteverify) (drawn : Nat)
      (data : AuthService.EmailVerifyRequest) (client_ip : Option String)
  | recordInvitePv (invite_code : Option String)
  | own (credentials : Option HTTPAuthorizationCredentials) (op : OwnOp)
  | manage (credentials : Option HTTPAuthorizationCredentials) (op : ManageOp)
  | staff (credentials : Option HTTPAuthorizationCredentials) (op : StaffOp)
  | loginSubmit (hash_password : String → String) (request : AdminUi.Request)
  | page (query : AdminUi.Form) (request : AdminUi.Request) (op : PageOp)
  /-- `pyboard_cleanup_runtime_cache`, which pg_cron calls. -/
  | cleanupRuntimeCache

/-- The handler, once the account is known. -/
def OwnOp.handler (user_id : Int) : OwnOp → Db Unit
  | .me => return ()
  | .updateProfile data => do let _done ← UserService.updateProfile user_id data
  | .changePassword hash_password data => do
      let _done ← UserService.changePassword libs hash_password user_id data
  | .resetSecurity uuid token => do
      let _identity ← UserService.resetSecurity user_id uuid token
  | .unbindTelegram => do let _done ← UserService.unbindTelegram user_id
  | .getQuickLoginUrl code redirect => do
      let _url ← PyBoard.getQuickLoginUrl rt user_id code redirect

def ManageOp.handler : ManageOp → Db Unit
  | .createUser drawn bytes data => do let _user ← UserService.createUser drawn bytes data
  | .generateUsers draws data => do
      let _generated ← UserService.adminGenerateUsers rt draws data
  | .updateUser hash_password user_id data => do
      let _user ← UserService.updateUser hash_password user_id data
  | .banUser user_id data => do let _done ← UserService.adminSetBanned user_id data
  | .resetUserSecurity user_id uuid token => do
      let _done ← UserService.adminResetSecurity user_id uuid token
  | .setInviteUser user_id data => do let _done ← UserService.adminSetInviteUser rt user_id data
  | .deleteUser user_id => UserService.deleteUser user_id

def StaffOp.handler : StaffOp → Db Unit
  | .updateUser hash_password user_id data => do
      let _user ← UserService.updateUser hash_password user_id data
  | .banUser user_id data => do let _done ← UserService.adminSetBanned user_id data

def PageOp.handler (query : AdminUi.Form) (request : AdminUi.Request) : PageOp → Db AdminUi.Page
  | .createUser drawn bytes => AdminUi.createUserAction rt query request drawn bytes
  | .generateUsers draws => AdminUi.generateUsersAction rt query request draws
  | .updateUser hash_password user_id =>
      AdminUi.updateUserAction rt query request hash_password user_id
  | .banUser user_id => AdminUi.banUserAction rt query request user_id
  | .resetUserSecurity user_id uuid token =>
      AdminUi.resetUserSecurityAction rt query request user_id uuid token
  | .deleteUser user_id => AdminUi.deleteUserAction rt query request user_id

/-- **The transaction of a request.** -/
def AccountOp.prog : AccountOp → Db Unit
  | .register http drawn data client_ip => do
      let _token ← AuthService.register rt fm http drawn data client_ip
  | .login http hash_password data client_ip => do
      let _token ← AuthService.login rt fm libs http hash_password data client_ip
  | .token2Login verify token redirect => do
      let _answer ← PyBoard.token2Login rt fm verify token redirect
  | .forgetPassword http hash_password data client_ip => do
      let _done ← AuthService.forgetPassword rt http hash_password data none client_ip
  | .sendEmailVerify http drawn data client_ip => do
      let _code ← PyBoard.sendEmailVerify rt http drawn data client_ip
  | .recordInvitePv invite_code => do let _done ← AuthService.recordInvitePv rt invite_code
  | .own credentials op => do
      let user ← Role.user.current rt credentials
      op.handler rt libs user.id
  | .manage credentials op => do
      let _user ← Role.admin.current rt credentials
      op.handler rt
  | .staff credentials op => do
      let _user ← Role.staff.current rt credentials
      op.handler
  | .loginSubmit hash_password request => do
      let _page ← AdminUi.loginSubmit rt fm libs hash_password request
  | .page query request op => do let _page ← op.handler rt query request
  | .cleanupRuntimeCache => do let _count ← RuntimeCache.cleanupExpired

/-- Interleaved runs of the requests. -/
abbrev AccountRuns (db : Database) (now : Int) (c : Config AccountOp Tbl PyExc Unit) : Prop :=
  Reaches (AccountOp.prog rt fm libs) Cond.any (.quiet ⟨db, now⟩) c

end PyBoard
