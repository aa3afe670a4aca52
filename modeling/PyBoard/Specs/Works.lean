/-
  PyBoard.Specs.Works — what the requests about accounts write.

  Besides rows of the cache they write rows of five tables.  `Works P K` says that such
  statements satisfy `P`, where `K` are the keys of the cache; one lemma for each service says
  that its statements do.
-/
import PyBoard.Specs.Account

namespace PyBoard

open Relational

variable {rt : Runtime} {fm : Formats} {libs : PasswordLibs}

/-! ## §1. Statements. -/

/-- The tables whose rows the requests change. -/
def accountTables : List Tbl := [.users, .invite_code, .ticket, .ticket_message, .orders]

/-- Statements that read, statements of the cache and writes of these tables satisfy `P`. -/
structure Works (P : Stmt Tbl → Prop) (K : String → Prop) : Prop extends Serves P K where
  change : ∀ {t : Tbl}, t ∈ accountTables → ∀ old new : t.Row, P (.update t old new)
  create : ∀ {t : Tbl}, t ∈ accountTables → ∀ r : t.Row, P (.insert t r)
  remove : ∀ {t : Tbl}, t ∈ accountTables → ∀ k : t.Key, P (.delete t k)

variable {P : Stmt Tbl → Prop} {K : String → Prop} (hw : Works P K)

include hw

theorem works_create {t : Tbl} (ht : t ∈ accountTables) (r : t.Row) : (create t r).Obeys P :=
  .bind (.stmt (hw.create ht r)) fun _ => .ite (.ret _) (.throw _)

/-! ## §2. Services. -/

theorem UserRepository.works_update (old new : User) :
    (UserRepository.update old new).Obeys P := by
  rw [UserRepository.update_eq_updateRow]
  exact obeys_updateRow hw.toServes (hw.change (t := Tbl.users) (by decide) old new)

namespace AuthService

open SettingService.Cached

variable (http : TurnstileService.Siteverify) (hash_password : String → String)

theorem works_login (data : LoginRequest) (client_ip : Option String)
    (verify_turnstile : Bool) :
    (login rt fm libs http hash_password data client_ip verify_turnstile).Obeys P := by
  refine .bind (obeys_whenever (TurnstileService.obeys_verifyIfEnabled hw.toServes _ _ _))
    fun _ => .bind (obeys_selectOne hw.toServes _ _) fun found => ?_
  cases found with
  | none => exact .throw _
  | some user =>
    refine .bind (obeys_liftExcept _) fun verified => .ite (.throw _) (.ite (.throw _) ?_)
    exact .bind (obeys_time hw.toServes) fun _ =>
      .bind (UserRepository.works_update hw _ _) fun _ =>
      .bind (obeys_time hw.toServes) fun _ => .ret _

theorem works_buildTokenForUserId (user_id : Int) :
    (buildTokenForUserId fm user_id).Obeys P := by
  refine .bind (.stmt (hw.reads trivial)) fun found => ?_
  cases found with
  | none => exact .throw _
  | some user =>
    refine .ite (.throw _) (.bind (obeys_time hw.toServes) fun now => ?_)
    exact .bind (UserRepository.works_update hw _ _) fun _ =>
      .bind (obeys_time hw.toServes) fun _ => .ret _

/-- Setting the password, and taking the code away. -/
theorem works_resetPassword (email : String) (password : String) :
    (do
      match ← UserRepository.getByEmail email with
      | none => Prog.throw (NotFoundException "该邮箱未注册")
      | some user =>
        let _user ← UserRepository.update user { user with password := password }
        let _count ← RuntimeCache.delete [emailVerifyCodeKey email]
        return true : Db Bool).Obeys P := by
  refine .bind (obeys_selectOne hw.toServes _ _) fun found => ?_
  cases found with
  | none => exact .throw _
  | some user =>
    exact .bind (UserRepository.works_update hw _ _) fun _ =>
      .bind (RuntimeCache.obeys_delete hw.toServes _) fun _ => .ret _

theorem works_forgetPassword (data : ForgetPasswordRequest)
    (email_code client_ip : Option String) :
    (forgetPassword rt http hash_password data email_code client_ip).Obeys P :=
  .bind (TurnstileService.obeys_verifyIfEnabled hw.toServes _ _ _) fun _ =>
    .bind (obeys_expectedCode hw.toServes _ _) fun _ =>
    .ite (.throw _) (works_resetPassword hw _ _)

theorem works_register (hverify : K (cacheKey emailVerifySetting)) (drawn : Drawn)
    (data : UserCreate) (client_ip : Option String) :
    (register rt fm http drawn data client_ip).Obeys P := by
  refine .bind (obeys_getInt hw.toServes (hw.settings (by decide)) _) fun stop =>
    .ite (.throw _) ?_
  refine .bind (obeys_checkEmailPolicy hw.toServes _) fun _ =>
    .bind (obeys_checkRegisterLimit hw.toServes _) fun _ =>
    .bind (TurnstileService.obeys_verifyIfEnabled hw.toServes _ _ _) fun _ =>
    .bind (obeys_getInt hw.toServes hverify _) fun verify =>
    .bind (obeys_whenever (obeys_verifyEmailCode hw.toServes _ _)) fun _ =>
    .bind (obeys_emailExists hw.toServes _) fun taken => .ite (.throw _) ?_
  refine .bind (obeys_resolveInviteUserId hw.toServes
    (hw.change (t := Tbl.invite_code) (by decide)) _) fun inviter =>
    .bind (obeys_time hw.toServes) fun now =>
    .bind (works_create hw (by decide) _) fun _ => ?_
  exact .bind (RuntimeCache.obeys_delete hw.toServes _) fun _ =>
    .bind (obeys_time hw.toServes) fun _ => .ret _

theorem works_recordInvitePv (invite_code : Option String) :
    (recordInvitePv rt invite_code).Obeys P :=
  obeys_recordInvitePv hw.toServes
    (hw.change (t := Tbl.invite_code) (by decide)) invite_code

end AuthService

theorem works_token2Login (verify token : Option String) (redirect : String) :
    (token2Login rt fm verify token redirect).Obeys P := by
  refine .ite (.ret _) (.ite (.ret _) (.bind (RuntimeCache.obeys_get hw.toServes _) ?_))
  intro found
  cases found with
  | none => exact .ret _
  | some value =>
    refine .bind (RuntimeCache.obeys_delete hw.toServes _) fun _ =>
      .bind (obeys_liftExcept _) fun user_id => ?_
    exact .bind (AuthService.works_buildTokenForUserId hw _) fun _ => .ret _

namespace UserService

/-- The UPDATE of an account that has to exist. -/
theorem works_existing_update {user_id : Int} {detail : String} {f : User → Db User}
    (hf : ∀ user, (f user).Obeys P) :
    (do
      let user ← existing user_id detail
      let _user ← f user
      return true).Obeys P :=
  .bind (obeys_existing hw.toServes _ _) fun user => .bind (hf user) fun _ => .ret _

theorem works_updateProfile (user_id : Int) (data : UserSelfUpdate) :
    (updateProfile user_id data).Obeys P :=
  .bind (obeys_existing hw.toServes _ _) fun _ => .bind (obeys_liftExcept _) fun _ =>
    .bind (UserRepository.works_update hw _ _) fun _ => .ret _

theorem works_changePassword (hash_password : String → String) (user_id : Int)
    (data : UserChangePassword) :
    (changePassword libs hash_password user_id data).Obeys P :=
  .bind (obeys_existing hw.toServes _ _) fun _ => .bind (obeys_liftExcept _) fun _ =>
    .ite (.throw _) (.bind (UserRepository.works_update hw _ _) fun _ => .ret _)

theorem works_unbindTelegram (user_id : Int) : (unbindTelegram user_id).Obeys P := by
  refine .bind (.stmt (hw.reads trivial)) fun found => ?_
  cases found with
  | none => exact .throw _
  | some user =>
    exact .bind (obeys_updateRow hw.toServes (hw.change (t := Tbl.users) (by decide) _ _))
      fun _ => .ret _

theorem works_adminSetBanned (user_id : Int) (data : AdminUserBan) :
    (adminSetBanned user_id data).Obeys P :=
  works_existing_update hw fun _ => UserRepository.works_update hw _ _

theorem works_resetSecurity (user_id : Int) (uuid token : String) :
    (resetSecurity user_id uuid token).Obeys P := by
  refine .bind (.stmt (hw.reads trivial)) fun found => ?_
  cases found with
  | none => exact .throw _
  | some user => exact .bind (UserRepository.works_update hw _ _) fun _ => .ret _

theorem works_adminResetSecurity (user_id : Int) (uuid token : String) :
    (adminResetSecurity user_id uuid token).Obeys P :=
  .bind (works_resetSecurity hw _ _ _) fun _ => .ret _

theorem works_adminSetInviteUser (user_id : Int) (data : AdminUserInviteSetter) :
    (adminSetInviteUser rt user_id data).Obeys P :=
  .bind (obeys_existing hw.toServes _ _) fun _ =>
    .bind (obeys_inviterOf hw.toServes _ _) fun _ =>
    .bind (UserRepository.works_update hw _ _) fun _ => .ret _

theorem works_updateUser (hash_password : String → String) (user_id : Int)
    (data : UserUpdate) : (updateUser hash_password user_id data).Obeys P := by
  refine .bind (.stmt (hw.reads trivial)) fun found => ?_
  cases found with
  | none => exact .throw _
  | some user =>
    exact .bind (obeys_ensureEmailAvailable hw.toServes _ _) fun _ =>
      .bind (obeys_liftExcept _) fun _ =>
        obeys_updateRow hw.toServes (hw.change (t := Tbl.users) (by decide) _ _)

theorem works_createUserRow (user : User) : (createUserRow user).Obeys P :=
  .ite (works_create hw (by decide) _) (.throw _)

theorem works_createUser (drawn : NewAccount) (bytes : BitVec (8 * 18))
    (data : AuthService.UserCreate) : (createUser drawn bytes data).Obeys P :=
  .bind (obeys_emailExists hw.toServes _) fun _ => .ite (.throw _)
    (.bind (works_createUserRow hw _) fun _ => .ret _)

/-- The induction is on the accounts that are still to be generated. -/
theorem works_generateRounds (data : AdminUserGenerate) (count : Int) (plan : Option Plan)
    (draws : Nat → Generated) (rounds : List Nat) :
    (generateRounds rt data count plan draws rounds).Obeys P := by
  induction rounds with
  | nil => exact .ret _
  | cons index rest ih =>
    exact .bind (obeys_emailExists hw.toServes _) fun _ => .ite (.throw _)
      (.bind (works_createUserRow hw _) fun _ => .bind ih fun _ => .ret _)

theorem works_adminGenerateUsers (draws : Nat → Generated) (data : AdminUserGenerate) :
    (adminGenerateUsers rt draws data).Obeys P :=
  .ite (.throw _) (.ite (.throw _)
    (.bind (obeys_generatedPlan hw.toServes _) fun _ => works_generateRounds hw _ _ _ _ _))

/-- Rows are removed. -/
theorem works_deleteReturning {t : Tbl} (ht : t ∈ accountTables) (p : t.Row → Bool) :
    (Prog.deleteReturning t p : Db _).Obeys P :=
  .deleteReturning (hw.reads trivial) (fun _ => hw.reads trivial) fun _ _ => hw.remove ht _

theorem works_deleteUser (user_id : Int) : (deleteUser user_id).Obeys P := by
  have hdelete : ∀ {t : Tbl} (p : t.Row → Bool), t ∈ accountTables →
      (Prog.deleteReturning t p : Db _).Obeys P := fun p ht => works_deleteReturning hw ht p
  refine .bind (obeys_existing hw.toServes _ _) fun user => .bind ?_ fun _ =>
    .bind (.stmt (hw.remove (by decide) _)) fun _ => .ret _
  refine .bind (.stmt (hw.reads trivial)) fun tickets =>
    .bind (.ite (.bind (hdelete _ (by decide)) fun _ => .ret _) (.ret _)) fun _ => ?_
  refine .bind (hdelete _ (by decide)) fun _ => .bind (hdelete _ (by decide)) fun _ =>
    .bind (hdelete _ (by decide)) fun _ => .bind ?_ fun _ => .ret _
  exact .updateReturning (hw.reads trivial) (fun _ => hw.reads trivial)
    fun _ _ => hw.change (by decide) _ _

end UserService

/-! ## §3. Requests. -/

namespace AdminUi

theorem works_usersTableResponse (query form : Form) :
    (usersTableResponse rt query form).Obeys P :=
  .bind (obeys_liftExcept _) fun _ => .bind (obeys_liftExcept _) fun _ =>
    .bind (obeys_liftExcept _) fun _ => .bind (.stmt (hw.reads trivial)) fun _ => .ret _

omit hw in
theorem works_formData (request : Request) : (formData request).Obeys P := by
  unfold formData
  split
  · exact .ret _
  · exact .throw _

theorem works_action {request : Request} {run : Form → Db Page}
    (hrun : ∀ form, (run form).Obeys P) : (action rt request run).Obeys P := by
  have hadmin : (currentAdmin rt request).Obeys P := by
    unfold currentAdmin
    split
    · exact .ret _
    · refine .ite (.ret _) (.bind (obeys_time hw.toServes) fun now => ?_)
      split
      · exact .ret _
      · refine .bind (.stmt (hw.reads trivial)) fun found => ?_
        cases found with
        | none => exact .ret _
        | some user => exact .ret _
  refine .bind hadmin fun found => ?_
  cases found with
  | none => exact .ret _
  | some user_id =>
    exact .bind (works_formData request) fun form => .bind (obeys_liftExcept _) fun _ =>
      .ite (hrun form) (.ret _)

omit hw in
theorem works_orFormError {service : Db Unit} {response : Db Page} (hservice : service.Obeys P)
    (hresponse : response.Obeys P) : (orFormError service response).Obeys P := by
  refine .bind (.tryCatch (.bind hservice fun _ => .ret _) fun e => ?_) fun error => ?_
  · cases e <;> first | exact .ret _ | exact .throw _
  · cases error with
    | none => exact hresponse
    | some detail => exact .ret _

omit hw in
theorem works_orActionError {service : Db Unit} {response : Db Page}
    (hservice : service.Obeys P) (hresponse : response.Obeys P) :
    (orActionError service response).Obeys P := by
  refine .bind (.tryCatch (.bind hservice fun _ => .ret _) fun e => ?_) fun error => ?_
  · cases e <;> first | exact .ret _ | exact .throw _
  · cases error with
    | none => exact hresponse
    | some detail => exact .ret _

theorem works_loginSubmit (hash_password : String → String) (request : Request) :
    (loginSubmit rt fm libs hash_password request).Obeys P := by
  refine .bind (works_formData request) fun form => .ite (.ret _) (.tryCatch ?_ fun e => ?_)
  · exact .bind (obeys_liftExcept _) fun _ =>
      .bind (AuthService.works_login hw _ _ _ _ _) fun _ =>
      .bind (AuthService.obeys_requireAdmin hw.toServes _) fun _ => .ret _
  · cases e <;> first | exact .ret _ | exact .throw _

end AdminUi

theorem ManageOp.works (op : ManageOp) : (op.handler rt).Obeys P := by
  cases op with
  | createUser drawn bytes data =>
    exact .bind (UserService.works_createUser hw drawn bytes data) fun _ => .ret _
  | generateUsers draws data =>
    exact .bind (UserService.works_adminGenerateUsers hw draws data) fun _ => .ret _
  | updateUser hash_password user_id data =>
    exact .bind (UserService.works_updateUser hw hash_password user_id data) fun _ => .ret _
  | banUser user_id data =>
    exact .bind (UserService.works_adminSetBanned hw user_id data) fun _ => .ret _
  | resetUserSecurity user_id uuid token =>
    exact .bind (UserService.works_adminResetSecurity hw user_id uuid token) fun _ => .ret _
  | setInviteUser user_id data =>
    exact .bind (UserService.works_adminSetInviteUser hw user_id data) fun _ => .ret _
  | deleteUser user_id => exact UserService.works_deleteUser hw user_id

theorem StaffOp.works (op : StaffOp) : op.handler.Obeys P := by
  cases op with
  | updateUser hash_password user_id data =>
    exact .bind (UserService.works_updateUser hw hash_password user_id data) fun _ => .ret _
  | banUser user_id data =>
    exact .bind (UserService.works_adminSetBanned hw user_id data) fun _ => .ret _

theorem PageOp.works (op : PageOp) (query : AdminUi.Form) (request : AdminUi.Request) :
    (op.handler rt query request).Obeys P := by
  have htable : ∀ form, (AdminUi.usersTableResponse rt query form).Obeys P :=
    AdminUi.works_usersTableResponse hw query
  cases op with
  | createUser drawn bytes =>
    refine AdminUi.works_action hw fun form => AdminUi.works_orFormError ?_ (htable form)
    exact .bind (obeys_liftExcept _) fun data =>
      .bind (UserService.works_createUser hw drawn bytes data) fun _ => .ret _
  | generateUsers draws =>
    refine AdminUi.works_action hw fun form => AdminUi.works_orFormError ?_ (htable form)
    exact .bind (obeys_liftExcept _) fun data =>
      .bind (UserService.works_adminGenerateUsers hw draws data) fun _ => .ret _
  | updateUser hash_password user_id =>
    refine AdminUi.works_action hw fun form => AdminUi.works_orFormError ?_ (htable form)
    exact .bind (obeys_liftExcept _) fun data =>
      .bind (UserService.works_updateUser hw hash_password user_id data) fun _ => .ret _
  | banUser user_id =>
    exact AdminUi.works_action hw fun form =>
      .bind (UserService.works_adminSetBanned hw user_id _) fun _ => htable form
  | resetUserSecurity user_id uuid token =>
    exact AdminUi.works_action hw fun form =>
      .bind (UserService.works_adminResetSecurity hw user_id uuid token) fun _ => htable form
  | deleteUser user_id =>
    exact AdminUi.works_action hw fun form =>
      AdminUi.works_orActionError (UserService.works_deleteUser hw user_id) (htable form)

theorem Role.works_current (role : Role) (credentials : Option HTTPAuthorizationCredentials) :
    (role.current rt credentials).Obeys P := by
  refine .bind (obeys_liftExcept _) fun token => ?_
  cases role with
  | user => exact AuthService.obeys_getCurrentUser hw.toServes token
  | staff =>
    exact .bind (AuthService.obeys_getCurrentUser hw.toServes token) fun _ =>
      .ite (.throw _) (.ret _)
  | admin => exact AuthService.obeys_requireAdmin hw.toServes token


/-- Does the request register an account? -/
def AccountOp.Registers : AccountOp → Prop
  | .register .. => True
  | _ => False

theorem OwnOp.works (hlink : ∀ code, K (tempTokenKey code)) (op : OwnOp) (user_id : Int) :
    (op.handler rt libs user_id).Obeys P := by
  cases op with
  | me => exact .ret _
  | updateProfile data =>
    exact .bind (UserService.works_updateProfile hw user_id data) fun _ => .ret _
  | changePassword hash_password data =>
    exact .bind (UserService.works_changePassword hw hash_password user_id data) fun _ => .ret _
  | resetSecurity uuid token =>
    exact .bind (UserService.works_resetSecurity hw user_id uuid token) fun _ => .ret _
  | unbindTelegram => exact .bind (UserService.works_unbindTelegram hw user_id) fun _ => .ret _
  | getQuickLoginUrl code redirect =>
    exact .bind (obeys_getQuickLoginUrl hw.toServes user_id (hlink code) redirect) fun _ => .ret _

/-- **The statements of a request.** -/
theorem AccountOp.works (hcode : ∀ email, K (AuthService.emailVerifyCodeKey email))
    (hlink : ∀ code, K (tempTokenKey code)) (op : AccountOp)
    (hverify : op.Registers → K (SettingService.Cached.cacheKey emailVerifySetting)) :
    (op.prog rt fm libs).Obeys P := by
  cases op with
  | register http drawn data client_ip =>
    exact .bind (AuthService.works_register hw http (hverify trivial) drawn data client_ip)
      fun _ => .ret _
  | login http hash_password data client_ip =>
    exact .bind (AuthService.works_login hw http hash_password data client_ip _) fun _ => .ret _
  | token2Login verify token redirect =>
    exact .bind (works_token2Login hw verify token redirect) fun _ => .ret _
  | forgetPassword http hash_password data client_ip =>
    exact .bind (AuthService.works_forgetPassword hw http hash_password data _ _) fun _ => .ret _
  | sendEmailVerify http drawn data client_ip =>
    exact .bind (obeys_sendEmailVerify hw.toServes http drawn (hcode _) client_ip) fun _ => .ret _
  | recordInvitePv invite_code =>
    exact .bind (AuthService.works_recordInvitePv hw invite_code) fun _ => .ret _
  | own credentials op =>
    exact .bind (Role.works_current hw _ _) fun user => op.works hw hlink user.id
  | manage credentials op => exact .bind (Role.works_current hw _ _) fun _ => op.works hw
  | staff credentials op => exact .bind (Role.works_current hw _ _) fun _ => op.works hw
  | loginSubmit hash_password request =>
    exact .bind (AdminUi.works_loginSubmit hw hash_password request) fun _ => .ret _
  | page query request op => exact .bind (op.works hw query request) fun _ => .ret _
  | cleanupRuntimeCache =>
    exact .bind (RuntimeCache.obeys_cleanupExpired hw.toServes) fun _ => .ret _

end PyBoard
