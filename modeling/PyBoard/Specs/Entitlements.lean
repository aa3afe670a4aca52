/-
  PyBoard.Specs.Entitlements — who may change which account.

  A request that changes accounts has a reason: the account that its token names was stored,
  was not banned and had the role of the router while the request ran, or a password was
  verified.  `AccountOp.Permits` says what a request may then do.  `M` are the moments of its
  transaction.

  Main definitions:
    * `Acting`, `Bearing`, `PageActing`, `LoggingIn` — the reasons.
    * `AccountOp.Permits` — a request and what it may do.

  Main results:
    * `AccountOp.explained` — every request keeps to a permit that it has.
-/
import PyBoard.Relational.Moments
import PyBoard.Specs.Account

namespace PyBoard

open Relational

/-! ## §1. Reasons. -/

section

variable (rt : Runtime) (libs : PasswordLibs) (M : Int → Database → Prop)

/-- The account that a token names, stored and not banned, and allowed to act in a role. -/
structure Acting (role : Role) (token : String) (u : User) : Prop where
  named : ∃ now D, M now D ∧ rt.decode_user_id now token = some u.id
  stored : ∃ now D, M now D ∧ (D .users).get? u.id = some u
  banned : u.banned = false
  role : role.admits u = true

/-- The account acts through the header of a request. -/
def Bearing (role : Role) (credentials : Option HTTPAuthorizationCredentials) (u : User) : Prop :=
  ∃ token, getBearerToken rt credentials = .ok token ∧ Acting rt M role token u

/-- The account acts through the cookies of a page, with the CSRF token. -/
structure PageActing (request : AdminUi.Request) (form : AdminUi.Form) (u : User) : Prop where
  acting : ∃ token, request.token = some token ∧ Acting rt M .admin token u
  submitted : request.form = some form
  csrf : AdminUi.validCsrf request form = .ok true

/-- A password that verifies against the one that is stored for an address. -/
structure LoggingIn (hash_password : String → String) (data : AuthService.LoginRequest)
    (u : User) (new_hash : Option String) : Prop where
  stored : ∃ now D, M now D ∧ (D .users).get? u.id = some u
  email : u.email = data.email
  verified : verifyAndUpgrade libs hash_password data.password u.password = .ok (true, new_hash)
  banned : u.banned = false

end

/-! ## §2. Permits. -/

/-- An account without rights and without money. -/
structure User.Plain (u : User) : Prop where
  is_admin : u.is_admin = false
  is_staff : u.is_staff = false
  banned : u.banned = false
  balance : u.balance = 0
  commission_balance : u.commission_balance = 0

/-- The account that a request body asks for. -/
structure AuthService.UserCreate.Makes (data : AuthService.UserCreate)
    (hash_password : String → String) (u : User) : Prop where
  plain : u.Plain
  email : u.email = data.email
  password : u.password = hash_password data.password

/-- The column of a field, if the field is sent. -/
def sentColumn {α : Type} (column : User.Column) (sent : Sent α) : List User.Column :=
  if sent.isSome then [column] else []

/-- The columns that an update names. -/
def UserService.UserUpdate.columns (data : UserService.UserUpdate) : List User.Column :=
  sentColumn .email data.email ++ sentColumn .password data.password ++
  sentColumn .balance data.balance ++ sentColumn .discount data.discount ++
  sentColumn .commission_type data.commission_type ++
  sentColumn .commission_rate data.commission_rate ++
  sentColumn .transfer_enable data.transfer_enable ++
  sentColumn .device_limit data.device_limit ++ sentColumn .banned data.banned ++
  sentColumn .is_admin data.is_admin ++ sentColumn .is_staff data.is_staff ++
  sentColumn .speed_limit data.speed_limit ++ sentColumn .group_id data.group_id ++
  sentColumn .plan_id data.plan_id ++ sentColumn .auto_renewal data.auto_renewal ++
  sentColumn .remind_expire data.remind_expire ++
  sentColumn .remind_traffic data.remind_traffic ++
  sentColumn .expired_at data.expired_at ++ sentColumn .remarks data.remarks

/-- What an update may do: passwords are hashed, and rights are given by name. -/
def UserService.UserUpdate.editing (data : UserService.UserUpdate)
    (hash_password : String → String) (user_id : Int) : Editing where
  account := user_id
  columns := data.columns
  password p := ∃ password, data.password = some (some password) ∧ p = hash_password password
  admin := data.is_admin = some (some true)
  staff := data.is_staff = some (some true)

/-- What a login may do. -/
def loginEditing (user_id : Int) (new_hash : Option String) : Editing where
  account := user_id
  columns := [.password, .last_login_at]
  password p := new_hash = some p

/-- What `change_password` and `forget_password` may do. -/
def passwordEditing (user_id : Int) (password : String) : Editing where
  account := user_id
  columns := [.password]
  password p := p = password

section

variable (rt : Runtime) (libs : PasswordLibs) (M : Int → Database → Prop)

/-- What an account may do to itself. -/
def OwnOp.Permits (u : User) : OwnOp → Permit → Prop
  | .updateProfile _, P =>
      P = .editing { account := u.id, columns := [.auto_renewal, .remind_expire, .remind_traffic] }
  | .changePassword hash_password data, P =>
      (∃ now D stored new_hash, M now D ∧ (D .users).get? u.id = some stored ∧
        verifyAndUpgrade libs hash_password data.old_password stored.password
          = .ok (true, new_hash)) ∧
      P = .editing (passwordEditing u.id (hash_password data.new_password))
  | .resetSecurity _ _, P => P = .editing { account := u.id, columns := [.uuid, .token] }
  | .unbindTelegram, P => P = .editing { account := u.id, columns := [.telegram_id] }
  | .me, _ => False
  | .getQuickLoginUrl _ _, _ => False

/-- What the administration may do. -/
def ManageOp.permit : ManageOp → Permit
  | .createUser drawn _ data => .creating (data.Makes drawn.hash_password)
  | .generateUsers _ _ => .creating User.Plain
  | .updateUser hash_password user_id data => .editing (data.editing hash_password user_id)
  | .banUser user_id _ => .editing { account := user_id, columns := [.banned] }
  | .resetUserSecurity user_id _ _ => .editing { account := user_id, columns := [.uuid, .token] }
  | .setInviteUser user_id _ => .editing { account := user_id, columns := [.invite_user_id] }
  | .deleteUser user_id => .deleting user_id

/-- What the staff may do. -/
def StaffOp.permit : StaffOp → Permit
  | .updateUser hash_password user_id data => .editing (data.editing hash_password user_id)
  | .banUser user_id _ => .editing { account := user_id, columns := [.banned] }

/-- What a form of the admin pages may do. -/
def PageOp.Permits (form : AdminUi.Form) : PageOp → Permit → Prop
  | .createUser drawn _, P => ∃ data : AuthService.UserCreate,
      AuthService.UserCreate.validated rt (AdminUi.orEmpty (form.get "email"))
        (AdminUi.orEmpty (form.get "password")) = .ok data ∧
      P = .creating (data.Makes drawn.hash_password)
  | .generateUsers _, P => P = .creating User.Plain
  | .updateUser hash_password user_id, P => ∃ data,
      AdminUi.userUpdateFromForm rt form = .ok data ∧
      P = .editing (data.editing hash_password user_id)
  | .banUser user_id, P => P = .editing { account := user_id, columns := [.banned] }
  | .resetUserSecurity user_id _ _, P =>
      P = .editing { account := user_id, columns := [.uuid, .token] }
  | .deleteUser user_id, P => P = .deleting user_id

/-- **What a request may do to the accounts**, and who it has to come from. -/
def AccountOp.Permits : AccountOp → Permit → Prop
  | .register _ drawn data _, P => P = .creating (data.Makes drawn.hash_password)
  | .login _ hash_password data _, P => ∃ u new_hash,
      LoggingIn libs M hash_password data u new_hash ∧ P = .editing (loginEditing u.id new_hash)
  | .token2Login .., P => ∃ u : User, (∃ now D, M now D ∧ (D .users).get? u.id = some u) ∧
      u.banned = false ∧ P = .editing { account := u.id, columns := [.last_login_at] }
  | .forgetPassword _ hash_password data _, P => ∃ u : User,
      (∃ now D, M now D ∧ (D .users).get? u.id = some u) ∧ u.email = data.email ∧
      P = .editing (passwordEditing u.id (hash_password data.password))
  | .sendEmailVerify .., _ => False
  | .recordInvitePv _, _ => False
  | .own credentials op, P => ∃ u, Bearing rt M .user credentials u ∧ op.Permits libs M u P
  | .manage credentials op, P => (∃ u, Bearing rt M .admin credentials u) ∧ P = op.permit
  | .staff credentials op, P => (∃ u, Bearing rt M .staff credentials u) ∧ P = op.permit
  | .loginSubmit hash_password request, P => ∃ form data u new_hash,
      request.form = some form ∧
      AuthService.LoginRequest.validated rt (AdminUi.orEmpty (form.get "email"))
        (AdminUi.orEmpty (form.get "password")) = .ok data ∧
      LoggingIn libs M hash_password data u new_hash ∧ P = .editing (loginEditing u.id new_hash)
  | .page _ request op, P => ∃ form u, PageActing rt M request form u ∧ op.Permits rt form P
  | .cleanupRuntimeCache, _ => False

end

/-- The policies of the permits that there is a reason for. -/
def Policies (W : Permit → Prop) (Q : Policy User) : Prop := ∃ P, W P ∧ Q = P.policy

theorem Policies.lawful {W : Permit → Prop} (Q : Policy User) (h : Policies W Q) : Q.Lawful := by
  obtain ⟨P, -, rfl⟩ := h
  exact P.lawful

/-! ## §3. Updates. -/

/-- The UPDATE of an account, and its refresh. -/
theorem respects_updateRow {Q : Policy User} (hQ : Q.Lawful) {old new : User}
    (h : ∀ cur : User, cur.id = old.id → Q.edit cur (User.merge old new cur)) :
    (updateRow .users old new).Respects (t := Tbl.users) Q := by
  refine .bind (.ite (.bind (.stmt (.update hQ h)) fun found => ?_) (.ret _)) fun _ =>
    .bind (.stmt (Stmt.Spares.respects trivial hQ)) fun found => ?_
  · cases found
    · exact .throw _
    · exact .ret _
  · cases found with
    | none => exact .throw _
    | some user => exact .ret _

/-- The UPDATE of the account that may be edited. -/
theorem Editing.respects_update {e : Editing} {old new : User} (hid : old.id = e.account)
    (h : e.Allows old new) :
    (UserRepository.update old new).Respects (t := Tbl.users) (Permit.editing e).policy := by
  rw [UserRepository.update_eq_updateRow]
  exact respects_updateRow (Permit.lawful _) fun cur hcur => e.allows_merge hid h cur hcur

/-- An edit that gives no rights and no password. -/
theorem Editing.Allows.plain {e : Editing} {old new : User} (hid : old.id = e.account)
    (hcols : new.blank e.columns = old.blank e.columns) (hpassword : new.password = old.password)
    (hadmin : new.is_admin = old.is_admin) (hstaff : new.is_staff = old.is_staff) :
    e.Allows old new where
  others h := absurd hid h
  columns := hcols
  password := Or.inl hpassword
  admin h := Or.inl (hadmin ▸ h)
  staff h := Or.inl (hstaff ▸ h)

/-- The password of an account is replaced. -/
theorem passwordEditing_allows {user : User} {user_id : Int} (hid : user.id = user_id)
    (password : String) :
    (passwordEditing user_id password).Allows user { user with password := password } where
  others h := absurd hid h
  columns := by simp [passwordEditing, User.blank]
  password := Or.inr rfl
  admin := Or.inl
  staff := Or.inl

theorem loginEditing_allows (user : User) (new_hash : Option String) (now : Int) :
    (loginEditing user.id new_hash).Allows user
      { user with password := new_hash.getD user.password, last_login_at := some now } where
  others h := absurd rfl h
  columns := by simp [loginEditing, User.blank]
  password := by
    cases new_hash with
    | none => exact Or.inl rfl
    | some p => exact Or.inr rfl
  admin := Or.inl
  staff := Or.inl

/-- What a NOT NULL column becomes. -/
theorem Sent.required_ok {α : Type} {sent : Sent α} {cur v : α} (h : sent.required cur = .ok v) :
    sent = none ∧ v = cur ∨ sent = some (some v) := by
  cases sent with
  | none =>
    cases h
    exact Or.inl ⟨rfl, rfl⟩
  | some sent =>
    cases sent with
    | none => cases h
    | some value =>
      cases h
      exact Or.inr rfl

/-- The column of a field that is not sent. -/
theorem Sent.required_unset {α : Type} {sent : Sent α} {cur v : α}
    (h : sent.required cur = .ok v) (hsent : sent = none) : v = cur := by
  cases Sent.required_ok h with
  | inl h => exact h.2
  | inr h =>
    rw [hsent] at h
    cases h

/-- A column that keeps its contents unless its field is sent. -/
theorem blank_sent {α β : Type} {c : User.Column} {cols : List User.Column} (sent : Sent β)
    {x v cur : α} (hmem : sent.isSome = true → c ∈ cols) (hv : sent = none → v = cur) :
    (if c ∈ cols then x else v) = if c ∈ cols then x else cur := by
  cases sent with
  | none => rw [hv rfl]
  | some sent => rw [if_pos (hmem rfl), if_pos (hmem rfl)]

/-- A flag that is on was on, or is switched on. -/
theorem required_true {sent : Sent Bool} {cur v : Bool} (h : sent.required cur = .ok v)
    (hv : v = true) : cur = true ∨ sent = some (some true) := by
  cases Sent.required_ok h with
  | inl h => exact Or.inl (h.2 ▸ hv)
  | inr h => exact Or.inr (hv ▸ h)

/-- **An update stores what it may.** -/
theorem UserService.UserUpdate.editing_allows {data : UserService.UserUpdate}
    {hash_password : String → String} {user new : User}
    (h : data.apply hash_password user = .ok new) :
    (data.editing hash_password user.id).Allows user new := by
  unfold UserService.UserUpdate.apply at h
  extract_lets store at h
  have hstore : ∃ expired_at, (data.expired_at = none → expired_at = user.expired_at) ∧
      store expired_at = .ok new := by
    split at h
    · exact ⟨_, fun _ => rfl, h⟩
    · next expired_at hsent =>
      refine ⟨_, fun hnone => ?_, h⟩
      rw [hnone] at hsent
      cases hsent
    · cases h
  obtain ⟨expired_at, hexpired, h⟩ := hstore
  obtain ⟨balance, hbalance, h⟩ := except_bind_ok h
  obtain ⟨commission_type, hcommission, h⟩ := except_bind_ok h
  obtain ⟨transfer_enable, htransfer, h⟩ := except_bind_ok h
  obtain ⟨banned, hbanned, h⟩ := except_bind_ok h
  obtain ⟨is_admin, hadmin, h⟩ := except_bind_ok h
  obtain ⟨is_staff, hstaff, h⟩ := except_bind_ok h
  obtain ⟨auto_renewal, hrenewal, h⟩ := except_bind_ok h
  obtain ⟨remind_expire, hexpire, h⟩ := except_bind_ok h
  obtain ⟨remind_traffic, htraffic, h⟩ := except_bind_ok h
  cases h
  constructor
  · intro hne
    exact absurd rfl hne
  · simp only [UserUpdate.editing, User.blank, User.mk.injEq]
    refine ⟨trivial,
      blank_sent data.email ?_ fun h => by rw [h]; rfl,
      blank_sent data.password ?_ fun h => by rw [h]; rfl,
      trivial,
      trivial,
      trivial,
      blank_sent data.balance ?_ (Sent.required_unset hbalance),
      blank_sent data.discount ?_ fun h => by rw [h]; rfl,
      blank_sent data.commission_type ?_ (Sent.required_unset hcommission),
      blank_sent data.commission_rate ?_ fun h => by rw [h]; rfl,
      trivial,
      trivial,
      trivial,
      trivial,
      blank_sent data.transfer_enable ?_ (Sent.required_unset htransfer),
      blank_sent data.group_id ?_ fun h => by rw [h]; rfl,
      blank_sent data.plan_id ?_ fun h => by rw [h]; rfl,
      blank_sent data.speed_limit ?_ fun h => by rw [h]; rfl,
      blank_sent data.device_limit ?_ fun h => by rw [h]; rfl,
      blank_sent data.banned ?_ (Sent.required_unset hbanned),
      blank_sent data.is_admin ?_ (Sent.required_unset hadmin),
      blank_sent data.is_staff ?_ (Sent.required_unset hstaff),
      blank_sent data.auto_renewal ?_ (Sent.required_unset hrenewal),
      blank_sent data.remind_expire ?_ (Sent.required_unset hexpire),
      blank_sent data.remind_traffic ?_ (Sent.required_unset htraffic),
      trivial,
      trivial,
      trivial,
      blank_sent data.expired_at ?_ hexpired,
      blank_sent data.remarks ?_ fun h => by rw [h]; rfl⟩
    all_goals
      intro h
      simp [UserUpdate.columns, sentColumn, h]
  · show (Option.map hash_password (Option.getD data.password none)).getD user.password
      = user.password ∨ _
    cases hsent : data.password with
    | none => exact Or.inl rfl
    | some password =>
      cases password with
      | none => exact Or.inl rfl
      | some password => exact Or.inr ⟨password, hsent, rfl⟩
  · exact required_true hadmin
  · exact required_true hstaff

/-! ## §4. The account of a request. -/

section

variable {rt : Runtime} {fm : Formats} {libs : PasswordLibs} {L : Type} {R : Database → Prop}
  {lo hi : Int} {Why : Policy User → Prop} {s : State Tbl} {ss : Session Tbl} {β : Type}

/-- A transaction that has not changed the accounts. -/
abbrev Untouched (R : Database → Prop) (lo : Int) (s : State Tbl) (ss : Session Tbl) : Prop :=
  Ready Tbl.users R lo s ss

/-- From here on the program ends explained. -/
abbrev Explains (L : Type) (R : Database → Prop) (Why : Policy User → Prop) (hi : Int)
    (p : Db β) (s : State Tbl) (ss : Session Tbl) : Prop :=
  wp (meeting R : Contract L Tbl) p (Explained (t := Tbl.users) Why hi) s ss

/-- The account that a token names.  Who is not found has written nothing. -/
theorem getCurrentUser_bind {token : String} {f : User → Db β}
    {Q : Except PyExc β → State Tbl → Session Tbl → Prop} (h : Clean R lo s ss)
    (herr : ∀ e s' ss', Clean R lo s' ss' → Q (.error e) s' ss')
    (hf : ∀ u s' ss', Clean R lo s' ss' → Acting rt (During R lo hi) .user token u →
      wp (meeting R : Contract L Tbl) (f u) (Within hi Q) s' ss') :
    wp (meeting R : Contract L Tbl) ((AuthService.getCurrentUser rt token).bind f) (Within hi Q)
      s ss := by
  unfold AuthService.getCurrentUser AuthService.decodeUserId
  simp only [Prog.bind_eq, Prog.bind_assoc]
  refine h.clock_bind fun s₁ h₁ hnow => ?_
  cases hdecode : rt.decode_user_id s₁.now token with
  | none => exact fun _ => herr _ _ _ h₁
  | some user_id =>
    refine h₁.get_bind fun s₂ ss₂ h₂ hmet => ?_
    cases hget : (s₂.db Tbl.users).get? user_id with
    | none => exact fun _ => herr _ _ _ h₂
    | some u =>
      have hid : u.id = user_id := Table.key_of_get? hget
      subst hid
      by_cases hbanned : u.banned = true
      · simp only [hbanned, if_true]
        exact fun _ => herr _ _ _ h₂
      · simp only [hbanned]
        exact hf u s₂ ss₂ h₂ ⟨⟨_, _, hnow, hdecode⟩,
          ⟨_, _, hmet, hget⟩, by simpa using hbanned, rfl⟩

/-- **The account that acts** in the role of a router. -/
theorem current_bind {role : Role} {credentials : Option HTTPAuthorizationCredentials}
    {f : User → Db β} {Q : Except PyExc β → State Tbl → Session Tbl → Prop} (h : Clean R lo s ss)
    (herr : ∀ e s' ss', Clean R lo s' ss' → Q (.error e) s' ss')
    (hf : ∀ u s' ss', Clean R lo s' ss' → Bearing rt (During R lo hi) role credentials u →
      wp (meeting R : Contract L Tbl) (f u) (Within hi Q) s' ss') :
    wp (meeting R : Contract L Tbl) ((role.current rt credentials).bind f) (Within hi Q) s ss := by
  unfold Role.current
  simp only [Prog.bind_eq, Prog.bind_assoc]
  cases htoken : getBearerToken rt credentials with
  | error e => exact fun _ => herr _ _ _ h
  | ok token =>
    cases role with
    | user =>
      exact getCurrentUser_bind h herr fun u s₁ ss₁ h₁ ha => hf u s₁ ss₁ h₁ ⟨token, htoken, ha⟩
    | staff =>
      show wp _ ((AuthService.requireStaff rt token).bind f) _ s ss
      unfold AuthService.requireStaff
      simp only [Prog.bind_eq, Prog.bind_assoc]
      refine getCurrentUser_bind h herr fun u s₁ ss₁ h₁ ha => ?_
      by_cases hrole : (u.is_staff || u.is_admin) = true
      · have hnot : (!u.is_staff && !u.is_admin) = false := by
          rw [← Bool.not_or, hrole]
          rfl
        simp only [hnot]
        exact hf u s₁ ss₁ h₁ ⟨token, htoken, ha.named, ha.stored, ha.banned, hrole⟩
      · have hnot : (!u.is_staff && !u.is_admin) = true := by
          rw [← Bool.not_or, Bool.eq_false_of_not_eq_true hrole]
          rfl
        simp only [hnot, if_true]
        exact fun _ => herr _ _ _ h₁
    | admin =>
      show wp _ ((AuthService.requireAdmin rt token).bind f) _ s ss
      unfold AuthService.requireAdmin
      simp only [Prog.bind_eq, Prog.bind_assoc]
      refine getCurrentUser_bind h herr fun u s₁ ss₁ h₁ ha => ?_
      cases hrole : u.is_admin with
      | false => exact fun _ => herr _ _ _ h₁
      | true => exact hf u s₁ ss₁ h₁ ⟨token, htoken, ha.named, ha.stored, ha.banned, hrole⟩

/-- An account that has to exist. -/
theorem Untouched.existing_bind {user_id : Int} {detail : String} {f : User → Db β}
    (h : Untouched R lo s ss)
    (hf : ∀ (u : User) s' ss', Untouched R lo s' ss' → u.id = user_id →
      During R lo hi s'.now s'.db → (s'.db .users).get? user_id = some u →
      Explains L R Why hi (f u) s' ss') :
    Explains L R Why hi ((UserService.existing user_id detail).bind f) s ss := by
  unfold UserService.existing
  simp only [Prog.bind_eq, Prog.bind_assoc]
  refine h.get_bind fun s₁ ss₁ h₁ hmet => ?_
  cases hget : (s₁.db Tbl.users).get? user_id with
  | none => exact h₁.explained _
  | some u => exact hf u s₁ ss₁ h₁ (Table.key_of_get? hget) hmet hget

/-- The account with an address. -/
theorem Untouched.getByEmail_bind {email : String} {f : Option User → Db β}
    (h : Untouched R lo s ss)
    (hnone : ∀ s' ss', Untouched R lo s' ss' → Explains L R Why hi (f none) s' ss')
    (hsome : ∀ (u : User) s' ss', Untouched R lo s' ss' → u.email = email →
      During R lo hi s'.now s'.db → (s'.db .users).get? u.id = some u →
      Explains L R Why hi (f (some u)) s' ss') :
    Explains L R Why hi ((UserRepository.getByEmail email).bind f) s ss := by
  unfold UserRepository.getByEmail
  simp only [Prog.bind_eq, Prog.bind_assoc]
  refine h.select_bind fun rows s₁ ss₁ h₁ hmet hrows => ?_
  match rows with
  | [] => exact hnone s₁ ss₁ h₁
  | [u] =>
    obtain ⟨hstored, hemail⟩ := hrows u (List.mem_singleton_self u)
    have hget : (s₁.db Tbl.users).get? u.id = some u := Table.get?_eq_some.mpr ⟨hstored, rfl⟩
    exact hsome u s₁ ss₁ h₁ (by simpa using hemail) hmet hget
  | _ :: _ :: _ => exact h₁.explained _

end

end PyBoard
