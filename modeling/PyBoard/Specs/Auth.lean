/-
  PyBoard.Specs.Auth — what a registration and a request for a mail code do.

  Both read settings, count against the limit of their address and look at the users; all
  that they write before they store something of their own is in the runtime cache.  Every
  part is steady for what bears writes under the keys of the settings (`SettingsOpen`).
  Running alone, the parts answer what `emailPolicy` and `captcha` compute from the settings.
-/
import PyBoard.Relational.Leads
import PyBoard.Services.Auth
import PyBoard.Specs.Alone

namespace PyBoard

open Relational

variable {L : Type} {C : Contract L Tbl} {J : State Tbl → List (Write Tbl) → Prop} {rt : Runtime}

/-! ## §1. Steady parts. -/

/-- The setting that keeps invite codes in use. -/
def neverExpireSetting : String := "invite_never_expire"

/-- `J` bears the copies of the settings, apart from that of `invite_never_expire`. -/
structure SettingsOpen (C : Contract L Tbl) (J : State Tbl → List (Write Tbl) → Prop) :
    Prop where
  stable : C.Stable J
  setting : ∀ key, key ≠ neverExpireSetting → CacheOpen C J (SettingService.Cached.cacheKey key)

theorem steady_getJson (hJ : C.Stable J) {key : String}
    (hopen : CacheOpen C J (SettingService.Cached.cacheKey key)) (default : Json) :
    C.Steady J (SettingService.Cached.getJson rt key default) := by
  refine .bind (steady_getCached rt hJ hopen) fun val => ?_
  cases val with
  | none => exact .ret _
  | some val =>
    dsimp only
    cases rt.orjson_loads val with
    | none => exact .throw _
    | some v => exact .ret _

variable (rt) in
theorem steady_incr (hJ : C.Stable J) {key : String} (hopen : CacheOpen C J key)
    (ex : Option Int) : C.Steady J (RuntimeCache.incr rt key ex) := by
  refine .bind (steady_time hJ) fun now => .bind (.upsert hJ (hopen.put _ rfl) fun cur hcur => ?_)
    fun row => .ite (.ret _) (.throw _)
  exact hopen.put _ hcur

theorem steady_emailExists (hJ : C.Stable J) (email : String) :
    C.Steady J (UserRepository.emailExists email) :=
  .bind (steady_selectOne hJ _) fun _ => .ret _

/-- An INSERT. -/
theorem steady_create (hJ : C.Stable J) {t : Tbl} {r : t.Row}
    (hput : ∀ s ws, C.Inv s → J s ws → J s (ws ++ [.put t r])) : C.Steady J (create t r) :=
  .bind (.insert hJ hput) fun _ => .ite (.ret _) (.throw _)

theorem steady_refresh (hJ : C.Stable J) (t : Tbl) (obj : t.Row) :
    C.Steady J (refresh t obj) := by
  refine .bind (.get hJ _ _) fun found => ?_
  cases found with
  | none => exact .throw _
  | some obj => exact .ret _

/-- An UPDATE and a refresh of the row. -/
theorem steady_updateRow (hJ : C.Stable J) {t : Tbl} [DecidableEq t.Row] {old new : t.Row}
    (hput : ∀ (cur : t.Row) s ws, C.Inv s → J s ws →
      J s (ws ++ [.put t (t.merge old new cur)])) : C.Steady J (updateRow t old new) := by
  refine .bind (steady_whenever (.bind (.update hJ fun cur _ => hput cur) fun found => ?_))
    fun _ => steady_refresh hJ t old
  cases found
  · exact .throw _
  · exact .ret _

/-- Running alone, a query for one row. -/
theorem leads_selectOne {K : State Tbl → List (Write Tbl) → Prop} {α : Type} {t : Tbl}
    {U : Table (Schema.key (t := t))} {p : t.Row → Bool} {f : Option t.Row → Db α}
    (hJ : (Contract.solo : Contract L Tbl).Stable J) (hshows : ∀ s ws, J s ws → Shows t U s ws)
    (hend : ∀ s ws, J s ws → K s ws)
    (hnone : (Contract.solo : Contract L Tbl).Leads J K (f none))
    (hsome : ∀ r ∈ U.rows, p r = true → (Contract.solo : Contract L Tbl).Leads J K (f (some r))) :
    (Contract.solo : Contract L Tbl).Leads J K
      (Prog.bind (Prog.bind (Prog.select t p) scalarOneOrNone) f) := by
  rw [Prog.bind_assoc]
  refine Shows.select_bind hJ hshows ?_
  rcases scalarOneOrNone_cases (U.rows.filter p) with ⟨h, -⟩ | ⟨r, h, hrows⟩ | h <;> rw [h]
  · exact hnone
  · have hmem : r ∈ U.rows.filter p := by
      rw [hrows]
      exact List.mem_singleton_self r
    exact hsome r (List.mem_of_mem_filter hmem) (List.mem_filter.mp hmem).2
  · exact .throw _ hend

/-- Running alone, the UPDATE of a row that was read stores its new version. -/
theorem leads_saveChanged {t : Tbl} [DecidableEq t.Row] {U : Table (Schema.key (t := t))}
    {old new : t.Row} (hget : U.get? (t.key old) = some old) (hid : t.key old = t.key new) :
    (Contract.solo : Contract L Tbl).Leads (Shows t U) (Shows t (U.put new))
      (whenever (old ≠ new) (save t old new)) := by
  refine .ite (fun _ => ?_) fun hsame => ?_
  · exact Shows.update_bind hget hid (.ret _ fun _ _ h => h)
  · -- nothing has changed, so the row is stored as it was
    have heq : old = new := not_not.mp hsame
    refine .ret _ fun s ws h => ?_
    rw [heq] at hget
    rw [Table.put_eq_self hget]
    exact h

theorem leads_updateRow {t : Tbl} [DecidableEq t.Row] {U : Table (Schema.key (t := t))}
    {old new : t.Row} (hget : U.get? (t.key old) = some old) (hid : t.key old = t.key new) :
    (Contract.solo : Contract L Tbl).Leads (Shows t U) (Shows t (U.put new))
      (updateRow t old new) :=
  .bind (leads_saveChanged hget hid) (fun _ => steady_refresh Shows.stable t old) fun _ _ h => h

namespace AuthService

section

variable (h : SettingsOpen C J)

include h

theorem steady_checkEmailPolicy (email : String) : C.Steady J (checkEmailPolicy rt email) := by
  refine .bind (steady_getInt rt h.stable (h.setting _ (by decide)) _) fun enable =>
    .bind (steady_whenever ?_) fun _ => ?_
  · refine .bind (steady_getJson h.stable (h.setting _ (by decide)) _) fun suffixes => ?_
    exact .bind (steady_liftExcept _) fun allowed => .ite (.ret _) (.throw _)
  · exact .bind (steady_getInt rt h.stable (h.setting _ (by decide)) _) fun _ =>
      .ite (.throw _) (.ret _)

theorem steady_verifyIfEnabled (http : TurnstileService.Siteverify)
    (token remote_ip : Option String) :
    C.Steady J (TurnstileService.verifyIfEnabled rt http token remote_ip) := by
  refine .bind (steady_getInt rt h.stable (h.setting _ (by decide)) _) fun enable =>
    .ite (.ret _) ?_
  refine .bind (steady_getStr rt h.stable (h.setting _ (by decide)) _) fun secret => ?_
  refine .ite (.throw _) (.ite (.throw _) ?_)
  split
  · exact .throw _
  · exact .ite (.ret _) (.throw _)

theorem steady_verifyEmailCode {email : String} (hdel : CacheDel C J (emailVerifyCodeKey email))
    (email_code : Option String) : C.Steady J (verifyEmailCode rt email email_code) := by
  unfold verifyEmailCode
  split
  · exact .throw _
  · exact .bind (steady_get h.stable hdel) fun _ => .ite (.throw _) (.ret _)

theorem steady_checkRegisterLimit (hopen : ∀ ip, CacheOpen C J (registerLimitKey ip))
    (client_ip : Option String) : C.Steady J (checkRegisterLimit rt client_ip) := by
  unfold checkRegisterLimit
  split
  · exact .ret _
  · refine .bind (steady_getInt rt h.stable (h.setting _ (by decide)) _) fun enable =>
      .ite (.ret _) ?_
    refine .bind (steady_getInt rt h.stable (h.setting _ (by decide)) _) fun count => ?_
    refine .bind (steady_getInt rt h.stable (h.setting _ (by decide)) _) fun expire => ?_
    exact .bind (steady_incr rt h.stable (hopen _) _) fun _ => .ite (.throw _) (.ret _)

end

/-- The registration up to the look-up of its e-mail. -/
def screen (rt : Runtime) (http : TurnstileService.Siteverify) (data : UserCreate)
    (client_ip : Option String) : Db Bool := do
  if (← SettingService.Cached.getInt rt "stop_register" 0) ≠ 0 then
    Prog.throw (ForbiddenException "当前停止注册")
  else
    checkEmailPolicy rt data.email
    checkRegisterLimit rt client_ip
    TurnstileService.verifyIfEnabled rt http data.recaptcha_data client_ip
    whenever ((← SettingService.Cached.getInt rt "email_verify" 0) ≠ 0)
      (verifyEmailCode rt data.email data.email_code)
    UserRepository.emailExists data.email

/-- The registration once its inviter is known. -/
def storeUser (fm : Formats) (drawn : Drawn) (data : UserCreate)
    (invite_user_id : Option Int) : Db String := do
  let last_login_at ← time
  let user : User :=
    { id := drawn.id
      email := data.email
      password := drawn.hash_password data.password
      token := drawn.token
      uuid := drawn.uuid
      invite_user_id := invite_user_id
      last_login_at := some last_login_at }
  create .users user
  let _count ← RuntimeCache.delete [emailVerifyCodeKey data.email]
  let now ← time
  return buildAuthToken fm user now

theorem register_eq (fm : Formats) (http : TurnstileService.Siteverify) (drawn : Drawn)
    (data : UserCreate) (client_ip : Option String) :
    register rt fm http drawn data client_ip = (screen rt http data client_ip).bind fun taken =>
      if taken = true then Prog.throw (ConflictException "邮箱已注册")
      else (resolveInviteUserId rt data.invite_code).bind (storeUser fm drawn data) := by
  unfold register screen storeUser
  simp only [Prog.bind_eq, Prog.bind_assoc]
  congr 1
  funext stop
  split
  · rfl
  · simp only [Prog.bind_assoc]

theorem steady_screen (h : SettingsOpen C J) (hopen : ∀ ip, CacheOpen C J (registerLimitKey ip))
    (http : TurnstileService.Siteverify) {data : UserCreate}
    (hdel : CacheDel C J (emailVerifyCodeKey data.email)) (client_ip : Option String) :
    C.Steady J (screen rt http data client_ip) := by
  refine .bind (steady_getInt rt h.stable (h.setting _ (by decide)) _) fun stop =>
    .ite (.throw _) ?_
  refine .bind (steady_checkEmailPolicy h _) fun _ => ?_
  refine .bind (steady_checkRegisterLimit h hopen _) fun _ => ?_
  refine .bind (steady_verifyIfEnabled h _ _ _) fun _ => ?_
  refine .bind (steady_getInt rt h.stable (h.setting _ (by decide)) _) fun email_verify => ?_
  refine .bind (steady_whenever (steady_verifyEmailCode h hdel _)) fun _ => ?_
  exact steady_emailExists h.stable _

theorem steady_storeUser (hJ : C.Stable J) (fm : Formats) (drawn : Drawn) (data : UserCreate)
    (hdel : CacheDel C J (emailVerifyCodeKey data.email))
    (hput : ∀ user : User, user.uuid = drawn.uuid → ∀ s ws, C.Inv s → J s ws →
      J s (ws ++ [.put Tbl.users user]))
    (invite_user_id : Option Int) : C.Steady J (storeUser fm drawn data invite_user_id) := by
  refine .bind (steady_time hJ) fun last_login_at => ?_
  refine .bind (.bind (.insert hJ (hput _ rfl)) fun added => .ite (.ret _) (.throw _)) fun _ => ?_
  exact .bind (steady_delete hJ hdel) fun _ => .bind (steady_time hJ) fun _ => .ret _

/-- Marking the invite code as used. -/
theorem steady_resolveInviteUserId (h : SettingsOpen C J)
    (hnever : CacheOpen C J (SettingService.Cached.cacheKey neverExpireSetting))
    (hput : ∀ (invite : InviteCode) s ws, C.Inv s → J s ws →
      J s (ws ++ [.put Tbl.invite_code invite])) (invite_code : Option String) :
    C.Steady J (resolveInviteUserId rt invite_code) := by
  refine .bind (steady_getInt rt h.stable (h.setting _ (by decide)) _) fun invite_force => ?_
  split
  · exact .ite (.throw _) (.ret _)
  · refine .bind (steady_selectOne h.stable _) fun found => ?_
    cases found with
    | none => exact .throw _
    | some invite =>
      exact .bind (steady_getInt rt h.stable hnever _) fun never_expire =>
        .bind (steady_updateRow h.stable fun cur => hput _) fun _ => .ret _

/-- **A registration** is steady for what bears its writes. -/
theorem steady_register (h : SettingsOpen C J)
    (hnever : CacheOpen C J (SettingService.Cached.cacheKey neverExpireSetting))
    (hlimit : ∀ ip, CacheOpen C J (registerLimitKey ip)) (fm : Formats)
    (http : TurnstileService.Siteverify) (drawn : Drawn) {data : UserCreate}
    (hdel : CacheDel C J (emailVerifyCodeKey data.email))
    (hinvite : ∀ (invite : InviteCode) s ws, C.Inv s → J s ws →
      J s (ws ++ [.put Tbl.invite_code invite]))
    (huser : ∀ user : User, user.uuid = drawn.uuid → ∀ s ws, C.Inv s → J s ws →
      J s (ws ++ [.put Tbl.users user])) (client_ip : Option String) :
    C.Steady J (register rt fm http drawn data client_ip) := by
  rw [register_eq]
  refine .bind (steady_screen h hlimit http hdel client_ip) fun taken => .ite (.throw _) ?_
  refine .bind (steady_resolveInviteUserId h hnever hinvite _) fun invite_user_id => ?_
  exact steady_storeUser h.stable fm drawn data hdel huser invite_user_id

end AuthService

/-! ## §2. Settings, running alone. -/

variable {s : State Tbl} {ss ss' : Session Tbl}

/-- `val if val is not None else default`. -/
def settingStr (rt : Runtime) (s : State Tbl) (ss : Session Tbl) (key default : String) :
    Except PyExc String :=
  (settingText rt s ss key).map fun val => val.getD default

/-- `orjson.loads(val) if val is not None else default`. -/
def settingJson (rt : Runtime) (s : State Tbl) (ss : Session Tbl) (key : String)
    (default : Json) : Except PyExc Json :=
  match settingText rt s ss key with
  | .error e => .error e
  | .ok none => .ok default
  | .ok (some val) =>
      match rt.orjson_loads val with
      | some v => .ok v
      | none => .error (.value "JSONDecodeError")

theorem settingStr_congr {key : String}
    (h : SameDocument s ss ss' (SettingService.Cached.cacheKey key)) (default : String) :
    settingStr rt s ss' key default = settingStr rt s ss key default := by
  unfold settingStr settingText
  rw [h]

variable (rt) in
open SettingService.Cached in
theorem run_getStr_alone (h : CacheOnly ss) (key default : String) :
    ∃ ss', (getStr rt key default).run s ss = (settingStr rt s ss key default, ss') ∧
      CacheOnly ss' ∧ ∀ k, k ≠ cacheKey key → SameDocument s ss ss' k := by
  obtain ⟨ss', hrun, honly, hsame⟩ := run_getCached_alone rt (s := s) h key
  refine ⟨ss', ?_, honly, hsame⟩
  unfold getStr settingStr
  rw [Prog.bind_eq, Prog.run_bind, hrun]
  cases settingText rt s ss key <;> rfl

variable (rt) in
open SettingService.Cached in
theorem run_getJson_alone (h : CacheOnly ss) (key : String) (default : Json) :
    ∃ ss', (getJson rt key default).run s ss = (settingJson rt s ss key default, ss') ∧
      CacheOnly ss' ∧ ∀ k, k ≠ cacheKey key → SameDocument s ss ss' k := by
  obtain ⟨ss', hrun, honly, hsame⟩ := run_getCached_alone rt (s := s) h key
  refine ⟨ss', ?_, honly, hsame⟩
  unfold getJson settingJson
  rw [Prog.bind_eq, Prog.run_bind, hrun]
  cases settingText rt s ss key with
  | error e => rfl
  | ok val =>
      cases val with
      | none => rfl
      | some val =>
          dsimp only
          cases rt.orjson_loads val <;> rfl

/-- From `ss₀` on, the session has read some of the settings in `K`: the documents under other
    keys are those of `ss₀`. -/
structure ReadAside (K : List String) (s : State Tbl) (ss₀ ss : Session Tbl) : Prop where
  only : CacheOnly ss
  unread : ∀ key, key ∉ K → SameDocument s ss₀ ss (SettingService.Cached.cacheKey key)
  other : ∀ k, (∀ key, k ≠ SettingService.Cached.cacheKey key) → SameDocument s ss₀ ss k

variable {K : List String} {ss₀ : Session Tbl} {α β : Type}

theorem ReadAside.refl (h : CacheOnly ss) : ReadAside K s ss ss :=
    ⟨h, fun _ _ => rfl, fun _ _ => rfl⟩

theorem ReadAside.mono {K' : List String} (h : ReadAside K s ss₀ ss) (hsub : K ⊆ K') :
    ReadAside K' s ss₀ ss :=
  ⟨h.only, fun key hkey => h.unread key fun hmem => hkey (hsub hmem), h.other⟩

/-- One more setting is read. -/
theorem ReadAside.read (h : ReadAside K s ss₀ ss) {key : String} (honly : CacheOnly ss')
    (hsame : ∀ k, k ≠ SettingService.Cached.cacheKey key → SameDocument s ss ss' k) :
    ReadAside (key :: K) s ss₀ ss' := by
  refine ⟨honly, fun key' hkey' => ?_, fun k hk => (hsame k (hk key)).trans (h.other k hk)⟩
  rw [List.mem_cons, not_or] at hkey'
  exact (hsame _ fun heq => hkey'.1 (cacheKey_injective heq)).trans (h.unread key' hkey'.2)

/-- The program answers `r`, whatever settings in `K` have been read, and reads some in `K'`. -/
def Decides (s : State Tbl) (ss₀ : Session Tbl) (K K' : List String) (p : Db α)
    (r : Except PyExc α) : Prop :=
  ∀ ss, ReadAside K s ss₀ ss → ∃ ss', p.run s ss = (r, ss') ∧ ReadAside K' s ss₀ ss'

variable {K' M : List String}

theorem Decides.ret (hsub : K ⊆ K') (a : α) : Decides s ss₀ K K' (.ret a : Db α) (.ok a) :=
  fun ss h => ⟨ss, rfl, h.mono hsub⟩

theorem Decides.throw (hsub : K ⊆ K') (e : PyExc) :
    Decides s ss₀ K K' (.throw e : Db α) (.error e) := fun ss h => ⟨ss, rfl, h.mono hsub⟩

/-- **Sequencing.** -/
theorem Decides.bind {p : Db α} {f : α → Db β} {r : Except PyExc α} {g : α → Except PyExc β}
    (hp : Decides s ss₀ K M p r) (hsub : M ⊆ K')
    (hf : ∀ a, Decides s ss₀ M K' (f a) (g a)) : Decides s ss₀ K K' (p.bind f) (r.bind g) := by
  intro ss h
  obtain ⟨ss₁, hrun, h₁⟩ := hp ss h
  rw [Prog.run_bind, hrun]
  cases r with
  | error e => exact ⟨ss₁, rfl, h₁.mono hsub⟩
  | ok a => exact hf a ss₁ h₁

theorem Decides.ite {c : Prop} [Decidable c] {p q : Db α} {r r' : Except PyExc α}
    (hp : Decides s ss₀ K K' p r) (hq : Decides s ss₀ K K' q r') :
    Decides s ss₀ K K' (if c then p else q) (if c then r else r') := by
  split
  · exact hp
  · exact hq

theorem Decides.liftExcept (hsub : K ⊆ K') (r : Except PyExc α) :
    Decides s ss₀ K K' (PyBoard.liftExcept r) r := by
  cases r with
  | ok a => exact .ret hsub a
  | error e => exact .throw hsub e

section

variable {key : String} (hkey : key ∉ K)

include hkey

theorem decides_text {ss : Session Tbl} (h : ReadAside K s ss₀ ss) :
    settingText rt s ss key = settingText rt s ss₀ key := by
  unfold settingText
  rw [h.unread key hkey]

theorem decides_getInt (default : Int) :
    Decides s ss₀ K (key :: K) (SettingService.Cached.getInt rt key default)
      (settingInt rt s ss₀ key default) := by
  intro ss h
  obtain ⟨ss', hrun, honly, hsame⟩ := run_getInt_alone rt (s := s) h.only key default
  rw [settingInt_congr (h.unread key hkey)] at hrun
  exact ⟨ss', hrun, h.read honly hsame⟩

theorem decides_getStr (default : String) :
    Decides s ss₀ K (key :: K) (SettingService.Cached.getStr rt key default)
      (settingStr rt s ss₀ key default) := by
  intro ss h
  obtain ⟨ss', hrun, honly, hsame⟩ := run_getStr_alone rt (s := s) h.only key default
  unfold settingStr at hrun
  rw [decides_text hkey h] at hrun
  exact ⟨ss', hrun, h.read honly hsame⟩

theorem decides_getJson (default : Json) :
    Decides s ss₀ K (key :: K) (SettingService.Cached.getJson rt key default)
      (settingJson rt s ss₀ key default) := by
  intro ss h
  obtain ⟨ss', hrun, honly, hsame⟩ := run_getJson_alone rt (s := s) h.only key default
  unfold settingJson at hrun
  rw [decides_text hkey h] at hrun
  exact ⟨ss', hrun, h.read honly hsame⟩

end

/-! ## §3. The checks, running alone. -/

/-- What a check decides that is made only under a condition. -/
def onlyIf (c : Prop) [Decidable c] (r : Except PyExc Unit) : Except PyExc Unit :=
  if c then r else .ok ()

theorem Decides.whenever {c : Prop} [Decidable c] {p : Db Unit} {r : Except PyExc Unit}
    (hp : Decides s ss₀ K K' p r) (hsub : K ⊆ K') :
    Decides s ss₀ K K' (PyBoard.whenever c p) (onlyIf c r) := .ite hp (.ret hsub ())

/-- What `_check_email_policy` decides. -/
def emailPolicy (rt : Runtime) (s : State Tbl) (ss : Session Tbl) (email : String) :
    Except PyExc Unit := do
  let enable ← settingInt rt s ss "email_whitelist_enable" 0
  onlyIf (enable ≠ 0) (do
    let suffixes ← settingJson rt s ss "email_whitelist_suffix" (.arr [])
    let allowed ← AuthService.allowedDomains rt suffixes
    if rt.lower (AuthService.lastPart email) ∈ allowed then .ok ()
    else .error (BadRequestException "当前邮箱后缀不允许注册"))
  let limit ← settingInt rt s ss "email_gmail_limit_enable" 0
  if limit ≠ 0 ∧ AuthService.isGmailAlias rt email then
    .error (BadRequestException "当前 Gmail 邮箱格式不允许注册")
  else .ok ()

/-- What `verify_if_enabled` decides. -/
def captcha (rt : Runtime) (s : State Tbl) (ss : Session Tbl)
    (http : TurnstileService.Siteverify) (token remote_ip : Option String) :
    Except PyExc Unit := do
  let enable ← settingInt rt s ss "recaptcha_enable" 0
  if enable = 0 then .ok ()
  else
    let secret ← settingStr rt s ss "recaptcha_key" ""
    if secret = "" then .error (BadRequestException "Turnstile Secret Key 未配置")
    else
      let token := rt.strip (token.getD "")
      if token = "" ∨ token.length > TurnstileService.MAX_TOKEN_LENGTH then
        .error (BadRequestException "请完成人机验证")
      else
        match http secret token (remote_ip.filter fun ip => ip ≠ "") with
        | none => .error (BadRequestException "人机验证服务暂不可用，请稍后重试")
        | some result =>
          if TurnstileService.succeeded result then .ok ()
          else .error (BadRequestException "人机验证失败，请重试")

/-- The settings that `_check_email_policy` reads. -/
def policyKeys : List String :=
  ["email_gmail_limit_enable", "email_whitelist_suffix", "email_whitelist_enable"]

variable (rt) in
theorem decides_checkEmailPolicy (email : String) :
    Decides s ss₀ [] policyKeys (AuthService.checkEmailPolicy rt email)
      (emailPolicy rt s ss₀ email) := by
  have hlisted : ∀ K : List String, K ⊆ K := fun _ => List.Subset.refl _
  refine .bind (decides_getInt (by simp) 0) (by decide) fun enable => ?_
  refine .bind (M := policyKeys.tail) (.whenever ?_ (by decide)) (by decide) fun _ => ?_
  · refine .bind (decides_getJson (by decide) _) (by decide) fun suffixes => ?_
    refine .bind (.liftExcept (hlisted _) _) (hlisted _) fun allowed => ?_
    exact .ite (.ret (hlisted _) _) (.throw (hlisted _) _)
  · refine .bind (decides_getInt (by decide) 0) (by decide) fun limit => ?_
    exact .ite (.throw (hlisted _) _) (.ret (hlisted _) _)

/-- The settings that `verify_if_enabled` reads besides. -/
def captchaKeys : List String := ["recaptcha_key", "recaptcha_enable"] ++ policyKeys

variable (rt) in
theorem decides_verifyIfEnabled (http : TurnstileService.Siteverify)
    (token remote_ip : Option String) :
    Decides s ss₀ policyKeys captchaKeys (TurnstileService.verifyIfEnabled rt http token remote_ip)
      (captcha rt s ss₀ http token remote_ip) := by
  have hread : captchaKeys ⊆ captchaKeys := List.Subset.refl _
  refine .bind (decides_getInt (by decide) 0) (by decide) fun enable => ?_
  refine .ite (.ret (by decide) _) ?_
  refine .bind (decides_getStr (by decide) _) hread fun secret => ?_
  refine .ite (.throw hread _) (.ite (.throw hread _) ?_)
  cases http secret (rt.strip (token.getD "")) (remote_ip.filter fun ip => ip ≠ "") with
  | none => exact .throw hread _
  | some result => exact .ite (.ret hread _) (.throw hread _)

/-! The documents of the settings decide the checks. -/

section

variable (hsame : ∀ key, SameDocument s ss ss' (SettingService.Cached.cacheKey key))

include hsame

theorem settingText_of_same (key : String) :
    settingText rt s ss' key = settingText rt s ss key := by
  unfold settingText
  rw [hsame key]

theorem emailPolicy_of_same (email : String) :
    emailPolicy rt s ss' email = emailPolicy rt s ss email := by
  unfold emailPolicy settingJson
  simp only [settingInt_congr (hsame _), settingText_of_same hsame]

theorem captcha_of_same (http : TurnstileService.Siteverify) (token remote_ip : Option String) :
    captcha rt s ss' http token remote_ip = captcha rt s ss http token remote_ip := by
  unfold captcha settingStr
  simp only [settingInt_congr (hsame _), settingText_of_same hsame]

end

/-- Is a user with the address stored?  The query is for one row. -/
def emailTaken (s : State Tbl) (email : String) : Except PyExc Bool :=
  match (s.db .users).rows.filter fun u : User => u.email = email with
  | [] => .ok false
  | [_] => .ok true
  | _ => .error (.other "MultipleResultsFound")

theorem decides_emailExists (email : String) :
    Decides s ss₀ K K (UserRepository.emailExists email) (emailTaken s email) := by
  intro ss h
  refine ⟨ss, ?_, h⟩
  have hrows : s.view ss .users = s.db .users := h.only.view (by decide)
  unfold UserRepository.emailExists UserRepository.getByEmail emailTaken
  rw [Prog.bind_eq, Prog.bind_eq, Prog.bind_assoc, Prog.run_select_bind, hrows]
  cases (s.db .users).rows.filter fun u : User => u.email = email with
  | nil => rfl
  | cons u rest => cases rest <;> rfl

/-- A document that is no copy of a setting. -/
theorem decides_get {key : String} (hkey : ∀ k, key ≠ SettingService.Cached.cacheKey k) :
    Decides s ss₀ K K (RuntimeCache.get key) (.ok (liveDocument s ss₀ key)) := by
  intro ss h
  obtain ⟨ss', hrun, honly, hsame⟩ := run_get_alone (s := s) h.only key
  rw [h.other key hkey] at hrun
  exact ⟨ss', hrun, honly, fun k hk => (hsame _).trans (h.unread k hk),
    fun k hk => (hsame k).trans (h.other k hk)⟩

/-! ## §4. Counters. -/

/-- The live entry of a counter. -/
def liveEntry (s : State Tbl) (db : Database) (key : String) : Option (Entry Json) :=
  (stored db).purge s.now key

/-- What the counter stands at. -/
def liveCount (rt : Runtime) (s : State Tbl) (key : String) : Int :=
  match liveEntry s s.db key with
  | none => 0
  | some e => RuntimeCache.toBigint rt e.value

theorem toBigint_counted (now : Int) (ex : Option Int) (entry : Option (Entry Json)) :
    RuntimeCache.toBigint rt (counted rt now ex entry).value
      = (match entry with
          | none => 0
          | some e => RuntimeCache.toBigint rt e.value) + 1 := by
  cases entry <;> rfl

theorem run_incr_alone (h : CacheOnly ss) (key : String) (ex : Option Int) {n : Int}
    (hn : RuntimeCache.toBigint rt (counted rt s.now ex (liveEntry s (s.view ss) key)).value = n)
    (hbig : RuntimeCache.inBigint n = true) :
    ∃ ss', (RuntimeCache.incr rt key ex).run s ss = (.ok n, ss') ∧ CacheOnly ss' ∧
      stored (s.view ss') key = some (counted rt s.now ex (liveEntry s (s.view ss) key)) ∧
      ∀ k, k ≠ key → SameDocument s ss ss' k := by
  obtain ⟨ss', hrun, hstored⟩ := run_incr rt s ss key ex
  have hrun' : (RuntimeCache.incr rt key ex).run s ss = (.ok n, ss') := by
    unfold liveEntry at hn
    rw [hrun, hn, if_pos hbig]
  have hsince := cacheSince_run (s := s)
    (steady_incr rt (appends_stable _) (appends_open ss.ws key) ex)
  rw [hrun'] at hsince
  refine ⟨ss', hrun', h.since hsince, ?_, fun k hk => sameDocument_of_purge ?_⟩
  · rw [hstored, Function.update_self]
    rfl
  · rw [hstored, TtlMap.purge_update, Function.update_of_ne hk]

/-- The session sees the row of a document. -/
def SeesRow (key : String) (row : Option RuntimeCacheRow) (s : State Tbl)
    (ws : List (Write Tbl)) : Prop := (s.db.apply ws .runtime_cache).get? key = row

theorem SeesRow.append {key : String} {row : Option RuntimeCacheRow} {ws : List (Write Tbl)}
    {w : Write Tbl} (h : SeesRow key row s ws) (hw : w.rowId ≠ ⟨.runtime_cache, key⟩) :
    SeesRow key row s (ws ++ [w]) := by
  unfold SeesRow at h ⊢
  rw [DB.apply_append]
  show ((s.db.apply ws).write w .runtime_cache).get? key = row
  rw [DB.get?_write_of_ne _ hw, h]

/-- The row of a document stays through writes under other keys. -/
theorem seesRow_open {key : String} (row : Option RuntimeCacheRow) {k : String} (hk : k ≠ key) :
    CacheOpen (Contract.solo : Contract Unit Tbl) (SeesRow key row) k where
  put _ hrow _ _ _ hj :=
    hj.append fun heq => hk (hrow.symm.trans (eq_of_heq (Sigma.mk.inj heq).2))
  del _ _ _ hj := hj.append fun heq => hk (eq_of_heq (Sigma.mk.inj heq).2)

theorem seesRow_stable (key : String) (row : Option RuntimeCacheRow) :
    (Contract.solo : Contract Unit Tbl).Stable (SeesRow key row) := by
  intro s s' ss hr _ hj
  unfold SeesRow at hj ⊢
  rw [hr.solo_db]
  exact hj

variable (s) (ss) in
/-- A program that writes under other keys leaves the document. -/
theorem stored_run {key : String} {p : Db α}
    (hp : ∀ row, (Contract.solo : Contract Unit Tbl).Steady (SeesRow key row) p) :
    stored (s.view (p.run s ss).2) key = stored (s.view ss) key := by
  have hrow := wp_run (C := (Contract.solo : Contract Unit Tbl)) trivial (fun _ _ => rfl)
    (hp _ s ss trivial rfl)
  exact congrArg (Option.map RuntimeCacheRow.entry) hrow

end PyBoard
