/-
  PyBoard.Specs.Handing — codes and links that the runtime cache holds.

  A row under `email_verify_code:` is the code of an address, and one under `temp_token:` the
  account that a link logs in.  No request stores such a row apart from the two that issue
  them; the others remove it at most, and so what a request reads is the row as it was
  committed.

  Main definitions:
    * `IsSecret`, `handing` — the keys, and who may store what under them.

  Main results:
    * `Kept.secret_bind` — what a request reads under such a key.
    * `AccountOp.discreet` — a request that issues nothing stores nothing there.
-/
import PyBoard.Specs.Requests
import PyBoard.Specs.Steady
import PyBoard.Specs.Works

namespace PyBoard

open Relational

variable {rt : Runtime} {fm : Formats} {libs : PasswordLibs} {α β : Type}

/-! ## §1. The policy. -/

/-- The key of a code or of a link. -/
def IsSecret (key : String) : Prop :=
  (∃ email, key = AuthService.emailVerifyCodeKey email) ∨ ∃ code, key = tempTokenKey code

theorem isSecret_code (email : String) : IsSecret (AuthService.emailVerifyCodeKey email) :=
  Or.inl ⟨email, rfl⟩

theorem isSecret_temp (code : String) : IsSecret (tempTokenKey code) := Or.inr ⟨code, rfl⟩

/-- A key that begins in another way. -/
theorem not_isSecret (n : Nat) {a : String} (hn : n ≤ 11) (ha : n ≤ a.toList.length)
    (hcode : a.toList.take n ≠ "email_verify_code:".toList.take n)
    (htemp : a.toList.take n ≠ "temp_token:".toList.take n) (x : String) : ¬IsSecret (a ++ x) := by
  intro h
  cases h with
  | inl h =>
    obtain ⟨email, heq⟩ := h
    exact append_ne_append n ha (hn.trans (by decide)) hcode x email heq
  | inr h =>
    obtain ⟨code, heq⟩ := h
    exact append_ne_append n ha (hn.trans (by decide)) htemp x code heq

/-- A row of the cache under a key of `S` is stored if it is issued; every row may go. -/
abbrev handing (S : String → Prop) (Issue : RuntimeCacheRow → Prop) : Policy RuntimeCacheRow :=
  .guarding (fun row => S row.key) Issue

theorem handing_lawful (S : String → Prop) (Issue : RuntimeCacheRow → Prop) :
    (handing S Issue).Lawful := Policy.guarding_lawful _ _

/-- The INSERT or UPDATE of a row of the cache. -/
theorem handing_upsert {S : String → Prop} {Issue : RuntimeCacheRow → Prop}
    {row : RuntimeCacheRow} {f : RuntimeCacheRow → RuntimeCacheRow}
    (hnew : S row.key → Issue row)
    (hold : ∀ cur : RuntimeCacheRow, cur.key = row.key → S row.key →
      Issue { f cur with key := row.key }) :
    (Stmt.upsert Tbl.runtime_cache row f : Stmt Tbl).Respects (t := Tbl.runtime_cache)
      (handing S Issue) := by
  refine .upsert (handing_lawful S Issue) hnew fun cur hcur hS => Or.inr ?_
  have hkey : cur.key = row.key := hcur
  show Issue { f cur with key := cur.key }
  rw [hkey]
  refine hold cur hkey ?_
  rw [← hkey]
  exact hS

/-- Nothing is issued under the keys of `S`. -/
abbrev Silent (S : String → Prop) (p : Db α) : Prop :=
  p.Respects (t := Tbl.runtime_cache) (handing S fun _ => False)

/-- A program that issues no row. -/
theorem Silent.respects {S : String → Prop} {p : Db α} (hp : Silent S p)
    (Issue : RuntimeCacheRow → Prop) :
    p.Respects (t := Tbl.runtime_cache) (handing S Issue) :=
  hp.imp fun _ hst s ss k => Policy.guarding_mono (fun _ h => h.elim) (hst s ss k)

/-- The statements of the requests are silent about keys that settings and limits do not
    have. -/
theorem works_silent {S : String → Prop}
    (hsettings : ∀ {key}, key ≠ emailVerifySetting → ¬S (SettingService.Cached.cacheKey key))
    (hregistrations : ∀ ip, ¬S (AuthService.registerLimitKey ip))
    (hmails : ∀ ip, ¬S (AuthService.emailVerifyRateKey ip))
    (hsends : ∀ email, ¬S (AuthService.emailVerifyLastSendKey email)) :
    Works (Stmt.Respects (t := Tbl.runtime_cache) (handing S fun _ => False))
      fun key => ¬S key := by
  have hlawful := handing_lawful S fun _ => False
  have hne : ∀ {t : Tbl}, t ∈ accountTables → t ≠ .runtime_cache := by
    intro t ht heq
    rw [heq] at ht
    revert ht
    decide
  constructor
  · exact {
      reads := fun {st} h => by
        refine Stmt.Spares.respects ?_ hlawful
        cases st with
        | get t k lock => trivial
        | select t p lock => trivial
        | tryLock t k granted => trivial
        | clock => trivial
        | update t old new => exact h.elim
        | insert t r => exact h.elim
        | upsert t r f => exact h.elim
        | delete t k => exact h.elim
        | rollback => exact h.elim
      upsert := fun hkey _ => handing_upsert (fun h => absurd h hkey) fun _ _ h => absurd h hkey
      insert := fun hkey => .insert hlawful fun h => absurd h hkey
      delete := fun _ => .delete hlawful fun _ _ => trivial
      settings := hsettings
      registrations := hregistrations
      mails := hmails
      sends := hsends }
  · intro t ht old new
    have hspares : (Stmt.update t old new : Stmt Tbl).Spares Tbl.runtime_cache := hne ht
    exact hspares.respects hlawful
  · intro t ht r
    have hspares : (Stmt.insert t r : Stmt Tbl).Spares Tbl.runtime_cache := hne ht
    exact hspares.respects hlawful
  · intro t ht k
    have hspares : (Stmt.delete t k : Stmt Tbl).Spares Tbl.runtime_cache := hne ht
    exact hspares.respects hlawful

/-- No code and no link is issued. -/
abbrev discreet : Policy RuntimeCacheRow := handing IsSecret fun _ => False

theorem discreet_lawful : discreet.Lawful := handing_lawful _ _

/-- The program issues no code and no link. -/
abbrev Discreet (p : Db α) : Prop := Silent IsSecret p

theorem works_discreet :
    Works (Stmt.Respects (t := Tbl.runtime_cache) discreet) fun key => ¬IsSecret key := by
  refine works_silent ?_ ?_ ?_ ?_
  · exact fun {key} _ => not_isSecret 1 (by decide) (by decide) (by decide) (by decide) key
  · exact fun ip => not_isSecret 1 (by decide) (by decide) (by decide) (by decide) ip
  · intro ip h
    cases h with
    | inl h =>
      obtain ⟨email, heq⟩ := h
      exact append_ne_append 14 (by decide) (by decide) (by decide) ip email heq
    | inr h =>
      obtain ⟨code, heq⟩ := h
      exact append_ne_append 1 (by decide) (by decide) (by decide) ip code heq
  · intro email h
    cases h with
    | inl h =>
      obtain ⟨email', heq⟩ := h
      exact append_ne_append 14 (by decide) (by decide) (by decide) email email' heq
    | inr h =>
      obtain ⟨code, heq⟩ := h
      exact append_ne_append 1 (by decide) (by decide) (by decide) email code heq

theorem emailVerify_not_secret : ¬IsSecret (SettingService.Cached.cacheKey emailVerifySetting) :=
  not_isSecret 1 (by decide) (by decide) (by decide) (by decide) _

/-! ## §2. Reading a code or a link. -/

section

variable {L : Type} {R : Database → Prop} {lo hi : Int} {s : State Tbl} {ss : Session Tbl}

/-- A transaction that has issued nothing so far. -/
abbrev Unissued (R : Database → Prop) (lo : Int) (s : State Tbl) (ss : Session Tbl) : Prop :=
  Kept (t := Tbl.runtime_cache) discreet R lo s ss

/-- A row that was committed and had not expired at a moment. -/
structure Stands (M : Int → Database → Prop) (key : String) (v : Json)
    (row : RuntimeCacheRow) : Prop where
  stored : ∃ now D, M now D ∧ row ∈ (D .runtime_cache).rows
  live : ∃ now D, M now D ∧ row.live now = true
  key : row.key = key
  value : row.value = v

/-- **A code or a link that is read** is one that was committed. -/
theorem Unissued.wp_secret {key : String} (h : Unissued R lo s ss) (hsecret : IsSecret key) :
    wp (meeting R : Contract L Tbl) (RuntimeCache.get key) (Within hi fun r s' ss' =>
      Unissued R lo s' ss' ∧
        ∀ v, r = .ok (some v) → ∃ row, Stands (During R lo hi) key v row) s ss := by
  unfold RuntimeCache.get
  simp only [Prog.bind_eq]
  refine Kept.clock_bind (t := Tbl.runtime_cache) discreet_lawful h fun s₁ h₁ hnow => ?_
  refine Kept.select_bind (t := Tbl.runtime_cache) discreet_lawful h₁
    fun rows s₂ h₂ hmet hrows => ?_
  refine Kept.respects_bind (t := Tbl.runtime_cache) discreet_lawful h₂
    (obeys_whenever (RuntimeCache.obeys_deleteExpiredKey works_discreet.toServes key s₁.now))
    (fun _ _ _ h₃ => ⟨h₃, fun v hv => by cases hv⟩) fun _ s₃ ss₃ h₃ _ => ⟨h₃, fun v hv => ?_⟩
  obtain ⟨row, hrow, hdecode⟩ := Option.bind_eq_some_iff.mp (Except.ok.inj hv)
  obtain ⟨hallows, hlive⟩ := hrows row (List.mem_of_mem_head? hrow)
  obtain ⟨hkey, hlive⟩ := Bool.and_eq_true_iff.mp hlive
  have hkey : row.key = key := of_decide_eq_true hkey
  have hget : (s₂.db Tbl.runtime_cache).get? row.key = some row :=
    (Policy.guarding_stored hallows (hkey ▸ hsecret)).resolve_right id
  refine ⟨row, ⟨_, _, hmet, Table.mem_of_get? hget⟩, ⟨_, _, hnow, hlive⟩, hkey, ?_⟩
  unfold RuntimeCache.decodeJsonb at hdecode
  split at hdecode
  · cases hdecode
  · exact Option.some.inj hdecode

end

/-! ## §3. Requests that issue a code or a link. -/

section

variable {L : Type} {R : Database → Prop} {lo hi : Int} {s : State Tbl} {ss : Session Tbl}

/-- The row that a request issues: the code of an address for five minutes, or the account
    that asks for a link for one minute. -/
def AccountOp.Issues (rt : Runtime) (M : Int → Database → Prop) : AccountOp → RuntimeCacheRow → Prop
  | .sendEmailVerify _ drawn data _, row => row.key = AuthService.emailVerifyCodeKey data.email ∧
      row.value = .str (toString (drawn + 100000)) ∧
      ∃ now D, M now D ∧ row.expires_at = some (now + 300)
  | .own credentials (.getQuickLoginUrl code _), row => row.key = tempTokenKey code ∧
      (∃ u, Bearing rt M .user credentials u ∧ row.value = .int u.id) ∧
      ∃ now D, M now D ∧ row.expires_at = some (now + 60)
  | _, _ => False

/-- The transaction ends with what it may issue. -/
abbrev Issuing (L : Type) (R : Database → Prop) (lo hi : Int) (Issue : RuntimeCacheRow → Prop)
    (p : Db α) (s : State Tbl) (ss : Session Tbl) : Prop :=
  wp (meeting R : Contract L Tbl) p
    (Within hi fun _ s' ss' =>
      Kept (t := Tbl.runtime_cache) (handing IsSecret Issue) R lo s' ss') s ss

variable {Issue : RuntimeCacheRow → Prop}

/-- A part that issues nothing. -/
theorem Discreet.issuing {p : Db α} (hp : Discreet p)
    (h : Kept (t := Tbl.runtime_cache) (handing IsSecret Issue) R lo s ss) :
    Issuing L R lo hi Issue p s ss :=
  wp_mono (h.wp_respects (handing_lawful IsSecret Issue) (hp.respects Issue))
    fun _ _ _ hkept _ => hkept

/-- A part that issues nothing, and the rest. -/
theorem Discreet.issuing_bind {p : Db α} {f : α → Db β} (hp : Discreet p)
    (h : Kept (t := Tbl.runtime_cache) (handing IsSecret Issue) R lo s ss)
    (hf : ∀ a s' ss', Kept (t := Tbl.runtime_cache) (handing IsSecret Issue) R lo s' ss' →
      Issuing L R lo hi Issue (f a) s' ss') : Issuing L R lo hi Issue (p.bind f) s ss :=
  Kept.respects_bind (t := Tbl.runtime_cache) (handing_lawful IsSecret Issue) h (hp.respects Issue)
    (fun _ _ _ hkept => hkept) hf

/-- **A row is issued.** -/
theorem issuing_set {key : String} {value : Json} {ex : Option Int}
    (h : Kept (t := Tbl.runtime_cache) (handing IsSecret Issue) R lo s ss)
    (hissue : ∀ now D, During R lo hi now D →
      Issue { key := key, value := value, expires_at := RuntimeCache.expiresAt now ex }) :
    Issuing L R lo hi Issue (RuntimeCache.set key value ex) s ss := by
  unfold RuntimeCache.set
  simp only [Prog.bind_eq]
  refine Kept.clock_bind (t := Tbl.runtime_cache)
    (handing_lawful IsSecret Issue) h fun s₁ h₁ hnow => ?_
  have hrow := hissue _ _ hnow
  refine wp_mono (h₁.wp_respects (handing_lawful IsSecret Issue) ?_) fun _ _ _ hkept _ => hkept
  exact .ite
    (.bind (Silent.respects (RuntimeCache.obeys_deleteExpiredKey works_discreet.toServes _ _) Issue)
    fun _ => .stmt (.insert (handing_lawful IsSecret Issue) fun _ => hrow))
    (.bind (.stmt (handing_upsert (fun _ => hrow) fun _ _ _ => hrow)) fun _ => .ret _)

theorem issuing_sendEmailVerify {http : TurnstileService.Siteverify} {drawn : Nat}
    {data : AuthService.EmailVerifyRequest} {client_ip : Option String}
    (h : Kept (t := Tbl.runtime_cache) (handing IsSecret Issue) R lo s ss)
    (hissue : ∀ now D, During R lo hi now D →
      Issue { key := AuthService.emailVerifyCodeKey data.email
              value := .str (toString (drawn + 100000))
              expires_at := some (now + 300) }) :
    Issuing L R lo hi Issue (sendEmailVerify rt http drawn data client_ip) s ss := by
  refine Within.bind (Q := fun _ s' ss' =>
    Kept (t := Tbl.runtime_cache) (handing IsSecret Issue) R lo s' ss') ?_
    (fun _ _ _ hkept => hkept)
    fun code s₁ ss₁ h₁ => Discreet.issuing (.bind
      (SettingService.Cached.obeys_getStr works_discreet.toServes
        (works_discreet.settings (by decide)) _) fun _ =>
      .bind (SettingService.Cached.obeys_getStr works_discreet.toServes
        (works_discreet.settings (by decide)) _) fun _ => .ret _) h₁
  unfold AuthService.createEmailVerifyCode
  simp only [Prog.bind_eq]
  refine Discreet.issuing_bind (AuthService.obeys_checkEmailVerifyRate works_discreet.toServes _) h
    fun _ s₁ ss₁ h₁ => ?_
  refine Discreet.issuing_bind (AuthService.obeys_checkEmailPolicy works_discreet.toServes _) h₁
    fun _ s₂ ss₂ h₂ => ?_
  refine Discreet.issuing_bind
    (TurnstileService.obeys_verifyIfEnabled works_discreet.toServes _ _ _) h₂
    fun _ s₃ ss₃ h₃ => ?_
  refine Discreet.issuing_bind (obeys_emailExists works_discreet.toServes _) h₃
    fun found s₄ ss₄ h₄ => ?_
  refine wp_ite (fun _ => Discreet.issuing (.throw _) h₄) fun _ =>
    wp_ite (fun _ => Discreet.issuing (.throw _) h₄) fun _ => ?_
  refine Discreet.issuing_bind (RuntimeCache.obeys_get works_discreet.toServes _) h₄
    fun last s₅ ss₅ h₅ => ?_
  refine wp_ite (fun _ => Discreet.issuing (.throw _) h₅) fun _ => ?_
  refine Within.bind (issuing_set h₅ hissue) (fun _ _ _ hkept => hkept) fun _ s₆ ss₆ h₆ => ?_
  exact Discreet.issuing (.bind (obeys_time works_discreet.toServes) fun _ =>
    .bind (RuntimeCache.obeys_set works_discreet.toServes (works_discreet.toServes.sends _) _ _ _)
      fun _ => .ret _) h₆

theorem issuing_getQuickLoginUrl {user_id : Int} {code redirect : String}
    (h : Kept (t := Tbl.runtime_cache) (handing IsSecret Issue) R lo s ss)
    (hissue : ∀ now D, During R lo hi now D →
      Issue { key := tempTokenKey code, value := .int user_id, expires_at := some (now + 60) }) :
    Issuing L R lo hi Issue (getQuickLoginUrl rt user_id code redirect) s ss := by
  refine Within.bind (issuing_set h hissue) (fun _ _ _ hkept => hkept) fun _ s₁ ss₁ h₁ => ?_
  exact Discreet.issuing (.bind (SettingService.Cached.obeys_getStr works_discreet.toServes
    (works_discreet.settings (by decide)) _)
    fun _ => .ret _) h₁

/-- **A request stores no code and no link but those that it issues.** -/
theorem AccountOp.issuing (op : AccountOp) (hclean : Clean R lo s ss) :
    Issuing L R lo hi (op.Issues rt (During R lo hi)) (op.prog rt fm libs) s ss := by
  have hlawful := handing_lawful IsSecret (op.Issues rt (During R lo hi))
  have h : Kept (t := Tbl.runtime_cache)
      (handing IsSecret (op.Issues rt (During R lo hi))) R lo s ss :=
    hclean.kept hlawful
  cases op with
  | register http drawn data client_ip =>
    exact Discreet.issuing (.bind (AuthService.works_register works_discreet http
      emailVerify_not_secret drawn data client_ip)
      fun _ => .ret _) h
  | login http hash_password data client_ip =>
    exact Discreet.issuing
      (.bind (AuthService.works_login works_discreet http hash_password data client_ip _)
      fun _ => .ret _) h
  | token2Login verify token redirect =>
    exact Discreet.issuing (.bind (works_token2Login works_discreet verify token redirect) fun _ =>
      .ret _) h
  | forgetPassword http hash_password data client_ip =>
    exact Discreet.issuing
      (.bind (AuthService.works_forgetPassword works_discreet http hash_password data _ _)
      fun _ => .ret _) h
  | sendEmailVerify http drawn data client_ip =>
    refine Within.bind (issuing_sendEmailVerify h fun now D hnow => ⟨rfl, rfl, now, D, hnow, rfl⟩)
      (fun _ _ _ hkept => hkept) fun _ s₁ ss₁ h₁ => Discreet.issuing (.ret _) h₁
  | recordInvitePv invite_code =>
    exact Discreet.issuing (.bind (AuthService.works_recordInvitePv works_discreet invite_code)
      fun _ => .ret _) h
  | own credentials op =>
    refine current_bind hclean (fun _ _ _ h₁ => h₁.kept hlawful) fun u s₁ ss₁ h₁ hb => ?_
    have hkept := h₁.kept (t := Tbl.runtime_cache) hlawful
    cases op with
    | me => exact fun _ => hkept
    | updateProfile data =>
      exact Discreet.issuing (.bind (UserService.works_updateProfile works_discreet _ data)
        fun _ => .ret _) hkept
    | changePassword hash_password data =>
      exact Discreet.issuing
        (.bind (UserService.works_changePassword works_discreet hash_password _ data)
        fun _ => .ret _) hkept
    | resetSecurity uuid token =>
      exact Discreet.issuing (.bind (UserService.works_resetSecurity works_discreet _ uuid token)
        fun _ => .ret _) hkept
    | unbindTelegram =>
      exact Discreet.issuing (.bind (UserService.works_unbindTelegram works_discreet _) fun _ =>
        .ret _) hkept
    | getQuickLoginUrl code redirect =>
      refine Within.bind (issuing_getQuickLoginUrl hkept fun now D hnow => ?_)
        (fun _ _ _ hkept => hkept) fun _ s₂ ss₂ h₂ => Discreet.issuing (.ret _) h₂
      exact ⟨rfl, ⟨u, hb, rfl⟩, now, D, hnow, rfl⟩
  | manage credentials op =>
    exact Discreet.issuing (.bind (Role.works_current works_discreet _ _) fun _ =>
      op.works works_discreet) h
  | staff credentials op =>
    exact Discreet.issuing (.bind (Role.works_current works_discreet _ _) fun _ =>
      op.works works_discreet) h
  | loginSubmit hash_password request =>
    exact Discreet.issuing (.bind (AdminUi.works_loginSubmit works_discreet hash_password request)
      fun _ => .ret _) h
  | page query request op =>
    exact Discreet.issuing (.bind (op.works works_discreet query request) fun _ => .ret _) h
  | cleanupRuntimeCache =>
    exact Discreet.issuing (.bind (RuntimeCache.obeys_cleanupExpired works_discreet.toServes)
      fun _ => .ret _) h

end

/-! ## §4. Requests that take a code or a link. -/

section

variable {L : Type} {R : Database → Prop} {lo hi : Int} {s : State Tbl} {ss : Session Tbl}
  {W : Permit → Prop}

/-- **A password is reset** with the code that stands for the address. -/
theorem AuthService.forgetPassword_presents {http : TurnstileService.Siteverify}
    {hash_password : String → String} {data : ForgetPasswordRequest} {client_ip : Option String}
    (h : Unissued R lo s ss) :
    wp (meeting R : Contract L Tbl) (forgetPassword rt http hash_password data none client_ip)
      (Within hi fun r _ _ => ∀ done, r = .ok done → ∃ v row,
        Stands (During R lo hi) (emailVerifyCodeKey data.email) v row ∧
          rt.str v = data.email_code) s ss := by
  unfold forgetPassword
  refine Kept.respects_bind (t := Tbl.runtime_cache) discreet_lawful h
    (TurnstileService.obeys_verifyIfEnabled works_discreet.toServes _ _ _)
      (fun _ _ _ _ done h => by cases h)
    fun _ s₁ ss₁ h₁ => ?_
  refine Within.bind (Unissued.wp_secret h₁ (isSecret_code data.email))
    (fun _ _ _ _ done h => by cases h) fun value s₂ ss₂ hvalue => ?_
  refine wp_ite (fun _ => fun _ done h => by cases h) fun haccepted => ?_
  obtain ⟨htruthy, htext⟩ := not_or.mp haccepted
  cases value with
  | none => exact absurd rfl htruthy
  | some v =>
    obtain ⟨row, hrow⟩ := hvalue.2 v rfl
    exact wp_always fun _ _ _ _ _ _ => ⟨v, row, hrow, not_not.mp htext⟩

/-- **Who logs in by a link** is the account that stands for it. -/
theorem token2Login_handed {verify token : Option String} {redirect : String}
    (hclean : Clean R lo s ss)
    (hW : ∀ (u : User) v row, Stands (During R lo hi) (tempTokenKey (verify.getD "")) v row →
      CouponService.intOfItem rt v = .ok u.id →
      W (.editing { account := u.id, columns := [.last_login_at] })) :
    Explains L R (Policies W) hi (token2Login rt fm verify token redirect) s ss := by
  have h : Untouched R lo s ss := hclean.ready
  have hunissued : Unissued R lo s ss := hclean.kept (t := Tbl.runtime_cache) discreet_lawful
  unfold token2Login
  refine wp_ite (fun _ => h.explained _) fun _ => wp_ite (fun _ => h.explained _) fun _ => ?_
  -- the row that is read, and the accounts that are not changed
  have hget : wp (meeting R : Contract L Tbl) (RuntimeCache.get (tempTokenKey (verify.getD "")))
      (Within hi fun r s' ss' => (∀ v, r = .ok (some v) → ∃ row,
        Stands (During R lo hi) (tempTokenKey (verify.getD "")) v row) ∧ Untouched R lo s' ss')
      s ss := by
    refine wp_mono (wp_and (Q := Within hi _) (Unissued.wp_secret hunissued (isSecret_temp _))
      (h.wp_spares (RuntimeCache.obeys_get usersOnly _))) ?_
    exact fun r s' ss' hend hnow => ⟨(hend.1 hnow).2, hend.2⟩
  refine Within.bind hget (fun _ _ _ hend => ⟨_, Or.inl rfl, hend.2.changed⟩) ?_
  intro found s₁ ss₁ hfound
  obtain ⟨hstands, h₁⟩ := hfound
  cases found with
  | none => exact Ready.explained h₁ _
  | some v =>
    refine Ready.spares_bind h₁ (RuntimeCache.obeys_delete usersOnly _) fun _ s₂ ss₂ h₂ => ?_
    refine Untouched.liftExcept_bind h₂ fun user_id hid => ?_
    refine Explained.bind Policies.lawful ?_ fun _ => .ret _
    obtain ⟨row, hrow⟩ := hstands v rfl
    unfold AuthService.buildTokenForUserId
    refine h₂.get_bind fun s₃ ss₃ h₃ _ => ?_
    cases hget : (s₃.db Tbl.users).get? user_id with
    | none => exact h₃.explained _
    | some u =>
      have heq : u.id = user_id := Table.key_of_get? hget
      subst heq
      refine wp_ite (fun _ => h₃.explained _) fun _ => ?_
      refine h₃.clock_bind fun s₄ h₄ _ => ?_
      refine Untouched.update_bind h₄ (hW u v row hrow hid) rfl
        (.plain rfl (by simp [User.blank]) rfl rfl rfl) fun _ => ?_
      exact .bind (obeys_time usersOnly) fun _ => .ret _

end

end PyBoard
