/-
  PyBoard.Specs.Requests — every request keeps to a permit that it has.

  One lemma for each service function says which permit it needs; the lemmas about the
  handlers find the reason for it.

  Main results:
    * `AccountOp.explained` — a request changes accounts only as it is permitted to.
-/
import PyBoard.Specs.Entitlements

namespace PyBoard

open Relational

variable {rt : Runtime} {fm : Formats} {libs : PasswordLibs} {L : Type} {R : Database → Prop}
  {lo hi : Int} {W : Permit → Prop} {s : State Tbl} {ss : Session Tbl} {β : Type}

/-! ## §1. Steps. -/

/-- The cache is not the accounts. -/
theorem usersOnly : Serves (Stmt.Spares Tbl.users) fun _ => True := .spares (by decide)

theorem invitesApart (old new : InviteCode) :
    (Stmt.update Tbl.invite_code old new : Stmt Tbl).Spares Tbl.users :=
  show Tbl.invite_code ≠ Tbl.users by decide

/-- A part that keeps to a permit. -/
theorem Untouched.permitted {p : Db β} (h : Untouched R lo s ss) (P : Permit) (hW : W P)
    (hp : p.Respects (t := Tbl.users) P.policy) : Explains L R (Policies W) hi p s ss :=
  h.change P.lawful ⟨P, hW, rfl⟩ hp

/-- The UPDATE of an account ends a request. -/
theorem Untouched.update_bind {e : Editing} {old new : User} {f : User → Db β}
    (h : Untouched R lo s ss) (hW : W (.editing e)) (hid : old.id = e.account)
    (hallows : e.Allows old new) (hf : ∀ u, (f u).Spares Tbl.users) :
    Explains L R (Policies W) hi ((UserRepository.update old new).bind f) s ss :=
  Explained.bind Policies.lawful
    (h.permitted (.editing e) hW (Editing.respects_update hid hallows)) hf

/-- What a computation raises ends a request. -/
theorem Untouched.liftExcept_bind {α : Type} {x : Except PyExc α} {f : α → Db β}
    {Why : Policy User → Prop} (h : Untouched R lo s ss)
    (hf : ∀ a, x = .ok a → Explains L R Why hi (f a) s ss) :
    Explains L R Why hi ((liftExcept x).bind f) s ss := by
  cases x with
  | error e => exact h.explained _
  | ok a => exact hf a rfl

/-! ## §2. What an account does to itself. -/

namespace UserService

theorem UserSelfUpdate.allows {data : UserSelfUpdate} {user new : User}
    (h : data.apply user = .ok new) :
    Editing.Allows
      { account := user.id, columns := [.auto_renewal, .remind_expire, .remind_traffic] }
      user new := by
  obtain ⟨auto_renewal, -, h⟩ := except_bind_ok h
  obtain ⟨remind_expire, -, h⟩ := except_bind_ok h
  obtain ⟨remind_traffic, -, h⟩ := except_bind_ok h
  cases h
  exact .plain rfl (by simp [User.blank]) rfl rfl rfl

theorem updateProfile_explained {user_id : Int} (data : UserSelfUpdate)
    (h : Untouched R lo s ss)
    (hW : W (.editing
      { account := user_id, columns := [.auto_renewal, .remind_expire, .remind_traffic] })) :
    Explains L R (Policies W) hi (updateProfile user_id data) s ss := by
  refine h.existing_bind fun u s₁ ss₁ h₁ hid _ _ => ?_
  refine Untouched.liftExcept_bind h₁ fun new hnew => ?_
  subst hid
  exact Untouched.update_bind h₁ hW rfl (UserSelfUpdate.allows hnew) fun _ => .ret _

theorem changePassword_explained {user_id : Int} {hash_password : String → String}
    {data : UserChangePassword} (h : Untouched R lo s ss)
    (hW : ∀ (stored : User) new_hash now D, During R lo hi now D →
      (D .users).get? user_id = some stored →
      verifyAndUpgrade libs hash_password data.old_password stored.password
        = .ok (true, new_hash) →
      W (.editing (passwordEditing user_id (hash_password data.new_password)))) :
    Explains L R (Policies W) hi (changePassword libs hash_password user_id data) s ss := by
  refine h.existing_bind fun u s₁ ss₁ h₁ hid hmet hget => ?_
  refine Untouched.liftExcept_bind h₁ fun verified hverified => ?_
  obtain ⟨valid, new_hash⟩ := verified
  cases valid with
  | false => exact h₁.explained _
  | true =>
    exact Untouched.update_bind h₁ (hW u new_hash _ _ hmet hget hverified) hid
      (passwordEditing_allows hid _) fun _ => .ret _

theorem unbindTelegram_explained {user_id : Int} (h : Untouched R lo s ss)
    (hW : W (.editing { account := user_id, columns := [.telegram_id] })) :
    Explains L R (Policies W) hi (unbindTelegram user_id) s ss := by
  unfold unbindTelegram
  refine h.get_bind fun s₁ ss₁ h₁ _ => ?_
  cases hget : (s₁.db Tbl.users).get? user_id with
  | none => exact h₁.explained _
  | some u =>
    have hid : u.id = user_id := Table.key_of_get? hget
    dsimp only
    rw [← UserRepository.update_eq_updateRow]
    exact Untouched.update_bind h₁ hW hid (.plain hid (by simp [User.blank]) rfl rfl rfl)
      fun _ => .ret _

theorem resetSecurity_explained {user_id : Int} (uuid token : String) (h : Untouched R lo s ss)
    (hW : W (.editing { account := user_id, columns := [.uuid, .token] })) :
    Explains L R (Policies W) hi (resetSecurity user_id uuid token) s ss := by
  unfold resetSecurity
  refine h.get_bind fun s₁ ss₁ h₁ _ => ?_
  cases hget : (s₁.db Tbl.users).get? user_id with
  | none => exact h₁.explained _
  | some u =>
    have hid : u.id = user_id := Table.key_of_get? hget
    exact Untouched.update_bind h₁ hW hid (.plain hid (by simp [User.blank]) rfl rfl rfl) fun _ =>
      .ret _

/-! ## §3. What the administration does. -/

theorem adminSetBanned_explained {user_id : Int} (data : AdminUserBan) (h : Untouched R lo s ss)
    (hW : W (.editing { account := user_id, columns := [.banned] })) :
    Explains L R (Policies W) hi (adminSetBanned user_id data) s ss := by
  refine h.existing_bind fun u s₁ ss₁ h₁ hid _ _ => ?_
  exact Untouched.update_bind h₁ hW hid (.plain hid (by simp [User.blank]) rfl rfl rfl) fun _ =>
    .ret _

theorem adminResetSecurity_explained {user_id : Int} (uuid token : String)
    (h : Untouched R lo s ss)
    (hW : W (.editing { account := user_id, columns := [.uuid, .token] })) :
    Explains L R (Policies W) hi (adminResetSecurity user_id uuid token) s ss :=
  Explained.bind Policies.lawful (resetSecurity_explained uuid token h hW) fun _ => .ret _

theorem adminSetInviteUser_explained {user_id : Int} (data : AdminUserInviteSetter)
    (h : Untouched R lo s ss)
    (hW : W (.editing { account := user_id, columns := [.invite_user_id] })) :
    Explains L R (Policies W) hi (adminSetInviteUser rt user_id data) s ss := by
  refine h.existing_bind fun u s₁ ss₁ h₁ hid _ _ => ?_
  refine h₁.spares_bind (obeys_inviterOf usersOnly u data) fun inviter s₂ ss₂ h₂ => ?_
  exact Untouched.update_bind h₂ hW hid (.plain hid (by simp [User.blank]) rfl rfl rfl) fun _ =>
    .ret _

theorem updateUser_explained {user_id : Int} {hash_password : String → String}
    {data : UserUpdate} (h : Untouched R lo s ss)
    (hW : W (.editing (data.editing hash_password user_id))) :
    Explains L R (Policies W) hi (updateUser hash_password user_id data) s ss := by
  unfold updateUser
  refine h.get_bind fun s₁ ss₁ h₁ _ => ?_
  cases hget : (s₁.db Tbl.users).get? user_id with
  | none => exact h₁.explained _
  | some u =>
    have hid : u.id = user_id := Table.key_of_get? hget
    subst hid
    refine h₁.spares_bind (obeys_ensureEmailAvailable usersOnly u data.email) fun _ s₂ ss₂ h₂ => ?_
    refine Untouched.liftExcept_bind h₂ fun new hnew => ?_
    refine Untouched.permitted h₂ _ hW (respects_updateRow (Permit.lawful _) fun cur hcur => ?_)
    exact Editing.allows_merge (e := data.editing hash_password u.id) rfl
      (UserUpdate.editing_allows hnew) cur hcur

/-- The rows of a deleted account. -/
theorem respects_deleteUserRelatedData (user_id : Int) :
    (deleteUserRelatedData user_id).Respects (t := Tbl.users) (Permit.deleting user_id).policy := by
  have hlawful := (Permit.deleting user_id).lawful
  have hspares : ∀ (t' : Tbl) (p : t'.Row → Bool), t' ≠ .users →
      (Prog.deleteReturning t' p : Db _).Respects (t := Tbl.users)
        (Permit.deleting user_id).policy := by
    intro t' p hne
    exact Prog.Spares.respects
      (.deleteReturning trivial (fun _ => trivial) fun _ _ => hne) hlawful
  have hreads : ∀ st : Stmt Tbl, st.Spares Tbl.users →
      st.Respects (t := Tbl.users) (Permit.deleting user_id).policy :=
    fun st h => h.respects hlawful
  refine .bind (.stmt (hreads _ trivial)) fun tickets => .bind (.ite ?_ (.ret _)) fun _ => ?_
  · exact .bind (hspares _ _ (by decide)) fun _ => .ret _
  refine .bind (hspares _ _ (by decide)) fun _ => .bind (hspares _ _ (by decide)) fun _ =>
    .bind (hspares _ _ (by decide)) fun _ => .bind ?_ fun _ => .ret _
  refine .updateReturning (hreads _ trivial) (fun _ => hreads _ trivial) fun cur _ => ?_
  refine .update hlawful fun met _ => ?_
  exact User.blank_merge (by simp [User.blank]) met

theorem deleteUser_explained {user_id : Int} (h : Untouched R lo s ss)
    (hW : W (.deleting user_id)) :
    Explains L R (Policies W) hi (deleteUser user_id) s ss := by
  refine h.existing_bind fun u s₁ ss₁ h₁ hid _ _ => ?_
  refine Untouched.permitted h₁ (.deleting user_id) hW ?_
  refine .bind (respects_deleteUserRelatedData user_id) fun _ => .bind (.stmt ?_) fun _ => .ret _
  exact .delete (Permit.deleting user_id).lawful fun r hr => Eq.trans hr hid

/-! ## §4. New accounts. -/

/-- The INSERT of an account that may be created. -/
theorem respects_create {P : User → Prop} {user : User} (huser : P user) :
    (create .users user).Respects (t := Tbl.users) (Permit.creating P).policy :=
  .bind (.stmt (.insert (Permit.creating P).lawful huser)) fun _ => .ite (.ret _) (.throw _)

/-- The same with the check of the columns. -/
theorem respects_createUserRow {P : User → Prop} {user : User} (huser : P user) :
    (createUserRow user).Respects (t := Tbl.users) (Permit.creating P).policy :=
  .ite (respects_create huser) (.throw _)

theorem respects_createUser (drawn : NewAccount) (bytes : BitVec (8 * 18))
    (data : AuthService.UserCreate) :
    (createUser drawn bytes data).Respects (t := Tbl.users)
      (Permit.creating (data.Makes drawn.hash_password)).policy := by
  refine .bind (Prog.Spares.respects (obeys_emailExists usersOnly _) (Permit.lawful _)) fun taken =>
    .ite (.throw _) (.bind (respects_createUserRow ?_) fun _ => .ret _)
  exact ⟨⟨rfl, rfl, rfl, rfl, rfl⟩, rfl, rfl⟩

/-- The induction is on the accounts that are still to be generated. -/
theorem respects_generateRounds (data : AdminUserGenerate) (count : Int) (plan : Option Plan)
    (draws : Nat → Generated) (rounds : List Nat) :
    (generateRounds rt data count plan draws rounds).Respects (t := Tbl.users)
      (Permit.creating User.Plain).policy := by
  induction rounds with
  | nil => exact .ret _
  | cons index rest ih =>
    refine .bind (Prog.Spares.respects (obeys_emailExists usersOnly _) (Permit.lawful _))
      fun taken =>
      .ite (.throw _) (.bind (respects_createUserRow ?_) fun _ => .bind ih fun _ => .ret _)
    exact ⟨rfl, rfl, rfl, rfl, rfl⟩

theorem respects_adminGenerateUsers (draws : Nat → Generated) (data : AdminUserGenerate) :
    (adminGenerateUsers rt draws data).Respects (t := Tbl.users)
      (Permit.creating User.Plain).policy :=
  .ite (.throw _) (.ite (.throw _)
    (.bind (Prog.Spares.respects (obeys_generatedPlan usersOnly _) (Permit.lawful _)) fun plan =>
      respects_generateRounds data _ plan draws _))

end UserService

theorem AuthService.respects_register (http : TurnstileService.Siteverify) (drawn : Drawn)
    (data : UserCreate) (client_ip : Option String) :
    (register rt fm http drawn data client_ip).Respects (t := Tbl.users)
      (Permit.creating (data.Makes drawn.hash_password)).policy := by
  have hspares : ∀ {α : Type} {p : Db α}, p.Spares Tbl.users → p.Respects (t := Tbl.users)
      (Permit.creating (data.Makes drawn.hash_password)).policy :=
    fun hp => hp.respects (Permit.lawful _)
  refine .bind (hspares (SettingService.Cached.obeys_getInt usersOnly trivial _)) fun stop =>
    .ite (.throw _) ?_
  refine .bind (hspares (obeys_checkEmailPolicy usersOnly _)) fun _ =>
    .bind (hspares (obeys_checkRegisterLimit usersOnly _)) fun _ =>
    .bind (hspares (TurnstileService.obeys_verifyIfEnabled usersOnly _ _ _)) fun _ =>
    .bind (hspares (SettingService.Cached.obeys_getInt usersOnly trivial _)) fun verify =>
    .bind (hspares (obeys_whenever (obeys_verifyEmailCode usersOnly _ _))) fun _ =>
    .bind (hspares (obeys_emailExists usersOnly _)) fun taken => .ite (.throw _) ?_
  refine .bind (hspares (obeys_resolveInviteUserId usersOnly invitesApart _)) fun inviter =>
    .bind (hspares (obeys_time usersOnly)) fun now =>
      .bind (UserService.respects_create ?_) fun _ => ?_
  · exact ⟨⟨rfl, rfl, rfl, rfl, rfl⟩, rfl, rfl⟩
  · exact .bind (hspares (RuntimeCache.obeys_delete usersOnly _)) fun _ =>
      .bind (hspares (obeys_time usersOnly)) fun _ => .ret _

/-! ## §5. Logging in. -/

namespace AuthService

theorem login_explained {http : TurnstileService.Siteverify} {hash_password : String → String}
    {data : LoginRequest} (client_ip : Option String) (verify_turnstile : Bool)
    (h : Untouched R lo s ss)
    (hW : ∀ u new_hash, LoggingIn libs (During R lo hi) hash_password data u new_hash →
      W (.editing (loginEditing u.id new_hash))) :
    Explains L R (Policies W) hi
      (login rt fm libs http hash_password data client_ip verify_turnstile) s ss := by
  unfold login
  refine h.spares_bind (obeys_whenever
    (TurnstileService.obeys_verifyIfEnabled usersOnly _ _ _)) fun _ s₁ ss₁ h₁ => ?_
  refine Untouched.getByEmail_bind h₁ (fun s₂ ss₂ h₂ => h₂.explained _) ?_
  intro u s₂ ss₂ h₂ hemail hmet hget
  refine Untouched.liftExcept_bind h₂ fun verified hverified => ?_
  obtain ⟨valid, new_hash⟩ := verified
  cases valid with
  | false => exact h₂.explained _
  | true =>
    refine wp_ite (fun h => by cases h) fun _ => wp_ite (fun _ => h₂.explained _) fun hbanned => ?_
    have hfree : u.banned = false := by simpa using hbanned
    refine h₂.clock_bind fun s₃ h₃ _ => ?_
    refine Untouched.update_bind h₃ (hW u new_hash ⟨⟨_, _, hmet, hget⟩, hemail, hverified, hfree⟩)
      rfl (loginEditing_allows u new_hash s₃.now) fun _ => ?_
    exact .bind (obeys_time usersOnly) fun _ => .ret _

theorem buildTokenForUserId_explained {user_id : Int} (h : Untouched R lo s ss)
    (hW : ∀ u : User, (∃ now D, During R lo hi now D ∧ (D .users).get? u.id = some u) →
      u.banned = false → W (.editing { account := u.id, columns := [.last_login_at] })) :
    Explains L R (Policies W) hi (buildTokenForUserId fm user_id) s ss := by
  unfold buildTokenForUserId
  refine h.get_bind fun s₁ ss₁ h₁ hmet => ?_
  cases hget : (s₁.db Tbl.users).get? user_id with
  | none => exact h₁.explained _
  | some u =>
    have hid : u.id = user_id := Table.key_of_get? hget
    subst hid
    refine wp_ite (fun _ => h₁.explained _) fun hbanned => ?_
    refine h₁.clock_bind fun s₂ h₂ _ => ?_
    refine Untouched.update_bind h₂ (hW u ⟨_, _, hmet, hget⟩ (by simpa using hbanned)) rfl
      (.plain rfl (by simp [User.blank]) rfl rfl rfl) fun _ => ?_
    exact .bind (obeys_time usersOnly) fun _ => .ret _

theorem forgetPassword_explained {http : TurnstileService.Siteverify}
    {hash_password : String → String} {data : ForgetPasswordRequest}
    (email_code client_ip : Option String) (h : Untouched R lo s ss)
    (hW : ∀ u : User, (∃ now D, During R lo hi now D ∧ (D .users).get? u.id = some u) →
      u.email = data.email →
      W (.editing (passwordEditing u.id (hash_password data.password)))) :
    Explains L R (Policies W) hi
      (forgetPassword rt http hash_password data email_code client_ip) s ss := by
  unfold forgetPassword
  refine h.spares_bind (TurnstileService.obeys_verifyIfEnabled usersOnly _ _ _)
    fun _ s₁ ss₁ h₁ => ?_
  refine h₁.spares_bind (obeys_expectedCode usersOnly _ _) fun code s₂ ss₂ h₂ => ?_
  refine wp_ite (fun _ => h₂.explained _) fun _ => ?_
  refine Untouched.getByEmail_bind h₂ (fun s₃ ss₃ h₃ => h₃.explained _) ?_
  intro u s₃ ss₃ h₃ hemail hmet hget
  refine Untouched.update_bind h₃ (hW u ⟨_, _, hmet, hget⟩ hemail) rfl
    (passwordEditing_allows rfl _) fun _ => ?_
  exact .bind (RuntimeCache.obeys_delete usersOnly _) fun _ => .ret _

end AuthService

theorem token2Login_explained {verify token : Option String} {redirect : String}
    (h : Untouched R lo s ss)
    (hW : ∀ u : User, (∃ now D, During R lo hi now D ∧ (D .users).get? u.id = some u) →
      u.banned = false → W (.editing { account := u.id, columns := [.last_login_at] })) :
    Explains L R (Policies W) hi (token2Login rt fm verify token redirect) s ss := by
  unfold token2Login
  refine wp_ite (fun _ => h.explained _) fun _ => wp_ite (fun _ => h.explained _) fun _ => ?_
  refine h.spares_bind (RuntimeCache.obeys_get usersOnly _) fun found s₁ ss₁ h₁ => ?_
  cases found with
  | none => exact h₁.explained _
  | some user_id =>
    refine h₁.spares_bind (RuntimeCache.obeys_delete usersOnly _) fun _ s₂ ss₂ h₂ => ?_
    refine Untouched.liftExcept_bind h₂ fun user_id _ => ?_
    exact Explained.bind Policies.lawful
      (AuthService.buildTokenForUserId_explained h₂ hW) fun _ => .ret _

/-! ## §6. The admin pages. -/

namespace AdminUi

theorem spares_usersTableResponse (query form : Form) :
    (usersTableResponse rt query form).Spares Tbl.users :=
  .bind (obeys_liftExcept _) fun _ => .bind (obeys_liftExcept _) fun _ =>
    .bind (obeys_liftExcept _) fun _ => .bind (.stmt trivial) fun _ => .ret _

/-- The administrator that the cookies name. -/
theorem currentAdmin_bind {request : Request} {f : Option Int → Db β}
    {Q : Except PyExc β → State Tbl → Session Tbl → Prop} (h : Clean R lo s ss)
    (hnone : ∀ s' ss', Clean R lo s' ss' →
      wp (meeting R : Contract L Tbl) (f none) (Within hi Q) s' ss')
    (hsome : ∀ token (u : User) s' ss', Clean R lo s' ss' → request.token = some token →
      Acting rt (During R lo hi) .admin token u →
      wp (meeting R : Contract L Tbl) (f (some u.id)) (Within hi Q) s' ss') :
    wp (meeting R : Contract L Tbl) ((currentAdmin rt request).bind f) (Within hi Q) s ss := by
  unfold currentAdmin
  cases htoken : request.token with
  | none => exact hnone s ss h
  | some token =>
    simp only [Prog.bind_eq]
    by_cases hempty : token = ""
    · simp only [hempty, if_true]
      exact hnone s ss h
    · simp only [hempty, if_false, Prog.bind_assoc]
      refine h.clock_bind fun s₁ h₁ hnow => ?_
      cases hdecode : rt.decode_user_id s₁.now token with
      | none => exact hnone s₁ ss h₁
      | some user_id =>
        simp only [Prog.bind_assoc]
        refine h₁.get_bind fun s₂ ss₂ h₂ hmet => ?_
        cases hget : (s₂.db Tbl.users).get? user_id with
        | none => exact hnone s₂ ss₂ h₂
        | some u =>
          have hid : u.id = user_id := Table.key_of_get? hget
          subst hid
          by_cases hbad : u.banned = true ∨ (!u.is_admin) = true
          · simp only [hbad, if_true]
            exact hnone s₂ ss₂ h₂
          · simp only [hbad, if_false]
            obtain ⟨hbanned, hadmin⟩ := not_or.mp hbad
            exact hsome token u s₂ ss₂ h₂ htoken ⟨⟨_, _, hnow, hdecode⟩, ⟨_, _, hmet, hget⟩,
              by simpa using hbanned, by simpa [Role.admits] using hadmin⟩

/-- **An action** of an administrator.  Whoever is turned away has written nothing. -/
theorem wp_action {request : Request} {run : Form → Db Page}
    {Q : Except PyExc Page → State Tbl → Session Tbl → Prop} (h : Clean R lo s ss)
    (hout : ∀ r s' ss', Clean R lo s' ss' → Q r s' ss')
    (hrun : ∀ form u s' ss', Clean R lo s' ss' →
      PageActing rt (During R lo hi) request form u →
      wp (meeting R : Contract L Tbl) (run form) (Within hi Q) s' ss') :
    wp (meeting R : Contract L Tbl) (action rt request run) (Within hi Q) s ss := by
  unfold action
  refine currentAdmin_bind h (fun s₁ ss₁ h₁ _ => hout _ _ _ h₁)
    fun token u s₁ ss₁ h₁ htoken ha => ?_
  dsimp only
  unfold formData
  cases hform : request.form with
  | none => exact fun _ => hout _ _ _ h₁
  | some form =>
    show wp _ ((liftExcept (validCsrf request form)).bind _) _ s₁ ss₁
    cases hvalid : validCsrf request form with
    | error e => exact fun _ => hout _ _ _ h₁
    | ok valid =>
      cases valid with
      | false => exact fun _ => hout _ _ _ h₁
      | true => exact hrun form u s₁ ss₁ h₁ ⟨⟨token, htoken, ha⟩, hform, hvalid⟩

/-- An action does what its administrator may do. -/
theorem action_explained {request : Request} {run : Form → Db Page} (h : Clean R lo s ss)
    (hrun : ∀ form u s' ss', Untouched R lo s' ss' →
      PageActing rt (During R lo hi) request form u →
      Explains L R (Policies W) hi (run form) s' ss') :
    Explains L R (Policies W) hi (action rt request run) s ss :=
  wp_action h (fun _ _ _ h₁ => ⟨_, Or.inl rfl, h₁.ready.changed⟩)
    fun form u s₁ ss₁ h₁ ha => hrun form u s₁ ss₁ h₁.ready ha

section

variable {t : Tbl} {Why : Policy (Schema.Row t) → Prop} {service : Db Unit} {response : Db Page}

/-- What an action answers changes nothing more. -/
theorem answer_explained {handler : PyExc → Db (Option String)} {f : Option String → Db Page}
    (hlawful : ∀ Q, Why Q → Q.Lawful)
    (h : wp (meeting R : Contract L Tbl) service (Explained Why hi) s ss)
    (hhandler : ∀ e, (handler e).Spares t) (hf : ∀ error, (f error).Spares t) :
    wp (meeting R : Contract L Tbl)
      ((Prog.tryCatch (service.bind fun _ => .ret none) handler).bind f) (Explained Why hi) s ss :=
  Explained.bind hlawful (Explained.tryCatch hlawful
    (Explained.bind hlawful h fun _ => .ret _) hhandler) hf

theorem orFormError_explained (hlawful : ∀ Q, Why Q → Q.Lawful)
    (h : wp (meeting R : Contract L Tbl) service (Explained Why hi) s ss)
    (hresponse : response.Spares t) :
    wp (meeting R : Contract L Tbl) (orFormError service response) (Explained Why hi) s ss := by
  refine answer_explained hlawful h (fun e => ?_) fun error => ?_
  · cases e <;> first | exact .ret _ | exact .throw _
  · cases error with
    | none => exact hresponse
    | some detail => exact .ret _

theorem orActionError_explained (hlawful : ∀ Q, Why Q → Q.Lawful)
    (h : wp (meeting R : Contract L Tbl) service (Explained Why hi) s ss)
    (hresponse : response.Spares t) :
    wp (meeting R : Contract L Tbl) (orActionError service response) (Explained Why hi) s ss := by
  refine answer_explained hlawful h (fun e => ?_) fun error => ?_
  · cases e <;> first | exact .ret _ | exact .throw _
  · cases error with
    | none => exact hresponse
    | some detail => exact .ret _

end

theorem loginSubmit_explained {hash_password : String → String} {request : Request}
    (h : Untouched R lo s ss)
    (hW : ∀ form data u new_hash, request.form = some form →
      AuthService.LoginRequest.validated rt (orEmpty (form.get "email"))
        (orEmpty (form.get "password")) = .ok data →
      LoggingIn libs (During R lo hi) hash_password data u new_hash →
      W (.editing (loginEditing u.id new_hash))) :
    Explains L R (Policies W) hi (loginSubmit rt fm libs hash_password request) s ss := by
  unfold loginSubmit formData
  cases hform : request.form with
  | none => exact h.explained _
  | some form =>
    refine wp_ite (fun _ => h.explained _) fun _ => ?_
    refine Explained.tryCatch Policies.lawful ?_ fun e => ?_
    · refine Untouched.liftExcept_bind h fun data hdata => ?_
      refine Explained.bind Policies.lawful (AuthService.login_explained none false h
        fun u new_hash hlogin => hW form data u new_hash hform hdata hlogin) fun auth_token => ?_
      -- the token is checked once more, and only read
      refine .bind ?_ fun _ => .ret _
      exact AuthService.obeys_requireAdmin usersOnly _
    · cases e <;> first | exact .ret _ | exact .throw _

end AdminUi

/-! ## §7. Requests. -/

theorem OwnOp.explained {u : User} (op : OwnOp) (h : Untouched R lo s ss)
    (hW : ∀ P, op.Permits libs (During R lo hi) u P → W P) :
    Explains L R (Policies W) hi (op.handler rt libs u.id) s ss := by
  cases op with
  | me => exact h.explained _
  | updateProfile data =>
    exact Explained.bind Policies.lawful
      (UserService.updateProfile_explained data h (hW _ rfl)) fun _ => .ret _
  | changePassword hash_password data =>
    refine Explained.bind Policies.lawful (UserService.changePassword_explained h ?_) fun _ =>
      .ret _
    intro stored new_hash now D hmet hget hverified
    exact hW _ ⟨⟨now, D, stored, new_hash, hmet, hget, hverified⟩, rfl⟩
  | resetSecurity uuid token =>
    exact Explained.bind Policies.lawful
      (UserService.resetSecurity_explained uuid token h (hW _ rfl)) fun _ => .ret _
  | unbindTelegram =>
    exact Explained.bind Policies.lawful
      (UserService.unbindTelegram_explained h (hW _ rfl)) fun _ => .ret _
  | getQuickLoginUrl code redirect =>
    exact h.spares (.bind (obeys_getQuickLoginUrl usersOnly _ trivial _) fun _ => .ret _)

theorem ManageOp.explained (op : ManageOp) (h : Untouched R lo s ss) (hW : W op.permit) :
    Explains L R (Policies W) hi (op.handler rt) s ss := by
  cases op with
  | createUser drawn bytes data =>
    exact h.permitted _ hW (.bind (UserService.respects_createUser drawn bytes data) fun _ =>
      .ret _)
  | generateUsers draws data =>
    exact h.permitted _ hW (.bind (UserService.respects_adminGenerateUsers draws data) fun _ =>
      .ret _)
  | updateUser hash_password user_id data =>
    exact Explained.bind Policies.lawful (UserService.updateUser_explained h hW) fun _ => .ret _
  | banUser user_id data =>
    exact Explained.bind Policies.lawful (UserService.adminSetBanned_explained data h hW)
      fun _ => .ret _
  | resetUserSecurity user_id uuid token =>
    exact Explained.bind Policies.lawful (UserService.adminResetSecurity_explained uuid token h hW)
      fun _ => .ret _
  | setInviteUser user_id data =>
    exact Explained.bind Policies.lawful (UserService.adminSetInviteUser_explained data h hW)
      fun _ => .ret _
  | deleteUser user_id => exact UserService.deleteUser_explained h hW

theorem StaffOp.explained (op : StaffOp) (h : Untouched R lo s ss) (hW : W op.permit) :
    Explains L R (Policies W) hi op.handler s ss := by
  cases op with
  | updateUser hash_password user_id data =>
    exact Explained.bind Policies.lawful (UserService.updateUser_explained h hW) fun _ => .ret _
  | banUser user_id data =>
    exact Explained.bind Policies.lawful (UserService.adminSetBanned_explained data h hW)
      fun _ => .ret _

theorem PageOp.explained {query : AdminUi.Form} {request : AdminUi.Request} (op : PageOp)
    (h : Clean R lo s ss)
    (hW : ∀ form u P, PageActing rt (During R lo hi) request form u → op.Permits rt form P → W P) :
    Explains L R (Policies W) hi (op.handler rt query request) s ss := by
  cases op with
  | createUser drawn bytes =>
    refine AdminUi.action_explained h fun form u s₁ ss₁ h₁ ha => ?_
    refine AdminUi.orFormError_explained Policies.lawful ?_
      (AdminUi.spares_usersTableResponse query form)
    refine Untouched.liftExcept_bind h₁ fun data hdata => ?_
    exact Untouched.permitted h₁ _ (hW form u _ ha ⟨data, hdata, rfl⟩)
      (.bind (UserService.respects_createUser drawn bytes data) fun _ => .ret _)
  | generateUsers draws =>
    refine AdminUi.action_explained h fun form u s₁ ss₁ h₁ ha => ?_
    refine AdminUi.orFormError_explained Policies.lawful ?_
      (AdminUi.spares_usersTableResponse query form)
    refine Untouched.liftExcept_bind h₁ fun data hdata => ?_
    exact Untouched.permitted h₁ _ (hW form u _ ha rfl)
      (.bind (UserService.respects_adminGenerateUsers draws data) fun _ => .ret _)
  | updateUser hash_password user_id =>
    refine AdminUi.action_explained h fun form u s₁ ss₁ h₁ ha => ?_
    refine AdminUi.orFormError_explained Policies.lawful ?_
      (AdminUi.spares_usersTableResponse query form)
    refine Untouched.liftExcept_bind h₁ fun data hdata => ?_
    exact Explained.bind Policies.lawful
      (UserService.updateUser_explained h₁ (hW form u _ ha ⟨data, hdata, rfl⟩)) fun _ => .ret _
  | banUser user_id =>
    refine AdminUi.action_explained h fun form u s₁ ss₁ h₁ ha => ?_
    exact Explained.bind Policies.lawful
      (UserService.adminSetBanned_explained _ h₁ (hW form u _ ha rfl))
      fun _ => AdminUi.spares_usersTableResponse query form
  | resetUserSecurity user_id uuid token =>
    refine AdminUi.action_explained h fun form u s₁ ss₁ h₁ ha => ?_
    exact Explained.bind Policies.lawful
      (UserService.adminResetSecurity_explained uuid token h₁ (hW form u _ ha rfl))
      fun _ => AdminUi.spares_usersTableResponse query form
  | deleteUser user_id =>
    refine AdminUi.action_explained h fun form u s₁ ss₁ h₁ ha => ?_
    exact AdminUi.orActionError_explained Policies.lawful
      (UserService.deleteUser_explained h₁ (hW form u _ ha rfl))
      (AdminUi.spares_usersTableResponse query form)

/-- **A request changes accounts only as it is permitted to.** -/
theorem AccountOp.explained (op : AccountOp) (hclean : Clean R lo s ss) :
    Explains L R (Policies (op.Permits rt libs (During R lo hi))) hi (op.prog rt fm libs) s ss := by
  have h : Untouched R lo s ss := hclean.ready
  -- who is turned away has changed nothing
  have hout : ∀ (e : PyExc) s' ss', Clean R lo s' ss' → ∃ Q : Policy User,
      (Q = Policy.frozen ∨ Policies (op.Permits rt libs (During R lo hi)) Q) ∧
        ss'.Changed (t := Tbl.users) Q s' :=
    fun _ _ _ h₁ => ⟨_, Or.inl rfl, h₁.ready.changed⟩
  cases op with
  | register http drawn data client_ip =>
    exact h.permitted _ rfl (.bind (AuthService.respects_register http drawn data client_ip)
      fun _ => .ret _)
  | login http hash_password data client_ip =>
    exact Explained.bind Policies.lawful (AuthService.login_explained client_ip true h
      fun u new_hash hlogin => ⟨u, new_hash, hlogin, rfl⟩) fun _ => .ret _
  | token2Login verify token redirect =>
    exact Explained.bind Policies.lawful (token2Login_explained h
      fun u hstored hbanned => ⟨u, hstored, hbanned, rfl⟩) fun _ => .ret _
  | forgetPassword http hash_password data client_ip =>
    exact Explained.bind Policies.lawful (AuthService.forgetPassword_explained none client_ip h
      fun u hstored hemail => ⟨u, hstored, hemail, rfl⟩) fun _ => .ret _
  | sendEmailVerify http drawn data client_ip =>
    exact h.spares (.bind (obeys_sendEmailVerify usersOnly _ _ trivial _) fun _ => .ret _)
  | recordInvitePv invite_code =>
    exact h.spares (.bind (AuthService.obeys_recordInvitePv usersOnly invitesApart _) fun _ =>
      .ret _)
  | own credentials op =>
    refine current_bind hclean hout fun u s₁ ss₁ h₁ hb => ?_
    exact op.explained h₁.ready fun P hP => ⟨u, hb, hP⟩
  | manage credentials op =>
    refine current_bind hclean hout fun u s₁ ss₁ h₁ hb => ?_
    exact op.explained h₁.ready ⟨⟨u, hb⟩, rfl⟩
  | staff credentials op =>
    refine current_bind hclean hout fun u s₁ ss₁ h₁ hb => ?_
    exact op.explained h₁.ready ⟨⟨u, hb⟩, rfl⟩
  | loginSubmit hash_password request =>
    exact Explained.bind Policies.lawful (AdminUi.loginSubmit_explained h
      fun form data u new_hash hform hdata hlogin => ⟨form, data, u, new_hash, hform, hdata, hlogin,
        rfl⟩)
      fun _ => .ret _
  | page query request op =>
    exact Explained.bind Policies.lawful
      (op.explained hclean fun form u P ha hP => ⟨form, u, ha, hP⟩) fun _ => .ret _
  | cleanupRuntimeCache =>
    exact h.spares (.bind (RuntimeCache.obeys_cleanupExpired usersOnly) fun _ => .ret _)

/-! ## §8. Mediation. -/

/-- The account that a request has to act for, if it has to. -/
def AccountOp.Acts (rt : Runtime) (M : Int → Database → Prop) : AccountOp → Prop
  | .own credentials _ => ∃ u, Bearing rt M .user credentials u
  | .manage credentials _ => ∃ u, Bearing rt M .admin credentials u
  | .staff credentials _ => ∃ u, Bearing rt M .staff credentials u
  | .page _ request _ => ∃ form u, PageActing rt M request form u
  | _ => True

/-- An action has acted for an administrator, or has written nothing. -/
theorem PageOp.mediated {query : AdminUi.Form} {request : AdminUi.Request} (op : PageOp)
    (h : Clean R lo s ss) (hi : Int) :
    wp (meeting R : Contract L Tbl) (op.handler rt query request)
      (Within hi fun _ _ ss => ss.ws = [] ∨ ∃ form u, PageActing rt (During R lo hi) request form u)
      s ss := by
  have haction : ∀ run : AdminUi.Form → Db AdminUi.Page,
      wp (meeting R : Contract L Tbl) (AdminUi.action rt request run) (Within hi fun _ _ ss =>
        ss.ws = [] ∨ ∃ form u, PageActing rt (During R lo hi) request form u) s ss :=
    fun run => AdminUi.wp_action h (fun _ _ _ h₁ => Or.inl h₁.nothing)
      fun form u _ _ _ ha => wp_always fun _ _ _ _ => Or.inr ⟨form, u, ha⟩
  cases op <;> exact haction _

/-- **A request that writes anything acts for an account** in the role of its router. -/
theorem AccountOp.mediated (op : AccountOp) (h : Clean R lo s ss) :
    wp (meeting R : Contract L Tbl) (op.prog rt fm libs)
      (Within hi fun _ _ ss => ss.ws = [] ∨ op.Acts rt (During R lo hi)) s ss := by
  cases op with
  | own credentials op =>
    exact current_bind h (fun _ _ _ h₁ => Or.inl h₁.nothing)
      fun u _ _ _ hb => wp_always fun _ _ _ _ => Or.inr ⟨u, hb⟩
  | manage credentials op =>
    exact current_bind h (fun _ _ _ h₁ => Or.inl h₁.nothing)
      fun u _ _ _ hb => wp_always fun _ _ _ _ => Or.inr ⟨u, hb⟩
  | staff credentials op =>
    exact current_bind h (fun _ _ _ h₁ => Or.inl h₁.nothing)
      fun u _ _ _ hb => wp_always fun _ _ _ _ => Or.inr ⟨u, hb⟩
  | page query request op =>
    refine (wp_bind _ _ _ _ _).mpr (wp_mono (op.mediated h hi) fun r s₁ ss₁ hend => ?_)
    cases r with
    | ok page => exact hend
    | error e => exact hend
  | register http drawn data client_ip => exact wp_always fun _ _ _ _ => Or.inr trivial
  | login http hash_password data client_ip => exact wp_always fun _ _ _ _ => Or.inr trivial
  | token2Login verify token redirect => exact wp_always fun _ _ _ _ => Or.inr trivial
  | forgetPassword http hash_password data client_ip =>
    exact wp_always fun _ _ _ _ => Or.inr trivial
  | sendEmailVerify http drawn data client_ip => exact wp_always fun _ _ _ _ => Or.inr trivial
  | recordInvitePv invite_code => exact wp_always fun _ _ _ _ => Or.inr trivial
  | loginSubmit hash_password request => exact wp_always fun _ _ _ _ => Or.inr trivial
  | cleanupRuntimeCache => exact wp_always fun _ _ _ _ => Or.inr trivial

end PyBoard
