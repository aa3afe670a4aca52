/-
  PyBoard.Results.Administrators — who becomes an administrator.

  As long as every request comes from an account that is not an administrator when the request
  begins, and no update of the staff names the right, nobody becomes an administrator
  (`admins_stay`).  The runs are interleaved, and have the requests about accounts, those
  about orders and wallets, and the tickets and the bot.  The router of the staff takes an
  update that names the right, and so a member of the staff makes itself an administrator
  (`staff_becomes_admin`).

  Main results:
    * `admins_stay`, `staff_becomes_admin`.
-/
import PyBoard.Results.Accounts
import PyBoard.Results.Tickets
import PyBoard.Specs.Talks
import PyBoard.Specs.Users

namespace PyBoard

open Relational

variable {rt : Runtime} {fm : Formats} {libs : PasswordLibs}
  {lib : TelegramService.BotLibraries} {db : Database} {now : Int}

/-! ## §1. Who a request comes from. -/

/-- The account is an administrator. -/
def IsAdmin (db : Database) (id : Int) : Prop :=
  ∃ u : User, (db .users).get? id = some u ∧ u.is_admin = true

/-- Every administrator of `D'` is one of `D`. -/
def NoNewAdmins (D D' : Database) : Prop := ∀ id, IsAdmin D' id → IsAdmin D id

/-- The token of the header or of the cookie. -/
def AccountOp.token (rt : Runtime) : AccountOp → Option String
  | .own credentials _ => (getBearerToken rt credentials).toOption
  | .manage credentials _ => (getBearerToken rt credentials).toOption
  | .staff credentials _ => (getBearerToken rt credentials).toOption
  | .page _ request _ => request.token
  | _ => none

/-- The request comes from the account that its token names. -/
def AccountOp.From (rt : Runtime) (id : Int) (op : AccountOp) : Prop :=
  ∃ token now, op.token rt = some token ∧ rt.decode_user_id now token = some id

/-- The request is an update of the staff that names the right of an administrator. -/
def AccountOp.promotes : AccountOp → Bool
  | .staff _ (.updateUser _ _ data) => data.is_admin = some (some true)
  | _ => false

/-- The requests about accounts, those about orders and wallets, and the tickets and the bot. -/
abbrev ApiOp : Type := AccountOp ⊕ Call ⊕ TicketOp

def ApiOp.prog (rt : Runtime) (fm : Formats) (libs : PasswordLibs)
    (lib : TelegramService.BotLibraries) : ApiOp → Db Unit :=
  Sum.elim (AccountOp.prog rt fm libs) (Sum.elim (Call.prog rt) (TicketOp.prog rt lib))

/-- The request does not come from an administrator. -/
def ApiOp.Unprivileged (rt : Runtime) (op : ApiOp) (s : State Tbl) : Prop :=
  ∀ (op' : AccountOp) (id : Int), op = .inl op' → op'.From rt id → ¬IsAdmin s.db id

/-- It is no update of the staff that names the right, either. -/
def ApiOp.Harmless (rt : Runtime) (op : ApiOp) (s : State Tbl) : Prop :=
  op.Unprivileged rt s ∧ ∀ op' : AccountOp, op = .inl op' → op'.promotes = false

/-! ## §2. What a permit gives. -/

/-- The permit makes nobody an administrator. -/
def Permit.SparesAdmins (P : Permit) : Prop :=
  ∀ (v : Option User) (u' : User), P.policy.Allows v (some u') → u'.is_admin = true →
    ∃ u, v = some u ∧ u.is_admin = true

theorem sparesAdmins_creating {Q : User → Prop} (h : ∀ u, Q u → u.Plain) :
    (Permit.creating Q).SparesAdmins := by
  intro v u' hallows hadmin
  cases v with
  | none =>
    rw [(h u' hallows).is_admin] at hadmin
    cases hadmin
  | some u =>
    have hsame : u' = u := hallows
    exact ⟨u, rfl, hsame ▸ hadmin⟩

theorem sparesAdmins_editing {e : Editing} (h : ¬e.admin) : (Permit.editing e).SparesAdmins := by
  intro v u' hallows hadmin
  cases v with
  | none => exact hallows.elim
  | some u =>
    have hedit : e.Allows u u' := hallows
    exact ⟨u, rfl, (hedit.admin hadmin).resolve_right h⟩

theorem sparesAdmins_deleting (user_id : Int) : (Permit.deleting user_id).SparesAdmins := by
  intro v u' hallows hadmin
  cases v with
  | none => exact hallows.elim
  | some u =>
    have hblank : u'.blank [.invite_user_id] = u.blank [.invite_user_id] := hallows
    have hsame : u'.is_admin = u.is_admin := User.eq_of_blank User.is_admin hblank fun _ => rfl
    exact ⟨u, rfl, hsame ▸ hadmin⟩

theorem OwnOp.Permits.sparesAdmins {M : Int → Database → Prop} {u : User} {op : OwnOp}
    {P : Permit} (h : op.Permits libs M u P) : P.SparesAdmins := by
  cases op with
  | me => exact h.elim
  | getQuickLoginUrl code redirect => exact h.elim
  | changePassword hash_password data =>
    rw [h.2]
    exact sparesAdmins_editing id
  | updateProfile data =>
    rw [show P = _ from h]
    exact sparesAdmins_editing id
  | resetSecurity uuid token =>
    rw [show P = _ from h]
    exact sparesAdmins_editing id
  | unbindTelegram =>
    rw [show P = _ from h]
    exact sparesAdmins_editing id

/-- **A request that acts for no administrator, and does not name the right**, makes nobody
    one. -/
theorem AccountOp.Permits.sparesAdmins {M : Int → Database → Prop} {op : AccountOp} {P : Permit}
    (h : op.Permits rt libs M P) (hpromotes : op.promotes = false)
    (hfrom : ∀ (u : User) now D, op.From rt u.id → M now D → (D .users).get? u.id = some u →
      u.is_admin = false) : P.SparesAdmins := by
  cases op with
  | register http drawn data client_ip =>
    rw [show P = _ from h]
    exact sparesAdmins_creating fun u hu => hu.plain
  | login http hash_password data client_ip =>
    obtain ⟨u, new_hash, -, rfl⟩ := h
    exact sparesAdmins_editing id
  | token2Login verify token redirect =>
    obtain ⟨u, -, -, rfl⟩ := h
    exact sparesAdmins_editing id
  | forgetPassword http hash_password data client_ip =>
    obtain ⟨u, -, -, rfl⟩ := h
    exact sparesAdmins_editing id
  | sendEmailVerify http drawn data client_ip => exact h.elim
  | recordInvitePv invite_code => exact h.elim
  | own credentials op =>
    obtain ⟨u, -, hP⟩ := h
    exact hP.sparesAdmins
  | manage credentials op =>
    -- the dependency lets administrators through only
    obtain ⟨⟨u, token, htoken, hacting⟩, -⟩ := h
    obtain ⟨now₁, -, -, hnamed⟩ := hacting.named
    obtain ⟨now₂, D, hM, hstored⟩ := hacting.stored
    have hadmin : u.is_admin = true := hacting.role
    have htold : (AccountOp.manage credentials op).token rt = some token := by
      simp only [AccountOp.token, htoken, Except.toOption]
    rw [hfrom u now₂ D ⟨token, now₁, htold, hnamed⟩ hM hstored] at hadmin
    cases hadmin
  | staff credentials op =>
    rw [h.2]
    cases op with
    | banUser user_id data => exact sparesAdmins_editing id
    | updateUser hash_password user_id data =>
      have hnot : ¬data.is_admin = some (some true) := of_decide_eq_false hpromotes
      exact sparesAdmins_editing hnot
  | loginSubmit hash_password request =>
    obtain ⟨form, data, u, new_hash, -, -, -, rfl⟩ := h
    exact sparesAdmins_editing id
  | page query request op =>
    obtain ⟨form, u, ha, -⟩ := h
    obtain ⟨token, htoken, hacting⟩ := ha.acting
    obtain ⟨now₁, -, -, hnamed⟩ := hacting.named
    obtain ⟨now₂, D, hM, hstored⟩ := hacting.stored
    have hadmin : u.is_admin = true := hacting.role
    rw [hfrom u now₂ D ⟨token, now₁, htoken, hnamed⟩ hM hstored] at hadmin
    cases hadmin
  | cleanupRuntimeCache => exact h.elim

/-- Accounts keep the right. -/
def keepingRight : Policy User where
  create _ := False
  edit u u' := u'.is_admin = u.is_admin
  remove _ := False

theorem keepingRight_lawful : keepingRight.Lawful where
  refl _ := rfl
  trans h₁ h₂ := h₂.trans h₁
  create_edit h _ := h.elim
  edit_remove _ h := h.elim
  remove_create h _ := h.elim

/-- The statements of the tickets and of the bot change the chat of an account at most. -/
theorem talks_keepingRight :
    Talks rt (Stmt.Respects (t := Tbl.users) keepingRight) fun _ => True where
  toServes := (Serves.spares (by decide)).imp fun _ h => h.respects keepingRight_lawful
  create _ := Stmt.Spares.respects (show Tbl.ticket ≠ .users by decide) keepingRight_lawful
  change _ _ := Stmt.Spares.respects (show Tbl.ticket ≠ .users by decide) keepingRight_lawful
  message _ :=
    Stmt.Spares.respects (show Tbl.ticket_message ≠ .users by decide) keepingRight_lawful
  chat user telegram_id := .update keepingRight_lawful fun cur _ => by
    show column user.is_admin user.is_admin cur.is_admin = cur.is_admin
    exact column_same _ _
  updates _ := trivial

/-! ## §3. Runs. -/

section

variable {Run : Config ApiOp Tbl PyExc Unit → Config ApiOp Tbl PyExc Unit → Prop}
  {start d₁ d₂ : Config ApiOp Tbl PyExc Unit} {cm : Commit ApiOp Tbl}

/-- A commit about accounts, if the databases that it met have no administrator who was not one
    when it began. -/
theorem accountOp_spares_admins {op : AccountOp}
    (hspan : cm.Span (ApiOp.prog rt fm libs lib) Run (ApiOp.Harmless rt) start d₁ d₂)
    (hlabel : cm.label = .inl op)
    (hmet : ∀ D, Amid Run d₁ d₂ D → NoNewAdmins d₁.state.db D) :
    NoNewAdmins cm.before.db cm.after.db := by
  intro id h
  obtain ⟨u', hu', hadmin⟩ := h
  have hexplained := hspan.explained (t := Tbl.users) Policies.lawful fun hclean => by
    rw [hlabel]
    show wp _ (AccountOp.prog rt fm libs op) _ _ _
    exact op.explained hclean
  cases hexplained with
  | inl hsame =>
    rw [hsame] at hu'
    exact ⟨u', hu', hadmin⟩
  | inr hwhy =>
    obtain ⟨Q, ⟨P, hP, rfl⟩, hrows⟩ := hwhy
    obtain ⟨hfrom, hpromotes⟩ := hspan.allowed
    have hspares : P.SparesAdmins := hP.sparesAdmins (hpromotes op hlabel) ?_
    · have hallows := hrows id
      rw [hu'] at hallows
      exact hspares _ u' hallows hadmin
    · intro u now D hnamed hM hstored
      by_contra hu
      exact hfrom op u.id hlabel hnamed
        (hmet D hM.1 u.id ⟨u, hstored, Bool.not_eq_false _ ▸ hu⟩)

/-- A commit about orders or wallets leaves everybody's rights. -/
theorem call_spares_admins {call : Call}
    (hspan : cm.Span (ApiOp.prog rt fm libs lib) Run (ApiOp.Harmless rt) start d₁ d₂)
    (hlast : Run d₂ d₂) (hlabel : cm.label = .inr (.inl call)) :
    NoNewAdmins cm.before.db cm.after.db := by
  intro id h
  obtain ⟨a, s, hr, heffect⟩ := hspan.proof (Amid Run d₁ d₂)
    (EffectPost (meeting (Amid Run d₁ d₂)) rt call.op) (fun _ hD => hD) (by
      rw [hlabel]
      exact wp_meeting_label (call.prog_spec hspan.met))
  have hbefore : Amid Run d₁ d₂ cm.before.db := ⟨d₂, hspan.since, hlast, by rw [hspan.state]⟩
  have hcommitted := Effect.rely heffect ⟨hr.frame, hr.now, hr.evol⟩ hbefore
  have hsame := hcommitted.identities id
  obtain ⟨u', hu', hadmin⟩ := h
  rw [show (cm.before.view cm.session .users).get? id = some u' from hu', Option.map_some] at hsame
  obtain ⟨u, hu, hidentity⟩ := Option.map_eq_some_iff.mp hsame.symm
  exact ⟨u, hu, (congrArg (fun i => i.2.1) hidentity).trans hadmin⟩

theorem TicketOp.respects_keepingRight (op : TicketOp) :
    (op.prog rt lib).Respects (t := Tbl.users) keepingRight := by
  have ht : Talks rt _ _ := talks_keepingRight
  cases op with
  | createTicket => exact .bind (TicketService.obeys_createTicket ht _ _ _ _) fun _ => .ret _
  | createWithdrawTicket =>
    exact .bind (TicketService.obeys_createWithdrawTicket ht _ _ _ _) fun _ => .ret _
  | replyUserTicket => exact .bind (TicketService.obeys_replyUserTicket ht _ _ _ _) fun _ => .ret _
  | closeUserTicket => exact .bind (TicketService.obeys_closeUserTicket ht _ _) fun _ => .ret _
  | replyAdminTicket =>
    exact .bind (TicketService.obeys_replyAdminTicket ht _ _ _ _) fun _ => .ret _
  | closeAdminTicket => exact .bind (TicketService.obeys_closeAdminTicket ht _) fun _ => .ret _
  | webhook => exact .bind (TelegramService.obeys_handleWebhook ht _ _ _) fun _ => .ret _

/-- So does one about tickets or of the bot. -/
theorem ticketOp_spares_admins {op : TicketOp}
    (hspan : cm.Span (ApiOp.prog rt fm libs lib) Run (ApiOp.Harmless rt) start d₁ d₂)
    (hlabel : cm.label = .inr (.inr op)) : NoNewAdmins cm.before.db cm.after.db := by
  intro id h
  obtain ⟨u', hu', hadmin⟩ := h
  have hallows := hspan.kept (t := Tbl.users) keepingRight_lawful (fun _ => by
    rw [hlabel]
    show wp _ (TicketOp.prog rt lib op) _ _ _
    exact wp_mono (wp_changed keepingRight_lawful op.respects_keepingRight
      (.fresh keepingRight_lawful _)) fun _ _ _ hchanged _ => hchanged) id
  rw [hu'] at hallows
  cases hbefore : (cm.before.db .users).get? id with
  | none =>
    rw [hbefore] at hallows
    exact hallows.elim
  | some u =>
    rw [hbefore] at hallows
    exact ⟨u, hbefore, hallows.symm.trans hadmin⟩

end

/-- **Nobody becomes an administrator** in a run whose requests come from accounts that are not
    administrators when they begin, and in which no update of the staff names the right. -/
theorem admins_stay {c : Config ApiOp Tbl PyExc Unit}
    (hrun : ReachesWhen (ApiOp.prog rt fm libs lib) (ApiOp.Harmless rt) (.quiet ⟨db, now⟩) c) :
    NoNewAdmins db c.state.db := by
  have htrans : ∀ D₁ D₂ D₃, NoNewAdmins D₁ D₂ → NoNewAdmins D₂ D₃ → NoNewAdmins D₁ D₃ :=
    fun _ _ _ h₁₂ h₂₃ id h => h₁₂ id (h₂₃ id h)
  refine ReachesWhen.related (fun _ _ h => h) htrans ?_ (.refl _) hrun
  intro cm d₁ d₂ hspan hmet
  rcases hlabel : cm.label with op | call | op
  · exact accountOp_spares_admins hspan hlabel hmet
  · exact call_spares_admins hspan (.refl _) hlabel
  · exact ticketOp_spares_admins hspan hlabel

/-! ## §4. The router of the staff. -/

/-- An account of the staff, and an administrator. -/
def staffAndAdmin : Database
  | .users => ⟨[{ id := 1, email := "a@example.com", password := "", token := "a",
                  is_staff := true, uuid := "" },
                { id := 2, email := "b@example.com", password := "", token := "b",
                  is_admin := true, uuid := "" }], nodup_one_two⟩
  | _ => Table.empty

/-- The staff bans the administrator with an update that does not name the right. -/
def banning : AccountOp :=
  .staff (some ⟨"Bearer", "s"⟩) (.updateUser id 2 { banned := some (some true) })

/-- It wants no more reminders. -/
def reminding : AccountOp :=
  .own (some ⟨"Bearer", "s"⟩) (.updateProfile { remind_expire := some (some 0) })

/-- Is account 1, whose token "s" is, no administrator? -/
def firstUnprivileged (_ : ApiOp) (s : State Tbl) : Bool :=
  ((s.db .users).get? (1 : Int)).all fun u => !User.is_admin u

theorem unprivileged_of_first (op : ApiOp) (s : State Tbl) (h : firstUnprivileged op s = true) :
    op.Unprivileged oneToken s := by
  rintro op' id - ⟨token, now, -, hnamed⟩ ⟨u, hu, hadmin⟩
  have hid : id = 1 := by
    simp only [oneToken, Utc.runtime] at hnamed
    split at hnamed
    · exact (Option.some.inj hnamed).symm
    · cases hnamed
  subst hid
  rw [firstUnprivileged, hu, Option.all_some, hadmin] at h
  cases h

/-- Does the request name no right, either? -/
def firstHarmless (op : ApiOp) (s : State Tbl) : Bool :=
  firstUnprivileged op s && op.elim (fun op' => !op'.promotes) fun _ => true

theorem harmless_of_first (op : ApiOp) (s : State Tbl) (h : firstHarmless op s = true) :
    op.Harmless oneToken s := by
  obtain ⟨hfirst, hnames⟩ := Bool.and_eq_true_iff.mp h
  refine ⟨unprivileged_of_first op s hfirst, ?_⟩
  rintro op' rfl
  exact Bool.not_eq_true' _ ▸ hnames

/-- The statements of two requests, one after the other, and their commits. -/
def banningAndReminding : List (Event ApiOp) :=
  [.begin (.inl banning), .begin (.inl reminding)] ++ List.replicate 5 (.exec 0) ++
    List.replicate 5 (.exec 1) ++ [.finish 1, .finish 0]

/-- The right of the two accounts, and the commits. -/
def rightsOf (c : Config ApiOp Tbl PyExc Unit) : List (Option Bool) × Nat :=
  ([1, 2].map fun id : Int => ((c.state.db .users).get? id).map User.is_admin, c.commits.length)

/-- The two requests overlap, both commit, and the administrator stays the only one. -/
theorem admins_stay_two : ∃ c : Config ApiOp Tbl PyExc Unit,
    ReachesWhen (ApiOp.prog oneToken plainFormats noPassword TelegramService.plainBot)
      (ApiOp.Harmless oneToken) (.quiet ⟨staffAndAdmin, 0⟩) c ∧
    rightsOf c = ([some false, some true], 2) ∧ NoNewAdmins staffAndAdmin c.state.db := by
  obtain ⟨c, hrun, hrights⟩ := ReachesWhen.exists_of_steps
    (ApiOp.prog oneToken plainFormats noPassword TelegramService.plainBot) harmless_of_first
    (.quiet ⟨staffAndAdmin, 0⟩) banningAndReminding rightsOf
    (v := ([some false, some true], 2)) (by decide +kernel)
  exact ⟨c, hrun, hrights, admins_stay hrun⟩

/-- **The staff promotes itself**: the router of the staff takes an update that names the
    right, and the run has a new administrator. -/
theorem staff_becomes_admin : ∃ c : Config ApiOp Tbl PyExc Unit,
    ReachesWhen (ApiOp.prog oneToken plainFormats noPassword TelegramService.plainBot)
      (ApiOp.Unprivileged oneToken) (.quiet ⟨oneStaff, 0⟩) c ∧
    IsAdmin c.state.db 1 ∧ ¬IsAdmin oneStaff 1 := by
  obtain ⟨c, hrun, hrights⟩ := ReachesWhen.exists_of_steps
    (ApiOp.prog oneToken plainFormats noPassword TelegramService.plainBot)
    unprivileged_of_first (.quiet ⟨oneStaff, 0⟩)
    (.begin (.inl promotion) :: List.replicate 5 (.exec 0) ++ [.finish 0])
    (fun c => ((c.state.db .users).get? (1 : Int)).map User.is_admin)
    (v := some true) (by decide +kernel)
  obtain ⟨u, hu, hadmin⟩ := Option.map_eq_some_iff.mp hrights
  refine ⟨c, hrun, ⟨u, hu, hadmin⟩, ?_⟩
  rintro ⟨u₀, hu₀, hadmin₀⟩
  cases hu₀
  cases hadmin₀

end PyBoard
