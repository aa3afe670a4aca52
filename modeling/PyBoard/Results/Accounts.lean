/-
  PyBoard.Results.Accounts — who has changed which account, over interleaved runs.

  A request of the API acts for the account that its token names, and an action of the
  admin pages for the account that its cookies name.  In every interleaved run of the
  requests, a commit that writes anything has acted for an account that was stored, was not
  banned and had the role of the router while the request ran (`writes_are_mediated`).  What
  it may change of the accounts depends on the request (`changes_are_permitted`).  So rights
  are given by the staff and the administration alone (`rights_are_given`), but a member of
  the staff may give them to itself (`staff_promotes_itself`).

  Main results:
    * `writes_are_mediated`, `changes_are_permitted`.
    * `rights_are_given`, `passwords_are_replaced`.
-/
import PyBoard.Python.Utc
import PyBoard.Specs.Requests

namespace PyBoard

open Relational

variable {rt : Runtime} {fm : Formats} {libs : PasswordLibs} {db : Database} {now : Int}
  {c : Config AccountOp Tbl PyExc Unit} {cm : Commit AccountOp Tbl}

/-! ## §1. Transactions of a run. -/

/-- Where the transaction of a commit began, and where it committed. -/
structure Transacted (rt : Runtime) (fm : Formats) (libs : PasswordLibs) (db : Database)
    (now : Int) (c₁ c₂ c : Config AccountOp Tbl PyExc Unit) (cm : Commit AccountOp Tbl) :
    Prop where
  began : ∃ c₀, AccountRuns rt fm libs db now c₀ ∧
    c₀.step (AccountOp.prog rt fm libs) (.begin cm.label) = some c₁
  since : Reaches (AccountOp.prog rt fm libs) Cond.any c₁ c₂
  committed : c₂.state = cm.before
  later : Reaches (AccountOp.prog rt fm libs) Cond.any c₂ c

/-- The moments of the transaction: a database that was committed while it ran, and a time
    while it ran. -/
abbrev Moments (rt : Runtime) (fm : Formats) (libs : PasswordLibs)
    (c₁ c₂ : Config AccountOp Tbl PyExc Unit) : Int → Database → Prop :=
  During (Between (AccountOp.prog rt fm libs) Cond.any c₁ c₂) c₁.state.now c₂.state.now

/-! ## §2. A run. -/

/-- The token "s" is the one of account 1. -/
def oneToken : Runtime :=
  Utc.runtime (fun _ => none) (fun _ token => if token = "s" then some 1 else none) []

/-- No password verifies. -/
def noPassword : PasswordLibs where
  argon2_verify _ _ := .ok false
  check_needs_rehash _ := false
  bcrypt_checkpw _ _ := some false

/-- An account of the staff. -/
def oneStaff : Database
  | .users => ⟨[{ id := 1, email := "a@example.com", password := "", token := "a",
                  is_staff := true, uuid := "" }], nodup_one⟩
  | _ => Table.empty

/-- It makes itself an administrator, and sets its password. -/
def promotion : AccountOp :=
  .staff (some ⟨"Bearer", "s"⟩)
    (.updateUser id 1 { is_admin := some (some true) , password := some (some "p") })

/-- The statements of the promotion, and its commit. -/
def promoting : List (Event AccountOp) :=
  .begin promotion :: List.replicate 5 (.exec 0) ++ [.finish 0]

/-- What a commit makes of account 1. -/
structure Promoted where
  by_staff : Bool
  before : Option (String × Bool)
  after : Option (String × Bool)
  deriving DecidableEq

/-- The commits, with the password and the right of account 1 before and after. -/
def promotionsOf (c : Config AccountOp Tbl PyExc Unit) : List Promoted :=
  c.commits.map fun cm =>
    { by_staff := match cm.label with
        | .staff _ (.updateUser _ user_id _) => user_id = 1
        | _ => false
      before := ((cm.before.db .users).get? (1 : Int)).map fun u =>
        (User.password u, User.is_admin u)
      after := ((cm.after.db .users).get? (1 : Int)).map fun u =>
        (User.password u, User.is_admin u) }

/-- **The staff promotes itself**: the router of the staff takes an update that makes its
    sender an administrator. -/
theorem staff_promotes_itself : ∃ (c : Config AccountOp Tbl PyExc Unit)
    (cm : Commit AccountOp Tbl) (u u' : User),
    AccountRuns oneToken plainFormats noPassword oneStaff 0 c ∧ cm ∈ c.commits ∧
      (∃ credentials hash_password data,
        cm.label = .staff credentials (.updateUser hash_password 1 data)) ∧
      (cm.before.db .users).get? (1 : Int) = some u ∧
      (cm.after.db .users).get? (1 : Int) = some u' ∧
      u.is_admin = false ∧ u'.is_admin = true ∧ u.password = "" ∧ u'.password = "p" := by
  obtain ⟨c, -, hrun, -, hcommits, -⟩ : ∃ c c' : Config AccountOp Tbl PyExc Unit,
      Reaches (AccountOp.prog oneToken plainFormats noPassword) Cond.any
        (.quiet ⟨oneStaff, 0⟩) c ∧
      Reaches (AccountOp.prog oneToken plainFormats noPassword) Cond.any c c' ∧
      promotionsOf c = [⟨true, some ("", false), some ("p", true)⟩] ∧
      promotionsOf c' = [⟨true, some ("", false), some ("p", true)⟩] :=
    Reaches.exists_of_steps promoting [] promotionsOf (by decide +kernel)
  obtain ⟨cm, hcm, hobserved⟩ := List.mem_map.mp (hcommits ▸ List.mem_singleton.mpr rfl)
  obtain ⟨hlabel, hbefore, hafter⟩ := Promoted.mk.inj hobserved
  obtain ⟨u, hu, huser⟩ := Option.map_eq_some_iff.mp hbefore
  obtain ⟨u', hu', huser'⟩ := Option.map_eq_some_iff.mp hafter
  obtain ⟨hpassword, hadmin⟩ := Prod.mk.inj huser
  obtain ⟨hpassword', hadmin'⟩ := Prod.mk.inj huser'
  refine ⟨c, cm, u, u', hrun, hcm, ?_, hu, hu', hadmin, hadmin', hpassword, hpassword'⟩
  split at hlabel
  · next credentials hash_password user_id data heq =>
    have hid : user_id = 1 := of_decide_eq_true hlabel
    exact ⟨credentials, hash_password, data, hid ▸ heq⟩
  · cases hlabel

/-! ## §3. Reasons. -/

/-- **What is written is written for an account** in the role of the router. -/
theorem writes_are_mediated (hrun : AccountRuns rt fm libs db now c) (hcm : cm ∈ c.commits) :
    cm.after.db = cm.before.db ∨ ∃ c₁ c₂, Transacted rt fm libs db now c₁ c₂ c cm ∧
      cm.label.Acts rt (Moments rt fm libs c₁ c₂) := by
  obtain ⟨c₁, c₂, hlater, hspan⟩ := hrun.spanned.commits cm hcm
  obtain ⟨_, s, _, hacts⟩ := hspan.within fun hclean => cm.label.mediated hclean
  cases hacts with
  | inl hnothing =>
    refine Or.inl ?_
    show cm.before.db.apply cm.session.ws = cm.before.db
    rw [hnothing]
    rfl
  | inr hacts => exact Or.inr ⟨c₁, c₂, ⟨hspan.began, hspan.since, hspan.state, hlater⟩, hacts⟩

/-- The promotion is written for an account of the staff. -/
theorem promotion_is_mediated : ∃ (c : Config AccountOp Tbl PyExc Unit)
    (cm : Commit AccountOp Tbl), cm ∈ c.commits ∧ cm.after.db ≠ cm.before.db ∧
      ∃ c₁ c₂, Transacted oneToken plainFormats noPassword oneStaff 0 c₁ c₂ c cm ∧
        cm.label.Acts oneToken (Moments oneToken plainFormats noPassword c₁ c₂) := by
  obtain ⟨c, cm, u, u', hrun, hcm, -, hu, hu', hadmin, hadmin', -⟩ := staff_promotes_itself
  have hchanged : cm.after.db ≠ cm.before.db := by
    intro hsame
    rw [hsame, hu] at hu'
    rw [Option.some.inj hu', hadmin'] at hadmin
    cases hadmin
  exact ⟨c, cm, hcm, hchanged, (writes_are_mediated hrun hcm).resolve_left hchanged⟩

/-- **Accounts change as the request permits.** -/
theorem changes_are_permitted (hrun : AccountRuns rt fm libs db now c) (hcm : cm ∈ c.commits) :
    (∀ k, (cm.after.db .users).get? k = (cm.before.db .users).get? k) ∨
      ∃ c₁ c₂ P, Transacted rt fm libs db now c₁ c₂ c cm ∧
        cm.label.Permits rt libs (Moments rt fm libs c₁ c₂) P ∧
        ∀ k, P.policy.Allows ((cm.before.db .users).get? k) ((cm.after.db .users).get? k) := by
  obtain ⟨c₁, c₂, hlater, hspan⟩ := hrun.spanned.commits cm hcm
  cases hspan.explained (t := Tbl.users) Policies.lawful fun hclean =>
    cm.label.explained hclean with
  | inl hsame => exact Or.inl hsame
  | inr hwhy =>
    obtain ⟨Q, ⟨P, hP, rfl⟩, hrows⟩ := hwhy
    exact Or.inr ⟨c₁, c₂, P, ⟨hspan.began, hspan.since, hspan.state, hlater⟩, hP, hrows⟩

/-- The promotion is permitted. -/
theorem promotion_is_permitted : ∃ (c : Config AccountOp Tbl PyExc Unit)
    (cm : Commit AccountOp Tbl) (u u' : User), cm ∈ c.commits ∧
      (cm.before.db .users).get? (1 : Int) = some u ∧
      (cm.after.db .users).get? (1 : Int) = some u' ∧ u' ≠ u ∧
      ∃ c₁ c₂ P, Transacted oneToken plainFormats noPassword oneStaff 0 c₁ c₂ c cm ∧
        cm.label.Permits oneToken noPassword (Moments oneToken plainFormats noPassword c₁ c₂) P ∧
        P.policy.Allows (some u) (some u') := by
  obtain ⟨c, cm, u, u', hrun, hcm, -, hu, hu', hadmin, hadmin', -⟩ := staff_promotes_itself
  have hchanged : u' ≠ u := by
    intro hsame
    rw [← hsame, hadmin'] at hadmin
    cases hadmin
  refine ⟨c, cm, u, u', hcm, hu, hu', hchanged, ?_⟩
  cases changes_are_permitted hrun hcm with
  | inl hsame =>
    have heq := hsame (1 : Int)
    rw [hu, hu'] at heq
    exact absurd (Option.some.inj heq) hchanged
  | inr hpermitted =>
    obtain ⟨c₁, c₂, P, htook, hP, hrows⟩ := hpermitted
    have hallows := hrows (1 : Int)
    rw [hu, hu'] at hallows
    exact ⟨c₁, c₂, P, htook, hP, hallows⟩

/-! ## §4. What requests give. -/

/-- The request gives rights to an account, and `giver` is who it acts for. -/
def AccountOp.GivesRights (rt : Runtime) (M : Int → Database → Prop) (account : Int)
    (giver : User) : AccountOp → Prop
  | .manage credentials (.updateUser _ user_id data) =>
      Bearing rt M .admin credentials giver ∧ user_id = account ∧
        (data.is_admin = some (some true) ∨ data.is_staff = some (some true))
  | .staff credentials (.updateUser _ user_id data) =>
      Bearing rt M .staff credentials giver ∧ user_id = account ∧
        (data.is_admin = some (some true) ∨ data.is_staff = some (some true))
  | .page _ request (.updateUser _ user_id) => ∃ form data,
      PageActing rt M request form giver ∧ user_id = account ∧
        AdminUi.userUpdateFromForm rt form = .ok data ∧
        (data.is_admin = some (some true) ∨ data.is_staff = some (some true))
  | _ => False

/-- The request stores a hash as the password of an account: a new hash of the password that
    was verified, the hash of a password that replaces one that was verified or that comes with
    the code of the address, or the hash of one that the staff or the administration sets. -/
def AccountOp.SetsPassword (rt : Runtime) (libs : PasswordLibs) (M : Int → Database → Prop)
    (account : Int) (hash : String) : AccountOp → Prop
  | .login _ hash_password data _ => ∃ u,
      LoggingIn libs M hash_password data u (some hash) ∧ u.id = account
  | .loginSubmit hash_password request => ∃ form data u, request.form = some form ∧
      AuthService.LoginRequest.validated rt (AdminUi.orEmpty (form.get "email"))
        (AdminUi.orEmpty (form.get "password")) = .ok data ∧
      LoggingIn libs M hash_password data u (some hash) ∧ u.id = account
  | .own credentials (.changePassword hash_password data) => ∃ u now D stored new_hash,
      Bearing rt M .user credentials u ∧ u.id = account ∧ M now D ∧
      (D .users).get? account = some stored ∧
      verifyAndUpgrade libs hash_password data.old_password stored.password
        = .ok (true, new_hash) ∧
      hash = hash_password data.new_password
  | .forgetPassword _ hash_password data _ => ∃ u now D, M now D ∧
      (D .users).get? account = some u ∧ u.email = data.email ∧ hash = hash_password data.password
  | .manage credentials (.updateUser hash_password user_id data) => ∃ u password,
      Bearing rt M .admin credentials u ∧ user_id = account ∧
      data.password = some (some password) ∧ hash = hash_password password
  | .staff credentials (.updateUser hash_password user_id data) => ∃ u password,
      Bearing rt M .staff credentials u ∧ user_id = account ∧
      data.password = some (some password) ∧ hash = hash_password password
  | .page _ request (.updateUser hash_password user_id) => ∃ form u data password,
      PageActing rt M request form u ∧ user_id = account ∧
      AdminUi.userUpdateFromForm rt form = .ok data ∧
      data.password = some (some password) ∧ hash = hash_password password
  | _ => False

/-- What a request gives under an edit that it is permitted, it gives by name. -/
structure AccountOp.Edits (rt : Runtime) (libs : PasswordLibs) (M : Int → Database → Prop)
    (op : AccountOp) (e : Editing) : Prop where
  rights : e.admin ∨ e.staff → ∃ giver, op.GivesRights rt M e.account giver
  password : ∀ hash, e.password hash → op.SetsPassword rt libs M e.account hash

/-- An edit that gives nothing. -/
theorem AccountOp.Edits.plain {M : Int → Database → Prop} (op : AccountOp) {e : Editing}
    (hadmin : ¬e.admin) (hstaff : ¬e.staff) (hpassword : ∀ hash, ¬e.password hash) :
    op.Edits rt libs M e where
  rights h := absurd h (not_or.mpr ⟨hadmin, hstaff⟩)
  password hash h := absurd h (hpassword hash)

/-- What a permit may be. -/
inductive AccountOp.Given (rt : Runtime) (libs : PasswordLibs) (M : Int → Database → Prop)
    (op : AccountOp) : Permit → Prop
  | creating {Q : User → Prop} (h : ∀ u, Q u → u.Plain) : AccountOp.Given rt libs M op (.creating Q)
  | editing {e : Editing} (h : op.Edits rt libs M e) : AccountOp.Given rt libs M op (.editing e)
  | deleting (user_id : Int) : AccountOp.Given rt libs M op (.deleting user_id)

theorem OwnOp.Permits.given {M : Int → Database → Prop} {u : User} {op : OwnOp} {P : Permit}
    {credentials : Option HTTPAuthorizationCredentials}
    (hb : Bearing rt M .user credentials u) (h : op.Permits libs M u P) :
    (AccountOp.own credentials op).Given rt libs M P := by
  cases op with
  | me => exact h.elim
  | getQuickLoginUrl code redirect => exact h.elim
  | updateProfile data =>
    rw [show P = _ from h]
    exact .editing (.plain _ id id fun _ => id)
  | changePassword hash_password data =>
    obtain ⟨⟨now, D, stored, new_hash, hM, hstored, hverified⟩, rfl⟩ := h
    refine .editing ⟨fun hright => hright.elim False.elim False.elim, fun hash hhash => ?_⟩
    exact ⟨u, now, D, stored, new_hash, hb, rfl, hM, hstored, hverified, hhash⟩
  | resetSecurity uuid token =>
    rw [show P = _ from h]
    exact .editing (.plain _ id id fun _ => id)
  | unbindTelegram =>
    rw [show P = _ from h]
    exact .editing (.plain _ id id fun _ => id)

theorem ManageOp.given {M : Int → Database → Prop} (op : ManageOp) {u : User}
    {credentials : Option HTTPAuthorizationCredentials}
    (hb : Bearing rt M .admin credentials u) :
    (AccountOp.manage credentials op).Given rt libs M op.permit := by
  cases op with
  | createUser drawn bytes data => exact .creating fun u hu => hu.plain
  | generateUsers draws data => exact .creating fun u hu => hu
  | updateUser hash_password user_id data =>
    refine .editing ⟨fun hright => ⟨u, hb, rfl, hright⟩, fun hash hhash => ?_⟩
    obtain ⟨password, hsent, hset⟩ := hhash
    exact ⟨u, password, hb, rfl, hsent, hset⟩
  | banUser user_id data => exact .editing (.plain _ id id fun _ => id)
  | resetUserSecurity user_id uuid token => exact .editing (.plain _ id id fun _ => id)
  | setInviteUser user_id data => exact .editing (.plain _ id id fun _ => id)
  | deleteUser user_id => exact .deleting user_id

theorem StaffOp.given {M : Int → Database → Prop} (op : StaffOp) {u : User}
    {credentials : Option HTTPAuthorizationCredentials}
    (hb : Bearing rt M .staff credentials u) :
    (AccountOp.staff credentials op).Given rt libs M op.permit := by
  cases op with
  | updateUser hash_password user_id data =>
    refine .editing ⟨fun hright => ⟨u, hb, rfl, hright⟩, fun hash hhash => ?_⟩
    obtain ⟨password, hsent, hset⟩ := hhash
    exact ⟨u, password, hb, rfl, hsent, hset⟩
  | banUser user_id data => exact .editing (.plain _ id id fun _ => id)

theorem PageOp.Permits.given {M : Int → Database → Prop} {op : PageOp} {P : Permit} {u : User}
    {query form : AdminUi.Form} {request : AdminUi.Request}
    (ha : PageActing rt M request form u) (h : op.Permits rt form P) :
    (AccountOp.page query request op).Given rt libs M P := by
  cases op with
  | createUser drawn bytes =>
    obtain ⟨data, -, rfl⟩ := h
    exact .creating fun u hu => hu.plain
  | generateUsers draws =>
    rw [show P = _ from h]
    exact .creating fun u hu => hu
  | updateUser hash_password user_id =>
    obtain ⟨data, hdata, rfl⟩ := h
    refine .editing ⟨fun hright => ⟨u, form, data, ha, rfl, hdata, hright⟩, fun hash hhash => ?_⟩
    obtain ⟨password, hsent, hset⟩ := hhash
    exact ⟨form, u, data, password, ha, rfl, hdata, hsent, hset⟩
  | banUser user_id =>
    rw [show P = _ from h]
    exact .editing (.plain _ id id fun _ => id)
  | resetUserSecurity user_id uuid token =>
    rw [show P = _ from h]
    exact .editing (.plain _ id id fun _ => id)
  | deleteUser user_id =>
    rw [show P = _ from h]
    exact .deleting user_id

/-- **What a request gives, it gives by name.** -/
theorem AccountOp.Permits.given {M : Int → Database → Prop} {op : AccountOp} {P : Permit}
    (h : op.Permits rt libs M P) : op.Given rt libs M P := by
  cases op with
  | register http drawn data client_ip =>
    rw [show P = _ from h]
    exact .creating fun u hu => hu.plain
  | login http hash_password data client_ip =>
    obtain ⟨u, new_hash, hlogin, rfl⟩ := h
    refine .editing ⟨fun hright => hright.elim False.elim False.elim, fun hash hhash => ?_⟩
    -- The hash that is stored is the one that the verification returned.
    have hnew : new_hash = some hash := hhash
    exact ⟨u, hnew ▸ hlogin, rfl⟩
  | token2Login verify token redirect =>
    obtain ⟨u, -, -, rfl⟩ := h
    exact .editing (.plain _ id id fun _ => id)
  | forgetPassword http hash_password data client_ip =>
    obtain ⟨u, ⟨now, D, hM, hstored⟩, hemail, rfl⟩ := h
    refine .editing ⟨fun hright => hright.elim False.elim False.elim, fun hash hhash => ?_⟩
    exact ⟨u, now, D, hM, hstored, hemail, hhash⟩
  | sendEmailVerify http drawn data client_ip => exact h.elim
  | recordInvitePv invite_code => exact h.elim
  | own credentials op =>
    obtain ⟨u, hb, hP⟩ := h
    exact hP.given hb
  | manage credentials op =>
    obtain ⟨⟨u, hb⟩, rfl⟩ := h
    exact op.given hb
  | staff credentials op =>
    obtain ⟨⟨u, hb⟩, rfl⟩ := h
    exact op.given hb
  | loginSubmit hash_password request =>
    obtain ⟨form, data, u, new_hash, hform, hdata, hlogin, rfl⟩ := h
    refine .editing ⟨fun hright => hright.elim False.elim False.elim, fun hash hhash => ?_⟩
    have hnew : new_hash = some hash := hhash
    exact ⟨form, data, u, hform, hdata, hnew ▸ hlogin, rfl⟩
  | page query request op =>
    obtain ⟨form, u, ha, hP⟩ := h
    exact hP.given ha
  | cleanupRuntimeCache => exact h.elim

/-! ## §5. Rights and passwords. -/

/-- Has the account `u'` no right that the version `v` does not have? -/
def NoNewRights (v : Option User) (u' : User) : Prop :=
  ∃ u, v = some u ∧ (u'.is_admin = true → u.is_admin = true) ∧
    (u'.is_staff = true → u.is_staff = true)

theorem AccountOp.Given.rights {M : Int → Database → Prop} {op : AccountOp} {P : Permit}
    (h : op.Given rt libs M P) {v : Option User} {u' : User}
    (hallows : P.policy.Allows v (some u')) (hright : u'.is_admin = true ∨ u'.is_staff = true) :
    NoNewRights v u' ∨ ∃ giver, op.GivesRights rt M u'.id giver := by
  cases h with
  | creating hplain =>
    cases v with
    | some u =>
      have hsame : u' = u := hallows
      exact Or.inl ⟨u, rfl, hsame ▸ id, hsame ▸ id⟩
    | none =>
      have hnew := hplain u' hallows
      rw [hnew.is_admin, hnew.is_staff] at hright
      simp at hright
  | @editing e hedits =>
    cases v with
    | none => exact hallows.elim
    | some u =>
      have hedit : e.Allows u u' := hallows
      by_cases hgives : e.admin ∨ e.staff
      · by_cases hid : u.id = e.account
        · rw [User.id_of_blank hedit.columns, hid]
          exact Or.inr (hedits.rights hgives)
        · rw [hedit.others hid]
          exact Or.inl ⟨u, rfl, id, id⟩
      · obtain ⟨hadmin, hstaff⟩ := not_or.mp hgives
        exact Or.inl ⟨u, rfl, fun h => (hedit.admin h).resolve_right hadmin,
          fun h => (hedit.staff h).resolve_right hstaff⟩
  | deleting user_id =>
    cases v with
    | none => exact hallows.elim
    | some u =>
      have hblank : u'.blank [.invite_user_id] = u.blank [.invite_user_id] := hallows
      have hadmin : u'.is_admin = u.is_admin := User.eq_of_blank User.is_admin hblank fun _ => rfl
      have hstaff : u'.is_staff = u.is_staff := User.eq_of_blank User.is_staff hblank fun _ => rfl
      exact Or.inl ⟨u, rfl, fun h => hadmin ▸ h, fun h => hstaff ▸ h⟩

theorem AccountOp.Given.password {M : Int → Database → Prop} {op : AccountOp} {P : Permit}
    (h : op.Given rt libs M P) {u u' : User} (hallows : P.policy.Allows (some u) (some u'))
    (hnew : u'.password ≠ u.password) : op.SetsPassword rt libs M u.id u'.password := by
  cases h with
  | creating hplain =>
    have hsame : u' = u := hallows
    exact absurd (congrArg User.password hsame) hnew
  | @editing e hedits =>
    have hedit : e.Allows u u' := hallows
    by_cases hid : u.id = e.account
    · rw [hid]
      exact hedits.password _ (hedit.password.resolve_left hnew)
    · exact absurd (congrArg User.password (hedit.others hid)) hnew
  | deleting user_id =>
    have hblank : u'.blank [.invite_user_id] = u.blank [.invite_user_id] := hallows
    exact absurd (User.eq_of_blank User.password hblank fun _ => rfl) hnew

/-- **Rights are given by name**: whoever has a right after a commit had it before, or the
    commit is an update that names the right, sent by the staff or the administration. -/
theorem rights_are_given (hrun : AccountRuns rt fm libs db now c) (hcm : cm ∈ c.commits)
    {u' : User} (hu' : (cm.after.db .users).get? u'.id = some u')
    (hright : u'.is_admin = true ∨ u'.is_staff = true) :
    NoNewRights ((cm.before.db .users).get? u'.id) u' ∨
      ∃ c₁ c₂ giver, Transacted rt fm libs db now c₁ c₂ c cm ∧
        cm.label.GivesRights rt (Moments rt fm libs c₁ c₂) u'.id giver := by
  cases changes_are_permitted hrun hcm with
  | inl hsame =>
    rw [hsame] at hu'
    exact Or.inl ⟨u', hu', id, id⟩
  | inr hpermitted =>
    obtain ⟨c₁, c₂, P, htook, hP, hrows⟩ := hpermitted
    have hallows := hrows u'.id
    rw [hu'] at hallows
    cases hP.given.rights hallows hright with
    | inl hold => exact Or.inl hold
    | inr hgiven =>
      obtain ⟨giver, hgiver⟩ := hgiven
      exact Or.inr ⟨c₁, c₂, giver, htook, hgiver⟩

/-- The promotion names the right that it gives. -/
theorem promotion_is_by_name : ∃ (c : Config AccountOp Tbl PyExc Unit)
    (cm : Commit AccountOp Tbl) (c₁ c₂ : Config AccountOp Tbl PyExc Unit) (giver : User),
      cm ∈ c.commits ∧ Transacted oneToken plainFormats noPassword oneStaff 0 c₁ c₂ c cm ∧
        cm.label.GivesRights oneToken (Moments oneToken plainFormats noPassword c₁ c₂) 1 giver := by
  obtain ⟨c, cm, u, u', hrun, hcm, -, hu, hu', hadmin, hadmin', -⟩ := staff_promotes_itself
  have hid : u'.id = 1 := Table.key_of_get? hu'
  cases rights_are_given hrun hcm (hid ▸ hu') (Or.inl hadmin') with
  | inl hold =>
    obtain ⟨v, hv, hright, -⟩ := hold
    have heq : u = v := by
      rw [hid, hu] at hv
      exact Option.some.inj hv
    rw [heq, hright hadmin'] at hadmin
    cases hadmin
  | inr hgiven =>
    obtain ⟨c₁, c₂, giver, htook, hgives⟩ := hgiven
    exact ⟨c, cm, c₁, c₂, giver, hcm, htook, hid ▸ hgives⟩

/-- **A password is replaced** by whom it was verified for, by a reset for the address of the
    account, or by an update of the staff or the administration that names it. -/
theorem passwords_are_replaced (hrun : AccountRuns rt fm libs db now c) (hcm : cm ∈ c.commits)
    {k : Int} {u u' : User} (hu : (cm.before.db .users).get? k = some u)
    (hu' : (cm.after.db .users).get? k = some u') (hnew : u'.password ≠ u.password) :
    ∃ c₁ c₂, Transacted rt fm libs db now c₁ c₂ c cm ∧
      cm.label.SetsPassword rt libs (Moments rt fm libs c₁ c₂) k u'.password := by
  cases changes_are_permitted hrun hcm with
  | inl hsame =>
    have heq : some u' = some u := by rw [← hu', ← hu, hsame]
    exact absurd (congrArg User.password (Option.some.inj heq)) hnew
  | inr hpermitted =>
    obtain ⟨c₁, c₂, P, htook, hP, hrows⟩ := hpermitted
    have hallows := hrows k
    rw [hu, hu'] at hallows
    have hid : u.id = k := Table.key_of_get? hu
    exact ⟨c₁, c₂, htook, hid ▸ hP.given.password hallows hnew⟩

/-- The promotion sets a password. -/
theorem promotion_sets_password : ∃ (c : Config AccountOp Tbl PyExc Unit)
    (cm : Commit AccountOp Tbl) (c₁ c₂ : Config AccountOp Tbl PyExc Unit),
      cm ∈ c.commits ∧ Transacted oneToken plainFormats noPassword oneStaff 0 c₁ c₂ c cm ∧
        cm.label.SetsPassword oneToken noPassword
          (Moments oneToken plainFormats noPassword c₁ c₂) 1 "p" := by
  obtain ⟨c, cm, u, u', hrun, hcm, -, hu, hu', -, -, hpassword, hpassword'⟩ :=
    staff_promotes_itself
  have hnew : u'.password ≠ u.password := by
    rw [hpassword, hpassword']
    decide
  obtain ⟨c₁, c₂, htook, hsets⟩ := passwords_are_replaced hrun hcm hu hu' hnew
  exact ⟨c, cm, c₁, c₂, hcm, htook, hpassword' ▸ hsets⟩

end PyBoard
