/-
  PyBoard.Results.Issued — codes that were mailed, and links that were asked for.

  The cache holds the code of an address for five minutes, and the account of a link for one.
  In every interleaved run of the requests such a row was issued by a request that has
  committed (`secrets_are_issued`).  So a password is reset only with a code that was mailed to
  its address (`resets_use_mailed_codes`), and a link logs in the account that has asked for
  it (`links_log_in_who_asked`).  A registration uses such a code too, but a missing one is
  compared as the text "None", and so that text registers an address that was never mailed
  anything (`registers_without_code`).  Where nobody sends the text, every registration has
  used a code that was mailed (`registrations_are_verified`).

  Main results:
    * `secrets_are_issued`.
    * `resets_use_mailed_codes`, `registrations_use_mailed_codes`, `registrations_are_verified`.
    * `links_log_in_who_asked`.
-/
import PyBoard.Results.Accounts
import PyBoard.Specs.Registering

namespace PyBoard

open Relational

variable {rt : Runtime} {fm : Formats} {libs : PasswordLibs} {db : Database} {now : Int}
  {c : Config AccountOp Tbl PyExc Unit} {cm : Commit AccountOp Tbl}

/-! ## §1. Rows of the cache. -/

/-- The commit has issued the row. -/
def IssuedBy (rt : Runtime) (fm : Formats) (libs : PasswordLibs) (db : Database) (now : Int)
    (c : Config AccountOp Tbl PyExc Unit) (cm : Commit AccountOp Tbl) (row : RuntimeCacheRow) :
    Prop :=
  ∃ c₁ c₂, Transacted rt fm libs db now c₁ c₂ c cm ∧
    cm.label.Issues rt (Moments rt fm libs c₁ c₂) row

theorem Transacted.trans {c₁ c₂ c' : Config AccountOp Tbl PyExc Unit}
    (h : Transacted rt fm libs db now c₁ c₂ c cm)
    (hr : Reaches (AccountOp.prog rt fm libs) Cond.any c c') :
    Transacted rt fm libs db now c₁ c₂ c' cm :=
  ⟨h.began, h.since, h.committed, h.later.trans hr⟩

/-- **A code or a link** was stored at the start, or a request has issued it. -/
theorem secrets_are_issued (hrun : AccountRuns rt fm libs db now c) {row : RuntimeCacheRow}
    (hrow : row ∈ (c.state.db .runtime_cache).rows) (hsecret : IsSecret row.key) :
    row ∈ (db .runtime_cache).rows ∨ ∃ cm ∈ c.commits, IssuedBy rt fm libs db now c cm row := by
  cases hrun.origin (t := Tbl.runtime_cache) hrow with
  | inl hstart => exact Or.inl hstart
  | inr hput =>
    obtain ⟨cm, hcm, hbefore, hafter⟩ := hput
    obtain ⟨c₁, c₂, hlater, hspan⟩ := hrun.spanned.commits cm hcm
    have hlawful := handing_lawful IsSecret (cm.label.Issues rt (Moments rt fm libs c₁ c₂))
    have hallows := hspan.kept (t := Tbl.runtime_cache) hlawful (fun hclean =>
      wp_mono (cm.label.issuing hclean) fun _ _ _ hend hnow => (hend hnow).changed) row.key
    rw [show (cm.after.db Tbl.runtime_cache).get? row.key = some row from hafter] at hallows
    have hissued := (Policy.guarding_stored hallows hsecret).resolve_left hbefore
    exact Or.inr ⟨cm, hcm, c₁, c₂, ⟨hspan.began, hspan.since, hspan.state, hlater⟩, hissued⟩

/-- No code and no link is stored. -/
def NoSecrets (db : Database) : Prop := ∀ row ∈ (db .runtime_cache).rows, ¬IsSecret row.key

/-- A row that stands at a moment of a transaction was issued before it committed. -/
theorem Stands.issued {c₁ c₂ : Config AccountOp Tbl PyExc Unit} {key : String} {v : Json}
    {row : RuntimeCacheRow} (h : Stands (Moments rt fm libs c₁ c₂) key v row)
    (hnone : NoSecrets db) (htook : Transacted rt fm libs db now c₁ c₂ c cm)
    (hsecret : IsSecret key) :
    ∃ cm' ∈ c₂.commits, IssuedBy rt fm libs db now c₂ cm' row := by
  obtain ⟨_, D, ⟨⟨c', hc', hc₂, rfl⟩, -, -⟩, hrow⟩ := h.stored
  obtain ⟨c₀, hrun, hbegin⟩ := htook.began
  have hrun' : AccountRuns rt fm libs db now c' :=
    (hrun.tail (.begin cm.label) rfl hbegin).trans hc'
  have hsecret' : IsSecret row.key := h.key ▸ hsecret
  cases secrets_are_issued hrun' hrow hsecret' with
  | inl hstart => exact absurd hsecret' (hnone row hstart)
  | inr hissued =>
    obtain ⟨cm', hcm', d₁, d₂, htook', hissues⟩ := hissued
    exact ⟨cm', hc₂.commits_subset hcm', d₁, d₂, htook'.trans hc₂, hissues⟩

/-- Less than `ex` seconds pass from a moment of one transaction to a moment of another. -/
def WithinSeconds (rt : Runtime) (fm : Formats) (libs : PasswordLibs) (ex : Int)
    (d₁ d₂ c₁ c₂ : Config AccountOp Tbl PyExc Unit) : Prop :=
  ∃ issued D used D', Moments rt fm libs d₁ d₂ issued D ∧ Moments rt fm libs c₁ c₂ used D' ∧
    used < issued + ex

/-- A row that expires a while after a moment of one transaction, and that is alive at a
    moment of another. -/
theorem Stands.expires {c₁ c₂ d₁ d₂ : Config AccountOp Tbl PyExc Unit} {key : String} {v : Json}
    {row : RuntimeCacheRow} {ex : Int} (h : Stands (Moments rt fm libs c₁ c₂) key v row)
    (hexpires : ∃ now D, Moments rt fm libs d₁ d₂ now D ∧ row.expires_at = some (now + ex)) :
    WithinSeconds rt fm libs ex d₁ d₂ c₁ c₂ := by
  obtain ⟨used, D', hused, hlive⟩ := h.live
  obtain ⟨issued, D, hissued, hexpires⟩ := hexpires
  refine ⟨issued, D, used, D', hissued, hused, ?_⟩
  unfold RuntimeCacheRow.live at hlive
  rw [hexpires] at hlive
  exact of_decide_eq_true hlive

/-! ## §2. Codes. -/

/-- The request mails a code to an address. -/
def AccountOp.Mails (email code : String) : AccountOp → Prop
  | .sendEmailVerify _ drawn data _ => data.email = email ∧ code = toString (drawn + 100000)
  | _ => False

/-- Only a request that mails a code stores one. -/
theorem AccountOp.Issues.mails {M : Int → Database → Prop} {op : AccountOp} {row : RuntimeCacheRow}
    {email : String} (h : op.Issues rt M row)
    (hkey : row.key = AuthService.emailVerifyCodeKey email) :
    op.Mails email (rt.str row.value) ∧ ∃ now D, M now D ∧ row.expires_at = some (now + 300) := by
  unfold AccountOp.Issues at h
  split at h
  · next http drawn data client_ip =>
    obtain ⟨hkey', hvalue, hexpires⟩ := h
    have hemail : data.email = email := String.append_right_inj _ |>.mp (hkey'.symm.trans hkey)
    refine ⟨⟨hemail, ?_⟩, hexpires⟩
    rw [hvalue]
    rfl
  · exact absurd (h.1.symm.trans hkey)
      (append_ne_append 1 (by decide) (by decide) (by decide) _ _)
  · exact h.elim

/-- **A password is reset with a code** that was mailed to the address less than five minutes
    before. -/
theorem resets_use_mailed_codes (hnone : NoSecrets db) (hrun : AccountRuns rt fm libs db now c)
    (hcm : cm ∈ c.commits) {http : TurnstileService.Siteverify} {hash_password : String → String}
    {data : AuthService.ForgetPasswordRequest} {client_ip : Option String}
    (hlabel : cm.label = .forgetPassword http hash_password data client_ip) :
    ∃ c₁ c₂, Transacted rt fm libs db now c₁ c₂ c cm ∧ ∃ cm' ∈ c₂.commits,
      cm'.label.Mails data.email data.email_code ∧ ∃ d₁ d₂,
        Transacted rt fm libs db now d₁ d₂ c₂ cm' ∧
          WithinSeconds rt fm libs 300 d₁ d₂ c₁ c₂ := by
  obtain ⟨c₁, c₂, hlater, hspan⟩ := hrun.spanned.commits cm hcm
  have htook : Transacted rt fm libs db now c₁ c₂ c cm :=
    ⟨hspan.began, hspan.since, hspan.state, hlater⟩
  obtain ⟨a, s, -, hend⟩ := hspan.within (Q := fun r _ _ => ∀ done, r = .ok done → ∃ v row,
    Stands (Moments rt fm libs c₁ c₂) (AuthService.emailVerifyCodeKey data.email) v row ∧
      rt.str v = data.email_code) fun hclean => by
    rw [hlabel]
    refine Within.bind (AuthService.forgetPassword_presents (hclean.kept discreet_lawful))
      (fun _ _ _ _ done h => by cases h) fun done s₁ ss₁ hdone _ _ _ => hdone done rfl
  obtain ⟨v, row, hstands, htext⟩ := hend a rfl
  obtain ⟨cm', hcm', d₁, d₂, htook', hissues⟩ :=
    hstands.issued hnone htook (isSecret_code data.email)
  obtain ⟨hmails, hexpires⟩ := hissues.mails hstands.key
  rw [hstands.value, htext] at hmails
  exact ⟨c₁, c₂, htook, cm', hcm', hmails, d₁, d₂, htook', hstands.expires hexpires⟩

theorem oneStaff_noSecrets : NoSecrets oneStaff := fun _ hrow => by cases hrow

/-- An account mails itself a code, and resets its password with it. -/
def resetting : List (Event AccountOp) :=
  .begin (.sendEmailVerify (fun _ _ _ => none) 0 { email := "a@example.com" } none) ::
    List.replicate 29 (.exec 0) ++ [.finish 0, .begin (.forgetPassword (fun _ _ _ => none) id
      { email := "a@example.com", email_code := "100000", password := "q" } none)] ++
    List.replicate 12 (.exec 0) ++ [.finish 0]

/-- The resets among the commits, with their codes. -/
def resetsOf (c : Config AccountOp Tbl PyExc Unit) : List (String × String) :=
  c.commits.filterMap fun cm =>
    match cm.label with
    | .forgetPassword _ _ data _ => some (data.email, data.email_code)
    | _ => none

/-- The reset of a run. -/
theorem resets_use_mailed_codes_once : ∃ (c c₁ c₂ d₁ d₂ : Config AccountOp Tbl PyExc Unit)
    (cm cm' : Commit AccountOp Tbl), cm ∈ c.commits ∧ cm' ∈ c₂.commits ∧
      Transacted oneToken plainFormats noPassword oneStaff 0 c₁ c₂ c cm ∧
      Transacted oneToken plainFormats noPassword oneStaff 0 d₁ d₂ c₂ cm' ∧
      cm'.label.Mails "a@example.com" "100000" ∧
      WithinSeconds oneToken plainFormats noPassword 300 d₁ d₂ c₁ c₂ := by
  obtain ⟨c, -, hrun, -, hresets, -⟩ : ∃ c c' : Config AccountOp Tbl PyExc Unit,
      Reaches (AccountOp.prog oneToken plainFormats noPassword) Cond.any
        (.quiet ⟨oneStaff, 0⟩) c ∧
      Reaches (AccountOp.prog oneToken plainFormats noPassword) Cond.any c c' ∧
      resetsOf c = [("a@example.com", "100000")] ∧ resetsOf c' = [("a@example.com", "100000")] :=
    Reaches.exists_of_steps resetting [] resetsOf (by decide +kernel)
  have hmem : ("a@example.com", "100000") ∈ resetsOf c := by
    rw [hresets]
    exact List.mem_singleton.mpr rfl
  obtain ⟨cm, hcm, hreset⟩ := List.mem_filterMap.mp hmem
  split at hreset
  · next http hash_password data client_ip hlabel =>
    obtain ⟨hemail, hcode⟩ := Prod.mk.inj (Option.some.inj hreset)
    obtain ⟨c₁, c₂, htook, cm', hcm', hmails, d₁, d₂, htook', hage⟩ :=
      resets_use_mailed_codes oneStaff_noSecrets hrun hcm hlabel
    rw [hemail, hcode] at hmails
    exact ⟨c, c₁, c₂, d₁, d₂, cm, cm', hcm, hcm', htook, htook', hmails, hage⟩
  · cases hreset

/-- The code was mailed to the address, and less than five minutes pass from a moment of that
    request to one of this transaction. -/
def MailedBefore (rt : Runtime) (fm : Formats) (libs : PasswordLibs) (db : Database) (now : Int)
    (c : Config AccountOp Tbl PyExc Unit) (cm : Commit AccountOp Tbl) (email code : String) :
    Prop :=
  ∃ c₁ c₂, Transacted rt fm libs db now c₁ c₂ c cm ∧ ∃ cm' ∈ c₂.commits,
    cm'.label.Mails email code ∧ ∃ d₁ d₂, Transacted rt fm libs db now d₁ d₂ c₂ cm' ∧
      WithinSeconds rt fm libs 300 d₁ d₂ c₁ c₂

/-- What the code of a registration is. -/
theorem registration_code {n : Int} (hn : n ≠ 0) (hon : ReadsAs rt emailVerifySetting 0 n db)
    (hnone : NoSecrets db) (hrun : AccountRuns rt fm libs db now c) (hcm : cm ∈ c.commits)
    {http : TurnstileService.Siteverify} {drawn : AuthService.Drawn}
    {data : AuthService.UserCreate} {client_ip : Option String}
    (hlabel : cm.label = .register http drawn data client_ip) :
    ∃ code, data.email_code = some code ∧
      (code = "None" ∨ MailedBefore rt fm libs db now c cm data.email code) := by
  obtain ⟨c₁, c₂, hlater, hspan⟩ := hrun.spanned.commits cm hcm
  have htook : Transacted rt fm libs db now c₁ c₂ c cm :=
    ⟨hspan.began, hspan.since, hspan.state, hlater⟩
  have hreads : ∀ D, Between (AccountOp.prog rt fm libs) Cond.any c₁ c₂ D →
      ReadsAs rt emailVerifySetting 0 n D := by
    rintro D ⟨c', hc', -, rfl⟩
    obtain ⟨c₀, hrun₀, hbegin⟩ := htook.began
    exact email_verify_stays hon ((hrun₀.tail (.begin cm.label) rfl hbegin).trans hc')
  obtain ⟨a, s, -, hend⟩ := hspan.within (Q := fun r _ _ => ∀ done, r = .ok done →
    data.Presents rt (Moments rt fm libs c₁ c₂)) fun hclean => by
    rw [hlabel]
    have hstart : Registering rt n (Between (AccountOp.prog rt fm libs) Cond.any c₁ c₂)
        c₁.state.now c₁.state Session.fresh := ⟨.nil _ _, hclean.kept discreet_lawful⟩
    refine Within.bind (AuthService.register_presents hreads hn http drawn data client_ip hstart)
      (fun _ _ _ _ done h => by cases h) fun token s₁ ss₁ htoken _ _ _ => htoken token rfl
  obtain ⟨code, hcode, hpresented⟩ := hend a rfl
  refine ⟨code, hcode, hpresented.imp_right fun hstored => ?_⟩
  obtain ⟨v, row, hstands, htext⟩ := hstored
  obtain ⟨cm', hcm', d₁, d₂, htook', hissues⟩ :=
    hstands.issued hnone htook (isSecret_code data.email)
  obtain ⟨hmails, hexpires⟩ := hissues.mails hstands.key
  rw [hstands.value, htext] at hmails
  exact ⟨c₁, c₂, htook, cm', hcm', hmails, d₁, d₂, htook', hstands.expires hexpires⟩

/-- **A registration uses a code** where `email_verify` is on, and it stays on: the text "None",
    or one that was mailed to its address less than five minutes before. -/
theorem registrations_use_mailed_codes {n : Int} (hn : n ≠ 0)
    (hon : ReadsAs rt emailVerifySetting 0 n db) (hnone : NoSecrets db)
    (hrun : AccountRuns rt fm libs db now c) (hcm : cm ∈ c.commits)
    {http : TurnstileService.Siteverify} {drawn : AuthService.Drawn}
    {data : AuthService.UserCreate} {client_ip : Option String}
    (hlabel : cm.label = .register http drawn data client_ip) :
    ReadsAs rt emailVerifySetting 0 n c.state.db ∧
    ∃ code, data.email_code = some code ∧ (code = "None" ∨
      ∃ c₁ c₂, Transacted rt fm libs db now c₁ c₂ c cm ∧ ∃ cm' ∈ c₂.commits,
        cm'.label.Mails data.email code ∧ ∃ d₁ d₂, Transacted rt fm libs db now d₁ d₂ c₂ cm' ∧
          WithinSeconds rt fm libs 300 d₁ d₂ c₁ c₂) :=
  ⟨email_verify_stays hon hrun, registration_code hn hon hnone hrun hcm hlabel⟩

/-- An account, and the setting is on. -/
def verifying : Database
  | .setting => ⟨[{ id := 1, key := "email_verify", value := "1", type := "int" }], nodup_one⟩
  | t => oneStaff t

theorem verifying_on : ReadsAs oneToken emailVerifySetting 0 1 verifying := by
  refine ⟨fun habsent => ?_, fun item hitem _ => ?_, fun row hrow => ?_⟩
  · exact absurd rfl (habsent _ (List.mem_singleton.mpr rfl))
  · rw [List.mem_singleton.mp hitem]
    decide
  · cases hrow

theorem verifying_noSecrets : NoSecrets verifying := fun _ hrow => by cases hrow

/-- The registration of an address with a code. -/
def registeringWith (code : String) : AccountOp :=
  .register (fun _ _ _ => none) { id := 2, hash_password := id, token := "b", uuid := "" }
    { email := "b@example.com", password := "q", email_code := some code } none

/-- The addresses and codes of the registrations among the commits. -/
def registrationsOf (c : Config AccountOp Tbl PyExc Unit) : List (String × Option String) :=
  c.commits.filterMap fun cm =>
    match cm.label with
    | .register _ _ data _ => some (data.email, data.email_code)
    | _ => none

/-- An address is mailed a code, and registers with it. -/
def mailingAndRegistering : List (Event AccountOp) :=
  .begin (.sendEmailVerify (fun _ _ _ => none) 0 { email := "b@example.com" } none) ::
    List.replicate 29 (.exec 0) ++ [.finish 0, .begin (registeringWith "100000")] ++
    List.replicate 35 (.exec 0) ++ [.finish 0]

/-- The registration of a run. -/
theorem registrations_use_mailed_codes_once : ∃ (c c₁ c₂ d₁ d₂ : Config AccountOp Tbl PyExc Unit)
    (cm cm' : Commit AccountOp Tbl), cm ∈ c.commits ∧ cm' ∈ c₂.commits ∧
      ReadsAs oneToken emailVerifySetting 0 1 c.state.db ∧
      Transacted oneToken plainFormats noPassword verifying 0 c₁ c₂ c cm ∧
      Transacted oneToken plainFormats noPassword verifying 0 d₁ d₂ c₂ cm' ∧
      cm'.label.Mails "b@example.com" "100000" ∧
      WithinSeconds oneToken plainFormats noPassword 300 d₁ d₂ c₁ c₂ := by
  obtain ⟨c, -, hrun, -, hregs, -⟩ : ∃ c c' : Config AccountOp Tbl PyExc Unit,
      Reaches (AccountOp.prog oneToken plainFormats noPassword) Cond.any
        (.quiet ⟨verifying, 0⟩) c ∧
      Reaches (AccountOp.prog oneToken plainFormats noPassword) Cond.any c c' ∧
      registrationsOf c = [("b@example.com", some "100000")] ∧
      registrationsOf c' = [("b@example.com", some "100000")] :=
    Reaches.exists_of_steps mailingAndRegistering [] registrationsOf (by decide +kernel)
  have hmem : ("b@example.com", some "100000") ∈ registrationsOf c := by
    rw [hregs]
    exact List.mem_singleton.mpr rfl
  obtain ⟨cm, hcm, hreg⟩ := List.mem_filterMap.mp hmem
  split at hreg
  · next http drawn data client_ip hlabel =>
    obtain ⟨hemail, hcode⟩ := Prod.mk.inj (Option.some.inj hreg)
    obtain ⟨hstays, code, hsent, hused⟩ := registrations_use_mailed_codes (by decide) verifying_on
      verifying_noSecrets hrun hcm hlabel
    have heq : code = "100000" := Option.some.inj (hsent.symm.trans hcode)
    subst heq
    obtain ⟨c₁, c₂, htook, cm', hcm', hmails, d₁, d₂, htook', hage⟩ :=
      hused.resolve_left (by decide)
    rw [hemail] at hmails
    exact ⟨c, c₁, c₂, d₁, d₂, cm, cm', hcm, hcm', hstays, htook, htook', hmails, hage⟩
  · cases hreg

/-- **No code, and registered**: where the setting is on and no code was ever mailed, an
    address registers with the text "None". -/
theorem registers_without_code : ∃ c : Config AccountOp Tbl PyExc Unit,
    ReadsAs oneToken emailVerifySetting 0 1 verifying ∧ NoSecrets verifying ∧
      AccountRuns oneToken plainFormats noPassword verifying 0 c ∧
      registrationsOf c = [("b@example.com", some "None")] ∧ c.commits.length = 1 := by
  obtain ⟨c, -, hrun, -, hregs, -⟩ : ∃ c c' : Config AccountOp Tbl PyExc Unit,
      Reaches (AccountOp.prog oneToken plainFormats noPassword) Cond.any
        (.quiet ⟨verifying, 0⟩) c ∧
      Reaches (AccountOp.prog oneToken plainFormats noPassword) Cond.any c c' ∧
      (registrationsOf c, c.commits.length) = ([("b@example.com", some "None")], 1) ∧
      (registrationsOf c', c'.commits.length) = ([("b@example.com", some "None")], 1) :=
    Reaches.exists_of_steps
      (.begin (registeringWith "None") :: List.replicate 34 (.exec 0) ++ [.finish 0]) []
      (fun c => (registrationsOf c, c.commits.length)) (by decide +kernel)
  obtain ⟨hregs, hone⟩ := Prod.mk.inj hregs
  exact ⟨c, verifying_on, verifying_noSecrets, hrun, hregs, hone⟩

/-- Does the request register with the text that a missing code has? -/
def AccountOp.sendsNone : AccountOp → Bool
  | .register _ _ data _ => data.email_code = some "None"
  | _ => false

/-- Nobody does. -/
def sendsNoNone : Cond AccountOp Tbl := { Cond.any with begin := fun op => !op.sendsNone }

/-- **Registrations are verified** where `email_verify` is on and nobody sends the text "None":
    the code was mailed to the address less than five minutes before. -/
theorem registrations_are_verified {n : Int} (hn : n ≠ 0)
    (hon : ReadsAs rt emailVerifySetting 0 n db) (hnone : NoSecrets db)
    (hrun : Reaches (AccountOp.prog rt fm libs) sendsNoNone (.quiet ⟨db, now⟩) c)
    (hcm : cm ∈ c.commits) {http : TurnstileService.Siteverify} {drawn : AuthService.Drawn}
    {data : AuthService.UserCreate} {client_ip : Option String}
    (hlabel : cm.label = .register http drawn data client_ip) :
    ∃ code, data.email_code = some code ∧
      MailedBefore rt fm libs db now c cm data.email code := by
  obtain ⟨c₁, c₂, -, hspan⟩ := hrun.spanned.commits cm hcm
  obtain ⟨code, hcode, hused⟩ := registration_code hn hon hnone hrun.any hcm hlabel
  refine ⟨code, hcode, hused.resolve_left fun heq => ?_⟩
  have hallowed : (!cm.label.sendsNone) = true := hspan.allowed
  rw [hlabel, AccountOp.sendsNone, hcode, heq, decide_eq_true rfl] at hallowed
  cases hallowed

/-- A code that was guessed is refused, and the one that was mailed registers. -/
def guessingAndRegistering : List (Event AccountOp) :=
  .begin (.sendEmailVerify (fun _ _ _ => none) 0 { email := "b@example.com" } none) ::
    List.replicate 29 (.exec 0) ++ [.finish 0, .begin (registeringWith "123456")] ++
    List.replicate 24 (.exec 0) ++ [.finish 0, .begin (registeringWith "100000")] ++
    List.replicate 35 (.exec 0) ++ [.finish 0]

/-- The registration of that run. -/
theorem registrations_are_verified_once : ∃ (c : Config AccountOp Tbl PyExc Unit)
    (cm : Commit AccountOp Tbl),
    Reaches (AccountOp.prog oneToken plainFormats noPassword) sendsNoNone
        (.quiet ⟨verifying, 0⟩) c ∧
      registrationsOf c = [("b@example.com", some "100000")] ∧ cm ∈ c.commits ∧
      MailedBefore oneToken plainFormats noPassword verifying 0 c cm "b@example.com" "100000" := by
  obtain ⟨c, -, hrun, -, hregs, -⟩ : ∃ c c' : Config AccountOp Tbl PyExc Unit,
      Reaches (AccountOp.prog oneToken plainFormats noPassword) sendsNoNone
        (.quiet ⟨verifying, 0⟩) c ∧
      Reaches (AccountOp.prog oneToken plainFormats noPassword) sendsNoNone c c' ∧
      registrationsOf c = [("b@example.com", some "100000")] ∧
      registrationsOf c' = [("b@example.com", some "100000")] :=
    Reaches.exists_of_steps guessingAndRegistering [] registrationsOf (by decide +kernel)
  have hmem : ("b@example.com", some "100000") ∈ registrationsOf c := by
    rw [hregs]
    exact List.mem_singleton.mpr rfl
  obtain ⟨cm, hcm, hreg⟩ := List.mem_filterMap.mp hmem
  split at hreg
  · next http drawn data client_ip hlabel =>
    obtain ⟨hemail, hsent⟩ := Prod.mk.inj (Option.some.inj hreg)
    obtain ⟨code, hcode, hmailed⟩ := registrations_are_verified (by decide) verifying_on
      verifying_noSecrets hrun hcm hlabel
    rw [hemail, Option.some.inj (hcode.symm.trans hsent)] at hmailed
    exact ⟨c, cm, hrun, hregs, hcm, hmailed⟩
  · cases hreg

/-! ## §3. Links. -/

/-- The request asks for a link that logs an account in. -/
def AccountOp.AsksLink (rt : Runtime) (M : Int → Database → Prop) (code : String) (user_id : Int) :
    AccountOp → Prop
  | .own credentials (.getQuickLoginUrl code' _) => code' = code ∧
      ∃ u, Bearing rt M .user credentials u ∧ u.id = user_id
  | _ => False

/-- Only a request for a link stores one. -/
theorem AccountOp.Issues.asks {M : Int → Database → Prop} {op : AccountOp} {row : RuntimeCacheRow}
    {code : String} {user_id : Int} (h : op.Issues rt M row) (hkey : row.key = tempTokenKey code)
    (hid : CouponService.intOfItem rt row.value = .ok user_id) :
    op.AsksLink rt M code user_id ∧ ∃ now D, M now D ∧ row.expires_at = some (now + 60) := by
  unfold AccountOp.Issues at h
  split at h
  · exact absurd (h.1.symm.trans hkey)
      (append_ne_append 1 (by decide) (by decide) (by decide) _ _)
  · next credentials code' redirect =>
    obtain ⟨hkey', ⟨u, hb, hvalue⟩, hexpires⟩ := h
    have hcode : code' = code := String.append_right_inj _ |>.mp (hkey'.symm.trans hkey)
    rw [hvalue] at hid
    exact ⟨⟨hcode, u, hb, Except.ok.inj hid⟩, hexpires⟩
  · exact h.elim

/-- What a link permits: the account that stands for it is logged in. -/
def HandedPermit (rt : Runtime) (M : Int → Database → Prop) (code : String) (P : Permit) : Prop :=
  ∃ (u : User) (v : Json) (row : RuntimeCacheRow), Stands M (tempTokenKey code) v row ∧
    CouponService.intOfItem rt v = .ok u.id ∧
      P = .editing { account := u.id, columns := [.last_login_at] }

/-- **A link logs in the account that has asked for it**, less than a minute before. -/
theorem links_log_in_who_asked (hnone : NoSecrets db) (hrun : AccountRuns rt fm libs db now c)
    (hcm : cm ∈ c.commits) {verify token : Option String} {redirect : String}
    (hlabel : cm.label = .token2Login verify token redirect) :
    (∀ k, (cm.after.db .users).get? k = (cm.before.db .users).get? k) ∨
      ∃ c₁ c₂ user_id, Transacted rt fm libs db now c₁ c₂ c cm ∧
        (∀ k, (Permit.editing { account := user_id, columns := [.last_login_at] }).policy.Allows
          ((cm.before.db .users).get? k) ((cm.after.db .users).get? k)) ∧
        ∃ cm' ∈ c₂.commits, ∃ d₁ d₂, Transacted rt fm libs db now d₁ d₂ c₂ cm' ∧
          cm'.label.AsksLink rt (Moments rt fm libs d₁ d₂) (verify.getD "") user_id ∧
            WithinSeconds rt fm libs 60 d₁ d₂ c₁ c₂ := by
  obtain ⟨c₁, c₂, hlater, hspan⟩ := hrun.spanned.commits cm hcm
  have htook : Transacted rt fm libs db now c₁ c₂ c cm :=
    ⟨hspan.began, hspan.since, hspan.state, hlater⟩
  have hexplained := hspan.explained (t := Tbl.users)
    (Policies.lawful (W := HandedPermit rt (Moments rt fm libs c₁ c₂) (verify.getD "")))
    fun hclean => by
      rw [hlabel]
      exact Explained.bind Policies.lawful (token2Login_handed hclean
        fun u v row hstands hid => ⟨u, v, row, hstands, hid, rfl⟩) fun _ => .ret _
  cases hexplained with
  | inl hsame => exact Or.inl hsame
  | inr hwhy =>
    obtain ⟨Q, ⟨P, ⟨u, v, row, hstands, hid, rfl⟩, rfl⟩, hrows⟩ := hwhy
    obtain ⟨cm', hcm', d₁, d₂, htook', hissues⟩ :=
      hstands.issued hnone htook (isSecret_temp (verify.getD ""))
    obtain ⟨hasks, hexpires⟩ := hissues.asks hstands.key (hstands.value ▸ hid)
    exact Or.inr ⟨c₁, c₂, u.id, htook, hrows, cm', hcm', d₁, d₂, htook', hasks,
      hstands.expires hexpires⟩

/-- An account asks for a link, and logs in by it. -/
def linking : List (Event AccountOp) :=
  .begin (.own (some ⟨"Bearer", "s"⟩) (.getQuickLoginUrl "x" "")) ::
    List.replicate 8 (.exec 0) ++ [.finish 0, .begin (.token2Login (some "x") none "")] ++
    List.replicate 10 (.exec 0) ++ [.finish 0]

/-- The codes of the logins by link among the commits, and whether an account has logged in. -/
def loginsOf (c : Config AccountOp Tbl PyExc Unit) : List (String × Bool) :=
  c.commits.filterMap fun cm =>
    match cm.label with
    | .token2Login verify _ _ => some (verify.getD "",
        ((cm.before.db .users).get? (1 : Int)).map User.last_login_at ≠
          ((cm.after.db .users).get? (1 : Int)).map User.last_login_at)
    | _ => none

/-- The login of a run. -/
theorem links_log_in_who_asked_once : ∃ (c c₁ c₂ d₁ d₂ : Config AccountOp Tbl PyExc Unit)
    (cm cm' : Commit AccountOp Tbl) (user_id : Int), cm ∈ c.commits ∧ cm' ∈ c₂.commits ∧
      Transacted oneToken plainFormats noPassword oneStaff 0 c₁ c₂ c cm ∧
      Transacted oneToken plainFormats noPassword oneStaff 0 d₁ d₂ c₂ cm' ∧
      cm'.label.AsksLink oneToken (Moments oneToken plainFormats noPassword d₁ d₂) "x" user_id ∧
      WithinSeconds oneToken plainFormats noPassword 60 d₁ d₂ c₁ c₂ := by
  obtain ⟨c, -, hrun, -, hlogins, -⟩ : ∃ c c' : Config AccountOp Tbl PyExc Unit,
      Reaches (AccountOp.prog oneToken plainFormats noPassword) Cond.any
        (.quiet ⟨oneStaff, 0⟩) c ∧
      Reaches (AccountOp.prog oneToken plainFormats noPassword) Cond.any c c' ∧
      loginsOf c = [("x", true)] ∧ loginsOf c' = [("x", true)] :=
    Reaches.exists_of_steps linking [] loginsOf (by decide +kernel)
  have hmem : ("x", true) ∈ loginsOf c := by
    rw [hlogins]
    exact List.mem_singleton.mpr rfl
  obtain ⟨cm, hcm, hlogin⟩ := List.mem_filterMap.mp hmem
  split at hlogin
  · next verify token redirect hlabel =>
    obtain ⟨hverify, hchanged⟩ := Prod.mk.inj (Option.some.inj hlogin)
    cases links_log_in_who_asked oneStaff_noSecrets hrun hcm hlabel with
    | inl hsame => exact absurd (by rw [hsame]) (of_decide_eq_true hchanged)
    | inr hlinked =>
      obtain ⟨c₁, c₂, user_id, htook, -, cm', hcm', d₁, d₂, htook', hasks, hage⟩ := hlinked
      rw [hverify] at hasks
      exact ⟨c, c₁, c₂, d₁, d₂, cm, cm', user_id, hcm, hcm', htook, htook', hasks, hage⟩
  · cases hlogin

end PyBoard
