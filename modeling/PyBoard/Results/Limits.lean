/-
  PyBoard.Results.Limits — how many requests of an address the limits let pass.

  A request counts against its limit inside its own transaction, so a request that raises
  later takes its count back.  The limit of mail codes holds for requests that go through
  once they pass it (`mail_limit_holds`); the others pass without end.  The limit of
  registrations counts those that succeed, in a window of seconds where the settings
  declare minutes (`register_limit_holds`).
-/
import PyBoard.Python.Utc
import PyBoard.Relational.Serial
import PyBoard.Specs.Auth

namespace PyBoard

open Relational AuthService

variable {rt : Runtime} {ip : String} {s : State Tbl} {ss : Session Tbl}

/-! ## §1. Counters between requests. -/

/-- Whatever else happens leaves the live entry of the counter. -/
structure LeavesCounter (key : String) (s s' : State Tbl) : Prop where
  later : s.now ≤ s'.now
  entry : liveEntry s' s'.db key = liveEntry s' s.db key

/-- An entry that is live later is live now. -/
theorem liveEntry_later {s' : State Tbl} (h : s.now ≤ s'.now) (db : Database) (key : String) :
    liveEntry s' db key = (liveEntry s db key).filter (Entry.alive s'.now) := by
  unfold liveEntry
  rw [← TtlMap.purge_purge h]
  rfl

theorem LeavesCounter.none {key : String} {s' : State Tbl} (h : LeavesCounter key s s')
    (hnone : liveEntry s s.db key = Option.none) : liveEntry s' s'.db key = Option.none := by
  rw [h.entry, liveEntry_later h.later, hnone]
  rfl

theorem LeavesCounter.some {key : String} {s' : State Tbl} (h : LeavesCounter key s s')
    {e : Entry Json} (hsome : liveEntry s s.db key = Option.some e)
    (halive : e.alive s'.now = true) : liveEntry s' s'.db key = Option.some e := by
  rw [h.entry, liveEntry_later h.later, hsome]
  exact if_pos halive

/-! ## §2. Requests for mail codes. -/

/-- A request of the address, with what it draws and what the captcha service answers to it. -/
structure MailRequest where
  http : TurnstileService.Siteverify
  drawn : Nat
  data : EmailVerifyRequest

def MailRequest.prog (rt : Runtime) (ip : String) (r : MailRequest) : Db String :=
  sendEmailVerify rt r.http r.drawn r.data (some ip)

/-- Does the request pass `_check_email_verify_rate`? -/
def passesRate (rt : Runtime) (ip : String) (e : Visit Tbl MailRequest) : Bool :=
  ((checkEmailVerifyRate rt (some ip)).run e.before Session.fresh).1.isOk

/-- The limit aside, the request is not refused: the settings admit the address, the captcha is
    solved or not asked for, the address is registered or free as the request takes it, and
    no code has been sent to it in the last minute. -/
structure Deliverable (rt : Runtime) (ip : String) (s : State Tbl) (r : MailRequest) : Prop where
  policy : emailPolicy rt s Session.fresh r.data.email = .ok ()
  captcha : captcha rt s Session.fresh r.http r.data.recaptcha_data (some ip) = .ok ()
  registered : ∃ taken, emailTaken s r.data.email = .ok taken ∧
    ¬(r.data.isforget = some 0 ∧ taken = true) ∧ ¬(r.data.isforget = some 1 ∧ ¬taken = true)
  unsent : ((liveDocument s Session.fresh
    (emailVerifyLastSendKey r.data.email)).getD .null).truthy = false
  name : ∃ app_name, settingStr rt s Session.fresh "app_name" "PyBoard" = .ok app_name
  url : ∃ app_url, settingStr rt s Session.fresh "app_url" "" = .ok app_url

/-- The code is drawn and kept, unless one has been sent. -/
def sendCode (r : MailRequest) (taken : Bool) : Db String := do
  if r.data.isforget = some 0 ∧ taken then Prog.throw (ConflictException "该邮箱已注册")
  else if r.data.isforget = some 1 ∧ ¬taken then Prog.throw (NotFoundException "该邮箱未注册")
  else
    let last_send ← RuntimeCache.get (emailVerifyLastSendKey r.data.email)
    if (last_send.getD .null).truthy then
      Prog.throw (BadRequestException "邮箱验证码已发送，请稍后再试")
    else
      let code := toString (r.drawn + 100000)
      let _done ← RuntimeCache.set (emailVerifyCodeKey r.data.email) (.str code) (some 300)
      let now ← time
      let _done ← RuntimeCache.set (emailVerifyLastSendKey r.data.email) (.int now) (some 60)
      return code

/-- The request after its limit. -/
def deliver (rt : Runtime) (r : MailRequest) (client_ip : Option String) : Db String := do
  checkEmailPolicy rt r.data.email
  TurnstileService.verifyIfEnabled rt r.http r.data.recaptcha_data client_ip
  let taken ← UserRepository.emailExists r.data.email
  let code ← sendCode r taken
  let _app_name ← SettingService.Cached.getStr rt "app_name" "PyBoard"
  let _app_url ← SettingService.Cached.getStr rt "app_url" ""
  return code

theorem MailRequest.prog_eq (r : MailRequest) :
    r.prog rt ip = (checkEmailVerifyRate rt (some ip)).bind fun _ => deliver rt r (some ip) := by
  unfold prog sendEmailVerify createEmailVerifyCode deliver sendCode
  simp only [Prog.bind_eq, Prog.bind_assoc]

/-! ## §3. A request for a mail code. -/

theorem cacheKey_ne_rateKey (key : String) :
    SettingService.Cached.cacheKey key ≠ emailVerifyRateKey ip :=
  append_ne_append 1 (by decide) (by decide) (by decide) _ _

theorem codeKey_ne_rateKey (ip email : String) : emailVerifyCodeKey email ≠ emailVerifyRateKey ip :=
  append_ne_append 14 (by decide) (by decide) (by decide) _ _

theorem lastSendKey_ne_rateKey (ip email : String) :
    emailVerifyLastSendKey email ≠ emailVerifyRateKey ip :=
  append_ne_append 14 (by decide) (by decide) (by decide) _ _

theorem lastSendKey_ne_cacheKey (email key : String) :
    emailVerifyLastSendKey email ≠ SettingService.Cached.cacheKey key :=
  append_ne_append 1 (by decide) (by decide) (by decide) _ _

theorem codeKey_ne_cacheKey (email key : String) :
    emailVerifyCodeKey email ≠ SettingService.Cached.cacheKey key :=
  append_ne_append 1 (by decide) (by decide) (by decide) _ _

variable (rt) (ip) in
/-- The rest of the request leaves the counter alone. -/
theorem steady_deliver (r : MailRequest) (client_ip : Option String)
    (row : Option RuntimeCacheRow) :
    (Contract.solo : Contract Unit Tbl).Steady (SeesRow (emailVerifyRateKey ip) row)
      (deliver rt r client_ip) := by
  have hstable := seesRow_stable (emailVerifyRateKey ip) row
  have hsetting : ∀ key, CacheOpen Contract.solo (SeesRow (emailVerifyRateKey ip) row)
      (SettingService.Cached.cacheKey key) := fun key => seesRow_open row (cacheKey_ne_rateKey key)
  have hsettings : SettingsOpen Contract.solo (SeesRow (emailVerifyRateKey ip) row) :=
    ⟨hstable, fun key _ => hsetting key⟩
  have hlast := seesRow_open row (lastSendKey_ne_rateKey ip r.data.email)
  have hcode := seesRow_open row (codeKey_ne_rateKey ip r.data.email)
  refine .bind (steady_checkEmailPolicy hsettings _) fun _ => ?_
  refine .bind (steady_verifyIfEnabled hsettings _ _ _) fun _ => ?_
  refine .bind (steady_emailExists hstable _) fun taken => ?_
  refine .bind (.ite (.throw _) (.ite (.throw _) ?_)) fun code => ?_
  · refine .bind (steady_get hstable hlast.del) fun last_send => .ite (.throw _) ?_
    refine .bind (steady_set hstable hcode _ _ _) fun _ => .bind (steady_time hstable) fun now => ?_
    exact .bind (steady_set hstable hlast _ _ _) fun _ => .ret _
  · refine .bind (steady_getStr rt hstable (hsetting _) _) fun _ => ?_
    exact .bind (steady_getStr rt hstable (hsetting _) _) fun _ => .ret _

/-- **A request that is not refused goes through.** -/
theorem run_deliver {r : MailRequest} (hd : Deliverable rt ip s r) (h : CacheOnly ss)
    (hsame : ∀ k, k ≠ emailVerifyRateKey ip → SameDocument s Session.fresh ss k) :
    ∃ code ss', (deliver rt r (some ip)).run s ss = (.ok code, ss') := by
  have hsetting : ∀ key, SameDocument s Session.fresh ss (SettingService.Cached.cacheKey key) :=
    fun key => hsame _ (cacheKey_ne_rateKey key)
  obtain ⟨taken, htaken, hfree, hknown⟩ := hd.registered
  obtain ⟨app_name, hname⟩ := hd.name
  obtain ⟨app_url, hurl⟩ := hd.url
  -- the checks
  obtain ⟨ss₁, hrun₁, h₁⟩ := decides_checkEmailPolicy rt r.data.email ss (.refl h)
  rw [emailPolicy_of_same hsetting, hd.policy] at hrun₁
  obtain ⟨ss₂, hrun₂, h₂⟩ :=
    decides_verifyIfEnabled rt r.http r.data.recaptcha_data (some ip) ss₁ h₁
  rw [captcha_of_same hsetting, hd.captcha] at hrun₂
  obtain ⟨ss₃, hrun₃, h₃⟩ := decides_emailExists r.data.email ss₂ h₂
  rw [htaken] at hrun₃
  obtain ⟨ss₄, hrun₄, h₄⟩ :=
    decides_get (lastSendKey_ne_cacheKey r.data.email) ss₃ h₃
  rw [show liveDocument s ss (emailVerifyLastSendKey r.data.email) = _ from
    hsame _ (lastSendKey_ne_rateKey _ _)] at hrun₄
  -- the code is kept
  obtain ⟨ss₅, hrun₅, honly₅, hsame₅⟩ := run_set_alone (s := s) h₄.only
    (emailVerifyCodeKey r.data.email) (.str (toString (r.drawn + 100000))) (some 300)
  obtain ⟨ss₆, hrun₆, honly₆, hsame₆⟩ := run_set_alone (s := s) honly₅
    (emailVerifyLastSendKey r.data.email) (.int s.now) (some 60)
  have hkept : (sendCode r taken).run s ss₃ = (.ok (toString (r.drawn + 100000)), ss₆) := by
    unfold sendCode
    rw [if_neg hfree, if_neg hknown, Prog.bind_eq, Prog.run_bind, hrun₄]
    dsimp only
    rw [if_neg (Bool.not_eq_true _ ▸ hd.unsent), Prog.bind_eq, Prog.run_bind, hrun₅]
    show ((RuntimeCache.set (emailVerifyLastSendKey r.data.email) (.int s.now) (some 60)).bind
      fun _ => _).run s ss₅ = _
    rw [Prog.run_bind, hrun₆]
    rfl
  -- the settings of the mail
  have hread : ∀ key, key ∉ captchaKeys →
      SameDocument s Session.fresh ss₆ (SettingService.Cached.cacheKey key) := by
    intro key hkey
    have h₅ := hsame₅ _ (codeKey_ne_cacheKey r.data.email key).symm
    have h₆ := hsame₆ _ (lastSendKey_ne_cacheKey r.data.email key).symm
    exact h₆.trans (h₅.trans ((h₄.unread key hkey).trans (hsetting key)))
  obtain ⟨ss₇, hrun₇, honly₇, hsame₇⟩ :=
    run_getStr_alone rt (s := s) honly₆ "app_name" "PyBoard"
  rw [settingStr_congr (hread _ (by decide)), hname] at hrun₇
  obtain ⟨ss₈, hrun₈, -, -⟩ := run_getStr_alone rt (s := s) honly₇ "app_url" ""
  have hurl₇ := (hsame₇ (SettingService.Cached.cacheKey "app_url")
    fun heq => absurd (cacheKey_injective heq) (by decide)).trans (hread _ (by decide))
  rw [settingStr_congr hurl₇, hurl] at hrun₈
  refine ⟨toString (r.drawn + 100000), ss₈, ?_⟩
  unfold deliver
  rw [Prog.bind_eq, Prog.run_bind, hrun₁]
  dsimp only
  rw [Prog.bind_eq, Prog.run_bind, hrun₂]
  dsimp only
  rw [Prog.bind_eq, Prog.run_bind, hrun₃]
  dsimp only
  rw [Prog.bind_eq, Prog.run_bind, hkept]
  dsimp only
  rw [Prog.bind_eq, Prog.run_bind, hrun₇]
  dsimp only
  rw [Prog.bind_eq, Prog.run_bind, hrun₈]
  rfl

variable (rt) in
theorem counted_alive {now ex : Int} (hex : 0 < ex) {entry : Option (Entry Json)}
    (h : ∀ e, entry = some e → e.alive now = true) :
    (counted rt now (some ex) entry).alive now = true := by
  have hlater : RuntimeCache.expiresAt now (some ex) = some (now + ex) := if_neg hex.ne'
  cases entry with
  | none =>
    unfold counted Entry.alive
    rw [hlater]
    exact decide_eq_true (by omega)
  | some e =>
    have halive := h e rfl
    unfold Entry.alive at halive
    unfold counted Entry.alive
    dsimp only
    cases he : e.expires_at with
    | none =>
      dsimp only
      rw [hlater]
      exact decide_eq_true (by omega)
    | some expires_at =>
      rw [he] at halive
      exact halive

theorem liveEntry_alive {db : Database} {key : String} {e : Entry Json}
    (h : liveEntry s db key = some e) : e.alive s.now = true :=
  (Option.filter_eq_some_iff.mp h).2

theorem liveEntry_of_stored {db : Database} {key : String} {e : Entry Json}
    (h : stored db key = some e) (halive : e.alive s.now = true) :
    liveEntry s db key = some e := by
  unfold liveEntry
  rw [TtlMap.purge_apply, h]
  exact if_pos halive

theorem inBigint_of_le {n : Int} (h0 : 0 ≤ n) (h : n ≤ 4) : RuntimeCache.inBigint n = true := by
  unfold RuntimeCache.inBigint
  rw [Bool.and_eq_true, decide_eq_true_eq, decide_eq_true_eq]
  omega

variable (rt) in
/-- The check counts the request, and refuses it beyond the third. -/
theorem run_checkEmailVerifyRate (hip : ip ≠ "") {n : Int}
    (hn : liveCount rt s (emailVerifyRateKey ip) = n) (h0 : 0 ≤ n) (h3 : n ≤ 3) :
    ∃ ss', (checkEmailVerifyRate rt (some ip)).run s Session.fresh =
        (if n < 3 then .ok () else .error (BadRequestException "请求过于频繁，请稍后再试"), ss') ∧
      CacheOnly ss' ∧
      stored (s.view ss') (emailVerifyRateKey ip)
        = some (counted rt s.now (some 60) (liveEntry s s.db (emailVerifyRateKey ip))) ∧
      ∀ k, k ≠ emailVerifyRateKey ip → SameDocument s Session.fresh ss' k := by
  have hcount : RuntimeCache.toBigint rt (counted rt s.now (some 60)
      (liveEntry s (s.view Session.fresh) (emailVerifyRateKey ip))).value = n + 1 := by
    rw [State.view_fresh, toBigint_counted, ← hn]
    rfl
  obtain ⟨ss', hrun, honly, hstored, hsame⟩ := run_incr_alone CacheOnly.fresh
    (emailVerifyRateKey ip) (some 60) hcount (inBigint_of_le (by omega) (by omega))
  rw [State.view_fresh] at hstored
  refine ⟨ss', ?_, honly, hstored, hsame⟩
  have hgiven : (some ip).filter (fun ip => decide (ip ≠ "")) = some ip := by simp [hip]
  unfold checkEmailVerifyRate
  rw [hgiven]
  dsimp only
  rw [Prog.bind_eq, Prog.run_bind, hrun]
  dsimp only
  by_cases hlt : n < 3
  · rw [if_pos hlt, if_neg (by omega)]
    rfl
  · rw [if_neg hlt, if_pos (by omega)]
    rfl

/-- **One request**: it passes and counts, or the limit refuses it and it does not. -/
theorem MailRequest.serve_spec (hip : ip ≠ "") {r : MailRequest} {n : Int}
    (hn : liveCount rt s (emailVerifyRateKey ip) = n) (h0 : 0 ≤ n) (h3 : n ≤ 3)
    (hd : n < 3 → Deliverable rt ip s r) :
    passesRate rt ip ⟨s, r⟩ = decide (n < 3) ∧
      liveEntry s ((r.prog rt ip).serve s).db (emailVerifyRateKey ip) =
        if n < 3 then some (counted rt s.now (some 60) (liveEntry s s.db (emailVerifyRateKey ip)))
        else liveEntry s s.db (emailVerifyRateKey ip) := by
  obtain ⟨ss₁, hrun₁, honly, hstored, hsame⟩ := run_checkEmailVerifyRate rt hip hn h0 h3
  unfold passesRate
  rw [hrun₁]
  by_cases hlt : n < 3
  · rw [if_pos hlt] at hrun₁
    rw [if_pos hlt, if_pos hlt, decide_eq_true hlt]
    refine ⟨rfl, ?_⟩
    obtain ⟨code, ss₂, hrun₂⟩ := run_deliver (hd hlt) honly hsame
    have hrun : (r.prog rt ip).run s Session.fresh = (.ok code, ss₂) := by
      rw [r.prog_eq, Prog.run_bind, hrun₁]
      exact hrun₂
    have hleft := stored_run s ss₁ (steady_deliver rt ip r (some ip))
    rw [hrun₂, hstored] at hleft
    rw [Prog.serve_ok hrun, State.commit_db]
    exact liveEntry_of_stored hleft (counted_alive rt (by omega) fun e => liveEntry_alive)
  · rw [if_neg hlt] at hrun₁
    rw [if_neg hlt, if_neg hlt, decide_eq_false hlt]
    refine ⟨rfl, ?_⟩
    have hraise : ((r.prog rt ip).run s Session.fresh).1
        = .error (BadRequestException "请求过于频繁，请稍后再试") := by
      rw [r.prog_eq, Prog.run_bind, hrun₁]
    rw [Prog.serve_error hraise]

/-- The counter stands at `n` until the window that `first` has opened closes. -/
def StandsAt (key : String) (n : Nat) (closes : Int) (s : State Tbl) : Prop :=
  s.now < closes → liveEntry s s.db key = some ⟨.int n, some closes⟩

theorem StandsAt.wait {key : String} {n : Nat} {closes : Int} {s' : State Tbl}
    (h : StandsAt key n closes s) (hwait : LeavesCounter key s s') : StandsAt key n closes s' := by
  intro hnow
  have hlater := hwait.later
  exact hwait.some (h (by omega)) (decide_eq_true hnow)

variable (rt) in
theorem StandsAt.count {key : String} {n : Nat} {closes : Int} (h : StandsAt key n closes s)
    (hnow : s.now < closes) : liveCount rt s key = n := by
  unfold liveCount
  rw [h hnow]
  rfl

theorem StandsAt.counted {key : String} {n : Nat} {closes : Int} {ex : Option Int}
    (h : StandsAt key n closes s) (hnow : s.now < closes) :
    counted rt s.now ex (liveEntry s s.db key) = ⟨.int (n + 1 : Nat), some closes⟩ := by
  rw [h hnow]
  rfl

/-- The requests that have passed. -/
def passed (rt : Runtime) (ip : String) (log : List (Visit Tbl MailRequest)) : Nat :=
  log.countP (passesRate rt ip)

/-- At most three requests have passed, and the counter shows how many. -/
structure MailCounted (rt : Runtime) (ip : String) (log : List (Visit Tbl MailRequest))
    (s : State Tbl) : Prop where
  few : passed rt ip log ≤ 3
  counter : (log = [] ∧ liveEntry s s.db (emailVerifyRateKey ip) = none) ∨
    ∃ first ∈ log, StandsAt (emailVerifyRateKey ip) (passed rt ip log) (first.before.now + 60) s

/-- **One more request.** -/
theorem MailCounted.request (hip : ip ≠ "") {log : List (Visit Tbl MailRequest)}
    {r : MailRequest} (h : MailCounted rt ip log s)
    (hwindow : ∀ first ∈ log, s.now < first.before.now + 60)
    (hd : liveCount rt s (emailVerifyRateKey ip) < 3 → Deliverable rt ip s r) :
    MailCounted rt ip (⟨s, r⟩ :: log) ((r.prog rt ip).serve s) := by
  rcases h.counter with ⟨hnil, hnone⟩ | ⟨first, hfirst, hstands⟩
  · -- the first request opens the window
    have hcount : liveCount rt s (emailVerifyRateKey ip) = 0 := by
      unfold liveCount
      rw [hnone]
    obtain ⟨hpass, hentry⟩ := MailRequest.serve_spec hip hcount (le_refl 0) (by omega)
      fun hlt => hd (hcount ▸ hlt)
    have hone : passed rt ip (⟨s, r⟩ :: log) = 1 := by
      unfold passed
      rw [hnil, List.countP_cons, hpass]
      rfl
    refine ⟨by omega, Or.inr ⟨⟨s, r⟩, List.mem_cons_self, fun hnow => ?_⟩⟩
    unfold liveEntry at hentry ⊢
    rw [Prog.serve_now, hentry, if_pos (by omega), hone]
    unfold liveEntry at hnone
    rw [hnone]
    rfl
  · have hnow := hwindow first hfirst
    have hcount := hstands.count rt hnow
    have hfew := h.few
    obtain ⟨hpass, hentry⟩ := MailRequest.serve_spec hip hcount (by omega) (by omega)
      fun hlt => hd (hcount ▸ hlt)
    have hnext : passed rt ip (⟨s, r⟩ :: log)
        = passed rt ip log + if passed rt ip log < 3 then 1 else 0 := by
      unfold passed at hpass ⊢
      rw [List.countP_cons, hpass]
      simp
    refine ⟨by rw [hnext]; split <;> omega,
      Or.inr ⟨first, List.mem_cons_of_mem _ hfirst, fun _ => ?_⟩⟩
    rw [hstands.counted hnow, hstands hnow] at hentry
    unfold liveEntry at hentry ⊢
    rw [Prog.serve_now, hentry, hnext]
    by_cases hlt : passed rt ip log < 3
    · rw [if_pos (by omega), if_pos hlt]
    · rw [if_neg (by omega), if_neg hlt, Nat.add_zero]

/-- Nothing is stored: every setting has its default. -/
def noSettings : State Tbl := ⟨fun _ => Table.empty, 1700000000⟩

/-- A request for a code to register with, or to reset the password with. -/
def mailTo (isforget : Int) : MailRequest where
  http := fun _ _ _ => none
  drawn := 23456
  data := { email := "a@example.com", isforget := some isforget }

/-- A request for a code to register the address with. -/
def mailFor (email : String) : MailRequest where
  http := fun _ _ _ => none
  drawn := 23456
  data := { email := email, isforget := some 0 }

/-- Requests for four addresses, the newest first. -/
def fourMails : List (Visit Tbl MailRequest) × State Tbl :=
  Prog.serveAll (MailRequest.prog Utc.bare "192.0.2.1") noSettings
    [mailFor "d@example.com", mailFor "c@example.com", mailFor "b@example.com",
      mailFor "a@example.com"]

/-- All of them can be delivered, and no time passes. -/
theorem fourMails_deliverable : ∀ e ∈ fourMails.1,
    Deliverable Utc.bare "192.0.2.1" e.before e.request ∧ e.before.now = noSettings.now := by
  have hchecked : ∀ e ∈ fourMails.1,
      emailPolicy Utc.bare e.before Session.fresh e.request.data.email = .ok () ∧
      captcha Utc.bare e.before Session.fresh e.request.http e.request.data.recaptcha_data
        (some "192.0.2.1") = .ok () ∧
      emailTaken e.before e.request.data.email = .ok false ∧ e.request.data.isforget = some 0 ∧
      ((liveDocument e.before Session.fresh
        (emailVerifyLastSendKey e.request.data.email)).getD .null).truthy = false ∧
      settingStr Utc.bare e.before Session.fresh "app_name" "PyBoard" = .ok "PyBoard" ∧
      settingStr Utc.bare e.before Session.fresh "app_url" "" = .ok "" ∧
      e.before.now = noSettings.now := by decide +kernel
  intro e he
  obtain ⟨hpolicy, hcaptcha, htaken, hisforget, hunsent, hname, hurl, hnow⟩ := hchecked e he
  have hfree : ¬(e.request.data.isforget = some 0 ∧ false = true) ∧
      ¬(e.request.data.isforget = some 1 ∧ ¬false = true) := by
    rw [hisforget]
    decide
  exact ⟨⟨hpolicy, hcaptcha, ⟨false, htaken, hfree⟩, hunsent, ⟨_, hname⟩, ⟨_, hurl⟩⟩, hnow⟩

/-- **Refused requests pass without end**: a code to reset the password of an address that is
    not registered, asked for any number of times in one second. -/
theorem refused_requests_keep_passing (n : Nat) : ∃ log s,
    Serial (MailRequest.prog Utc.bare "192.0.2.1")
      (LeavesCounter (emailVerifyRateKey "192.0.2.1")) noSettings log s ∧
        liveEntry noSettings noSettings.db (emailVerifyRateKey "192.0.2.1") = none ∧
        (∀ e ∈ log, e.before.now = noSettings.now) ∧ log.length = n ∧
          passed Utc.bare "192.0.2.1" log = n := by
  have hback : ((mailTo 1).prog Utc.bare "192.0.2.1").serve noSettings = noSettings :=
    Prog.serve_error (e := NotFoundException "该邮箱未注册") rfl
  have hpass : passesRate Utc.bare "192.0.2.1" ⟨noSettings, mailTo 1⟩ = true := rfl
  refine ⟨List.replicate n ⟨noSettings, mailTo 1⟩, noSettings, ?_, rfl, ?_,
    List.length_replicate, ?_⟩
  · induction n with
    | zero => exact .start
    | succ n ih =>
      have hnext := Serial.request (mailTo 1) ih
      rw [hback] at hnext
      exact hnext
  · intro e he
    rw [List.eq_of_mem_replicate he]
  · unfold passed
    rw [List.countP_replicate, if_pos hpass]

variable {fm : Formats}

/-- A registration from the address. -/
structure RegisterRequest where
  http : TurnstileService.Siteverify
  drawn : Drawn
  data : UserCreate

def RegisterRequest.prog (rt : Runtime) (fm : Formats) (ip : String) (r : RegisterRequest) :
    Db String := register rt fm r.http r.drawn r.data (some ip)

/-- Does the registration succeed? -/
def succeeds (rt : Runtime) (fm : Formats) (ip : String) (e : Visit Tbl RegisterRequest) : Bool :=
  ((e.request.prog rt fm ip).run e.before Session.fresh).1.isOk

/-- The limit of registrations is on, for `count` registrations in a period of `expire`. -/
structure LimitOn (rt : Runtime) (count expire : Int) (s : State Tbl) (ss : Session Tbl) :
    Prop where
  enabled : ∃ enable, settingInt rt s ss "register_limit_by_ip_enable" 0 = .ok enable ∧ enable ≠ 0
  count : settingInt rt s ss "register_limit_count" 3 = .ok count
  expire : settingInt rt s ss "register_limit_expire" 60 = .ok expire

theorem LimitOn.congr {count expire : Int} {ss' : Session Tbl} (h : LimitOn rt count expire s ss)
    (hsame : ∀ key, key ∉ "stop_register" :: policyKeys →
      SameDocument s ss ss' (SettingService.Cached.cacheKey key)) :
    LimitOn rt count expire s ss' := by
  obtain ⟨enable, henable, hne⟩ := h.enabled
  refine ⟨⟨enable, ?_, hne⟩, ?_, ?_⟩
  · rw [settingInt_congr (hsame _ (by decide)), henable]
  · rw [settingInt_congr (hsame _ (by decide)), h.count]
  · rw [settingInt_congr (hsame _ (by decide)), h.expire]

/-- The registration before its limit. -/
def beforeLimit (rt : Runtime) (r : RegisterRequest) : Db Unit := do
  if (← SettingService.Cached.getInt rt "stop_register" 0) ≠ 0 then
    Prog.throw (ForbiddenException "当前停止注册")
  else checkEmailPolicy rt r.data.email

/-- The registration after its limit. -/
def afterLimit (rt : Runtime) (fm : Formats) (r : RegisterRequest) (client_ip : Option String) :
    Db String := do
  TurnstileService.verifyIfEnabled rt r.http r.data.recaptcha_data client_ip
  whenever ((← SettingService.Cached.getInt rt "email_verify" 0) ≠ 0)
    (verifyEmailCode rt r.data.email r.data.email_code)
  if ← UserRepository.emailExists r.data.email then Prog.throw (ConflictException "邮箱已注册")
  else
    let invite_user_id ← resolveInviteUserId rt r.data.invite_code
    storeUser fm r.drawn r.data invite_user_id

theorem RegisterRequest.prog_eq (r : RegisterRequest) :
    r.prog rt fm ip = (beforeLimit rt r).bind fun _ =>
      (checkRegisterLimit rt (some ip)).bind fun _ =>
      afterLimit rt fm r (some ip) := by
  unfold prog register beforeLimit afterLimit storeUser
  simp only [Prog.bind_eq, Prog.bind_assoc]
  congr 1
  funext stop
  split <;> rfl

theorem cacheKey_ne_limitKey (key : String) :
    SettingService.Cached.cacheKey key ≠ registerLimitKey ip :=
  append_ne_append 1 (by decide) (by decide) (by decide) _ _

theorem codeKey_ne_limitKey (ip email : String) : emailVerifyCodeKey email ≠ registerLimitKey ip :=
  append_ne_append 1 (by decide) (by decide) (by decide) _ _

section

variable (row : Option RuntimeCacheRow)

theorem seesRow_setting (key : String) :
    CacheOpen (Contract.solo : Contract Unit Tbl) (SeesRow (registerLimitKey ip) row)
      (SettingService.Cached.cacheKey key) := seesRow_open row (cacheKey_ne_limitKey key)

variable (ip) in
theorem seesRow_settings :
    SettingsOpen (Contract.solo : Contract Unit Tbl) (SeesRow (registerLimitKey ip) row) :=
  ⟨seesRow_stable _ _, fun key _ => seesRow_setting row key⟩

variable (rt) (ip) in
theorem steady_beforeLimit (r : RegisterRequest) :
    (Contract.solo : Contract Unit Tbl).Steady (SeesRow (registerLimitKey ip) row)
      (beforeLimit rt r) :=
  .bind (steady_getInt rt (seesRow_stable _ _) (seesRow_setting row _) _) fun _ =>
    .ite (.throw _) (steady_checkEmailPolicy (seesRow_settings ip row) _)

/-- A write to another table. -/
theorem SeesRow.write {key : String} {ws : List (Write Tbl)} {w : Write Tbl}
    (h : SeesRow key row s ws) (hw : w.table ≠ .runtime_cache) : SeesRow key row s (ws ++ [w]) :=
  h.append fun heq => hw (congrArg Sigma.fst heq)

variable (rt) (fm) (ip) in
/-- The rest of the registration leaves the counter alone. -/
theorem steady_afterLimit (r : RegisterRequest) (client_ip : Option String) :
    (Contract.solo : Contract Unit Tbl).Steady (SeesRow (registerLimitKey ip) row)
      (afterLimit rt fm r client_ip) := by
  have hstable := seesRow_stable (registerLimitKey ip) row
  have hsettings := seesRow_settings ip row
  have hcode := seesRow_open row (codeKey_ne_limitKey ip r.data.email)
  refine .bind (steady_verifyIfEnabled hsettings _ _ _) fun _ => ?_
  refine .bind (steady_getInt rt hstable (seesRow_setting row _) _) fun email_verify => ?_
  refine .bind (steady_whenever (steady_verifyEmailCode hsettings hcode.del _)) fun _ => ?_
  refine .bind (steady_emailExists hstable _) fun taken => .ite (.throw _) ?_
  refine .bind (steady_resolveInviteUserId hsettings (seesRow_setting row _)
    (fun invite s ws _ hj => hj.write row (show Tbl.invite_code ≠ .runtime_cache by decide)) _)
    fun invite_user_id => ?_
  exact steady_storeUser hstable fm r.drawn r.data hcode.del (fun user _ s ws _ hj =>
    hj.write row (show Tbl.users ≠ .runtime_cache by decide)) invite_user_id

end

/-- The limit counts the registration, and lets it go on within the count. -/
theorem checkRegisterLimit_ok (hip : ip ≠ "") (h : CacheOnly ss) {count expire : Int}
    (hon : LimitOn rt count expire s ss) {ss' : Session Tbl}
    (hrun : (checkRegisterLimit rt (some ip)).run s ss = (.ok (), ss')) :
    let e := counted rt s.now (some expire) (liveEntry s (s.view ss) (registerLimitKey ip))
    RuntimeCache.toBigint rt e.value ≤ count ∧
      stored (s.view ss') (registerLimitKey ip) = some e := by
  intro e
  have hstable := fun row => seesRow_stable (registerLimitKey ip) row
  have hleft : ∀ key default (ss : Session Tbl),
      stored (s.view ((SettingService.Cached.getInt rt key default).run s ss).2)
        (registerLimitKey ip) = stored (s.view ss) (registerLimitKey ip) :=
    fun key default ss => stored_run s ss fun row =>
      steady_getInt rt (hstable row) (seesRow_setting row key) default
  obtain ⟨enable, henable, hne⟩ := hon.enabled
  -- the settings of the limit
  obtain ⟨ss₁, hrun₁, honly₁, hsame₁⟩ :=
    run_getInt_alone rt (s := s) h "register_limit_by_ip_enable" 0
  have hleft₁ := hleft "register_limit_by_ip_enable" 0 ss
  rw [hrun₁] at hleft₁
  obtain ⟨ss₂, hrun₂, honly₂, hsame₂⟩ :=
    run_getInt_alone rt (s := s) honly₁ "register_limit_count" 3
  have hleft₂ := hleft "register_limit_count" 3 ss₁
  rw [hrun₂] at hleft₂
  obtain ⟨ss₃, hrun₃, honly₃, hsame₃⟩ :=
    run_getInt_alone rt (s := s) honly₂ "register_limit_expire" 60
  have hleft₃ := hleft "register_limit_expire" 60 ss₂
  rw [hrun₃] at hleft₃
  rw [henable] at hrun₁
  rw [settingInt_congr (hsame₁ _ fun heq => absurd (cacheKey_injective heq) (by decide)),
    hon.count] at hrun₂
  rw [settingInt_congr ((hsame₂ _ fun heq => absurd (cacheKey_injective heq) (by decide)).trans
    (hsame₁ _ fun heq => absurd (cacheKey_injective heq) (by decide))), hon.expire] at hrun₃
  have hentry : liveEntry s (s.view ss₃) (registerLimitKey ip)
      = liveEntry s (s.view ss) (registerLimitKey ip) := by
    unfold liveEntry
    rw [TtlMap.purge_apply, hleft₃, hleft₂, hleft₁, ← TtlMap.purge_apply]
  -- the count
  have hgiven : (some ip).filter (fun ip => decide (ip ≠ "")) = some ip := by simp [hip]
  unfold checkRegisterLimit at hrun
  rw [hgiven] at hrun
  dsimp only at hrun
  rw [Prog.bind_eq, Prog.run_bind, hrun₁] at hrun
  dsimp only at hrun
  rw [if_neg hne, Prog.bind_eq, Prog.run_bind, hrun₂] at hrun
  dsimp only at hrun
  rw [Prog.bind_eq, Prog.run_bind, hrun₃] at hrun
  dsimp only at hrun
  obtain ⟨ss₄, hrun₄, hstored⟩ := run_incr rt s ss₃ (registerLimitKey ip) (some expire)
  have hcounted : counted rt s.now (some expire)
      ((stored (s.view ss₃)).purge s.now (registerLimitKey ip)) = e :=
    congrArg (counted rt s.now (some expire)) hentry
  rw [hcounted] at hrun₄ hstored
  rw [Prog.bind_eq, Prog.run_bind, hrun₄] at hrun
  split at hrun
  · next hok =>
    split at hok
    · obtain ⟨hvalue, hss⟩ := Prod.mk.inj hok
      cases hvalue
      cases hss
      split at hrun
      · cases hrun
      · next hle =>
        cases hrun
        refine ⟨by omega, ?_⟩
        rw [hstored, Function.update_self]
    · cases hok
  · cases hrun

variable (ip) in
/-- What comes before the limit leaves its counter and its settings. -/
theorem limitOn_before {r : RegisterRequest} {count expire : Int}
    (hon : LimitOn rt count expire s Session.fresh)
    (hrun : (beforeLimit rt r).run s Session.fresh = (.ok (), ss)) :
    stored (s.view ss) (registerLimitKey ip) = stored s.db (registerLimitKey ip) ∧
      CacheOnly ss ∧ LimitOn rt count expire s ss := by
  have hleft := stored_run s Session.fresh
    (fun row => steady_beforeLimit rt ip row r)
  rw [hrun, State.view_fresh] at hleft
  obtain ⟨ss₁, hrun₁, honly₁, hsame₁⟩ :=
    run_getInt_alone rt (s := s) CacheOnly.fresh "stop_register" 0
  obtain ⟨ss₂, hrun₂, h₂⟩ :=
    decides_checkEmailPolicy rt r.data.email ss₁ (ReadAside.refl (s := s) honly₁)
  unfold beforeLimit at hrun
  rw [Prog.bind_eq, Prog.run_bind, hrun₁] at hrun
  split at hrun
  · next hok =>
    obtain ⟨-, rfl⟩ := Prod.mk.inj hok
    split at hrun
    · cases hrun
    · rw [hrun₂] at hrun
      obtain ⟨-, rfl⟩ := Prod.mk.inj hrun
      refine ⟨hleft, h₂.only, hon.congr fun key hkey => ?_⟩
      rw [List.mem_cons, not_or] at hkey
      exact (h₂.unread key hkey.2).trans (hsame₁ _ fun heq => hkey.1 (cacheKey_injective heq))
  · cases hrun

/-- **A registration that succeeds** has been counted, and within the limit. -/
theorem RegisterRequest.counted_of_ok (hip : ip ≠ "") {r : RegisterRequest} {count expire : Int}
    (hon : LimitOn rt count expire s Session.fresh) {token : String}
    (hrun : (r.prog rt fm ip).run s Session.fresh = (.ok token, ss)) :
    let e := counted rt s.now (some expire) (liveEntry s s.db (registerLimitKey ip))
    RuntimeCache.toBigint rt e.value ≤ count ∧
      stored (s.view ss) (registerLimitKey ip) = some e := by
  intro e
  rw [r.prog_eq] at hrun
  obtain ⟨_, ss₂, hbefore, hrun⟩ := Prog.run_bind_ok hrun
  obtain ⟨_, ss₃, hlimit, hafter⟩ := Prog.run_bind_ok hrun
  -- before the limit
  obtain ⟨hleft₂, honly₂, hon₂⟩ := limitOn_before ip hon hbefore
  have hentry : liveEntry s (s.view ss₂) (registerLimitKey ip)
      = liveEntry s s.db (registerLimitKey ip) := by
    unfold liveEntry
    rw [TtlMap.purge_apply, hleft₂, ← TtlMap.purge_apply]
  obtain ⟨hcount, hstored⟩ := checkRegisterLimit_ok hip honly₂ hon₂ hlimit
  rw [hentry] at hcount hstored
  refine ⟨hcount, ?_⟩
  -- after it
  have hleft := stored_run s ss₃ (fun row => steady_afterLimit rt ip fm row r (some ip))
  rw [hafter] at hleft
  rw [hleft, hstored]

/-- The registrations that have succeeded. -/
def succeeded (rt : Runtime) (fm : Formats) (ip : String)
    (log : List (Visit Tbl RegisterRequest)) : Nat := log.countP (succeeds rt fm ip)

/-- The registrations are within the limit, and the counter shows how many succeeded. -/
structure RegistrationsCounted (rt : Runtime) (fm : Formats) (ip : String) (count expire : Int)
    (log : List (Visit Tbl RegisterRequest)) (s : State Tbl) : Prop where
  few : (succeeded rt fm ip log : Int) ≤ max 0 count
  counter : (succeeded rt fm ip log = 0 ∧ liveEntry s s.db (registerLimitKey ip) = none) ∨
    ∃ first ∈ log, succeeds rt fm ip first = true ∧
      StandsAt (registerLimitKey ip) (succeeded rt fm ip log) (first.before.now + expire) s

/-- **One more registration.** -/
theorem RegistrationsCounted.request (hip : ip ≠ "") {log : List (Visit Tbl RegisterRequest)}
    {r : RegisterRequest} {count expire : Int}
    (h : RegistrationsCounted rt fm ip count expire log s)
    (hon : LimitOn rt count expire s Session.fresh)
    (hwindow : ∀ first ∈ ⟨s, r⟩ :: log, succeeds rt fm ip first = true →
      s.now < first.before.now + expire) :
    RegistrationsCounted rt fm ip count expire (⟨s, r⟩ :: log) ((r.prog rt fm ip).serve s) := by
  rcases hrun : (r.prog rt fm ip).run s Session.fresh with ⟨e | token, ss⟩
  · -- a registration that raises takes its count back
    have hfails : succeeds rt fm ip ⟨s, r⟩ = false := by
      unfold succeeds
      rw [hrun]
      rfl
    have hsame : succeeded rt fm ip (⟨s, r⟩ :: log) = succeeded rt fm ip log :=
      List.countP_cons_of_neg (by rw [hfails]; exact Bool.false_ne_true)
    rw [Prog.serve_error (congrArg Prod.fst hrun)]
    refine ⟨by rw [hsame]; exact h.few, ?_⟩
    rw [hsame]
    refine h.counter.imp_right fun ⟨first, hfirst, hok, hstands⟩ => ?_
    exact ⟨first, List.mem_cons_of_mem _ hfirst, hok, hstands⟩
  · have hok : succeeds rt fm ip ⟨s, r⟩ = true := by
      unfold succeeds
      rw [hrun]
      rfl
    have hnext : succeeded rt fm ip (⟨s, r⟩ :: log) = succeeded rt fm ip log + 1 :=
      List.countP_cons_of_pos hok
    have hpositive : s.now < s.now + expire := hwindow ⟨s, r⟩ List.mem_cons_self hok
    obtain ⟨hle, hstored⟩ := RegisterRequest.counted_of_ok hip hon hrun
    have halive : (counted rt s.now (some expire)
        (liveEntry s s.db (registerLimitKey ip))).alive s.now = true :=
      counted_alive rt (by omega) fun e => liveEntry_alive
    have hlive := liveEntry_of_stored hstored halive
    rw [Prog.serve_ok hrun]
    rcases h.counter with ⟨hzero, hnone⟩ | ⟨first, hfirst, hopened, hstands⟩
    · -- the first registration that succeeds opens the window
      rw [hnone] at hle hlive
      refine ⟨?_, Or.inr ⟨⟨s, r⟩, List.mem_cons_self, hok, fun _ => ?_⟩⟩
      · rw [hnext, hzero]
        have hone : (1 : Int) ≤ count := hle
        omega
      · rw [hnext, hzero]
        refine hlive.trans ?_
        unfold counted RuntimeCache.expiresAt
        dsimp only
        rw [if_neg (by omega)]
        rfl
    · have hnow := hwindow first (List.mem_cons_of_mem _ hfirst) hopened
      rw [hstands.counted hnow] at hle hlive
      refine ⟨?_, Or.inr ⟨first, List.mem_cons_of_mem _ hfirst, hopened, fun _ => ?_⟩⟩
      · rw [hnext]
        exact le_max_of_le_right hle
      · rw [hnext]
        exact hlive

/-- **The limit of registrations holds** for the requests within `register_limit_expire` seconds
    of the first one that succeeds. -/
theorem register_limit_holds {log : List (Visit Tbl RegisterRequest)} {s₀ : State Tbl}
    {count expire : Int} (hip : ip ≠ "")
    (hopen : liveEntry s₀ s₀.db (registerLimitKey ip) = none)
    (hon : ∀ e ∈ log, LimitOn rt count expire e.before Session.fresh)
    (hwindow : ∀ e ∈ log, ∀ first ∈ log, succeeds rt fm ip first = true →
      e.before.now < first.before.now + expire)
    (hrun : Serial (RegisterRequest.prog rt fm ip) (LeavesCounter (registerLimitKey ip)) s₀ log s) :
    (succeeded rt fm ip log : Int) ≤ max 0 count := by
  refine (hrun.invariant (I := RegistrationsCounted rt fm ip count expire)
    (Q := fun log => (∀ e ∈ log, LimitOn rt count expire e.before Session.fresh) ∧
      ∀ e ∈ log, ∀ first ∈ log, succeeds rt fm ip first = true →
        e.before.now < first.before.now + expire) ?_ ?_ ?_ ?_ ⟨hon, hwindow⟩).few
  · intro e log ⟨hon, hwindow⟩
    exact ⟨fun e he => hon e (List.mem_cons_of_mem _ he), fun e he first hfirst =>
      hwindow e (List.mem_cons_of_mem _ he) first (List.mem_cons_of_mem _ hfirst)⟩
  · exact ⟨le_max_left _ _, Or.inl ⟨rfl, hopen⟩⟩
  · intro log s r ⟨hon, hwindow⟩ h
    exact h.request hip (hon ⟨s, r⟩ List.mem_cons_self) (hwindow ⟨s, r⟩ List.mem_cons_self)
  · intro log s s' hwait h
    refine ⟨h.few, ?_⟩
    rcases h.counter with ⟨hzero, hnone⟩ | ⟨first, hfirst, hok, hstands⟩
    · exact Or.inl ⟨hzero, hwait.none hnone⟩
    · exact Or.inr ⟨first, hfirst, hok, hstands.wait hwait⟩

/-- The limit is on, for one registration in the period that the settings have by default. -/
def limitedToOne : State Tbl where
  db := fun
    | .setting => ⟨[{ id := 1, key := "register_limit_by_ip_enable", value := "1" },
                    { id := 2, key := "register_limit_count", value := "1" }], by decide⟩
    | _ => Table.empty
  now := 1700000000

/-- A registration of an address. -/
def registering (id : Int) (email : String) : RegisterRequest where
  http := fun _ _ _ => none
  drawn := ⟨id, fun password => password, email, email⟩
  data := { email := email, password := "password" }

theorem limitedToOne_on : LimitOn Utc.bare 1 60 limitedToOne Session.fresh :=
  ⟨⟨1, by decide +kernel, by decide⟩, by decide +kernel, by decide +kernel⟩

/-- The state some time after the first registration. -/
def secondsLater (seconds : Int) : State Tbl where
  db := (((registering 1 "a@example.com").prog Utc.bare plainFormats "192.0.2.1").serve
    limitedToOne).db
  now := limitedToOne.now + seconds

/-- A second registration half a minute after the first one. -/
def secondWithin : List (Visit Tbl RegisterRequest) :=
  [⟨secondsLater 30, registering 2 "b@example.com"⟩, ⟨limitedToOne, registering 1 "a@example.com"⟩]

/-- It is refused. -/
theorem register_limit_holds_once : ∃ s,
    Serial (RegisterRequest.prog Utc.bare plainFormats "192.0.2.1")
      (LeavesCounter (registerLimitKey "192.0.2.1")) limitedToOne secondWithin s ∧
        (((registering 2 "b@example.com").prog Utc.bare plainFormats "192.0.2.1").run
          (secondsLater 30) Session.fresh).1 =
            .error (BadRequestException "该 IP 注册过于频繁") ∧
        succeeded Utc.bare plainFormats "192.0.2.1" secondWithin = 1 ∧
          (succeeded Utc.bare plainFormats "192.0.2.1" secondWithin : Int) ≤ max 0 1 := by
  have hrun : Serial (RegisterRequest.prog Utc.bare plainFormats "192.0.2.1")
      (LeavesCounter (registerLimitKey "192.0.2.1")) limitedToOne secondWithin _ :=
    .request _ (.wait (.request _ .start) ⟨by decide +kernel, rfl⟩)
  have hon : ∀ e ∈ secondWithin, LimitOn Utc.bare 1 60 e.before Session.fresh := by
    intro e he
    rcases List.mem_cons.mp he with rfl | he
    · exact ⟨⟨1, by decide +kernel, by decide⟩, by decide +kernel, by decide +kernel⟩
    · rw [List.mem_singleton.mp he]
      exact limitedToOne_on
  refine ⟨_, hrun, by decide +kernel, by decide +kernel,
    register_limit_holds (by decide) rfl hon ?_ hrun⟩
  have hnow : ∀ e ∈ secondWithin, limitedToOne.now ≤ e.before.now ∧
      e.before.now < limitedToOne.now + 60 := by decide
  intro e he first hfirst _
  have := hnow e he
  have := hnow first hfirst
  omega

/-- **A second registration succeeds a minute after the first one**, where one is allowed in the
    default period of sixty, which the settings declare in minutes. -/
theorem second_registration_succeeds : ∃ log s,
    Serial (RegisterRequest.prog Utc.bare plainFormats "192.0.2.1")
      (LeavesCounter (registerLimitKey "192.0.2.1")) limitedToOne log s ∧
        liveEntry limitedToOne limitedToOne.db (registerLimitKey "192.0.2.1") = none ∧
        (∀ e ∈ log, e.before.now < limitedToOne.now + 60 * 60 ∧
          LimitOn Utc.bare 1 60 e.before Session.fresh) ∧
          succeeded Utc.bare plainFormats "192.0.2.1" log = 2 := by
  have hwait : LeavesCounter (registerLimitKey "192.0.2.1")
      (((registering 1 "a@example.com").prog Utc.bare plainFormats "192.0.2.1").serve
        limitedToOne) (secondsLater 60) := ⟨by decide +kernel, rfl⟩
  refine ⟨[⟨secondsLater 60, registering 2 "b@example.com"⟩,
    ⟨limitedToOne, registering 1 "a@example.com"⟩], _,
    .request _ (.wait (.request _ .start) hwait), rfl, ?_, by decide +kernel⟩
  intro e he
  rcases List.mem_cons.mp he with rfl | he
  · exact ⟨by decide +kernel, ⟨1, by decide +kernel, by decide⟩, by decide +kernel,
      by decide +kernel⟩
  · rw [List.mem_singleton.mp he]
    exact ⟨by decide +kernel, limitedToOne_on⟩

end PyBoard
