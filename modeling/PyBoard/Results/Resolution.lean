/-
  PyBoard.Results.Resolution — which subscription tokens are resolved or refused.

  A token is resolved to a user or refused as unauthorized, except where a part of it reaches
  something that does not take it: the database takes no zero character and no identifier
  beyond an INTEGER, and `compare_digest` no text beyond ASCII.

  Main result: `resolveSubscribeUser_settles_iff`.
-/
import PyBoard.Controllers.Subscribe
import PyBoard.Python.Utc
import PyBoard.Specs.Alone

namespace PyBoard.SubscribeService

open Relational

variable {rt : Runtime} {fm : Formats} {takes : String → Bool} {s : State Tbl} {ss : Session Tbl}

/-- A value, or the refusal that the service documents. -/
def Settles {α : Type} (r : Except PyExc α) : Prop :=
  (∃ a, r = .ok a) ∨ ∃ detail, r = .error (UnauthorizedException detail)

theorem settles_ok {α : Type} (a : α) : Settles (.ok a : Except PyExc α) := .inl ⟨a, rfl⟩

theorem settles_refusal {α : Type} (detail : String) :
    Settles (.error (UnauthorizedException detail) : Except PyExc α) := .inr ⟨detail, rfl⟩

theorem Settles.error {α β : Type} {e : PyExc} (h : Settles (.error e : Except PyExc α)) :
    Settles (.error e : Except PyExc β) := by
  obtain ⟨a, ha⟩ | ⟨detail, he⟩ := h
  · cases ha
  · exact .inr ⟨detail, congrArg Except.error (Except.error.inj he)⟩

/-- Every other exception of the model is no refusal. -/
theorem not_settles_other {α : Type} {name : String} :
    ¬Settles (.error (.other name) : Except PyExc α) := by
  rintro (⟨a, ha⟩ | ⟨detail, he⟩)
  · cases ha
  · cases he

/-! ## §1. The conditions. -/

/-- The UNIQUE constraint of `users.token`. -/
def UniqueUserToken (s : State Tbl) : Prop :=
  ∀ a ∈ (s.db .users).rows, ∀ b ∈ (s.db .users).rows, a.token = b.token → a = b

/-- `hexdigest()` is written in ASCII. -/
def AsciiHmac (fm : Formats) : Prop :=
  ∀ key counter, (fm.hmac_sha1_hexdigest key counter).toList.all (·.toNat < 128) = true

/-- A TOTP token that has no copy can be checked: what it spells is taken by the query, by
    the comparison and, if it is the digest of the window, by the cache. -/
def TotpCheckable (rt : Runtime) (fm : Formats) (takes : String → Bool) (s : State Tbl)
    (token : String) : Prop :=
  ∀ user_id digest, decodeTotpToken rt token = .ok (user_id, digest) →
    (-2 ^ 31 ≤ user_id ∧ user_id < 2 ^ 31) ∧
    ∀ user, (s.db .users).get? user_id = some user → ∃ minutes expected,
      settingInt rt s Session.fresh "show_subscribe_expire" 5 = .ok minutes ∧
      totpDigest fm user.token (timestepOf minutes) s.now = .ok expected ∧
      digest.toList.all (·.toNat < 128) = true ∧
      (expected = digest → RuntimeCache.inBigint (s.now + timestepOf minutes) = true ∧
        takes (totpKey token) = true)

/-- What a token has to be where it is sent to. -/
def Resolvable (rt : Runtime) (fm : Formats) (takes : String → Bool) (s : State Tbl)
    (token : PyStr) : Prop :=
  token = [] ∨ ∃ method text,
    settingInt rt s Session.fresh "show_subscribe_method" 0 = .ok method ∧
    textParam none (.str token) = .ok text ∧
    (method = 2 → liveDocument s Session.fresh (totpKey text) = none →
      TotpCheckable rt fm takes s text)

/-! ## §2. The steps. -/

theorem settingInt_settles {key : String} {default : Int} :
    Settles (settingInt rt s ss key default) ↔ ∃ i, settingInt rt s ss key default = .ok i := by
  constructor
  · rintro (h | ⟨detail, h⟩)
    · exact h
    · unfold settingInt settingText storedSetting at h
      split at h
      · next e he =>
        split at he
        · cases he
        · split at he <;> cases he
          cases h
      · cases h
      · split at h <;> cases h
  · exact Or.inl

/-- The user of a token of its own is looked up. -/
theorem lookup_settles (h : CacheOnly ss) (hunique : UniqueUserToken s) (user_token : String) :
    Settles ((do
      match ← UserRepository.getByToken user_token with
      | none => Prog.throw (UnauthorizedException "token is error")
      | some user => return user : Db User).run s ss).1 := by
  have hrows : s.view ss .users = s.db .users := h.view (by decide)
  unfold UserRepository.getByToken
  rw [Prog.bind_eq, Prog.bind_eq, Prog.bind_assoc, Prog.run_select_bind, hrows]
  by_cases hfound : ∃ u ∈ (s.db .users).rows, u.token = user_token
  · obtain ⟨u, hu, htoken⟩ := hfound
    have hone : (s.db .users).rows.filter
        (fun x : User => decide (x.token = user_token)) = [u] := by
      refine Table.filter_eq_singleton _ hu (decide_eq_true htoken) fun x hx hxtoken => ?_
      exact hunique x hx u hu ((of_decide_eq_true hxtoken).trans htoken.symm)
    rw [hone]
    exact settles_ok u
  · have hnone : (s.db .users).rows.filter (fun x : User => decide (x.token = user_token)) = [] :=
      List.filter_eq_nil_iff.mpr fun x hx hxtoken => hfound ⟨x, hx, of_decide_eq_true hxtoken⟩
    rw [hnone]
    exact settles_refusal _

variable (rt) in
/-- A one-time token is taken, or refused. -/
theorem run_takeOneTimeToken (h : CacheOnly ss) (token : String) :
    ∃ r ss', (takeOneTimeToken rt token).run s ss = (r, ss') ∧ CacheOnly ss' ∧ Settles r := by
  obtain ⟨ss₁, hget, h₁, -⟩ := run_get_alone (s := s) h (otpnKey token)
  unfold takeOneTimeToken
  rw [Prog.bind_eq, Prog.run_bind, hget]
  dsimp only
  cases liveDocument s ss (otpnKey token) with
  | none => exact ⟨_, ss₁, rfl, h₁, settles_refusal _⟩
  | some raw =>
      obtain ⟨ss₂, n₂, hdel₂, h₂, -⟩ := run_delete_alone (s := s) h₁ (otpnKey token)
      obtain ⟨ss₃, n₃, hdel₃, h₃, -⟩ := run_delete_alone (s := s) h₂ (otpKey (rt.str raw))
      refine ⟨.ok (rt.str raw), ss₃, ?_, h₃, settles_ok _⟩
      dsimp only
      rw [Prog.bind_eq, Prog.run_bind, hdel₂]
      dsimp only
      rw [Prog.bind_eq, Prog.run_bind, hdel₃]
      rfl

variable (takes) in
/-- The copy of a token that was accepted is stored where it can be. -/
theorem run_cacheSet_sent (h : CacheOnly ss) (key value : String) (ex : Int) :
    ∃ r ss', (Sent.cacheSet takes key value ex).run s ss = (r, ss') ∧ CacheOnly ss' ∧
      ((RuntimeCache.inBigint (s.now + ex) = true ∧ takes key = true) → r = .ok ()) ∧
      (Settles r → RuntimeCache.inBigint (s.now + ex) = true ∧ takes key = true) := by
  unfold Sent.cacheSet time
  rw [Prog.bind_eq, Prog.run_clock_bind]
  by_cases hfits : RuntimeCache.inBigint (s.now + ex) = true ∧ takes key = true
  · obtain ⟨ss', hset, h', -⟩ := run_set_alone (s := s) h key (.str value) (some ex)
    refine ⟨.ok (), ss', ?_, h', fun _ => rfl, fun _ => hfits⟩
    rw [if_pos hfits, Prog.bind_eq, Prog.run_bind, hset]
    rfl
  · refine ⟨.error (.other "DBAPIError"), ss, ?_, h, fun hf => absurd hf hfits,
      fun hs => absurd hs not_settles_other⟩
    rw [if_neg hfits]
    rfl

/-- The comparison of two digests is made where both are ASCII. -/
theorem compareDigest_settles (hhmac : AsciiHmac fm) {user_token : String} {timestep now : Int}
    {expected : String} (hdigest : totpDigest fm user_token timestep now = .ok expected)
    (digest : String) :
    (digest.toList.all (·.toNat < 128) = true ∧
      compareDigest expected digest = .ok (decide (expected = digest))) ∨
    (¬digest.toList.all (·.toNat < 128) = true ∧
      compareDigest expected digest = .error (.other "TypeError")) := by
  have hexpected : expected.toList.all (·.toNat < 128) = true := by
    unfold totpDigest at hdigest
    obtain ⟨counter_bytes, -, h⟩ := except_bind_ok hdigest
    rw [← Except.ok.inj h]
    exact hhmac _ _
  unfold compareDigest
  by_cases hascii : digest.toList.all (·.toNat < 128) = true
  · exact .inl ⟨hascii, if_pos ⟨hexpected, hascii⟩⟩
  · exact .inr ⟨hascii, if_neg fun h => hascii h.2⟩

theorem totpDigest_settles {user_token : String} {timestep now : Int} :
    Settles (totpDigest fm user_token timestep now) ↔
      ∃ expected, totpDigest fm user_token timestep now = .ok expected := by
  constructor
  · rintro (h | ⟨detail, h⟩)
    · exact h
    · unfold totpDigest counterBytes at h
      split at h <;> cases h
  · exact Or.inl

variable (rt takes)

/-- What is left to do with the digest that a token spells for a user. -/
theorem run_checkDigest (hhmac : AsciiHmac fm) (h : CacheOnly ss)
    (hexpire : SameDocument s Session.fresh ss
      (SettingService.Cached.cacheKey "show_subscribe_expire")) (token digest : String)
    (user : User) :
    ∃ r ss', ((do
      let expire_minutes ← SettingService.Cached.getInt rt "show_subscribe_expire" 5
      let timestep := timestepOf expire_minutes
      let now ← time
      let expected ← liftExcept (totpDigest fm (User.token user) timestep now)
      if ← liftExcept (compareDigest expected digest) then
        Sent.cacheSet takes (totpKey token) (User.token user) timestep
        return User.token user
      else Prog.throw (UnauthorizedException "token is error") : Db String).run s ss) = (r, ss') ∧
      CacheOnly ss' ∧ (Settles r ↔ ∃ minutes expected,
        settingInt rt s Session.fresh "show_subscribe_expire" 5 = .ok minutes ∧
        totpDigest fm user.token (timestepOf minutes) s.now = .ok expected ∧
        digest.toList.all (·.toNat < 128) = true ∧
        (expected = digest → RuntimeCache.inBigint (s.now + timestepOf minutes) = true ∧
          takes (totpKey token) = true)) := by
  obtain ⟨ss₁, hint, h₁, -⟩ := run_getInt_alone rt (s := s) h "show_subscribe_expire" 5
  rw [settingInt_congr hexpire] at hint
  rw [Prog.bind_eq, Prog.run_bind, hint]
  cases hminutes : settingInt rt s Session.fresh "show_subscribe_expire" 5 with
  | error e =>
      refine ⟨_, ss₁, rfl, h₁, iff_of_false (fun hs => ?_) ?_⟩
      · have hsettles : Settles (settingInt rt s Session.fresh "show_subscribe_expire" 5) := by
          rw [hminutes]
          exact hs.error
        obtain ⟨i, hi⟩ := settingInt_settles.mp hsettles
        rw [hminutes] at hi
        cases hi
      · rintro ⟨_, _, hok, -⟩
        cases hok
  | ok minutes =>
      dsimp only
      unfold time
      rw [Prog.bind_eq, Prog.run_clock_bind]
      cases hexpected : totpDigest fm user.token (timestepOf minutes) s.now with
      | error e =>
          refine ⟨_, ss₁, rfl, h₁, iff_of_false (fun hs => ?_) ?_⟩
          · have hsettles : Settles (totpDigest fm user.token (timestepOf minutes) s.now) := by
              rw [hexpected]
              exact hs.error
            obtain ⟨_, hok⟩ := totpDigest_settles.mp hsettles
            rw [hexpected] at hok
            cases hok
          · rintro ⟨minutes', expected, hm, hok, -⟩
            rw [← Except.ok.inj hm, hexpected] at hok
            cases hok
      | ok expected =>
          -- the window has one digest, so the condition is about that one
          have hcond : ∀ P : Int → String → Prop, (∃ minutes' expected',
              Except.ok (ε := PyExc) minutes = .ok minutes' ∧
              totpDigest fm user.token (timestepOf minutes') s.now = .ok expected' ∧
              P minutes' expected') ↔ P minutes expected := by
            intro P
            constructor
            · rintro ⟨_, expected', hm, hok, hP⟩
              cases hm
              rw [hexpected] at hok
              rwa [Except.ok.inj hok]
            · exact fun hP => ⟨minutes, expected, rfl, hexpected, hP⟩
          rw [hcond]
          dsimp only [liftExcept, Prog.bind_eq, Prog.pure_eq, Prog.bind]
          obtain ⟨hascii, hcompare⟩ | ⟨hascii, hcompare⟩ :=
            compareDigest_settles hhmac hexpected digest
          · rw [hcompare]
            by_cases hsame : expected = digest
            · obtain ⟨r, ss₂, hset, h₂, hdone, hneeds⟩ := run_cacheSet_sent takes (s := s)
                h₁ (totpKey token) user.token (timestepOf minutes)
              dsimp only [liftExcept, Prog.bind_eq, Prog.pure_eq, Prog.bind]
              rw [if_pos (decide_eq_true hsame), Prog.run_bind, hset]
              cases r with
              | error e =>
                  refine ⟨_, ss₂, rfl, h₂, iff_of_false (fun hs => ?_) fun hc => ?_⟩
                  · have := hdone (hneeds hs.error)
                    cases this
                  · have := hdone (hc.2 hsame)
                    cases this
              | ok _ =>
                  exact ⟨_, ss₂, rfl, h₂, iff_of_true (settles_ok _)
                    ⟨hascii, fun _ => hneeds (settles_ok _)⟩⟩
            · dsimp only [liftExcept, Prog.bind_eq, Prog.pure_eq, Prog.bind]
              rw [if_neg (by simpa using hsame)]
              exact ⟨_, ss₁, rfl, h₁, iff_of_true (settles_refusal _)
                ⟨hascii, fun heq => absurd heq hsame⟩⟩
          · rw [hcompare]
            exact ⟨_, ss₁, rfl, h₁, iff_of_false not_settles_other fun hc => hascii hc.1⟩

/-- **A TOTP token** is checked exactly if it can be. -/
theorem run_checkTotpToken (hhmac : AsciiHmac fm) (h : CacheOnly ss)
    (hexpire : SameDocument s Session.fresh ss
      (SettingService.Cached.cacheKey "show_subscribe_expire")) (token : String) :
    ∃ r ss', (Sent.checkTotpToken rt fm takes token).run s ss = (r, ss') ∧ CacheOnly ss' ∧
      (Settles r ↔ (liveDocument s ss (totpKey token) = none →
        TotpCheckable rt fm takes s token)) := by
  obtain ⟨ss₁, hget, h₁, hsame₁⟩ := run_get_alone (s := s) h (totpKey token)
  unfold Sent.checkTotpToken
  rw [Prog.bind_eq, Prog.run_bind, hget]
  dsimp only
  cases liveDocument s ss (totpKey token) with
  | some cached_token =>
      refine ⟨_, ss₁, rfl, h₁, iff_of_true (settles_ok _) fun hnone => ?_⟩
      cases hnone
  | none =>
      rw [imp_iff_right rfl]
      unfold TotpCheckable
      cases hdecode : decodeTotpToken rt token with
      | error e =>
          refine ⟨_, ss₁, rfl, h₁, iff_of_true ?_ fun _ _ hok => ?_⟩
          · unfold decodeTotpToken at hdecode
            dsimp only at hdecode
            split at hdecode
            · rw [← Except.error.inj hdecode]
              exact settles_refusal _
            · split at hdecode
              · rw [← Except.error.inj hdecode]
                exact settles_refusal _
              · cases hdecode
          · cases hok
      | ok parts =>
          obtain ⟨user_id, digest⟩ := parts
          have hparts : ∀ P : Int → String → Prop, (∀ user_id' digest',
              Except.ok (ε := PyExc) (user_id, digest) = .ok (user_id', digest') →
                P user_id' digest') ↔ P user_id digest :=
            fun P => ⟨fun hP => hP _ _ rfl, fun hP _ _ heq => by cases heq; exact hP⟩
          rw [hparts]
          dsimp only [liftExcept, Prog.bind_eq, Prog.pure_eq, Prog.bind]
          unfold Sent.getById
          by_cases hrange : -2 ^ 31 ≤ user_id ∧ user_id < 2 ^ 31
          · have husers : s.view ss₁ .users = s.db .users := h₁.view (by decide)
            have hfind : ∀ f : Option User → Db String,
                ((UserRepository.getById user_id).bind f).run s ss₁ =
                  (f ((s.db .users).get? user_id)).run s ss₁ := by
              intro f
              rw [← husers]
              rfl
            rw [if_pos hrange, hfind, and_iff_right hrange]
            cases (s.db .users).get? user_id with
            | none =>
                refine ⟨_, ss₁, rfl, h₁, iff_of_true (settles_refusal _) fun _ hnone => ?_⟩
                cases hnone
            | some user =>
                obtain ⟨r, ss₂, hrun, h₂, hiff⟩ := run_checkDigest rt takes hhmac h₁
                  ((hsame₁ _).trans hexpire) token digest user
                refine ⟨r, ss₂, hrun, h₂, hiff.trans ⟨fun hc _ heq => ?_, fun hc => hc user rfl⟩⟩
                cases heq
                exact hc
          · rw [if_neg hrange]
            exact ⟨_, ss₁, rfl, h₁, iff_of_false not_settles_other fun hc => hrange hc.1⟩

/-! ## §3. The whole. -/

variable {rt takes}

theorem cacheKey_ne_totpKey (key token : String) :
    totpKey token ≠ SettingService.Cached.cacheKey key :=
  append_ne_append 4 (by decide) (by decide) (by decide) token key

/-- **Which tokens are resolved or refused**: those whose parts are taken where they are sent
    to. -/
theorem resolveSubscribeUser_settles_iff (hhmac : AsciiHmac fm) (hunique : UniqueUserToken s)
    (token : PyStr) :
    Settles ((Sent.resolveSubscribeUser rt fm takes token).run s Session.fresh).1 ↔
      Resolvable rt fm takes s token := by
  unfold Sent.resolveSubscribeUser Resolvable
  by_cases hempty : token = []
  · rw [if_pos hempty]
    exact iff_of_true (settles_refusal _) (.inl hempty)
  rw [if_neg hempty, or_iff_right hempty]
  obtain ⟨ss₁, hint, h₁, hsame₁⟩ := run_getInt_alone rt (s := s) .fresh
    "show_subscribe_method" 0
  rw [Prog.bind_eq, Prog.run_bind, hint]
  cases hmethod : settingInt rt s Session.fresh "show_subscribe_method" 0 with
  | error e =>
      refine iff_of_false (fun hs => ?_) ?_
      · have hsettles : Settles (settingInt rt s Session.fresh "show_subscribe_method" 0) := by
          rw [hmethod]
          exact hs.error
        obtain ⟨i, hi⟩ := settingInt_settles.mp hsettles
        rw [hmethod] at hi
        cases hi
      · rintro ⟨_, _, hok, -⟩
        cases hok
  | ok method =>
      dsimp only
      cases htext : textParam none (.str token) with
      | error e =>
          refine iff_of_false ?_ ?_
          · unfold textParam at htext
            dsimp only at htext
            split at htext
            · cases htext
              exact not_settles_other
            · split at htext <;> cases htext
              exact not_settles_other
          · rintro ⟨_, _, -, hok, -⟩
            cases hok
      | ok text =>
          have hcond : ∀ P : Int → String → Prop, (∃ method' text',
              Except.ok (ε := PyExc) method = .ok method' ∧
              Except.ok (ε := PyExc) text = .ok text' ∧ P method' text') ↔ P method text := by
            intro P
            constructor
            · rintro ⟨_, _, hm, ht, hP⟩
              cases hm
              cases ht
              exact hP
            · exact fun hP => ⟨method, text, rfl, rfl, hP⟩
          rw [hcond]
          dsimp only [liftExcept, Prog.bind_eq, Prog.pure_eq, Prog.bind]
          rw [Prog.run_bind]
          obtain ⟨r, ss₂, hrun, h₂, hiff⟩ : ∃ r ss₂,
              (Sent.userTokenOf rt fm takes method text).run s ss₁ = (r, ss₂) ∧ CacheOnly ss₂ ∧
              (Settles r ↔ (method = 2 → liveDocument s Session.fresh (totpKey text) = none →
                TotpCheckable rt fm takes s text)) := by
            unfold Sent.userTokenOf
            by_cases hone : method = 1
            · obtain ⟨r, ss₂, hrun, h₂, hs⟩ := run_takeOneTimeToken rt (s := s) h₁ text
              rw [if_pos hone]
              exact ⟨r, ss₂, hrun, h₂, iff_of_true hs fun htwo => by omega⟩
            rw [if_neg hone]
            by_cases htwo : method = 2
            · have hexpire := hsame₁ (SettingService.Cached.cacheKey "show_subscribe_expire")
                (by decide)
              obtain ⟨r, ss₂, hrun, h₂, hs⟩ := run_checkTotpToken rt takes (s := s)
                hhmac h₁ hexpire text
              rw [hsame₁ _ (cacheKey_ne_totpKey _ _)] at hs
              rw [if_pos htwo]
              exact ⟨r, ss₂, hrun, h₂, hs.trans (imp_iff_right htwo).symm⟩
            · rw [if_neg htwo]
              exact ⟨_, ss₁, rfl, h₁, iff_of_true (settles_ok text) fun h => absurd h htwo⟩
          rw [hrun, ← hiff]
          cases r with
          | error e => exact ⟨Settles.error, Settles.error⟩
          | ok user_token =>
              exact iff_of_true (lookup_settles h₂ hunique user_token) (settles_ok user_token)

/-! A token that spells `1:é`, under method 2. -/

def totpUser : User :=
  { id := 1, email := "a@b.c", password := "x", token := "t", uuid := "u", expired_at := none }

def totpState : State Tbl where
  db := Database.empty.apply [
    .put Tbl.users totpUser,
    .put Tbl.setting ({ id := 1, key := "show_subscribe_method", value := "2" } : Setting)]
  now := 1700000000

theorem totpState_unique : UniqueUserToken totpState := by
  intro a ha b hb _
  rw [List.mem_singleton.mp ha, List.mem_singleton.mp hb]

theorem plainFormats_ascii : AsciiHmac plainFormats := by
  intro key counter
  rfl

/-- `1:é` without its padding. -/
def accentToken : PyStr := PyStr.ofString "MTrDqQ"

theorem resolve_accent_raises :
    ((Sent.resolveSubscribeUser Utc.bare plainFormats (fun _ => true) accentToken).run totpState
      Session.fresh).1 = .error (.other "TypeError") := by
  decide +kernel

theorem resolveSubscribeUser_not_total :
    ¬Settles ((Sent.resolveSubscribeUser Utc.bare plainFormats (fun _ => true) accentToken).run
      totpState Session.fresh).1 := by
  rw [resolve_accent_raises]
  exact not_settles_other

/-- The same token is none that can be resolved. -/
theorem resolveSubscribeUser_settles_iff_accent :
    ¬Resolvable Utc.bare plainFormats (fun _ => true) totpState accentToken := by
  rw [← resolveSubscribeUser_settles_iff plainFormats_ascii totpState_unique, resolve_accent_raises]
  exact not_settles_other

end PyBoard.SubscribeService
