/-
  PyBoard.Results.Tokens — one-time tokens.

  A token is a row of the runtime cache that the request which takes it removes.  The
  request reads the row first and removes it afterwards, so two requests that overlap
  may both have read it.

  Main results:
    * `token_accepted_once` — while requests that handle the same token do not
      overlap, a token is accepted at most as often as it has been handed out.
    * `overlapping_requests_accepted` — two that overlap are both accepted.
-/
import PyBoard.Relational.Apart
import PyBoard.Specs.Steady
import PyBoard.Python.Utc

namespace PyBoard

open Relational SubscribeService SettingService.Cached

variable {rt : Runtime} {fm : Formats}

/-! ## §1. Tokens. -/

/-- A one-time token: of a subscription address, or of a login link. -/
inductive Credential
  | subscription (token : String)
  | login (verify : String)
  deriving DecidableEq

/-- The key of the row that a token is. -/
def Credential.key : Credential → String
  | .subscription token => otpnKey token
  | .login verify => tempTokenKey verify

/-- The token that a request presents. -/
def Request.presents : Request → Option Credential
  | .subscribe token _ _ => some (.subscription token)
  | .token2Login verify _ _ => verify.map .login
  | _ => none

/-- The token that a request draws. -/
def Request.issues : Request → Option Credential
  | .subscribe _ _ token_bytes => some (.subscription (drawnToken token_bytes))
  | .getSubscribeInfo _ token_bytes => some (.subscription (drawnToken token_bytes))
  | .getQuickLoginUrl _ code _ => some (.login code)
  | _ => none

/-- The tokens that a request has to do with. -/
def Request.handles (l : Request) : List Credential := l.presents.toList ++ l.issues.toList

/-- Two requests that handle the same token. -/
def Request.clash (l l' : Request) : Bool := l.handles.any fun T => T ∈ l'.handles

theorem Request.clash_symm (l l' : Request) : l.clash l' = l'.clash l := by
  rw [Bool.eq_iff_iff]
  unfold clash
  simp only [List.any_eq_true, decide_eq_true_eq]
  exact ⟨fun ⟨T, h, h'⟩ => ⟨T, h', h⟩, fun ⟨T, h, h'⟩ => ⟨T, h', h⟩⟩

theorem Request.not_handles {l l' : Request} (h : l.clash l' = false) {T : Credential}
    (hT : T ∈ l'.handles) : l.presents ≠ some T ∧ l.issues ≠ some T := by
  have hnot : T ∉ l.handles := by
    intro hmem
    have : l.clash l' = true := List.any_eq_true.mpr ⟨T, hmem, by simpa using hT⟩
    rw [h] at this
    cases this
  unfold handles at hnot
  simp only [List.mem_append, Option.mem_toList, not_or] at hnot
  exact hnot

/-- Does the answer accept the token that was presented? -/
def Response.accepts : Response → Bool
  | .subscription _ => true
  | .login (.token _) => true
  | _ => false

/-- The requests that have ended, the newest first. -/
abbrev TokenLog := List (Ending Request Tbl PyExc Response)

/-- A request that presented `T` and was accepted. -/
def acceptedIn (T : Credential) (e : Ending Request Tbl PyExc Response) : Bool :=
  e.label.presents = some T &&
    match e.result with
    | .ok a => a.accepts
    | .error _ => false

/-- A request that drew `T` and was answered. -/
def issuedIn (T : Credential) (e : Ending Request Tbl PyExc Response) : Bool :=
  e.label.issues = some T && e.result.isOk

/-- How often `T` was accepted. -/
def accepted (T : Credential) (log : TokenLog) : Nat := log.countP (acceptedIn T)

/-- How often `T` was handed out: before the run began, or by a request of the run. -/
def issued (T : Credential) (db : Database) (log : TokenLog) : Nat :=
  (if ((db .runtime_cache).get? T.key).isSome then 1 else 0) + log.countP (issuedIn T)

/-! ## §2. Keys of the cache. -/

theorem append_ne_key {a : String} (ha : 4 ≤ a.toList.length)
    (hotpn : a.toList.take 4 ≠ "otpn_".toList.take 4)
    (htemp : a.toList.take 4 ≠ "temp_token:".toList.take 4)
    (x : String) (T : Credential) : a ++ x ≠ T.key := by
  cases T with
  | subscription token => exact append_ne_append 4 ha (by decide) hotpn x token
  | login verify => exact append_ne_append 4 ha (by decide) htemp x verify

theorem key_injective {T T' : Credential} (h : T.key = T'.key) : T = T' := by
  cases T with
  | subscription token =>
    cases T' with
    | subscription token' => exact congrArg _ (String.append_right_inj _ |>.mp h)
    | login verify' => exact absurd h (append_ne_append 4 (by decide) (by decide) (by decide) _ _)
  | login verify =>
    cases T' with
    | subscription token' =>
      exact absurd h (append_ne_append 4 (by decide) (by decide) (by decide) _ _)
    | login verify' => exact congrArg _ (String.append_right_inj _ |>.mp h)

/-! ## §3. What a request writes. -/

/-- Subscription tokens are one-time tokens where the method is 1. -/
def MethodIsOne (rt : Runtime) (T : Credential) (db : Database) : Prop :=
  ∀ token, T = .subscription token → SettingReads rt methodSetting 1 db

/-- The writes of a request: only one that draws `T` adds a row for it, and the method stays. -/
structure Writes (rt : Runtime) (T : Credential) (l : Request) (w : Write Tbl) : Prop where
  row : l.issues ≠ some T → ∀ row : RuntimeCacheRow, w = .put Tbl.runtime_cache row →
    row.key ≠ T.key
  method : ∀ token, T = .subscription token → KeepsReading rt methodSetting 1 w

theorem keepsReading_del (key : String) (n : Int) (k : String) :
    KeepsReading rt key n (.del Tbl.runtime_cache k) :=
  ⟨show Tbl.runtime_cache ≠ Tbl.setting by decide, fun row h => by cases h⟩

theorem keepsReading_copy {key : String} {n : Int} {row : RuntimeCacheRow}
    (h : row.key = cacheKey key → CopyReads rt n row) :
    KeepsReading rt key n (.put Tbl.runtime_cache row) := by
  refine ⟨show Tbl.runtime_cache ≠ Tbl.setting by decide, fun row' heq => ?_⟩
  cases heq
  exact h

theorem MethodIsOne.apply {T : Credential} {db : Database} {ws : List (Write Tbl)}
    (h : MethodIsOne rt T db)
    (hws : ∀ w ∈ ws, ∀ token, T = .subscription token → KeepsReading rt methodSetting 1 w) :
    MethodIsOne rt T (db.apply ws) :=
  fun token hT => (h token hT).apply fun w hw => hws w hw token hT

section

variable {L : Type} {C : Contract L Tbl} {J : State Tbl → List (Write Tbl) → Prop}

/-- **A request is steady** if what it draws may be stored. -/
theorem steady_request (h : PageOpen rt C J) (hdel : ∀ key, CacheDel C J key)
    (huser : ∀ (user : User) s ws, C.Inv s → J s ws → J s (ws ++ [.put Tbl.users user]))
    (l : Request) (hissues : ∀ T, l.issues = some T → CacheOpen C J T.key) :
    C.Steady J (l.prog rt fm) := by
  cases l with
  | subscribe token flag token_bytes =>
    refine .bind (.bind (steady_resolveSubscribeUser fm h (hdel _)) fun user => ?_) fun _ => .ret _
    exact steady_renderSubscription fm h user flag (hissues _ rfl)
  | getSubscribeInfo user_id token_bytes =>
    exact .bind (steady_getUserSubscribeInfo fm h user_id (hissues _ rfl)) fun _ => .ret _
  | getUserServers user_id if_none_match =>
    refine .bind (.bind (.get h.stable _ _) fun user => ?_) fun _ => .ret _
    cases user with
    | none => exact .ret _
    | some user => exact .bind (steady_getAvailableServers fm h user) fun _ => .ret _
  | token2Login verify token redirect =>
    refine .bind (.ite (.ret _) (.ite (.ret _) ?_)) fun _ => .ret _
    refine .bind (steady_get h.stable (hdel _)) fun user_id => ?_
    cases user_id with
    | none => exact .ret _
    | some user_id =>
      refine .bind (steady_delete h.stable (hdel _)) fun _ =>
        .bind (steady_liftExcept _) fun _ => ?_
      exact .bind (steady_buildTokenForUserId fm h.stable huser _) fun _ => .ret _
  | getQuickLoginUrl user_id code redirect =>
    refine .bind (.bind (steady_set h.stable (hissues _ rfl) _ _ _) fun _ => ?_) fun _ => .ret _
    exact .bind (steady_getStr rt h.stable (h.setting _ (by decide)) _) fun _ => .ret _
  | cleanupRuntimeCache =>
    refine .bind (.bind (steady_time h.stable) fun now => .bind ?_ fun _ => .ret _) fun _ => .ret _
    exact .deleteReturning h.stable fun cur _ => hdel _

/-- Rows under other keys do not bring a token back. -/
theorem cacheOpen_absent {T : Credential} {key : String} (hkey : key ≠ T.key) :
    CacheOpen C (Absent Tbl.runtime_cache T.key) key := by
  refine ⟨fun row hrow s ws _ hj => hj.append fun r heq => ?_, fun s ws _ hj =>
    hj.append fun r heq => by cases heq⟩
  cases heq
  exact fun h => hkey (hrow.symm.trans h)

variable (rt) in
theorem pageOpen_absent (T : Credential) (hstable : C.Stable (Absent Tbl.runtime_cache T.key)) :
    PageOpen rt C (Absent Tbl.runtime_cache T.key) := by
  have hopen : ∀ key, key ≠ T.key → CacheOpen C (Absent Tbl.runtime_cache T.key) key :=
    fun _ => cacheOpen_absent
  refine ⟨hstable, ?_, ?_, ?_, ?_, ?_⟩
  · exact steady_getInt rt hstable (hopen _ (append_ne_key (by decide) (by decide)
      (by decide) _ T)) _
  · exact fun key _ => hopen _ (append_ne_key (by decide) (by decide) (by decide) _ T)
  · exact fun token => hopen _ (append_ne_key (by decide) (by decide) (by decide) _ T)
  · exact fun token => hopen _ (append_ne_key (by decide) (by decide) (by decide) _ T)
  · exact fun user_id s ws _ hj => hj.append fun r heq => by cases heq

/-- A row of the cache that is neither a token nor a copy of the method. -/
theorem writes_put {T : Credential} {l : Request} {row : RuntimeCacheRow}
    (hT : l.issues ≠ some T → row.key ≠ T.key) (hmethod : row.key ≠ cacheKey methodSetting) :
    Writes rt T l (.put Tbl.runtime_cache row) := by
  refine ⟨fun h row' heq => ?_, fun token _ => keepsReading_copy fun h => absurd h hmethod⟩
  cases heq
  exact hT h

theorem writes_del (T : Credential) (l : Request) (key : String) :
    Writes rt T l (.del Tbl.runtime_cache key) :=
  ⟨fun _ row heq => (by cases heq), fun _ _ => keepsReading_del _ _ _⟩

theorem cacheOpen_writes {T : Credential} {l : Request} {key : String}
    (hT : l.issues ≠ some T → key ≠ T.key) (hmethod : key ≠ cacheKey methodSetting) :
    CacheOpen C (Only (Writes rt T l)) key := by
  refine ⟨fun row hrow s ws _ hj => hj.append ?_, fun s ws _ hj => hj.append (writes_del T l key)⟩
  rw [← hrow] at hT hmethod
  exact writes_put hT hmethod

/-- The method is read, and its copy stored, as it is. -/
theorem steady_method {T : Credential} (l : Request)
    (hread : ∀ s, C.Inv s → MethodIsOne rt T s.db) :
    C.Steady (Only (Writes rt T l)) (getInt rt methodSetting 0) := by
  have hkey : ∀ T : Credential, cacheKey methodSetting ≠ T.key :=
    append_ne_key (by decide) (by decide) (by decide) _
  cases T with
  | subscription token =>
    intro s ss hi hj
    refine wp_mono (wp_getInt_reads (fun s hi => hread s hi token rfl)
      (fun w hw => hw.method token rfl) (fun row hrow hcopy => ?_) (writes_del _ l _) hi hj 0)
      fun r s' ss' h => h.1
    refine ⟨fun _ row' heq => ?_, fun _ _ => keepsReading_copy fun _ => hcopy⟩
    cases heq
    rw [hrow]
    exact hkey _
  | login verify =>
    refine steady_getInt rt (Only.stable C _) ⟨fun row hrow s ws _ hj => hj.append ?_,
      fun s ws _ hj => hj.append (writes_del _ l _)⟩ 0
    refine ⟨fun _ row' heq => ?_, fun token h => by cases h⟩
    cases heq
    rw [hrow]
    exact hkey _

theorem pageOpen_writes {T : Credential} (l : Request)
    (hread : ∀ s, C.Inv s → MethodIsOne rt T s.db) : PageOpen rt C (Only (Writes rt T l)) := by
  have hne : ∀ {a : String}, 4 ≤ a.toList.length → a.toList.take 4 ≠ "otpn_".toList.take 4 →
      a.toList.take 4 ≠ "temp_token:".toList.take 4 →
      a.toList.take 4 ≠ "setting:".toList.take 4 → ∀ x,
      CacheOpen C (Only (Writes rt T l)) (a ++ x) := by
    intro a ha hotpn htemp hsetting x
    exact cacheOpen_writes (fun _ => append_ne_key ha hotpn htemp x T)
      (append_ne_append 4 ha (by decide) hsetting x _)
  refine ⟨Only.stable C _, steady_method l hread, fun key hkey => ?_, ?_, ?_, ?_⟩
  · refine cacheOpen_writes (fun _ => append_ne_key (by decide) (by decide) (by decide) _ T) ?_
    exact fun h => hkey (String.append_right_inj _ |>.mp h)
  · exact hne (by decide) (by decide) (by decide) (by decide)
  · exact hne (by decide) (by decide) (by decide) (by decide)
  · exact fun user_id => (hne (by decide) (by decide) (by decide) (by decide) user_id).del

variable (fm) in
/-- **What a request writes.** -/
theorem request_writes {T : Credential} (l : Request)
    (hread : ∀ s, C.Inv s → MethodIsOne rt T s.db) :
    C.Steady (Only (Writes rt T l)) (l.prog rt fm) := by
  refine steady_request (pageOpen_writes l hread)
    (fun key s ws _ hj => hj.append (writes_del T l key))
    (fun user s ws _ hj => hj.append ?_) l fun T' hT' => cacheOpen_writes (fun h heq => ?_) ?_
  · exact ⟨fun _ row heq => (by cases heq), fun _ _ =>
      ⟨show Tbl.users ≠ Tbl.setting by decide, fun row heq => by cases heq⟩⟩
  · rw [key_injective heq] at hT'
    exact h hT'
  · exact (append_ne_key (by decide) (by decide) (by decide) _ T').symm

/-! ## §4. Taking a token. -/

variable {s : State Tbl} {ss : Session Tbl}

/-- Taking a subscription token removes it, and needs it to be there. -/
theorem wp_takeOneTimeToken {token : String} (hi : C.Inv s)
    (hstable : C.Stable (Absent Tbl.runtime_cache (otpnKey token))) :
    wp C (takeOneTimeToken rt token) (fun r s' ss' => ∀ user_token, r = .ok user_token →
      Absent Tbl.runtime_cache (otpnKey token) s' ss'.ws) s ss ∧
    (Absent Tbl.runtime_cache (otpnKey token) s ss.ws →
      wp C (takeOneTimeToken rt token) (fun r _ _ => ∀ user_token, r ≠ .ok user_token) s ss) := by
  have hdel : ∀ key, CacheDel C (Absent Tbl.runtime_cache (otpnKey token)) key :=
    fun key s ws _ hj => hj.append fun r heq => by cases heq
  have htrivial : C.Stable fun (_ : State Tbl) (_ : List (Write Tbl)) => True :=
    fun _ _ _ _ _ _ => trivial
  constructor
  · refine Contract.Steady.wp_bind (steady_get htrivial (fun _ _ _ _ => trivial)) hi trivial
      (fun raw s₁ ss₁ hi₁ _ => ?_) fun e _ _ _ _ h => by cases h
    cases raw with
    | none => exact fun _ h => by cases h
    | some raw =>
      refine (wp_bind _ _ _ _ _).mpr (wp_mono (wp_inv hi₁ (wp_delete_absent hstable)) ?_)
      rintro (e | n) s₂ ss₂ ⟨hi₂, habs⟩
      · exact fun _ h => by cases h
      · exact Contract.Steady.wp_bind (steady_delete hstable (hdel _)) hi₂ habs
          (fun n s₃ ss₃ _ habs₃ _ _ => habs₃) fun e _ _ _ _ h => by cases h
  · intro habs
    refine (wp_bind _ _ _ _ _).mpr (wp_mono (wp_get_absent hstable habs) ?_)
    rintro (e | raw) s₁ ss₁ h
    · exact fun _ h => by cases h
    · rw [h raw rfl]
      exact fun _ h => by cases h

variable (fm) in
/-- `resolve_subscribe_user` under method 1 takes the token. -/
theorem wp_resolveSubscribeUser {token : String}
    (hread : ∀ s, C.Inv s → SettingReads rt methodSetting 1 s.db) (hi : C.Inv s)
    (hstable : C.Stable (Absent Tbl.runtime_cache (otpnKey token))) :
    wp C (resolveSubscribeUser rt fm token) (fun r s' ss' => ∀ user, r = .ok user →
      Absent Tbl.runtime_cache (otpnKey token) s' ss'.ws) s Session.fresh ∧
    (Absent Tbl.runtime_cache (otpnKey token) s [] →
      wp C (resolveSubscribeUser rt fm token) (fun r _ _ => ∀ user, r ≠ .ok user) s
        Session.fresh) := by
  have hpage := pageOpen_absent rt (.subscription token) hstable
  have hmethod := wp_getInt_reads (C := C) (W := KeepsReading rt methodSetting 1) hread
    (fun _ h => h) (fun row _ hcopy => keepsReading_copy fun _ => hcopy)
    (keepsReading_del _ _ _) hi (show Only _ s (Session.fresh : Session Tbl).ws from Only.nil _ s) 0
  constructor
  · refine wp_ite (fun _ _ h => by cases h) fun _ => ?_
    refine (wp_bind _ _ _ _ _).mpr (wp_mono (wp_inv hi hmethod) ?_)
    rintro (e | method) s₁ ss₁ ⟨hi₁, -, hone⟩
    · exact fun _ h => by cases h
    · obtain rfl : method = 1 := hone method rfl
      refine (wp_bind _ _ _ _ _).mpr (wp_mono (wp_inv hi₁ (wp_takeOneTimeToken hi₁ hstable).1) ?_)
      rintro (e | user_token) s₂ ss₂ ⟨hi₂, habs⟩
      · exact fun _ h => by cases h
      · exact wp_mono (steady_userOf hpage user_token s₂ ss₂ hi₂ (habs _ rfl))
          fun _ _ _ habs _ _ => habs
  · intro habs
    refine wp_ite (fun _ _ h => by cases h) fun _ => ?_
    refine (wp_bind _ _ _ _ _).mpr (wp_mono
      (wp_inv hi (wp_and hmethod (hpage.method s Session.fresh hi habs))) ?_)
    rintro (e | method) s₁ ss₁ ⟨hi₁, ⟨-, hone⟩, habs₁⟩
    · exact fun _ h => by cases h
    · obtain rfl : method = 1 := hone method rfl
      refine (wp_bind _ _ _ _ _).mpr (wp_mono ((wp_takeOneTimeToken hi₁ hstable).2 habs₁) ?_)
      rintro (e | user_token) s₂ ss₂ hnone
      · exact fun _ h => by cases h
      · exact absurd rfl (hnone user_token)

variable (fm) in
/-- **A request that presents a token** removes it if it accepts it, and accepts only a token
    that is there. -/
theorem request_takes {T : Credential} {l : Request} (hpresents : l.presents = some T)
    (hread : ∀ s, C.Inv s → MethodIsOne rt T s.db) (hi : C.Inv s)
    (hstable : C.Stable (Absent Tbl.runtime_cache T.key)) :
    (l.issues ≠ some T → wp C (l.prog rt fm) (fun r s' ss' => ∀ a, r = .ok a → a.accepts = true →
      Absent Tbl.runtime_cache T.key s' ss'.ws) s Session.fresh) ∧
    (Absent Tbl.runtime_cache T.key s [] → wp C (l.prog rt fm) (fun r _ _ => ∀ a, r = .ok a →
      a.accepts = false) s Session.fresh) := by
  have hpage := pageOpen_absent rt T hstable
  cases l with
  | subscribe token flag token_bytes =>
    obtain rfl : Credential.subscription token = T := Option.some.inj hpresents
    obtain ⟨htakes, hneeds⟩ := wp_resolveSubscribeUser fm (fun s hi => hread s hi token rfl)
      hi hstable
    constructor
    · intro hissues
      refine (wp_bind _ _ _ _ _).mpr ((wp_bind _ _ _ _ _).mpr (wp_mono (wp_inv hi htakes) ?_))
      rintro (e | user) s₁ ss₁ ⟨hi₁, habs⟩
      · exact fun _ h => by cases h
      · have hdrawn : CacheOpen C (Absent Tbl.runtime_cache (Credential.subscription token).key)
            (otpnKey (drawnToken token_bytes)) :=
          cacheOpen_absent fun h => hissues (congrArg some (key_injective
            (T := .subscription (drawnToken token_bytes)) h))
        refine wp_mono (steady_renderSubscription fm hpage user flag hdrawn s₁ ss₁ hi₁
          (habs _ rfl)) ?_
        rintro (e | answer) s₂ ss₂ habs₂
        · exact fun _ h => by cases h
        · exact fun _ _ _ => habs₂
    · intro habs
      refine (wp_bind _ _ _ _ _).mpr ((wp_bind _ _ _ _ _).mpr (wp_mono (hneeds habs) ?_))
      rintro (e | user) s₁ ss₁ hnone
      · exact fun _ h => by cases h
      · exact absurd rfl (hnone user)
  | token2Login verify token redirect =>
    obtain ⟨verify, rfl, rfl⟩ := Option.map_eq_some_iff.mp hpresents
    constructor
    · intro _
      refine (wp_bind _ _ _ _ _).mpr (wp_ite (fun _ a h hacc => ?_) fun _ =>
        wp_ite (fun _ a h hacc => ?_) fun _ => ?_)
      · cases h
        cases hacc
      · cases h
        cases hacc
      · have htrivial : C.Stable fun (_ : State Tbl) (_ : List (Write Tbl)) => True :=
          fun _ _ _ _ _ _ => trivial
        refine Contract.Steady.wp_bind (steady_get htrivial (fun _ _ _ _ => trivial)) hi trivial
          (fun found s₁ ss₁ hi₁ _ => ?_) fun e _ _ _ _ h => by cases h
        cases found with
        | none =>
          intro a h hacc
          cases h
          cases hacc
        | some user_id =>
          refine (wp_bind _ _ _ _ _).mpr (wp_mono (wp_inv hi₁ (wp_delete_absent hstable)) ?_)
          rintro (e | n) s₂ ss₂ ⟨hi₂, habs⟩
          · exact fun _ h => by cases h
          · have huser : ∀ (user : User) s ws, C.Inv s → Absent Tbl.runtime_cache
                (tempTokenKey verify) s ws → Absent Tbl.runtime_cache (tempTokenKey verify) s
                  (ws ++ [.put Tbl.users user]) :=
              fun user s ws _ hj => hj.append fun r heq => by cases heq
            refine Contract.Steady.wp_bind (steady_liftExcept _) hi₂ habs
              (fun user_id s₃ ss₃ hi₃ habs₃ => ?_) fun e _ _ _ _ h => by cases h
            refine Contract.Steady.wp_bind (steady_buildTokenForUserId fm hstable huser _) hi₃ habs₃
              (fun auth_token s₄ ss₄ _ habs₄ _ _ _ => habs₄) fun e _ _ _ _ h => by cases h
    · intro habs
      refine (wp_bind _ _ _ _ _).mpr (wp_ite (fun _ a h => ?_) fun _ =>
        wp_ite (fun _ a h => ?_) fun _ => ?_)
      · cases h
        rfl
      · cases h
        rfl
      · refine (wp_bind _ _ _ _ _).mpr (wp_mono (wp_get_absent hstable habs) ?_)
        rintro (e | found) s₁ ss₁ h
        · exact fun _ h => by cases h
        · rw [h found rfl]
          intro a h
          cases h
          rfl
  | getSubscribeInfo user_id token_bytes => cases hpresents
  | getUserServers user_id if_none_match => cases hpresents
  | getQuickLoginUrl user_id code redirect => cases hpresents
  | cleanupRuntimeCache => cases hpresents

end

/-! ## §5. Runs. -/

section

variable (rt) (fm) (T : Credential) (db : Database)

/-- The row of a token is not committed. -/
def Gone (s : State Tbl) : Prop := (s.db .runtime_cache).get? T.key = none

/-- What a request relies on.  Nobody else brings back a token that it handles; under the view
    `true` the token is gone for good. -/
def tokenContract (l : Request) (gone : Bool) : Contract Request Tbl :=
  Contract.relying Cond.any (fun s => MethodIsOne rt T s.db ∧ (gone = true → Gone T s))
    (fun s s' => T ∈ l.handles → Gone T s → Gone T s') (fun _ _ h => h)
    (fun h h' hT hs => h' hT (h hT hs)) (fun _ h => h) (fun _ _ _ h => h)

/-- The view `true` is open to a request that presents a token which is not to be had. -/
def tokenView (l : Request) (gone : Bool) (log : TokenLog) : Prop :=
  gone = true → l.presents = some T ∧ issued T db log ≤ 1 ∧
    (issued T db log = 0 ∨ 1 ≤ accepted T log)

/-- How a request ends. -/
def tokenPost (l : Request) (gone : Bool) (r : Except PyExc Response) (s : State Tbl)
    (ss : Session Tbl) : Prop :=
  ∀ a, r = .ok a → Only (Writes rt T l) s ss.ws ∧
    (l.presents = some T → a.accepts = true → gone = false ∧
      (l.issues ≠ some T → Absent Tbl.runtime_cache T.key s ss.ws))

/-- **The invariant**: a token that was not handed out, or was accepted, is gone. -/
def TokenInv (s : State Tbl) (log : TokenLog) : Prop :=
  MethodIsOne rt T s.db ∧ (issued T db log ≤ 1 →
    (issued T db log = 0 → Gone T s ∧ accepted T log = 0) ∧ (1 ≤ accepted T log → Gone T s) ∧
      accepted T log ≤ 1)

end

variable {T : Credential} {db : Database} {log : TokenLog}

theorem accepted_cons (e : Ending Request Tbl PyExc Response) :
    accepted T (e :: log) = accepted T log + if acceptedIn T e then 1 else 0 := List.countP_cons ..

theorem issued_cons (e : Ending Request Tbl PyExc Response) :
    issued T db (e :: log) = issued T db log + if issuedIn T e then 1 else 0 := by
  unfold issued
  rw [List.countP_cons, Nat.add_assoc]

variable (db) (log) in
/-- A request that has nothing to do with the token is not counted. -/
theorem counts_other {l : Request} (hp : l.presents ≠ some T) (hi : l.issues ≠ some T)
    (r : Except PyExc Response) (s : State Tbl) (ss : Session Tbl) :
    accepted T (⟨l, r, s, ss⟩ :: log) = accepted T log ∧
      issued T db (⟨l, r, s, ss⟩ :: log) = issued T db log := by
  have ha : acceptedIn T ⟨l, r, s, ss⟩ = false := by simp [acceptedIn, hp]
  have hn : issuedIn T ⟨l, r, s, ss⟩ = false := by simp [issuedIn, hi]
  rw [accepted_cons, issued_cons, ha, hn]
  exact ⟨rfl, rfl⟩

variable (T) (db) (log) in
/-- A request that fails is not counted. -/
theorem counts_error (l : Request) (e : PyExc) (s : State Tbl) (ss : Session Tbl) :
    accepted T (⟨l, .error e, s, ss⟩ :: log) = accepted T log ∧
      issued T db (⟨l, .error e, s, ss⟩ :: log) = issued T db log := by
  have ha : acceptedIn T ⟨l, .error e, s, ss⟩ = false := by simp [acceptedIn]
  have hn : issuedIn T ⟨l, .error e, s, ss⟩ = false := by
    simp [issuedIn, Except.isOk, Except.toBool]
  rw [accepted_cons, issued_cons, ha, hn]
  exact ⟨rfl, rfl⟩

/-- A commit that adds no row for the token does not bring it back. -/
theorem gone_commit {l : Request} {s : State Tbl} {ss : Session Tbl} (hissues : l.issues ≠ some T)
    (hws : Only (Writes rt T l) s ss.ws) (h : Gone T s) : Gone T (s.commit ss) := by
  unfold Gone
  rw [State.commit_db]
  exact DB.get?_apply_none h fun row hput => (hws _ hput).row hissues row rfl

/-- **A request ends as it should**, whatever overlaps with it. -/
theorem tokenContract_spec (l : Request) (gone : Bool) (s : State Tbl)
    (hi : (tokenContract rt T l gone).Inv s) :
    wp (tokenContract rt T l gone) (l.prog rt fm)
      (Ends (tokenContract rt T l gone) (tokenPost rt T l gone)) s Session.fresh := by
  have hread : ∀ s, (tokenContract rt T l gone).Inv s → MethodIsOne rt T s.db := fun s h => h.1
  have hwrites := request_writes fm l hread s Session.fresh hi (Only.nil _ s)
  by_cases hpresents : l.presents = some T
  · have hmem : T ∈ l.handles := by simp [Request.handles, hpresents]
    have hstable : (tokenContract rt T l gone).Stable (Absent Tbl.runtime_cache T.key) :=
      Absent.stable fun ids s s' hevol => hevol hmem
    obtain ⟨htakes, hneeds⟩ := request_takes fm hpresents hread hi hstable
    by_cases hissues : l.issues = some T
    · cases gone with
      | false =>
        refine wp_mono hwrites fun r s' ss' hws s'' _ _ a _ => ⟨hws, fun _ _ => ⟨rfl, ?_⟩⟩
        exact fun h => absurd hissues h
      | true =>
        refine wp_mono (wp_and hwrites (hneeds (hi.2 rfl))) ?_
        rintro r s' ss' ⟨hws, hnone⟩ s'' _ _ a hr
        refine ⟨hws, fun _ hacc => ?_⟩
        rw [hnone a hr] at hacc
        cases hacc
    · cases gone with
      | false =>
        refine wp_mono (wp_and hwrites (htakes hissues)) ?_
        rintro r s' ss' ⟨hws, habs⟩ s'' hrely hinv a hr
        exact ⟨hws, fun _ hacc => ⟨rfl, fun _ => hstable s' s'' ss' hrely hinv (habs a hr hacc)⟩⟩
      | true =>
        refine wp_mono (wp_and hwrites (hneeds (hi.2 rfl))) ?_
        rintro r s' ss' ⟨hws, hnone⟩ s'' _ _ a hr
        refine ⟨hws, fun _ hacc => ?_⟩
        rw [hnone a hr] at hacc
        cases hacc
  · exact wp_mono hwrites fun r s' ss' hws s'' _ _ a _ => ⟨hws, fun h => absurd h hpresents⟩

/-- **What one answered request does to the invariant.** -/
theorem TokenInv.commit {l : Request} {a : Response} {s : State Tbl} {ss : Session Tbl}
    (hpost : ∀ gone, tokenView T db l gone log → tokenPost rt T l gone (.ok a) s ss)
    (h : TokenInv rt T db s log) : TokenInv rt T db (s.commit ss) (⟨l, .ok a, s, ss⟩ :: log) := by
  obtain ⟨hws, htakes⟩ := hpost false (fun h => by cases h) a rfl
  refine ⟨h.1.apply fun w hw => (hws w hw).method, fun hle => ?_⟩
  have haccept : acceptedIn T ⟨l, .ok a, s, ss⟩ = true →
      l.presents = some T ∧ a.accepts = true := by
    intro h
    simpa [acceptedIn] using h
  rw [issued_cons] at hle ⊢
  rw [accepted_cons]
  obtain ⟨hzero, hone, hmost⟩ := h.2 (by omega)
  -- an accepted token was to be had
  have hhad : acceptedIn T ⟨l, .ok a, s, ss⟩ = true → issued T db log = 1 ∧ accepted T log = 0 := by
    intro hacc
    obtain ⟨hp, ha⟩ := haccept hacc
    by_contra hnot
    have hview : tokenView T db l true log := fun _ => ⟨hp, by omega, by omega⟩
    have := (hpost true hview a rfl).2 hp ha
    cases this.1
  by_cases hissues : l.issues = some T
  · have hn : issuedIn T ⟨l, .ok a, s, ss⟩ = true := by
      simp [issuedIn, hissues, Except.isOk, Except.toBool]
    rw [hn] at hle ⊢
    simp only [if_true] at hle ⊢
    have ha : acceptedIn T ⟨l, .ok a, s, ss⟩ = false := by
      rw [Bool.eq_false_iff]
      intro hacc
      have := hhad hacc
      omega
    rw [ha]
    have := (hzero (by omega)).2
    simp only [Bool.false_eq_true, if_false, Nat.add_zero]
    exact ⟨fun h => by omega, fun h => by omega, by omega⟩
  · have hn : issuedIn T ⟨l, .ok a, s, ss⟩ = false := by simp [issuedIn, hissues]
    rw [hn]
    simp only [Bool.false_eq_true, if_false, Nat.add_zero]
    cases hacc : acceptedIn T ⟨l, .ok a, s, ss⟩ with
    | false =>
      simp only [Bool.false_eq_true, if_false, Nat.add_zero]
      exact ⟨fun h => ⟨gone_commit hissues hws (hzero h).1, (hzero h).2⟩,
        fun h => gone_commit hissues hws (hone h), hmost⟩
    | true =>
      obtain ⟨hp, ha⟩ := haccept hacc
      obtain ⟨hi, hz⟩ := hhad hacc
      have habs : Gone T (s.commit ss) := (htakes hp ha).2 hissues
      simp only [if_true]
      exact ⟨fun h => by omega, fun _ => habs, by omega⟩

/-- **One-time tokens are accepted once**: in every run in which requests that handle the same
    token do not overlap, a token that was handed out once is accepted at most once.  Under
    `show_subscribe_method` 1 this holds of subscription tokens; of login tokens it always
    does. -/
theorem token_accepted_once {now : Int} {c : Config Request Tbl PyExc Response}
    (hmethod : MethodIsOne rt T db)
    (hrun : Apart (Request.prog rt fm) Cond.any Request.clash (.quiet ⟨db, now⟩) log c)
    (hissued : issued T db log ≤ 1) : accepted T log ≤ 1 := by
  have hinv : TokenInv rt T db c.state log := by
    refine (Apart.induction (P := tokenContract rt T) (E := tokenPost rt T) (K := tokenView T db)
      (I := TokenInv rt T db) Request.clash_symm (fun _ _ => rfl) ?_
      (fun l gone _ s hi => tokenContract_spec l gone s hi) ?_ ?_ ?_ ?_ ?_ hrun rfl ?_).1
    · -- the view of a token that is gone
      intro s log l gone hI hK
      refine ⟨hI.1, fun hgone => ?_⟩
      obtain ⟨-, hle, hor⟩ := hK hgone
      obtain ⟨hzero, hone, -⟩ := hI.2 hle
      rcases hor with h | h
      · exact (hzero h).1
      · exact hone h
    · intro l l' gone r s ss log hclash hK hgone
      obtain ⟨hp, hle, hor⟩ := hK hgone
      obtain ⟨hp', hi'⟩ := Request.not_handles hclash (T := T) (by simp [Request.handles, hp])
      obtain ⟨ha, hn⟩ := counts_other db log hp' hi' r s ss
      rw [hn] at hle hor
      rw [ha] at hor
      exact ⟨hp, hle, hor⟩
    · -- nobody brings back a token that another request handles
      intro l l' gone a s ss log ids hclash _ _ _ hpost hmem hgone
      obtain ⟨hp', hi'⟩ := Request.not_handles hclash hmem
      exact gone_commit hi' (hpost false (fun h => by cases h) a rfl).1 hgone
    · exact fun s log d hI => hI
    · exact fun l a s ss log _ _ _ hpost hI => hI.commit hpost
    · intro l e s ss log _ _ hI
      obtain ⟨ha, hn⟩ := counts_error T db log l e s ss
      unfold TokenInv
      rw [ha, hn]
      exact hI
    · refine ⟨hmethod, fun _ => ⟨fun h => ⟨?_, rfl⟩, fun h => (by cases h), Nat.zero_le _⟩⟩
      unfold Gone
      unfold issued at h
      cases hget : (db .runtime_cache).get? T.key with
      | none => exact hget
      | some row =>
        rw [hget] at h
        simp at h
  exact (hinv.2 hissued).2.2

/-! ## §6. Requests that overlap. -/

def subscriber : User :=
  { id := 1, email := "a@b.c", password := "x", token := "t", uuid := "u", plan_id := some 1,
    transfer_enable := 10, expired_at := none }

/-- A row of the runtime cache. -/
def cacheRow (key : String) (value : Json) (expires_at : Int) : Write Tbl :=
  .put Tbl.runtime_cache
    ({ key := key, value := value, expires_at := some expires_at } : RuntimeCacheRow)

/-- A subscription token and a login token of the same user, under method 1. -/
def handedOut : Database := Database.empty.apply [
  .put Tbl.users subscriber,
  .put Tbl.setting ({ id := 1, key := "show_subscribe_method", value := "1" } : Setting),
  cacheRow "setting:show_subscribe_method" (.str "1") 3600,
  cacheRow "otpn_abc" (.str "t") 86400,
  cacheRow "temp_token:abc" (.int 1) 60]

theorem handedOut_method : SettingReads Utc.bare methodSetting 1 handedOut := by
  refine ⟨⟨{ id := 1, key := "show_subscribe_method", value := "1" }, List.mem_cons_self, rfl⟩,
    ?_, ?_⟩
  · intro item hitem _
    rw [List.mem_singleton.mp hitem]
    decide +kernel
  · intro row hrow v hv
    cases hrow
    cases hv
    decide +kernel

/-- A login request with the token. -/
def loginRequest : Request := .token2Login (some "abc") none "dashboard"

/-- A request by itself. -/
def served (l : Request) (steps : Nat) : List (Event Request) :=
  .begin l :: List.replicate steps (.exec 0) ++ [.finish 0]

/-- Each token is presented twice, by one request after the other. -/
def presentedTwice : List (Event Request) :=
  served loginRequest 10 ++ served loginRequest 3 ++ served (.subscribe "abc" "" [1]) 45 ++
    served (.subscribe "abc" "" [2]) 5

/-- The requests that have ended and presented a token. -/
def presented (T : Credential) (log : TokenLog) : Nat :=
  log.countP fun e => e.label.presents = some T

/-- The first request with a token is accepted, and the second one is not. -/
theorem token_accepted_once_login : ∃ log c,
    Apart (Request.prog Utc.bare plainFormats) Cond.any Request.clash
      (.quiet ⟨handedOut, 0⟩) log c ∧
      (presented (.login "abc") log = 2 ∧ accepted (.login "abc") log = 1 ∧
        accepted (.login "abc") log ≤ 1) ∧
      presented (.subscription "abc") log = 2 ∧ accepted (.subscription "abc") log = 1 ∧
        accepted (.subscription "abc") log ≤ 1 := by
  obtain ⟨log, c, hrun, hcounts⟩ := Apart.exists_of_steps
      (Request.prog Utc.bare plainFormats) Cond.any Request.clash (.quiet ⟨handedOut, 0⟩)
      presentedTwice
    (fun log _ => ((presented (.login "abc") log, issued (.login "abc") handedOut log,
        accepted (.login "abc") log), presented (.subscription "abc") log,
      issued (.subscription "abc") handedOut log, accepted (.subscription "abc") log))
    (b := ((2, 1, 1), 2, 1, 1)) (by decide +kernel)
  simp only [Prod.mk.injEq] at hcounts
  obtain ⟨⟨hlogins, hlogin, hloggedIn⟩, hpages, hpage, hserved⟩ := hcounts
  refine ⟨log, c, hrun, ⟨hlogins, hloggedIn, token_accepted_once ?_ hrun hlogin.le⟩, hpages,
    hserved, token_accepted_once ?_ hrun hpage.le⟩
  · exact fun token h => by cases h
  · exact fun _ _ => handedOut_method

/-- Two subscription requests that both read the token before one of them has removed it. -/
def overlappingSubscriptions : List (Event Request) :=
  [.begin (.subscribe "abc" "" [1]), .begin (.subscribe "abc" "" [2])] ++
    List.replicate 4 (.exec 0) ++ List.replicate 4 (.exec 1) ++ List.replicate 41 (.exec 0) ++
    [.finish 0] ++ List.replicate 41 (.exec 0) ++ [.finish 0]

/-- Two login requests that do so. -/
def overlappingLogins : List (Event Request) :=
  [.begin loginRequest, .begin loginRequest] ++ List.replicate 2 (.exec 0) ++
    List.replicate 2 (.exec 1) ++ List.replicate 8 (.exec 0) ++ [.finish 0] ++
    List.replicate 5 (.exec 0) ++ [.finish 0]

/-- **Requests that overlap are both accepted**, with a subscription token under method 1 and
    with a login token. -/
theorem overlapping_requests_accepted : SettingReads Utc.bare methodSetting 1 handedOut ∧
    (∃ log c, Apart (Request.prog Utc.bare plainFormats) Cond.any (fun _ _ => false)
      (.quiet ⟨handedOut, 0⟩) log c ∧ issued (.subscription "abc") handedOut log = 1 ∧
        accepted (.subscription "abc") log = 2) ∧
    ∃ log c, Apart (Request.prog Utc.bare plainFormats) Cond.any (fun _ _ => false)
      (.quiet ⟨handedOut, 0⟩) log c ∧ issued (.login "abc") handedOut log = 1 ∧
        accepted (.login "abc") log = 2 := by
  refine ⟨handedOut_method, ?_, ?_⟩
  · obtain ⟨log, c, hrun, hcounts⟩ := Apart.exists_of_steps
      (Request.prog Utc.bare plainFormats) Cond.any (fun _ _ => false) (.quiet ⟨handedOut, 0⟩)
      overlappingSubscriptions
      (fun log _ => (issued (.subscription "abc") handedOut log,
        accepted (.subscription "abc") log))
      (b := (1, 2)) (by decide +kernel)
    obtain ⟨hissued, haccepted⟩ := Prod.mk.inj hcounts
    exact ⟨log, c, hrun, hissued, haccepted⟩
  · obtain ⟨log, c, hrun, hcounts⟩ := Apart.exists_of_steps
      (Request.prog Utc.bare plainFormats) Cond.any (fun _ _ => false) (.quiet ⟨handedOut, 0⟩)
      overlappingLogins
      (fun log _ => (issued (.login "abc") handedOut log, accepted (.login "abc") log))
      (b := (1, 2)) (by rfl)
    obtain ⟨hissued, haccepted⟩ := Prod.mk.inj hcounts
    exact ⟨log, c, hrun, hissued, haccepted⟩

end PyBoard
