/-
  PyBoard.Specs.Steady — what the services keep of their session.

  Every read of the configuration may store or remove a copy in the runtime cache, so
  even a page that shows something writes.  `CacheOpen` says that a property of the
  session bears a write under a cache key; a service is steady when the keys it uses
  are open.
-/
import PyBoard.Relational.Steady
import PyBoard.Controllers.Tokens
import PyBoard.Specs.Basic

namespace PyBoard

open Relational

variable {L : Type} {C : Contract L Tbl} {J : State Tbl → List (Write Tbl) → Prop} {α β : Type}

/-! ## §1. The cache. -/

/-- `J` bears that a row of the runtime cache is removed. -/
def CacheDel (C : Contract L Tbl) (J : State Tbl → List (Write Tbl) → Prop) (key : String) :
    Prop :=
  ∀ s ws, C.Inv s → J s ws → J s (ws ++ [.del Tbl.runtime_cache key])

/-- `J` bears writes under a key of the runtime cache. -/
structure CacheOpen (C : Contract L Tbl) (J : State Tbl → List (Write Tbl) → Prop)
    (key : String) : Prop where
  put : ∀ row : RuntimeCacheRow, row.key = key → ∀ s ws, C.Inv s → J s ws →
    J s (ws ++ [.put Tbl.runtime_cache row])
  del : CacheDel C J key

theorem steady_time (hJ : C.Stable J) : C.Steady J time := .clock hJ

theorem steady_liftExcept (x : Except PyExc α) : C.Steady J (liftExcept x) := by
  cases x with
  | ok a => exact .ret a
  | error e => exact .throw e

theorem steady_scalarOneOrNone (l : List α) : C.Steady J (scalarOneOrNone l) := by
  match l with
  | [] => exact .ret _
  | [a] => exact .ret _
  | _ :: _ :: _ => exact .throw _

theorem steady_whenever {c : Prop} [Decidable c] {p : Db Unit} (h : C.Steady J p) :
    C.Steady J (whenever c p) := .ite h (.ret _)

/-- A query by a predicate for one row. -/
theorem steady_selectOne (hJ : C.Stable J) {t : Tbl} (p : t.Row → Bool) :
    C.Steady J (Prog.bind (Prog.select t p) scalarOneOrNone) :=
  .bind (.select hJ t p) steady_scalarOneOrNone

section

variable (hJ : C.Stable J) {key : String} (hdel : CacheDel C J key)

include hJ hdel

theorem steady_deleteExpiredKey (now : Int) :
    C.Steady J (RuntimeCache.deleteExpiredKey key now) := by
  refine .bind (.deleteReturning hJ fun cur hcur s ws hi hj => ?_) fun _ => .ret _
  rw [Bool.and_eq_true, decide_eq_true_eq] at hcur
  show J s (ws ++ [.del Tbl.runtime_cache (RuntimeCacheRow.key cur)])
  rw [hcur.1]
  exact hdel s ws hi hj

theorem steady_get : C.Steady J (RuntimeCache.get key) :=
  .bind (steady_time hJ) fun now => .bind (.select hJ _ _) fun _ =>
    .bind (steady_whenever (steady_deleteExpiredKey hJ hdel now)) fun _ => .ret _

theorem steady_delete : C.Steady J (RuntimeCache.delete [key]) := by
  refine .ite (.ret _) (.bind (.deleteReturning hJ fun cur hcur s ws hi hj => ?_) fun _ => .ret _)
  rw [decide_eq_true_eq, List.mem_singleton] at hcur
  show J s (ws ++ [.del Tbl.runtime_cache (RuntimeCacheRow.key cur)])
  rw [hcur]
  exact hdel s ws hi hj

/-- `set` writes one document. -/
theorem steady_set_value (value : Json) (ex : Option Int) (nx : Bool)
    (hput : ∀ row : RuntimeCacheRow, row.key = key → row.value = value → ∀ s ws, C.Inv s →
      J s ws → J s (ws ++ [.put Tbl.runtime_cache row])) :
    C.Steady J (RuntimeCache.set key value ex nx) := by
  refine .bind (steady_time hJ) fun now => ?_
  refine .ite (.bind (steady_deleteExpiredKey hJ hdel now) fun _ => ?_) ?_
  · exact .insert hJ (hput _ rfl rfl)
  · exact .bind (.upsert hJ (hput _ rfl rfl) fun cur hcur => hput _ hcur rfl) fun _ => .ret _

omit hdel in
theorem steady_set (hopen : CacheOpen C J key) (value : Json) (ex : Option Int) (nx : Bool) :
    C.Steady J (RuntimeCache.set key value ex nx) :=
  steady_set_value hJ hopen.del value ex nx fun row hrow _ => hopen.put row hrow

end

/-! The operations of the cache raise nothing. -/

theorem total_deleteExpiredKey (key : String) (now : Int) :
    (RuntimeCache.deleteExpiredKey key now).Total :=
  Prog.All.bind (Prog.Total.deleteReturning _ _) fun _ => trivial

theorem total_get (key : String) : (RuntimeCache.get key).Total := by
  refine Prog.All.bind (Prog.Total.ofStmt _) fun now => Prog.All.bind (Prog.Total.ofStmt _)
    fun rows => ?_
  refine Prog.All.bind ?_ fun _ => trivial
  unfold whenever
  split
  · exact total_deleteExpiredKey key now
  · trivial

theorem total_set (key : String) (value : Json) (ex : Option Int) (nx : Bool) :
    (RuntimeCache.set key value ex nx).Total := by
  refine Prog.All.bind (Prog.Total.ofStmt _) fun now => ?_
  cases nx with
  | true => exact Prog.All.bind (total_deleteExpiredKey key now) fun _ => Prog.Total.ofStmt _
  | false => exact Prog.All.bind (Prog.Total.ofStmt _) fun _ => trivial

theorem total_cacheSet (key value : String) : (SettingService.Cached.cacheSet key value).Total :=
  Prog.All.bind (total_set _ _ _ _) fun _ => trivial

/-- What `get` gives is the document of a row that the session saw. -/
theorem wp_cacheGet (hJ : C.Stable J) {key : String} {s : State Tbl} {ss : Session Tbl}
    (hj : J s ss.ws) :
    wp C (RuntimeCache.get key) (fun r _ _ => ∀ v, r = .ok (some v) → ∃ s₁ row, C.Inv s₁ ∧
      J s₁ ss.ws ∧ (s₁.view ss .runtime_cache).get? key = some row ∧
      RuntimeCache.decodeJsonb (RuntimeCacheRow.value row) = some v) s ss := by
  refine (wp_bind _ _ _ _ _).mpr (wp_clock fun s₀ he₀ => ?_)
  refine (wp_bind _ _ _ _ _).mpr (wp_select fun s₁ he₁ => ?_)
  have he := he₀.trans he₁
  have hj₁ : J s₁ ss.ws := hJ s s₁ ss he.rely he.inv hj
  have htrivial : C.Stable fun (_ : State Tbl) (_ : List (Write Tbl)) => True :=
    fun _ _ _ _ _ _ => trivial
  refine (wp_bind _ _ _ _ _).mpr (wp_mono (steady_whenever
    (steady_deleteExpiredKey htrivial (fun _ _ _ _ => trivial) _) s₁ ss he.inv trivial) ?_)
  intro r s₂ ss₂ _
  cases r with
  | error e =>
    intro v hv
    cases hv
  | ok u =>
    intro v hv
    injection hv with hv
    obtain ⟨row, hrow, hv⟩ := Option.bind_eq_some_iff.mp hv
    have hmem := List.mem_filter.mp (List.mem_of_mem_head? hrow)
    rw [Bool.and_eq_true, decide_eq_true_eq] at hmem
    refine ⟨s₁, row, he.inv, hj₁, ?_, hv⟩
    rw [← hmem.2.1]
    exact Table.get?_of_mem hmem.1

section

variable {s : State Tbl} {ss : Session Tbl}

/-- A row that is not there is not found. -/
theorem wp_get_absent {key : String} (hstable : C.Stable (Absent Tbl.runtime_cache key))
    (habs : Absent Tbl.runtime_cache key s ss.ws) :
    wp C (RuntimeCache.get key) (fun r _ _ => ∀ v, r = .ok v → v = none) s ss := by
  refine wp_mono (wp_cacheGet hstable habs) ?_
  intro r _ _ h v hv
  cases v with
  | none => rfl
  | some v =>
    obtain ⟨s₁, row, -, habs₁, hrow, -⟩ := h v hv
    unfold Absent at habs₁
    rw [State.view, habs₁] at hrow
    cases hrow

/-- A row that was removed is away. -/
theorem wp_delete_absent {key : String} (hstable : C.Stable (Absent Tbl.runtime_cache key)) :
    wp C (RuntimeCache.delete [key])
      (fun _ s' ss' => Absent Tbl.runtime_cache key s' ss'.ws) s ss := by
  refine (wp_bind _ _ _ _ _).mpr (wp_mono (wp_deleteReturning_key (fun r hr => ?_) hstable) ?_)
  · exact decide_eq_true (List.mem_singleton.mpr hr)
  · rintro (e | rows) s' ss' h <;> exact h

end

/-! ## §2. The configuration. -/

/-- Texts that begin in different ways. -/
theorem append_ne_append (n : Nat) {a b : String} (ha : n ≤ a.toList.length)
    (hb : n ≤ b.toList.length) (h : a.toList.take n ≠ b.toList.take n) (x y : String) :
    a ++ x ≠ b ++ y := by
  intro heq
  refine h ?_
  have htake := congrArg (fun s : String => s.toList.take n) heq
  simpa only [String.toList_append, List.take_append_of_le_length ha,
    List.take_append_of_le_length hb] using htake

theorem cacheKey_injective {key key' : String}
    (h : SettingService.Cached.cacheKey key = SettingService.Cached.cacheKey key') : key = key' :=
  String.append_right_inj _ |>.mp h

section

open SettingService.Cached

variable (rt : Runtime) (hJ : C.Stable J) {key : String} (hopen : CacheOpen C J (cacheKey key))

include hJ hopen

theorem steady_cacheSet (value : String) : C.Steady J (cacheSet key value) :=
  .bind (steady_set hJ hopen _ _ _) fun _ => .ret _

theorem steady_getCached : C.Steady J (getCached rt key) := by
  refine .bind (steady_get hJ hopen.del) fun cached => ?_
  cases cached with
  | some val => exact .ret _
  | none =>
    refine .bind (steady_selectOne hJ _) fun item => ?_
    cases item with
    | none => exact .ret _
    | some item => exact .bind (steady_cacheSet hJ hopen _) fun _ => .ret _

theorem steady_getStr (default : String) : C.Steady J (getStr rt key default) :=
  .bind (steady_getCached rt hJ hopen) fun _ => .ret _

theorem steady_getInt (default : Int) : C.Steady J (getInt rt key default) := by
  refine .bind (steady_getCached rt hJ hopen) fun val => ?_
  cases val with
  | none => exact .ret _
  | some val =>
    dsimp only
    cases rt.int_of_str val with
    | none => exact .throw _
    | some i => exact .ret _

end

/-! ## §3. A setting that reads as an integer. -/

/-- A copy that reads as `n`. -/
def CopyReads (rt : Runtime) (n : Int) (row : RuntimeCacheRow) : Prop :=
  ∀ v, RuntimeCache.decodeJsonb row.value = some v → rt.int_of_str (rt.str v) = some n

/-- The setting is stored, and its row and its copy read as `n`. -/
structure SettingReads (rt : Runtime) (key : String) (n : Int) (db : Database) : Prop where
  stored : ∃ item : Setting, item ∈ (db .setting).rows ∧ item.key = key
  row : ∀ item : Setting, item ∈ (db .setting).rows → item.key = key →
    rt.int_of_str item.value = some n
  copy : ∀ row : RuntimeCacheRow,
    (db .runtime_cache).get? (SettingService.Cached.cacheKey key) = some row → CopyReads rt n row

/-- The setting, wherever it is kept, reads as `n`. -/
structure ReadsAs (rt : Runtime) (key : String) (default n : Int) (db : Database) : Prop where
  absent : (∀ item : Setting, item ∈ (db .setting).rows → item.key ≠ key) → default = n
  row : ∀ item : Setting, item ∈ (db .setting).rows → item.key = key →
    rt.int_of_str item.value = some n
  copy : ∀ row : RuntimeCacheRow,
    (db .runtime_cache).get? (SettingService.Cached.cacheKey key) = some row → CopyReads rt n row

theorem SettingReads.readsAs {rt : Runtime} {key : String} {n : Int} {db : Database}
    (h : SettingReads rt key n db) (default : Int) : ReadsAs rt key default n db := by
  refine ⟨fun hnone => ?_, h.row, h.copy⟩
  obtain ⟨item, hmem, hkey⟩ := h.stored
  exact absurd hkey (hnone item hmem)

/-- A write after which the setting still reads as `n`. -/
structure KeepsReading (rt : Runtime) (key : String) (n : Int) (w : Write Tbl) : Prop where
  table : w.table ≠ .setting
  copy : ∀ row : RuntimeCacheRow, w = .put Tbl.runtime_cache row →
    row.key = SettingService.Cached.cacheKey key → CopyReads rt n row

theorem ReadsAs.apply {rt : Runtime} {key : String} {default n : Int} {db : Database}
    {ws : List (Write Tbl)} (h : ReadsAs rt key default n db)
    (hws : ∀ w ∈ ws, KeepsReading rt key n w) : ReadsAs rt key default n (db.apply ws) := by
  have hsetting : db.apply ws .setting = db .setting :=
    DB.apply_of_table_not_mem db ws fun w hw => (hws w hw).table
  refine ⟨by rw [hsetting]; exact h.absent, by rw [hsetting]; exact h.row, fun row hrow => ?_⟩
  rcases DB.get?_apply_some hrow with hold | hput
  · exact h.copy row hold
  · exact (hws _ hput).copy row rfl (Table.key_of_get? hrow)

theorem SettingReads.apply {rt : Runtime} {key : String} {n : Int} {db : Database}
    {ws : List (Write Tbl)} (h : SettingReads rt key n db)
    (hws : ∀ w ∈ ws, KeepsReading rt key n w) : SettingReads rt key n (db.apply ws) := by
  have hreads := (h.readsAs n).apply hws
  have hsetting : db.apply ws .setting = db .setting :=
    DB.apply_of_table_not_mem db ws fun w hw => (hws w hw).table
  exact ⟨by rw [hsetting]; exact h.stored, hreads.row, hreads.copy⟩

section

open SettingService.Cached

variable {rt : Runtime} {key : String} {default n : Int} {W : Write Tbl → Prop}

/-- **A read of a setting** answers from a copy that the session sees, or from the row and
    then stores a copy of it. -/
theorem wp_getCached {A : Except PyExc (Option String) → Prop}
    (hcopy : ∀ s (ss : Session Tbl) row v, C.Inv s → Only W s ss.ws →
      (s.view ss .runtime_cache).get? (cacheKey key) = some row →
      RuntimeCache.decodeJsonb (RuntimeCacheRow.value row) = some v → A (.ok (some (rt.str v))))
    (hrow : ∀ s (ss : Session Tbl), C.Inv s → Only W s ss.ws →
      wp C (SettingRepository.getByKey key)
        (fun r _ _ => A (r.map (Option.map Setting.value))) s ss)
    (hput : ∀ (row : RuntimeCacheRow) text, row.key = cacheKey key → row.value = .str text →
      A (.ok (some text)) → W (.put Tbl.runtime_cache row))
    (hdel : W (.del Tbl.runtime_cache (cacheKey key))) {s : State Tbl} {ss : Session Tbl}
    (hi : C.Inv s) (hj : Only W s ss.ws) :
    wp C (getCached rt key) (fun r s' ss' => Only W s' ss'.ws ∧ A r) s ss := by
  have hstable := Only.stable C W
  have hdelete : CacheDel C (Only W) (cacheKey key) := fun s ws _ h => h.append hdel
  refine (wp_bind _ _ _ _ _).mpr (wp_mono (wp_and (wp_total (total_get _) s ss)
    (wp_and (wp_inv hi (steady_get hstable hdelete s ss hi hj)) (wp_cacheGet hstable hj))) ?_)
  rintro r s₁ ss₁ ⟨⟨cached, rfl⟩, ⟨hi₁, hj₁⟩, hgot⟩
  cases cached with
  | some v =>
    obtain ⟨s₂, row, hi₂, hj₂, hrow, hv⟩ := hgot v rfl
    exact ⟨hj₁, hcopy s₂ ss row v hi₂ hj₂ hrow hv⟩
  | none =>
    refine (wp_bind _ _ _ _ _).mpr (wp_mono (wp_and (hrow s₁ ss₁ hi₁ hj₁)
      (wp_inv hi₁ (steady_selectOne hstable _ s₁ ss₁ hi₁ hj₁))) ?_)
    rintro (e | item) s₂ ss₂ ⟨hA, hi₂, hj₂⟩
    · exact ⟨hj₂, hA⟩
    · cases item with
      | none => exact ⟨hj₂, hA⟩
      | some item =>
        have hset : C.Steady (Only W) (cacheSet key item.value) := by
          refine .bind (steady_set_value hstable hdelete _ _ _ fun row hkey hv s ws _ hj => ?_)
            fun _ => .ret _
          exact hj.append (hput row _ hkey hv hA)
        refine (wp_bind _ _ _ _ _).mpr (wp_mono (wp_and (wp_total (total_cacheSet _ _) s₂ ss₂)
          (hset s₂ ss₂ hi₂ hj₂)) ?_)
        rintro r s₃ ss₃ ⟨⟨u, rfl⟩, hj₃⟩
        exact ⟨hj₃, hA⟩

/-- **A setting that reads as `n`** gives `n`, and its new copy reads as `n` too. -/
theorem wp_getInt_readsAs (hread : ∀ s, C.Inv s → ReadsAs rt key default n s.db)
    (hW : ∀ w, W w → KeepsReading rt key n w)
    (hput : ∀ row : RuntimeCacheRow, row.key = cacheKey key → CopyReads rt n row →
      W (.put Tbl.runtime_cache row))
    (hdel : W (.del Tbl.runtime_cache (cacheKey key))) {s : State Tbl} {ss : Session Tbl}
    (hi : C.Inv s) (hj : Only W s ss.ws) :
    wp C (getInt rt key default)
      (fun r s' ss' => Only W s' ss'.ws ∧ ∀ m, r = .ok m → m = n) s ss := by
  have hseen : ∀ (s : State Tbl) (ss : Session Tbl), C.Inv s → Only W s ss.ws →
      ReadsAs rt key default n (s.view ss) :=
    fun s ss hi hj => (hread s hi).apply fun w hw => hW w (hj w hw)
  refine (wp_bind _ _ _ _ _).mpr (wp_mono (wp_getCached (A := fun r => ∀ val, r = .ok val →
    (val = none ∧ default = n) ∨ ∃ text, val = some text ∧ rt.int_of_str text = some n)
      ?_ ?_ ?_ hdel hi hj) ?_)
  · intro s ss row v hi hj hrow hv val h
    cases h
    exact Or.inr ⟨_, rfl, (hseen s ss hi hj).copy row hrow v hv⟩
  · intro s ss hi hj
    refine wp_selectOne (fun s₂ he hnone => ?_) (fun s₂ item he hrow hkey => ?_) fun s₂ he => ?_
    · intro val h
      cases h
      refine Or.inl ⟨rfl, (hseen s₂ ss he.inv hj).absent fun item hmem hkey => ?_⟩
      have := hnone item hmem
      simp [hkey] at this
    · rw [decide_eq_true_eq] at hkey
      intro val h
      cases h
      exact Or.inr ⟨_, rfl, (hseen s₂ ss he.inv hj).row item (Table.mem_of_get? hrow) hkey⟩
    · exact fun val h => by cases h
  · intro row text hkey hv hA
    refine hput row hkey ?_
    rcases hA _ rfl with ⟨hnone, -⟩ | ⟨_, htext, hn⟩
    · cases hnone
    · cases htext
      unfold CopyReads
      rw [hv]
      intro v h
      cases h
      exact hn
  · rintro (e | val) s' ss' ⟨hj', hval⟩
    · exact ⟨hj', fun m h => by cases h⟩
    · rcases hval val rfl with ⟨rfl, hdefault⟩ | ⟨text, rfl, htext⟩
      · refine ⟨hj', fun m h => ?_⟩
        cases h
        exact hdefault
      · dsimp only
        rw [htext]
        refine ⟨hj', fun m h => ?_⟩
        cases h
        rfl

theorem wp_getInt_reads (hread : ∀ s, C.Inv s → SettingReads rt key n s.db)
    (hW : ∀ w, W w → KeepsReading rt key n w)
    (hput : ∀ row : RuntimeCacheRow, row.key = cacheKey key → CopyReads rt n row →
      W (.put Tbl.runtime_cache row))
    (hdel : W (.del Tbl.runtime_cache (cacheKey key))) {s : State Tbl} {ss : Session Tbl}
    (hi : C.Inv s) (hj : Only W s ss.ws) (default : Int) :
    wp C (getInt rt key default)
      (fun r s' ss' => Only W s' ss'.ws ∧ ∀ m, r = .ok m → m = n) s ss :=
  wp_getInt_readsAs (fun s hi => (hread s hi).readsAs default) hW hput hdel hi hj

end

/-! ## §4. The subscription pages. -/

/-- The setting that says what a subscription address carries. -/
def methodSetting : String := "show_subscribe_method"

/-- `J` bears what the subscription pages write, apart from the one-time tokens that they
    draw. -/
structure PageOpen (rt : Runtime) (C : Contract L Tbl)
    (J : State Tbl → List (Write Tbl) → Prop) : Prop where
  stable : C.Stable J
  method : C.Steady J (SettingService.Cached.getInt rt methodSetting 0)
  setting : ∀ key, key ≠ methodSetting → CacheOpen C J (SettingService.Cached.cacheKey key)
  otp : ∀ token, CacheOpen C J (SubscribeService.otpKey token)
  totp : ∀ token, CacheOpen C J (SubscribeService.totpKey token)
  alive : ∀ user_id, CacheDel C J ("ALIVE_IP_USER_" ++ user_id)

namespace SubscribeService

variable {rt : Runtime} (fm : Formats) (h : PageOpen rt C J)

/-- The one-time token that some bytes stand for. -/
def drawnToken (token_bytes : List UInt8) : String := String.ofList (Base64.urlsafe token_bytes)

include h

omit fm in
theorem steady_oneTimeToken (user_token : String) {token_bytes : List UInt8}
    (hdrawn : CacheOpen C J (otpnKey (drawnToken token_bytes))) :
    C.Steady J (oneTimeToken rt user_token token_bytes) := by
  have hdraw : C.Steady J (oneTimeToken.drawToken rt user_token token_bytes) := by
    refine .bind (steady_set h.stable (h.otp _) _ _ _) fun added => ?_
    refine .ite (.bind (steady_set h.stable hdrawn _ _ _) fun _ => .ret _) ?_
    exact .bind (steady_get h.stable (h.otp _).del) fun _ => .ret _
  refine .bind (steady_get h.stable (h.otp _).del) fun cached => ?_
  cases cached with
  | none => exact hdraw
  | some cached => exact .ite (.ret _) hdraw

theorem steady_totpToken (user : User) : C.Steady J (totpToken rt fm user) :=
  .bind (steady_getInt rt h.stable (h.setting _ (by decide)) _) fun _ =>
    .bind (steady_time h.stable) fun _ => .bind (steady_liftExcept _) fun _ => .ret _

omit fm in
theorem steady_subscribeBaseUrl : C.Steady J (subscribeBaseUrl rt) := by
  refine .bind (steady_getStr rt h.stable (h.setting _ (by decide)) _) fun urls => ?_
  dsimp only
  generalize (if urls = "" then [] else (splitCommas rt urls).map rstripSlash) = candidates
  cases candidates with
  | cons url urls => exact .ret _
  | nil => exact .bind (steady_getStr rt h.stable (h.setting _ (by decide)) _) fun _ => .ret _

theorem steady_subscribeToken (method : Int) (user : User) {token_bytes : List UInt8}
    (hdrawn : CacheOpen C J (otpnKey (drawnToken token_bytes))) :
    C.Steady J (subscribeToken rt fm method user token_bytes) :=
  .ite (steady_oneTimeToken h _ hdrawn) (.ite (steady_totpToken fm h user) (.ret _))

theorem steady_buildSubscribeUrl (user : User) {token_bytes : List UInt8}
    (hdrawn : CacheOpen C J (otpnKey (drawnToken token_bytes))) :
    C.Steady J (buildSubscribeUrl rt fm user token_bytes) := by
  refine .bind h.method fun method => ?_
  refine .bind (steady_getStr rt h.stable (h.setting _ (by decide)) _) fun path => ?_
  refine .bind (steady_subscribeToken fm h method user hdrawn) fun token => ?_
  exact .bind (steady_subscribeBaseUrl h) fun _ => .ret _

theorem steady_checkTotpToken (token : String) : C.Steady J (checkTotpToken rt fm token) := by
  refine .bind (steady_get h.stable (h.totp _).del) fun cached => ?_
  cases cached with
  | some cached => exact .ret _
  | none =>
    refine .bind (steady_liftExcept _) fun decoded => ?_
    refine .bind (.get h.stable _ _) fun user => ?_
    cases user with
    | none => exact .throw _
    | some user =>
      refine .bind (steady_getInt rt h.stable (h.setting _ (by decide)) _) fun _ => ?_
      refine .bind (steady_time h.stable) fun _ => .bind (steady_liftExcept _) fun _ => ?_
      refine .bind (steady_liftExcept _) fun accepted => .ite ?_ (.throw _)
      exact .bind (steady_set h.stable (h.totp _) _ _ _) fun _ => .ret _

omit fm in
theorem steady_takeOneTimeToken {token : String} (htoken : CacheDel C J (otpnKey token)) :
    C.Steady J (takeOneTimeToken rt token) := by
  refine .bind (steady_get h.stable htoken) fun raw => ?_
  cases raw with
  | none => exact .throw _
  | some raw =>
    refine .bind (steady_delete h.stable htoken) fun _ => ?_
    exact .bind (steady_delete h.stable (h.otp _).del) fun _ => .ret _

theorem steady_userTokenOf (method : Int) {token : String}
    (htoken : CacheDel C J (otpnKey token)) : C.Steady J (userTokenOf rt fm method token) :=
  .ite (steady_takeOneTimeToken h htoken) (.ite (steady_checkTotpToken fm h token) (.ret _))

omit fm in
/-- The query for the user at the end of `resolve_subscribe_user`. -/
theorem steady_userOf (user_token : String) :
    C.Steady J (Prog.bind (UserRepository.getByToken user_token) fun
      | none => Prog.throw (UnauthorizedException "token is error")
      | some user => .ret user : Db User) := by
  refine .bind (steady_selectOne h.stable _) fun user => ?_
  cases user with
  | none => exact .throw _
  | some user => exact .ret _

theorem steady_resolveSubscribeUser {token : String} (htoken : CacheDel C J (otpnKey token)) :
    C.Steady J (resolveSubscribeUser rt fm token) := by
  exact .ite (.throw _) (.bind h.method fun method =>
    .bind (steady_userTokenOf fm h method htoken) (steady_userOf h))

theorem steady_getAvailableServers (user : User) :
    C.Steady J (getAvailableServers rt fm user) := by
  refine .bind (steady_time h.stable) fun now => .ite (.ret _) (.bind ?_ fun nodes => ?_)
  · unfold ServerV2NodeRepository.listVisibleByGroup
    cases user.group_id with
    | none => exact .ret _
    | some group_id => exact .bind (.select h.stable _ _) fun _ => .ret _
  · refine .bind (steady_liftExcept _) fun servers => ?_
    refine .bind (steady_getInt rt h.stable (h.setting _ (by decide)) _) fun info => ?_
    exact .ite (.ret _) (.ret _)

theorem steady_renderSubscription (user : User) (flag : String) {token_bytes : List UInt8}
    (hdrawn : CacheOpen C J (otpnKey (drawnToken token_bytes))) :
    C.Steady J (renderSubscription rt fm user flag token_bytes) := by
  refine .bind (steady_time h.stable) fun now => .ite (.throw _) ?_
  refine .bind (steady_getStr rt h.stable (h.setting _ (by decide)) _) fun _ => ?_
  refine .bind (steady_getStr rt h.stable (h.setting _ (by decide)) _) fun _ => ?_
  refine .bind (steady_liftExcept _) fun _ =>
    .bind (steady_getAvailableServers fm h user) fun _ => ?_
  exact .bind (steady_buildSubscribeUrl fm h user hdrawn) fun _ => steady_liftExcept _

theorem steady_getUserSubscribeInfo (user_id : Int) {token_bytes : List UInt8}
    (hdrawn : CacheOpen C J (otpnKey (drawnToken token_bytes))) :
    C.Steady J (getUserSubscribeInfo rt fm user_id token_bytes) := by
  refine .bind (.get h.stable _ _) fun user => ?_
  cases user with
  | none => exact .throw _
  | some user =>
    refine .bind ?_ fun plan => .bind ?_ fun alive_data => .bind (steady_liftExcept _) fun _ => ?_
    · unfold getUserSubscribeInfo.planOf
      split
      · exact .ret _
      · exact .ite (.ret _) (.get h.stable _ _)
    · refine .bind (steady_get h.stable (h.alive _)) fun cached => ?_
      split <;> exact .ret _
    · refine .bind (steady_buildSubscribeUrl fm h user hdrawn) fun _ => ?_
      exact .bind (steady_getInt rt h.stable (h.setting _ (by decide)) _) fun _ => .ret _

end SubscribeService

/-! ## §5. The login pages. -/

section

variable {rt : Runtime} (fm : Formats) (hJ : C.Stable J)
  (huser : ∀ (user : User) s ws, C.Inv s → J s ws → J s (ws ++ [.put Tbl.users user]))

include hJ huser

theorem steady_updateUser (old new : User) : C.Steady J (UserRepository.update old new) := by
  refine .bind
    (steady_whenever (.bind (.update hJ fun cur _ => huser _) fun found => ?_)) fun _ => ?_
  · cases found
    · exact .throw _
    · exact .ret _
  · refine .bind (.get hJ _ _) fun user => ?_
    cases user with
    | none => exact .throw _
    | some user => exact .ret _

theorem steady_buildTokenForUserId (user_id : Int) :
    C.Steady J (AuthService.buildTokenForUserId fm user_id) := by
  refine .bind (.get hJ _ _) fun user => ?_
  cases user with
  | none => exact .throw _
  | some user =>
    refine .ite (.throw _) (.bind (steady_time hJ) fun now => ?_)
    exact .bind (steady_updateUser hJ huser _ _) fun _ => .bind (steady_time hJ) fun _ => .ret _

end

end PyBoard
