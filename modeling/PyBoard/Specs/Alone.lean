/-
  PyBoard.Specs.Alone — reads through the runtime cache, running alone.

  A request that only reads may still write copies of settings and remove dead rows, all in
  the table `runtime_cache`.  Running alone it sees every other table as it was committed, and
  a live document as long as it does not write its key.

  Main result: `run_getInt_alone`, what a read of a setting answers and leaves.
-/
import PyBoard.Relational.Exclusive
import PyBoard.Specs.Cache
import PyBoard.Specs.Steady

namespace PyBoard

open Relational

variable {rt : Runtime} {s : State Tbl} {ss : Session Tbl} {α : Type}

/-! ## §1. Sessions that write the cache. -/

/-- Every write of the session is one of the cache. -/
def CacheOnly (ss : Session Tbl) : Prop := ∀ w ∈ ss.ws, w.table = Tbl.runtime_cache

/-- From `ss` on, the session has written the cache alone. -/
def CacheSince (ss ss' : Session Tbl) : Prop :=
  ∃ ws, ss'.ws = ss.ws ++ ws ∧ ∀ w ∈ ws, w.table = Tbl.runtime_cache

theorem CacheOnly.fresh : CacheOnly (Session.fresh : Session Tbl) := by
  intro w hw
  cases hw

theorem CacheSince.refl (ss : Session Tbl) : CacheSince ss ss :=
  ⟨[], (List.append_nil _).symm, fun w hw => by cases hw⟩

theorem CacheSince.trans {ss₁ ss₂ ss₃ : Session Tbl} (h : CacheSince ss₁ ss₂)
    (h' : CacheSince ss₂ ss₃) : CacheSince ss₁ ss₃ := by
  obtain ⟨ws, heq, hws⟩ := h
  obtain ⟨ws', heq', hws'⟩ := h'
  refine ⟨ws ++ ws', by rw [heq', heq, List.append_assoc], fun w hw => ?_⟩
  rcases List.mem_append.mp hw with hw | hw
  · exact hws w hw
  · exact hws' w hw

theorem CacheOnly.since {ss' : Session Tbl} (h : CacheOnly ss) (h' : CacheSince ss ss') :
    CacheOnly ss' := by
  obtain ⟨ws, heq, hws⟩ := h'
  intro w hw
  rw [heq] at hw
  rcases List.mem_append.mp hw with hw | hw
  · exact h w hw
  · exact hws w hw

/-- Every other table is seen as before. -/
theorem CacheSince.view {ss' : Session Tbl} (h : CacheSince ss ss') {t : Tbl}
    (ht : t ≠ .runtime_cache) : s.view ss' t = s.view ss t := by
  obtain ⟨ws, heq, hws⟩ := h
  rw [State.view, State.view, heq, DB.apply_append]
  refine DB.apply_of_table_not_mem _ ws fun w hw htable => ht ?_
  rw [← htable, hws w hw]

/-- Every other table is seen as it was committed. -/
theorem CacheOnly.view (h : CacheOnly ss) {t : Tbl} (ht : t ≠ .runtime_cache) :
    s.view ss t = s.db t := by
  refine DB.apply_of_table_not_mem s.db ss.ws fun w hw heq => ht ?_
  rw [← heq, h w hw]

/-- The writes `ws`, and then some of the cache. -/
def Appends (ws : List (Write Tbl)) (_s : State Tbl) (ws' : List (Write Tbl)) : Prop :=
  ∃ cached, ws' = ws ++ cached ∧ ∀ w ∈ cached, w.table = Tbl.runtime_cache

theorem Appends.append {ws ws' : List (Write Tbl)} {w : Write Tbl} (h : Appends ws s ws')
    (hw : w.table = Tbl.runtime_cache) : Appends ws s (ws' ++ [w]) := by
  obtain ⟨cached, heq, hcached⟩ := h
  refine ⟨cached ++ [w], by rw [heq, List.append_assoc], fun w' hw' => ?_⟩
  rcases List.mem_append.mp hw' with hw' | hw'
  · exact hcached w' hw'
  · rw [List.mem_singleton.mp hw']
    exact hw

theorem appends_stable (ws : List (Write Tbl)) :
    (Contract.solo : Contract Unit Tbl).Stable (Appends ws) := fun _ _ _ _ _ hj => hj

theorem appends_open (ws : List (Write Tbl)) (key : String) :
    CacheOpen (Contract.solo : Contract Unit Tbl) (Appends ws) key where
  put _ _ _ _ _ hj := hj.append rfl
  del _ _ _ hj := hj.append rfl

/-- A program of statements on the cache. -/
theorem cacheSince_run {p : Db α}
    (hp : (Contract.solo : Contract Unit Tbl).Steady (Appends ss.ws) p) :
    CacheSince ss (p.run s ss).2 :=
  wp_run trivial (fun _ _ => rfl)
    (hp s ss trivial ⟨[], (List.append_nil _).symm, fun w hw => by cases hw⟩)

/-! ## §2. Documents. -/

/-- The live document of a key, as the session sees it. -/
def liveDocument (s : State Tbl) (ss : Session Tbl) (key : String) : Option Json :=
  readLive ((stored (s.view ss)).purge s.now) key

/-- The session sees the same live document under a key. -/
def SameDocument (s : State Tbl) (ss ss' : Session Tbl) (key : String) : Prop :=
  liveDocument s ss' key = liveDocument s ss key

theorem sameDocument_of_purge {ss' : Session Tbl} {key : String}
    (h : (stored (s.view ss')).purge s.now key = (stored (s.view ss)).purge s.now key) :
    SameDocument s ss ss' key := by
  unfold SameDocument liveDocument readLive
  rw [h]

/-- A session that has not written the cache in between. -/
theorem sameDocument_of_view {ss' : Session Tbl}
    (h : s.view ss' .runtime_cache = s.view ss .runtime_cache) (key : String) :
    SameDocument s ss ss' key := by
  unfold SameDocument liveDocument stored
  rw [h]

/-- A read answers the live document, and leaves every live document. -/
theorem run_get_since (s : State Tbl) (ss : Session Tbl) (key : String) :
    ∃ ss', (RuntimeCache.get key).run s ss = (.ok (liveDocument s ss key), ss') ∧
      CacheSince ss ss' ∧ ∀ k, SameDocument s ss ss' k := by
  obtain ⟨ss', hrun, hstored⟩ := run_get s ss key
  have hsince := cacheSince_run (s := s)
    (steady_get (appends_stable _) (appends_open ss.ws key).del)
  rw [hrun] at hsince
  refine ⟨ss', hrun, hsince, fun k => sameDocument_of_purge ?_⟩
  rw [hstored, (TtlMap.trims_dropDead s.now _ key).purge_eq]

theorem run_set_since (s : State Tbl) (ss : Session Tbl) (key : String) (value : Json)
    (ex : Option Int) :
    ∃ ss', (RuntimeCache.set key value ex).run s ss = (.ok true, ss') ∧ CacheSince ss ss' ∧
      ∀ k, k ≠ key → SameDocument s ss ss' k := by
  obtain ⟨ss', hrun, hstored⟩ := run_set s ss key value ex
  have hsince := cacheSince_run (s := s)
    (steady_set (appends_stable _) (appends_open ss.ws key) value ex false)
  rw [hrun] at hsince
  refine ⟨ss', hrun, hsince, fun k hk => sameDocument_of_purge ?_⟩
  rw [hstored, TtlMap.purge_update, Function.update_of_ne hk]

theorem run_get_alone (h : CacheOnly ss) (key : String) :
    ∃ ss', (RuntimeCache.get key).run s ss = (.ok (liveDocument s ss key), ss') ∧ CacheOnly ss' ∧
      ∀ k, SameDocument s ss ss' k := by
  obtain ⟨ss', hrun, hsince, hsame⟩ := run_get_since s ss key
  exact ⟨ss', hrun, h.since hsince, hsame⟩

theorem run_set_alone (h : CacheOnly ss) (key : String) (value : Json) (ex : Option Int) :
    ∃ ss', (RuntimeCache.set key value ex).run s ss = (.ok true, ss') ∧ CacheOnly ss' ∧
      ∀ k, k ≠ key → SameDocument s ss ss' k := by
  obtain ⟨ss', hrun, hsince, hsame⟩ := run_set_since s ss key value ex
  exact ⟨ss', hrun, h.since hsince, hsame⟩

theorem run_delete_alone (h : CacheOnly ss) (key : String) :
    ∃ ss' n, (RuntimeCache.delete [key]).run s ss = (.ok n, ss') ∧ CacheOnly ss' ∧
      ∀ k, k ≠ key → SameDocument s ss ss' k := by
  obtain ⟨ss', hrun, hstored⟩ := run_delete s ss [key]
  have hsince := cacheSince_run (s := s)
    (steady_delete (appends_stable _) (appends_open ss.ws key).del)
  rw [hrun] at hsince
  refine ⟨ss', _, hrun, h.since hsince, fun k hk => sameDocument_of_purge ?_⟩
  rw [hstored, TtlMap.purge_apply, TtlMap.purge_apply, if_neg (by simpa using hk)]

/-! ## §3. Settings. -/

/-- The text of a setting: its live copy, or else its row. -/
def settingText (rt : Runtime) (s : State Tbl) (ss : Session Tbl) (key : String) :
    Except PyExc (Option String) :=
  match liveDocument s ss (SettingService.Cached.cacheKey key) with
  | some value => .ok (some (rt.str value))
  | none => storedSetting (s.db .setting).rows key

/-- `int(val) if val is not None else default`. -/
def settingInt (rt : Runtime) (s : State Tbl) (ss : Session Tbl) (key : String) (default : Int) :
    Except PyExc Int :=
  match settingText rt s ss key with
  | .error e => .error e
  | .ok none => .ok default
  | .ok (some val) =>
      match rt.int_of_str val with
      | some i => .ok i
      | none => .error (.value "invalid literal for int()")

theorem settingInt_congr {ss' : Session Tbl} {key : String}
    (h : SameDocument s ss ss' (SettingService.Cached.cacheKey key)) (default : Int) :
    settingInt rt s ss' key default = settingInt rt s ss key default := by
  unfold settingInt settingText
  rw [h]

variable (rt)

open SettingService.Cached in
/-- A read of a setting answers its text, and leaves the other documents. -/
theorem run_getCached_since (hrows : s.view ss .setting = s.db .setting) (key : String) :
    ∃ ss', (getCached rt key).run s ss = (settingText rt s ss key, ss') ∧ CacheSince ss ss' ∧
      ∀ k, k ≠ cacheKey key → SameDocument s ss ss' k := by
  obtain ⟨ss₁, hget, hsince, hsame⟩ := run_get_since s ss (cacheKey key)
  unfold getCached settingText
  rw [Prog.bind_eq, Prog.run_bind, hget]
  dsimp only
  cases hcached : liveDocument s ss (cacheKey key) with
  | some value => exact ⟨ss₁, rfl, hsince, fun k _ => hsame k⟩
  | none =>
      dsimp only
      have hrows₁ : s.view ss₁ .setting = s.db .setting := (hsince.view (by decide)).trans hrows
      unfold SettingRepository.getByKey storedSetting
      rw [Prog.bind_eq, Prog.bind_eq, Prog.bind_assoc, Prog.run_select_bind, hrows₁]
      cases hfound : (s.db .setting).rows.filter fun item : Setting => item.key = key with
      | nil => exact ⟨ss₁, rfl, hsince, fun k _ => hsame k⟩
      | cons item rest =>
          cases rest with
          | cons _ _ => exact ⟨ss₁, rfl, hsince, fun k _ => hsame k⟩
          | nil =>
              obtain ⟨ss₂, hset, hsince₂, hsame₂⟩ := run_set_since s ss₁ (cacheKey key)
                (.str item.value) (some CACHE_TTL)
              refine ⟨ss₂, ?_, hsince.trans hsince₂, fun k hk => (hsame₂ k hk).trans (hsame k)⟩
              show ((cacheSet key item.value).bind fun _ => _).run s ss₁ = _
              unfold cacheSet
              rw [Prog.bind_eq, Prog.bind_assoc, Prog.run_bind, hset]
              rfl

open SettingService.Cached in
theorem run_getCached_alone (h : CacheOnly ss) (key : String) :
    ∃ ss', (getCached rt key).run s ss = (settingText rt s ss key, ss') ∧ CacheOnly ss' ∧
      ∀ k, k ≠ cacheKey key → SameDocument s ss ss' k := by
  obtain ⟨ss', hrun, hsince, hsame⟩ := run_getCached_since rt (h.view (by decide)) key
  exact ⟨ss', hrun, h.since hsince, hsame⟩

open SettingService.Cached in
theorem run_getInt_alone (h : CacheOnly ss) (key : String) (default : Int) :
    ∃ ss', (getInt rt key default).run s ss = (settingInt rt s ss key default, ss') ∧
      CacheOnly ss' ∧ ∀ k, k ≠ cacheKey key → SameDocument s ss ss' k := by
  obtain ⟨ss', hrun, honly, hsame⟩ := run_getCached_alone rt (s := s) h key
  refine ⟨ss', ?_, honly, hsame⟩
  unfold getInt settingInt
  rw [Prog.bind_eq, Prog.run_bind, hrun]
  cases settingText rt s ss key with
  | error e => rfl
  | ok val =>
      cases val with
      | none => rfl
      | some val =>
          dsimp only
          cases rt.int_of_str val <;> rfl

end PyBoard
