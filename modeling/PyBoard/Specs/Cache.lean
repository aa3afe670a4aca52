/-
  PyBoard.Specs.Cache — what a call of the runtime cache does.

  The table `runtime_cache` is a store with expiry times (`stored`) that may still
  hold dead entries.  `CacheCall.onStore` computes what a call answers and what it
  leaves in the store; `CacheCall.run_spec` says that the statements of the call do
  just that.
-/
import PyBoard.Core.Cache
import PyBoard.Relational.Ttl

namespace PyBoard

open Relational

variable (rt : Runtime)

/-! ## §1. Calls. -/

/-- A call of the cache. -/
inductive CacheCall
  | get (key : String)
  | mget (keys : List String)
  | set (key : String) (value : Json) (ex : Option Int) (nx : Bool)
  | delete (keys : List String)
  | incr (key : String) (ex : Option Int)
  | expire (key : String) (ex : Int)
  | cleanup_expired

/-- What a call answers. -/
inductive CacheAnswer
  | value (value : Option Json)
  | values (values : List (Option Json))
  | done (done : Bool)
  | count (count : Int)

/-- Is this a call of `cleanup_expired`? -/
def CacheCall.isCleanup : CacheCall → Bool
  | .cleanup_expired => true
  | _ => false

def CacheCall.prog : CacheCall → Db CacheAnswer
  | .get key => do return .value (← RuntimeCache.get key)
  | .mget keys => do return .values (← RuntimeCache.mget keys)
  | .set key value ex nx => do return .done (← RuntimeCache.set key value ex nx)
  | .delete keys => do return .count (← RuntimeCache.delete keys)
  | .incr key ex => do return .count (← RuntimeCache.incr rt key ex)
  | .expire key ex => do return .done (← RuntimeCache.expire key ex)
  | .cleanup_expired => do return .count (← RuntimeCache.cleanupExpired)

/-! ## §2. The store. -/

/-- The entry of a row. -/
def RuntimeCacheRow.entry (row : RuntimeCacheRow) : Entry Json := ⟨row.value, row.expires_at⟩

theorem RuntimeCacheRow.entry_alive (now : Int) (row : RuntimeCacheRow) :
    row.entry.alive now = row.live now := rfl

/-- The entries that the table stores. -/
def stored (db : Database) : TtlMap String Json :=
  fun key => ((db .runtime_cache).get? key).map RuntimeCacheRow.entry

/-- How many stored rows have expired. -/
def expiredRows (now : Int) (db : Database) : Nat :=
  ((db .runtime_cache).rows.filter fun r : RuntimeCacheRow => r.expired now).length

/-- The value that a read finds among live entries. -/
def readLive (m : TtlMap String Json) (key : String) : Option Json :=
  (m key).bind fun e => RuntimeCache.decodeJsonb e.value

/-- The entry that `incr` leaves over the live entry of its key, if there is one. -/
def counted (now : Int) (ex : Option Int) : Option (Entry Json) → Entry Json
  | none => ⟨.int 1, RuntimeCache.expiresAt now ex⟩
  | some e =>
      { value := .int (RuntimeCache.toBigint rt e.value + 1)
        expires_at := match e.expires_at with
          | none => RuntimeCache.expiresAt now ex
          | some expires_at => some expires_at }

/-- **What a call answers and what it leaves in the store.**  The store may hold dead
    entries; `expired` is how many. -/
def CacheCall.onStore (now : Int) (expired : Nat) (m : TtlMap String Json) :
    CacheCall → Except PyExc CacheAnswer × TtlMap String Json
  | .get key =>
      (.ok (.value (readLive (m.purge now) key)), m.dropDead now key)
  | .mget keys => (.ok (.values (keys.map (readLive (m.purge now)))), m)
  | .set key value ex nx =>
      let e : Entry Json := ⟨value, RuntimeCache.expiresAt now ex⟩
      if nx then
        if (m.purge now key).isSome then (.ok (.done false), m)
        else (.ok (.done true), Function.update m key (some e))
      else (.ok (.done true), Function.update m key (some e))
  | .delete keys =>
      (.ok (.count (keys.dedup.filter fun k => (m k).isSome).length),
        fun k => if k ∈ keys then none else m k)
  | .incr key ex =>
      let e := counted rt now ex (m.purge now key)
      let value := RuntimeCache.toBigint rt e.value
      if RuntimeCache.inBigint value then
        (.ok (.count value), Function.update m key (some e))
      else (.error (.other "NumericValueOutOfRangeError"), m)
  | .expire key ex =>
      (.ok (.done (m key).isSome),
        Function.update m key ((m key).map fun e => { e with expires_at := some (now + ex) }))
  | .cleanup_expired => (.ok (.count expired), m.purge now)

/-! ## §3. Each call does that. -/

section

variable {rt} {s : State Tbl} {ss : Session Tbl}

/-- The rows of one key that a statement finds. -/
theorem rows_of_key (db : Database) (key : String) (q : RuntimeCacheRow → Bool) :
    ((db .runtime_cache).rows.filter fun r : RuntimeCacheRow => decide (r.key = key) && q r)
      = (((db .runtime_cache).get? key).filter q).toList :=
  Table.filter_key_and (db .runtime_cache) key q

theorem purge_stored (db : Database) (now : Int) (key : String) :
    (stored db).purge now key
      = (((db .runtime_cache).get? key).filter (RuntimeCacheRow.live now)).map
          RuntimeCacheRow.entry := by
  rw [TtlMap.purge_apply, stored, Option.filter_map]
  rfl

/-- Removing the expired row of a key. -/
theorem run_deleteExpiredKey (s : State Tbl) (ss : Session Tbl) (key : String) (now : Int) :
    ∃ ss', (RuntimeCache.deleteExpiredKey key now).run s ss = (.ok (), ss') ∧
      stored (s.view ss') = (stored (s.view ss)).dropDead now key := by
  obtain ⟨ss', hrun, hget, -⟩ := Prog.run_deleteReturning (ε := PyExc) s ss Tbl.runtime_cache
    fun (r : RuntimeCacheRow) => r.key = key && r.expired now
  refine ⟨ss', ?_, ?_⟩
  · unfold RuntimeCache.deleteExpiredKey
    rw [Prog.bind_eq, Prog.run_bind, hrun]
    rfl
  · funext k
    rw [TtlMap.dropDead, stored, hget k]
    by_cases hk : k = key
    · subst hk
      rw [Function.update_self, purge_stored]
      cases hr : (s.view ss .runtime_cache).get? k with
      | none => rfl
      | some r =>
          have hkey : RuntimeCacheRow.key r = k := Table.key_of_get? hr
          simp [Option.filter, hkey, RuntimeCacheRow.expired_eq]
    · rw [Function.update_of_ne hk, stored]
      cases hr : (s.view ss .runtime_cache).get? k with
      | none => rfl
      | some r =>
          have hkey : RuntimeCacheRow.key r = k := Table.key_of_get? hr
          simp [Option.filter, hkey, hk]

theorem run_get (s : State Tbl) (ss : Session Tbl) (key : String) :
    ∃ ss', (RuntimeCache.get key).run s ss
        = (.ok (readLive ((stored (s.view ss)).purge s.now) key), ss') ∧
      stored (s.view ss') = (stored (s.view ss)).dropDead s.now key := by
  have hvalue : ((((s.view ss .runtime_cache).get? key).filter
      (RuntimeCacheRow.live s.now)).toList.head?.bind fun r => RuntimeCache.decodeJsonb r.value)
        = readLive ((stored (s.view ss)).purge s.now) key := by
    rw [readLive, purge_stored]
    cases ((s.view ss .runtime_cache).get? key).filter (RuntimeCacheRow.live s.now) <;> rfl
  unfold RuntimeCache.get time
  simp only [Prog.bind_eq, Prog.run_clock_bind, Prog.run_select_bind]
  rw [rows_of_key, hvalue]
  unfold whenever
  split
  · obtain ⟨ss', hrun, hst⟩ := run_deleteExpiredKey s ss key s.now
    refine ⟨ss', ?_, hst⟩
    rw [Prog.run_bind, hrun]
    rfl
  · next hsome =>
    -- what was read is alive, so there is no dead row under the key
    refine ⟨ss, rfl, ?_⟩
    have hfound : ((stored (s.view ss)).purge s.now key).isSome := by
      rw [readLive] at hsome
      cases h : (stored (s.view ss)).purge s.now key with
      | none => simp [h] at hsome
      | some e => rfl
    obtain ⟨e, he⟩ := Option.isSome_iff_exists.mp hfound
    have hfresh : ¬ (stored (s.view ss)).Stale s.now key := by
      intro hstale
      rw [TtlMap.purge_of_stale hstale] at he
      cases he
    rw [TtlMap.dropDead, TtlMap.purge_of_not_stale hfresh, Function.update_eq_self]

theorem run_mget (s : State Tbl) (ss : Session Tbl) (keys : List String) :
    (RuntimeCache.mget keys).run s ss
      = (.ok (keys.map (readLive ((stored (s.view ss)).purge s.now))), ss) := by
  unfold RuntimeCache.mget
  split
  · next hempty =>
    rw [List.isEmpty_iff.mp hempty]
    rfl
  · unfold time
    simp only [Prog.bind_eq, Prog.run_clock_bind, Prog.run_select_bind]
    refine Prod.ext (congrArg Except.ok (List.map_congr_left ?_)) rfl
    intro key hkey
    rw [readLive, purge_stored]
    have hfind : (((s.view ss .runtime_cache).rows.filter fun r : RuntimeCacheRow =>
        decide (r.key ∈ keys) && r.live s.now).find? fun r : RuntimeCacheRow => r.key = key)
          = ((s.view ss .runtime_cache).get? key).filter (RuntimeCacheRow.live s.now) := by
      rw [← List.head?_filter, List.filter_filter]
      have hcongr : ((s.view ss .runtime_cache).rows.filter fun r : RuntimeCacheRow =>
          decide (r.key = key) && (decide (r.key ∈ keys) && r.live s.now))
            = (((s.view ss .runtime_cache).get? key).filter
                (RuntimeCacheRow.live s.now)).toList := by
        rw [← rows_of_key]
        refine List.filter_congr ?_
        intro r _
        by_cases hr : r.key = key
        · simp [hr, hkey]
        · simp [hr]
      rw [hcongr]
      cases ((s.view ss .runtime_cache).get? key).filter (RuntimeCacheRow.live s.now) <;> rfl
    rw [hfind]
    cases ((s.view ss .runtime_cache).get? key).filter (RuntimeCacheRow.live s.now) <;> rfl

/-- The store after one row was written. -/
theorem stored_put (db : Database) (row : RuntimeCacheRow) :
    stored (db.put .runtime_cache row) = Function.update (stored db) row.key (some row.entry) := by
  funext k
  rw [stored, DB.put_same]
  by_cases hk : k = row.key
  · subst hk
    rw [Function.update_self]
    exact congrArg (Option.map RuntimeCacheRow.entry) (Table.get?_put_self _ row)
  · rw [Function.update_of_ne hk]
    exact congrArg (Option.map RuntimeCacheRow.entry) (Table.get?_put_of_ne _ hk)

theorem stored_some {db : Database} {key : String} {e : Entry Json} (h : stored db key = some e) :
    ∃ r : RuntimeCacheRow, (db .runtime_cache).get? key = some r ∧ r.key = key ∧ r.entry = e := by
  obtain ⟨r, hr, he⟩ := Option.map_eq_some_iff.mp h
  exact ⟨r, hr, Table.key_of_get? hr, he⟩

/-- An INSERT of the cache is refused when its key is stored. -/
theorem refuses_row (db : Database) (row : RuntimeCacheRow) :
    DB.refuses db .runtime_cache row = (stored db row.key).isSome := by
  have hconflict : ∀ r : RuntimeCacheRow, Schema.conflict (T := Tbl) (t := .runtime_cache) r row
      = false := fun _ => rfl
  rw [DB.refuses, Bool.eq_iff_iff, List.any_eq_true]
  constructor
  · rintro ⟨r, hr, h⟩
    have hkey : RuntimeCacheRow.key r = row.key := by
      rw [hconflict r, Bool.or_false] at h
      exact of_decide_eq_true h
    have hget : (db .runtime_cache).get? row.key = some r := hkey ▸ Table.get?_of_mem hr
    simp [stored, hget]
  · intro h
    obtain ⟨e, he⟩ := Option.isSome_iff_exists.mp h
    obtain ⟨r, hr, hkey, -⟩ := stored_some he
    refine ⟨r, Table.mem_of_get? hr, ?_⟩
    rw [hconflict r, Bool.or_false]
    exact decide_eq_true hkey

/-- An upsert stores the new row, or what it makes of the stored one. -/
theorem run_upsert (s : State Tbl) (ss : Session Tbl) (row : RuntimeCacheRow)
    {f : RuntimeCacheRow → RuntimeCacheRow} (hf : ∀ r, (f r).key = r.key) :
    ∃ ss' row', (Prog.upsert Tbl.runtime_cache row f : Db RuntimeCacheRow).run s ss
        = (.ok row', ss') ∧
      row' = (match (s.view ss .runtime_cache).get? row.key with
        | none => row
        | some cur => f cur) ∧ row'.key = row.key ∧
      stored (s.view ss') = Function.update (stored (s.view ss)) row.key (some row'.entry) := by
  have hexec : (Prog.upsert Tbl.runtime_cache row f : Db RuntimeCacheRow).run s ss
      = (.ok ((Stmt.upsert Tbl.runtime_cache row f).exec s ss).1,
          ((Stmt.upsert Tbl.runtime_cache row f).exec s ss).2) := rfl
  rw [hexec, Stmt.exec_upsert]
  cases hr : (s.view ss .runtime_cache).get? row.key with
  | none =>
      have hkey : (s.view ss .runtime_cache).get? (Schema.key row) = none := hr
      refine ⟨ss.write (.put Tbl.runtime_cache row), row, by rw [hkey], rfl, rfl, ?_⟩
      rw [State.view_write]
      exact stored_put _ row
  | some cur =>
      have hkey : (s.view ss .runtime_cache).get? (Schema.key row) = some cur := hr
      have hcur : cur.key = row.key := Table.key_of_get? hr
      have hmerge : Schema.merge (T := Tbl) (t := .runtime_cache) cur (f cur) cur = f cur :=
        Schema.merge_self (T := Tbl) (t := .runtime_cache) cur (f cur) (hf cur).symm
      have hnew : (f cur).key = row.key := (hf cur).trans hcur
      refine ⟨ss.write (.put Tbl.runtime_cache (f cur)), f cur, ?_, rfl, hnew, ?_⟩
      · rw [hkey]
        simp only [hmerge]
      · rw [State.view_write, ← hnew]
        exact stored_put _ (f cur)

theorem run_set (s : State Tbl) (ss : Session Tbl) (key : String) (value : Json)
    (ex : Option Int) :
    ∃ ss', (RuntimeCache.set key value ex false).run s ss = (.ok true, ss') ∧
      stored (s.view ss') = Function.update (stored (s.view ss)) key
        (some ⟨value, RuntimeCache.expiresAt s.now ex⟩) := by
  let row : RuntimeCacheRow :=
    { key := key, value := value, expires_at := RuntimeCache.expiresAt s.now ex }
  obtain ⟨ss', row', hrun, hrow, hkey, hst⟩ := run_upsert s ss row
    (f := RuntimeCache.overwrite row) fun _ => rfl
  have hentry : row'.entry = ⟨value, RuntimeCache.expiresAt s.now ex⟩ := by
    rw [hrow]
    cases (s.view ss .runtime_cache).get? row.key <;> rfl
  refine ⟨ss', ?_, by rw [hst, hentry]⟩
  unfold RuntimeCache.set time
  simp only [Bool.false_eq_true, if_false, Prog.bind_eq, Prog.run_clock_bind]
  rw [Prog.run_bind, hrun]
  rfl

theorem run_set_nx (s : State Tbl) (ss : Session Tbl) (key : String) (value : Json)
    (ex : Option Int) :
    ∃ ss', (RuntimeCache.set key value ex true).run s ss
        = (.ok !((stored (s.view ss)).purge s.now key).isSome, ss') ∧
      stored (s.view ss') = if ((stored (s.view ss)).purge s.now key).isSome then
          stored (s.view ss)
        else Function.update (stored (s.view ss)) key
          (some ⟨value, RuntimeCache.expiresAt s.now ex⟩) := by
  let row : RuntimeCacheRow :=
    { key := key, value := value, expires_at := RuntimeCache.expiresAt s.now ex }
  obtain ⟨ss₁, hdel, hst₁⟩ := run_deleteExpiredKey s ss key s.now
  have hlive : stored (s.view ss₁) key = (stored (s.view ss)).purge s.now key := by
    rw [hst₁, TtlMap.dropDead, Function.update_self]
  have hrefuse : DB.refuses (s.view ss₁) .runtime_cache row
      = ((stored (s.view ss)).purge s.now key).isSome := by
    rw [refuses_row, ← hlive]
  have hrun : ∀ r : Bool × Session Tbl, (Stmt.insert Tbl.runtime_cache row).exec s ss₁ = r →
      (RuntimeCache.set key value ex true).run s ss = (.ok r.1, r.2) := by
    intro r hr
    unfold RuntimeCache.set time
    simp only [if_true, Prog.bind_eq, Prog.run_clock_bind]
    rw [Prog.run_bind, hdel]
    show (Except.ok ((Stmt.insert Tbl.runtime_cache row).exec s ss₁).1,
      ((Stmt.insert Tbl.runtime_cache row).exec s ss₁).2) = _
    rw [hr]
    rfl
  rw [Stmt.exec_insert, hrefuse] at hrun
  cases hsome : ((stored (s.view ss)).purge s.now key).isSome with
  | true =>
      rw [hsome, if_pos rfl] at hrun
      refine ⟨_, hrun _ rfl, ?_⟩
      rw [if_pos rfl]
      -- the live row stays
      have hfresh : ¬ (stored (s.view ss)).Stale s.now key := by
        intro hstale
        rw [TtlMap.purge_of_stale hstale] at hsome
        cases hsome
      rw [State.view_lock, hst₁, TtlMap.dropDead, TtlMap.purge_of_not_stale hfresh,
        Function.update_eq_self]
  | false =>
      rw [hsome, if_neg Bool.false_ne_true] at hrun
      refine ⟨_, hrun _ rfl, ?_⟩
      rw [if_neg Bool.false_ne_true, State.view_write]
      exact (stored_put _ row).trans (by rw [hst₁, TtlMap.dropDead, Function.update_idem]; rfl)

theorem run_delete (s : State Tbl) (ss : Session Tbl) (keys : List String) :
    ∃ ss', (RuntimeCache.delete keys).run s ss = (.ok
        (keys.dedup.filter fun k => (stored (s.view ss) k).isSome).length, ss') ∧
      stored (s.view ss') = fun k => if k ∈ keys then none else stored (s.view ss) k := by
  unfold RuntimeCache.delete
  split
  · next hempty =>
    rw [List.isEmpty_iff.mp hempty]
    exact ⟨ss, rfl, by simp⟩
  · obtain ⟨ss', hrun, hget, -⟩ := Prog.run_deleteReturning (ε := PyExc) s ss Tbl.runtime_cache
      fun (r : RuntimeCacheRow) => r.key ∈ keys
    have hlen : ((s.view ss Tbl.runtime_cache).rows.filter fun r : RuntimeCacheRow =>
        decide (r.key ∈ keys)).length
          = (keys.dedup.filter fun k => (stored (s.view ss) k).isSome).length := by
      refine (Table.length_filter_keys (s.view ss .runtime_cache) keys).trans ?_
      simp only [stored, Option.isSome_map]
      rfl
    refine ⟨ss', ?_, ?_⟩
    · rw [Prog.bind_eq, Prog.run_bind, hrun]
      show (Except.ok _, _) = _
      rw [← hlen]
    · funext k
      rw [stored, hget k, stored]
      cases hr : (s.view ss .runtime_cache).get? k with
      | none => simp
      | some r =>
          have hkey : RuntimeCacheRow.key r = k := Table.key_of_get? hr
          by_cases hk : k ∈ keys
          · simp [Option.filter, hkey, hk]
          · simp [Option.filter, hkey, hk]

theorem run_incr (rt : Runtime) (s : State Tbl) (ss : Session Tbl) (key : String)
    (ex : Option Int) :
    ∃ ss', (RuntimeCache.incr rt key ex).run s ss
        = (if RuntimeCache.inBigint (RuntimeCache.toBigint rt
              (counted rt s.now ex ((stored (s.view ss)).purge s.now key)).value) then
            .ok (RuntimeCache.toBigint rt
              (counted rt s.now ex ((stored (s.view ss)).purge s.now key)).value)
          else .error (.other "NumericValueOutOfRangeError"), ss') ∧
      stored (s.view ss') = Function.update (stored (s.view ss)) key
        (some (counted rt s.now ex ((stored (s.view ss)).purge s.now key))) := by
  let row : RuntimeCacheRow :=
    { key := key, value := .int 1, expires_at := RuntimeCache.expiresAt s.now ex }
  obtain ⟨ss', row', hrun, hrow, hkey, hst⟩ := run_upsert s ss row
    (f := RuntimeCache.increment rt row s.now)
    (fun r => by unfold RuntimeCache.increment; split <;> rfl)
  have hentry : row'.entry = counted rt s.now ex ((stored (s.view ss)).purge s.now key) := by
    rw [hrow, purge_stored]
    cases hr : (s.view ss .runtime_cache).get? key with
    | none => simp [row, RuntimeCacheRow.entry, counted]
    | some cur =>
        simp only [row, RuntimeCache.increment, RuntimeCacheRow.expired_eq]
        by_cases hl : cur.live s.now = true
        · simp only [hl, Option.filter, RuntimeCacheRow.entry, if_true]
          rfl
        · simp [hl, Option.filter, RuntimeCacheRow.entry, counted]
  refine ⟨ss', ?_, by rw [hst, hentry]⟩
  unfold RuntimeCache.incr time
  simp only [Prog.bind_eq, Prog.run_clock_bind]
  rw [Prog.run_bind, hrun, ← hentry]
  show (if RuntimeCache.inBigint (RuntimeCache.toBigint rt row'.value) = true then _ else _ :
    Db Int).run s ss' = _
  have hvalue : row'.entry.value = row'.value := rfl
  rw [hvalue]
  split <;> rfl

theorem run_expire (s : State Tbl) (ss : Session Tbl) (key : String) (ex : Int) :
    ∃ ss', (RuntimeCache.expire key ex).run s ss
        = (.ok (stored (s.view ss) key).isSome, ss') ∧
      stored (s.view ss') = Function.update (stored (s.view ss)) key
        ((stored (s.view ss) key).map fun e => { e with expires_at := some (s.now + ex) }) := by
  obtain ⟨ss', hrun, hget, -⟩ := Prog.run_updateReturning (ε := PyExc) s ss Tbl.runtime_cache
    (fun (r : RuntimeCacheRow) => r.key = key)
    (f := fun (r : RuntimeCacheRow) => { r with expires_at := some (s.now + ex) }) fun _ => rfl
  have hrows : ((s.view ss Tbl.runtime_cache).rows.filter fun r : RuntimeCacheRow =>
      r.key = key) = ((s.view ss .runtime_cache).get? key).toList :=
    Table.filter_key (s.view ss .runtime_cache) key
  refine ⟨ss', ?_, ?_⟩
  · unfold RuntimeCache.expire time
    simp only [Prog.bind_eq, Prog.run_clock_bind]
    rw [Prog.run_bind, hrun, hrows, stored]
    cases (s.view ss .runtime_cache).get? key <;> rfl
  · funext k
    rw [stored, hget k]
    by_cases hk : k = key
    · subst hk
      rw [Function.update_self, stored]
      cases hr : (s.view ss .runtime_cache).get? k with
      | none => rfl
      | some r =>
          have hkey : RuntimeCacheRow.key r = k := Table.key_of_get? hr
          simp [hkey, RuntimeCacheRow.entry]
    · rw [Function.update_of_ne hk, stored]
      cases hr : (s.view ss .runtime_cache).get? k with
      | none => rfl
      | some r =>
          have hkey : RuntimeCacheRow.key r = k := Table.key_of_get? hr
          simp [hkey, hk]

theorem run_cleanupExpired (s : State Tbl) (ss : Session Tbl) :
    ∃ ss', RuntimeCache.cleanupExpired.run s ss
        = (.ok (expiredRows s.now (s.view ss) : Int), ss') ∧
      stored (s.view ss') = (stored (s.view ss)).purge s.now := by
  obtain ⟨ss', hrun, hget, -⟩ := Prog.run_deleteReturning (ε := PyExc) s ss Tbl.runtime_cache
    fun (r : RuntimeCacheRow) => r.expired s.now
  refine ⟨ss', ?_, ?_⟩
  · unfold RuntimeCache.cleanupExpired time
    simp only [Prog.bind_eq, Prog.run_clock_bind]
    rw [Prog.run_bind, hrun]
    rfl
  · funext k
    rw [stored, hget k, purge_stored]
    simp only [RuntimeCacheRow.expired_eq, Bool.not_not]

/-! ## §4. One call in a transaction of its own. -/

/-- Run a call at a time and commit it, unless it raises. -/
def CacheCall.exec (rt : Runtime) (now : Int) (db : Database) (c : CacheCall) :
    Except PyExc CacheAnswer × Database :=
  match (c.prog rt).run ⟨db, now⟩ Session.fresh with
  | (.ok a, ss) => (.ok a, (State.mk db now).view ss)
  | (.error e, _) => (.error e, db)

/-- A call that answers what it computes. -/
theorem CacheCall.exec_of_run {c : CacheCall} {now : Int} {db : Database} {α : Type}
    {p : Db α} {f : α → CacheAnswer} {a : α} {ss : Session Tbl}
    (hc : c.prog rt = p.bind fun a => .ret (f a))
    (hrun : p.run ⟨db, now⟩ Session.fresh = (.ok a, ss)) :
    c.exec rt now db = (.ok (f a), (State.mk db now).view ss) := by
  rw [CacheCall.exec, hc, Prog.run_bind, hrun]
  rfl

/-- **A call does what `onStore` says.** -/
theorem CacheCall.exec_spec (rt : Runtime) (c : CacheCall) (now : Int) (db : Database) :
    (c.exec rt now db).1 = (c.onStore rt now (expiredRows now db) (stored db)).1 ∧
      stored (c.exec rt now db).2 = (c.onStore rt now (expiredRows now db) (stored db)).2 := by
  cases c with
  | get key =>
      obtain ⟨ss, hrun, hst⟩ := run_get ⟨db, now⟩ Session.fresh key
      rw [exec_of_run rfl hrun]
      exact ⟨rfl, hst⟩
  | mget keys =>
      rw [exec_of_run rfl (run_mget ⟨db, now⟩ Session.fresh keys)]
      exact ⟨rfl, rfl⟩
  | set key value ex nx =>
      cases nx with
      | false =>
          obtain ⟨ss, hrun, hst⟩ := run_set ⟨db, now⟩ Session.fresh key value ex
          rw [exec_of_run rfl hrun]
          exact ⟨rfl, hst⟩
      | true =>
          obtain ⟨ss, hrun, hst⟩ := run_set_nx ⟨db, now⟩ Session.fresh key value ex
          rw [exec_of_run rfl hrun, hst]
          simp only [onStore, if_true]
          show _ ∧ (if ((stored db).purge now key).isSome = true then _ else _) = _
          by_cases h : ((stored db).purge now key).isSome = true
          · simp [h]
          · simp [h]
  | delete keys =>
      obtain ⟨ss, hrun, hst⟩ := run_delete ⟨db, now⟩ Session.fresh keys
      rw [exec_of_run rfl hrun]
      exact ⟨rfl, hst⟩
  | incr key ex =>
      obtain ⟨ss, hrun, hst⟩ := run_incr rt ⟨db, now⟩ Session.fresh key ex
      rw [State.view_fresh] at hrun hst
      simp only [onStore]
      by_cases h : RuntimeCache.inBigint (RuntimeCache.toBigint rt
          (counted rt now ex ((stored db).purge now key)).value) = true
      · rw [if_pos h] at hrun ⊢
        rw [exec_of_run rfl hrun]
        exact ⟨rfl, hst⟩
      · rw [if_neg h] at hrun ⊢
        have hraise : (CacheCall.incr key ex).exec rt now db
            = (.error (.other "NumericValueOutOfRangeError"), db) := by
          rw [exec, prog, Prog.bind_eq, Prog.run_bind, hrun]
        rw [hraise]
        exact ⟨rfl, rfl⟩
  | expire key ex =>
      obtain ⟨ss, hrun, hst⟩ := run_expire ⟨db, now⟩ Session.fresh key ex
      rw [exec_of_run rfl hrun]
      exact ⟨rfl, hst⟩
  | cleanup_expired =>
      obtain ⟨ss, hrun, hst⟩ := run_cleanupExpired ⟨db, now⟩ Session.fresh
      rw [exec_of_run rfl hrun]
      exact ⟨rfl, hst⟩

end

end PyBoard
