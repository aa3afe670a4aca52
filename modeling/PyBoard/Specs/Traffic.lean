/-
  PyBoard.Specs.Traffic — what the transactions on the traffic cache do.

  The traffic of a user is in three rows: the user's own and its two rows of the
  cache.  A transaction that holds some of them keeps the sum as it found it, up to
  what it reports; the rows of the stage `processing` belong to the transaction that
  holds the advisory lock.

  Main result:
    * `traffic_keeps` — every transaction guarantees `TrafficGuar`.
-/
import PyBoard.Queues.PgCache

namespace PyBoard

open Relational

/-! ## §1. The traffic of a user. -/

/-- The two columns. -/
inductive Direction
  | upload
  | download

def User.traffic : Direction → User → Int
  | .upload, user => user.u
  | .download, user => user.d

def TrafficCacheRow.traffic : Direction → TrafficCacheRow → Int
  | .upload, row => row.u
  | .download, row => row.d

/-- The traffic in one row of the cache. -/
def cached (dir : Direction) (db : Database) (stage : TrafficStage) (user_id : Int) : Int :=
  (db .traffic_cache).valueAt (TrafficCacheRow.traffic dir) (stage, user_id)

/-- **The traffic of a user**: what the user was credited, and what is in the cache. -/
def trafficOf (dir : Direction) (db : Database) (user_id : Int) : Int :=
  (db .users).valueAt (User.traffic dir) user_id + cached dir db .active user_id +
    cached dir db .processing user_id

/-- The traffic of the user among some rows of the cache. -/
def rowsTraffic (dir : Direction) (rows : List TrafficCacheRow) (user_id : Int) : Int :=
  ((rows.find? fun r => r.user_id = user_id).map (TrafficCacheRow.traffic dir)).getD 0

/-- The sum over some rows. -/
def reportedRows (dir : Direction) (rows : List TrafficCacheRow) (user_id : Int) : Int :=
  (rows.map fun r => if r.user_id = user_id then r.traffic dir else 0).sum

/-- What a call reports for the user. -/
def TrafficCall.reported (dir : Direction) (user_id : Int) : TrafficCall → Int
  | .increment traffic rate =>
      match Queues.incrementRows traffic rate with
      | .ok rows => reportedRows dir rows user_id
      | .error _ => 0
  | .trafficUpdate _ => 0

/-! ## §2. The contract. -/

/-- The advisory lock of the flush. -/
def flushLock : RowId Tbl := ⟨Tbl.advisory_lock, Queues.TRAFFIC_UPDATE_LOCK_KEY⟩

/-- What a commit guarantees. -/
structure TrafficGuar (c : TrafficCall) (s : State Tbl) (ss : Session Tbl) : Prop where
  conserved : ∀ dir k, ((s.db .users).get? k).isSome = true →
    trafficOf dir (s.view ss) k = trafficOf dir s.db k + c.reported dir k
  users : ∀ k, ((s.view ss .users).get? k).isSome = ((s.db .users).get? k).isSome
  locked : flushLock ∉ ss.locks → ∀ k, (s.view ss .traffic_cache).get? (.processing, k)
    = (s.db .traffic_cache).get? (.processing, k)
  flushed : ∀ granted, c = .trafficUpdate granted → ss.ws = [] ∨
    ∀ k, (s.view ss .traffic_cache).get? (.processing, k) = none

/-- The contract about traffic. -/
def trafficContract : Contract TrafficCall Tbl where
  toCond := Cond.any
  Inv _ := True
  Evol ids s s' := (∀ k, ((s'.db .users).get? k).isSome = ((s.db .users).get? k).isSome) ∧
    (flushLock ∈ ids → ∀ k, (s'.db .traffic_cache).get? (.processing, k)
      = (s.db .traffic_cache).get? (.processing, k))
  Guar := TrafficGuar
  evol_refl _ _ := ⟨fun _ => rfl, fun _ _ => rfl⟩
  evol_trans h₁ h₂ :=
    ⟨fun k => (h₂.1 k).trans (h₁.1 k), fun hl k => (h₂.2 hl k).trans (h₁.2 hl k)⟩
  evol_mono hsub h := ⟨h.1, fun hl => h.2 (hsub hl)⟩
  inv_tick _ h := h
  evol_tick _ _ _ := ⟨fun _ => rfl, fun _ _ => rfl⟩
  guar_inv _ _ _ := trivial
  guar_evol _ _ hg hd := ⟨hg.users, fun hl => hg.locked fun h => hd h hl⟩

variable {s s' : State Tbl} {ss ss' : Session Tbl} {dir : Direction} {k : Int}
  {ws : List (Write Tbl)}

/-- The gain of a user, and of a row of the cache. -/
abbrev userGain (dir : Direction) (s : State Tbl) (ss : Session Tbl) (k : Int) : Int :=
  s.gain ss .users (User.traffic dir) k

abbrev cacheGain (dir : Direction) (s : State Tbl) (ss : Session Tbl) (stage : TrafficStage)
    (k : Int) : Int :=
  s.gain ss .traffic_cache (TrafficCacheRow.traffic dir) (stage, k)

theorem trafficOf_view : trafficOf dir (s.view ss) k = trafficOf dir s.db k +
    (userGain dir s ss k + cacheGain dir s ss .active k + cacheGain dir s ss .processing k) := by
  unfold trafficOf cached
  rw [State.view_valueAt, State.view_valueAt, State.view_valueAt]
  ring

/-- Storing a row of the cache, and removing one. -/
theorem cacheGain_put (new : TrafficCacheRow) (stage : TrafficStage) :
    cacheGain dir s (ss.write (.put .traffic_cache new)) stage k = cacheGain dir s ss stage k +
      if new.stage = stage ∧ new.user_id = k then new.traffic dir - cached dir (s.view ss) stage k
      else 0 := by
  refine (State.gain_put (t := Tbl.traffic_cache) new).trans (congrArg _ ?_)
  by_cases h : new.stage = stage ∧ new.user_id = k
  · rw [if_pos h]
    exact if_pos (Prod.ext h.1 h.2)
  · rw [if_neg h]
    exact if_neg fun heq => h ⟨congrArg Prod.fst heq, congrArg Prod.snd heq⟩

theorem cacheGain_del (stage stage' : TrafficStage) (user_id : Int) :
    cacheGain dir s (ss.write (.del .traffic_cache (stage', user_id))) stage k
      = cacheGain dir s ss stage k -
        if stage' = stage ∧ user_id = k then cached dir (s.view ss) stage k else 0 := by
  refine (State.gain_del (t := Tbl.traffic_cache) (stage', user_id)).trans (congrArg _ ?_)
  by_cases h : stage' = stage ∧ user_id = k
  · rw [if_pos h]
    exact if_pos (Prod.ext h.1 h.2)
  · rw [if_neg h]
    exact if_neg fun heq => h ⟨congrArg Prod.fst heq, congrArg Prod.snd heq⟩

/-- The rows of the stage `processing` stand still for the holder of the advisory lock. -/
theorem processing_kept (hr : trafficContract.Rely ss.locks s s') (hc : ss.Covered)
    (hl : flushLock ∈ ss.locks) (k : Int) : (s'.view ss .traffic_cache).get? (.processing, k)
      = (s.view ss .traffic_cache).get? (.processing, k) := by
  by_cases hk : (⟨Tbl.traffic_cache, (.processing, k)⟩ : RowId Tbl) ∈ ss.locks
  · exact hr.view hk
  · have hfree : ∀ w ∈ ss.ws, Write.rowId w ≠ ⟨Tbl.traffic_cache, (.processing, k)⟩ :=
      fun w hw heq => hk (heq ▸ hc w hw)
    have hview : ∀ s : State Tbl, (s.view ss .traffic_cache).get? (.processing, k)
        = (s.db .traffic_cache).get? (.processing, k) := fun s =>
      DB.get?_apply_of_not_mem s.db ss.ws hfree
    rw [hview, hview]
    exact hr.evol.2 hl k

/-! ## §3. Reports. -/

/-- The writes of a report: rows of the stage `active`. -/
def OnlyActive (ss : Session Tbl) : Prop :=
  ∀ w ∈ ss.ws, ∃ user_id, Write.rowId w = ⟨Tbl.traffic_cache, (.active, user_id)⟩

theorem OnlyActive.write (h : OnlyActive ss) {row : TrafficCacheRow} (hrow : row.stage = .active) :
    OnlyActive (ss.write (.put .traffic_cache row)) := by
  intro w hw
  rcases List.mem_append.mp hw with hw | hw
  · exact h w hw
  · rw [List.mem_singleton.mp hw]
    exact ⟨row.user_id, by rw [← hrow]; rfl⟩

theorem OnlyActive.avoids (h : OnlyActive ss) : ss.Avoids .users := by
  intro w hw
  obtain ⟨user_id, hid⟩ := h w hw
  rw [Write.table, hid]
  exact fun h => by cases h

theorem OnlyActive.processing (h : OnlyActive ss) (k : Int) :
    (s.view ss .traffic_cache).get? (.processing, k)
      = (s.db .traffic_cache).get? (.processing, k) := by
  refine DB.get?_apply_of_not_mem s.db ss.ws fun w hw heq => ?_
  obtain ⟨user_id, hid⟩ := h w hw
  rw [hid] at heq
  cases heq

theorem reportedRows_cons (row : TrafficCacheRow) (rows : List TrafficCacheRow) :
    reportedRows dir (row :: rows) k
      = (if row.user_id = k then row.traffic dir else 0) + reportedRows dir rows k := by
  simp [reportedRows]

theorem TrafficCacheRow.plus_traffic (row cur : TrafficCacheRow) :
    (row.plus cur).traffic dir = cur.traffic dir + row.traffic dir := by
  cases dir <;> rfl

/-- The rows of a report are of the stage `active`. -/
theorem incrementRows_active {traffic : TrafficReport} {rate : Decimal}
    {rows : List TrafficCacheRow} (h : Queues.incrementRows traffic rate = .ok rows) :
    ∀ row ∈ rows, row.stage = .active := by
  intro row hrow
  obtain ⟨⟨user_id, upload, download⟩, -, hitem⟩ := mem_of_mapM_ok h hrow
  simp only [Queues.incrementRow] at hitem
  cases hu : Decimal.scaled upload rate with
  | error e => simp [hu, bind, Except.bind] at hitem
  | ok u =>
    cases hd : Decimal.scaled download rate with
    | error e => simp [hu, hd, bind, Except.bind] at hitem
    | ok d =>
      simp only [hu, hd, bind, Except.bind, pure, Except.pure, Except.ok.injEq] at hitem
      rw [← hitem]

/-- A report of `rows` with `rest` to go. -/
structure Reporting (rows rest : List TrafficCacheRow) (s : State Tbl) (ss : Session Tbl) :
    Prop where
  covered : ss.Covered
  only : OnlyActive ss
  active : ∀ r ∈ rest, r.stage = .active
  gained : ∀ dir k,
    cacheGain dir s ss .active k + reportedRows dir rest k = reportedRows dir rows k

/-- One row stored: the report is added to what was cached. -/
theorem Reporting.write {rows rest : List TrafficCacheRow} {row new : TrafficCacheRow}
    (h : Reporting rows (row :: rest) s ss) (hr : trafficContract.Rely ss.locks s s')
    (hkey : new.key = row.key)
    (hnew : ∀ dir,
      new.traffic dir = cached dir (s'.view ss) .active row.user_id + row.traffic dir) :
    Reporting rows rest s' (ss.write (.put .traffic_cache new)) := by
  have hrow : row.stage = .active := h.active row List.mem_cons_self
  have hkeys : new.key = (.active, row.user_id) := by
    rw [hkey, TrafficCacheRow.key, hrow]
  refine ⟨h.covered.write _, h.only.write (congrArg Prod.fst hkeys),
    fun r hr => h.active r (List.mem_cons_of_mem _ hr), fun dir k => ?_⟩
  have hgained := h.gained dir k
  rw [reportedRows_cons, cacheGain, ← hr.gain h.covered] at hgained
  have hstage : new.stage = .active := congrArg Prod.fst hkeys
  have huser : new.user_id = row.user_id := congrArg Prod.snd hkeys
  rw [cacheGain_put, hstage, huser, hnew]
  by_cases hk : row.user_id = k
  · subst hk
    rw [if_pos rfl] at hgained
    rw [if_pos ⟨rfl, rfl⟩, ← hgained]
    ring
  · rw [if_neg hk] at hgained
    rw [if_neg fun h => hk h.2, ← hgained]
    ring

/-- **A report adds what it reports.** -/
theorem increment_spec {traffic : TrafficReport} {rate : Decimal} (s : State Tbl) :
    wp trafficContract (Queues.incrementTrafficCache traffic rate)
      (trafficContract.Post (.increment traffic rate)) s Session.fresh := by
  refine (wp_bind _ _ _ _ _).mpr ?_
  cases hrows : Queues.incrementRows traffic rate with
  | error e => trivial
  | ok rows =>
    refine wp_ite (fun _ => ?_) fun _ => trivial
    refine wp_forEach (Reporting rows) (fun row rest s ss h => ?_) (fun s ss h => ?_) ?_
    · have hkey : ∀ cur : TrafficCacheRow, (row.plus cur).key = cur.key := fun _ => rfl
      have hrow : row.key = (.active, row.user_id) := by
        rw [TrafficCacheRow.key, h.active row List.mem_cons_self]
      refine (wp_bind _ _ _ _ _).mpr (wp_upsert hkey (fun s' he hnew => ?_)
        fun s' cur he hcur => ?_)
      · have hnone : (s'.view ss .traffic_cache).get? (.active, row.user_id) = none := by
          rw [← hrow]
          exact hnew
        refine wp_ite (fun _ => ?_) fun _ => trivial
        refine h.write he.rely rfl fun dir => ?_
        rw [cached, Table.valueAt_of_none hnone]
        ring
      · have hsome : (s'.view ss .traffic_cache).get? (.active, row.user_id) = some cur := by
          rw [← hrow]
          exact hcur
        have hcurkey : cur.key = row.key := Table.key_of_get? hcur
        refine wp_ite (fun _ => ?_) fun _ => trivial
        refine h.write he.rely ((hkey cur).trans hcurkey) fun dir => ?_
        rw [cached, Table.valueAt_of_get? hsome, TrafficCacheRow.plus_traffic]
    · -- what was gained is what was reported, and nothing else was written
      intro s' hr _ _
      refine ⟨fun dir k _ => ?_, fun k => ?_, fun _ => h.only.processing, fun _ hc => by cases hc⟩
      · have hgained := h.gained dir k
        rw [cacheGain, ← hr.gain h.covered] at hgained
        have hprocessing : cacheGain dir s' ss .processing k = 0 := by
          rw [cacheGain, State.gain, Table.valueAt, h.only.processing, Table.valueAt, sub_self]
        rw [trafficOf_view, hprocessing, userGain, h.only.avoids.gain, TrafficCall.reported, hrows]
        dsimp only
        rw [← hgained]
        simp [reportedRows]
      · rw [h.only.avoids.view]
    · refine ⟨fun w hw => (by cases hw), fun w hw => (by cases hw), incrementRows_active hrows,
        fun dir k => ?_⟩
      have hnothing : cacheGain dir s Session.fresh .active k = 0 := by
        rw [cacheGain, State.gain, State.view_fresh, sub_self]
      rw [hnothing, zero_add]

/-! ## §4. A flush. -/

/-- A flush that holds its lock and has credited nobody: what left one stage of the cache is
    in the other. -/
structure Moved (s : State Tbl) (ss : Session Tbl) : Prop where
  covered : ss.Covered
  held : flushLock ∈ ss.locks
  users : ss.Avoids .users
  balanced : ∀ dir k, cacheGain dir s ss .active k + cacheGain dir s ss .processing k = 0

theorem Moved.rely (h : Moved s ss) (hr : trafficContract.Rely ss.locks s s') : Moved s' ss where
  covered := h.covered
  held := h.held
  users := h.users
  balanced dir k := by
    rw [cacheGain, cacheGain, hr.gain h.covered, hr.gain h.covered]
    exact h.balanced dir k

theorem Moved.lock (h : Moved s ss) (ids : List (RowId Tbl)) : Moved s (ss.lock ids) where
  covered := h.covered.lock ids
  held := List.mem_append_right _ h.held
  users := h.users.lock ids
  balanced := h.balanced

/-- One row goes from one stage to the other. -/
theorem Moved.row {cur : TrafficCacheRow} {s₁ s₂ : State Tbl} (h : Moved s₁ ss)
    (hstage : cur.stage = .active) (hcur : (s₁.view ss .traffic_cache).get? cur.key = some cur)
    (hr : trafficContract.Rely (ss.write (.del .traffic_cache cur.key)).locks s₁ s₂)
    (hfree : (s₂.view (ss.write (.del .traffic_cache cur.key)) .traffic_cache).get?
      (.processing, cur.user_id) = none) :
    Moved s₂ ((ss.write (.del .traffic_cache cur.key)).write
      (.put .traffic_cache { cur with stage := .processing })) := by
  have hkey : cur.key = (.active, cur.user_id) := by rw [TrafficCacheRow.key, hstage]
  have hc := h.covered.write (.del .traffic_cache cur.key)
  refine ⟨hc.write _, List.mem_cons_of_mem _ (List.mem_cons_of_mem _ h.held),
    (h.users.write (by simp)).write (by simp), fun dir k => ?_⟩
  have hbalanced := h.balanced dir k
  have hactive : cached dir (s₁.view ss) .active cur.user_id = cur.traffic dir := by
    rw [hkey] at hcur
    rw [cached, Table.valueAt_of_get? hcur]
  have hprocessing : cached dir (s₂.view (ss.write (.del .traffic_cache cur.key))) .processing
      cur.user_id = 0 := by
    rw [cached, Table.valueAt_of_none hfree]
  rw [cacheGain_put, cacheGain_put, cacheGain, cacheGain, hr.gain hc, hr.gain hc, hkey]
  change cacheGain dir s₁ (ss.write (.del .traffic_cache (.active, cur.user_id))) .active k + _ +
    (cacheGain dir s₁ (ss.write (.del .traffic_cache (.active, cur.user_id))) .processing k + _) = 0
  rw [cacheGain_del, cacheGain_del]
  rw [hkey] at hprocessing
  have hmoved : TrafficCacheRow.traffic dir { cur with stage := .processing } =
      cur.traffic dir := by
    cases dir <;> rfl
  by_cases hk : cur.user_id = k
  · subst hk
    simp only [hactive, hprocessing, and_true, if_true, reduceCtorEq, if_false, hmoved]
    omega
  · simp [hk, hbalanced]

theorem moveToProcessing_spec {Q : Except PyExc Unit → State Tbl → Session Tbl → Prop}
    (h : Moved s ss) (herr : ∀ e s ss, Q (.error e) s ss)
    (hok : ∀ s ss, Moved s ss → Q (.ok ()) s ss) :
    wp trafficContract Queues.moveToProcessing Q s ss := by
  refine (wp_bind _ _ _ _ _).mpr (wp_select fun s₁ he₁ => ?_)
  refine wp_forEach (fun _ => Moved) (fun row rest s ss h => ?_) hok (h.rely he₁.rely)
  refine wp_relock (fun s' he _ => h.rely he.rely) (fun s' cur he _ _ _ => (h.rely he.rely).lock _)
    fun s' cur he _ ho hp => ?_
  have hstage : cur.stage = .active := by simpa using hp
  have hlocked := (h.rely he.rely).lock [⟨Tbl.traffic_cache, Schema.key row⟩]
  refine (wp_bind _ _ _ _ _).mpr (wp_delete_owned ho fun s₂ he₂ => ?_)
  have hcur := (ho.rely he₂.rely).seen
  refine (wp_bind _ _ _ _ _).mpr (wp_insert (fun s₃ _ => herr _ _ _) fun s₃ he₃ _ hfree => ?_)
  exact (hlocked.rely he₂.rely).row hstage hcur he₃.rely hfree

/-- The rows of the stage `processing` are `rows`. -/
def ProcessingRows (rows : List TrafficCacheRow) (s : State Tbl) (ss : Session Tbl) : Prop :=
  ∀ k row, (s.view ss .traffic_cache).get? (.processing, k) = some row ↔
    row ∈ rows ∧ row.user_id = k

theorem ProcessingRows.select {rows : List TrafficCacheRow}
    (h : ∀ row, row ∈ rows ↔ row ∈ (s.view ss .traffic_cache).rows ∧ row.stage = .processing) :
    ProcessingRows rows s ss := by
  intro k row
  have hkey : row.key = (.processing, k) ↔ row.stage = .processing ∧ row.user_id = k :=
    ⟨fun heq => ⟨congrArg Prod.fst heq, congrArg Prod.snd heq⟩, fun ⟨h₁, h₂⟩ => Prod.ext h₁ h₂⟩
  rw [h row, and_assoc, ← hkey]
  exact Table.get?_eq_some

theorem ProcessingRows.rely {rows : List TrafficCacheRow} (h : ProcessingRows rows s ss)
    (hr : trafficContract.Rely ss.locks s s') (hc : ss.Covered) (hl : flushLock ∈ ss.locks) :
    ProcessingRows rows s' ss := by
  intro k row
  rw [processing_kept hr hc hl]
  exact h k row

/-- What is cached in the stage `processing` is the traffic of its rows. -/
theorem ProcessingRows.cached {rows : List TrafficCacheRow} (h : ProcessingRows rows s ss) :
    PyBoard.cached dir (s.view ss) .processing k = rowsTraffic dir rows k := by
  rw [rowsTraffic, PyBoard.cached]
  cases hf : rows.find? fun r => r.user_id = k with
  | none =>
    refine Table.valueAt_of_none ?_
    cases hrow : (s.view ss .traffic_cache).get? (.processing, k) with
    | none => rfl
    | some row =>
      obtain ⟨hmem, huser⟩ := (h k row).mp hrow
      have := List.find?_eq_none.mp hf row hmem
      simp [huser] at this
  | some row =>
    have huser : row.user_id = k := by simpa using List.find?_some hf
    have hrow := (h k row).mpr ⟨List.mem_of_find?_eq_some hf, huser⟩
    rw [Table.valueAt_of_get? hrow, Option.map_some, Option.getD_some]

theorem credit_id (rows : List TrafficCacheRow) (now : Int) (user : User) :
    (Queues.credit rows now user).id = user.id := by
  unfold Queues.credit
  split <;> rfl

theorem credit_traffic (rows : List TrafficCacheRow) (now : Int) (user : User) :
    (Queues.credit rows now user).traffic dir =
      user.traffic dir + rowsTraffic dir rows user.id := by
  unfold Queues.credit rowsTraffic
  cases rows.find? fun r => r.user_id = user.id with
  | none => simp
  | some row => cases dir <;> rfl

/-- A flush that credits `rows`, with the users `rest` to go. -/
structure Crediting (rows : List TrafficCacheRow) (rest : List User) (s : State Tbl)
    (ss : Session Tbl) : Prop where
  covered : ss.Covered
  held : flushLock ∈ ss.locks
  balanced : ∀ dir k, cacheGain dir s ss .active k + cacheGain dir s ss .processing k = 0
  processing : ProcessingRows rows s ss
  present : ∀ k, s.gain ss .users (fun _ => 1) k = 0
  nodup : (rest.map User.id).Nodup
  waiting : ∀ dir k, k ∈ rest.map User.id → userGain dir s ss k = 0
  credited : ∀ dir k, k ∉ rest.map User.id → ((s.db .users).get? k).isSome = true →
    userGain dir s ss k = rowsTraffic dir rows k

theorem Crediting.rely {rows : List TrafficCacheRow} {rest : List User}
    (h : Crediting rows rest s ss) (hr : trafficContract.Rely ss.locks s s') :
    Crediting rows rest s' ss where
  covered := h.covered
  held := h.held
  balanced dir k := by
    rw [cacheGain, cacheGain, hr.gain h.covered, hr.gain h.covered]
    exact h.balanced dir k
  processing := h.processing.rely hr h.covered h.held
  present k := (hr.gain h.covered).trans (h.present k)
  nodup := h.nodup
  waiting dir k hk := (hr.gain h.covered).trans (h.waiting dir k hk)
  credited dir k hrest hk := by
    rw [userGain, hr.gain h.covered]
    exact h.credited dir k hrest (hr.evol.1 k ▸ hk)

theorem Crediting.lock {rows : List TrafficCacheRow} {rest : List User}
    (h : Crediting rows rest s ss) (ids : List (RowId Tbl)) :
    Crediting rows rest s (ss.lock ids) where
  covered := h.covered.lock ids
  held := List.mem_append_right _ h.held
  balanced := h.balanced
  processing := h.processing
  present := h.present
  nodup := h.nodup
  waiting := h.waiting
  credited := h.credited

/-- A user that is not credited: there is no such user, or no such row. -/
theorem Crediting.skip {rows : List TrafficCacheRow} {user : User} {rest : List User}
    (h : Crediting rows (user :: rest) s ss)
    (hskip : ((s.db .users).get? user.id).isSome = true →
      ∀ dir, rowsTraffic dir rows user.id = 0) : Crediting rows rest s ss where
  covered := h.covered
  held := h.held
  balanced := h.balanced
  processing := h.processing
  present := h.present
  nodup := (List.nodup_cons.mp h.nodup).2
  waiting dir k hk := h.waiting dir k (List.mem_cons_of_mem _ hk)
  credited dir k hrest hk := by
    by_cases hid : k = user.id
    · subst hid
      rw [h.waiting dir user.id List.mem_cons_self, hskip hk dir]
    · refine h.credited dir k (fun hmem => ?_) hk
      rcases List.mem_cons.mp hmem with h' | h'
      · exact hid h'
      · exact hrest h'

/-- A user that is credited. -/
theorem Crediting.credit {rows : List TrafficCacheRow} {user cur : User} {rest : List User}
    (h : Crediting rows (user :: rest) s ss) (hid : cur.id = user.id)
    (hcur : (s.view ss .users).get? cur.id = some cur) (now : Int) :
    Crediting rows rest s (ss.write (.put .users (Queues.credit rows now cur))) := by
  have hother : (Write.put Tbl.users (Queues.credit rows now cur)).table ≠ Tbl.traffic_cache := by
    simp
  -- the new version is stored over the one that the session sees
  have hput : ∀ f : User → Int, ∀ k, s.gain (ss.write (.put .users (Queues.credit rows now cur)))
      .users f k = s.gain ss .users f k +
        if user.id = k then f (Queues.credit rows now cur) - f cur else 0 := by
    intro f k
    have hkey : (Queues.credit rows now cur).id = user.id := (credit_id rows now cur).trans hid
    refine (State.gain_put (t := Tbl.users) (Queues.credit rows now cur)).trans (congrArg _ ?_)
    by_cases hk : user.id = k
    · rw [hid, hk] at hcur
      rw [if_pos hk, Table.valueAt_of_get? hcur]
      exact if_pos (hkey.trans hk)
    · rw [if_neg hk]
      exact if_neg fun heq => hk (hkey.symm.trans heq)
  have hnot : user.id ∉ rest.map User.id := (List.nodup_cons.mp h.nodup).1
  refine ⟨h.covered.write _, List.mem_cons_of_mem _ h.held, fun dir k => ?_, ?_, fun k => ?_,
    (List.nodup_cons.mp h.nodup).2, fun dir k hk => ?_, fun dir k hrest hk => ?_⟩
  · rw [cacheGain, cacheGain, State.gain_other hother, State.gain_other hother]
    exact h.balanced dir k
  · intro k row
    rw [State.view_write, DB.write_other _ hother]
    exact h.processing k row
  · rw [hput, h.present, sub_self, ite_self, add_zero]
  · have hne : user.id ≠ k := fun heq => hnot (heq ▸ hk)
    rw [userGain, hput, if_neg hne, add_zero]
    exact h.waiting dir k (List.mem_cons_of_mem _ hk)
  · rw [userGain, hput]
    by_cases heq : user.id = k
    · subst heq
      have hwaiting := h.waiting dir user.id List.mem_cons_self
      rw [if_pos rfl, credit_traffic, hid]
      rw [userGain] at hwaiting
      omega
    · rw [if_neg heq, add_zero]
      refine h.credited dir k (fun hmem => ?_) hk
      rcases List.mem_cons.mp hmem with h' | h'
      · exact heq h'.symm
      · exact hrest h'

theorem applyProcessingTraffic_spec {rows : List TrafficCacheRow}
    {Q : Except PyExc Unit → State Tbl → Session Tbl → Prop} (h : Moved s ss)
    (hrows : ProcessingRows rows s ss) (hok : ∀ s ss, Crediting rows [] s ss → Q (.ok ()) s ss) :
    wp trafficContract (Queues.applyProcessingTraffic rows) Q s ss := by
  refine (wp_bind _ _ _ _ _).mpr (wp_clock fun s₁ he₁ => (wp_bind _ _ _ _ _).mpr
    (wp_select fun s₂ he₂ => ?_))
  have hr := (he₁.trans he₂).rely
  have hmoved := h.rely hr
  refine wp_forEach (Crediting rows) (fun user rest s ss h => ?_) hok ?_
  · -- a user that has no row satisfies the WHERE clause no longer
    have hnone : ∀ cur : User, cur.id = user.id →
        (rows.any fun r => r.user_id = cur.id) = false →
          ∀ dir, rowsTraffic dir rows user.id = 0 := by
      intro cur hid hp dir
      have hf : rows.find? (fun r => r.user_id = user.id) = none := by
        refine List.find?_eq_none.mpr fun r hr => ?_
        have := List.any_eq_false.mp hp r hr
        rwa [hid] at this
      rw [rowsTraffic, hf, Option.map_none, Option.getD_none]
    refine wp_relock (fun s' he hgone => ?_) (fun s' cur he hid _ hp => ?_)
      fun s' cur he hid ho _ => ?_
    · have hrely := h.rely he.rely
      refine hrely.skip fun hsome => ?_
      -- the session sees the users that there are
      have hpresent := hrely.present user.id
      obtain ⟨u, hu⟩ := Option.isSome_iff_exists.mp hsome
      have hgone' : (s'.view ss .users).get? user.id = none := hgone
      rw [State.gain, Table.valueAt_of_none hgone', Table.valueAt_of_get? hu] at hpresent
      cases hpresent
    · exact ((h.rely he.rely).lock _).skip fun _ => hnone cur hid hp
    · have hkey : cur.id = (Queues.credit rows s₁.now cur).id := (credit_id rows s₁.now cur).symm
      refine (wp_bind _ _ _ _ _).mpr (wp_update_owned ho hkey fun s'' he' => ?_)
      have hcur := (ho.rely he'.rely).seen
      exact (((h.rely he.rely).lock _).rely he'.rely).credit hid hcur s₁.now
  · refine ⟨hmoved.covered, hmoved.held, hmoved.balanced, hrows.rely hr h.covered h.held,
      fun k => hmoved.users.gain, ?_, fun dir k _ => hmoved.users.gain, fun dir k hrest hk => ?_⟩
    · exact (List.filter_sublist.map User.id).nodup (s₂.view ss .users).nodup
    · -- a user that the statement has not picked has no row
      have hnone : rows.find? (fun r => r.user_id = k) = none := by
        refine List.find?_eq_none.mpr fun r hr heq => hrest ?_
        obtain ⟨u, hu⟩ := Option.isSome_iff_exists.mp hk
        have hmem : u ∈ (s₂.view ss .users).rows := by
          rw [hmoved.users.view]
          exact Table.mem_of_get? hu
        have huid : u.id = k := Table.key_of_get? hu
        refine List.mem_map.mpr ⟨u, List.mem_filter.mpr ⟨hmem, List.any_eq_true.mpr ⟨r, hr, ?_⟩⟩,
          huid⟩
        rw [huid]
        exact heq
      rw [userGain, hmoved.users.gain, rowsTraffic, hnone, Option.map_none, Option.getD_none]

/-- A flush that deletes its rows, with `rest` to go. -/
structure Deleting (rest : List TrafficCacheRow) (s : State Tbl) (ss : Session Tbl) : Prop where
  covered : ss.Covered
  held : flushLock ∈ ss.locks
  processing : ProcessingRows rest s ss
  present : ∀ k, s.gain ss .users (fun _ => 1) k = 0
  conserved : ∀ dir k, ((s.db .users).get? k).isSome = true →
    userGain dir s ss k + cacheGain dir s ss .active k + cacheGain dir s ss .processing k
      = rowsTraffic dir rest k
  nodup : (rest.map TrafficCacheRow.user_id).Nodup

theorem Deleting.rely {rest : List TrafficCacheRow} (h : Deleting rest s ss)
    (hr : trafficContract.Rely ss.locks s s') : Deleting rest s' ss where
  covered := h.covered
  held := h.held
  processing := h.processing.rely hr h.covered h.held
  present k := (hr.gain h.covered).trans (h.present k)
  conserved dir k hk := by
    rw [userGain, cacheGain, cacheGain, hr.gain h.covered, hr.gain h.covered, hr.gain h.covered]
    exact h.conserved dir k (hr.evol.1 k ▸ hk)
  nodup := h.nodup

theorem Deleting.lock {rest : List TrafficCacheRow} (h : Deleting rest s ss)
    (ids : List (RowId Tbl)) : Deleting rest s (ss.lock ids) where
  covered := h.covered.lock ids
  held := List.mem_append_right _ h.held
  processing := h.processing
  present := h.present
  conserved := h.conserved
  nodup := h.nodup

/-- One row is deleted. -/
theorem Deleting.delete {row : TrafficCacheRow} {rest : List TrafficCacheRow}
    (h : Deleting (row :: rest) s ss) (hkey : row.key = (.processing, row.user_id)) :
    Deleting rest s (ss.write (.del .traffic_cache row.key)) := by
  have hnot : row.user_id ∉ rest.map TrafficCacheRow.user_id := (List.nodup_cons.mp h.nodup).1
  have hother : (Write.del Tbl.traffic_cache row.key).table ≠ Tbl.users := by simp
  have hcached : ∀ dir, cached dir (s.view ss) .processing row.user_id = row.traffic dir := by
    intro dir
    rw [h.processing.cached, rowsTraffic, List.find?_cons_of_pos (by simp)]
    rfl
  refine ⟨h.covered.write _, List.mem_cons_of_mem _ h.held, fun k r => ?_, fun k => ?_,
    fun dir k hk => ?_, (List.nodup_cons.mp h.nodup).2⟩
  · rw [State.view_write, hkey]
    have herase : (((s.view ss).write (.del .traffic_cache (.processing, row.user_id)))
        .traffic_cache).get? (.processing, k)
        = if row.user_id = k then none else (s.view ss .traffic_cache).get? (.processing, k) := by
      have hdel : (s.view ss).write (.del .traffic_cache (.processing, row.user_id)) .traffic_cache
          = (s.view ss .traffic_cache).erase (.processing, row.user_id) := DB.del_same _ _ _
      rw [hdel]
      refine (Table.get?_erase _ _ _).trans ?_
      by_cases hk : row.user_id = k
      · rw [if_pos hk, hk]
        exact if_pos rfl
      · rw [if_neg hk]
        exact if_neg fun heq => hk (congrArg Prod.snd heq).symm
    rw [herase]
    by_cases hk : row.user_id = k
    · rw [if_pos hk]
      refine ⟨fun hr => (by cases hr), fun ⟨hr, huser⟩ => ?_⟩
      exact absurd (List.mem_map.mpr ⟨r, hr, huser.trans hk.symm⟩) hnot
    · rw [if_neg hk, h.processing k r, List.mem_cons]
      refine ⟨fun ⟨hr, huser⟩ => ⟨hr.resolve_left fun heq => hk (heq ▸ huser), huser⟩,
        fun ⟨hr, huser⟩ => ⟨Or.inr hr, huser⟩⟩
  · rw [State.gain_other hother]
    exact h.present k
  · have hconserved := h.conserved dir k hk
    rw [userGain] at hconserved
    rw [userGain, State.gain_other hother, hkey, cacheGain_del, cacheGain_del]
    by_cases hid : row.user_id = k
    · subst hid
      have hrest : rowsTraffic dir rest row.user_id = 0 := by
        have hf : rest.find? (fun r => r.user_id = row.user_id) = none := by
          refine List.find?_eq_none.mpr fun r hr heq => hnot ?_
          exact List.mem_map.mpr ⟨r, hr, by simpa using heq⟩
        rw [rowsTraffic, hf, Option.map_none, Option.getD_none]
      have hrow : rowsTraffic dir (row :: rest) row.user_id = row.traffic dir := by
        rw [← h.processing.cached, hcached]
      rw [hrow] at hconserved
      simp only [reduceCtorEq, false_and, if_false, and_self, if_true, hcached, hrest]
      omega
    · have hrow : rowsTraffic dir (row :: rest) k = rowsTraffic dir rest k := by
        rw [rowsTraffic, List.find?_cons_of_neg (by simpa using hid), rowsTraffic]
      rw [hrow] at hconserved
      simp only [hid, and_false, if_false]
      omega

theorem deleteProcessing_spec {Q : Except PyExc Unit → State Tbl → Session Tbl → Prop}
    {rows : List TrafficCacheRow} (h : Crediting rows [] s ss)
    (hok : ∀ s ss, Deleting [] s ss → Q (.ok ()) s ss) :
    wp trafficContract (Prog.deleteWhere Tbl.traffic_cache
      fun (r : TrafficCacheRow) => r.stage = .processing) Q s ss := by
  refine (wp_bind _ _ _ _ _).mpr (wp_select fun s₁ he₁ => ?_)
  refine wp_forEach Deleting (fun row rest s ss h => ?_) hok ?_
  · have hrow := (h.processing row.user_id row).mpr ⟨List.mem_cons_self, rfl⟩
    have hkey : row.key = (.processing, row.user_id) := Table.key_of_get? hrow
    -- the row is there as it was picked
    have hsame : ∀ s' cur, trafficContract.Rely ss.locks s s' →
        (s'.view ss .traffic_cache).get? row.key = some cur → cur = row := by
      intro s' cur hr hcur
      rw [hkey, processing_kept hr h.covered h.held, hrow] at hcur
      exact (Option.some.inj hcur).symm
    refine wp_relock (fun s' he hgone => ?_) (fun s' cur he hid ho hp => ?_)
      fun s' cur he hid ho _ => ?_
    · have hgone' : (s'.view ss .traffic_cache).get? row.key = none := hgone
      rw [hkey, processing_kept he.rely h.covered h.held, hrow] at hgone'
      cases hgone'
    · have hcur : (s'.view ss .traffic_cache).get? row.key = some cur := by
        have := ho.seen
        rwa [hid] at this
      have hstage : row.stage = .processing := congrArg Prod.fst hkey
      rw [hsame s' cur he.rely hcur] at hp
      simp [hstage] at hp
    · have hcur : (s'.view ss .traffic_cache).get? row.key = some cur := by
        have := ho.seen
        rwa [hid] at this
      have hrow : cur = row := hsame s' cur he.rely hcur
      subst hrow
      refine (wp_bind _ _ _ _ _).mpr (wp_delete_owned ho fun s'' he' => ?_)
      exact (((h.rely he.rely).lock _).rely he'.rely).delete hkey
  · have hmem : ∀ row, row ∈ (s₁.view ss .traffic_cache).rows.filter
        (fun r : TrafficCacheRow => r.stage = .processing) ↔
        row ∈ (s₁.view ss .traffic_cache).rows ∧ row.stage = .processing := by
      intro row
      rw [List.mem_filter, decide_eq_true_eq]
    have hcrediting := h.rely he₁.rely
    refine ⟨h.covered, h.held, .select hmem, hcrediting.present, fun dir k hk => ?_, ?_⟩
    · -- every user has been credited what is in the rows
      have hcredited := hcrediting.credited dir k (by simp) hk
      have hbalanced := hcrediting.balanced dir k
      rw [← (ProcessingRows.select hmem).cached, hcrediting.processing.cached]
      omega
    · -- the keys of the rows differ in the user
      refine List.Nodup.of_map (fun user_id => (TrafficStage.processing, user_id)) ?_
      rw [List.map_map]
      have hkeys : (List.filter (fun r : TrafficCacheRow => r.stage = .processing)
          (s₁.view ss .traffic_cache).rows).map
            ((fun user_id => (TrafficStage.processing, user_id)) ∘ TrafficCacheRow.user_id)
          = (List.filter (fun r : TrafficCacheRow => r.stage = .processing)
          (s₁.view ss .traffic_cache).rows).map TrafficCacheRow.key := by
        refine List.map_congr_left fun row hrow => ?_
        exact Prod.ext ((hmem row).mp hrow).2.symm rfl
      rw [hkeys]
      exact (List.filter_sublist.map TrafficCacheRow.key).nodup (s₁.view ss .traffic_cache).nodup

/-- What a flush that has deleted its rows guarantees. -/
theorem Deleting.guar {granted : Bool} (h : Deleting [] s ss)
    (hr : trafficContract.Rely ss.locks s s') : TrafficGuar (.trafficUpdate granted) s' ss := by
  have hdone := h.rely hr
  refine ⟨fun dir k hk => ?_, fun k => ?_, fun hl => absurd h.held hl, fun _ _ =>
    Or.inr fun k => ?_⟩
  · rw [trafficOf_view, hdone.conserved dir k hk]
    rfl
  · have hpresent := hdone.present k
    rw [State.gain] at hpresent
    cases hv : (s'.view ss .users).get? k <;> cases hd : (s'.db .users).get? k <;>
      first
        | rfl
        | (simp [Table.valueAt, hv, hd] at hpresent)
  · cases hrow : (s'.view ss .traffic_cache).get? (.processing, k) with
    | none => rfl
    | some row => cases ((hdone.processing k row).mp hrow).1

/-- What a flush that has written nothing guarantees. -/
theorem idle_guar {granted : Bool} (h : ss.ws = []) :
    TrafficGuar (.trafficUpdate granted) s ss := by
  have hview : s.view ss = s.db := by rw [State.view, h, DB.apply_nil]
  refine ⟨fun dir k _ => ?_, fun k => ?_, fun _ k => ?_, fun _ _ => Or.inl h⟩
  · rw [hview]
    exact (add_zero _).symm
  · rw [hview]
  · rw [hview]

theorem cacheExists_reads (key : String) : (Queues.cacheExists key).All (·.isRead = true)
    fun _ => True := ⟨rfl, fun _ => ⟨rfl, fun _ => trivial⟩⟩

/-- The second half of a flush ends with no row of the stage `processing`. -/
theorem flushProcessing_spec {Q : Except PyExc Bool → State Tbl → Session Tbl → Prop}
    (h : Moved s ss) (hok : ∀ s ss, Deleting [] s ss → Q (.ok true) s ss) :
    wp trafficContract Queues.flushProcessing Q s ss := by
  refine (wp_bind _ _ _ _ _).mpr (wp_select fun s₁ he₁ => ?_)
  have hmoved := h.rely he₁.rely
  set rows := ((s₁.view ss .traffic_cache).rows.filter
    fun r : TrafficCacheRow => r.stage = .processing).insertionSort
      fun a b => a.user_id ≤ b.user_id with hrows
  have hprocessing : ProcessingRows rows s₁ ss := by
    refine .select fun row => ?_
    rw [hrows, List.mem_insertionSort, List.mem_filter, decide_eq_true_eq]
  refine wp_ite (fun hempty => ?_) fun _ => ?_
  · have hnil : rows = [] := List.isEmpty_iff.mp hempty
    rw [hnil] at hprocessing
    refine hok s₁ ss ⟨hmoved.covered, hmoved.held, hprocessing, fun k => hmoved.users.gain,
      fun dir k _ => ?_, List.nodup_nil⟩
    have hbalanced := hmoved.balanced dir k
    rw [userGain, hmoved.users.gain, zero_add, hbalanced]
    rfl
  · refine (wp_bind _ _ _ _ _).mpr (applyProcessingTraffic_spec hmoved hprocessing
      fun s₂ ss₂ hcrediting => ?_)
    exact (wp_bind _ _ _ _ _).mpr (deleteProcessing_spec hcrediting hok)

/-- **A flush moves what it takes from the cache into the users.** -/
theorem trafficUpdate_spec {granted : Bool} (s : State Tbl) :
    wp trafficContract (Queues.trafficUpdate granted)
      (trafficContract.Post (.trafficUpdate granted)) s Session.fresh := by
  refine (wp_bind _ _ _ _ _).mpr ((wp_bind _ _ _ _ _).mpr (wp_tryLock (fun _ s₁ he₁ => ?_)
    fun _ s₁ _ => fun _ _ _ _ => idle_guar rfl))
  have hc : (Session.fresh.lock [flushLock]).Covered := fun w hw => by cases hw
  refine (wp_bind _ _ _ _ _).mpr (wp_of_reads (cacheExists_reads _) he₁.inv
    (fun locked s₂ he₂ => ?_) fun _ _ _ _ => trivial)
  refine wp_ite (fun _ => fun _ _ _ _ => idle_guar rfl) fun _ => ?_
  refine (wp_bind _ _ _ _ _).mpr (wp_select fun s₃ he₃ => (wp_bind _ _ _ _ _).mpr ?_)
  have hmoved : Moved s₃ (Session.fresh.lock [flushLock]) := by
    refine ⟨hc, List.mem_cons_self, fun w hw => (by cases hw), fun dir k => ?_⟩
    have hnothing : ∀ stage, cacheGain dir s₃ (Session.fresh.lock [flushLock]) stage k = 0 :=
      fun stage => by rw [cacheGain, State.gain_lock, State.gain, State.view_fresh, sub_self]
    rw [hnothing, hnothing, add_zero]
  refine wp_ite (fun _ => moveToProcessing_spec hmoved (fun _ _ _ => trivial) fun s ss h => ?_)
    fun _ => ?_
  · exact flushProcessing_spec h fun _ _ hd _ hr _ _ => hd.guar hr
  · exact flushProcessing_spec hmoved fun _ _ hd _ hr _ _ => hd.guar hr

/-- **Every transaction keeps the contract about traffic.** -/
theorem traffic_keeps (c : TrafficCall) : trafficContract.Keeps c c.prog := by
  intro s _
  cases c with
  | increment traffic rate => exact increment_spec s
  | trafficUpdate granted => exact trafficUpdate_spec s

end PyBoard
