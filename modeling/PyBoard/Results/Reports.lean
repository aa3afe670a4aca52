/-
  PyBoard.Results.Reports — a bad entry in a traffic report.

  `traffic_fetch` skips the entries that it cannot read, so that they do not affect the
  others.  A number that it can read but not store passes, and makes the statement of
  everyone's rows fail; an infinite number is not even caught.  What the fetch adds for the
  other users is the same with and without an entry exactly if the entry is skipped or can
  be stored, or nothing was to be added (`other_traffic_unchanged_iff`).
-/
import PyBoard.Python.Utc
import PyBoard.Queues.Traffic
import PyBoard.Specs.Instant
import PyBoard.Specs.Traffic

namespace PyBoard

open Relational Queues

variable {rt : Runtime} {s : State Tbl} {ss : Session Tbl}

/-! ## §1. The entries. -/

/-- What an entry of a report comes to: a user with upload and download, nothing if it is
    skipped, or an exception that is not caught. -/
def readEntry (rt : Runtime) (entry : String × Json) : Except PyExc (Option (Int × Int × Int)) :=
  match rt.int_of_str entry.1 with
  | none => .ok none
  | some user_id =>
    match normalizeValue rt entry.2 with
    | .ok value => .ok (some (user_id, value))
    | .error e => if isSkipped e then .ok none else .error e

/-- The report with what was read. -/
def TrafficReport.add (traffic : TrafficReport) : Option (Int × Int × Int) → TrafficReport
  | none => traffic
  | some (user_id, value) => traffic.set user_id value

/-- The report of the entries that were read. -/
def assembleReport (entries : List (Option (Int × Int × Int))) : TrafficReport :=
  entries.foldl TrafficReport.add ⟨[], List.nodup_nil⟩

theorem normalizeEntry_eq (traffic : TrafficReport) (entry : String × Json) :
    normalizeEntry rt traffic entry = (readEntry rt entry).map traffic.add := by
  unfold normalizeEntry readEntry
  cases rt.int_of_str entry.1 with
  | none => rfl
  | some user_id =>
    cases normalizeValue rt entry.2 with
    | ok value => rfl
    | error e =>
      dsimp only
      split <;> rfl

theorem foldlM_normalizeEntry (data : JsonDict) (traffic : TrafficReport) :
    data.foldlM (normalizeEntry rt) traffic
      = (data.mapM (readEntry rt)).map fun entries => entries.foldl TrafficReport.add traffic := by
  induction data generalizing traffic with
  | nil => rfl
  | cons entry data ih =>
    rw [List.foldlM_cons, List.mapM_cons, normalizeEntry_eq]
    cases readEntry rt entry with
    | error e => rfl
    | ok item =>
      show data.foldlM (normalizeEntry rt) (traffic.add item) = _
      rw [ih]
      cases data.mapM (readEntry rt) with
      | error e => rfl
      | ok entries => rfl

/-- **A report is read entry by entry.** -/
theorem normalizeTrafficData_eq (data : JsonDict) :
    normalizeTrafficData rt data = (data.mapM (readEntry rt)).map assembleReport :=
  foldlM_normalizeEntry data _

/-! ## §2. One entry more. -/

/-- `t'` is `t` and an entry of a user that `t` does not have. -/
structure Beside (user_id : Int) (value : Int × Int) (t t' : TrafficReport) : Prop where
  others : t'.items.filter (fun item => item.1 ≠ user_id) = t.items
  here : (user_id, value) ∈ t'.items

variable {t t' : TrafficReport} {user_id : Int} {value : Int × Int}

/-- The users of a report after an entry. -/
theorem TrafficReport.mem_users_set {k : Int} :
    k ∈ (t.set user_id value).items.map Prod.fst ↔ k = user_id ∨ k ∈ t.items.map Prod.fst := by
  unfold TrafficReport.set
  dsimp only
  split
  · next hmem =>
    rw [map_fst_replace]
    constructor
    · exact Or.inr
    · rintro (rfl | h)
      · exact hmem
      · exact h
  · rw [List.map_append, List.mem_append, List.map_cons, List.map_nil, List.mem_singleton]
    exact Or.comm

/-- A new entry is added at the end. -/
theorem Beside.start (hnew : user_id ∉ t.items.map Prod.fst) :
    Beside user_id value t (t.set user_id value) := by
  have hitems : (t.set user_id value).items = t.items ++ [(user_id, value)] := if_neg hnew
  constructor
  · rw [hitems, List.filter_append, List.filter_eq_self.mpr]
    · simp
    · intro item hitem
      refine decide_eq_true fun heq => hnew ?_
      rw [← heq]
      exact List.mem_map_of_mem hitem
  · rw [hitems]
    simp

/-- The next entries of other users go to the same places. -/
theorem Beside.set (h : Beside user_id value t t') {k : Int} (hk : k ≠ user_id)
    (other : Int × Int) : Beside user_id value (t.set k other) (t'.set k other) := by
  have hkeys : k ∈ t'.items.map Prod.fst ↔ k ∈ t.items.map Prod.fst := by
    rw [← h.others]
    constructor
    · intro hmem
      obtain ⟨item, hitem, heq⟩ := List.mem_map.mp hmem
      refine List.mem_map.mpr ⟨item, List.mem_filter.mpr ⟨hitem, ?_⟩, heq⟩
      exact decide_eq_true (heq ▸ hk)
    · intro hmem
      obtain ⟨item, hitem, heq⟩ := List.mem_map.mp hmem
      exact List.mem_map.mpr ⟨item, (List.mem_filter.mp hitem).1, heq⟩
  by_cases hmem : k ∈ t.items.map Prod.fst
  · have hset : (t.set k other).items
        = t.items.map fun item => if item.1 = k then (k, other) else item := if_pos hmem
    have hset' : (t'.set k other).items
        = t'.items.map fun item => if item.1 = k then (k, other) else item :=
      if_pos (hkeys.mpr hmem)
    constructor
    · rw [hset, hset', ← h.others, List.filter_map]
      congr 1
      refine List.filter_congr fun item _ => ?_
      by_cases heq : item.1 = k
      · simp [heq]
      · simp [heq]
    · rw [hset']
      exact List.mem_map.mpr ⟨(user_id, value), h.here, if_neg fun heq => hk heq.symm⟩
  · have hset : (t.set k other).items = t.items ++ [(k, other)] := if_neg hmem
    have hset' : (t'.set k other).items = t'.items ++ [(k, other)] :=
      if_neg fun h' => hmem (hkeys.mp h')
    constructor
    · rw [hset, hset', List.filter_append, h.others]
      simp [hk]
    · rw [hset']
      exact List.mem_append_left _ h.here

/-- Only the entries of a user bring the user into the report. -/
theorem mem_users_foldl {entries : List (Option (Int × Int × Int))} {k : Int}
    (h : k ∈ (entries.foldl TrafficReport.add t).items.map Prod.fst) :
    k ∈ t.items.map Prod.fst ∨ ∃ item, some item ∈ entries ∧ item.1 = k := by
  induction entries generalizing t with
  | nil => exact Or.inl h
  | cons entry entries ih =>
    rcases ih h with hmem | ⟨item, hitem, heq⟩
    · cases entry with
      | none => exact Or.inl hmem
      | some item =>
        rcases TrafficReport.mem_users_set.mp hmem with heq | hmem
        · exact Or.inr ⟨item, List.mem_cons_self, heq.symm⟩
        · exact Or.inl hmem
    · exact Or.inr ⟨item, List.mem_cons_of_mem _ hitem, heq⟩

/-- **An entry of another user** stands beside the report of the others. -/
theorem assembleReport_insert {before after : List (Option (Int × Int × Int))}
    (hother : ∀ item, some item ∈ before ++ after → item.1 ≠ user_id) :
    Beside user_id value (assembleReport (before ++ after))
      (assembleReport (before ++ some (user_id, value) :: after)) := by
  have hfold : ∀ (entries : List (Option (Int × Int × Int))) (t t' : TrafficReport),
      (∀ item, some item ∈ entries → item.1 ≠ user_id) → Beside user_id value t t' →
        Beside user_id value (entries.foldl TrafficReport.add t)
          (entries.foldl TrafficReport.add t') := by
    intro entries
    induction entries with
    | nil => exact fun t t' _ h => h
    | cons entry entries ih =>
      intro t t' hne h
      refine ih _ _ (fun item hitem => hne item (List.mem_cons_of_mem _ hitem)) ?_
      cases entry with
      | none => exact h
      | some item => exact h.set (hne item List.mem_cons_self) item.2
  rw [assembleReport, assembleReport, List.foldl_append, List.foldl_append, List.foldl_cons]
  refine hfold after _ _ (fun item hitem => hother item (List.mem_append_right _ hitem)) ?_
  refine Beside.start fun hmem => ?_
  rcases mem_users_foldl hmem with hmem | ⟨item, hitem, heq⟩
  · cases hmem
  · exact hother item (List.mem_append_left _ hitem) heq

/-! ## §3. Storing a report. -/

/-- What a row makes of the cached row of its user. -/
def TrafficCacheRow.cachedSum (db : Database) (row : TrafficCacheRow) : TrafficCacheRow where
  stage := .active
  user_id := row.user_id
  u := cached .upload db .active row.user_id + row.u
  d := cached .download db .active row.user_id + row.d

/-- The row fits, by itself and added to what is cached. -/
def TrafficCacheRow.storable (db : Database) (row : TrafficCacheRow) : Bool :=
  row.fits && (row.cachedSum db).fits

theorem TrafficCacheRow.cachedSum_traffic (db : Database) (row : TrafficCacheRow)
    (dir : Direction) :
    (row.cachedSum db).traffic dir = cached dir db .active row.user_id + row.traffic dir := by
  cases dir <;> rfl

/-- The upsert of a row stores the sum. -/
theorem exec_upsert_plus {row : TrafficCacheRow} (hactive : row.stage = .active) :
    (Stmt.upsert Tbl.traffic_cache row row.plus).exec s ss
      = (row.cachedSum (s.view ss),
        ss.write (.put .traffic_cache (row.cachedSum (s.view ss)))) := by
  have hkey : row.key = (.active, row.user_id) := by rw [TrafficCacheRow.key, hactive]
  rw [Stmt.exec_upsert]
  cases hcur : (s.view ss .traffic_cache).get? (Schema.key (t := Tbl.traffic_cache) row) with
  | none =>
    have hnone : (s.view ss .traffic_cache).get? (.active, row.user_id) = none := hkey ▸ hcur
    have hsame : row = row.cachedSum (s.view ss) := by
      obtain ⟨stage, user_id, u, d⟩ := row
      cases hactive
      simp [TrafficCacheRow.cachedSum, cached, Table.valueAt_of_none hnone]
    exact hsame ▸ rfl
  | some cur =>
    have hsome : (s.view ss .traffic_cache).get? (.active, row.user_id) = some cur := hkey ▸ hcur
    have hcurkey : cur.key = (.active, row.user_id) := Table.key_of_get? hsome
    have hsame : Schema.merge (t := Tbl.traffic_cache) cur (row.plus cur) cur
        = row.cachedSum (s.view ss) := by
      obtain ⟨stage, user_id, u, d⟩ := cur
      cases hcurkey
      simp [TrafficCacheRow.cachedSum, cached, Table.valueAt_of_get? hsome,
        TrafficCacheRow.traffic]
      rfl
    dsimp only
    rw [hsame]
    rfl

/-- What is cached after a row of the stage `active` is stored. -/
theorem cached_write {row : TrafficCacheRow} (hactive : row.stage = .active) (dir : Direction)
    (k : Int) : cached dir (s.view (ss.write (.put .traffic_cache row))) .active k
      = if row.user_id = k then row.traffic dir else cached dir (s.view ss) .active k := by
  unfold cached
  rw [view_write_self (t := .traffic_cache), Table.valueAt_put]
  have hkey : Schema.key (t := Tbl.traffic_cache) row = (.active, row.user_id) := by
    rw [← hactive]
    rfl
  by_cases h : row.user_id = k
  · rw [if_pos h, if_pos (by rw [hkey, h])]
  · rw [if_neg h, if_neg (fun heq => h (congrArg Prod.snd (hkey.symm.trans heq)))]

/-- One row is stored if the sum fits. -/
theorem run_upsertRow {row : TrafficCacheRow} (hactive : row.stage = .active) :
    (upsertRow row).run s ss
      = (if (row.cachedSum (s.view ss)).fits = true then .ok ()
          else .error (.other "DBAPIError"),
        ss.write (.put .traffic_cache (row.cachedSum (s.view ss)))) := by
  unfold upsertRow
  rw [Prog.bind_eq, Prog.run_upsert_bind, exec_upsert_plus hactive]
  split <;> rfl

/-- **The statement of a report**: it stores every row if all sums fit, and fails otherwise. -/
theorem run_upsertRows {rows : List TrafficCacheRow} (hactive : ∀ row ∈ rows, row.stage = .active)
    (hnodup : (rows.map TrafficCacheRow.user_id).Nodup) :
    if ∀ row ∈ rows, (row.cachedSum (s.view ss)).fits = true then
      ∃ ss', (Prog.forEach rows upsertRow).run s ss = (.ok (), ss') ∧
        ∀ dir k, cached dir (s.view ss') .active k
          = cached dir (s.view ss) .active k + reportedRows dir rows k
    else ∃ ss', (Prog.forEach rows upsertRow).run s ss = (.error (.other "DBAPIError"), ss') := by
  induction rows generalizing ss with
  | nil =>
    rw [if_pos (fun row h => by cases h)]
    exact ⟨ss, rfl, fun dir k => by simp [reportedRows]⟩
  | cons row rows ih =>
    have hrow := hactive row List.mem_cons_self
    obtain ⟨hfirst, hrest⟩ := List.nodup_cons.mp hnodup
    set ss₁ := ss.write (.put .traffic_cache (row.cachedSum (s.view ss))) with hss₁
    -- the rows of the other users are as they were
    have hsame : ∀ row' ∈ rows, row'.cachedSum (s.view ss₁) = row'.cachedSum (s.view ss) := by
      intro row' hrow'
      have hne : (row.cachedSum (s.view ss)).user_id ≠ row'.user_id := by
        intro heq
        have heq' : row.user_id = row'.user_id := heq
        exact hfirst (heq' ▸ List.mem_map_of_mem hrow')
      unfold TrafficCacheRow.cachedSum
      rw [hss₁, cached_write (by rfl), cached_write (by rfl), if_neg hne, if_neg hne]
    have hihs := @ih ss₁ (fun row' h => hactive row' (List.mem_cons_of_mem _ h)) hrest
    by_cases hfits : (row.cachedSum (s.view ss)).fits = true
    · have hrun : (Prog.forEach (row :: rows) upsertRow).run s ss
          = (Prog.forEach rows upsertRow).run s ss₁ := by
        rw [Prog.forEach, Prog.run_bind, run_upsertRow hrow, if_pos hfits]
      have hiff : (∀ row' ∈ row :: rows, (row'.cachedSum (s.view ss)).fits = true)
          ↔ ∀ row' ∈ rows, (row'.cachedSum (s.view ss₁)).fits = true := by
        rw [List.forall_mem_cons]
        constructor
        · intro h row' hrow'
          rw [hsame row' hrow']
          exact h.2 row' hrow'
        · intro h
          exact ⟨hfits, fun row' hrow' => hsame row' hrow' ▸ h row' hrow'⟩
      by_cases hall : ∀ row' ∈ rows, (row'.cachedSum (s.view ss₁)).fits = true
      · rw [if_pos hall] at hihs
        rw [if_pos (hiff.mpr hall), hrun]
        obtain ⟨ss', hrun', hcached⟩ := hihs
        refine ⟨ss', hrun', fun dir k => ?_⟩
        rw [hcached, hss₁, cached_write (by rfl), reportedRows_cons,
          TrafficCacheRow.cachedSum_traffic]
        show (if row.user_id = k then _ else _) + _ = _
        by_cases hk : row.user_id = k
        · rw [if_pos hk, if_pos hk, hk]
          omega
        · rw [if_neg hk, if_neg hk]
          omega
      · rw [if_neg hall] at hihs
        rw [if_neg fun h => hall (hiff.mp h), hrun]
        exact hihs
    · rw [if_neg fun h => hfits (h row List.mem_cons_self), Prog.forEach, Prog.run_bind,
        run_upsertRow hrow, if_neg hfits]
      exact ⟨_, rfl⟩

/-! ## §4. What a fetch adds. -/

/-- `_decimal_rate(server.get("rate", 1))`. -/
def serverRate (rt : Runtime) (server : JsonDict) : Decimal :=
  decimalRate rt ((Json.lookup server "rate").getD (.int 1))

/-- What `traffic_fetch` adds to the cached traffic of a user: nothing if it raises. -/
def fetchAdds (rt : Runtime) (s : State Tbl) (data server : JsonDict) (dir : Direction)
    (user_id : Int) : Int :=
  match (trafficFetch rt data server).run s Session.fresh with
  | (.ok (), ss) => cached dir (s.view ss) .active user_id - cached dir s.db .active user_id
  | (.error _, _) => 0

/-- The row of an item can be computed and stored. -/
def itemStorable (db : Database) (rate : Decimal) (item : Int × Int × Int) : Bool :=
  match incrementRow rate item with
  | .ok row => row.storable db
  | .error _ => false

/-- What the row of an item adds for the user `k`. -/
def itemAdds (rate : Decimal) (dir : Direction) (k : Int) (item : Int × Int × Int) : Int :=
  match incrementRow rate item with
  | .ok row => if row.user_id = k then row.traffic dir else 0
  | .error _ => 0

/-- What a report adds if it can be stored. -/
def reportAdds (db : Database) (rate : Decimal) (t : TrafficReport) (dir : Direction)
    (k : Int) : Int :=
  if t.items.all (itemStorable db rate) then (t.items.map (itemAdds rate dir k)).sum else 0

/-- The row of an item is one of its user. -/
theorem incrementRow_user {rate : Decimal} {item : Int × Int × Int} {row : TrafficCacheRow}
    (h : incrementRow rate item = .ok row) : row.user_id = item.1 := by
  obtain ⟨user_id, upload, download⟩ := item
  obtain ⟨u, -, h⟩ := except_bind_ok h
  obtain ⟨d, -, h⟩ := except_bind_ok h
  injection h with h
  rw [← h]

/-- The rows of a report, next to its items. -/
theorem incrementRows_items {rate : Decimal} {items : List (Int × Int × Int)}
    {rows : List TrafficCacheRow}
    (h : List.Forall₂ (fun item row => incrementRow rate item = .ok row) items rows)
    (db : Database) (dir : Direction) (k : Int) :
    rows.map TrafficCacheRow.user_id = items.map Prod.fst ∧
      items.all (itemStorable db rate) = rows.all (TrafficCacheRow.storable db) ∧
      (items.map (itemAdds rate dir k)).sum = reportedRows dir rows k := by
  induction h with
  | nil => exact ⟨rfl, rfl, by simp [reportedRows]⟩
  | @cons item row items rows hrow _ ih =>
    obtain ⟨husers, hall, hsum⟩ := ih
    refine ⟨?_, ?_, ?_⟩
    · rw [List.map_cons, List.map_cons, husers, incrementRow_user hrow]
    · rw [List.all_cons, List.all_cons, hall, itemStorable, hrow]
    · rw [List.map_cons, List.sum_cons, hsum, reportedRows_cons, itemAdds, hrow]

/-- Storing a report. -/
theorem run_incrementTrafficCache (t : TrafficReport) (rate : Decimal) :
    if t.items.all (itemStorable s.db rate) = true then
      ∃ ss, (incrementTrafficCache t rate).run s Session.fresh = (.ok (), ss) ∧
        ∀ dir k, cached dir (s.view ss) .active k
          = cached dir s.db .active k + (t.items.map (itemAdds rate dir k)).sum
    else ∃ e ss, (incrementTrafficCache t rate).run s Session.fresh = (.error e, ss) := by
  unfold incrementTrafficCache
  rw [Prog.bind_eq, Prog.run_bind, run_liftExcept]
  cases hrows : incrementRows t rate with
  | error e =>
    have hno : ¬t.items.all (itemStorable s.db rate) = true := by
      intro hall
      obtain ⟨item, hitem, herror⟩ := mem_of_mapM_error hrows
      have hstorable := List.all_eq_true.mp hall item hitem
      rw [itemStorable, herror] at hstorable
      cases hstorable
    rw [if_neg hno]
    exact ⟨e, _, rfl⟩
  | ok rows =>
    have hitems := incrementRows_items (forall₂_of_mapM_ok hrows) s.db
    obtain ⟨husers, hall, -⟩ := hitems .upload 0
    have hstored := @run_upsertRows s Session.fresh rows (incrementRows_active hrows)
      (husers ▸ t.nodup)
    rw [hall]
    dsimp only
    by_cases hfits : rows.all TrafficCacheRow.fits = true
    · rw [if_pos hfits]
      by_cases hsums : ∀ row ∈ rows, (row.cachedSum (s.view Session.fresh)).fits = true
      · rw [if_pos hsums] at hstored
        have hstorable : rows.all (TrafficCacheRow.storable s.db) = true := by
          refine List.all_eq_true.mpr fun row hrow => ?_
          rw [TrafficCacheRow.storable, List.all_eq_true.mp hfits row hrow]
          exact hsums row hrow
        rw [if_pos hstorable]
        obtain ⟨ss, hrun, hcached⟩ := hstored
        refine ⟨ss, hrun, fun dir k => ?_⟩
        rw [(hitems dir k).2.2]
        exact hcached dir k
      · rw [if_neg hsums] at hstored
        have hno : ¬rows.all (TrafficCacheRow.storable s.db) = true := by
          intro hall'
          refine hsums fun row hrow => ?_
          have hrow' := List.all_eq_true.mp hall' row hrow
          rw [TrafficCacheRow.storable, Bool.and_eq_true] at hrow'
          exact hrow'.2
        rw [if_neg hno]
        obtain ⟨ss, hrun⟩ := hstored
        exact ⟨_, ss, hrun⟩
    · have hno : ¬rows.all (TrafficCacheRow.storable s.db) = true := by
        intro hall'
        refine hfits (List.all_eq_true.mpr fun row hrow => ?_)
        have hrow' := List.all_eq_true.mp hall' row hrow
        rw [TrafficCacheRow.storable, Bool.and_eq_true] at hrow'
        exact hrow'.1
      rw [if_neg hfits, if_neg hno]
      exact ⟨_, _, rfl⟩

/-- **What a fetch adds**: what the report adds that was read, if there is one. -/
theorem fetchAdds_eq (data server : JsonDict) (dir : Direction) (k : Int) :
    fetchAdds rt s data server dir k = match normalizeTrafficData rt data with
      | .ok t => reportAdds s.db (serverRate rt server) t dir k
      | .error _ => 0 := by
  unfold fetchAdds trafficFetch
  rw [Prog.bind_eq, Prog.run_bind, run_liftExcept]
  cases normalizeTrafficData rt data with
  | error e => rfl
  | ok t =>
    dsimp only
    by_cases hempty : t.items.isEmpty = true
    · rw [if_pos hempty, reportAdds, List.isEmpty_iff.mp hempty]
      exact sub_self _
    · rw [if_neg hempty]
      have hrun := run_incrementTrafficCache (s := s) t (serverRate rt server)
      rw [reportAdds]
      by_cases hall : t.items.all (itemStorable s.db (serverRate rt server)) = true
      · rw [if_pos hall] at hrun ⊢
        obtain ⟨ss, hrun, hcached⟩ := hrun
        rw [serverRate] at hrun
        rw [hrun]
        dsimp only
        rw [hcached]
        omega
      · rw [if_neg hall] at hrun ⊢
        obtain ⟨e, ss, hrun⟩ := hrun
        rw [serverRate] at hrun
        rw [hrun]

/-! ## §5. The other users. -/

/-- Items that add nothing can be left out. -/
theorem sum_map_filter {α : Type} {f : α → Int} {p : α → Bool} {l : List α}
    (h : ∀ x ∈ l, p x = false → f x = 0) : ((l.filter p).map f).sum = (l.map f).sum := by
  induction l with
  | nil => rfl
  | cons x l ih =>
    have hrest := ih fun y hy => h y (List.mem_cons_of_mem x hy)
    cases hx : p x with
    | true => rw [List.filter_cons_of_pos hx, List.map_cons, List.map_cons, List.sum_cons,
        List.sum_cons, hrest]
    | false =>
      rw [List.filter_cons_of_neg (by simp [hx]), hrest, List.map_cons, List.sum_cons,
        h x List.mem_cons_self hx, zero_add]

/-- The item of another user adds nothing. -/
theorem itemAdds_of_ne {rate : Decimal} {dir : Direction} {k : Int} {item : Int × Int × Int}
    (h : item.1 ≠ k) : itemAdds rate dir k item = 0 := by
  unfold itemAdds
  cases hrow : incrementRow rate item with
  | error e => rfl
  | ok row =>
    dsimp only
    rw [incrementRow_user hrow, if_neg h]

/-- A user has one item of a report. -/
theorem filter_user_of_mem {item : Int × Int × Int} (hitem : item ∈ t.items) :
    t.items.filter (fun x => x.1 = item.1) = [item] :=
  @Table.filter_key_of_mem _ _ Prod.fst _ t.items t.nodup item hitem

/-- What a report adds for a user is what the user's item adds. -/
theorem sum_itemAdds {rate : Decimal} {dir : Direction} {item : Int × Int × Int}
    (hitem : item ∈ t.items) :
    (t.items.map (itemAdds rate dir item.1)).sum = itemAdds rate dir item.1 item := by
  have hsum := sum_map_filter (f := itemAdds rate dir item.1) (p := fun x => x.1 = item.1)
    (l := t.items) fun x _ hne => itemAdds_of_ne (of_decide_eq_false hne)
  rw [← hsum, filter_user_of_mem hitem]
  simp

/-- **An entry beside a report**: it can spoil the report, and adds nothing for the others. -/
theorem Beside.reportAdds (h : Beside user_id value t t') (db : Database) (rate : Decimal)
    (dir : Direction) {k : Int} (hk : k ≠ user_id) : reportAdds db rate t' dir k
      = if itemStorable db rate (user_id, value) then reportAdds db rate t dir k else 0 := by
  have hsum : (t'.items.map (itemAdds rate dir k)).sum
      = (t.items.map (itemAdds rate dir k)).sum := by
    rw [← h.others]
    refine (sum_map_filter fun item _ hsame => itemAdds_of_ne ?_).symm
    have heq : item.1 = user_id := by simpa using hsame
    rw [heq]
    exact hk.symm
  have hall : t'.items.all (itemStorable db rate)
      = (itemStorable db rate (user_id, value) && t.items.all (itemStorable db rate)) := by
    rw [Bool.eq_iff_iff, Bool.and_eq_true, List.all_eq_true, List.all_eq_true]
    constructor
    · intro hitems
      refine ⟨hitems _ h.here, fun item hitem => hitems item ?_⟩
      rw [← h.others] at hitem
      exact (List.mem_filter.mp hitem).1
    · rintro ⟨hhere, hitems⟩ item hitem
      by_cases heq : item.1 = user_id
      · have hsame : [item] = [(user_id, value)] := by
          rw [← filter_user_of_mem hitem,
            ← filter_user_of_mem h.here, heq]
        rw [(List.cons.inj hsame).1]
        exact hhere
      · refine hitems item ?_
        rw [← h.others]
        exact List.mem_filter.mpr ⟨hitem, decide_eq_true heq⟩
  unfold PyBoard.reportAdds
  rw [hall, hsum]
  cases itemStorable db rate (user_id, value) with
  | true => rw [Bool.true_and, if_pos rfl]
  | false => rw [Bool.false_and, if_neg Bool.false_ne_true, if_neg Bool.false_ne_true]

/-- The users that the keys of a report denote. -/
def reportedUsers (rt : Runtime) (data : JsonDict) : List Int :=
  data.filterMap fun entry => rt.int_of_str entry.1

/-- The entry is skipped, or it is read and can be stored. -/
def entryFits (rt : Runtime) (db : Database) (server : JsonDict) (entry : String × Json) : Bool :=
  match readEntry rt entry with
  | .ok none => true
  | .ok (some item) => itemStorable db (serverRate rt server) item
  | .error _ => false

/-- The key of an entry that was read denotes its user. -/
theorem readEntry_user {entry : String × Json} {item : Int × Int × Int}
    (h : readEntry rt entry = .ok (some item)) : rt.int_of_str entry.1 = some item.1 := by
  unfold readEntry at h
  cases hkey : rt.int_of_str entry.1 with
  | none =>
    rw [hkey] at h
    cases h
  | some user_id =>
    rw [hkey] at h
    dsimp only at h
    split at h
    · cases h
      rfl
    · split at h <;> cases h

/-- The items that were read are of users that the keys denote. -/
theorem mem_reportedUsers {data : JsonDict} {entries : List (Option (Int × Int × Int))}
    (h : data.mapM (readEntry rt) = .ok entries) {item : Int × Int × Int}
    (hitem : some item ∈ entries) : item.1 ∈ reportedUsers rt data := by
  obtain ⟨entry, hentry, hread⟩ := mem_of_mapM_ok h hitem
  exact List.mem_filterMap.mpr ⟨entry, hentry, readEntry_user hread⟩

section

variable {before after : JsonDict} {entry : String × Json} {server : JsonDict}

/-- **What a fetch adds with one entry more**, for a user of another entry. -/
theorem fetchAdds_insert
    (hkey : ∀ u, rt.int_of_str entry.1 = some u → u ∉ reportedUsers rt (before ++ after))
    {k : Int} (hk : k ∈ reportedUsers rt (before ++ after)) (dir : Direction) :
    fetchAdds rt s (before ++ entry :: after) server dir k
      = if entryFits rt s.db server entry then fetchAdds rt s (before ++ after) server dir k
        else 0 := by
  rw [fetchAdds_eq, fetchAdds_eq, normalizeTrafficData_eq, normalizeTrafficData_eq,
    List.mapM_append, List.mapM_append, List.mapM_cons, entryFits]
  cases hbefore : before.mapM (readEntry rt) with
  | error e => exact (ite_self _).symm
  | ok read =>
    cases hafter : after.mapM (readEntry rt) with
    | error e =>
      cases readEntry rt entry with
      | error e' => exact (ite_self _).symm
      | ok item => exact (ite_self _).symm
    | ok rest =>
      have hread : (before ++ after).mapM (readEntry rt) = .ok (read ++ rest) := by
        rw [List.mapM_append, hbefore, hafter]
        rfl
      cases hentry : readEntry rt entry with
      | error e => rfl
      | ok item =>
        cases item with
        | none =>
          show reportAdds s.db (serverRate rt server) (assembleReport (read ++ none :: rest)) dir k
            = reportAdds s.db (serverRate rt server) (assembleReport (read ++ rest)) dir k
          rw [assembleReport, List.foldl_append, List.foldl_cons, assembleReport, List.foldl_append]
          rfl
        | some item =>
          have hnew := hkey item.1 (readEntry_user hentry)
          have hbeside : Beside item.1 item.2 (assembleReport (read ++ rest))
              (assembleReport (read ++ some item :: rest)) :=
            assembleReport_insert fun other hother heq =>
              hnew (heq ▸ mem_reportedUsers hread hother)
          exact hbeside.reportAdds s.db (serverRate rt server) dir fun heq => hnew (heq ▸ hk)

/-- Without the entry nothing is added: the report cannot be read or stored, or all amounts
    are zero. -/
def AddsNothing (rt : Runtime) (db : Database) (server data : JsonDict) : Prop :=
  ∀ t, normalizeTrafficData rt data = .ok t →
    t.items.all (itemStorable db (serverRate rt server)) = true →
      ∀ item ∈ t.items, ∀ dir, itemAdds (serverRate rt server) dir item.1 item = 0

/-- The items of a report are of its users. -/
theorem mem_reportedUsers_of_item {data : JsonDict} (h : normalizeTrafficData rt data = .ok t)
    {item : Int × Int × Int} (hitem : item ∈ t.items) : item.1 ∈ reportedUsers rt data := by
  rw [normalizeTrafficData_eq] at h
  cases hread : data.mapM (readEntry rt) with
  | error e =>
    rw [hread] at h
    cases h
  | ok entries =>
    rw [hread] at h
    cases h
    rcases mem_users_foldl (List.mem_map_of_mem hitem) with hno | ⟨other, hother, heq⟩
    · cases hno
    · rw [← heq]
      exact mem_reportedUsers hread hother

theorem addsNothing_iff (data : JsonDict) : AddsNothing rt s.db server data ↔
    ∀ k ∈ reportedUsers rt data, ∀ dir, fetchAdds rt s data server dir k = 0 := by
  constructor
  · intro h k hk dir
    rw [fetchAdds_eq]
    cases hdata : normalizeTrafficData rt data with
    | error e => rfl
    | ok t =>
      show reportAdds s.db (serverRate rt server) t dir k = 0
      unfold reportAdds
      split
      · next hall =>
        refine List.sum_eq_zero fun x hx => ?_
        obtain ⟨item, hitem, rfl⟩ := List.mem_map.mp hx
        by_cases heq : item.1 = k
        · rw [← heq]
          exact h t hdata hall item hitem dir
        · exact itemAdds_of_ne heq
      · rfl
  · intro h t hdata hall item hitem dir
    have hzero := h item.1 (mem_reportedUsers_of_item hdata hitem) dir
    rw [fetchAdds_eq, hdata] at hzero
    dsimp only at hzero
    rw [reportAdds, if_pos hall, sum_itemAdds hitem] at hzero
    exact hzero

/-- **When an entry leaves the traffic of the others alone**: exactly when it is skipped or can
    be stored, or nothing would be added without it either. -/
theorem other_traffic_unchanged_iff
    (hkey : ∀ u, rt.int_of_str entry.1 = some u → u ∉ reportedUsers rt (before ++ after)) :
    (∀ k ∈ reportedUsers rt (before ++ after), ∀ dir,
      fetchAdds rt s (before ++ entry :: after) server dir k
        = fetchAdds rt s (before ++ after) server dir k) ↔
      entryFits rt s.db server entry = true ∨ AddsNothing rt s.db server (before ++ after) := by
  rw [addsNothing_iff]
  constructor
  · intro h
    by_cases hfits : entryFits rt s.db server entry = true
    · exact Or.inl hfits
    · refine Or.inr fun k hk dir => ?_
      have hinsert : fetchAdds rt s (before ++ entry :: after) server dir k = _ :=
        fetchAdds_insert hkey hk dir
      rw [if_neg hfits] at hinsert
      rw [← h k hk dir]
      exact hinsert
  · intro h k hk dir
    have hinsert : fetchAdds rt s (before ++ entry :: after) server dir k = _ :=
      fetchAdds_insert hkey hk dir
    rcases h with hfits | hnothing
    · rw [if_pos hfits] at hinsert
      exact hinsert
    · rw [hnothing k hk dir, ite_self] at hinsert
      rw [hinsert, hnothing k hk dir]

end

/-- A report of 100 and 7 bytes of user 1, on an empty database. -/
def smallReport : JsonDict := [("1", .arr [.int 100, .int 7])]

/-- The rate of the node. -/
def plainNode : JsonDict := [("rate", .int 1)]

/-- **Two entries that take everyone's traffic away**: an upload that no BIGINT holds, and an
    infinite one. -/
theorem entry_spoils_report :
    fetchAdds Utc.bare ⟨Database.empty, 0⟩ smallReport plainNode .upload 1 = 100 ∧
      fetchAdds Utc.bare ⟨Database.empty, 0⟩ (smallReport ++ [("2", .arr [.int (2 ^ 63), .int 0])])
        plainNode .upload 1 = 0 ∧
      fetchAdds Utc.bare ⟨Database.empty, 0⟩
        (smallReport ++ [("2", .arr [.float (.inf false), .int 0])]) plainNode .upload 1 = 0 := by
  decide +kernel

/-- A list that is too short is skipped. -/
theorem other_traffic_unchanged_skipped :
    fetchAdds Utc.bare ⟨Database.empty, 0⟩ (smallReport ++ [("2", .arr [.int 5])]) plainNode
        .upload 1
      = fetchAdds Utc.bare ⟨Database.empty, 0⟩ (smallReport ++ []) plainNode .upload 1 := by
  have hkey : ∀ u, Utc.bare.int_of_str "2" = some u →
      u ∉ reportedUsers Utc.bare (smallReport ++ []) := by
    intro u hu
    have htwo : Utc.bare.int_of_str "2" = some 2 := by decide +kernel
    cases htwo.symm.trans hu
    decide +kernel
  exact (@other_traffic_unchanged_iff Utc.bare ⟨Database.empty, 0⟩ smallReport []
    ("2", .arr [.int 5]) plainNode hkey).mpr (Or.inl (by decide +kernel)) 1 (by decide +kernel)
    .upload

end PyBoard
