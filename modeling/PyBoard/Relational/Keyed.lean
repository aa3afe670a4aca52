/-
  PyBoard.Relational.Keyed — rows that a secondary key names.

  A table has a primary key.  Programs often look a row up by other columns, and
  count on it that these name at most one row, without a constraint that says so.
  `OneRow` says it of one value of the columns.  `Stores` describes a session that
  has changed rows which it knows, and added rows with new primary keys, and
  `OneRow.stored_rows` says what its commit makes of each value of the columns.
-/
import PyBoard.Relational.Steady

namespace PyBoard.Relational

open Schema

variable {L T : Type} [Schema T] [DecidableEq T] {ε κ : Type} {t : T}

/-! ## §1. One row. -/

/-- The rows with the secondary key `k` are `v`: one row, or none. -/
structure OneRow (kf : Row t → κ) (k : κ) (v : Option (Row t)) (db : DB T) : Prop where
  row : ∀ r ∈ (db t).rows, kf r = k → v = some r
  stored : ∀ r, v = some r → kf r = k ∧ r ∈ (db t).rows

section

variable {kf : Row t → κ} {k : κ} {v : Option (Row t)} {db : DB T}

omit [DecidableEq T] in
theorem OneRow.get (h : OneRow kf k v db) {r : Row t} (hv : v = some r) :
    (db t).get? (key r) = some r := Table.get?_of_mem (h.stored r hv).2

omit [DecidableEq T] in
theorem OneRow.congr {db' : DB T} (h : OneRow kf k v db) (hsame : db' t = db t) :
    OneRow kf k v db' :=
  ⟨by rw [hsame]; exact h.row, by rw [hsame]; exact h.stored⟩

omit [DecidableEq T] in
/-- The query by the secondary key. -/
theorem OneRow.filter (h : OneRow kf k v db) {p : Row t → Bool}
    (hp : ∀ r, p r = true ↔ kf r = k) : (db t).rows.filter p = v.toList := by
  cases hv : v with
  | none =>
    refine List.filter_eq_nil_iff.mpr fun r hr hpr => ?_
    have := h.row r hr ((hp r).mp hpr)
    rw [hv] at this
    cases this
  | some r =>
    obtain ⟨hk, hmem⟩ := h.stored r hv
    refine Table.filter_eq_singleton _ hmem ((hp r).mpr hk) fun x hx hpx => ?_
    have := h.row x hx ((hp x).mp hpx)
    rw [hv] at this
    exact (Option.some.inj this).symm

omit [DecidableEq T] in
/-- A query by the secondary key that finds at most one row. -/
theorem OneRow.of_length {p : Row t → Bool} (hp : ∀ r, p r = true ↔ kf r = k)
    (h : ((db t).rows.filter p).length ≤ 1) : OneRow kf k ((db t).rows.filter p).head? db := by
  have hmem : ∀ r, r ∈ (db t).rows.filter p ↔ r ∈ (db t).rows ∧ kf r = k :=
    fun r => by rw [List.mem_filter, hp]
  generalize (db t).rows.filter p = l at h hmem
  refine ⟨fun r hr hk => ?_, fun r hv => ?_⟩
  · have hr' := (hmem r).mpr ⟨hr, hk⟩
    match l with
    | [] => cases hr'
    | [x] => rw [List.mem_singleton.mp hr']; rfl
    | _ :: _ :: _ => simp at h
  · exact ((hmem r).mp (List.mem_of_mem_head? hv)).symm

end

/-! ## §2. What a session stores. -/

/-- Rows of which no two have the same primary key are all there. -/
theorem DB.mem_apply_puts {db : DB T} {rows : List (Row t)}
    (hn : ∀ r ∈ rows, ∀ r' ∈ rows, key r = key r' → r = r') {x : Row t} :
    x ∈ (db.apply (rows.map fun r => .put t r) t).rows ↔
      x ∈ rows ∨ (x ∈ (db t).rows ∧ ∀ r ∈ rows, key x ≠ key r) := by
  induction rows using List.reverseRecOn with
  | nil => simp
  | append_singleton rows r ih =>
    have ih := ih fun r hr r' hr' =>
      hn r (List.mem_append_left _ hr) r' (List.mem_append_left _ hr')
    rw [List.map_append, DB.apply_append]
    show x ∈ ((db.apply _).put t r t).rows ↔ _
    rw [DB.put_same, Table.mem_put, ih]
    constructor
    · rintro (rfl | ⟨hx | ⟨hx, hne⟩, hr⟩)
      · exact Or.inl (List.mem_append_right _ (List.mem_singleton_self _))
      · exact Or.inl (List.mem_append_left _ hx)
      · refine Or.inr ⟨hx, fun r' hr' => ?_⟩
        rcases List.mem_append.mp hr' with hr' | hr'
        · exact hne r' hr'
        · rw [List.mem_singleton.mp hr']
          exact hr
    · rintro (hx | ⟨hx, hne⟩)
      · rcases List.mem_append.mp hx with hx | hx
        · by_cases hk : key x = key r
          · exact Or.inl (hn x (List.mem_append_left _ hx) r
              (List.mem_append_right _ (List.mem_singleton_self _)) hk)
          · exact Or.inr ⟨Or.inl hx, hk⟩
        · exact Or.inl (List.mem_singleton.mp hx)
      · exact Or.inr ⟨Or.inr ⟨hx, fun r' hr' => hne r' (List.mem_append_left _ hr')⟩,
          hne r (List.mem_append_right _ (List.mem_singleton_self _))⟩

/-- The session has stored `rows` of one table: new versions of rows with the same secondary
    key, and rows with new primary keys. -/
structure Stores (kf : Row t → κ) (rows : List (Row t)) (s : State T) (ss : Session T) : Prop where
  ws : ss.ws = rows.map fun r => .put t r
  unique : ∀ r ∈ rows, ∀ r' ∈ rows, key r = key r' → r = r'
  kept : ∀ r ∈ rows, ∃ cur, Holds s ss t (key r) cur ∧ ∀ old, cur = some old → kf old = kf r

variable {C : Contract L T} {kf : Row t → κ} {rows : List (Row t)} {s s' : State T}
  {ss : Session T}

omit [DecidableEq T] in
theorem Stores.nil (kf : Row t → κ) (s : State T) : Stores kf [] s Session.fresh :=
  ⟨rfl, fun r hr => (by cases hr), fun r hr => (by cases hr)⟩

theorem Stores.rely (h : Stores kf rows s ss) (hr : C.Rely ss.locks s s') :
    Stores kf rows s' ss := by
  refine ⟨h.ws, h.unique, fun r hmem => ?_⟩
  obtain ⟨cur, hcur, hk⟩ := h.kept r hmem
  exact ⟨cur, hcur.rely hr, hk⟩

/-- A row that the session has not stored is seen as it is committed. -/
theorem Stores.view (h : Stores kf rows s ss) {k : Key t} (hk : ∀ r ∈ rows, key r ≠ k)
    (s : State T) : (s.view ss t).get? k = (s.db t).get? k := by
  refine DB.get?_apply_of_not_mem _ _ fun w hw heq => ?_
  rw [h.ws] at hw
  obtain ⟨r, hr, rfl⟩ := List.mem_map.mp hw
  obtain ⟨-, hid⟩ := Sigma.mk.inj heq
  exact hk r hr (eq_of_heq hid)

/-- The other tables stay. -/
theorem Stores.other (h : Stores kf rows s ss) {t' : T} (hne : t ≠ t') (db : DB T) :
    db.apply ss.ws t' = db t' := by
  refine DB.apply_of_table_not_mem _ _ fun w hw => ?_
  rw [h.ws] at hw
  obtain ⟨r, -, rfl⟩ := List.mem_map.mp hw
  exact hne

/-- A row that the session has stored is seen. -/
theorem Stores.seen (h : Stores kf rows s ss) {r : Row t} (hr : r ∈ rows) (s : State T) :
    (s.view ss t).get? (key r) = some r := by
  refine Table.get?_of_mem ?_
  show r ∈ (s.db.apply ss.ws t).rows
  rw [h.ws]
  exact (DB.mem_apply_puts h.unique).mpr (Or.inl hr)

/-- **One more row**: a version of one that is there, or a new one. -/
theorem Stores.append (h : Stores kf rows s ss) (hr : C.Rely ss.locks s s') {new : Row t}
    {cur : Option (Row t)} (hcur : (s'.db t).get? (key new) = cur)
    (hold : ∀ old, cur = some old → kf old = kf new) (hne : ∀ r ∈ rows, key r ≠ key new) :
    Stores kf (rows ++ [new]) s' (ss.write (.put t new)) := by
  refine ⟨?_, ?_, fun r hmem => ?_⟩
  · rw [Session.write_ws, h.ws, List.map_append]
    rfl
  · intro r hmem r' hmem' hk
    rcases List.mem_append.mp hmem with hmem | hmem
    · rcases List.mem_append.mp hmem' with hmem' | hmem'
      · exact h.unique r hmem r' hmem' hk
      · rw [List.mem_singleton.mp hmem'] at hk
        exact absurd hk (hne r hmem)
    · rw [List.mem_singleton.mp hmem] at hk ⊢
      rcases List.mem_append.mp hmem' with hmem' | hmem'
      · exact absurd hk.symm (hne r' hmem')
      · exact (List.mem_singleton.mp hmem').symm
  · rcases List.mem_append.mp hmem with hmem | hmem
    · obtain ⟨cur', hcur', hk⟩ := h.kept r hmem
      exact ⟨cur', ⟨List.mem_cons_of_mem _ hcur'.locked, (hcur'.rely hr).committed⟩, hk⟩
    · rw [List.mem_singleton.mp hmem]
      exact ⟨cur, ⟨List.mem_cons_self, hcur⟩, hold⟩

/-! ## §3. Statements. -/

/-- **An UPDATE of a row that nobody else changes.** -/
theorem Stores.wp_update (h : Stores kf rows s ss) {old new : Row t} (hid : key old = key new)
    (hk : kf old = kf new) (hold : ∀ s, C.Inv s → (s.db t).get? (key old) = some old)
    (hne : ∀ r ∈ rows, key r ≠ key old)
    {Q : Except ε Bool → State T → Session T → Prop}
    (hq : ∀ s' ss', C.Inv s' → Stores kf (rows ++ [new]) s' ss' → Q (.ok true) s' ss') :
    wp C (Prog.update t old new) Q s ss := by
  intro s' hr hi _
  have hseen : (s'.view ss t).get? (key old) = some old := (h.view hne s').trans (hold s' hi)
  rw [Stmt.exec_update, hseen]
  dsimp only
  rw [merge_self old new hid]
  have hcur : (s'.db t).get? (key new) = some old := by
    rw [← hid]
    exact hold s' hi
  refine hq s' _ hi (h.append hr hcur (fun old' heq => ?_) ?_)
  · cases heq
    exact hk
  · rw [← hid]
    exact hne

/-- **An INSERT with a new primary key.** -/
theorem Stores.wp_insert (h : Stores kf rows s ss) {new : Row t}
    (hfresh : ∀ s', C.stmt (.insert t new) s' ss = true → (s'.view ss).refuses t new = false)
    {Q : Except ε Bool → State T → Session T → Prop}
    (hq : ∀ s' ss', C.Inv s' → Stores kf (rows ++ [new]) s' ss' → Q (.ok true) s' ss') :
    wp C (Prog.insert t new) Q s ss := by
  intro s' hr hi hstmt
  have hnew := hfresh s' hstmt
  have hfree : (s'.view ss t).get? (key new) = none :=
    Table.get?_eq_none.mpr fun x hx hk => by
      have : (s'.view ss).refuses t new = true := List.any_eq_true.mpr ⟨x, hx, by simp [hk]⟩
      rw [hnew] at this
      cases this
  have hne : ∀ r ∈ rows, key r ≠ key new := by
    intro r hmem hk
    have := h.seen hmem s'
    rw [hk, hfree] at this
    cases this
  rw [Stmt.exec_insert, hnew]
  exact hq s' _ hi (h.append hr ((h.view hne s').symm.trans hfree)
    (fun old heq => by cases heq) hne)

/-! ## §4. The commit. -/

/-- **What a commit makes of the rows of a secondary key**: one of the rows that it stores is
    the new version, or none has that key and the row stays. -/
theorem OneRow.stored_rows (h : Stores kf rows s ss) {k : κ} {v v' : Option (Row t)}
    (hv : OneRow kf k v s.db)
    (hnew : (∃ new ∈ rows, kf new = k ∧ v' = some new ∧ (∀ r ∈ rows, kf r = k → r = new) ∧
      ∀ old, v = some old → key old = key new) ∨ v' = v ∧ ∀ r ∈ rows, kf r ≠ k) :
    OneRow kf k v' (s.db.apply ss.ws) := by
  rw [h.ws]
  have hmem : ∀ x : Row t, x ∈ (s.db.apply (rows.map fun r => .put t r) t).rows ↔
      x ∈ rows ∨ (x ∈ (s.db t).rows ∧ ∀ r ∈ rows, key x ≠ key r) :=
    fun x => DB.mem_apply_puts h.unique
  rcases hnew with ⟨new, hnew, hk, rfl, honly, hid⟩ | ⟨rfl, hother⟩
  · refine ⟨fun x hx hkx => ?_, fun x hx => ?_⟩
    · rcases (hmem x).mp hx with hx | ⟨hx, hne⟩
      · rw [honly x hx hkx]
      · exact absurd (hid x (hv.row x hx hkx)) (hne new hnew)
    · cases hx
      exact ⟨hk, (hmem new).mpr (Or.inl hnew)⟩
  · refine ⟨fun x hx hkx => ?_, fun x hx => ?_⟩
    · rcases (hmem x).mp hx with hx | ⟨hx, -⟩
      · exact absurd hkx (hother x hx)
      · exact hv.row x hx hkx
    · obtain ⟨hkx, hx'⟩ := hv.stored x hx
      refine ⟨hkx, (hmem x).mpr (Or.inr ⟨hx', fun r hr heq => ?_⟩)⟩
      obtain ⟨cur, hcur, hkept⟩ := h.kept r hr
      have hget : (s.db t).get? (key r) = some x := heq ▸ Table.get?_of_mem hx'
      refine hother r hr ?_
      rw [← hkx]
      exact (hkept x (hcur.committed.symm.trans hget)).symm

end PyBoard.Relational
