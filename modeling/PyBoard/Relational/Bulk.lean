/-
  PyBoard.Relational.Bulk — statements about many rows.

  One UPDATE or DELETE with a WHERE clause picks its rows when it begins; it then
  locks them one after the other and looks again at the version that is current
  under the lock.  So it is a loop over single-row statements.  The gain of a
  session says by how much its writes have moved a quantity of a row; it does not
  change while the session waits (`Contract.Rely.gain`).

  Main definitions:
    * `Prog.forEach` with its rule `wp_forEach`.
    * `Prog.updateWhere`, `Prog.deleteWhere`.
    * `State.gain`.
-/
import PyBoard.Relational.Locking

namespace PyBoard.Relational

open Schema

variable {L T : Type} [Schema T] [DecidableEq T] {C : Contract L T} {ε α : Type}

/-! ## §1. Loops. -/

/-- Run a program for every element, first to last. -/
def Prog.forEach (xs : List α) (f : α → Prog T ε Unit) : Prog T ε Unit :=
  match xs with
  | [] => .ret ()
  | x :: xs => (f x).bind fun _ => Prog.forEach xs f

/-- **The rule of the loop**: an invariant about what is left to do. -/
theorem wp_forEach {f : α → Prog T ε Unit} {Q : Except ε Unit → State T → Session T → Prop}
    (I : List α → State T → Session T → Prop)
    (hstep : ∀ x xs s ss, I (x :: xs) s ss →
      wp C (f x) (fun r s' ss' =>
        match r with
        | .ok _ => I xs s' ss'
        | .error e => Q (.error e) s' ss') s ss)
    (hdone : ∀ s ss, I [] s ss → Q (.ok ()) s ss) {xs : List α} {s : State T} {ss : Session T}
    (h : I xs s ss) : wp C (Prog.forEach xs f) Q s ss := by
  induction xs generalizing s ss with
  | nil => exact hdone s ss h
  | cons x xs ih =>
    refine (wp_bind _ _ _ _ _).mpr (wp_mono (hstep x xs s ss h) ?_)
    rintro (e | _) s' ss' hx
    · exact hx
    · exact ih hx

/-! ## §2. UPDATE and DELETE with a WHERE clause. -/

/-- Do something to the current version of a row, if there is one that satisfies `p`. -/
def Prog.relock (t : T) (p : Row t → Bool) (f : Row t → Prog T ε Unit) (r : Row t) :
    Prog T ε Unit :=
  (Prog.getForUpdate t (key r)).bind fun
    | none => .ret ()
    | some cur => if p cur then f cur else .ret ()

/-- `UPDATE t SET … WHERE p`. -/
def Prog.updateWhere (t : T) (p : Row t → Bool) (f : Row t → Row t) : Prog T ε Unit :=
  (Prog.select t p).bind fun rows => Prog.forEach rows (Prog.relock t p fun cur =>
    (Prog.update t cur (f cur)).bind fun _ => .ret ())

/-- `DELETE FROM t WHERE p`. -/
def Prog.deleteWhere (t : T) (p : Row t → Bool) : Prog T ε Unit :=
  (Prog.select t p).bind fun rows => Prog.forEach rows (Prog.relock t p fun cur =>
    (Prog.delete t (key cur)).bind fun _ => .ret ())

/-- Do something to the current versions of the rows that still satisfy `p`, and answer
    these versions. -/
def Prog.returning (t : T) (p : Row t → Bool) (f : Row t → Prog T ε Unit) :
    List (Row t) → Prog T ε (List (Row t))
  | [] => .ret []
  | r :: rs => (Prog.getForUpdate t (key r)).bind fun
    | none => Prog.returning t p f rs
    | some cur =>
      if p cur then
        (f cur).bind fun _ => (Prog.returning t p f rs).bind fun l => .ret (cur :: l)
      else Prog.returning t p f rs

/-- `DELETE FROM t WHERE p RETURNING …`. -/
def Prog.deleteReturning (t : T) (p : Row t → Bool) : Prog T ε (List (Row t)) :=
  (Prog.select t p).bind (Prog.returning t p fun cur =>
    (Prog.delete t (key cur)).bind fun _ => .ret ())

/-- `UPDATE t SET … WHERE p RETURNING …`. -/
def Prog.updateReturning (t : T) (p : Row t → Bool) (f : Row t → Row t) :
    Prog T ε (List (Row t)) :=
  (Prog.select t p).bind (Prog.returning t p fun cur =>
    (Prog.update t cur (f cur)).bind fun _ => .ret ())

section

variable {t : T} {p : Row t → Bool} {f : Row t → Prog T ε Unit} {r : Row t} {s : State T}
  {ss : Session T}

/-- A row that is looked at again is owned from then on. -/
theorem wp_relock {Q : Except ε Unit → State T → Session T → Prop}
    (hgone : ∀ s', Extends C s ss s' ss [] → (s'.view ss t).get? (key r) = none →
      Q (.ok ()) s' ss)
    (hother : ∀ s' cur, Extends C s ss s' (ss.lock [⟨t, key r⟩]) [] → key cur = key r →
      Owns s' (ss.lock [⟨t, key r⟩]) t cur → p cur = false →
      Q (.ok ()) s' (ss.lock [⟨t, key r⟩]))
    (h : ∀ s' cur, Extends C s ss s' (ss.lock [⟨t, key r⟩]) [] → key cur = key r →
      Owns s' (ss.lock [⟨t, key r⟩]) t cur → p cur = true →
      wp C (f cur) Q s' (ss.lock [⟨t, key r⟩])) :
    wp C (Prog.relock t p f r) Q s ss := by
  refine (wp_bind _ _ _ _ _).mpr (wp_getForUpdate hgone fun s' cur he hk ho => ?_)
  refine wp_ite (fun hp => h s' cur he hk ho hp) fun hp => ?_
  exact hother s' cur he hk ho (by simpa using hp)

end

/-! ## §3. Running alone. -/

section

variable {t : T} {p : Row t → Bool} {s : State T} {ss : Session T}

/-- What is left of a row after rows were removed. -/
theorem DB.get?_apply_dels (db : DB T) (rows : List (Row t)) (k : Key t) :
    (db.apply (rows.map fun r => .del t (key r)) t).get? k
      = if k ∈ rows.map key then none else (db t).get? k := by
  induction rows generalizing db with
  | nil => simp
  | cons r rows ih =>
      rw [List.map_cons, DB.apply_cons, ih, DB.write, DB.del_same, Table.get?_erase]
      by_cases hk : k ∈ rows.map key
      · simp [hk]
      · by_cases hr : k = key r
        · simp [hr]
        · simp [hr, hk]

/-- Removing the rows that satisfy `p` leaves the others. -/
theorem DB.get?_apply_dels_filter (db : DB T) (p : Row t → Bool) (k : Key t) :
    (db.apply (((db t).rows.filter p).map fun r => .del t (key r)) t).get? k
      = ((db t).get? k).filter fun r => !p r := by
  rw [DB.get?_apply_dels]
  cases hk : (db t).get? k with
  | none => simp
  | some r =>
      obtain ⟨hmem, hkey⟩ := Table.get?_eq_some.mp hk
      have hiff : k ∈ ((db t).rows.filter p).map key ↔ p r = true := by
        constructor
        · intro h
          obtain ⟨r', hr', hkey'⟩ := List.mem_map.mp h
          obtain ⟨hmem', hp⟩ := List.mem_filter.mp hr'
          have hsame : r' = r := (db t).eq_of_key_eq hmem' hmem (hkey'.trans hkey.symm)
          rw [← hsame]
          exact hp
        · intro hp
          exact List.mem_map.mpr ⟨r, List.mem_filter.mpr ⟨hmem, hp⟩, hkey⟩
      by_cases hp : p r = true
      · rw [if_pos (hiff.mpr hp)]
        simp [Option.filter, hp]
      · rw [if_neg (fun h => hp (hiff.mp h))]
        simp [Option.filter, hp]

/-- What is left of a row after rows were replaced. -/
theorem DB.get?_apply_puts (db : DB T) {f : Row t → Row t} (hf : ∀ r, key (f r) = key r)
    {rows : List (Row t)} (hn : (rows.map key).Nodup) (k : Key t) :
    (db.apply (rows.map fun r => .put t (f r)) t).get? k
      = match rows.find? fun r => key r = k with
        | some r => some (f r)
        | none => (db t).get? k := by
  induction rows generalizing db with
  | nil => rfl
  | cons r rows ih =>
      rw [List.map_cons, List.nodup_cons] at hn
      rw [List.map_cons, DB.apply_cons, ih _ hn.2, DB.write, DB.put_same, Table.get?_put, hf,
        List.find?_cons]
      by_cases hr : key r = k
      · have hnone : (rows.find? fun r => key r = k) = none := by
          rw [List.find?_eq_none]
          intro r' hr' h
          have hk : key r' = k := of_decide_eq_true h
          exact hn.1 (hr ▸ hk ▸ List.mem_map_of_mem hr')
        simp [hr, hnone]
      · have hne : ¬ k = key r := fun h => hr h.symm
        simp [hr, hne]

/-- Replacing the rows that satisfy `p`. -/
theorem DB.get?_apply_puts_filter (db : DB T) (p : Row t → Bool) {f : Row t → Row t}
    (hf : ∀ r, key (f r) = key r) (k : Key t) :
    (db.apply (((db t).rows.filter p).map fun r => .put t (f r)) t).get? k
      = ((db t).get? k).map fun r => if p r then f r else r := by
  have hn : (((db t).rows.filter p).map key).Nodup :=
    (List.filter_sublist.map key).nodup (db t).nodup
  have hfind : ((db t).rows.filter p).find? (fun r => key r = k) = ((db t).get? k).filter p := by
    rw [← List.head?_filter, List.filter_filter, (db t).filter_key_and k p]
    cases ((db t).get? k).filter p <;> rfl
  rw [DB.get?_apply_puts db hf hn, hfind]
  cases (db t).get? k with
  | none => rfl
  | some r => by_cases hp : p r = true <;> simp [Option.filter, hp]

/-- A loop that performs one write for each of its rows, running alone. -/
theorem Prog.run_returning {f : Row t → Prog T ε Unit} {w : Row t → Write T}
    (hw : ∀ ss r, (s.view ss t).get? (key r) = some r →
      (f r).run s ss = (.ok (), ss.write (w r)))
    (hid : ∀ r, (w r).rowId = ⟨t, key r⟩) {rows : List (Row t)} (hn : (rows.map key).Nodup)
    (hrows : ∀ r ∈ rows, (s.view ss t).get? (key r) = some r ∧ p r = true) :
    ∃ ss', (Prog.returning t p f rows).run s ss = (.ok rows, ss') ∧
      ss'.ws = ss.ws ++ rows.map w := by
  induction rows generalizing ss with
  | nil => exact ⟨ss, rfl, by simp⟩
  | cons r rows ih =>
      obtain ⟨hr, hp⟩ := hrows r List.mem_cons_self
      rw [List.map_cons, List.nodup_cons] at hn
      -- the write for `r` leaves the later rows as they are
      have hlater : ∀ r' ∈ rows,
          (s.view ((ss.lock [⟨t, key r⟩]).write (w r)) t).get? (key r') = some r' ∧
            p r' = true := by
        intro r' hr'
        have hne : key r' ≠ key r := fun h => hn.1 (h ▸ List.mem_map_of_mem hr')
        refine ⟨?_, (hrows r' (List.mem_cons_of_mem _ hr')).2⟩
        rw [State.view_write, DB.get?_write_of_ne]
        · exact (hrows r' (List.mem_cons_of_mem _ hr')).1
        · intro h
          rw [hid] at h
          exact hne (eq_of_heq (Sigma.mk.inj h).2).symm
      obtain ⟨ss', hrun, hws⟩ := ih hn.2 hlater
      refine ⟨ss', ?_, by simp [hws]⟩
      rw [Prog.returning, Prog.run_getForUpdate_bind, hr]
      simp only [hp, if_true, Option.toList, List.map_cons, List.map_nil]
      have hget : (s.view (ss.lock [⟨t, key r⟩]) t).get? (key r) = some r := hr
      rw [Prog.run_bind, hw _ r hget]
      simp only [Prog.run_bind, hrun, Prog.run]

/-- The rows that a statement picks by a predicate. -/
theorem Table.filter_picked {ρ κ : Type} {key : ρ → κ} [DecidableEq κ] (tb : Table key)
    (p : ρ → Bool) : ((tb.rows.filter p).map key).Nodup ∧
      ∀ r ∈ tb.rows.filter p, tb.get? (key r) = some r ∧ p r = true :=
  ⟨(List.filter_sublist.map key).nodup tb.nodup, fun _ hr =>
    ⟨Table.get?_of_mem (List.mem_of_mem_filter hr), (List.mem_filter.mp hr).2⟩⟩

/-- **DELETE … RETURNING, running alone**, removes the rows that satisfy `p`. -/
theorem Prog.run_deleteReturning (s : State T) (ss : Session T) (t : T) (p : Row t → Bool) :
    ∃ ss', (Prog.deleteReturning t p : Prog T ε _).run s ss
        = (.ok ((s.view ss t).rows.filter p), ss') ∧
      (∀ k, (s.view ss' t).get? k = ((s.view ss t).get? k).filter fun r => !p r) ∧
      ∀ t', t' ≠ t → s.view ss' t' = s.view ss t' := by
  have hdel : ∀ ss r, (s.view ss t).get? (key r) = some r →
      ((Prog.delete t (key r)).bind fun _ => .ret () : Prog T ε Unit).run s ss
        = (.ok (), ss.write (.del t (key r))) := by
    intro ss r hr
    rw [Prog.run_delete_bind, Stmt.exec_delete, hr]
    rfl
  obtain ⟨hn, hrows⟩ := (s.view ss t).filter_picked p
  obtain ⟨ss', hrun, hws⟩ := Prog.run_returning hdel (fun _ => rfl) hn hrows
  have hview : s.view ss' = (s.view ss).apply
      (((s.view ss t).rows.filter p).map fun r => .del t (key r)) := by
    rw [State.view, hws, DB.apply_append]
    rfl
  refine ⟨ss', ?_, ?_, ?_⟩
  · rw [Prog.deleteReturning, Prog.run_select_bind, hrun]
  · intro k
    rw [hview]
    exact DB.get?_apply_dels_filter (s.view ss) p k
  · intro t' ht
    rw [hview]
    refine DB.apply_of_table_not_mem _ _ ?_
    intro w hw
    obtain ⟨r, -, rfl⟩ := List.mem_map.mp hw
    exact Ne.symm ht

/-- **UPDATE … RETURNING, running alone**, replaces the rows that satisfy `p`. -/
theorem Prog.run_updateReturning (s : State T) (ss : Session T) (t : T) (p : Row t → Bool)
    {f : Row t → Row t} (hf : ∀ r, key (f r) = key r) :
    ∃ ss', (Prog.updateReturning t p f : Prog T ε _).run s ss
        = (.ok ((s.view ss t).rows.filter p), ss') ∧
      (∀ k, (s.view ss' t).get? k = ((s.view ss t).get? k).map fun r => if p r then f r else r) ∧
      ∀ t', t' ≠ t → s.view ss' t' = s.view ss t' := by
  have hput : ∀ ss r, (s.view ss t).get? (key r) = some r →
      ((Prog.update t r (f r)).bind fun _ => .ret () : Prog T ε Unit).run s ss
        = (.ok (), ss.write (.put t (f r))) := by
    intro ss r hr
    rw [Prog.run_update_bind, Stmt.exec_update, hr]
    simp only [merge_self r (f r) (hf r).symm]
    rfl
  obtain ⟨hn, hrows⟩ := (s.view ss t).filter_picked p
  obtain ⟨ss', hrun, hws⟩ := Prog.run_returning hput
    (fun r => by rw [Write.rowId_put, hf]) hn hrows
  have hview : s.view ss' = (s.view ss).apply
      (((s.view ss t).rows.filter p).map fun r => .put t (f r)) := by
    rw [State.view, hws, DB.apply_append]
    rfl
  refine ⟨ss', ?_, ?_, ?_⟩
  · rw [Prog.updateReturning, Prog.run_select_bind, hrun]
  · intro k
    rw [hview]
    exact DB.get?_apply_puts_filter (s.view ss) p hf k
  · intro t' ht
    rw [hview]
    refine DB.apply_of_table_not_mem _ _ ?_
    intro w hw
    obtain ⟨r, -, rfl⟩ := List.mem_map.mp hw
    exact Ne.symm ht

end

/-! ## §4. What a session has gained. -/

/-- By how much the writes of the session move the quantity `f` of a row. -/
def State.gain (s : State T) (ss : Session T) (t : T) (f : Row t → Int) (k : Key t) : Int :=
  (s.view ss t).valueAt f k - (s.db t).valueAt f k

section

variable {s s' : State T} {ss ss' : Session T} {t : T} {f : Row t → Int} {k : Key t}

theorem State.view_valueAt (s : State T) (ss : Session T) (t : T) (f : Row t → Int) (k : Key t) :
    (s.view ss t).valueAt f k = (s.db t).valueAt f k + s.gain ss t f k := by
  unfold State.gain
  ring

/-- A table that was not written has gained nothing. -/
theorem Session.Avoids.gain (h : ss.Avoids t) : s.gain ss t f k = 0 := by
  rw [State.gain, h.view]
  ring

@[simp]
theorem State.gain_lock (ids : List (RowId T)) : s.gain (ss.lock ids) t f k = s.gain ss t f k :=
  rfl

/-- Storing a row over a version that the session sees. -/
theorem State.gain_put (r : Row t) :
    s.gain (ss.write (.put t r)) t f k
      = s.gain ss t f k + if key r = k then f r - (s.view ss t).valueAt f k else 0 := by
  rw [State.gain, State.gain, State.view_write, DB.write, DB.put_same, Table.valueAt_put]
  split <;> ring

/-- Removing a row. -/
theorem State.gain_del (k' : Key t) :
    s.gain (ss.write (.del t k')) t f k
      = s.gain ss t f k - if k' = k then (s.view ss t).valueAt f k else 0 := by
  rw [State.gain, State.gain, State.view_write, DB.write, DB.del_same, Table.valueAt_erase]
  split <;> ring

/-- Writing another table. -/
theorem State.gain_other {w : Write T} (h : w.table ≠ t) :
    s.gain (ss.write w) t f k = s.gain ss t f k := by
  rw [State.gain, State.gain, State.view_write, DB.write_other _ h]

/-- **The gain stays while the session waits.** -/
theorem Contract.Rely.gain (hr : C.Rely ss.locks s s') (hc : ss.Covered) :
    s'.gain ss t f k = s.gain ss t f k := by
  unfold State.gain
  by_cases hk : ⟨t, k⟩ ∈ ss.locks
  · rw [Table.valueAt, hr.view hk, Table.valueAt, hr.frame _ hk, Table.valueAt, Table.valueAt]
  · -- a row that is not locked has not been written
    have hfree : ∀ w ∈ ss.ws, Write.rowId w ≠ ⟨t, k⟩ := fun w hw heq => hk (heq ▸ hc w hw)
    have hview : ∀ s : State T, (s.view ss t).valueAt f k = (s.db t).valueAt f k := fun s => by
      rw [Table.valueAt, State.view, DB.get?_apply_of_not_mem s.db ss.ws hfree, Table.valueAt]
    rw [hview, hview]
    ring

end

end PyBoard.Relational
