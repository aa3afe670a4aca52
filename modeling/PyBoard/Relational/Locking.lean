/-
  PyBoard.Relational.Locking — the rows a transaction owns.

  A row is owned when it is locked and the session sees it.  An owned row
  cannot change under the transaction, so an UPDATE computed from it stores
  exactly the new version.  The rules here give the weakest precondition of
  each statement in these terms.
-/
import PyBoard.Relational.Rely

namespace PyBoard.Relational

open Schema

variable {L T : Type} [Schema T] [DecidableEq T] {C : Contract L T} {ε α β : Type}

/-! ## §1. Owned rows. -/

/-- The session holds the lock of `r`, and `r` is what it sees there. -/
structure Owns (s : State T) (ss : Session T) (t : T) (r : Row t) : Prop where
  locked : ⟨t, key r⟩ ∈ ss.locks
  seen : (s.view ss t).get? (key r) = some r

/-- Views agree on locked rows as long as only the rely has happened. -/
theorem Contract.Rely.view {s s' : State T} {ss : Session T} (h : C.Rely ss.locks s s')
    {t : T} {k : Key t} (hk : ⟨t, k⟩ ∈ ss.locks) :
    (s'.view ss t).get? k = (s.view ss t).get? k :=
  DB.get?_apply_congr ss.ws (h.frame ⟨t, k⟩ hk)

theorem Owns.rely {s s' : State T} {ss : Session T} {t : T} {r : Row t}
    (h : Owns s ss t r) (hr : C.Rely ss.locks s s') : Owns s' ss t r :=
  ⟨h.locked, (hr.view h.locked).trans h.seen⟩

/-- There is one owned version of a row. -/
theorem Owns.unique {s : State T} {ss : Session T} {t : T} {r r' : Row t}
    (h : Owns s ss t r) (h' : Owns s ss t r') (hk : key r = key r') : r = r' := by
  have hseen := h'.seen
  rw [← hk, h.seen] at hseen
  exact Option.some.inj hseen

theorem Owns.lock {s : State T} {ss : Session T} {t : T} {r : Row t}
    (h : Owns s ss t r) (ids : List (RowId T)) : Owns s (ss.lock ids) t r :=
  ⟨List.mem_append_right _ h.locked, h.seen⟩

theorem State.view_write (s : State T) (ss : Session T) (w : Write T) :
    s.view (ss.write w) = (s.view ss).write w := by
  simp [State.view, Session.write, DB.apply_append]

@[simp]
theorem State.view_lock (s : State T) (ss : Session T) (ids : List (RowId T)) :
    s.view (ss.lock ids) = s.view ss := rfl

/-- A row just written is owned. -/
theorem Owns.write_self (s : State T) (ss : Session T) (t : T) (r : Row t) :
    Owns s (ss.write (.put t r)) t r :=
  ⟨List.mem_cons_self, by simp [State.view_write, DB.write]⟩

/-- Writing another row keeps a row owned. -/
theorem Owns.write {s : State T} {ss : Session T} {t : T} {r : Row t}
    (h : Owns s ss t r) {w : Write T} (hne : w.rowId ≠ ⟨t, key r⟩) :
    Owns s (ss.write w) t r := by
  refine ⟨List.mem_cons_of_mem _ h.locked, ?_⟩
  rw [State.view_write, DB.get?_write_of_ne _ hne]
  exact h.seen

/-! ## §2. Progress of a transaction. -/

omit [DecidableEq T] in
@[simp] theorem Session.lock_nil (ss : Session T) : ss.lock [] = ss := rfl
omit [DecidableEq T] in
@[simp] theorem Session.lock_ws (ss : Session T) (ids : List (RowId T)) :
    (ss.lock ids).ws = ss.ws := rfl
omit [DecidableEq T] in
@[simp] theorem Session.write_ws (ss : Session T) (w : Write T) :
    (ss.write w).ws = ss.ws ++ [w] := rfl

/-- A transaction has gone from `s`, `ss` to `s'`, `ss'` within the contract: it
    has written `ws` meanwhile, and has released no lock. -/
structure Extends (C : Contract L T) (s : State T) (ss : Session T) (s' : State T)
    (ss' : Session T) (ws : List (Write T)) : Prop where
  rely : C.Rely ss.locks s s'
  inv : C.Inv s'
  locks : ss.locks ⊆ ss'.locks
  ws_eq : ss'.ws = ss.ws ++ ws

namespace Extends

variable {s s' s₁ s₂ : State T} {ss ss' ss₁ ss₂ : Session T} {ws ws' : List (Write T)}

theorem refl (h : C.Inv s) : Extends C s ss s ss [] :=
  ⟨Contract.Rely.refl _ _, h, fun _ => id, by simp⟩

theorem trans (h₁ : Extends C s ss s₁ ss₁ ws) (h₂ : Extends C s₁ ss₁ s₂ ss₂ ws') :
    Extends C s ss s₂ ss₂ (ws ++ ws') :=
  ⟨h₁.rely.trans (h₂.rely.mono h₁.locks), h₂.inv, fun _ h => h₂.locks (h₁.locks h), by
    rw [h₂.ws_eq, h₁.ws_eq, List.append_assoc]⟩

theorem read (hr : C.Rely ss.locks s s') (hi : C.Inv s') : Extends C s ss s' ss [] :=
  ⟨hr, hi, fun _ => id, by simp⟩

theorem lock (hr : C.Rely ss.locks s s') (hi : C.Inv s') (ids : List (RowId T)) :
    Extends C s ss s' (ss.lock ids) [] :=
  ⟨hr, hi, fun _ h => List.mem_append_right _ h, by simp⟩

theorem write (hr : C.Rely ss.locks s s') (hi : C.Inv s') (w : Write T) :
    Extends C s ss s' (ss.write w) [w] :=
  ⟨hr, hi, fun _ h => List.mem_cons_of_mem _ h, rfl⟩

end Extends

/-- An owned row stays owned while the transaction writes other rows. -/
theorem Owns.extends {s s' : State T} {ss ss' : Session T} {ws : List (Write T)} {t : T}
    {r : Row t} (h : Owns s ss t r) (he : Extends C s ss s' ss' ws)
    (hws : ∀ w ∈ ws, Write.rowId w ≠ ⟨t, key r⟩) : Owns s' ss' t r := by
  refine ⟨he.locks h.locked, ?_⟩
  have hview : s'.view ss' = (s'.view ss).apply ws := by
    simp [State.view, he.ws_eq, DB.apply_append]
  rw [hview, DB.get?_apply_of_not_mem _ _ hws]
  exact (h.rely he.rely).seen

/-- The session has locked a row, whose committed version is `v`. -/
structure Holds (s : State T) (ss : Session T) (t : T) (k : Key t) (v : Option (Row t)) :
    Prop where
  locked : ⟨t, k⟩ ∈ ss.locks
  committed : (s.db t).get? k = v

theorem Holds.rely {s s' : State T} {ss : Session T} {t : T} {k : Key t}
    {v : Option (Row t)} (h : Holds s ss t k v) (hr : C.Rely ss.locks s s') :
    Holds s' ss t k v :=
  ⟨h.locked, (hr.frame ⟨t, k⟩ h.locked).trans h.committed⟩

theorem Holds.extends {s s' : State T} {ss ss' : Session T} {ws : List (Write T)} {t : T}
    {k : Key t} {v : Option (Row t)} (h : Holds s ss t k v)
    (he : Extends C s ss s' ss' ws) : Holds s' ss' t k v :=
  ⟨he.locks h.locked, (he.rely.frame ⟨t, k⟩ h.locked).trans h.committed⟩

/-- An owned row that the session has not written is the committed one. -/
theorem Owns.holds {s : State T} {ss : Session T} {t : T} {r : Row t} (h : Owns s ss t r)
    (hws : ∀ w ∈ ss.ws, Write.rowId w ≠ ⟨t, key r⟩) : Holds s ss t (key r) (some r) :=
  ⟨h.locked, by rw [← DB.get?_apply_of_not_mem s.db ss.ws hws]; exact h.seen⟩

/-- The session has written no row of `t`. -/
def Session.Avoids (ss : Session T) (t : T) : Prop := ∀ w ∈ ss.ws, w.table ≠ t

theorem Session.Avoids.view {ss : Session T} {t : T} (h : ss.Avoids t) (s : State T) :
    s.view ss t = s.db t := DB.apply_of_table_not_mem _ _ h

/-- What is seen in a table that was not written is committed. -/
theorem Session.Avoids.committed {ss : Session T} {t : T} (h : ss.Avoids t) {s : State T}
    {k : Key t} {v : Option (Row t)} (hv : (s.view ss t).get? k = v) :
    (s.db t).get? k = v := by
  rw [← h.view s]
  exact hv

omit [DecidableEq T] in
theorem Session.Avoids.lock {ss : Session T} {t : T} (h : ss.Avoids t)
    (ids : List (RowId T)) : (ss.lock ids).Avoids t := h

omit [DecidableEq T] in
theorem Session.Avoids.write {ss : Session T} {t : T} (h : ss.Avoids t) {w₀ : Write T}
    (hne : w₀.table ≠ t) : (ss.write w₀).Avoids t := by
  intro w hw
  rcases List.mem_append.mp hw with hw | hw
  · exact h w hw
  · rw [List.mem_singleton.mp hw]
    exact hne

/-! ## §3. Statements. -/

variable {s : State T} {ss : Session T} {t : T} {k : Key t}

/-- A plain SELECT, by key or by predicate, changes nothing. -/
theorem wp_get {Q : Except ε (Option (Row t)) → State T → Session T → Prop}
    (h : ∀ s', Extends C s ss s' ss [] → Q (.ok ((s'.view ss t).get? k)) s' ss) :
    wp C (Prog.get t k) Q s ss :=
  fun s' hr hi _ => h s' (.read hr hi)

theorem wp_select {p : Row t → Bool}
    {Q : Except ε (List (Row t)) → State T → Session T → Prop}
    (h : ∀ s', Extends C s ss s' ss [] → Q (.ok ((s'.view ss t).rows.filter p)) s' ss) :
    wp C (Prog.select t p) Q s ss :=
  fun s' hr hi _ => h s' (.read hr hi)

theorem wp_clock_admitted {Q : Except ε Int → State T → Session T → Prop}
    (h : ∀ s', Extends C s ss s' ss [] → C.stmt .clock s' ss = true → Q (.ok s'.now) s' ss) :
    wp C Prog.clock Q s ss :=
  fun s' hr hi hstmt => h s' (.read hr hi) hstmt

theorem wp_clock {Q : Except ε Int → State T → Session T → Prop}
    (h : ∀ s', Extends C s ss s' ss [] → Q (.ok s'.now) s' ss) :
    wp C Prog.clock Q s ss :=
  wp_clock_admitted fun s' he _ => h s' he

/-- SELECT … FOR UPDATE by key: a row that is found is owned from now on. -/
theorem wp_getForUpdate {Q : Except ε (Option (Row t)) → State T → Session T → Prop}
    (hnone : ∀ s', Extends C s ss s' ss [] → (s'.view ss t).get? k = none →
      Q (.ok none) s' ss)
    (hsome : ∀ s' r, Extends C s ss s' (ss.lock [⟨t, k⟩]) [] → key r = k →
      Owns s' (ss.lock [⟨t, k⟩]) t r → Q (.ok (some r)) s' (ss.lock [⟨t, k⟩])) :
    wp C (Prog.getForUpdate t k) Q s ss := by
  intro s' hr hi _
  simp only [Stmt.exec, Stmt.wants]
  cases hf : (s'.view ss t).get? k with
  | none => exact hnone s' (.read hr hi) hf
  | some r =>
    have hk : key r = k := Table.key_of_get? hf
    exact hsome s' r (.lock hr hi _) hk
      ⟨by rw [hk]; exact List.mem_cons_self, by rw [hk]; exact hf⟩

/-- SELECT … FOR UPDATE by predicate: the rows found are owned from now on. -/
theorem wp_selectForUpdate {p : Row t → Bool}
    {Q : Except ε (List (Row t)) → State T → Session T → Prop}
    (h : ∀ s' ids, Extends C s ss s' (ss.lock ids) [] →
      (∀ r ∈ (s'.view ss t).rows.filter p, Owns s' (ss.lock ids) t r) →
      Q (.ok ((s'.view ss t).rows.filter p)) s' (ss.lock ids)) :
    wp C (Prog.selectForUpdate t p) Q s ss := by
  intro s' hr hi _
  refine h s' _ (.lock hr hi _) fun r hrow => ⟨?_, ?_⟩
  · exact List.mem_append_left _ (List.mem_map_of_mem hrow)
  · exact Table.get?_of_mem (List.mem_of_mem_filter hrow)

/-- **An UPDATE of an owned row stores the new version.** -/
theorem wp_update_owned {old new : Row t}
    {Q : Except ε Bool → State T → Session T → Prop}
    (ho : Owns s ss t old) (hk : key old = key new)
    (h : ∀ s', Extends C s ss s' (ss.write (.put t new)) [.put t new] →
      Q (.ok true) s' (ss.write (.put t new))) :
    wp C (Prog.update t old new) Q s ss := by
  intro s' hr hi _
  rw [Stmt.exec_update, (ho.rely hr).seen]
  dsimp only
  rw [merge_self old new hk]
  exact h s' (.write hr hi _)

/-- An UPDATE of a row that was read without a lock meets whatever version is
    current, and changes only the columns that the program changed. -/
theorem wp_update {old new : Row t} {Q : Except ε Bool → State T → Session T → Prop}
    (hgone : ∀ s', Extends C s ss s' (ss.lock [⟨t, key old⟩]) [] →
      Q (.ok false) s' (ss.lock [⟨t, key old⟩]))
    (h : ∀ s' cur, C.Rely ss.locks s s' → C.Inv s' →
      C.stmt (.update t old new) s' ss = true → (s'.view ss t).get? (key old) = some cur →
      Q (.ok true) s' (ss.write (.put t (merge old new cur)))) :
    wp C (Prog.update t old new) Q s ss := by
  intro s' hr hi hst
  rw [Stmt.exec_update]
  cases hf : (s'.view ss t).get? (key old) with
  | none => exact hgone s' (.lock hr hi _)
  | some cur => exact h s' cur hr hi hst hf

/-- An INSERT that is not refused adds a row with a new key. -/
theorem wp_insert {r : Row t} {Q : Except ε Bool → State T → Session T → Prop}
    (hrefused : ∀ s', Extends C s ss s' (ss.lock [⟨t, key r⟩]) [] →
      Q (.ok false) s' (ss.lock [⟨t, key r⟩]))
    (h : ∀ s', Extends C s ss s' (ss.write (.put t r)) [.put t r] →
      (s'.view ss).refuses t r = false → (s'.view ss t).get? (key r) = none →
      Q (.ok true) s' (ss.write (.put t r))) :
    wp C (Prog.insert t r) Q s ss := by
  intro s' hr hi _
  rw [Stmt.exec_insert]
  cases hf : (s'.view ss).refuses t r with
  | true => exact hrefused s' (.lock hr hi _)
  | false =>
    refine h s' (.write hr hi _) hf (Table.get?_eq_none.mpr fun x hx hk => ?_)
    have : (s'.view ss).refuses t r = true :=
      List.any_eq_true.mpr ⟨x, hx, by simp [hk]⟩
    rw [hf] at this
    cases this

/-- INSERT … ON CONFLICT DO UPDATE meets the current version of its row. -/
theorem wp_upsert {r : Row t} {f : Row t → Row t} (hf : ∀ cur, key (f cur) = key cur)
    {Q : Except ε (Row t) → State T → Session T → Prop}
    (hnew : ∀ s', Extends C s ss s' (ss.write (.put t r)) [.put t r] →
      (s'.view ss t).get? (key r) = none → Q (.ok r) s' (ss.write (.put t r)))
    (hold : ∀ s' cur, Extends C s ss s' (ss.write (.put t (f cur))) [.put t (f cur)] →
      (s'.view ss t).get? (key r) = some cur → Q (.ok (f cur)) s' (ss.write (.put t (f cur)))) :
    wp C (Prog.upsert t r f) Q s ss := by
  intro s' hr hi _
  rw [Stmt.exec_upsert]
  cases hcur : (s'.view ss t).get? (key r) with
  | none => exact hnew s' (.write hr hi _) hcur
  | some cur =>
    dsimp only
    rw [merge_self cur (f cur) (hf cur).symm]
    exact hold s' cur (.write hr hi _) hcur

/-- **A DELETE of an owned row removes it.** -/
theorem wp_delete_owned {r : Row t} {Q : Except ε Bool → State T → Session T → Prop}
    (ho : Owns s ss t r)
    (h : ∀ s', Extends C s ss s' (ss.write (.del t (key r))) [.del t (key r)] →
      Q (.ok true) s' (ss.write (.del t (key r)))) :
    wp C (Prog.delete t (key r)) Q s ss := by
  intro s' hr hi _
  rw [Stmt.exec_delete, (ho.rely hr).seen]
  exact h s' (.write hr hi _)

/-- A lock that is tried for is held afterwards, or nothing happens. -/
theorem wp_tryLock {granted : Bool} {Q : Except ε Bool → State T → Session T → Prop}
    (hgranted : granted = true → ∀ s', Extends C s ss s' (ss.lock [⟨t, k⟩]) [] →
      Q (.ok true) s' (ss.lock [⟨t, k⟩]))
    (hrefused : granted = false → ∀ s', Extends C s ss s' ss [] → Q (.ok false) s' ss) :
    wp C (Prog.tryLock t k granted) Q s ss := by
  intro s' hr hi _
  cases granted with
  | false => exact hrefused rfl s' (.read hr hi)
  | true => exact hgranted rfl s' (.lock hr hi _)

theorem wp_rollback {Q : Except ε Unit → State T → Session T → Prop}
    (h : ∀ s', C.Rely ss.locks s s' → C.Inv s' → Q (.ok ()) s' Session.fresh) :
    wp C Prog.rollback Q s ss :=
  fun s' hr hi _ => h s' hr hi

/-! ## §4. Programs that only read. -/

/-- A statement that neither writes nor locks. -/
def Stmt.isRead : Stmt T → Bool
  | .get _ _ lock => !lock
  | .select _ _ lock => !lock
  | .clock => true
  | _ => false

/-- Every statement of the program satisfies `P`, and every error it can raise
    satisfies `E`. -/
def Prog.All (P : Stmt T → Prop) (E : ε → Prop) : Prog T ε α → Prop
  | .ret _ => True
  | .throw e => E e
  | .step st k => P st ∧ ∀ r, (k r).All P E

omit [DecidableEq T] in
theorem Prog.All.bind {P : Stmt T → Prop} {E : ε → Prop} {p : Prog T ε α}
    {f : α → Prog T ε β} (hp : p.All P E) (hf : ∀ a, (f a).All P E) :
    (p.bind f).All P E := by
  induction p with
  | ret a => exact hf a
  | throw e => exact hp
  | step st k ih => exact ⟨hp.1, fun r => ih r (hp.2 r)⟩

omit [DecidableEq T] in
theorem Prog.All.imp {P P' : Stmt T → Prop} {E E' : ε → Prop} {p : Prog T ε α}
    (hp : p.All P E) (h : ∀ st, P st → P' st) (hE : ∀ e, E e → E' e) : p.All P' E' := by
  induction p with
  | ret a => trivial
  | throw e => exact hE e hp
  | step st k ih => exact ⟨h st hp.1, fun r => ih r (hp.2 r)⟩

theorem Stmt.exec_of_isRead {st : Stmt T} (h : st.isRead = true) (s : State T)
    (ss : Session T) : (st.exec s ss).2 = ss := by
  cases st with
  | get t k lock =>
    cases lock
    · rfl
    · cases h
  | select t p lock =>
    cases lock
    · rfl
    · cases h
  | clock => rfl
  | update => cases h
  | insert => cases h
  | upsert => cases h
  | delete => cases h
  | tryLock => cases h
  | rollback => cases h

/-- **A reading program leaves the session as it is.** -/
theorem wp_of_reads {p : Prog T ε α} {E : ε → Prop}
    {Q : Except ε α → State T → Session T → Prop} (hp : p.All (·.isRead = true) E)
    (hi : C.Inv s) (hok : ∀ a s', Extends C s ss s' ss [] → Q (.ok a) s' ss)
    (herr : ∀ e s', Extends C s ss s' ss [] → E e → Q (.error e) s' ss) :
    wp C p Q s ss := by
  induction p generalizing s with
  | ret a => exact hok a s (.refl hi)
  | throw e => exact herr e s (.refl hi) hp
  | step st k ih =>
    intro s' hr hi' _
    rw [Stmt.exec_of_isRead hp.1]
    exact ih _ (hp.2 _) hi' (fun a s'' he => hok a s'' ((Extends.read hr hi').trans he))
      (fun e s'' he => herr e s'' ((Extends.read hr hi').trans he))

/-- A program that only reads, run alone, leaves its session as it was. -/
theorem run_of_reads {p : Prog T ε α} {s : State T} {ss : Session T} {E : ε → Prop}
    (hp : p.All (·.isRead = true) E) : (p.run s ss).2 = ss := by
  induction p generalizing ss with
  | ret a => rfl
  | throw e => rfl
  | step st k ih =>
    show ((k _).run s (st.exec s ss).2).2 = ss
    rw [Stmt.exec_of_isRead hp.1]
    exact ih _ (hp.2 _)

theorem run_of_reads_eq {p : Prog T ε α} {s : State T} {ss ss' : Session T} {E : ε → Prop}
    {r : Except ε α} (hp : p.All (·.isRead = true) E) (h : p.run s ss = (r, ss')) : ss' = ss :=
  (congrArg Prod.snd h).symm.trans (run_of_reads hp)

end PyBoard.Relational
