/-
  PyBoard.Relational.Steady — what a program keeps of its session.

  A property of the committed state and of what a session has written is stable when
  interference within the contract cannot spoil it.  A program is steady for a stable
  property when it ends with the property whenever it begins with it.  There is one
  rule for each statement and one for sequencing, so that a long program is steady
  because its statements are.

  Main definitions:
    * `Contract.Stable`, `Contract.Steady`.
    * `Only` — every write of a session is of a kind.
-/
import PyBoard.Relational.Bulk

namespace PyBoard.Relational

open Schema

variable {L T : Type} [Schema T] [DecidableEq T] {ε α β : Type}

/-! ## §1. Steady programs. -/

/-- Interference within the contract does not spoil `J`. -/
def Contract.Stable (C : Contract L T) (J : State T → List (Write T) → Prop) : Prop :=
  ∀ s s' (ss : Session T), C.Rely ss.locks s s' → C.Inv s' → J s ss.ws → J s' ss.ws

/-- A program that ends with `J` if it begins with it. -/
def Contract.Steady (C : Contract L T) (J : State T → List (Write T) → Prop)
    (p : Prog T ε α) : Prop :=
  ∀ s (ss : Session T), C.Inv s → J s ss.ws → wp C p (fun _ s' ss' => J s' ss'.ws) s ss

variable {C : Contract L T} {J : State T → List (Write T) → Prop}

theorem Contract.Steady.ret (a : α) : C.Steady J (.ret a : Prog T ε α) := fun _ _ _ hj => hj

theorem Contract.Steady.throw (e : ε) : C.Steady J (.throw e : Prog T ε α) :=
  fun _ _ _ hj => hj

/-- **Sequencing.** -/
theorem Contract.Steady.bind {p : Prog T ε α} {f : α → Prog T ε β} (hp : C.Steady J p)
    (hf : ∀ a, C.Steady J (f a)) : C.Steady J (p.bind f) := by
  intro s ss hi hj
  refine (wp_bind _ _ _ _ _).mpr (wp_mono (wp_inv hi (hp s ss hi hj)) ?_)
  intro r s' ss' h
  cases r with
  | error e => exact h.2
  | ok a => exact hf a s' ss' h.1 h.2

/-- A steady first part, and what is to be shown of the rest. -/
theorem Contract.Steady.wp_bind {p : Prog T ε α} {f : α → Prog T ε β}
    {Q : Except ε β → State T → Session T → Prop} {s : State T} {ss : Session T}
    (hp : C.Steady J p) (hi : C.Inv s) (hj : J s ss.ws)
    (hf : ∀ a s' ss', C.Inv s' → J s' ss'.ws → wp C (f a) Q s' ss')
    (herr : ∀ e s' ss', J s' ss'.ws → Q (.error e) s' ss') : wp C (p.bind f) Q s ss := by
  refine (Relational.wp_bind _ _ _ _ _).mpr (wp_mono (wp_inv hi (hp s ss hi hj)) ?_)
  intro r s' ss' h
  cases r with
  | error e => exact herr e s' ss' h.2
  | ok a => exact hf a s' ss' h.1 h.2

theorem Contract.Steady.ite {c : Prop} [Decidable c] {p q : Prog T ε α} (hp : C.Steady J p)
    (hq : C.Steady J q) : C.Steady J (if c then p else q) := by
  split
  · exact hp
  · exact hq

/-! ## §2. Statements. -/

variable (hJ : C.Stable J)

include hJ

theorem Contract.Steady.get (t : T) (k : Key t) :
    C.Steady J (Prog.get t k : Prog T ε _) :=
  fun s ss _ hj s' hr hi' _ => hJ s s' ss hr hi' hj

theorem Contract.Steady.getForUpdate (t : T) (k : Key t) :
    C.Steady J (Prog.getForUpdate t k : Prog T ε _) :=
  fun s ss _ hj s' hr hi' _ => hJ s s' ss hr hi' hj

theorem Contract.Steady.select (t : T) (p : Row t → Bool) :
    C.Steady J (Prog.select t p : Prog T ε _) :=
  fun s ss _ hj s' hr hi' _ => hJ s s' ss hr hi' hj

theorem Contract.Steady.clock : C.Steady J (Prog.clock : Prog T ε _) :=
  fun s ss _ hj s' hr hi' _ => hJ s s' ss hr hi' hj

theorem Contract.Steady.insert {t : T} {r : Row t}
    (hw : ∀ s ws, C.Inv s → J s ws → J s (ws ++ [.put t r])) :
    C.Steady J (Prog.insert t r : Prog T ε _) := by
  intro s ss _ hj s' hr hi' _
  have hj' := hJ s s' ss hr hi' hj
  rw [Stmt.exec_insert]
  split
  · exact hj'
  · exact hw s' ss.ws hi' hj'

theorem Contract.Steady.upsert {t : T} {r : Row t} {f : Row t → Row t}
    (hnew : ∀ s ws, C.Inv s → J s ws → J s (ws ++ [.put t r]))
    (hold : ∀ cur, key cur = key r → ∀ s ws, C.Inv s → J s ws →
      J s (ws ++ [.put t (merge cur (f cur) cur)])) :
    C.Steady J (Prog.upsert t r f : Prog T ε _) := by
  intro s ss _ hj s' hr hi' _
  have hj' := hJ s s' ss hr hi' hj
  rw [Stmt.exec_upsert]
  split
  · exact hnew s' ss.ws hi' hj'
  · next cur hcur => exact hold cur (Table.key_of_get? hcur) s' ss.ws hi' hj'

theorem Contract.Steady.update {t : T} {old new : Row t}
    (hw : ∀ cur, key cur = key old → ∀ s ws, C.Inv s → J s ws →
      J s (ws ++ [.put t (merge old new cur)])) :
    C.Steady J (Prog.update t old new : Prog T ε _) := by
  intro s ss _ hj s' hr hi' _
  have hj' := hJ s s' ss hr hi' hj
  rw [Stmt.exec_update]
  split
  · exact hj'
  · next cur hcur => exact hw cur (Table.key_of_get? hcur) s' ss.ws hi' hj'

theorem Contract.Steady.delete {t : T} {k : Key t}
    (hw : ∀ s ws, C.Inv s → J s ws → J s (ws ++ [.del t k])) :
    C.Steady J (Prog.delete t k : Prog T ε _) := by
  intro s ss _ hj s' hr hi' _
  have hj' := hJ s s' ss hr hi' hj
  rw [Stmt.exec_delete]
  split
  · exact hj'
  · exact hw s' ss.ws hi' hj'

theorem Contract.Steady.returning {t : T} {p : Row t → Bool} {f : Row t → Prog T ε Unit}
    (hf : ∀ cur, p cur = true → C.Steady J (f cur)) (rows : List (Row t)) :
    C.Steady J (Prog.returning t p f rows) := by
  induction rows with
  | nil => exact .ret _
  | cons r rows ih =>
    refine .bind (.getForUpdate hJ t (key r)) fun found => ?_
    cases found with
    | none => exact ih
    | some cur =>
      by_cases hp : p cur = true
      · simp only [hp, if_true]
        exact .bind (hf cur hp) fun _ => .bind ih fun _ => .ret _
      · simp only [hp]
        exact ih

theorem Contract.Steady.deleteReturning {t : T} {p : Row t → Bool}
    (hw : ∀ cur, p cur = true → ∀ s ws, C.Inv s → J s ws → J s (ws ++ [.del t (key cur)])) :
    C.Steady J (Prog.deleteReturning t p : Prog T ε _) :=
  .bind (.select hJ t p)
    (.returning hJ fun cur hp => .bind (.delete hJ (hw cur hp)) fun _ => .ret _)

omit hJ

/-! ## §3. Programs that do not raise. -/

/-- A program that raises nothing. -/
abbrev Prog.Total (p : Prog T ε α) : Prop := p.All (fun _ => True) fun _ => False

theorem wp_total {p : Prog T ε α} (hp : p.Total) (s : State T) (ss : Session T) :
    wp C p (fun r _ _ => ∃ a, r = .ok a) s ss := by
  induction p generalizing s ss with
  | ret a => exact ⟨a, rfl⟩
  | throw e => exact hp.elim
  | step st k ih => exact fun s' _ _ _ => ih _ (hp.2 _) s' _

omit [DecidableEq T] in
theorem Prog.Total.ofStmt (st : Stmt T) : (Prog.ofStmt st : Prog T ε _).Total :=
  ⟨trivial, fun _ => trivial⟩

omit [DecidableEq T] in
theorem Prog.Total.returning {t : T} {p : Row t → Bool} {f : Row t → Prog T ε Unit}
    (hf : ∀ cur, (f cur).Total) (rows : List (Row t)) : (Prog.returning t p f rows).Total := by
  induction rows with
  | nil => trivial
  | cons r rows ih =>
    refine Prog.All.bind (Prog.Total.ofStmt _) fun found => ?_
    cases found with
    | none => exact ih
    | some cur =>
      by_cases hp : p cur = true
      · simp only [hp, if_true]
        exact Prog.All.bind (hf cur) fun _ => Prog.All.bind ih fun _ => trivial
      · simp only [hp]
        exact ih

omit [DecidableEq T] in
theorem Prog.Total.deleteReturning (t : T) (p : Row t → Bool) :
    (Prog.deleteReturning t p : Prog T ε _).Total := by
  refine Prog.All.bind (Prog.Total.ofStmt _) fun rows => Prog.Total.returning (fun cur => ?_) rows
  exact Prog.All.bind (Prog.Total.ofStmt _) fun _ => trivial

omit [DecidableEq T] in
theorem Prog.Total.updateReturning (t : T) (p : Row t → Bool) (f : Row t → Row t) :
    (Prog.updateReturning t p f : Prog T ε _).Total := by
  refine Prog.All.bind (Prog.Total.ofStmt _) fun rows => Prog.Total.returning (fun cur => ?_) rows
  exact Prog.All.bind (Prog.Total.ofStmt _) fun _ => trivial

/-! ## §4. The kinds of writes. -/

/-- Every write of the session satisfies `W`. -/
def Only (W : Write T → Prop) (_s : State T) (ws : List (Write T)) : Prop := ∀ w ∈ ws, W w

omit [DecidableEq T] in
theorem Only.nil (W : Write T → Prop) (s : State T) : Only W s [] := fun w hw => by cases hw

omit [DecidableEq T] in
theorem Only.append {W : Write T → Prop} {s : State T} {ws : List (Write T)} {w : Write T}
    (h : Only W s ws) (hw : W w) : Only W s (ws ++ [w]) := by
  intro w' hw'
  rcases List.mem_append.mp hw' with hw' | hw'
  · exact h w' hw'
  · rw [List.mem_singleton.mp hw']
    exact hw

theorem Only.stable (C : Contract L T) (W : Write T → Prop) : C.Stable (Only W) :=
  fun _ _ _ _ _ hj => hj

/-! ## §5. What the writes do to one row. -/

/-- The writes of a session either leave a row alone or decide what it is. -/
theorem DB.get?_apply_cases (ws : List (Write T)) (t : T) (k : Key t) :
    (∀ db : DB T, (db.apply ws t).get? k = (db t).get? k) ∨
      ∃ v, ∀ db : DB T, (db.apply ws t).get? k = v := by
  induction ws using List.reverseRecOn with
  | nil => exact Or.inl fun db => rfl
  | append_singleton ws w ih =>
    have hstep : ∀ db : DB T, (db.apply (ws ++ [w]) t).get? k
        = ((db.apply ws).write w t).get? k := fun db => by
      rw [DB.apply_append]
      rfl
    by_cases hw : w.rowId = ⟨t, k⟩
    · refine Or.inr ?_
      cases w with
      | put t' r =>
        obtain ⟨rfl, hk⟩ := Sigma.mk.inj hw
        refine ⟨some r, fun db => ?_⟩
        rw [hstep, DB.write, DB.put_same, ← eq_of_heq hk, Table.get?_put_self]
      | del t' k' =>
        obtain ⟨rfl, hk⟩ := Sigma.mk.inj hw
        refine ⟨none, fun db => ?_⟩
        rw [hstep, DB.write, DB.del_same, Table.get?_erase, if_pos (eq_of_heq hk).symm]
    · rcases ih with ih | ⟨v, ih⟩
      · refine Or.inl fun db => ?_
        rw [hstep, DB.get?_write_of_ne _ hw, ih]
      · refine Or.inr ⟨v, fun db => ?_⟩
        rw [hstep, DB.get?_write_of_ne _ hw, ih]

/-- A row that a session sees is committed or was stored by it. -/
theorem DB.get?_apply_some {db : DB T} {ws : List (Write T)} {t : T} {k : Key t} {r : Row t}
    (h : (db.apply ws t).get? k = some r) : (db t).get? k = some r ∨ .put t r ∈ ws := by
  induction ws using List.reverseRecOn with
  | nil => exact Or.inl h
  | append_singleton ws w ih =>
    rw [DB.apply_append] at h
    replace h : ((db.apply ws).write w t).get? k = some r := h
    by_cases hw : w.rowId = ⟨t, k⟩
    · cases w with
      | put t' r' =>
        obtain ⟨rfl, hk⟩ := Sigma.mk.inj hw
        rw [DB.write, DB.put_same, ← eq_of_heq hk, Table.get?_put_self] at h
        cases h
        exact Or.inr (List.mem_append_right _ (List.mem_singleton_self _))
      | del t' k' =>
        obtain ⟨rfl, hk⟩ := Sigma.mk.inj hw
        rw [DB.write, DB.del_same, Table.get?_erase, if_pos (eq_of_heq hk).symm] at h
        cases h
    · rw [DB.get?_write_of_ne _ hw] at h
      exact (ih h).imp_right (List.mem_append_left _)

/-- A row that is not there stays away while it is not stored. -/
theorem DB.get?_apply_none {db : DB T} {ws : List (Write T)} {t : T} {k : Key t}
    (h : (db t).get? k = none) (hws : ∀ r, .put t r ∈ ws → key r ≠ k) :
    (db.apply ws t).get? k = none := by
  cases hget : (db.apply ws t).get? k with
  | none => rfl
  | some r =>
    rcases DB.get?_apply_some hget with hold | hput
    · rw [h] at hold
      cases hold
    · exact absurd (Table.key_of_get? hget) (hws r hput)

/-- The session sees no row under a key. -/
def Absent (t : T) (k : Key t) (s : State T) (ws : List (Write T)) : Prop :=
  (s.db.apply ws t).get? k = none

/-- A row that the session does not see stays away while nobody else adds it. -/
theorem Absent.stable {t : T} {k : Key t}
    (h : ∀ ids s s', C.Evol ids s s' → (s.db t).get? k = none → (s'.db t).get? k = none) :
    C.Stable (Absent t k) := by
  intro s s' ss hr _ hj
  unfold Absent at hj ⊢
  rcases DB.get?_apply_cases ss.ws t k with hsame | ⟨v, hv⟩
  · rw [hsame] at hj ⊢
    exact h _ _ _ hr.evol hj
  · rw [hv] at hj ⊢
    exact hj

theorem Absent.append {t : T} {k : Key t} {s : State T} {ws : List (Write T)} {w : Write T}
    (h : Absent t k s ws) (hw : ∀ r, w = .put t r → key r ≠ k) : Absent t k s (ws ++ [w]) := by
  unfold Absent at h ⊢
  rw [DB.apply_append]
  show ((s.db.apply ws).write w t).get? k = none
  by_cases hid : w.rowId = ⟨t, k⟩
  · cases w with
    | put t' r =>
      obtain ⟨rfl, hk⟩ := Sigma.mk.inj hid
      exact absurd (eq_of_heq hk) (hw r rfl)
    | del t' k' =>
      obtain ⟨rfl, hk⟩ := Sigma.mk.inj hid
      rw [DB.write, DB.del_same, Table.get?_erase, if_pos (eq_of_heq hk).symm]
  · rw [DB.get?_write_of_ne _ hid, h]

/-- A row that the session has removed, and not stored, is not seen. -/
theorem Absent.of_del {t : T} {k : Key t} {s : State T} {ws : List (Write T)}
    (hdel : .del t k ∈ ws) (hput : ∀ w ∈ ws, ∀ r, w = .put t r → key r ≠ k) :
    Absent t k s ws := by
  induction ws using List.reverseRecOn with
  | nil => cases hdel
  | append_singleton ws w ih =>
    have hw := hput w (List.mem_append_right _ (List.mem_singleton_self w))
    rcases List.mem_append.mp hdel with hdel | hdel
    · exact (ih hdel fun w hmem => hput w (List.mem_append_left _ hmem)).append hw
    · unfold Absent
      rw [← List.mem_singleton.mp hdel, DB.apply_append]
      show ((s.db.apply ws).write (.del t k) t).get? k = none
      rw [DB.write, DB.del_same, Table.get?_erase, if_pos rfl]

/-- After a DELETE of a row by its key the session does not see it. -/
theorem wp_deleteReturning_key {t : T} {p : Row t → Bool} {k : Key t} {s : State T}
    {ss : Session T} (hp : ∀ r : Row t, key r = k → p r = true)
    (hstable : C.Stable (Absent t k)) :
    wp C (Prog.deleteReturning t p : Prog T ε _) (fun _ s' ss' => Absent t k s' ss'.ws) s ss := by
  -- the rows that are left contain the row, or it is away
  have hloop : ∀ (rows : List (Row t)) (s : State T) (ss : Session T), C.Inv s →
      (Absent t k s ss.ws ∨ ∃ r ∈ rows, key r = k) →
      wp C (Prog.returning t p (fun cur => (Prog.delete t (key cur)).bind fun _ => .ret ()) rows :
        Prog T ε _) (fun _ s' ss' => Absent t k s' ss'.ws) s ss := by
    intro rows
    induction rows with
    | nil =>
      intro s ss _ h
      rcases h with h | ⟨r, hr, -⟩
      · exact h
      · cases hr
    | cons r rows ih =>
      intro s ss hi h
      refine (wp_bind _ _ _ _ _).mpr (wp_getForUpdate (fun s' he hnone => ?_) ?_)
      · refine ih s' ss he.inv ?_
        rcases h with h | ⟨r', hr', hk⟩
        · exact Or.inl (hstable s s' ss he.rely he.inv h)
        · rcases List.mem_cons.mp hr' with rfl | hr'
          · exact Or.inl (by rw [hk] at hnone; exact hnone)
          · exact Or.inr ⟨r', hr', hk⟩
      · intro s' cur he hcur ho
        have hnext : Absent t k s' (ss.lock [⟨t, key r⟩]).ws ∨ ∃ r' ∈ r :: rows, key r' = k :=
          h.imp_left (hstable s s' ss he.rely he.inv)
        by_cases hpc : p cur = true
        · simp only [hpc, if_true]
          refine (wp_bind _ _ _ _ _).mpr ((wp_bind _ _ _ _ _).mpr
            (wp_delete_owned ho fun s₂ he₂ => ?_))
          refine (wp_bind _ _ _ _ _).mpr (wp_mono (ih s₂ _ he₂.inv ?_) ?_)
          · rcases hnext with hn | ⟨r', hr', hk⟩
            · exact Or.inl (Absent.append (hstable s' s₂ _ he₂.rely he₂.inv hn)
                (fun r h => by cases h))
            · rcases List.mem_cons.mp hr' with rfl | hr'
              · refine Or.inl ?_
                unfold Absent
                show (s₂.view (Session.write _ _) t).get? k = none
                rw [State.view_write, DB.write, DB.del_same, Table.get?_erase, hcur, hk,
                  if_pos rfl]
              · exact Or.inr ⟨r', hr', hk⟩
          · rintro (e | _) s₃ ss₃ h₃ <;> exact h₃
        · simp only [hpc]
          refine ih s' _ he.inv ?_
          rcases hnext with hn | ⟨r', hr', hk⟩
          · exact Or.inl hn
          · rcases List.mem_cons.mp hr' with rfl | hr'
            · exact absurd (hp cur (hcur.trans hk)) hpc
            · exact Or.inr ⟨r', hr', hk⟩
  refine (wp_bind _ _ _ _ _).mpr (wp_select fun s' he => hloop _ s' ss he.inv ?_)
  cases hget : (s'.view ss t).get? k with
  | none => exact Or.inl hget
  | some r =>
    obtain ⟨hmem, hk⟩ := Table.get?_eq_some.mp hget
    exact Or.inr ⟨r, List.mem_filter.mpr ⟨hmem, hp r hk⟩, hk⟩

end PyBoard.Relational
