/-
  PyBoard.Relational.Views — what a program sees of the database.

  A program that is about some tables only cannot tell two states apart that agree on
  these tables: it gives the same answers, and it writes the same rows.

  Main results:
    * `Prog.Sees.run_congr` — the same run in both states.
    * `Prog.Sees.writes` — it writes only to the tables that it is about.
-/
import PyBoard.Relational.Bulk

namespace PyBoard.Relational

open Schema

variable {T : Type} [Schema T] {ε α β : Type} {A : T → Prop}

/-! ## §1. What a program is about. -/

/-- The statement is about a table of `A`, if it is about a table. -/
def Stmt.About (A : T → Prop) : Stmt T → Prop
  | .get t _ _ => A t
  | .select t _ _ => A t
  | .update t _ _ => A t
  | .insert t _ => A t
  | .upsert t _ _ => A t
  | .delete t _ => A t
  | .tryLock t _ _ => A t
  | .clock => True
  | .rollback => True

/-- Every statement of the program is about tables of `A`. -/
def Prog.Sees (A : T → Prop) (p : Prog T ε α) : Prop := p.All (Stmt.About A) fun _ => True

namespace Prog.Sees

theorem ret (a : α) : (Prog.ret a : Prog T ε α).Sees A := trivial

theorem throw (e : ε) : (Prog.throw e : Prog T ε α).Sees A := trivial

theorem bind {p : Prog T ε α} {f : α → Prog T ε β} (hp : p.Sees A) (hf : ∀ a, (f a).Sees A) :
    (p.bind f).Sees A := Prog.All.bind hp hf

theorem ite {c : Prop} [Decidable c] {p q : Prog T ε α} (hp : p.Sees A) (hq : q.Sees A) :
    (if c then p else q).Sees A := by
  split
  · exact hp
  · exact hq

theorem stmt {st : Stmt T} (hst : st.About A) : (Prog.ofStmt st : Prog T ε _).Sees A :=
  ⟨hst, fun _ => trivial⟩

/-- The rows of a table, one after the other. -/
theorem returning {t : T} (ht : A t) (p : Row t → Bool) {f : Row t → Prog T ε Unit}
    (hf : ∀ r, (f r).Sees A) (rows : List (Row t)) : (Prog.returning t p f rows).Sees A := by
  induction rows with
  | nil => exact .ret _
  | cons r rs ih =>
      refine .bind (.stmt ht) fun found => ?_
      cases found with
      | none => exact ih
      | some cur => exact .ite (.bind (hf cur) fun _ => .bind ih fun _ => .ret _) ih

theorem deleteReturning {t : T} (ht : A t) (p : Row t → Bool) :
    (Prog.deleteReturning t p : Prog T ε _).Sees A :=
  .bind (.stmt ht) fun _ => .returning ht p
    (fun cur => .bind (.stmt (show Stmt.About A (.delete t (key cur)) from ht)) fun _ => .ret _) _

end Prog.Sees

/-! ## §2. States that agree. -/

variable [DecidableEq T]

/-- The states agree on the tables of `A`. -/
structure Agree (A : T → Prop) (s s' : State T) : Prop where
  tables : ∀ t, A t → s'.db t = s.db t
  now : s'.now = s.now

theorem Agree.view {s s' : State T} (h : Agree A s s') (ss : Session T) {t : T} (ht : A t) :
    s'.view ss t = s.view ss t := DB.apply_congr ss.ws (h.tables t ht)

/-- A statement is executed alike. -/
theorem Stmt.exec_congr {s s' : State T} (h : Agree A s s') {st : Stmt T} (hst : st.About A)
    (ss : Session T) : st.exec s' ss = st.exec s ss := by
  cases st with
  | get t k lock =>
      have hview := h.view ss hst
      unfold exec
      cases lock with
      | true => simp only [wants, hview]
      | false => simp only [wants, hview]
  | select t p lock =>
      have hview := h.view ss hst
      unfold exec
      cases lock with
      | true => simp only [wants, hview]
      | false => simp only [wants, hview]
  | update t old new =>
      rw [exec_update, exec_update, h.view ss hst]
  | insert t r =>
      rw [exec_insert, exec_insert]
      unfold DB.refuses
      rw [h.view ss hst]
  | upsert t r f =>
      rw [exec_upsert, exec_upsert, h.view ss hst]
  | delete t k =>
      rw [exec_delete, exec_delete, h.view ss hst]
  | tryLock t k granted =>
      unfold exec
      cases granted with
      | true => rfl
      | false => rfl
  | clock =>
      unfold exec
      rw [h.now]
  | rollback => rfl

/-- A statement writes to the table that it is about. -/
theorem Stmt.exec_writes {st : Stmt T} (hst : st.About A) {s : State T} {ss : Session T}
    (hws : ∀ w ∈ ss.ws, A w.table) : ∀ w ∈ (st.exec s ss).2.ws, A w.table := by
  have hwrite : ∀ w : Write T, A w.table → ∀ w' ∈ (ss.write w).ws, A w'.table := by
    intro w hw w' hw'
    cases List.mem_append.mp hw' with
    | inl hold => exact hws w' hold
    | inr hnew =>
        rw [List.mem_singleton.mp hnew]
        exact hw
  cases st with
  | get t k lock => exact hws
  | select t p lock => exact hws
  | update t old new =>
      rw [exec_update]
      split
      · exact hws
      · exact hwrite _ hst
  | insert t r =>
      rw [exec_insert]
      split
      · exact hws
      · exact hwrite _ hst
  | upsert t r f =>
      rw [exec_upsert]
      split
      · exact hwrite _ hst
      · exact hwrite _ hst
  | delete t k =>
      rw [exec_delete]
      split
      · exact hws
      · exact hwrite _ hst
  | tryLock t k granted => exact hws
  | clock => exact hws
  | rollback =>
      intro w hw
      cases hw

namespace Prog.Sees

/-- **Two states that agree give one run.** -/
theorem run_congr {p : Prog T ε α} (hp : p.Sees A) {s s' : State T} (h : Agree A s s')
    (ss : Session T) : p.run s' ss = p.run s ss := by
  induction p generalizing ss with
  | ret a => rfl
  | throw e => rfl
  | step st k ih =>
      show (k (st.exec s' ss).1).run s' (st.exec s' ss).2 = (k (st.exec s ss).1).run s _
      rw [Stmt.exec_congr h hp.1]
      exact ih _ (hp.2 _) _

theorem writes {p : Prog T ε α} (hp : p.Sees A) {s : State T} {ss : Session T}
    (hws : ∀ w ∈ ss.ws, A w.table) : ∀ w ∈ (p.run s ss).2.ws, A w.table := by
  induction p generalizing ss with
  | ret a => exact hws
  | throw e => exact hws
  | step st k ih => exact ih _ (hp.2 _) (Stmt.exec_writes hp.1 hws)

end Prog.Sees

/-- The first part in both states, and what follows from its answer. -/
theorem Prog.run_bind_congr {p : Prog T ε α} {f : α → Prog T ε β} {s s' : State T}
    {ss : Session T} (hp : p.run s' ss = p.run s ss)
    (hf : ∀ a ss', p.run s ss = (.ok a, ss') → (f a).run s' ss' = (f a).run s ss') :
    (p.bind f).run s' ss = (p.bind f).run s ss := by
  rw [run_bind, run_bind, hp]
  cases hrun : p.run s ss with
  | mk answer ss' =>
      cases answer with
      | error e => rfl
      | ok a => exact hf a ss' hrun

/-- The same, when the first part cannot tell the states apart. -/
theorem Prog.Sees.bind_congr {p : Prog T ε α} {f : α → Prog T ε β} (hp : p.Sees A)
    {s s' : State T} (h : Agree A s s') {ss : Session T} (hws : ∀ w ∈ ss.ws, A w.table)
    (hf : ∀ a ss', (∀ w ∈ ss'.ws, A w.table) → (f a).run s' ss' = (f a).run s ss') :
    (p.bind f).run s' ss = (p.bind f).run s ss := by
  refine Prog.run_bind_congr (hp.run_congr h ss) fun a ss' hrun => hf a ss' ?_
  have hwrites := hp.writes (s := s) hws
  rw [hrun] at hwrites
  exact hwrites

end PyBoard.Relational
