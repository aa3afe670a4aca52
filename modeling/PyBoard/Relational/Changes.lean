/-
  PyBoard.Relational.Changes — what a transaction makes of the rows of a table.

  A `Policy` says which rows may be created, which version may follow which, and which rows
  may be removed.  If every statement of a program respects the policy, so does the step from
  the committed rows to those that its commit leaves, whatever commits in between: a row that
  the session has not locked it has not written, and a row that it has locked stays as it was.

  Main definitions:
    * `Policy`, `Policy.Allows` — what may become of one row.
    * `Policy.guarding` — who may store the rows of a kind.
    * `Stmt.Respects`, `Session.Changed` — of a statement, and of a session so far.
    * `Stmt.Spares`, `Prog.Obeys` — statements that leave a table alone, and programs.

  Main results:
    * `wp_changed` — a program that respects a policy.
    * `wp_until` — a bound of the time at the end is a bound before it.
-/
import PyBoard.Relational.Spans
import PyBoard.Relational.Steady

namespace PyBoard.Relational

open Schema

/-! ## §1. Policies. -/

/-- What may happen to the rows of a table. -/
structure Policy (ρ : Type) where
  create : ρ → Prop
  edit : ρ → ρ → Prop
  remove : ρ → Prop

namespace Policy

variable {ρ : Type} {Q : Policy ρ}

/-- May the version `v` of a row become `v'`? -/
def Allows (Q : Policy ρ) : Option ρ → Option ρ → Prop
  | none, none => True
  | none, some r => Q.create r
  | some r, none => Q.remove r
  | some r, some r' => Q.edit r r'

/-- One change after another is a change. -/
structure Lawful (Q : Policy ρ) : Prop where
  refl : ∀ r, Q.edit r r
  trans : ∀ {r₁ r₂ r₃}, Q.edit r₁ r₂ → Q.edit r₂ r₃ → Q.edit r₁ r₃
  create_edit : ∀ {r r'}, Q.create r → Q.edit r r' → Q.create r'
  edit_remove : ∀ {r r'}, Q.edit r r' → Q.remove r' → Q.remove r
  remove_create : ∀ {r r'}, Q.remove r → Q.create r' → Q.edit r r'

theorem Lawful.allows_refl (h : Q.Lawful) (v : Option ρ) : Q.Allows v v := by
  cases v with
  | none => trivial
  | some r => exact h.refl r

theorem Lawful.allows_trans (h : Q.Lawful) {v₁ v₂ v₃ : Option ρ}
    (h₁ : Q.Allows v₁ v₂) (h₂ : Q.Allows v₂ v₃) : Q.Allows v₁ v₃ := by
  cases v₁ with
  | none =>
    cases v₂ with
    | none => exact h₂
    | some r₂ =>
      cases v₃ with
      | none => trivial
      | some r₃ => exact h.create_edit h₁ h₂
  | some r₁ =>
    cases v₂ with
    | none =>
      cases v₃ with
      | none => exact h₁
      | some r₃ => exact h.remove_create h₁ h₂
    | some r₂ =>
      cases v₃ with
      | none => exact h.edit_remove h₁ h₂
      | some r₃ => exact h.trans h₁ h₂

/-- Nothing may happen. -/
def frozen : Policy ρ where
  create _ := False
  edit r r' := r' = r
  remove _ := False

theorem frozen_lawful : (frozen : Policy ρ).Lawful where
  refl _ := rfl
  trans h₁ h₂ := by
    subst h₁
    exact h₂
  create_edit h _ := h.elim
  edit_remove _ h := h.elim
  remove_create h _ := h.elim

theorem frozen_allows {v v' : Option ρ} : (frozen : Policy ρ).Allows v v' ↔ v' = v := by
  cases v with
  | none =>
    cases v' with
    | none => simp [Allows]
    | some r' => simp [Allows, frozen]
  | some r =>
    cases v' with
    | none => simp [Allows, frozen]
    | some r' => simp [Allows, frozen]

/-- A row of `S` is stored if it is one of `I`; every row may go. -/
def guarding (S I : ρ → Prop) : Policy ρ where
  create r := S r → I r
  edit r r' := S r' → r' = r ∨ I r'
  remove _ := True

section

variable {S I : ρ → Prop}

theorem guarding_lawful (S I : ρ → Prop) : (guarding S I).Lawful where
  refl _ _ := Or.inl rfl
  trans h₁ h₂ hS := by
    cases h₂ hS with
    | inr hI => exact Or.inr hI
    | inl hsame =>
      subst hsame
      exact h₁ hS
  create_edit h₁ h₂ hS := by
    cases h₂ hS with
    | inr hI => exact hI
    | inl hsame =>
      subst hsame
      exact h₁ hS
  edit_remove _ _ := trivial
  remove_create _ h hS := Or.inr (h hS)

/-- What a stored row was, or why it is stored. -/
theorem guarding_stored {v : Option ρ} {r : ρ} (h : (guarding S I).Allows v (some r))
    (hS : S r) : v = some r ∨ I r := by
  cases v with
  | none => exact Or.inr (h hS)
  | some old =>
    cases h hS with
    | inl hsame => exact Or.inl (by rw [hsame])
    | inr hI => exact Or.inr hI

theorem guarding_mono {I' : ρ → Prop} (himp : ∀ r, I r → I' r) {v v' : Option ρ}
    (h : (guarding S I).Allows v v') : (guarding S I').Allows v v' := by
  cases v' with
  | none =>
    cases v with
    | none => exact trivial
    | some r => exact trivial
  | some r' =>
    cases v with
    | none => exact fun hS => himp r' (h hS)
    | some r => exact fun hS => (h hS).imp_right (himp r')

end

end Policy

variable {L T : Type} [Schema T] [DecidableEq T] {ε α β : Type} {C : Contract L T} {t : T}

/-! ## §2. Statements that respect a policy. -/

/-- Whatever the statement meets, it changes what the session sees as the policy says. -/
def Stmt.Respects (Q : Policy (Row t)) (st : Stmt T) : Prop :=
  ∀ (s : State T) (ss : Session T) k,
    Q.Allows ((s.view ss t).get? k) ((s.view (st.exec s ss).2 t).get? k)

omit [DecidableEq T] in
/-- The statement writes no row of the table. -/
def Stmt.Spares (t : T) : Stmt T → Prop
  | .update t' _ _ => t' ≠ t
  | .insert t' _ => t' ≠ t
  | .upsert t' _ _ => t' ≠ t
  | .delete t' _ => t' ≠ t
  | .rollback => False
  | _ => True

section

variable {Q : Policy (Row t)} {st : Stmt T}

/-- A statement that writes nothing. -/
theorem Stmt.Respects.of_ws (hQ : Q.Lawful) (h : ∀ s ss, (st.exec s ss).2.ws = ss.ws) :
    st.Respects Q := by
  intro s ss k
  unfold State.view
  rw [h]
  exact hQ.allows_refl _

/-- A row of another table is written. -/
theorem Policy.Lawful.other (hQ : Q.Lawful) {s : State T} {ss : Session T} {w : Write T}
    (hw : w.table ≠ t) (k : Key t) :
    Q.Allows ((s.view ss t).get? k) ((s.view (ss.write w) t).get? k) := by
  rw [State.view_write, DB.write_other _ hw]
  exact hQ.allows_refl _

/-- A row is stored. -/
theorem Policy.Lawful.put (hQ : Q.Lawful) {s : State T} {ss : Session T} {r : Row t}
    (h : Q.Allows ((s.view ss t).get? (key r)) (some r)) (k : Key t) :
    Q.Allows ((s.view ss t).get? k) ((s.view (ss.write (.put t r)) t).get? k) := by
  rw [State.view_write, DB.write, DB.put_same, Table.get?_put]
  split
  · next hk =>
    rw [hk]
    exact h
  · exact hQ.allows_refl _

/-- **Other tables** are not a matter of the policy. -/
theorem Stmt.Spares.respects (h : st.Spares t) (hQ : Q.Lawful) : st.Respects Q := by
  cases st with
  | get t' k lock => exact .of_ws hQ fun s ss => rfl
  | select t' p lock => exact .of_ws hQ fun s ss => rfl
  | tryLock t' k granted => exact .of_ws hQ fun s ss => rfl
  | clock => exact .of_ws hQ fun s ss => rfl
  | rollback => exact h.elim
  | update t' old new =>
    intro s ss k
    rw [Stmt.exec_update]
    split
    · exact hQ.allows_refl _
    · exact hQ.other (show (Write.put t' _).table ≠ t from h) k
  | insert t' r =>
    intro s ss k
    rw [Stmt.exec_insert]
    split
    · exact hQ.allows_refl _
    · exact hQ.other (show (Write.put t' _).table ≠ t from h) k
  | upsert t' r f =>
    intro s ss k
    rw [Stmt.exec_upsert]
    split
    · exact hQ.other (show (Write.put t' _).table ≠ t from h) k
    · exact hQ.other (show (Write.put t' _).table ≠ t from h) k
  | delete t' k' =>
    intro s ss k
    rw [Stmt.exec_delete]
    split
    · exact hQ.allows_refl _
    · exact hQ.other (show (Write.del t' k').table ≠ t from h) k

/-- **UPDATE**: whatever version is met, the stored one may follow it. -/
theorem Stmt.Respects.update (hQ : Q.Lawful) {old new : Row t}
    (h : ∀ cur, key cur = key old → Q.edit cur (merge old new cur)) :
    (Stmt.update t old new).Respects Q := by
  intro s ss k
  rw [Stmt.exec_update]
  split
  · exact hQ.allows_refl _
  · next cur hcur =>
    have hkey : key cur = key old := Table.key_of_get? hcur
    refine hQ.put ?_ k
    rw [key_merge, hkey, hcur]
    exact h cur hkey

/-- **INSERT**: the row is new. -/
theorem Stmt.Respects.insert (hQ : Q.Lawful) {r : Row t} (h : Q.create r) :
    (Stmt.insert t r).Respects Q := by
  intro s ss k
  rw [Stmt.exec_insert]
  split
  · exact hQ.allows_refl _
  · next hrefuses =>
    refine hQ.put ?_ k
    have hnone : (s.view ss t).get? (key r) = none := by
      rw [Table.get?_eq_none]
      intro x hx hkey
      exact hrefuses (List.any_eq_true.mpr ⟨x, hx, by simp [hkey]⟩)
    rw [hnone]
    exact h

/-- **INSERT … ON CONFLICT DO UPDATE**: the row is new, or what follows the stored one. -/
theorem Stmt.Respects.upsert (hQ : Q.Lawful) {r : Row t} {f : Row t → Row t} (hnew : Q.create r)
    (hold : ∀ cur, key cur = key r → Q.edit cur (merge cur (f cur) cur)) :
    (Stmt.upsert t r f).Respects Q := by
  intro s ss k
  rw [Stmt.exec_upsert]
  split
  · next hnone =>
    refine hQ.put ?_ k
    rw [hnone]
    exact hnew
  · next cur hcur =>
    have hkey : key cur = key r := Table.key_of_get? hcur
    refine hQ.put ?_ k
    rw [key_merge, hkey, hcur]
    exact hold cur hkey

/-- **DELETE** of a row that may go. -/
theorem Stmt.Respects.delete (hQ : Q.Lawful) {k' : Key t} (h : ∀ r, key r = k' → Q.remove r) :
    (Stmt.delete t k').Respects Q := by
  intro s ss k
  rw [Stmt.exec_delete]
  split
  · exact hQ.allows_refl _
  · next cur hcur =>
    show Q.Allows _ ((s.view (ss.write (.del t k')) t).get? k)
    rw [State.view_write, DB.write, DB.del_same, Table.get?_erase]
    split
    · next hk =>
      rw [hk, hcur]
      exact h cur (Table.key_of_get? hcur)
    · exact hQ.allows_refl _

end

/-! ## §3. Programs of such statements. -/

/-- Every statement of the program satisfies `P`. -/
abbrev Prog.Obeys (P : Stmt T → Prop) (p : Prog T ε α) : Prop := p.All P fun _ => True

namespace Prog.Obeys

variable {P P' : Stmt T → Prop}

omit [DecidableEq T]

theorem ret (a : α) : (Prog.ret a : Prog T ε α).Obeys P := trivial

theorem throw (e : ε) : (Prog.throw e : Prog T ε α).Obeys P := trivial

theorem bind {p : Prog T ε α} {f : α → Prog T ε β} (hp : p.Obeys P) (hf : ∀ a, (f a).Obeys P) :
    (p.bind f).Obeys P := Prog.All.bind hp hf

theorem stmt {st : Stmt T} (hst : P st) : (Prog.ofStmt st : Prog T ε _).Obeys P :=
  ⟨hst, fun _ => trivial⟩

theorem ite {c : Prop} [Decidable c] {p q : Prog T ε α} (hp : p.Obeys P) (hq : q.Obeys P) :
    (if c then p else q).Obeys P := by
  split
  · exact hp
  · exact hq

theorem imp {p : Prog T ε α} (hp : p.Obeys P) (h : ∀ st, P st → P' st) : p.Obeys P' :=
  Prog.All.imp hp h fun _ _ => trivial

theorem tryCatch {p : Prog T ε α} {h : ε → Prog T ε α} (hp : p.Obeys P)
    (hh : ∀ e, (h e).Obeys P) : (p.tryCatch h).Obeys P := by
  induction p with
  | ret a => trivial
  | throw e => exact hh e
  | step st k ih => exact ⟨hp.1, fun r => ih r (hp.2 r)⟩

/-- The rows of a table, one after the other. -/
theorem returning {t : T} (p : Row t → Bool) (hget : ∀ k, P (.get t k true))
    {f : Row t → Prog T ε Unit} (hf : ∀ cur, p cur = true → (f cur).Obeys P)
    (rows : List (Row t)) : (Prog.returning t p f rows).Obeys P := by
  induction rows with
  | nil => trivial
  | cons r rows ih =>
    refine .bind (.stmt (hget _)) fun found => ?_
    cases found with
    | none => exact ih
    | some cur =>
      by_cases hp : p cur = true
      · simp only [hp, if_true]
        exact .bind (hf cur hp) fun _ => .bind ih fun _ => .ret _
      · simp only [hp]
        exact ih

theorem deleteReturning {t : T} {p : Row t → Bool} (hselect : P (.select t p false))
    (hget : ∀ k, P (.get t k true)) (hdel : ∀ cur, p cur = true → P (.delete t (key cur))) :
    (Prog.deleteReturning t p : Prog T ε _).Obeys P :=
  .bind (.stmt hselect) fun _ => returning p hget
    (fun cur hp => .bind (.stmt (hdel cur hp)) fun _ => .ret _) _

theorem updateReturning {t : T} {p : Row t → Bool} {f : Row t → Row t}
    (hselect : P (.select t p false)) (hget : ∀ k, P (.get t k true))
    (hupd : ∀ cur, p cur = true → P (.update t cur (f cur))) :
    (Prog.updateReturning t p f : Prog T ε _).Obeys P :=
  .bind (.stmt hselect) fun _ => returning p hget
    (fun cur hp => .bind (.stmt (hupd cur hp)) fun _ => .ret _) _

end Prog.Obeys

/-- The program writes no row of the table. -/
abbrev Prog.Spares (t : T) (p : Prog T ε α) : Prop := p.Obeys (Stmt.Spares t)

/-- The program keeps to the policy. -/
abbrev Prog.Respects (Q : Policy (Row t)) (p : Prog T ε α) : Prop := p.Obeys (Stmt.Respects Q)

/-- A program that leaves the table alone respects every policy. -/
theorem Prog.Spares.respects {p : Prog T ε α} {Q : Policy (Row t)} (hp : p.Spares t)
    (hQ : Q.Lawful) : p.Respects Q := hp.imp fun _ h => h.respects hQ

/-! ## §4. Sessions. -/

/-- From the committed rows to those that it sees, the session keeps to the policy. -/
structure Session.Changed (Q : Policy (Row t)) (s : State T) (ss : Session T) : Prop where
  covered : ss.Covered
  rows : ∀ k, Q.Allows ((s.db t).get? k) ((s.view ss t).get? k)

section

variable {Q : Policy (Row t)} {s s' : State T} {ss : Session T}

/-- A session that has changed nothing sees the committed rows. -/
theorem Session.Changed.get? (h : ss.Changed (Policy.frozen : Policy (Row t)) s) (k : Key t) :
    (s.view ss t).get? k = (s.db t).get? k := Policy.frozen_allows.mp (h.rows k)

theorem Session.Changed.mem (h : ss.Changed (Policy.frozen : Policy (Row t)) s) {r : Row t}
    (hr : r ∈ (s.view ss t).rows) : r ∈ (s.db t).rows := by
  have hget : (s.view ss t).get? (key r) = some r := Table.get?_eq_some.mpr ⟨hr, rfl⟩
  rw [h.get?] at hget
  exact (Table.get?_eq_some.mp hget).1

variable (hQ : Q.Lawful)

include hQ

/-- Nothing is a change that every policy allows. -/
theorem Session.Changed.of_frozen (h : ss.Changed (Policy.frozen : Policy (Row t)) s) :
    ss.Changed Q s := by
  refine ⟨h.covered, fun k => ?_⟩
  rw [h.get?]
  exact hQ.allows_refl _

theorem Session.Changed.fresh (s : State T) : (Session.fresh : Session T).Changed Q s := by
  refine ⟨?_, fun k => ?_⟩
  · intro w hw
    cases hw
  · rw [State.view_fresh]
    exact hQ.allows_refl _

/-- Interference does not touch what the session has written. -/
theorem Session.Changed.rely (h : ss.Changed Q s) (hr : C.Rely ss.locks s s') :
    ss.Changed Q s' := by
  refine ⟨h.covered, fun k => ?_⟩
  by_cases hlock : (⟨t, k⟩ : RowId T) ∈ ss.locks
  · rw [hr.view hlock, hr.frame ⟨t, k⟩ hlock]
    exact h.rows k
  · -- the row is not locked, so the session has not written it
    have hws : ∀ w ∈ ss.ws, Write.rowId w ≠ ⟨t, k⟩ := by
      intro w hw hid
      exact hlock (hid ▸ h.covered w hw)
    unfold State.view
    rw [DB.get?_apply_of_not_mem _ _ hws]
    exact hQ.allows_refl _

theorem Session.Changed.exec (h : ss.Changed Q s) {st : Stmt T} (hst : st.Respects Q) :
    (st.exec s ss).2.Changed Q s :=
  ⟨Stmt.exec_covered h.covered st, fun k => hQ.allows_trans (h.rows k) (hst s ss k)⟩

/-- **A program that respects a policy**, from a session that has kept to it. -/
theorem wp_changed {p : Prog T ε α} {E : ε → Prop} (hp : p.All (Stmt.Respects Q) E)
    (h : ss.Changed Q s) : wp C p (fun _ s' ss' => ss'.Changed Q s') s ss := by
  induction p generalizing s ss with
  | ret a => exact h
  | throw e => exact h
  | step st k ih =>
    intro s' hr _ _
    exact ih _ (hp.2 _) ((h.rely hQ hr).exec hQ hp.1)

end

/-! ## §5. Time. -/

section

variable {p : Prog T ε α} {s : State T} {ss : Session T}

/-- The clock does not go back. -/
theorem wp_later (p : Prog T ε α) (s : State T) (ss : Session T) :
    wp C p (fun _ s' _ => s.now ≤ s'.now) s ss := by
  induction p generalizing s ss with
  | ret a => exact le_refl s.now
  | throw e => exact le_refl s.now
  | step st k ih =>
    intro s' hr _ _
    exact wp_mono (ih _ s' _) fun _ _ _ h => hr.now.trans h

/-- **A bound of the time** at the end of a program is one at its beginning. -/
theorem wp_until {hi : Int} {Q : Except ε α → State T → Session T → Prop}
    (h : s.now ≤ hi → wp C p (fun r s' ss' => s'.now ≤ hi → Q r s' ss') s ss) :
    wp C p (fun r s' ss' => s'.now ≤ hi → Q r s' ss') s ss := by
  by_cases hnow : s.now ≤ hi
  · exact h hnow
  · refine wp_mono (wp_later p s ss) fun r s' ss' hle hhi => ?_
    omega

end

end PyBoard.Relational
