/-
  PyBoard.Relational.Rely — rely–guarantee reasoning for interleaved
  transactions.

  A `Contract` says what holds of every committed state (`Inv`), what a
  transaction that holds some row locks may rely on while others commit
  (`Evol`, besides the frame of its own locked rows), and what a commit has
  to guarantee in exchange (`Guar`).  `wp` is the weakest precondition of a
  program whose statements are separated by arbitrary interference within
  the contract.

  Main results:
    * `wp_bind`, `wp_tryCatch`, `wp_mono` — the structural rules.
    * `Reaches.sound` — if every program that may begin satisfies its weakest
      precondition, the contract holds in every reachable configuration.
    * `Reaches.state_induction` — a property of the committed state and the
      commit history is proved by looking at ticks and at guaranteed commits.
-/
import PyBoard.Relational.ReadCommitted

namespace PyBoard.Relational

open Schema

variable {L T : Type} [Schema T] [DecidableEq T] {ε α β : Type}

/-! ## §1. The frame of the locked rows. -/

/-- The rows named by `ids` are the same in both states. -/
def Frame (ids : List (RowId T)) (s s' : State T) : Prop :=
  ∀ id ∈ ids, (s'.db id.1).get? id.2 = (s.db id.1).get? id.2

/-- Every row the session has written is locked. -/
def Session.Covered (ss : Session T) : Prop := ∀ w ∈ ss.ws, w.rowId ∈ ss.locks

omit [DecidableEq T] in
theorem Frame.refl (ids : List (RowId T)) (s : State T) : Frame ids s s := fun _ _ => rfl

omit [DecidableEq T] in
theorem Frame.trans {ids : List (RowId T)} {s₁ s₂ s₃ : State T}
    (h₁ : Frame ids s₁ s₂) (h₂ : Frame ids s₂ s₃) : Frame ids s₁ s₃ :=
  fun id hid => (h₂ id hid).trans (h₁ id hid)

/-- A commit leaves the rows alone that other transactions have locked. -/
theorem Frame.commit {ids : List (RowId T)} {s : State T} {ss : Session T}
    (hc : ss.Covered) (hd : List.Disjoint ss.locks ids) : Frame ids s (s.commit ss) := by
  rintro ⟨t, k⟩ hid
  refine DB.get?_apply_of_not_mem _ _ fun w hw heq => ?_
  exact hd (hc w hw) (heq ▸ hid)

omit [DecidableEq T] in
theorem Session.Covered.lock {ss : Session T} (h : ss.Covered) (ids : List (RowId T)) :
    (ss.lock ids).Covered :=
  fun w hw => List.mem_append_right _ (h w hw)

omit [DecidableEq T] in
theorem Session.Covered.write {ss : Session T} (h : ss.Covered) (w : Write T) :
    (ss.write w).Covered := by
  intro w hw
  rcases List.mem_append.mp hw with hw | hw
  · exact List.mem_cons_of_mem _ (h w hw)
  · rw [List.mem_singleton.mp hw]
    exact List.mem_cons_self

/-- A statement keeps the written rows locked. -/
theorem Stmt.exec_covered {s : State T} {ss : Session T} (h : ss.Covered) (st : Stmt T) :
    (st.exec s ss).2.Covered := by
  cases st with
  | get t k lock => exact h.lock _
  | select t p lock => exact h.lock _
  | update t old new =>
    rw [Stmt.exec_update]
    split
    · exact h.lock _
    · exact h.write _
  | insert t r =>
    rw [Stmt.exec_insert]
    split
    · exact h.lock _
    · exact h.write _
  | upsert t r f =>
    rw [Stmt.exec_upsert]
    split
    · exact h.write _
    · exact h.write _
  | delete t k =>
    rw [Stmt.exec_delete]
    split
    · exact h.lock _
    · exact h.write _
  | tryLock t k granted => exact h.lock _
  | clock => exact h
  | rollback => intro w hw; cases hw

/-- A statement takes only the locks it asks for. -/
theorem Stmt.exec_locks {s : State T} {ss : Session T} (st : Stmt T) :
    ∀ id ∈ (st.exec s ss).2.locks, id ∈ st.wants s ss ∨ id ∈ ss.locks := by
  intro id hid
  cases st with
  | get t k lock => exact List.mem_append.mp hid
  | select t p lock => exact List.mem_append.mp hid
  | update t old new =>
    rw [Stmt.exec_update] at hid
    split at hid
    · exact List.mem_append.mp hid
    · next cur hcur =>
      rcases List.mem_cons.mp hid with rfl | hid
      · left
        simp [Stmt.wants, Table.key_of_get? hcur]
      · exact Or.inr hid
  | insert t r =>
    rw [Stmt.exec_insert] at hid
    split at hid
    · exact List.mem_append.mp hid
    · rcases List.mem_cons.mp hid with rfl | hid
      · exact Or.inl (by simp [Stmt.wants])
      · exact Or.inr hid
  | upsert t r f =>
    rw [Stmt.exec_upsert] at hid
    split at hid
    · rcases List.mem_cons.mp hid with rfl | hid
      · exact Or.inl (by simp [Stmt.wants])
      · exact Or.inr hid
    · next cur hcur =>
      rcases List.mem_cons.mp hid with rfl | hid
      · left
        simp [Stmt.wants, Table.key_of_get? hcur]
      · exact Or.inr hid
  | delete t k =>
    rw [Stmt.exec_delete] at hid
    split at hid
    · exact List.mem_append.mp hid
    · exact List.mem_cons.mp hid |>.imp_left fun h => by rw [h]; exact List.mem_cons_self
  | tryLock t k granted => exact List.mem_append.mp hid
  | clock => exact Or.inr hid
  | rollback => cases hid

/-! ## §2. Contracts. -/

/-- **A contract between transactions.**  Its condition says which runs it
    is about. -/
structure Contract (L T : Type) [Schema T] [DecidableEq T] extends Cond L T where
  /-- Holds of every committed state. -/
  Inv : State T → Prop
  /-- How the committed state may evolve while a transaction holds some locks. -/
  Evol : List (RowId T) → State T → State T → Prop
  /-- What a commit guarantees. -/
  Guar : L → State T → Session T → Prop
  evol_refl : ∀ ids s, Evol ids s s
  evol_trans : ∀ {ids s₁ s₂ s₃}, Evol ids s₁ s₂ → Evol ids s₂ s₃ → Evol ids s₁ s₃
  evol_mono : ∀ {ids ids' s s'}, ids ⊆ ids' → Evol ids' s s' → Evol ids s s'
  inv_tick : ∀ {s} d, Inv s → Inv (s.tick d)
  evol_tick : ∀ {s} ids d, Inv s → Evol ids s (s.tick d)
  guar_inv : ∀ {l s ss}, Inv s → ss.Covered → Guar l s ss → Inv (s.commit ss)
  guar_evol : ∀ {l s ss ids}, Inv s → ss.Covered → Guar l s ss →
    List.Disjoint ss.locks ids → Evol ids s (s.commit ss)

variable (C : Contract L T)

/-- What a transaction that holds `ids` may rely on between two statements. -/
structure Contract.Rely (ids : List (RowId T)) (s s' : State T) : Prop where
  frame : Frame ids s s'
  now : s.now ≤ s'.now
  evol : C.Evol ids s s'

variable {C}

theorem Contract.Rely.refl (ids : List (RowId T)) (s : State T) : C.Rely ids s s :=
  ⟨Frame.refl ids s, le_refl _, C.evol_refl ids s⟩

theorem Contract.Rely.trans {ids : List (RowId T)} {s₁ s₂ s₃ : State T}
    (h₁ : C.Rely ids s₁ s₂) (h₂ : C.Rely ids s₂ s₃) : C.Rely ids s₁ s₃ :=
  ⟨h₁.frame.trans h₂.frame, h₁.now.trans h₂.now, C.evol_trans h₁.evol h₂.evol⟩

theorem Contract.Rely.mono {ids ids' : List (RowId T)} {s s' : State T}
    (hsub : ids ⊆ ids') (h : C.Rely ids' s s') : C.Rely ids s s' :=
  ⟨fun id hid => h.frame id (hsub hid), h.now, C.evol_mono hsub h.evol⟩

theorem Contract.Rely.tick {s : State T} (h : C.Inv s) (ids : List (RowId T)) (d : Nat) :
    C.Rely ids s (s.tick d) :=
  ⟨fun _ _ => rfl, by simp, C.evol_tick ids d h⟩

theorem Contract.Rely.commit {l : L} {s : State T} {ss : Session T}
    {ids : List (RowId T)} (h : C.Inv s) (hc : ss.Covered) (hg : C.Guar l s ss)
    (hd : List.Disjoint ss.locks ids) : C.Rely ids s (s.commit ss) :=
  ⟨Frame.commit hc hd, le_refl _, C.guar_evol h hc hg hd⟩

/-! ## §3. Weakest preconditions. -/

variable (C)

/-- The weakest precondition of a program for a postcondition on its outcome,
    its last state and its session: before every statement the environment may
    act within the contract. -/
def wp : Prog T ε α → (Except ε α → State T → Session T → Prop) →
    State T → Session T → Prop
  | .ret a, Q => Q (.ok a)
  | .throw e, Q => Q (.error e)
  | .step st k, Q => fun s ss =>
      ∀ s', C.Rely ss.locks s s' → C.Inv s' → C.stmt st s' ss = true →
        wp (k (st.exec s' ss).1) Q s' (st.exec s' ss).2

variable {C}

@[simp]
theorem wp_ret (a : α) (Q : Except ε α → State T → Session T → Prop) :
    wp C (.ret a) Q = Q (.ok a) := rfl

@[simp]
theorem wp_throw (e : ε) (Q : Except ε α → State T → Session T → Prop) :
    wp C (.throw e) Q = Q (.error e) := rfl

/-- A conditional is looked at branch by branch. -/
theorem wp_ite {c : Prop} [Decidable c] {p q : Prog T ε α}
    {Q : Except ε α → State T → Session T → Prop} {s : State T} {ss : Session T}
    (ht : c → wp C p Q s ss) (hf : ¬c → wp C q Q s ss) :
    wp C (if c then p else q) Q s ss := by
  split
  · next h => exact ht h
  · next h => exact hf h

theorem wp_mono {p : Prog T ε α} {Q Q' : Except ε α → State T → Session T → Prop}
    {s : State T} {ss : Session T} (h : wp C p Q s ss)
    (hQ : ∀ r s' ss', Q r s' ss' → Q' r s' ss') : wp C p Q' s ss := by
  induction p generalizing s ss with
  | ret a => exact hQ _ _ _ h
  | throw e => exact hQ _ _ _ h
  | step st k ih => exact fun s' hr hi hp => ih _ (h s' hr hi hp)

/-- A postcondition that always holds. -/
theorem wp_of_forall {p : Prog T ε α} {Q : Except ε α → State T → Session T → Prop}
    (h : ∀ r s ss, Q r s ss) (s : State T) (ss : Session T) : wp C p Q s ss := by
  induction p generalizing s ss with
  | ret a => exact h _ _ _
  | throw e => exact h _ _ _
  | step st k ih => exact fun s' _ _ _ => ih _ s' _

/-- Two postconditions. -/
theorem wp_and {p : Prog T ε α} {Q Q' : Except ε α → State T → Session T → Prop}
    {s : State T} {ss : Session T} (h : wp C p Q s ss) (h' : wp C p Q' s ss) :
    wp C p (fun r s' ss' => Q r s' ss' ∧ Q' r s' ss') s ss := by
  induction p generalizing s ss with
  | ret a => exact ⟨h, h'⟩
  | throw e => exact ⟨h, h'⟩
  | step st k ih => exact fun s' hr hi hp => ih _ (h s' hr hi hp) (h' s' hr hi hp)

/-- The invariant holds wherever a program ends. -/
theorem wp_inv {p : Prog T ε α} {Q : Except ε α → State T → Session T → Prop}
    {s : State T} {ss : Session T} (hi : C.Inv s) (h : wp C p Q s ss) :
    wp C p (fun r s' ss' => C.Inv s' ∧ Q r s' ss') s ss := by
  induction p generalizing s ss with
  | ret a => exact ⟨hi, h⟩
  | throw e => exact ⟨hi, h⟩
  | step st k ih => exact fun s' hr hi' hp => ih _ hi' (h s' hr hi' hp)

/-- **Sequencing.**  An error of the first part is an error of the whole. -/
theorem wp_bind (p : Prog T ε α) (f : α → Prog T ε β)
    (Q : Except ε β → State T → Session T → Prop) (s : State T) (ss : Session T) :
    wp C (p.bind f) Q s ss ↔
      wp C p (fun r s' ss' =>
        match r with
        | .ok a => wp C (f a) Q s' ss'
        | .error e => Q (.error e) s' ss') s ss := by
  induction p generalizing s ss with
  | ret a => rfl
  | throw e => rfl
  | step st k ih =>
    exact forall_congr' fun s' => forall_congr' fun _ => forall_congr' fun _ =>
      forall_congr' fun _ => ih _ _ _

/-- **`try … except`.** -/
theorem wp_tryCatch (p : Prog T ε α) (h : ε → Prog T ε α)
    (Q : Except ε α → State T → Session T → Prop) (s : State T) (ss : Session T) :
    wp C (p.tryCatch h) Q s ss ↔
      wp C p (fun r s' ss' =>
        match r with
        | .ok a => Q (.ok a) s' ss'
        | .error e => wp C (h e) Q s' ss') s ss := by
  induction p generalizing s ss with
  | ret a => rfl
  | throw e => rfl
  | step st k ih =>
    exact forall_congr' fun s' => forall_congr' fun _ => forall_congr' fun _ =>
      forall_congr' fun _ => ih _ _ _

/-! ## §4. Soundness. -/

variable (C)

/-- What a transaction owes at its end: if it returns, its commit guarantees
    the contract, however long it waits; if it fails, nothing. -/
def Contract.Post (l : L) (r : Except ε α) (s : State T) (ss : Session T) : Prop :=
  match r with
  | .ok _ => ∀ s', C.Rely ss.locks s s' → C.Inv s' → C.commit l s' ss = true →
      C.Guar l s' ss
  | .error _ => True

/-- A program started as `l` keeps the contract. -/
def Contract.Keeps (l : L) (p : Prog T ε α) : Prop :=
  ∀ s, C.Inv s → wp C p (C.Post l) s Session.fresh

/-- A live transaction that will keep the contract: since the last statement it
    ran, in `s₀`, only its rely has happened. -/
structure Tx.Ok (s : State T) (tx : Tx L T ε α) : Prop where
  covered : tx.session.Covered
  proof : ∃ s₀, C.Rely tx.session.locks s₀ s ∧ wp C tx.prog (C.Post tx.label) s₀ tx.session

/-- Different transactions hold different locks. -/
def Separate (txs : List (Tx L T ε α)) : Prop :=
  ∀ (i j : Nat) (tx tx' : Tx L T ε α), i ≠ j → txs[i]? = some tx → txs[j]? = some tx' →
    List.Disjoint tx.session.locks tx'.session.locks

/-- The invariant of interleaved runs. -/
structure Config.Ok (c : Config L T ε α) : Prop where
  inv : C.Inv c.state
  separate : Separate c.txs
  txs : ∀ tx ∈ c.txs, tx.Ok C c.state

variable {C}

theorem Tx.Ok.rely {s s' : State T} {tx : Tx L T ε α} (h : tx.Ok C s)
    (hr : C.Rely tx.session.locks s s') : tx.Ok C s' := by
  obtain ⟨s₀, h₀, hwp⟩ := h.proof
  exact ⟨h.covered, s₀, h₀.trans hr, hwp⟩

theorem Config.Ok.quiet {s : State T} (h : C.Inv s) :
    (Config.quiet s : Config L T ε α).Ok C :=
  ⟨h, fun i j tx tx' _ hi => by simp [Config.quiet] at hi,
    fun tx htx => by simp [Config.quiet] at htx⟩

omit [DecidableEq T] in
theorem Separate.eraseIdx {txs : List (Tx L T ε α)} (h : Separate txs) (n : Nat) :
    Separate (txs.eraseIdx n) := by
  intro i j tx tx' hij hi hj
  rw [List.getElem?_eraseIdx] at hi hj
  have hne : (if i < n then i else i + 1) ≠ (if j < n then j else j + 1) := by
    split <;> split <;> omega
  refine h _ _ tx tx' hne ?_ ?_
  · split <;> simp_all
  · split <;> simp_all

omit [DecidableEq T] in
theorem Separate.append {txs : List (Tx L T ε α)} (h : Separate txs) (l : L)
    (p : Prog T ε α) : Separate (txs ++ [⟨l, p, Session.fresh⟩]) := by
  intro i j tx tx' hij hi hj
  rw [List.getElem?_append] at hi hj
  split at hi
  · split at hj
    · exact h i j tx tx' hij hi hj
    · rw [List.getElem?_singleton] at hj
      split at hj
      · cases hj
        exact List.disjoint_nil_right _
      · cases hj
  · rw [List.getElem?_singleton] at hi
    split at hi
    · cases hi
      exact List.disjoint_nil_left _
    · cases hi

omit [DecidableEq T] in
/-- Replacing the `n`-th transaction by one that is apart from all the others. -/
theorem Separate.set {txs : List (Tx L T ε α)} (h : Separate txs) {n : Nat}
    {tx₀ : Tx L T ε α} (hnew : ∀ j tx, j ≠ n → txs[j]? = some tx →
      List.Disjoint tx₀.session.locks tx.session.locks) :
    Separate (txs.set n tx₀) := by
  intro i j tx tx' hij hi hj
  rw [List.getElem?_set] at hi hj
  split at hi
  · next hin =>
    rw [if_neg (by omega)] at hj
    split at hi
    · cases hi
      exact hnew j tx' (by omega) hj
    · cases hi
  · split at hj
    · split at hj
      · cases hj
        exact fun id hid hid' => hnew i tx (by omega) hi hid' hid
      · cases hj
    · exact h i j tx tx' hij hi hj

/-- A statement that is not blocked takes no lock of another transaction. -/
theorem Config.not_blocked {c : Config L T ε α} {i : Nat} {ss : Session T} {st : Stmt T}
    (h : ¬ c.blocked i ss st = true) {j : Nat} {tx : Tx L T ε α} (hj : j ≠ i)
    (htx : c.txs[j]? = some tx) :
    List.Disjoint (st.wants c.state ss) tx.session.locks := by
  intro id hid hlock
  refine h (Bool.or_eq_true_iff.mpr (Or.inl (List.any_eq_true.mpr ⟨tx, ?_, ?_⟩)))
  · exact List.mem_eraseIdx_iff_getElem?.mpr ⟨j, hj, htx⟩
  · have : tx.holds (st.wants c.state ss) = true :=
      List.any_eq_true.mpr ⟨id, hid, by simpa using hlock⟩
    simp [this]

variable {progOf : L → Prog T ε α}

/-- **One event keeps the contract.** -/
theorem Config.Ok.step {c c' : Config L T ε α} {e : Event L}
    (hprog : ∀ l, C.begin l = true → C.Keeps l (progOf l)) (h : c.Ok C)
    (ha : C.admits c e = true) (hs : c.step progOf e = some c') : c'.Ok C := by
  cases e with
  | begin l =>
    cases hs
    refine ⟨h.inv, h.separate.append l _, fun tx htx => ?_⟩
    rcases List.mem_append.mp htx with htx | htx
    · exact h.txs tx htx
    · rw [List.mem_singleton.mp htx]
      exact ⟨(fun w hw => by cases hw), c.state, Contract.Rely.refl _ _,
        hprog l ha c.state h.inv⟩
  | exec i =>
    simp only [Config.step] at hs
    split at hs
    · next l st k ss hi =>
      split at hs
      · cases hs
      · next hblock =>
        cases hs
        have hadm : C.stmt st c.state ss = true := by simpa [Cond.admits, hi] using ha
        have hok := h.txs _ (List.mem_of_getElem? hi)
        obtain ⟨s₀, hrely, hwp⟩ := hok.proof
        refine ⟨h.inv, h.separate.set fun j tx hj htx => ?_, fun tx htx => ?_⟩
        · intro id hid hlock
          rcases Stmt.exec_locks st id hid with hid | hid
          · exact Config.not_blocked hblock hj htx hid hlock
          · exact h.separate i j _ tx (Ne.symm hj) hi htx hid hlock
        · rcases List.mem_or_eq_of_mem_set htx with htx | rfl
          · exact h.txs tx htx
          · exact ⟨Stmt.exec_covered hok.covered st, c.state, Contract.Rely.refl _ _,
              hwp c.state hrely h.inv hadm⟩
    · cases hs
  | finish i =>
    simp only [Config.step] at hs
    split at hs
    · next l a ss hi =>
      cases hs
      have hadm : C.commit l c.state ss = true := by simpa [Cond.admits, hi] using ha
      have hok := h.txs _ (List.mem_of_getElem? hi)
      obtain ⟨s₀, hrely, hwp⟩ := hok.proof
      have hguar : C.Guar l c.state ss := hwp c.state hrely h.inv hadm
      refine ⟨C.guar_inv h.inv hok.covered hguar, h.separate.eraseIdx i, fun tx htx => ?_⟩
      obtain ⟨j, hj, htx⟩ := List.mem_eraseIdx_iff_getElem?.mp htx
      exact (h.txs tx (List.mem_of_getElem? htx)).rely
        (Contract.Rely.commit h.inv hok.covered hguar
          (h.separate i j _ tx (Ne.symm hj) hi htx))
    · cases hs
      exact ⟨h.inv, h.separate.eraseIdx i,
        fun tx htx => h.txs tx (List.mem_of_mem_eraseIdx htx)⟩
    · cases hs
  | abort i =>
    cases hs
    exact ⟨h.inv, h.separate.eraseIdx i,
      fun tx htx => h.txs tx (List.mem_of_mem_eraseIdx htx)⟩
  | tick d =>
    cases hs
    exact ⟨C.inv_tick d h.inv, h.separate,
      fun tx htx => (h.txs tx htx).rely (Contract.Rely.tick h.inv _ d)⟩

/-- **Soundness.**  Programs that keep the contract keep it under every
    interleaving. -/
theorem Reaches.sound {c c' : Config L T ε α}
    (hprog : ∀ l, C.begin l = true → C.Keeps l (progOf l))
    (hr : Reaches progOf C.toCond c c') (h : c.Ok C) : c'.Ok C := by
  induction hr with
  | refl => exact h
  | tail e _ ha hs ih => exact ih.step hprog ha hs

/-- **Induction over the commits of a run.**  Only ticks and guaranteed commits
    move the committed state. -/
theorem Reaches.state_induction {P : State T → List (Commit L T) → Prop}
    {c c' : Config L T ε α} (hprog : ∀ l, C.begin l = true → C.Keeps l (progOf l))
    (hr : Reaches progOf C.toCond c c') (h : c.Ok C) (h₀ : P c.state c.commits)
    (tick : ∀ s cs d, C.Inv s → P s cs → P (s.tick d) cs)
    (commit : ∀ l s ss cs, C.Inv s → ss.Covered → C.Guar l s ss → P s cs →
      P (s.commit ss) (⟨l, s, ss⟩ :: cs)) : P c'.state c'.commits := by
  induction hr with
  | refl => exact h₀
  | @tail c₁ c₂ e hr ha hs ih =>
    have hok := hr.sound hprog h
    cases e with
    | begin l => cases hs; exact ih
    | exec i =>
      simp only [Config.step] at hs
      split at hs
      · split at hs <;> cases hs
        exact ih
      · cases hs
    | finish i =>
      simp only [Config.step] at hs
      split at hs
      · next l a ss hi =>
        cases hs
        have hadm : C.commit l c₁.state ss = true := by simpa [Cond.admits, hi] using ha
        have htx := hok.txs _ (List.mem_of_getElem? hi)
        obtain ⟨s₀, hrely, hwp⟩ := htx.proof
        exact commit l c₁.state ss c₁.commits hok.inv htx.covered
          (hwp c₁.state hrely hok.inv hadm) ih
      · cases hs; exact ih
      · cases hs
    | abort i => cases hs; exact ih
    | tick d => cases hs; exact tick _ _ d hok.inv ih

/-- A program that satisfies its precondition, run alone, meets its
    postcondition: running alone is one of the interleavings. -/
theorem wp_run {p : Prog T ε α} {Q : Except ε α → State T → Session T → Prop}
    {s : State T} {ss : Session T} (hinv : C.Inv s)
    (hstmt : ∀ st ss', C.stmt st s ss' = true) (h : wp C p Q s ss) :
    Q (p.run s ss).1 s (p.run s ss).2 := by
  induction p generalizing ss with
  | ret a => exact h
  | throw e => exact h
  | step st k ih => exact ih _ (h s (Contract.Rely.refl _ _) hinv (hstmt st ss))

end PyBoard.Relational
