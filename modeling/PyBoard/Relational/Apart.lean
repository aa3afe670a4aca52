/-
  PyBoard.Relational.Apart — runs in which clashing transactions do not overlap.

  A relation on labels says which transactions clash: while one is live, no
  transaction that clashes with it begins.  Every transaction has contracts of its
  own, which only the transactions that may overlap with it have to respect, and a
  postcondition for its answer and for its failure.  The run records how each
  transaction ended, and a contract may be one that holds until a certain ending: a
  view that such an ending closes for good.

  Main result: `Apart.induction`, the induction over the ends of the transactions.
-/
import PyBoard.Relational.Rely

namespace PyBoard.Relational

variable {L T : Type} [Schema T] [DecidableEq T] {ε α : Type}

/-! ## §1. Runs. -/

/-- How a transaction ended: with an answer and a COMMIT, or with an error. -/
structure Ending (L T : Type) [Schema T] (ε α : Type) where
  label : L
  result : Except ε α
  before : State T
  session : Session T

/-- The transaction that an event ends. -/
def Config.ending (c : Config L T ε α) : Event L → Option (Ending L T ε α)
  | .finish i =>
      match c.txs[i]? with
      | some ⟨l, .ret a, ss⟩ => some ⟨l, .ok a, c.state, ss⟩
      | some ⟨l, .throw e, ss⟩ => some ⟨l, .error e, c.state, ss⟩
      | _ => none
  | _ => none

/-- Does the event leave clashing transactions apart? -/
def Config.parts (clash : L → L → Bool) (c : Config L T ε α) : Event L → Bool
  | .begin l => c.txs.all fun tx => !clash tx.label l
  | _ => true

variable (progOf : L → Prog T ε α)

/-- Reachable while clashing transactions do not overlap; the endings are the newest first. -/
inductive Apart (C : Cond L T) (clash : L → L → Bool) (c₀ : Config L T ε α) :
    List (Ending L T ε α) → Config L T ε α → Prop
  | refl : Apart C clash c₀ [] c₀
  | tail {log : List (Ending L T ε α)} {c c' : Config L T ε α} (e : Event L)
      (h : Apart C clash c₀ log c) (ha : C.admits c e = true) (hx : c.parts clash e = true)
      (hs : c.step progOf e = some c') : Apart C clash c₀ ((c.ending e).toList ++ log) c'

/-- Run a list of events, first to last, as long as such a run does. -/
def Config.stepsApart (C : Cond L T) (clash : L → L → Bool) (c : Config L T ε α)
    (log : List (Ending L T ε α)) : List (Event L) →
      Option (List (Ending L T ε α) × Config L T ε α)
  | [] => some (log, c)
  | e :: es =>
      if C.admits c e && c.parts clash e then
        (c.step progOf e).bind fun c' => c'.stepsApart C clash ((c.ending e).toList ++ log) es
      else none

variable {progOf} {C : Cond L T} {clash : L → L → Bool} {c₀ c c' : Config L T ε α}
  {log log' : List (Ending L T ε α)}

theorem Apart.of_steps {es : List (Event L)} (h₀ : Apart progOf C clash c₀ log c)
    (hs : c.stepsApart progOf C clash log es = some (log', c')) :
    Apart progOf C clash c₀ log' c' := by
  induction es generalizing c log with
  | nil =>
    cases hs
    exact h₀
  | cons e es ih =>
    unfold Config.stepsApart at hs
    split at hs
    · next hok =>
      obtain ⟨c₁, h₁, h₂⟩ := Option.bind_eq_some_iff.mp hs
      rw [Bool.and_eq_true] at hok
      exact ih (h₀.tail e hok.1 hok.2 h₁) h₂
    · cases hs

/-- A list of events that runs through, with what is observed at its end. -/
theorem Apart.exists_of_steps {β : Type} (progOf : L → Prog T ε α) (C : Cond L T)
    (clash : L → L → Bool) (c : Config L T ε α) (es : List (Event L))
    (f : List (Ending L T ε α) → Config L T ε α → β) {b : β}
    (h : (c.stepsApart progOf C clash [] es).map (fun r => f r.1 r.2) = some b) :
    ∃ log c', Apart progOf C clash c log c' ∧ f log c' = b := by
  obtain ⟨⟨log, c'⟩, hs, hf⟩ := Option.map_eq_some_iff.mp h
  exact ⟨log, c', .of_steps .refl hs, hf⟩

/-- **Such a run is one of the interleaved runs.** -/
theorem Apart.reaches (h : Apart progOf C clash c log c') : Reaches progOf C c c' := by
  induction h with
  | refl => exact .refl _
  | tail e _ ha _ hs ih => exact ih.tail e ha hs

/-- A run of transactions that never clash is any run. -/
theorem Reaches.apart (h : Reaches progOf C c c') :
    ∃ log, Apart progOf C (fun _ _ => false) c log c' := by
  induction h with
  | refl => exact ⟨[], .refl⟩
  | @tail c₁ c₂ e _ ha hs ih =>
    obtain ⟨log, h⟩ := ih
    refine ⟨_, h.tail e ha ?_ hs⟩
    cases e with
    | begin l => exact List.all_eq_true.mpr fun _ _ => rfl
    | _ => rfl

/-! ## §2. Contracts without guarantees. -/

/-- What a transaction may rely on, whatever locks it holds. -/
def Contract.relying (C : Cond L T) (Inv : State T → Prop) (R : State T → State T → Prop)
    (refl : ∀ s, R s s) (trans : ∀ {s₁ s₂ s₃}, R s₁ s₂ → R s₂ s₃ → R s₁ s₃)
    (inv_tick : ∀ {s} d, Inv s → Inv (s.tick d)) (tick : ∀ s d, R s (s.tick d)) :
    Contract L T where
  toCond := C
  Inv := Inv
  Evol _ := R
  Guar _ _ _ := False
  evol_refl _ := refl
  evol_trans := trans
  evol_mono _ h := h
  inv_tick := inv_tick
  evol_tick _ d _ := tick _ d
  guar_inv _ _ h := h.elim
  guar_evol _ _ h := h.elim

/-! ## §3. Induction over the endings. -/

variable {V : Type} {P : L → V → Contract L T}
  {E : L → V → Except ε α → State T → Session T → Prop}
  {K : L → V → List (Ending L T ε α) → Prop}

/-- What is known of a transaction that has run through, until it ends. -/
def Ends (P : Contract L T) (E : Except ε α → State T → Session T → Prop) (r : Except ε α)
    (s : State T) (ss : Session T) : Prop :=
  ∀ s', P.Rely ss.locks s s' → P.Inv s' → E r s' ss

/-- A live transaction that is on its way to its postcondition under a contract. -/
def Tx.On (P : L → V → Contract L T) (E : L → V → Except ε α → State T → Session T → Prop)
    (v : V) (s : State T) (tx : Tx L T ε α) : Prop :=
  ∃ s₀, (P tx.label v).Rely tx.session.locks s₀ s ∧
    wp (P tx.label v) tx.prog (Ends (P tx.label v) (E tx.label v)) s₀ tx.session

/-- A live transaction that is on its way under every view that is still open. -/
structure Tx.Underway (P : L → V → Contract L T)
    (E : L → V → Except ε α → State T → Session T → Prop)
    (K : L → V → List (Ending L T ε α) → Prop) (C : Cond L T) (s : State T)
    (log : List (Ending L T ε α)) (tx : Tx L T ε α) : Prop where
  began : C.begin tx.label = true
  covered : tx.session.Covered
  views : ∀ v, K tx.label v log → tx.On P E v s

theorem Tx.On.rely {v : V} {s s' : State T} {tx : Tx L T ε α} (h : tx.On P E v s)
    (hr : (P tx.label v).Rely tx.session.locks s s') : tx.On P E v s' := by
  obtain ⟨s₀, h₀, hwp⟩ := h
  exact ⟨s₀, h₀.trans hr, hwp⟩

/-- A transaction that has run through meets the postconditions of its open views. -/
theorem Tx.Underway.ends {s : State T} {tx : Tx L T ε α} {r : Except ε α}
    (h : tx.Underway P E K C s log)
    (hprog : ∀ v Q s₀, wp (P tx.label v) tx.prog Q s₀ tx.session ↔ Q r s₀ tx.session)
    (hinv : ∀ v, K tx.label v log → (P tx.label v).Inv s) :
    ∀ v, K tx.label v log → E tx.label v r s tx.session := by
  intro v hv
  obtain ⟨s₀, hrely, hwp⟩ := h.views v hv
  exact (hprog v _ _).mp hwp s hrely (hinv v hv)

/-- The invariant of the live transactions. -/
structure Config.Apart (P : L → V → Contract L T)
    (E : L → V → Except ε α → State T → Session T → Prop)
    (K : L → V → List (Ending L T ε α) → Prop) (C : Cond L T) (clash : L → L → Bool)
    (log : List (Ending L T ε α)) (c : Config L T ε α) : Prop where
  separate : Separate c.txs
  apart : c.txs.Pairwise fun tx tx' => clash tx.label tx'.label = false
  txs : ∀ tx ∈ c.txs, tx.Underway P E K C c.state log

/-- Two live transactions do not clash. -/
theorem Config.Apart.not_clash (h : c.Apart P E K C clash log)
    (hsymm : ∀ l l', clash l l' = clash l' l) {i j : Nat} {tx tx' : Tx L T ε α} (hij : i ≠ j)
    (hi : c.txs[i]? = some tx) (hj : c.txs[j]? = some tx') :
    clash tx.label tx'.label = false := by
  obtain ⟨hi', rfl⟩ := List.getElem?_eq_some_iff.mp hi
  obtain ⟨hj', rfl⟩ := List.getElem?_eq_some_iff.mp hj
  rcases Nat.lt_or_gt_of_ne hij with hlt | hgt
  · exact List.pairwise_iff_getElem.mp h.apart i j hi' hj' hlt
  · rw [hsymm]
    exact List.pairwise_iff_getElem.mp h.apart j i hj' hi' hgt

/-- **A transaction begins.** -/
theorem Config.Apart.begin (h : c.Apart P E K C clash log) {l : L} {p : Prog T ε α}
    (hl : C.begin l = true) (hx : c.txs.all (fun tx => !clash tx.label l) = true)
    (hp : ∀ v, K l v log → wp (P l v) p (Ends (P l v) (E l v)) c.state Session.fresh) :
    Config.Apart P E K C clash log { c with txs := c.txs ++ [⟨l, p, Session.fresh⟩] } := by
  refine ⟨h.separate.append l p, ?_, ?_⟩
  · refine List.pairwise_append.mpr ⟨h.apart, List.pairwise_singleton _ _, ?_⟩
    intro tx htx tx' htx'
    rw [List.mem_singleton.mp htx']
    simpa using List.all_eq_true.mp hx tx htx
  · intro tx htx
    rcases List.mem_append.mp htx with htx | htx
    · exact h.txs tx htx
    · rw [List.mem_singleton.mp htx]
      exact ⟨hl, (fun w hw => by cases hw),
        fun v hv => ⟨c.state, Contract.Rely.refl _ _, hp v hv⟩⟩

/-- **A statement runs.** -/
theorem Config.Apart.exec (h : c.Apart P E K C clash log) {i : Nat} {l : L} {st : Stmt T}
    {k : st.Resp → Prog T ε α} {ss : Session T} (hi : c.txs[i]? = some ⟨l, .step st k, ss⟩)
    (hblock : ¬ c.blocked i ss st = true) (hinv : ∀ v, K l v log → (P l v).Inv c.state)
    (hstmt : ∀ v, (P l v).stmt st c.state ss = true) :
    Config.Apart P E K C clash log
      { c with txs := c.txs.set i ⟨l, k (st.exec c.state ss).1, (st.exec c.state ss).2⟩ } := by
  have htx := h.txs _ (List.mem_of_getElem? hi)
  refine ⟨h.separate.set fun j tx hj htx' => ?_, ?_, ?_⟩
  · intro id hid hlock
    rcases Stmt.exec_locks st id hid with hid | hid
    · exact Config.not_blocked hblock hj htx' hid hlock
    · exact h.separate i j _ tx (Ne.symm hj) hi htx' hid hlock
  · -- the labels stay
    have hlabels : (c.txs.set i ⟨l, k (st.exec c.state ss).1, (st.exec c.state ss).2⟩).map
        Tx.label = c.txs.map Tx.label := by
      obtain ⟨hlt, hget⟩ := List.getElem?_eq_some_iff.mp hi
      have hlt' : i < (c.txs.map Tx.label).length := by simpa using hlt
      have hself : (c.txs.map Tx.label).set i (c.txs.map Tx.label)[i] = c.txs.map Tx.label :=
        List.set_getElem_self hlt'
      rw [List.getElem_map, hget] at hself
      rw [List.map_set]
      exact hself
    have hpair := h.apart
    rw [← List.pairwise_map (f := Tx.label) (R := fun l l' => clash l l' = false)] at hpair ⊢
    rwa [hlabels]
  · intro tx hmem
    rcases List.mem_or_eq_of_mem_set hmem with hmem | rfl
    · exact h.txs tx hmem
    · refine ⟨htx.began, Stmt.exec_covered htx.covered st, fun v hv => ?_⟩
      obtain ⟨s₀, hrely, hwp⟩ := htx.views v hv
      exact ⟨c.state, Contract.Rely.refl _ _, hwp c.state hrely (hinv v hv) (hstmt v)⟩

/-- **A transaction ends** and leaves the state `s`. -/
theorem Config.Apart.erase (h : c.Apart P E K C clash log) (i : Nat) (s : State T)
    (commits : List (Commit L T))
    (hk : ∀ j tx, j ≠ i → c.txs[j]? = some tx → ∀ v, K tx.label v log' → K tx.label v log)
    (hr : ∀ j tx, j ≠ i → c.txs[j]? = some tx → ∀ v, K tx.label v log' →
      (P tx.label v).Rely tx.session.locks c.state s) :
    Config.Apart P E K C clash log' ⟨s, c.txs.eraseIdx i, commits⟩ := by
  refine ⟨h.separate.eraseIdx i, h.apart.sublist (List.eraseIdx_sublist _ _), ?_⟩
  intro tx htx
  obtain ⟨j, hj, htx⟩ := List.mem_eraseIdx_iff_getElem?.mp htx
  have hu := h.txs tx (List.mem_of_getElem? htx)
  exact ⟨hu.began, hu.covered, fun v hv =>
    (hu.views v (hk j tx hj htx v hv)).rely (hr j tx hj htx v hv)⟩

/-- **Induction over the endings of a run.**  Each transaction ends with the postconditions
    `E` of the views that are still open; what the commit of one does to the state is within
    the contracts of every other one that may overlap with it. -/
theorem Apart.induction {I : State T → List (Ending L T ε α) → Prop}
    (hsymm : ∀ l l', clash l l' = clash l' l) (hcond : ∀ l v, (P l v).toCond = C)
    (hinv : ∀ s log l v, I s log → K l v log → (P l v).Inv s)
    (hprog : ∀ l v, C.begin l = true → ∀ s, (P l v).Inv s →
      wp (P l v) (progOf l) (Ends (P l v) (E l v)) s Session.fresh)
    (hopen : ∀ l l' v r s ss log, clash l l' = false → K l' v (⟨l, r, s, ss⟩ :: log) →
      K l' v log)
    (hevol : ∀ l l' v a s ss log ids, clash l l' = false → I s log →
      K l' v (⟨l, .ok a, s, ss⟩ :: log) → ss.Covered → (∀ w, K l w log → E l w (.ok a) s ss) →
      (P l' v).Evol ids s (s.commit ss))
    (tick : ∀ s log d, I s log → I (s.tick d) log)
    (commit : ∀ l a s ss log, C.begin l = true → C.commit l s ss = true → ss.Covered →
      (∀ v, K l v log → E l v (.ok a) s ss) → I s log →
      I (s.commit ss) (⟨l, .ok a, s, ss⟩ :: log))
    (fail : ∀ l e s ss log, C.begin l = true → (∀ v, K l v log → E l v (.error e) s ss) →
      I s log → I s (⟨l, .error e, s, ss⟩ :: log))
    (hr : Apart progOf C clash c₀ log c) (h₀ : c₀.txs = []) (hI : I c₀.state []) :
    I c.state log ∧ c.Apart P E K C clash log := by
  induction hr with
  | refl =>
    refine ⟨hI, ?_, ?_, ?_⟩
    · intro i j tx tx' _ hi
      simp [h₀] at hi
    · rw [h₀]
      exact List.Pairwise.nil
    · intro tx htx
      simp [h₀] at htx
  | @tail log c c' e h ha hx hs ih =>
    obtain ⟨hI, hc⟩ := ih
    cases e with
    | begin l =>
      cases hs
      exact ⟨hI, hc.begin ha hx fun v hv => hprog l v ha c.state (hinv _ _ l v hI hv)⟩
    | exec i =>
      simp only [Config.step] at hs
      split at hs
      · next l st k ss hi =>
        split at hs
        · cases hs
        · next hblock =>
          cases hs
          have hstmt : ∀ v, (P l v).stmt st c.state ss = true := by
            intro v
            have hadm : C.stmt st c.state ss = true := by simpa [Cond.admits, hi] using ha
            rw [← hcond l v] at hadm
            exact hadm
          exact ⟨hI, hc.exec hi hblock (fun v hv => hinv _ _ l v hI hv) hstmt⟩
      · cases hs
    | finish i =>
      simp only [Config.step] at hs
      split at hs
      · next l a ss hi =>
        cases hs
        have htx := hc.txs _ (List.mem_of_getElem? hi)
        have hE : ∀ v, K l v log → E l v (.ok a) c.state ss :=
          htx.ends (fun _ _ _ => Iff.rfl) fun v hv => hinv _ _ l v hI hv
        have hadm : C.commit l c.state ss = true := by simpa [Cond.admits, hi] using ha
        have hend : c.ending (.finish i) = some ⟨l, .ok a, c.state, ss⟩ := by
          simp [Config.ending, hi]
        rw [hend]
        refine ⟨commit l a _ _ _ htx.began hadm htx.covered hE hI, hc.erase i _ _ ?_ ?_⟩
        · intro j tx hj htx' v hv
          exact hopen l _ v _ _ _ _ (hc.not_clash hsymm (Ne.symm hj) hi htx') hv
        · intro j tx hj htx' v hv
          exact ⟨Frame.commit htx.covered (hc.separate i j _ tx (Ne.symm hj) hi htx'), le_refl _,
            hevol l tx.label v a _ _ _ _ (hc.not_clash hsymm (Ne.symm hj) hi htx') hI hv
              htx.covered hE⟩
      · next l er ss hi =>
        cases hs
        have htx := hc.txs _ (List.mem_of_getElem? hi)
        have hE : ∀ v, K l v log → E l v (.error er) c.state ss :=
          htx.ends (fun _ _ _ => Iff.rfl) fun v hv => hinv _ _ l v hI hv
        have hend : c.ending (.finish i) = some ⟨l, .error er, c.state, ss⟩ := by
          simp [Config.ending, hi]
        rw [hend]
        refine ⟨fail l er _ _ _ htx.began hE hI, hc.erase i _ _ ?_ ?_⟩
        · intro j tx hj htx' v hv
          exact hopen l _ v _ _ _ _ (hc.not_clash hsymm (Ne.symm hj) hi htx') hv
        · intro _ _ _ _ _ _
          exact Contract.Rely.refl _ _
      · cases hs
    | abort i =>
      cases hs
      exact ⟨hI, hc.erase i _ _ (fun _ _ _ _ _ hv => hv) fun _ _ _ _ _ _ => Contract.Rely.refl _ _⟩
    | tick d =>
      cases hs
      refine ⟨tick _ _ d hI, hc.separate, hc.apart, fun tx htx => ?_⟩
      have hu := hc.txs tx htx
      exact ⟨hu.began, hu.covered, fun v hv =>
        (hu.views v hv).rely (Contract.Rely.tick (hinv _ _ tx.label v hI hv) _ d)⟩

end PyBoard.Relational
