/-
  PyBoard.Relational.Exclusive — runs in which some transactions never overlap.

  A predicate on labels picks the transactions that exclude each other: while one
  of them is live, no other one begins.  With all labels picked these are the
  serial runs.  What such a transaction may rely on is described by a second
  contract `P`, which only the transactions that are not picked have to respect.

  Main results:
    * `Exclusively.reaches` — such a run is one of the interleaved runs.
    * `Exclusively.state_induction` — the induction over the commits of such a run.
-/
import PyBoard.Relational.Rely

namespace PyBoard.Relational

variable {L T : Type} [Schema T] [DecidableEq T] {ε α : Type}

/-! ## §1. Runs. -/

/-- Does the event leave the transactions picked by `focus` apart? -/
def Config.excludes (focus : L → Bool) (c : Config L T ε α) : Event L → Bool
  | .begin l => !focus l || c.txs.all fun tx => !focus tx.label
  | _ => true

variable (progOf : L → Prog T ε α)

/-- Reachable while no two transactions picked by `focus` are live together. -/
inductive Exclusively (C : Cond L T) (focus : L → Bool) :
    Config L T ε α → Config L T ε α → Prop
  | refl (c : Config L T ε α) : Exclusively C focus c c
  | tail {c c₁ c₂ : Config L T ε α} (e : Event L) (h : Exclusively C focus c c₁)
      (ha : C.admits c₁ e = true) (hx : c₁.excludes focus e = true)
      (hs : c₁.step progOf e = some c₂) : Exclusively C focus c c₂

/-- Run a list of events, first to last, as long as such a run does. -/
def Config.stepsExclusively (C : Cond L T) (focus : L → Bool) (c : Config L T ε α) :
    List (Event L) → Option (Config L T ε α)
  | [] => some c
  | e :: es =>
      if C.admits c e && c.excludes focus e then
        (c.step progOf e).bind fun c' => c'.stepsExclusively C focus es
      else none

variable {progOf} {C : Cond L T} {focus : L → Bool} {c₀ c c' : Config L T ε α}

theorem Exclusively.of_steps {es : List (Event L)} (h₀ : Exclusively progOf C focus c₀ c)
    (hs : c.stepsExclusively progOf C focus es = some c') :
    Exclusively progOf C focus c₀ c' := by
  induction es generalizing c with
  | nil =>
    cases hs
    exact h₀
  | cons e es ih =>
    unfold Config.stepsExclusively at hs
    split at hs
    · next hok =>
      obtain ⟨c₁, h₁, h₂⟩ := Option.bind_eq_some_iff.mp hs
      rw [Bool.and_eq_true] at hok
      exact ih (h₀.tail e hok.1 hok.2 h₁) h₂
    · cases hs

/-- A list of events that runs through, with what is observed at its end. -/
theorem Exclusively.exists_of_steps {β : Type} (es : List (Event L)) (f : Config L T ε α → β)
    {b : β} (h : (c.stepsExclusively progOf C focus es).map f = some b) :
    ∃ c', Exclusively progOf C focus c c' ∧ f c' = b := by
  obtain ⟨c', hs, hf⟩ := Option.map_eq_some_iff.mp h
  exact ⟨c', .of_steps (.refl _) hs, hf⟩

/-- **Such a run is one of the interleaved runs.** -/
theorem Exclusively.reaches (h : Exclusively progOf C focus c c') : Reaches progOf C c c' := by
  induction h with
  | refl => exact .refl _
  | tail e _ ha _ hs ih => exact ih.tail e ha hs

/-! ## §2. What the picked transactions keep. -/

/-- What is known when a picked transaction returns: `E` holds from then on. -/
def Outcome (P : Contract L T) (E : L → State T → Session T → Prop) (l : L)
    (r : Except ε α) (s : State T) (ss : Session T) : Prop :=
  match r with
  | .ok _ => ∀ s', P.Rely ss.locks s s' → E l s' ss
  | .error _ => True

/-- The live transactions picked by `focus` are apart, and keep what `P` promises. -/
structure Focused (P : Contract L T) (focus : L → Bool)
    (E : L → State T → Session T → Prop) (c : Config L T ε α) : Prop where
  apart : ∀ (i j : Nat) (tx tx' : Tx L T ε α), i ≠ j → c.txs[i]? = some tx →
    c.txs[j]? = some tx' → focus tx.label = true → focus tx'.label = false
  proof : ∀ tx ∈ c.txs, focus tx.label = true → ∃ s₀, P.Rely tx.session.locks s₀ c.state ∧
    wp P tx.prog (Outcome P E tx.label) s₀ tx.session

variable {P : Contract L T} {E : L → State T → Session T → Prop}

omit [DecidableEq T] in
/-- Removing a transaction keeps an indexed fact about pairs. -/
theorem apart_eraseIdx {txs : List (Tx L T ε α)} (n : Nat)
    (h : ∀ (i j : Nat) (tx tx' : Tx L T ε α), i ≠ j → txs[i]? = some tx → txs[j]? = some tx' →
      focus tx.label = true → focus tx'.label = false) :
    ∀ (i j : Nat) (tx tx' : Tx L T ε α), i ≠ j → (txs.eraseIdx n)[i]? = some tx →
      (txs.eraseIdx n)[j]? = some tx' → focus tx.label = true → focus tx'.label = false := by
  intro i j tx tx' hij hi hj
  rw [List.getElem?_eraseIdx] at hi hj
  have hne : (if i < n then i else i + 1) ≠ (if j < n then j else j + 1) := by
    split <;> split <;> omega
  refine h _ _ tx tx' hne ?_ ?_
  · split <;> simp_all
  · split <;> simp_all

/-- **One event keeps the picked transactions focused.** -/
theorem Focused.step {C : Contract L T} {e : Event L} (hinv : ∀ s, P.Inv s)
    (hstmt : ∀ st s ss, P.stmt st s ss = true)
    (hfocus : ∀ l, C.begin l = true → focus l = true → ∀ s,
      wp P (progOf l) (Outcome P E l) s Session.fresh)
    (hother : ∀ l s ss ids, focus l = false → C.Inv s → ss.Covered → C.Guar l s ss →
      P.Evol ids s (s.commit ss))
    (hguar : ∀ (i : Nat) l (a : α) ss, e = .finish i →
      c.txs[i]? = some (⟨l, .ret a, ss⟩ : Tx L T ε α) → C.Guar l c.state ss)
    (hok : c.Ok C) (h : Focused P focus E c) (ha : C.admits c e = true)
    (hx : c.excludes focus e = true) (hs : c.step progOf e = some c') :
    Focused P focus E c' := by
  cases e with
  | begin l =>
    cases hs
    refine ⟨fun i j tx tx' hij hi hj hf => ?_, fun tx htx hf => ?_⟩
    · -- the new transaction is the last one, and it began while no other one was picked
      have hnew : focus l = true → ∀ tx ∈ c.txs, focus tx.label = false := by
        intro hl tx htx
        simp only [Config.excludes, hl, Bool.not_true, Bool.false_or, List.all_eq_true] at hx
        simpa using hx tx htx
      rw [List.getElem?_append] at hi hj
      split at hi
      · split at hj
        · exact h.apart i j tx tx' hij hi hj hf
        · rw [List.getElem?_singleton] at hj
          split at hj
          · cases hj
            by_contra hl
            rw [hnew (by simpa using hl) tx (List.mem_of_getElem? hi)] at hf
            cases hf
          · cases hj
      · rw [List.getElem?_singleton] at hi
        split at hi
        · cases hi
          split at hj
          · exact hnew hf tx' (List.mem_of_getElem? hj)
          · rw [List.getElem?_singleton] at hj
            split at hj
            · omega
            · cases hj
        · cases hi
    · rcases List.mem_append.mp htx with htx | htx
      · exact h.proof tx htx hf
      · rw [List.mem_singleton.mp htx] at hf ⊢
        exact ⟨c.state, Contract.Rely.refl _ _, hfocus l ha hf c.state⟩
  | exec i =>
    simp only [Config.step] at hs
    split at hs
    · next l st k ss hi =>
      split at hs
      · cases hs
      · cases hs
        have hlabel : ∀ (j : Nat) (tx : Tx L T ε α),
            (c.txs.set i ⟨l, k (st.exec c.state ss).1, (st.exec c.state ss).2⟩)[j]? = some tx →
            ∃ tx₀, c.txs[j]? = some tx₀ ∧ tx₀.label = tx.label := by
          intro j tx hj
          rw [List.getElem?_set] at hj
          split at hj
          · next hij =>
            split at hj
            · cases hj
              exact ⟨⟨l, .step st k, ss⟩, by rw [← hij]; exact hi, rfl⟩
            · cases hj
          · exact ⟨tx, hj, rfl⟩
        refine ⟨fun j j' tx tx' hjj hj hj' hf => ?_, fun tx htx hf => ?_⟩
        · obtain ⟨tx₀, hj₀, hl₀⟩ := hlabel j tx hj
          obtain ⟨tx₁, hj₁, hl₁⟩ := hlabel j' tx' hj'
          rw [← hl₁]
          exact h.apart j j' tx₀ tx₁ hjj hj₀ hj₁ (hl₀ ▸ hf)
        · rcases List.mem_or_eq_of_mem_set htx with htx | rfl
          · exact h.proof tx htx hf
          · obtain ⟨s₀, hrely, hwp⟩ := h.proof _ (List.mem_of_getElem? hi) hf
            exact ⟨c.state, Contract.Rely.refl _ _,
              hwp c.state hrely (hinv _) (hstmt _ _ _)⟩
    · cases hs
  | finish i =>
    simp only [Config.step] at hs
    split at hs
    · next l a ss hi =>
      cases hs
      refine ⟨apart_eraseIdx i h.apart, fun tx htx hf => ?_⟩
      obtain ⟨j, hj, htx⟩ := List.mem_eraseIdx_iff_getElem?.mp htx
      have hl : focus l = false := h.apart j i tx _ hj htx hi hf
      have htx₀ := hok.txs _ (List.mem_of_getElem? hi)
      obtain ⟨s₀, hrely, hwp⟩ := h.proof tx (List.mem_of_getElem? htx) hf
      refine ⟨s₀, hrely.trans ⟨?_, le_refl _, ?_⟩, hwp⟩
      · exact Frame.commit htx₀.covered (hok.separate i j _ tx (Ne.symm hj) hi htx)
      · exact hother l _ _ _ hl hok.inv htx₀.covered (hguar i l a ss rfl hi)
    · cases hs
      exact ⟨apart_eraseIdx i h.apart,
        fun tx htx hf => h.proof tx (List.mem_of_mem_eraseIdx htx) hf⟩
    · cases hs
  | abort i =>
    cases hs
    exact ⟨apart_eraseIdx i h.apart,
      fun tx htx hf => h.proof tx (List.mem_of_mem_eraseIdx htx) hf⟩
  | tick d =>
    cases hs
    refine ⟨h.apart, fun tx htx hf => ?_⟩
    obtain ⟨s₀, hrely, hwp⟩ := h.proof tx htx hf
    exact ⟨s₀, hrely.trans (Contract.Rely.tick (hinv _) _ d), hwp⟩

/-! ## §3. Induction over the commits. -/

/-- **Induction over the commits of an exclusive run.**  Each commit guarantees the
    contract `C`; one that is picked by `focus` also satisfies `E`. -/
theorem Exclusively.state_induction {C : Contract L T}
    {I : State T → List (Commit L T) → Prop}
    (hprog : ∀ l, C.begin l = true → C.Keeps l (progOf l)) (hinv : ∀ s, P.Inv s)
    (hstmt : ∀ st s ss, P.stmt st s ss = true)
    (hfocus : ∀ l, C.begin l = true → focus l = true → ∀ s,
      wp P (progOf l) (Outcome P E l) s Session.fresh)
    (hother : ∀ l s ss ids, focus l = false → C.Inv s → ss.Covered → C.Guar l s ss →
      P.Evol ids s (s.commit ss))
    (hr : Exclusively progOf C.toCond focus c c') (h : c.Ok C) (h₀ : c.txs = [])
    (hI : I c.state c.commits) (tick : ∀ s cs d, C.Inv s → I s cs → I (s.tick d) cs)
    (commit : ∀ l s ss cs, C.begin l = true → C.commit l s ss = true → C.Inv s → ss.Covered →
      C.Guar l s ss → (focus l = true → E l s ss) → I s cs →
      I (s.commit ss) (⟨l, s, ss⟩ :: cs)) :
    I c'.state c'.commits := by
  -- along the run the live transactions were admitted, and the picked ones stay focused
  suffices hall : I c'.state c'.commits ∧ Focused P focus E c' ∧
      ∀ tx ∈ c'.txs, C.begin tx.label = true from hall.1
  induction hr with
  | refl =>
    refine ⟨hI, ⟨?_, ?_⟩, ?_⟩
    · intro i j tx tx' _ hi
      simp [h₀] at hi
    · intro tx htx
      simp [h₀] at htx
    · intro tx htx
      simp [h₀] at htx
  | @tail c₁ c₂ e hrun ha hx hs ih =>
    obtain ⟨hI₁, hfoc, hbegan⟩ := ih
    have hok := hrun.reaches.sound hprog h
    have hadm : ∀ (i : Nat) l (a : α) ss, e = .finish i →
        c₁.txs[i]? = some (⟨l, .ret a, ss⟩ : Tx L T ε α) → C.commit l c₁.state ss = true := by
      rintro i l a ss rfl hi
      simpa [Cond.admits, hi] using ha
    have hguar : ∀ (i : Nat) l (a : α) ss, e = .finish i →
        c₁.txs[i]? = some (⟨l, .ret a, ss⟩ : Tx L T ε α) → C.Guar l c₁.state ss := by
      intro i l a ss he hi
      obtain ⟨s₀, hrely, hwp⟩ := (hok.txs _ (List.mem_of_getElem? hi)).proof
      exact hwp c₁.state hrely hok.inv (hadm i l a ss he hi)
    refine ⟨?_, hfoc.step hinv hstmt hfocus hother hguar hok ha hx hs, ?_⟩
    · cases e with
      | begin l => cases hs; exact hI₁
      | exec i =>
        simp only [Config.step] at hs
        split at hs
        · split at hs <;> cases hs
          exact hI₁
        · cases hs
      | finish i =>
        simp only [Config.step] at hs
        split at hs
        · next l a ss hi =>
          cases hs
          have hmem := List.mem_of_getElem? hi
          refine commit l c₁.state ss c₁.commits (hbegan _ hmem) (hadm i l a ss rfl hi) hok.inv
            (hok.txs _ hmem).covered (hguar i l a ss rfl hi) (fun hf => ?_) hI₁
          obtain ⟨s₀, hrely, hwp⟩ := hfoc.proof _ hmem hf
          exact hwp c₁.state hrely
        · cases hs; exact hI₁
        · cases hs
      | abort i => cases hs; exact hI₁
      | tick d => cases hs; exact tick _ _ d hok.inv hI₁
    · cases e with
      | begin l =>
        cases hs
        intro tx htx
        rcases List.mem_append.mp htx with htx | htx
        · exact hbegan tx htx
        · rw [List.mem_singleton.mp htx]
          exact ha
      | exec i =>
        simp only [Config.step] at hs
        split at hs
        · next l st k ss hi =>
          split at hs <;> cases hs
          intro tx htx
          rcases List.mem_or_eq_of_mem_set htx with htx | rfl
          · exact hbegan tx htx
          · exact hbegan ⟨l, .step st k, ss⟩ (List.mem_of_getElem? hi)
        · cases hs
      | finish i =>
        simp only [Config.step] at hs
        split at hs
        · cases hs
          exact fun tx htx => hbegan tx (List.mem_of_mem_eraseIdx htx)
        · cases hs
          exact fun tx htx => hbegan tx (List.mem_of_mem_eraseIdx htx)
        · cases hs
      | abort i =>
        cases hs
        exact fun tx htx => hbegan tx (List.mem_of_mem_eraseIdx htx)
      | tick d => cases hs; exact hbegan

/-! ## §4. Serial runs. -/

/-- Reachable by transactions that run one after the other. -/
abbrev Serially (progOf : L → Prog T ε α) (C : Cond L T) :
    Config L T ε α → Config L T ε α → Prop :=
  Exclusively progOf C fun _ => true

/-- What a transaction that runs alone may rely on: only the time moves. -/
def Contract.solo : Contract L T where
  toCond := Cond.any
  Inv _ := True
  Evol _ s s' := s'.db = s.db
  Guar _ s ss := s.view ss = s.db
  evol_refl _ _ := rfl
  evol_trans h₁ h₂ := h₂.trans h₁
  evol_mono _ h := h
  inv_tick _ h := h
  evol_tick _ _ _ := rfl
  guar_inv _ _ _ := trivial
  guar_evol _ _ h _ := h

/-- A transaction that runs alone sees one database. -/
theorem Contract.Rely.solo_db {ids : List (RowId T)} {s s' : State T}
    (h : (Contract.solo : Contract L T).Rely ids s s') : s'.db = s.db := h.evol

/-- The same, from the time `t` on. -/
def Contract.soloFrom (t : Int) : Contract L T where
  toCond := Cond.any
  Inv s := t ≤ s.now
  Evol _ s s' := s'.db = s.db
  Guar _ s ss := s.view ss = s.db
  evol_refl _ _ := rfl
  evol_trans h₁ h₂ := h₂.trans h₁
  evol_mono _ h := h
  inv_tick d h := by
    rw [State.tick_now]
    omega
  evol_tick _ _ _ := rfl
  guar_inv h _ _ := h
  guar_evol _ _ h _ := h

theorem Contract.Rely.soloFrom_db {t : Int} {ids : List (RowId T)} {s s' : State T}
    (h : (Contract.soloFrom t : Contract L T).Rely ids s s') : s'.db = s.db := h.evol

/-- The contract that promises nothing. -/
def Contract.free (C : Cond L T) : Contract L T where
  toCond := C
  Inv _ := True
  Evol _ _ _ := True
  Guar _ _ _ := True
  evol_refl _ _ := trivial
  evol_trans _ _ := trivial
  evol_mono _ _ := trivial
  inv_tick _ h := h
  evol_tick _ _ _ := trivial
  guar_inv _ _ _ := trivial
  guar_evol _ _ _ _ := trivial

/-- **Induction over the commits of a serial run**, each of which satisfies `E`. -/
theorem Serially.state_induction {C : Cond L T} {I : State T → List (Commit L T) → Prop}
    {s₀ : State T} (hsolo : ∀ l, C.begin l = true → ∀ s,
      wp (Contract.solo : Contract L T) (progOf l) (Outcome Contract.solo E l) s Session.fresh)
    (hr : Serially progOf C (Config.quiet s₀) c') (hI : I s₀ [])
    (tick : ∀ s cs d, I s cs → I (s.tick d) cs)
    (commit : ∀ l s ss cs, C.begin l = true → C.commit l s ss = true → ss.Covered → E l s ss →
      I s cs → I (s.commit ss) (⟨l, s, ss⟩ :: cs)) : I c'.state c'.commits := by
  refine Exclusively.state_induction (C := Contract.free C) (P := Contract.solo) (E := E)
    (fun l _ s _ => ?_) (fun _ => trivial) (fun _ _ _ => rfl) (fun l hl _ s => hsolo l hl s)
    (fun l s ss ids hl => by cases hl) hr (.quiet trivial) rfl hI
    (fun s cs d _ => tick s cs d)
    fun l s ss cs hl hadm _ hc _ hE => commit l s ss cs hl hadm hc (hE rfl)
  refine wp_of_forall (fun r s' ss' => ?_) s Session.fresh
  cases r with
  | ok a => exact fun _ _ _ _ => trivial
  | error e => trivial

end PyBoard.Relational
