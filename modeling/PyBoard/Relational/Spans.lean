/-
  PyBoard.Relational.Spans — what a transaction has read between its begin and its commit.

  A contract says what a transaction may rely on, but not which states of a run it has
  seen.  `meeting R` is the contract of the set `R` of databases and nothing else.  Whatever
  a program satisfies under `meeting R` holds of every commit of a run, with `R` the
  databases between the begin and the commit of that transaction.

  A run may also be one whose transactions begin only in states that a relation `B` allows
  (`ReachesWhen B`).  The spans are the same for both kinds of runs, so they are stated of a
  relation `Run` between configurations.

  Main results:
    * `Reaches.spanned`, `ReachesWhen.spanned` — the transactions of a run and their spans.
-/
import PyBoard.Relational.Rely

namespace PyBoard.Relational

open Schema

variable {L T : Type} [Schema T] [DecidableEq T] {ε α : Type}

/-! ## §1. The contract of the databases met. -/

/-- Nothing is known of a state but that its database is in `R`; what has been read
    earlier was then in `R`, too. -/
def meeting (R : DB T → Prop) : Contract L T where
  toCond := Cond.any
  Inv s := R s.db
  Evol _ s s' := R s'.db → R s.db
  Guar _ s ss := R (s.commit ss).db
  evol_refl _ _ h := h
  evol_trans h₁ h₂ h := h₁ (h₂ h)
  evol_mono _ h := h
  inv_tick _ h := h
  evol_tick _ _ _ h := h
  guar_inv _ _ h := h
  guar_evol h _ _ _ _ := h

theorem meeting_rely {R : DB T → Prop} {ids : List (RowId T)} {s s' : State T}
    (h : (meeting R : Contract L T).Rely ids s s') (hi : R s'.db) : R s.db := h.evol hi

/-- The labels of the transactions do not matter. -/
theorem wp_meeting_label {L' : Type} {R : DB T → Prop} {p : Prog T ε α}
    {Q : Except ε α → State T → Session T → Prop} {s : State T} {ss : Session T}
    (h : wp (meeting R : Contract L T) p Q s ss) : wp (meeting R : Contract L' T) p Q s ss := by
  induction p generalizing s ss with
  | ret a => exact h
  | throw e => exact h
  | step st k ih =>
    exact fun s' hr hi hst => ih _ (h s' ⟨hr.frame, hr.now, hr.evol⟩ hi hst)

/-! ## §2. Spans. -/

/-- `c'` is reached from `c` by transactions each of which begins in a state that `B` allows. -/
inductive ReachesWhen (progOf : L → Prog T ε α) (B : L → State T → Prop) :
    Config L T ε α → Config L T ε α → Prop
  | refl (c : Config L T ε α) : ReachesWhen progOf B c c
  | tail {c c₁ c₂ : Config L T ε α} (e : Event L) (h : ReachesWhen progOf B c c₁)
      (hb : ∀ l, e = .begin l → B l c₁.state) (hs : c₁.step progOf e = some c₂) :
      ReachesWhen progOf B c c₂

/-- The transaction that an event begins. -/
def Event.begins : Event L → Option L
  | .begin l => some l
  | _ => none

section

variable (progOf : L → Prog T ε α) (Run : Config L T ε α → Config L T ε α → Prop)
  (B : L → State T → Prop)

/-- The databases of the runs from one configuration to another. -/
def Amid (c₁ c₂ : Config L T ε α) (D : DB T) : Prop :=
  ∃ c, Run c₁ c ∧ Run c c₂ ∧ c.state.db = D

/-- The databases from one configuration of a run to another. -/
abbrev Between (K : Cond L T) : Config L T ε α → Config L T ε α → DB T → Prop :=
  Amid (Reaches progOf K)

/-- A live transaction that began in `c₁`. -/
structure Tx.Span (start c₁ c : Config L T ε α) (tx : Tx L T ε α) : Prop where
  began : ∃ c₀, Run start c₀ ∧ c₀.step progOf (.begin tx.label) = some c₁
  allowed : B tx.label c₁.state
  since : Run c₁ c
  proof : ∀ (R : DB T → Prop) Q, (∀ D, Amid Run c₁ c D → R D) →
    wp (meeting R : Contract L T) (progOf tx.label) Q c₁.state Session.fresh →
    ∃ s, (meeting R : Contract L T).Rely tx.session.locks s c.state ∧
      wp (meeting R : Contract L T) tx.prog Q s tx.session

/-- A transaction that began in `c₁` and committed in `c₂`. -/
structure Commit.Span (start c₁ c₂ : Config L T ε α) (cm : Commit L T) : Prop where
  began : ∃ c₀, Run start c₀ ∧ c₀.step progOf (.begin cm.label) = some c₁
  allowed : B cm.label c₁.state
  since : Run c₁ c₂
  met : Amid Run c₁ c₂ c₁.state.db
  state : c₂.state = cm.before
  proof : ∀ (R : DB T → Prop) Q, (∀ D, Amid Run c₁ c₂ D → R D) →
    wp (meeting R : Contract L T) (progOf cm.label) Q c₁.state Session.fresh →
    ∃ a s, (meeting R : Contract L T).Rely cm.session.locks s cm.before ∧
      Q (.ok a) s cm.session

/-- What is known of a configuration: the spans of its transactions and its commits. -/
structure Config.Spanned (c start : Config L T ε α) : Prop where
  txs : ∀ tx ∈ c.txs, ∃ c₁, tx.Span progOf Run B start c₁ c
  commits : ∀ cm ∈ c.commits, ∃ c₁ c₂, Run c₂ c ∧ cm.Span progOf Run B start c₁ c₂

end

variable {progOf : L → Prog T ε α} {K : Cond L T} {B : L → State T → Prop}

theorem Reaches.trans {c c₁ c₂ : Config L T ε α} (h₁ : Reaches progOf K c c₁)
    (h₂ : Reaches progOf K c₁ c₂) : Reaches progOf K c c₂ := by
  induction h₂ with
  | refl => exact h₁
  | tail e _ ha hs ih => exact ih.tail e ha hs

theorem ReachesWhen.trans {c c₁ c₂ : Config L T ε α} (h₁ : ReachesWhen progOf B c c₁)
    (h₂ : ReachesWhen progOf B c₁ c₂) : ReachesWhen progOf B c c₂ := by
  induction h₂ with
  | refl => exact h₁
  | tail e _ hb hs ih => exact ih.tail e hb hs

omit [DecidableEq T] in
theorem Cond.any_admits (c : Config L T ε α) (e : Event L) :
    (Cond.any : Cond L T).admits c e = true := by
  cases e with
  | exec i =>
    simp only [Cond.admits]
    split <;> rfl
  | finish i =>
    simp only [Cond.admits]
    split <;> rfl
  | _ => rfl

theorem Reaches.any {c c' : Config L T ε α} (h : Reaches progOf K c c') :
    Reaches progOf Cond.any c c' := by
  induction h with
  | refl => exact .refl _
  | tail e _ _ hs ih => exact ih.tail e (Cond.any_admits _ e) hs

/-- Run a list of events, first to last, while `b` allows the transactions that begin. -/
def Config.stepsWhen (progOf : L → Prog T ε α) (b : L → State T → Bool) (c : Config L T ε α) :
    List (Event L) → Option (Config L T ε α)
  | [] => some c
  | e :: es =>
      if e.begins.all fun l => b l c.state then
        (c.step progOf e).bind fun c' => c'.stepsWhen progOf b es
      else none

/-- A list of events that runs through, with what is observed at its end. -/
theorem ReachesWhen.exists_of_steps {β : Type} (progOf : L → Prog T ε α)
    {b : L → State T → Bool} (hb : ∀ l s, b l s = true → B l s) (c : Config L T ε α)
    (es : List (Event L)) (f : Config L T ε α → β) {v : β}
    (h : (c.stepsWhen progOf b es).map f = some v) :
    ∃ c', ReachesWhen progOf B c c' ∧ f c' = v := by
  obtain ⟨c', hs, hf⟩ := Option.map_eq_some_iff.mp h
  refine ⟨c', ?_, hf⟩
  clear h
  have hrun : ∀ c₀, ReachesWhen progOf B c₀ c → ReachesWhen progOf B c₀ c' := by
    induction es generalizing c with
    | nil =>
      cases hs
      exact fun _ h => h
    | cons e es ih =>
      intro c₀ h₀
      simp only [Config.stepsWhen] at hs
      split at hs
      · next hallowed =>
        obtain ⟨c₁, hone, hs⟩ := Option.bind_eq_some_iff.mp hs
        refine ih c₁ hs c₀ (h₀.tail e (fun l heq => hb l _ ?_) hone)
        subst heq
        exact hallowed
      · cases hs
  exact hrun c (.refl c)

/-- Without the condition it is a run. -/
theorem ReachesWhen.reaches {c c' : Config L T ε α} (h : ReachesWhen progOf B c c') :
    Reaches progOf Cond.any c c' := by
  induction h with
  | refl => exact .refl _
  | tail e _ _ hs ih =>
    exact ih.tail e (Cond.any_admits _ e) hs

/-- What an event does to what is committed. -/
theorem Config.step_commits {c c' : Config L T ε α} {e : Event L}
    (hs : c.step progOf e = some c') :
    (c'.state.db = c.state.db ∧ c'.commits = c.commits) ∨
      ∃ cm : Commit L T, (∃ a, ⟨cm.label, .ret a, cm.session⟩ ∈ c.txs) ∧ cm.before = c.state ∧
        cm.after = c'.state ∧ c'.commits = cm :: c.commits := by
  cases e with
  | begin l =>
    cases hs
    exact Or.inl ⟨rfl, rfl⟩
  | exec i =>
    simp only [Config.step] at hs
    split at hs
    · split at hs
      · cases hs
      · cases hs
        exact Or.inl ⟨rfl, rfl⟩
    · cases hs
  | abort i =>
    cases hs
    exact Or.inl ⟨rfl, rfl⟩
  | tick d =>
    cases hs
    exact Or.inl ⟨rfl, rfl⟩
  | finish i =>
    simp only [Config.step] at hs
    split at hs
    · next l a ss hi =>
      cases hs
      exact Or.inr ⟨⟨l, c.state, ss⟩, ⟨a, List.mem_of_getElem? hi⟩, rfl, rfl, rfl⟩
    · cases hs
      exact Or.inl ⟨rfl, rfl⟩
    · cases hs

/-- Locks are apart and cover the writes, in every run. -/
theorem Reaches.separate {s : State T} {c : Config L T ε α}
    (hrun : Reaches progOf K (Config.quiet s) c) :
    Separate c.txs ∧ ∀ tx ∈ c.txs, tx.session.Covered := by
  have hok : c.Ok { meeting (fun _ => True) with toCond := K } := by
    refine hrun.sound (fun l _ s₀ _ => ?_) (.quiet trivial)
    have hall : ∀ (p : Prog T ε α) (s : State T) (ss : Session T), wp
        { meeting (fun _ => True) with toCond := K } p
        (Contract.Post { meeting (fun _ => True) with toCond := K } l) s ss := by
      intro p
      induction p with
      | ret a => exact fun _ _ _ _ _ _ => trivial
      | throw e => exact fun _ _ => trivial
      | step st k ih => exact fun _ _ s' _ _ _ => ih _ s' _
    exact hall _ _ _
  exact ⟨hok.separate, fun tx htx => (hok.txs tx htx).covered⟩

section

variable {Run : Config L T ε α → Config L T ε α → Prop} {start c₁ c c' : Config L T ε α}
  {tx : Tx L T ε α} (hrefl : ∀ c, Run c c)
  (htrans : ∀ c₁ c₂ c₃ : Config L T ε α, Run c₁ c₂ → Run c₂ c₃ → Run c₁ c₃)

include htrans

omit [DecidableEq T] in
/-- The runs are about to see more databases. -/
theorem Amid.later (hr : Run c c') {D : DB T} (h : Amid Run c₁ c D) : Amid Run c₁ c' D := by
  obtain ⟨c₂, h₁, h₂, hD⟩ := h
  exact ⟨c₂, h₁, htrans _ _ _ h₂ hr, hD⟩

include hrefl

/-- A transaction that waits while the run goes on. -/
theorem Tx.Span.wait (h : tx.Span progOf Run B start c₁ c) (hr : Run c c')
    (hrely : ∀ R : DB T → Prop, R c.state.db → R c'.state.db →
      (meeting R : Contract L T).Rely tx.session.locks c.state c'.state) :
    tx.Span progOf Run B start c₁ c' where
  began := h.began
  allowed := h.allowed
  since := htrans _ _ _ h.since hr
  proof R Q hR hp := by
    obtain ⟨s, hs, hwp⟩ := h.proof R Q (fun D hD => hR D (hD.later htrans hr)) hp
    have hbefore : R c.state.db := hR _ ⟨c, h.since, hr, rfl⟩
    have hafter : R c'.state.db := hR _ ⟨c', htrans _ _ _ h.since hr, hrefl c', rfl⟩
    exact ⟨s, hs.trans (hrely R hbefore hafter), hwp⟩

omit hrefl in
/-- The next statement of a transaction. -/
theorem Tx.Span.exec {l : L} {st : Stmt T} {k : st.Resp → Prog T ε α} {ss : Session T}
    (h : Tx.Span progOf Run B start c₁ c ⟨l, .step st k, ss⟩) (hr : Run c c')
    (hstate : c'.state = c.state) :
    Tx.Span progOf Run B start c₁ c' ⟨l, k (st.exec c.state ss).1, (st.exec c.state ss).2⟩ where
  began := h.began
  allowed := h.allowed
  since := htrans _ _ _ h.since hr
  proof R Q hR hp := by
    obtain ⟨s, hs, hwp⟩ := h.proof R Q (fun D hD => hR D (hD.later htrans hr)) hp
    have hmet : R c.state.db := hR _ ⟨c, h.since, hr, rfl⟩
    refine ⟨c.state, ?_, hwp c.state hs hmet rfl⟩
    rw [hstate]
    exact .refl _ _

omit htrans in
/-- A transaction that commits. -/
theorem Tx.Span.commit {l : L} {a : α} {ss : Session T}
    (h : Tx.Span progOf Run B start c₁ c ⟨l, .ret a, ss⟩) :
    Commit.Span progOf Run B start c₁ c ⟨l, c.state, ss⟩ where
  began := h.began
  allowed := h.allowed
  since := h.since
  met := ⟨c₁, hrefl c₁, h.since, rfl⟩
  state := rfl
  proof R Q hR hp := by
    obtain ⟨s, hs, hwp⟩ := h.proof R Q hR hp
    exact ⟨a, s, hs, hwp⟩

/-- **The spans after one more event.** -/
theorem Config.Spanned.step {e : Event L} (hsep : Separate c.txs)
    (hcov : ∀ tx ∈ c.txs, tx.session.Covered) (hrun : Run start c)
    (ih : c.Spanned progOf Run B start) (hb : ∀ l, e = .begin l → B l c.state)
    (hs : c.step progOf e = some c') (hone : Run c c') : c'.Spanned progOf Run B start := by
  have hcommits : ∀ cm ∈ c.commits, ∃ c₁ c₂, Run c₂ c' ∧ cm.Span progOf Run B start c₁ c₂ := by
    intro cm hcm
    obtain ⟨c₁, c₂, hr, hspan⟩ := ih.commits cm hcm
    exact ⟨c₁, c₂, htrans _ _ _ hr hone, hspan⟩
  -- a transaction that has not moved, with the state as it was
  have hidle : c'.state = c.state → ∀ tx ∈ c.txs, ∃ c₁, tx.Span progOf Run B start c₁ c' := by
    intro hstate tx htx
    obtain ⟨c₁, hspan⟩ := ih.txs tx htx
    refine ⟨c₁, hspan.wait hrefl htrans hone fun R _ _ => ?_⟩
    rw [hstate]
    exact .refl _ _
  cases e with
  | begin l =>
      have hbegun := hs
      cases hs
      refine ⟨fun tx htx => ?_, hcommits⟩
      cases List.mem_append.mp htx with
      | inl htx => exact hidle rfl tx htx
      | inr htx =>
          rw [List.mem_singleton.mp htx]
          exact ⟨_, ⟨c, hrun, hbegun⟩, hb l rfl, hrefl _, fun R Q _ hp => ⟨_, .refl _ _, hp⟩⟩
  | exec i =>
      simp only [Config.step] at hs
      split at hs
      · next l st k ss hi =>
        split at hs
        · cases hs
        · cases hs
          refine ⟨fun tx htx => ?_, hcommits⟩
          cases List.mem_or_eq_of_mem_set htx with
          | inl htx => exact hidle rfl tx htx
          | inr htx =>
              obtain ⟨c₁, hspan⟩ := ih.txs _ (List.mem_of_getElem? hi)
              rw [htx]
              exact ⟨c₁, hspan.exec htrans hone rfl⟩
      · cases hs
  | finish i =>
      simp only [Config.step] at hs
      split at hs
      · next l a ss hi =>
        cases hs
        have hmem := List.mem_of_getElem? hi
        refine ⟨fun tx htx => ?_, fun cm hcm => ?_⟩
        · obtain ⟨j, hj, htx⟩ := List.mem_eraseIdx_iff_getElem?.mp htx
          obtain ⟨c₁, hspan⟩ := ih.txs tx (List.mem_of_getElem? htx)
          refine ⟨c₁, hspan.wait hrefl htrans hone fun R hbefore hafter => ?_⟩
          have hguar : (meeting R : Contract L T).Guar l c.state ss := hafter
          exact .commit hbefore (hcov _ hmem) hguar (hsep i j _ tx (Ne.symm hj) hi htx)
        · cases List.mem_cons.mp hcm with
          | inl heq =>
              obtain ⟨c₁, hspan⟩ := ih.txs _ hmem
              rw [heq]
              exact ⟨c₁, c, hone, hspan.commit hrefl⟩
          | inr hcm => exact hcommits cm hcm
      · cases hs
        exact ⟨fun tx htx => hidle rfl tx (List.mem_of_mem_eraseIdx htx), hcommits⟩
      · cases hs
  | abort i =>
      cases hs
      exact ⟨fun tx htx => hidle rfl tx (List.mem_of_mem_eraseIdx htx), hcommits⟩
  | tick d =>
      cases hs
      refine ⟨fun tx htx => ?_, hcommits⟩
      obtain ⟨c₁, hspan⟩ := ih.txs tx htx
      exact ⟨c₁, hspan.wait hrefl htrans hone fun R hbefore _ => .tick hbefore _ d⟩

omit htrans in
/-- A transaction that has committed in the last step has a span. -/
theorem Config.Spanned.committed {e : Event L} (h : c.Spanned progOf Run B start)
    (hs : c.step progOf e = some c') :
    (c'.state.db = c.state.db ∧ c'.commits = c.commits) ∨
      ∃ (cm : Commit L T) (c₁ : Config L T ε α), cm.Span progOf Run B start c₁ c ∧
        cm.after = c'.state ∧ c'.commits = cm :: c.commits := by
  refine (Config.step_commits hs).imp_right fun hcommit => ?_
  obtain ⟨⟨l, s, ss⟩, ⟨a, hmem⟩, rfl, hafter, hcommits⟩ := hcommit
  obtain ⟨c₁, hspan⟩ := h.txs _ hmem
  exact ⟨_, c₁, hspan.commit hrefl, hafter, hcommits⟩

end

theorem Config.Spanned.quiet {Run : Config L T ε α → Config L T ε α → Prop} (s : State T) :
    (Config.quiet s : Config L T ε α).Spanned progOf Run B (.quiet s) where
  txs tx htx := by cases htx
  commits cm hcm := by cases hcm

/-- **The span of a commit**: what a program satisfies under the contract of the databases
    met holds of it, with the databases from its begin to its commit. -/
theorem Reaches.spanned {s : State T} {c : Config L T ε α}
    (hrun : Reaches progOf K (Config.quiet s) c) :
    c.Spanned progOf (Reaches progOf K) (fun l _ => K.begin l = true) (.quiet s) := by
  generalize hstart : Config.quiet s = start at hrun
  induction hrun with
  | refl =>
      subst hstart
      exact .quiet s
  | tail e hrun ha hs ih =>
      subst hstart
      obtain ⟨hsep, hcov⟩ := hrun.separate
      refine ih.step .refl (fun _ _ _ => .trans) hsep hcov hrun (fun l heq => ?_) hs
        (.tail e (.refl _) ha hs)
      rw [heq] at ha
      exact ha

/-- The same, where each transaction begins in a state that allows it. -/
theorem ReachesWhen.spanned {s : State T} {c : Config L T ε α}
    (hrun : ReachesWhen progOf B (Config.quiet s) c) :
    c.Spanned progOf (ReachesWhen progOf B) B (.quiet s) := by
  generalize hstart : Config.quiet s = start at hrun
  induction hrun with
  | refl =>
      subst hstart
      exact .quiet s
  | tail e hrun hb hs ih =>
      subst hstart
      -- its locks are apart as in every run
      obtain ⟨hsep, hcov⟩ := hrun.reaches.separate
      exact ih.step .refl (fun _ _ _ => .trans) hsep hcov hrun hb hs (.tail e (.refl _) hb hs)

/-- What has been committed stays committed. -/
theorem ReachesWhen.commits_length {c c' : Config L T ε α} (h : ReachesWhen progOf B c c') :
    c.commits.length ≤ c'.commits.length := by
  induction h with
  | refl => exact le_refl _
  | tail e _ _ hs ih =>
    refine ih.trans ?_
    cases Config.step_commits hs with
    | inl hsame => rw [hsame.2]
    | inr hcommit =>
      obtain ⟨cm, -, -, -, hcommits⟩ := hcommit
      rw [hcommits]
      exact Nat.le_succ _

/-- **What every commit keeps, a run keeps**, where a commit may count on it for the databases
    that its transaction has met.  The induction is on the number of commits: a transaction
    that commits has met databases of shorter runs. -/
theorem ReachesWhen.related {s : State T} {Le : DB T → DB T → Prop} (hrefl : ∀ D, Le D D)
    (htrans : ∀ D₁ D₂ D₃, Le D₁ D₂ → Le D₂ D₃ → Le D₁ D₃)
    (hcommit : ∀ (cm : Commit L T) (d₁ d₂ : Config L T ε α),
      cm.Span progOf (ReachesWhen progOf B) B (.quiet s) d₁ d₂ →
      (∀ D, Amid (ReachesWhen progOf B) d₁ d₂ D → Le d₁.state.db D) →
        Le cm.before.db cm.after.db)
    {c₁ c₂ : Config L T ε α} (h₁ : ReachesWhen progOf B (.quiet s) c₁)
    (h : ReachesWhen progOf B c₁ c₂) : Le c₁.state.db c₂.state.db := by
  generalize hn : c₂.commits.length = n
  induction n using Nat.strong_induction_on generalizing c₁ c₂ with
  | _ n ihn =>
  induction h generalizing n with
  | refl => exact hrefl _
  | @tail c c₂ e h hb hs ih =>
    have hspanned := (h₁.trans h).spanned
    cases hspanned.committed .refl hs with
    | inl hsame =>
      rw [hsame.1]
      exact ih n ihn (hsame.2 ▸ hn)
    | inr hcommits =>
      obtain ⟨cm, d₁, hspan, hafter, hmore⟩ := hcommits
      have hless : c.commits.length < n := by
        rw [← hn, hmore, List.length_cons]
        exact Nat.lt_succ_self _
      have hbefore : Le c₁.state.db c.state.db := ihn _ hless h₁ h rfl
      obtain ⟨d₀, hrun, hbegan⟩ := hspan.began
      have hrun₁ : ReachesWhen progOf B (.quiet s) d₁ := by
        refine hrun.tail (.begin cm.label) (fun l heq => ?_) hbegan
        cases heq
        have hstate : d₁.state = d₀.state := by
          cases hbegan
          rfl
        exact hstate ▸ hspan.allowed
      refine htrans _ _ _ hbefore ?_
      rw [← hafter]
      have hkept := hcommit cm d₁ c hspan ?_
      · rw [← hspan.state] at hkept
        exact hkept
      · rintro D ⟨d, hd₁, hd₂, rfl⟩
        exact ihn _ (lt_of_le_of_lt hd₂.commits_length hless) hrun₁ hd₁ rfl

end PyBoard.Relational
