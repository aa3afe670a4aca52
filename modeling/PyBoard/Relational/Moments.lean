/-
  PyBoard.Relational.Moments — why a transaction changes the rows of a table.

  A transaction first meets databases and then changes rows.  `Why` says which policies it
  has a reason for, and the reasons speak of the moments of the transaction: a database that
  was committed while it ran, at a time while it ran.  A session that has `Kept` to a policy
  so far goes on in one of a few ways, and there is one rule for each.  It is `Ready` as long
  as it has changed nothing of the table; a whole program ends `Explained`, with or without
  an error.

  Main definitions:
    * `During` — the moments of a transaction.
    * `Clean`, `Kept`, `Ready` — what has been written so far.
    * `Explained` — at the end.

  Main results:
    * `Kept.respects_bind`, `Kept.select_bind`, `Kept.clock_bind` — how a program goes on.
    * `Ready.get_bind`, `Ready.select_bind` — a row that is read is stored at a moment.
    * `Ready.change` — a part that keeps to a policy that there is a reason for.
    * `Commit.Span.explained` — every commit has a reason for its changes.
    * `Reaches.origin` — every row comes from the start or from a commit.
-/
import PyBoard.Relational.Changes

namespace PyBoard.Relational

open Schema

variable {L T : Type} [Schema T] [DecidableEq T] {ε α β : Type} {t : T}

/-! ## §1. Moments. -/

/-- A database that was met, at a time between two others. -/
def During (R : DB T → Prop) (lo hi : Int) (now : Int) (D : DB T) : Prop :=
  R D ∧ lo ≤ now ∧ now ≤ hi

/-- The transaction has met databases of `R` since `lo`, and has kept to the policy. -/
structure Kept (Q : Policy (Row t)) (R : DB T → Prop) (lo : Int) (s : State T)
    (ss : Session T) : Prop where
  met : R s.db
  since : lo ≤ s.now
  changed : ss.Changed Q s

/-- It has not changed the table. -/
abbrev Ready (t : T) (R : DB T → Prop) (lo : Int) (s : State T) (ss : Session T) : Prop :=
  Kept (Policy.frozen : Policy (Row t)) R lo s ss

/-- The transaction has met databases of `R` since `lo`, and has written nothing at all. -/
structure Clean (R : DB T → Prop) (lo : Int) (s : State T) (ss : Session T) : Prop where
  met : R s.db
  since : lo ≤ s.now
  nothing : ss.ws = []

/-- If the program ends in time, then with `Q`. -/
def Within (hi : Int) (Q : Except ε α → State T → Session T → Prop) (r : Except ε α)
    (s : State T) (ss : Session T) : Prop := s.now ≤ hi → Q r s ss

/-- The transaction has changed nothing, or has a reason for what it has changed. -/
def Explained (Why : Policy (Row t) → Prop) (hi : Int) :
    Except ε α → State T → Session T → Prop :=
  Within hi fun _ s ss => ∃ Q, (Q = Policy.frozen ∨ Why Q) ∧ ss.Changed Q s

/-- A postcondition that always holds. -/
theorem wp_always {C : Contract L T} {p : Prog T ε α} {Q : Except ε α → State T → Session T → Prop}
    {s : State T} {ss : Session T} (h : ∀ r s' ss', Q r s' ss') : wp C p Q s ss := by
  induction p generalizing s ss with
  | ret a => exact h _ _ _
  | throw e => exact h _ _ _
  | step st k ih => exact fun s' _ _ _ => ih _

/-- One part in time after another. -/
theorem Within.bind {C : Contract L T} {hi : Int} {p : Prog T ε α} {f : α → Prog T ε β}
    {Q : Except ε α → State T → Session T → Prop} {Q' : Except ε β → State T → Session T → Prop}
    {s : State T} {ss : Session T} (h : wp C p (Within hi Q) s ss)
    (herr : ∀ e s' ss', Q (.error e) s' ss' → Q' (.error e) s' ss')
    (hf : ∀ a s' ss', Q (.ok a) s' ss' → wp C (f a) (Within hi Q') s' ss') :
    wp C (p.bind f) (Within hi Q') s ss := by
  refine (wp_bind _ _ _ _ _).mpr (wp_mono h fun r s' ss' hend => ?_)
  cases r with
  | error e => exact fun hnow => herr e s' ss' (hend hnow)
  | ok a => exact wp_until fun hnow => hf a s' ss' (hend hnow)

/-- What has written nothing keeps to every policy. -/
theorem Clean.kept {Q : Policy (Row t)} (hQ : Q.Lawful) {R : DB T → Prop} {lo : Int}
    {s : State T} {ss : Session T} (h : Clean R lo s ss) : Kept Q R lo s ss := by
  refine ⟨h.met, h.since, ?_, fun k => ?_⟩
  · intro w hw
    rw [h.nothing] at hw
    cases hw
  · unfold State.view
    rw [h.nothing]
    exact hQ.allows_refl _

theorem Clean.ready {R : DB T → Prop} {lo : Int} {s : State T} {ss : Session T}
    (h : Clean R lo s ss) : Ready t R lo s ss := h.kept Policy.frozen_lawful

/-! ## §2. Parts that write nothing. -/

section

variable {R : DB T → Prop} {lo hi : Int} {s : State T} {ss : Session T}
  {Q : Except ε β → State T → Session T → Prop}

/-- The next statement of a transaction that has written nothing. -/
theorem Clean.rely {s' : State T} (h : Clean R lo s ss)
    (hr : (meeting R : Contract L T).Rely ss.locks s s') (hmet : R s'.db) : Clean R lo s' ss :=
  ⟨hmet, h.since.trans hr.now, h.nothing⟩

/-- A row that is read before anything is written. -/
theorem Clean.get_bind {k : Key t} {f : Option (Row t) → Prog T ε β} (h : Clean R lo s ss)
    (hf : ∀ s' ss', Clean R lo s' ss' → During R lo hi s'.now s'.db →
      wp (meeting R : Contract L T) (f ((s'.db t).get? k)) (Within hi Q) s' ss') :
    wp (meeting R : Contract L T) ((Prog.get t k).bind f) (Within hi Q) s ss := by
  intro s' hr hmet _
  have hclean := h.rely hr hmet
  refine wp_until fun hnow => ?_
  show wp _ (f ((s'.view ss t).get? k)) _ s' ss
  rw [hclean.ready.changed.get?]
  exact hf s' ss hclean ⟨hmet, hclean.since, hnow⟩

/-- The rows of a query before anything is written. -/
theorem Clean.select_bind {p : Row t → Bool} {f : List (Row t) → Prog T ε β}
    (h : Clean R lo s ss)
    (hf : ∀ s', Clean R lo s' ss → During R lo hi s'.now s'.db →
      wp (meeting R : Contract L T) (f ((s'.db t).rows.filter p)) (Within hi Q) s' ss) :
    wp (meeting R : Contract L T) ((Prog.select t p).bind f) (Within hi Q) s ss := by
  intro s' hr hmet _
  have hclean := h.rely hr hmet
  refine wp_until fun hnow => ?_
  have hview : s'.view ss t = s'.db t := by
    unfold State.view
    rw [h.nothing]
    rfl
  show wp _ (f ((s'.view ss t).rows.filter p)) _ s' ss
  rw [hview]
  exact hf s' hclean ⟨hmet, hclean.since, hnow⟩

theorem Clean.clock_bind {f : Int → Prog T ε β} (h : Clean R lo s ss)
    (hf : ∀ s', Clean R lo s' ss → During R lo hi s'.now s'.db →
      wp (meeting R : Contract L T) (f s'.now) (Within hi Q) s' ss) :
    wp (meeting R : Contract L T) (Prog.clock.bind f) (Within hi Q) s ss := by
  intro s' hr hmet _
  have hclean := h.rely hr hmet
  exact wp_until fun hnow => hf s' hclean ⟨hmet, hclean.since, hnow⟩

end

/-! ## §3. Parts that keep to a policy. -/

section

variable {R : DB T → Prop} {lo hi : Int} {Q : Policy (Row t)} (hQ : Q.Lawful) {s : State T}
  {ss : Session T} {p : Prog T ε α} {f : α → Prog T ε β}
  {Post : Except ε β → State T → Session T → Prop}

include hQ

/-- The next statement of a transaction. -/
theorem Kept.rely {s' : State T} (h : Kept Q R lo s ss)
    (hr : (meeting R : Contract L T).Rely ss.locks s s') (hmet : R s'.db) : Kept Q R lo s' ss :=
  ⟨hmet, h.since.trans hr.now, h.changed.rely hQ hr⟩

theorem Kept.exec {st : Stmt T} (h : Kept Q R lo s ss) (hst : st.Respects Q) :
    Kept Q R lo s (st.exec s ss).2 := ⟨h.met, h.since, h.changed.exec hQ hst⟩

/-- A part that keeps to the policy. -/
theorem Kept.wp_respects (h : Kept Q R lo s ss) (hp : p.Respects Q) :
    wp (meeting R : Contract L T) p (fun _ s' ss' => Kept Q R lo s' ss') s ss := by
  induction p generalizing s ss with
  | ret a => exact h
  | throw e => exact h
  | step st k ih =>
    intro s' hr hmet _
    exact ih _ ((h.rely hQ hr hmet).exec hQ hp.1) (hp.2 _)

/-- **A part that keeps to the policy**, and the rest. -/
theorem Kept.respects_bind (h : Kept Q R lo s ss) (hp : p.Respects Q)
    (herr : ∀ e s' ss', Kept Q R lo s' ss' → Post (.error e) s' ss')
    (hf : ∀ a s' ss', Kept Q R lo s' ss' →
      wp (meeting R : Contract L T) (f a) (Within hi Post) s' ss') :
    wp (meeting R : Contract L T) (p.bind f) (Within hi Post) s ss := by
  refine (wp_bind _ _ _ _ _).mpr (wp_mono (h.wp_respects hQ hp) ?_)
  intro r s' ss' hkept
  cases r with
  | error e => exact fun _ => herr e s' ss' hkept
  | ok a => exact hf a s' ss' hkept

/-- The rows of a query are what the policy makes of committed ones. -/
theorem Kept.select_bind {q : Row t → Bool} {f : List (Row t) → Prog T ε β}
    (h : Kept Q R lo s ss)
    (hf : ∀ rows s', Kept Q R lo s' ss → During R lo hi s'.now s'.db →
      (∀ r ∈ rows, Q.Allows ((s'.db t).get? (key r)) (some r) ∧ q r = true) →
      wp (meeting R : Contract L T) (f rows) (Within hi Post) s' ss) :
    wp (meeting R : Contract L T) ((Prog.select t q).bind f) (Within hi Post) s ss := by
  intro s' hr hmet _
  have hkept := h.rely hQ hr hmet
  refine wp_until fun hnow => hf _ s' hkept ⟨hmet, hkept.since, hnow⟩ ?_
  intro r hrow
  obtain ⟨hstored, hq⟩ := List.mem_filter.mp hrow
  refine ⟨?_, hq⟩
  have hget : (s'.view ss t).get? (key r) = some r := Table.get?_eq_some.mpr ⟨hstored, rfl⟩
  rw [← hget]
  exact hkept.changed.rows (key r)

/-- The time that is read is one of the transaction. -/
theorem Kept.clock_bind {f : Int → Prog T ε β} (h : Kept Q R lo s ss)
    (hf : ∀ s', Kept Q R lo s' ss → During R lo hi s'.now s'.db →
      wp (meeting R : Contract L T) (f s'.now) (Within hi Post) s' ss) :
    wp (meeting R : Contract L T) (Prog.clock.bind f) (Within hi Post) s ss := by
  intro s' hr hmet _
  have hkept := h.rely hQ hr hmet
  exact wp_until fun hnow => hf s' hkept ⟨hmet, hkept.since, hnow⟩

end

/-! ## §4. Parts that change nothing of a table. -/

section

variable {R : DB T → Prop} {lo hi : Int} {Why : Policy (Row t) → Prop} {s : State T}
  {ss : Session T} {p : Prog T ε α} {f : α → Prog T ε β}

theorem Ready.explained (h : Ready t R lo s ss) (r : Except ε α) :
    Explained Why hi r s ss := fun _ => ⟨Policy.frozen, Or.inl rfl, h.changed⟩

/-- A part that leaves the table alone stays ready. -/
theorem Ready.wp_spares (h : Ready t R lo s ss) (hp : p.Spares t) :
    wp (meeting R : Contract L T) p (fun _ s' ss' => Ready t R lo s' ss') s ss :=
  h.wp_respects Policy.frozen_lawful (hp.respects Policy.frozen_lawful)

theorem Ready.spares (h : Ready t R lo s ss) (hp : p.Spares t) :
    wp (meeting R : Contract L T) p (Explained Why hi) s ss :=
  wp_mono (h.wp_spares hp) fun r _ _ hready => hready.explained r

/-- **A part that leaves the table alone**, and the rest. -/
theorem Ready.spares_bind (h : Ready t R lo s ss) (hp : p.Spares t)
    (hf : ∀ a s' ss', Ready t R lo s' ss' →
      wp (meeting R : Contract L T) (f a) (Explained Why hi) s' ss') :
    wp (meeting R : Contract L T) (p.bind f) (Explained Why hi) s ss :=
  h.respects_bind Policy.frozen_lawful (hp.respects Policy.frozen_lawful)
    (fun _ _ _ h' => ⟨_, Or.inl rfl, h'.changed⟩) hf

/-- **A row that is read** is the committed one, at a moment of the transaction. -/
theorem Ready.get_bind {k : Key t} {f : Option (Row t) → Prog T ε β} (h : Ready t R lo s ss)
    (hf : ∀ s' ss', Ready t R lo s' ss' → During R lo hi s'.now s'.db →
      wp (meeting R : Contract L T) (f ((s'.db t).get? k)) (Explained Why hi) s' ss') :
    wp (meeting R : Contract L T) ((Prog.get t k).bind f) (Explained Why hi) s ss := by
  intro s' hr hmet _
  have hready := h.rely Policy.frozen_lawful hr hmet
  refine wp_until fun hnow => ?_
  show wp _ (f ((s'.view ss t).get? k)) _ s' ss
  rw [hready.changed.get?]
  exact hf s' ss hready ⟨hmet, hready.since, hnow⟩

/-- **The rows of a query** are committed ones. -/
theorem Ready.select_bind {p : Row t → Bool} {f : List (Row t) → Prog T ε β}
    (h : Ready t R lo s ss)
    (hf : ∀ rows s' ss', Ready t R lo s' ss' → During R lo hi s'.now s'.db →
      (∀ r ∈ rows, r ∈ (s'.db t).rows ∧ p r = true) →
      wp (meeting R : Contract L T) (f rows) (Explained Why hi) s' ss') :
    wp (meeting R : Contract L T) ((Prog.select t p).bind f) (Explained Why hi) s ss := by
  refine Kept.select_bind Policy.frozen_lawful h fun rows s' h' hnow hrows => ?_
  refine hf rows s' ss h' hnow fun r hr => ⟨?_, (hrows r hr).2⟩
  have hget := Policy.frozen_allows.mp (hrows r hr).1
  exact (Table.get?_eq_some.mp hget.symm).1

/-- The time that is read is one of the transaction. -/
theorem Ready.clock_bind {f : Int → Prog T ε β} (h : Ready t R lo s ss)
    (hf : ∀ s', Ready t R lo s' ss → During R lo hi s'.now s'.db →
      wp (meeting R : Contract L T) (f s'.now) (Explained Why hi) s' ss) :
    wp (meeting R : Contract L T) (Prog.clock.bind f) (Explained Why hi) s ss :=
  Kept.clock_bind Policy.frozen_lawful h hf

/-! ## §5. Changes. -/

/-- **A part that keeps to a policy** that there is a reason for. -/
theorem Ready.change {Q : Policy (Row t)} (h : Ready t R lo s ss) (hQ : Q.Lawful) (hwhy : Why Q)
    (hp : p.Respects Q) : wp (meeting R : Contract L T) p (Explained Why hi) s ss := by
  refine wp_mono (wp_changed hQ hp (h.changed.of_frozen hQ)) fun _ s' ss' hchanged => ?_
  exact fun _ => ⟨Q, Or.inr hwhy, hchanged⟩

variable (hlawful : ∀ Q, Why Q → Q.Lawful)

include hlawful

/-- What has been explained stays so while the table is left alone. -/
theorem Explained.spares {r : Except ε β} (h : Explained Why hi r s ss) (hp : p.Spares t) :
    wp (meeting R : Contract L T) p (Explained Why hi) s ss := by
  refine wp_until fun hnow => ?_
  obtain ⟨Q, hwhy, hchanged⟩ := h hnow
  have hQ : Q.Lawful := by
    cases hwhy with
    | inl hfrozen =>
      rw [hfrozen]
      exact Policy.frozen_lawful
    | inr hwhy => exact hlawful Q hwhy
  refine wp_mono (wp_changed hQ (hp.respects hQ) hchanged) fun _ s' ss' hend => ?_
  exact fun _ => ⟨Q, hwhy, hend⟩

/-- The rest of a program leaves the table alone. -/
theorem Explained.bind (h : wp (meeting R : Contract L T) p (Explained Why hi) s ss)
    (hf : ∀ a, (f a).Spares t) :
    wp (meeting R : Contract L T) (p.bind f) (Explained Why hi) s ss := by
  refine (wp_bind _ _ _ _ _).mpr (wp_mono h ?_)
  intro r s' ss' hend
  cases r with
  | error e => exact hend
  | ok a => exact Explained.spares hlawful hend (hf a)

/-- So does the handler of its errors. -/
theorem Explained.tryCatch {g : ε → Prog T ε α}
    (h : wp (meeting R : Contract L T) p (Explained Why hi) s ss) (hg : ∀ e, (g e).Spares t) :
    wp (meeting R : Contract L T) (p.tryCatch g) (Explained Why hi) s ss := by
  refine (wp_tryCatch _ _ _ _ _).mpr (wp_mono h ?_)
  intro r s' ss' hend
  cases r with
  | ok a => exact hend
  | error e => exact Explained.spares hlawful hend (hg e)

end

/-! ## §6. Commits. -/

section

variable {progOf : L → Prog T ε α} {Run : Config L T ε α → Config L T ε α → Prop}
  {B : L → State T → Prop} {start c₁ c₂ : Config L T ε α} {cm : Commit L T}

/-- **What a program satisfies** when it ends in time, its commit satisfies. -/
theorem Commit.Span.within (h : cm.Span progOf Run B start c₁ c₂)
    {Q : Except ε α → State T → Session T → Prop}
    (hp : Clean (Amid Run c₁ c₂) c₁.state.now c₁.state Session.fresh →
      wp (meeting (Amid Run c₁ c₂) : Contract L T) (progOf cm.label)
        (Within c₂.state.now Q) c₁.state Session.fresh) :
    ∃ a s, (meeting (Amid Run c₁ c₂) : Contract L T).Rely cm.session.locks s cm.before ∧
      Q (.ok a) s cm.session := by
  have hclean : Clean (Amid Run c₁ c₂) c₁.state.now c₁.state Session.fresh :=
    ⟨h.met, le_refl _, rfl⟩
  obtain ⟨a, s, hrely, hpost⟩ := h.proof _ _ (fun D hD => hD) (hp hclean)
  have hnow : s.now ≤ c₂.state.now := by
    rw [h.state]
    exact hrely.now
  exact ⟨a, s, hrely, hpost hnow⟩

/-- **Every commit has a reason** for what it does to the rows of the table. -/
theorem Commit.Span.explained (h : cm.Span progOf Run B start c₁ c₂)
    {Why : Policy (Row t) → Prop} (hlawful : ∀ Q, Why Q → Q.Lawful)
    (hp : Clean (Amid Run c₁ c₂) c₁.state.now c₁.state Session.fresh →
      wp (meeting (Amid Run c₁ c₂) : Contract L T) (progOf cm.label)
        (Explained Why c₂.state.now) c₁.state Session.fresh) :
    (∀ k, (cm.after.db t).get? k = (cm.before.db t).get? k) ∨
      ∃ Q, Why Q ∧ ∀ k, Q.Allows ((cm.before.db t).get? k) ((cm.after.db t).get? k) := by
  obtain ⟨a, s, hrely, Q, hwhy, hchanged⟩ := h.within hp
  cases hwhy with
  | inl hfrozen =>
    subst hfrozen
    have hrows := (hchanged.rely Policy.frozen_lawful hrely).rows
    exact Or.inl fun k => Policy.frozen_allows.mp (hrows k)
  | inr hwhy => exact Or.inr ⟨Q, hwhy, (hchanged.rely (hlawful Q hwhy) hrely).rows⟩

/-- A program that ends with a session that has kept to a policy. -/
theorem Commit.Span.kept (h : cm.Span progOf Run B start c₁ c₂)
    {Q : Policy (Row t)} (hQ : Q.Lawful)
    (hp : Clean (Amid Run c₁ c₂) c₁.state.now c₁.state Session.fresh →
      wp (meeting (Amid Run c₁ c₂) : Contract L T) (progOf cm.label)
        (Within c₂.state.now fun _ s ss => ss.Changed Q s) c₁.state Session.fresh) (k : Key t) :
    Q.Allows ((cm.before.db t).get? k) ((cm.after.db t).get? k) := by
  obtain ⟨a, s, hrely, hchanged⟩ := h.within hp
  exact (hchanged.rely hQ hrely).rows k

end

section

variable {progOf : L → Prog T ε α} {K : Cond L T} {c c' : Config L T ε α}

/-- What has been committed stays committed. -/
theorem Reaches.commits_subset (hrun : Reaches progOf K c c') : c.commits ⊆ c'.commits := by
  induction hrun with
  | refl => exact fun _ h => h
  | tail e _ _ hs ih =>
    intro cm hcm
    cases Config.step_commits hs with
    | inl hsame =>
      rw [hsame.2]
      exact ih hcm
    | inr hcommit =>
      obtain ⟨_, -, -, -, hcommits⟩ := hcommit
      rw [hcommits]
      exact List.mem_cons_of_mem _ (ih hcm)

/-- **Where a row comes from**: it was there at the start, or a commit has put it there. -/
theorem Reaches.origin (hrun : Reaches progOf K c c') {r : Row t}
    (hr : r ∈ (c'.state.db t).rows) :
    r ∈ (c.state.db t).rows ∨ ∃ cm ∈ c'.commits,
      (cm.before.db t).get? (key r) ≠ some r ∧ (cm.after.db t).get? (key r) = some r := by
  induction hrun with
  | refl => exact Or.inl hr
  | @tail c₁ c₂ e hrun _ hs ih =>
    by_cases hold : r ∈ (c₁.state.db t).rows
    · cases ih hold with
      | inl hstart => exact Or.inl hstart
      | inr hput =>
        obtain ⟨cm, hcm, hwas⟩ := hput
        exact Or.inr ⟨cm, (Reaches.tail e (.refl c₁) ‹_› hs).commits_subset hcm, hwas⟩
    · cases Config.step_commits hs with
      | inl hsame =>
        rw [hsame.1] at hr
        exact absurd hr hold
      | inr hcommit =>
        obtain ⟨cm, -, hbefore, hafter, hcommits⟩ := hcommit
        rw [← hafter] at hr
        rw [← hbefore] at hold
        refine Or.inr ⟨cm, by rw [hcommits]; exact List.mem_cons_self, ?_, Table.get?_of_mem hr⟩
        exact fun hget => hold (Table.mem_of_get? hget)

end

end PyBoard.Relational
