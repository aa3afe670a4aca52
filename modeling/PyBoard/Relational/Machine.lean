/-
  PyBoard.Relational.Machine — state machines given by a step function.

  A machine answers an event in a state with the next state, or with nothing when the
  event cannot happen there.  `Reaches` is any number of steps; a run on a list of
  events (`Machine.run`) is one way to build it.

  `Machine.Reaches.project` is the rule for a component of the state: where every step
  of the machine is a step of the component or leaves it alone, a run of the machine is
  a run of the component.

  `Machine.Meets` says that every step of a run meets a condition on the step and the
  state before it.  `run_iff` is the rule for a condition that is exact: a step that
  breaks it loses what the others keep, for good.
-/
import Mathlib.Logic.Relation

namespace PyBoard.Relational

/-- A state machine with states `σ` and events `ε`. -/
structure Machine (σ ε : Type) where
  step : σ → ε → Option σ

namespace Machine

variable {σ ε τ : Type} (m : Machine σ ε)

/-- One step on some event. -/
def Moves (s s' : σ) : Prop := ∃ e, m.step s e = some s'

/-- Any number of steps. -/
def Reaches : σ → σ → Prop := Relation.ReflTransGen m.Moves

/-- The state after a list of events. -/
def run (s : σ) : List ε → Option σ
  | [] => some s
  | e :: es => (m.step s e).bind fun s' => run s' es

variable {m}

theorem Reaches.of_run {s s' : σ} {es : List ε} (h : m.run s es = some s') :
    m.Reaches s s' := by
  induction es generalizing s with
  | nil =>
      cases h
      exact Relation.ReflTransGen.refl
  | cons e es ih =>
      obtain ⟨s₁, hs₁, hrun⟩ := Option.bind_eq_some_iff.mp h
      exact Relation.ReflTransGen.head ⟨e, hs₁⟩ (ih hrun)

/-- **What every step keeps holds along every run.** -/
theorem Reaches.invariant {I : σ → Prop} (hstep : ∀ s e s', I s → m.step s e = some s' → I s')
    {s s' : σ} (h : m.Reaches s s') (hs : I s) : I s' := by
  induction h with
  | refl => exact hs
  | tail _ hmove ih =>
      obtain ⟨e, he⟩ := hmove
      exact hstep _ e _ ih he

/-- A component that every step moves by `R` or leaves alone makes a run of `R`. -/
theorem Reaches.project {f : σ → τ} {R : τ → τ → Prop}
    (hstep : ∀ s e s', m.step s e = some s' → f s' = f s ∨ R (f s) (f s'))
    {s s' : σ} (h : m.Reaches s s') : Relation.ReflTransGen R (f s) (f s') := by
  induction h with
  | refl => exact Relation.ReflTransGen.refl
  | tail _ hmove ih =>
      obtain ⟨e, he⟩ := hmove
      obtain hsame | hnext := hstep _ e _ he
      · rw [hsame]
        exact ih
      · exact ih.tail hnext

/-! ## Runs whose steps meet a condition. -/

variable (m) in
/-- Every step of the run on a list of events meets `cond`. -/
def Meets (cond : σ → ε → Prop) (s : σ) : List ε → Prop
  | [] => True
  | e :: es => cond s e ∧ ∀ s', m.step s e = some s' → Meets cond s' es

theorem Meets.cons {cond : σ → ε → Prop} {s s' : σ} {e : ε} {es : List ε} (hcond : cond s e)
    (hstep : m.step s e = some s') (h : m.Meets cond s' es) : m.Meets cond s (e :: es) := by
  refine ⟨hcond, fun s'' hs'' => ?_⟩
  rw [hstep] at hs''
  cases hs''
  exact h

/-- What every step keeps holds at the end of a run. -/
theorem run_invariant {I : σ → Prop} {es : List ε}
    (hstep : ∀ s e s', e ∈ es → I s → m.step s e = some s' → I s') {s s' : σ}
    (hrun : m.run s es = some s') (hs : I s) : I s' := by
  induction es generalizing s with
  | nil =>
      cases hrun
      exact hs
  | cons e es ih =>
      obtain ⟨s₁, hs₁, hrun⟩ := Option.bind_eq_some_iff.mp hrun
      have h₁ : I s₁ := hstep s e s₁ List.mem_cons_self hs hs₁
      exact ih (fun s e s' he => hstep s e s' (List.mem_cons_of_mem _ he)) hrun h₁

/-- **What the steps that meet a condition keep** holds at the end of their run. -/
theorem run_of_meets {cond : σ → ε → Prop} {I : σ → Prop}
    (hstep : ∀ s e s', cond s e → I s → m.step s e = some s' → I s') {s s' : σ} {es : List ε}
    (hrun : m.run s es = some s') (hmeets : m.Meets cond s es) (hs : I s) : I s' := by
  induction es generalizing s with
  | nil =>
      cases hrun
      exact hs
  | cons e es ih =>
      obtain ⟨s₁, hs₁, hrun⟩ := Option.bind_eq_some_iff.mp hrun
      exact ih hrun (hmeets.2 s₁ hs₁) (hstep s e s₁ hmeets.1 hs hs₁)

/-- **An exact condition**: the run keeps `J` just when `J` held at its start and every
    step met the condition. -/
theorem run_iff {cond : σ → ε → Prop} {I J : σ → Prop} {es : List ε}
    (hI : ∀ s e s', e ∈ es → I s → m.step s e = some s' → I s')
    (hJ : ∀ s e s', e ∈ es → I s → m.step s e = some s' → (J s' ↔ J s ∧ cond s e)) {s s' : σ}
    (hrun : m.run s es = some s') (hs : I s) : J s' ↔ J s ∧ m.Meets cond s es := by
  induction es generalizing s with
  | nil =>
      cases hrun
      exact (and_iff_left trivial).symm
  | cons e es ih =>
      obtain ⟨s₁, hs₁, hrun⟩ := Option.bind_eq_some_iff.mp hrun
      have hI₁ : I s₁ := hI s e s₁ List.mem_cons_self hs hs₁
      have hih := ih (fun s e s' he => hI s e s' (List.mem_cons_of_mem _ he))
        (fun s e s' he => hJ s e s' (List.mem_cons_of_mem _ he)) hrun hI₁
      have hstep := hJ s e s₁ List.mem_cons_self hs hs₁
      constructor
      · intro h
        obtain ⟨hJ₁, hmeets⟩ := hih.mp h
        obtain ⟨hJs, hcond⟩ := hstep.mp hJ₁
        refine ⟨hJs, hcond, fun s₂ hs₂ => ?_⟩
        rw [hs₁] at hs₂
        cases hs₂
        exact hmeets
      · rintro ⟨hJs, hcond, hmeets⟩
        exact hih.mpr ⟨hstep.mpr ⟨hJs, hcond⟩, hmeets s₁ hs₁⟩

end Machine

end PyBoard.Relational
