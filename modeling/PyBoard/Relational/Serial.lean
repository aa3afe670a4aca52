/-
  PyBoard.Relational.Serial — requests that are served one after another.

  A request runs alone in a transaction of its own, which is rolled back if it raises.
  Between two requests anything may happen that a relation allows.  The run records each
  request with the state that it met.

  Main result: `Serial.invariant`, the induction over the requests.
-/
import PyBoard.Relational.Program

namespace PyBoard.Relational

variable {T : Type} [Schema T] [DecidableEq T] {ε α ρ : Type}

/-- Run a program in a transaction of its own, and commit it unless it raises. -/
def Prog.serve (p : Prog T ε α) (s : State T) : State T :=
  match p.run s Session.fresh with
  | (.ok _, ss) => s.commit ss
  | (.error _, _) => s

theorem Prog.serve_ok {p : Prog T ε α} {s : State T} {a : α} {ss : Session T}
    (h : p.run s Session.fresh = (.ok a, ss)) : p.serve s = s.commit ss := by
  unfold serve
  rw [h]

theorem Prog.serve_error {p : Prog T ε α} {s : State T} {e : ε}
    (h : (p.run s Session.fresh).1 = .error e) : p.serve s = s := by
  unfold serve
  rcases hrun : p.run s Session.fresh with ⟨e' | a, ss⟩
  · rfl
  · rw [hrun] at h
    cases h

@[simp] theorem Prog.serve_now (p : Prog T ε α) (s : State T) : (p.serve s).now = s.now := by
  unfold serve
  split <;> rfl

/-- A request and the state that it met. -/
structure Visit (T ρ : Type) [Schema T] where
  before : State T
  request : ρ

/-- The requests of a run, the newest first, and the state after it. -/
inductive Serial (progOf : ρ → Prog T ε α) (between : State T → State T → Prop) (s₀ : State T) :
    List (Visit T ρ) → State T → Prop
  | start : Serial progOf between s₀ [] s₀
  | request {log : List (Visit T ρ)} {s : State T} (r : ρ) (h : Serial progOf between s₀ log s) :
      Serial progOf between s₀ (⟨s, r⟩ :: log) ((progOf r).serve s)
  | wait {log : List (Visit T ρ)} {s s' : State T} (h : Serial progOf between s₀ log s)
      (hwait : between s s') : Serial progOf between s₀ log s'

/-- The run of a list of requests, the newest first, without anything between them. -/
def Prog.serveAll (progOf : ρ → Prog T ε α) (s₀ : State T) :
    List ρ → List (Visit T ρ) × State T
  | [] => ([], s₀)
  | r :: rs =>
      let (log, s) := serveAll progOf s₀ rs
      (⟨s, r⟩ :: log, (progOf r).serve s)

theorem Serial.serveAll (progOf : ρ → Prog T ε α) (between : State T → State T → Prop)
    (s₀ : State T) (rs : List ρ) :
    Serial progOf between s₀ (Prog.serveAll progOf s₀ rs).1 (Prog.serveAll progOf s₀ rs).2 := by
  induction rs with
  | nil => exact .start
  | cons r rs ih => exact .request r ih

/-- **Induction over the requests** of a run that meet a condition. -/
theorem Serial.invariant {progOf : ρ → Prog T ε α} {between : State T → State T → Prop}
    {s₀ s : State T} {log : List (Visit T ρ)} {Q : List (Visit T ρ) → Prop}
    {I : List (Visit T ρ) → State T → Prop} (hQ : ∀ e log, Q (e :: log) → Q log)
    (start : I [] s₀)
    (request : ∀ log s r, Q (⟨s, r⟩ :: log) → I log s → I (⟨s, r⟩ :: log) ((progOf r).serve s))
    (wait : ∀ log s s', between s s' → I log s → I log s')
    (hrun : Serial progOf between s₀ log s) (hq : Q log) : I log s := by
  induction hrun with
  | start => exact start
  | request r _ ih => exact request _ _ r hq (ih (hQ _ _ hq))
  | wait _ hwait ih => exact wait _ _ _ hwait (ih hq)

end PyBoard.Relational
