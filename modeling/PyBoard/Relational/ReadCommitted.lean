/-
  PyBoard.Relational.ReadCommitted — interleaved transactions.

  Each live transaction is a program together with its session.  One event
  begins a transaction, runs the next statement of one transaction, ends a
  transaction or lets time pass.  A statement reads the committed database
  of its own instant (READ COMMITTED), overlaid with what its transaction
  has written; a statement that needs a row lock waits while another
  transaction holds that lock, so it always meets the version that the
  other transaction left behind.

  `Reaches` is the reachability relation of runs whose events all satisfy a
  side condition `Cond`; with the trivial condition it is plain
  reachability.
-/
import PyBoard.Relational.Program

namespace PyBoard.Relational

open Schema

variable (L : Type) (T : Type) [Schema T] (ε α : Type)

/-- A live transaction: what it was started as, what it still has to run,
    and what it holds. -/
structure Tx where
  label : L
  prog : Prog T ε α
  session : Session T

/-- A transaction that has committed: the state it met and what it wrote. -/
structure Commit where
  label : L
  before : State T
  session : Session T

/-- The database server: committed state, live transactions, and the commits
    so far, newest first. -/
structure Config where
  state : State T
  txs : List (Tx L T ε α)
  commits : List (Commit L T)

/-- What can happen next. -/
inductive Event
  | begin (l : L)
  /-- The next statement of a transaction. -/
  | exec (i : Nat)
  /-- COMMIT after a normal return, ROLLBACK after an error. -/
  | finish (i : Nat)
  /-- ROLLBACK for any other reason (deadlock, lost connection). -/
  | abort (i : Nat)
  | tick (d : Nat)

variable {L T ε α}

/-- The configuration in which nothing runs yet. -/
def Config.quiet (s : State T) : Config L T ε α := ⟨s, [], []⟩

variable [DecidableEq T]

/-- The state a commit leaves. -/
def Commit.after (c : Commit L T) : State T := c.before.commit c.session

/-- Does `tx` hold one of the locks `ids`? -/
def Tx.holds (tx : Tx L T ε α) (ids : List (RowId T)) : Bool :=
  ids.any fun id => id ∈ tx.session.locks

/-- A statement of transaction `i` waits while another transaction holds a row
    it must lock, or has an uncommitted row its unique constraints concern.  A lock is
    refused only while another transaction holds it. -/
def Config.blocked (c : Config L T ε α) (i : Nat) (ss : Session T) (st : Stmt T) : Bool :=
  ((c.txs.eraseIdx i).any fun tx =>
    tx.holds (st.wants c.state ss) ||
      match st with
      | .insert t r => (DB.apply (fun _ => Table.empty) tx.session.ws).refuses t r
      | _ => false) ||
    match st with
    | .tryLock t k false => !(c.txs.eraseIdx i).any fun tx => tx.holds [⟨t, k⟩]
    | _ => false

variable (progOf : L → Prog T ε α)

/-- **One event.** -/
def Config.step (c : Config L T ε α) : Event L → Option (Config L T ε α)
  | .begin l => some { c with txs := c.txs ++ [⟨l, progOf l, Session.fresh⟩] }
  | .exec i =>
      match c.txs[i]? with
      | some ⟨l, .step st k, ss⟩ =>
          if c.blocked i ss st then none
          else
            let (r, ss') := st.exec c.state ss
            some { c with txs := c.txs.set i ⟨l, k r, ss'⟩ }
      | _ => none
  | .finish i =>
      match c.txs[i]? with
      | some ⟨l, .ret _, ss⟩ =>
          some ⟨c.state.commit ss, c.txs.eraseIdx i, ⟨l, c.state, ss⟩ :: c.commits⟩
      | some ⟨_, .throw _, _⟩ => some { c with txs := c.txs.eraseIdx i }
      | _ => none
  | .abort i => some { c with txs := c.txs.eraseIdx i }
  | .tick d => some { c with state := c.state.tick d }

/-- A condition on the events of a run: which transactions begin, in which
    states a statement runs, in which states a transaction commits. -/
structure Cond (L T : Type) [Schema T] where
  begin : L → Bool
  stmt : Stmt T → State T → Session T → Bool
  commit : L → State T → Session T → Bool

/-- No condition. -/
def Cond.any : Cond L T := ⟨fun _ => true, fun _ _ _ => true, fun _ _ _ => true⟩

/-- Does the condition admit event `e` in `c`? -/
def Cond.admits (C : Cond L T) (c : Config L T ε α) : Event L → Bool
  | .begin l => C.begin l
  | .exec i =>
      match c.txs[i]? with
      | some ⟨_, .step st _, ss⟩ => C.stmt st c.state ss
      | _ => true
  | .finish i =>
      match c.txs[i]? with
      | some ⟨l, .ret _, ss⟩ => C.commit l c.state ss
      | _ => true
  | _ => true

/-- `c'` is reached from `c` by events that the condition admits. -/
inductive Reaches (C : Cond L T) : Config L T ε α → Config L T ε α → Prop
  | refl (c : Config L T ε α) : Reaches C c c
  | tail {c c₁ c₂ : Config L T ε α} (e : Event L) (h : Reaches C c c₁)
      (ha : C.admits c₁ e = true) (hs : c₁.step progOf e = some c₂) : Reaches C c c₂

/-- Run a list of events, first to last, while the condition admits them. -/
def Config.steps (C : Cond L T) (c : Config L T ε α) :
    List (Event L) → Option (Config L T ε α)
  | [] => some c
  | e :: es => if C.admits c e then (c.step progOf e).bind fun c' => c'.steps C es else none

variable {progOf}

/-- A list of events that runs through is a run. -/
theorem Reaches.of_steps {C : Cond L T} {c₀ c c' : Config L T ε α} {es : List (Event L)}
    (h₀ : Reaches progOf C c₀ c) (hs : c.steps progOf C es = some c') :
    Reaches progOf C c₀ c' := by
  induction es generalizing c with
  | nil =>
    cases hs
    exact h₀
  | cons e es ih =>
    unfold Config.steps at hs
    split at hs
    · next ha =>
      obtain ⟨c₁, h₁, h₂⟩ := Option.bind_eq_some_iff.mp hs
      exact ih (h₀.tail e ha h₁) h₂
    · cases hs

/-- Two lists of events, one after the other, with what is observed after each. -/
theorem Reaches.exists_of_steps {β : Type} {C : Cond L T} {c : Config L T ε α}
    (es es' : List (Event L)) (f : Config L T ε α → β) {b b' : β}
    (h : (c.steps progOf C es).bind (fun c₁ =>
      (c₁.steps progOf C es').map fun c₂ => (f c₁, f c₂)) = some (b, b')) :
    ∃ c₁ c₂, Reaches progOf C c c₁ ∧ Reaches progOf C c₁ c₂ ∧ f c₁ = b ∧ f c₂ = b' := by
  obtain ⟨c₁, h₁, h₂⟩ := Option.bind_eq_some_iff.mp h
  obtain ⟨c₂, h₂, heq⟩ := Option.map_eq_some_iff.mp h₂
  obtain ⟨hf, hg⟩ := Prod.mk.inj heq
  exact ⟨c₁, c₂, .of_steps (.refl _) h₁, .of_steps (.refl _) h₂, hf, hg⟩

end PyBoard.Relational
