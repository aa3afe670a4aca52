/-
  PyBoard.Results.Completion — when a completed order stays completed.

  A cancellation reads its order without a lock and stores the status 2 over
  whatever version is current.  An order that is completed in between loses its
  status (`completed_overwritten`).  As long as no status is written over a
  completion that happened since the order was read, a completed order stays
  completed (`completed_stays_completed`).
-/
import PyBoard.Specs.Orders
import PyBoard.Python.Utc

namespace PyBoard

open Relational

variable {rt : Runtime}

/-! ## §1. The condition. -/

/-- An UPDATE that sets the status of an order does not meet a completion that it has
    not read. -/
def statusUnsurprised : Stmt Tbl → State Tbl → Session Tbl → Bool
  | .update .orders old new, s, ss =>
      match (s.view ss .orders).get? (Tbl.orders.key old) with
      | some cur => old.status = new.status || old.status = cur.status || cur.status ≠ 3
      | none => true
  | _, _, _ => true

/-- The runs of all calls in which every status UPDATE is of this kind. -/
def unsurprised : Cond Call Tbl := ⟨fun _ => true, statusUnsurprised, fun _ _ _ => true⟩

/-- Every order that is completed in `s` is completed in `s'`. -/
def KeepsCompleted (s s' : State Tbl) : Prop :=
  ∀ id o, (s.db .orders).get? id = some o → o.status = 3 →
    ∃ o', (s'.db .orders).get? id = some o' ∧ o'.status = 3

theorem KeepsCompleted.refl (s : State Tbl) : KeepsCompleted s s := fun _ o ho h => ⟨o, ho, h⟩

theorem KeepsCompleted.trans {s₁ s₂ s₃ : State Tbl} (h₁ : KeepsCompleted s₁ s₂)
    (h₂ : KeepsCompleted s₂ s₃) : KeepsCompleted s₁ s₃ := by
  intro id o ho h
  obtain ⟨o₂, ho₂, h⟩ := h₁ id o ho h
  exact h₂ id o₂ ho₂ h

/-- The contract about completed orders. -/
def completionContract : Contract Call Tbl where
  toCond := unsurprised
  Inv _ := True
  Evol _ := KeepsCompleted
  Guar _ s ss := KeepsCompleted s (s.commit ss)
  evol_refl _ := .refl
  evol_trans := .trans
  evol_mono _ h := h
  inv_tick _ h := h
  evol_tick _ _ _ := .refl _
  guar_inv h _ _ := h
  guar_evol _ _ h _ := h

/-! ## §2. One commit. -/

/-- A step under the condition keeps the status 3. -/
theorem OrderStep.keeps_completed {op : Op} {s : State Tbl} {ss : Session Tbl} {id : Int}
    {old new : Option Order} (h : OrderStep completionContract rt op s ss id old new)
    {o : Order} (ho : old = some o) (h3 : o.status = 3) :
    ∃ o', new = some o' ∧ o'.status = 3 := by
  cases h with
  | same => exact ⟨o, ho, h3⟩
  | inserted => cases ho
  | kept o₁ o' hterms hst =>
    cases ho
    exact ⟨o', rfl, hst.trans h3⟩
  | cancelled o₀ o₁ hop hst adm =>
    cases ho
    obtain ⟨s₂, ss₂, hstmt, hcur⟩ := adm
    have hcond : o₀.status = 2 ∨ o₀.status = o.status ∨ o.status ≠ 3 := by
      have : statusUnsurprised (.update .orders o₀ { o₀ with status := 2 }) s₂ ss₂ = true := hstmt
      simpa [statusUnsurprised, hcur, or_assoc] using this
    rcases hcond with h | h | h
    · omega
    · omega
    · exact absurd h3 h
  | refused trade_no request o₁ hop why hst =>
    cases ho
    rcases Order.isOpen_iff.mp hst with h | h <;> omega
  | opened opened cb o' why hv hws hid hterms hst => exact ⟨o', rfl, hst⟩

theorem completion_keeps (c : Call) : completionContract.Keeps c (c.prog rt) :=
  keeps_of_effect c fun _ _ _ h _ id _ ho h3 => (h.orderStep id).keeps_completed ho h3

/-! ## §3. Runs. -/

/-- **A completed order stays completed** in every run in which no status is written over
    a completion that happened since the order was read. -/
theorem completed_stays_completed {db : Database} {now : Int} {c c' : Server} {id : Int}
    {o : Order} (hrun : Runs rt unsurprised (Server.start db now) c)
    (hrun' : Runs rt unsurprised c c') (ho : (c.state.db .orders).get? id = some o)
    (h3 : o.status = 3) :
    ∃ o', (c'.state.db .orders).get? id = some o' ∧ o'.status = 3 := by
  have hok := hrun.sound (C := completionContract) (fun c _ => completion_keeps c)
    (.quiet trivial)
  have hkeeps := hrun'.state_induction (C := completionContract)
    (P := fun s _ => KeepsCompleted c.state s) (fun c _ => completion_keeps c) hok
    (.refl _) (fun _ _ _ _ h => h) fun _ _ _ _ _ _ hg h => h.trans hg
  exact hkeeps id o ho h3

/-! ## §4. A cancellation that comes too late. -/

/-- A user with a pending deposit. -/
def oneDeposit : Database
  | .users => ⟨[{ id := 1, email := "a@example.com", password := "", token := "", uuid := "" }],
      by decide⟩
  | .orders => ⟨[{ id := 1, user_id := 1, plan_id := 0, type := 9, period := "deposit",
                   trade_no := "A", total_amount := 100, created_at := 0 }], by decide⟩
  | _ => Table.empty

/-- The user cancels; before the UPDATE, an administrator marks the order as paid. -/
def paidMeanwhile : List (Event Call) :=
  [.begin ⟨.cancelOrder "A" 1, ⟨0, 0, ""⟩⟩, .begin ⟨.adminMarkPaid "A", ⟨0, 0, ""⟩⟩, .exec 0] ++
    List.replicate 8 (.exec 1) ++ [.finish 1]

/-- The status and the credited balance of `oneDeposit`. -/
def Server.observe (c : Server) : Option Int × Option Int :=
  (((c.state.db .orders).get? (1 : Int)).map Order.status,
    ((c.state.db .users).get? (1 : Int)).map User.balance)

/-- **A completed deposit can be cancelled**: the balance stays credited and the order
    ends with the status 2. -/
theorem completed_overwritten : ∃ c c',
    Runs Utc.bare Cond.any
      (Server.start oneDeposit 1700000000) c ∧
    Runs Utc.bare Cond.any c c' ∧
    c.observe = (some 3, some 100) ∧ c'.observe = (some 2, some 100) :=
  Reaches.exists_of_steps paidMeanwhile [.exec 0, .finish 0] Server.observe (by decide)

/-- A cancellation that reads the completed order is refused, and the order stays
    completed. -/
theorem completed_stays_completed_refused : ∃ c c',
    Runs Utc.bare unsurprised
      (Server.start oneDeposit 1700000000) c ∧
    Runs Utc.bare unsurprised c c' ∧
    ∃ o', (c'.state.db .orders).get? (1 : Int) = some o' ∧ o'.status = 3 := by
  obtain ⟨c, c', hrun, hrun', hpaid, -⟩ : ∃ c c',
      Runs Utc.bare unsurprised
        (Server.start oneDeposit 1700000000) c ∧
      Runs Utc.bare unsurprised c c' ∧
      c.observe = (some 3, some 100) ∧ c'.observe = (some 3, some 100) :=
    Reaches.exists_of_steps
      ([.begin ⟨.adminMarkPaid "A", ⟨0, 0, ""⟩⟩] ++ List.replicate 8 (.exec 0) ++ [.finish 0])
      [.begin ⟨.cancelOrder "A" 1, ⟨0, 0, ""⟩⟩, .exec 0, .finish 0] Server.observe (by decide)
  refine ⟨c, c', hrun, hrun', ?_⟩
  obtain ⟨o, ho, hst⟩ := Option.map_eq_some_iff.mp (congrArg Prod.fst hpaid)
  exact completed_stays_completed hrun hrun' ho hst

end PyBoard
