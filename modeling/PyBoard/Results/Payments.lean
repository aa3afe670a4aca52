/-
  PyBoard.Results.Payments — no order is fulfilled without being paid.

  In a serial run, an order that costs something and ends up completed was marked
  as paid by an administrator, or a notification that its driver verified paid it
  in full (`completed_only_if_paid`).
-/
import PyBoard.Specs.Serial
import PyBoard.Python.Utc

namespace PyBoard

open Relational

variable {rt : Runtime}

/-! ## §1. Evidence. -/

/-- The commit accepts the payment of the order `id`: the call marks it as paid, or it is
    a notification that the driver of an enabled method verified for the order as it was
    stored then, over the invoiced amount (`Verified`). -/
inductive AcceptsPayment (rt : Runtime) (id : Int) (cm : Commit Call Tbl) : Prop
  | marked (o : Order) (ho : (cm.before.db .orders).get? id = some o)
      (hop : cm.label.op.marks o.trade_no)
  | notified (gateway_name payment_uuid : String) (params : JsonDict)
      (hop : cm.label.op = .paymentNotify gateway_name payment_uuid params) (p : Payment)
      (o : Order) (notify : PaymentNotifyResult)
      (hp : (cm.before.db .payment).get? p.id = some p)
      (ho : (cm.before.db .orders).get? id = some o)
      (hv : Verified rt gateway_name payment_uuid params p o notify)

/-- The payment of the order has been accepted. -/
def Order.isAccepted (o : Order) : Bool := o.status = 1 || o.status = 3

/-- Orders that cost something are accepted in the state only if a commit accepted their
    payment, or they were accepted in `db₀` already. -/
def AcceptedArePaid (rt : Runtime) (db₀ : Database) (s : State Tbl)
    (commits : List (Commit Call Tbl)) : Prop :=
  ∀ id o, (s.db .orders).get? id = some o → o.isAccepted = true → 0 < o.total_amount →
    (∃ cm ∈ commits, AcceptsPayment rt id cm) ∨
      ∃ o₀, (db₀ .orders).get? id = some o₀ ∧ o₀.isAccepted = true

/-! ## §2. One commit. -/

section

variable {c : Call} {s : State Tbl} {ss : Session Tbl} {id : Int} {o : Order}

/-- What prompts the opening of an order that costs something accepts its payment, or
    the order was accepted before. -/
theorem Prompt.acceptsPayment {cb : Option String} (why : Prompt alone rt c.op id s cb)
    (ho : (s.db .orders).get? id = some o) (hpos : 0 < o.total_amount) :
    AcceptsPayment rt id ⟨c, s, ss⟩ ∨ o.isAccepted = true := by
  cases why with
  | free user_id method trade_no hop o₁ ho₁ hst hzero =>
    have : o₁ = o := ho₁.unique ho
    rw [this] at hzero
    omega
  | notified gateway_name payment_uuid params hop p o₁ notify hp ho₁ hv =>
    obtain ⟨s₁, hr, hp⟩ := hp
    exact Or.inl (.notified gateway_name payment_uuid params hop p o₁ notify
      (hr.solo_db ▸ hp) ho₁.stored hv)
  | marked trade_no hop o₁ ho₁ htrade hst =>
    exact Or.inl (.marked o₁ ho₁.stored (htrade ▸ hop))
  | paid trade_no hop o₁ ho₁ hst =>
    have : o₁ = o := ho₁.unique ho
    rw [this] at hst
    exact Or.inr (by simp [Order.isAccepted, hst])

/-- A commit accepts an order only with its payment. -/
theorem OrderStep.accepted {old new : Option Order}
    (h : OrderStep alone rt c.op s ss id old new) (hold : (s.db .orders).get? id = old)
    (ho : new = some o) (hacc : o.isAccepted = true) (hpos : 0 < o.total_amount) :
    AcceptsPayment rt id ⟨c, s, ss⟩ ∨
      ∃ o', old = some o' ∧ o'.isAccepted = true ∧ 0 < o'.total_amount := by
  have htotal : ∀ o' : Order, o.terms = o'.terms → o.total_amount = o'.total_amount := by
    intro o' h
    simp only [Order.terms, Prod.mk.injEq] at h
    exact h.2.2.2.2.1
  cases h with
  | same => exact Or.inr ⟨o, ho, hacc, hpos⟩
  | inserted o₁ hpay hnew =>
    cases ho
    rcases hnew with hplaced | ⟨-, hzero⟩
    · simp [Order.isAccepted, hplaced.1.pending] at hacc
    · omega
  | kept o₁ o₂ hterms hst =>
    cases ho
    refine Or.inr ⟨o₁, rfl, ?_, htotal o₁ hterms ▸ hpos⟩
    rw [Order.isAccepted, hst] at hacc
    exact hacc
  | cancelled o₀ o₁ hop hst adm =>
    cases ho
    cases hacc
  | refused trade_no request o₁ hop why hst =>
    cases ho
    exact (why.acceptsPayment hold hpos).imp_right fun h => ⟨o₁, rfl, h, hpos⟩
  | opened opened cb o₁ why hv hws hid hterms hst =>
    cases ho
    have hpos' : 0 < opened.order.total_amount := htotal opened.order hterms ▸ hpos
    exact (why.acceptsPayment hold hpos').imp_right fun h => ⟨opened.order, rfl, h, hpos'⟩

theorem AcceptedArePaid.commit {db₀ : Database} {commits : List (Commit Call Tbl)}
    (h : AcceptedArePaid rt db₀ s commits) (he : Alone rt c s ss) :
    AcceptedArePaid rt db₀ (s.commit ss) (⟨c, s, ss⟩ :: commits) := by
  intro id o ho hacc hpos
  rcases (he.orderStep id).accepted rfl ho hacc hpos with hpaid | ⟨o', ho', hacc', hpos'⟩
  · exact Or.inl ⟨_, List.mem_cons_self, hpaid⟩
  · refine (h id o' ho' hacc' hpos').imp_left ?_
    rintro ⟨cm, hcm, hpaid⟩
    exact ⟨cm, List.mem_cons_of_mem _ hcm, hpaid⟩

end

/-! ## §3. The result. -/

/-- **No unpaid completion**: in every serial run, an order that costs something is
    completed only if the run accepted its payment, unless its payment was accepted
    before the run began. -/
theorem completed_only_if_paid {db : Database} {now : Int} {c : Server}
    (hrun : SerialRuns rt Cond.any (Server.start db now) c) {id : Int} {o : Order}
    (ho : (c.state.db .orders).get? id = some o) (hst : o.status = 3)
    (hpos : 0 < o.total_amount) :
    (∃ cm ∈ c.commits, AcceptsPayment rt id cm) ∨
      ∃ o₀, (db .orders).get? id = some o₀ ∧ o₀.isAccepted = true := by
  have h := hrun.state_induction (I := AcceptedArePaid rt db)
    (fun _ o ho hacc _ => Or.inr ⟨o, ho, hacc⟩) (fun _ _ _ h => h)
    fun _ _ _ _ _ _ he h => h.commit he
  exact h id o ho (by simp [Order.isAccepted, hst]) hpos

/-- A user with a pending deposit. -/
def unpaidDeposit : Database := Database.empty.apply [
  .put Tbl.users ({ id := 1, email := "a@example.com", password := "", token := "",
                    uuid := "" } : User),
  .put Tbl.orders ({ id := 1, user_id := 1, plan_id := 0, type := 9, period := "deposit",
                     trade_no := "A", total_amount := 100, created_at := 0 } : Order)]

/-- The status and the price of an order. -/
def Server.order (c : Server) (id : Int) : Option (Int × Int) :=
  ((c.state.db .orders).get? id).map fun o : Order => (o.status, o.total_amount)

/-- A deposit that an administrator has marked as paid is completed, with evidence. -/
theorem completed_only_if_paid_marked : ∃ c : Server,
    SerialRuns Utc.bare Cond.any (Server.start unpaidDeposit 1700000000) c ∧
      c.order 1 = some (3, 100) ∧ ∃ cm ∈ c.commits, AcceptsPayment Utc.bare 1 cm := by
  obtain ⟨c, hrun, hc⟩ : ∃ c : Server,
      SerialRuns Utc.bare Cond.any (Server.start unpaidDeposit 1700000000) c ∧
        c.order 1 = some (3, 100) :=
    Exclusively.exists_of_steps
      ([.begin ⟨.adminMarkPaid "A", ⟨0, 0, ""⟩⟩] ++ List.replicate 8 (.exec 0) ++ [.finish 0])
      (fun c : Server => c.order 1) (by decide +kernel)
  obtain ⟨o, ho, hfields⟩ := Option.map_eq_some_iff.mp hc
  have hst : o.status = 3 := congrArg Prod.fst hfields
  have hpos : 0 < o.total_amount := by
    rw [show o.total_amount = 100 from congrArg Prod.snd hfields]
    decide
  rcases completed_only_if_paid hrun ho hst hpos with hpaid | ⟨o₀, ho₀, hacc⟩
  · exact ⟨c, hrun, hc, hpaid⟩
  · cases ho₀
    cases hacc

end PyBoard
