/-
  PyBoard.Results.Pending — when a user has at most one pending order.

  The check for a pending order and the INSERT are two statements, and nothing locks
  the user in between: two requests can both pass the check and both insert
  (`two_orders_pending`).  As long as no request or action that places an order for
  the user begins while another one is live, the user has at most one pending order,
  whatever else runs at the same time (`one_order_pending`).
-/
import PyBoard.Relational.Exclusive
import PyBoard.Specs.Orders
import PyBoard.Specs.Users
import PyBoard.Python.Utc

namespace PyBoard

open Relational

variable {rt : Runtime} {s : State Tbl} {ss : Session Tbl} {user_id : Int} {email : String}

/-! ## §1. The pending orders of a user. -/

/-- The user has at most one pending order. -/
def OnePending (db : Database) (user_id : Int) : Prop :=
  ∀ o ∈ (db .orders).rows, ∀ o' ∈ (db .orders).rows, Order.user_id o = user_id → o.status = 0 →
    Order.user_id o' = user_id → o'.status = 0 → o = o'

/-- The calls that place an order for the user, who has this e-mail address. -/
def placesFor (rt : Runtime) (user_id : Int) (email : String) (c : Call) : Bool :=
  match c.op with
  | .createOrder id _ => id = user_id
  | .adminAssignOrder data => data.email = email
  | .assignOrderAction request =>
      request.form.any fun form =>
        match AdminUi.orderAssignFromForm rt form with
        | .ok data => data.email = email
        | .error _ => false
  | _ => false

/-- No order of the user becomes pending. -/
def PendingKept (user_id : Int) (s s' : State Tbl) : Prop :=
  ∀ id o', (s'.db .orders).get? id = some o' → Order.user_id o' = user_id → o'.status = 0 →
    ∃ o, (s.db .orders).get? id = some o ∧ Order.user_id o = user_id ∧ o.status = 0

theorem PendingKept.refl (s : State Tbl) : PendingKept user_id s s :=
  fun _ o ho huser hst => ⟨o, ho, huser, hst⟩

theorem PendingKept.trans {s₁ s₂ s₃ : State Tbl} (h₁ : PendingKept user_id s₁ s₂)
    (h₂ : PendingKept user_id s₂ s₃) : PendingKept user_id s₁ s₃ := by
  intro id o₃ ho₃ huser₃ hst₃
  obtain ⟨o₂, ho₂, huser₂, hst₂⟩ := h₂ id o₃ ho₃ huser₃ hst₃
  exact h₁ id o₂ ho₂ huser₂ hst₂

/-! ## §2. The contracts. -/

/-- The address of the user stays. -/
def pendingContract (rt : Runtime) (user_id : Int) (email : String) : Contract Call Tbl where
  toCond := Cond.any
  Inv s := ∀ u, (s.db .users).get? user_id = some u → User.email u = email
  Evol _ s s' := ((s'.db .users).get? user_id).map User.email
    = ((s.db .users).get? user_id).map User.email
  Guar c s ss := ((s.view ss .users).get? user_id).map User.email
      = ((s.db .users).get? user_id).map User.email ∧
    (placesFor rt user_id email c = false → PendingKept user_id s (s.commit ss))
  evol_refl _ _ := rfl
  evol_trans h₁ h₂ := h₂.trans h₁
  evol_mono _ h := h
  inv_tick _ h := h
  evol_tick _ _ _ := rfl
  guar_inv h _ hg u hu := by
    have hmap := hg.1
    rw [State.commit_db] at hu
    rw [hu, Option.map_some] at hmap
    obtain ⟨u₀, hu₀, hemail⟩ := Option.map_eq_some_iff.mp hmap.symm
    exact hemail ▸ h u₀ hu₀
  guar_evol _ _ hg _ := hg.1

/-- What a call that places an order for the user may rely on: no other one is placed. -/
def unplaced (user_id : Int) : Contract Call Tbl where
  toCond := Cond.any
  Inv _ := True
  Evol _ := PendingKept user_id
  Guar _ s ss := PendingKept user_id s (s.commit ss)
  evol_refl _ := .refl
  evol_trans := .trans
  evol_mono _ h := h
  inv_tick _ h := h
  evol_tick _ _ _ := .refl _
  guar_inv _ _ _ := trivial
  guar_evol _ _ h _ := h

/-! ## §3. One commit. -/

/-- An order that is pending after a commit was pending before, or has just been placed. -/
theorem Effect.pending_before {C : Contract Call Tbl} {op : Op} (h : Effect C rt op s ss ss.ws)
    {id : Int} {o' : Order} (ho' : (s.view ss .orders).get? id = some o') (hst : o'.status = 0) :
    (∃ o, (s.db .orders).get? id = some o ∧ o.user_id = o'.user_id ∧ o.status = 0) ∨
      (Placed C rt op o' s ∧ ss.ws = [.put .orders o']) := by
  have hstep := h.orderStep id
  rw [ho'] at hstep
  generalize hold : (s.db .orders).get? id = old at hstep
  cases hstep with
  | same => exact Or.inl ⟨o', rfl, rfl, hst⟩
  | inserted _ hpay hplaced =>
    rcases hplaced with hplaced | ⟨h3, -⟩
    · exact Or.inr hplaced
    · omega
  | kept o _ hterms hst' =>
    have huser : o'.user_id = o.user_id := congrArg (fun t => t.2.1) hterms
    exact Or.inl ⟨o, rfl, huser.symm, hst' ▸ hst⟩
  | cancelled => cases hst
  | refused => cases hst
  | opened opened cb _ why hv hws hid hterms h3 => omega

/-- Only the calls that `placesFor` names place an order for the user. -/
theorem Op.places.placesFor {c : Call} (h : c.op.places (pendingContract rt user_id email) rt
    user_id s) (hi : (pendingContract rt user_id email).Inv s) :
    placesFor rt user_id email c = true := by
  have hemail : ∀ u, SeenUser (pendingContract rt user_id email) user_id u s →
      u.email = email := by
    rintro u ⟨s₁, hr, hu⟩
    have hmap : ((s.db .users).get? user_id).map User.email = some u.email := by
      rw [hr.evol, hu, Option.map_some]
    obtain ⟨u', hu', heq⟩ := Option.map_eq_some_iff.mp hmap
    exact heq.symm.trans (hi u' hu')
  obtain ⟨op, fresh⟩ := c
  cases op with
  | createOrder id data =>
    have hid : user_id = id := h
    simp [PyBoard.placesFor, hid]
  | adminAssignOrder data =>
    obtain ⟨u, hu, he⟩ := h
    have hdata : data.email = email := he.symm.trans (hemail u hu)
    simp [PyBoard.placesFor, hdata]
  | assignOrderAction request =>
    obtain ⟨form, data, hform, hdata, u, hu, he⟩ := h
    have hsame : data.email = email := he.symm.trans (hemail u hu)
    simp [PyBoard.placesFor, hform, hdata, hsame]
  | _ => exact h.elim

/-- Every call keeps the contract. -/
theorem pending_keep (c : Call) : (pendingContract rt user_id email).Keeps c (c.prog rt) := by
  refine keeps_of_effect c fun s ss hi h _ => ⟨h.emails user_id, fun hno id o' ho' huser hst => ?_⟩
  rcases h.pending_before ho' hst with ⟨o, ho, huser₀, hst₀⟩ | ⟨hplaced, -⟩
  · exact ⟨o, ho, huser₀.trans huser, hst₀⟩
  · have howner : c.op.places (pendingContract rt user_id email) rt user_id s :=
      huser ▸ hplaced.owner
    rw [howner.placesFor hi] at hno
    cases hno

/-- The effect of a call that places an order for the user while no other one is placed. -/
abbrev Undisturbed (rt : Runtime) (user_id : Int) (c : Call) (s : State Tbl)
    (ss : Session Tbl) : Prop :=
  Effect (unplaced user_id) rt c.op s ss ss.ws

theorem Call.undisturbed_spec (c : Call) (s : State Tbl) :
    wp (unplaced user_id) (c.prog rt) (Outcome (unplaced user_id) (Undisturbed rt user_id) c) s
      Session.fresh := by
  refine wp_mono (c.prog_spec (C := unplaced user_id) (s := s) trivial) ?_
  rintro (e | _) s' ss' h
  · trivial
  · exact fun s'' hr => h.rely hr trivial

/-- An order is placed only where none is pending. -/
theorem Placed.none_pending {op : Op} {o o' : Order} (h : Placed (unplaced user_id) rt op o s)
    (huser : o.user_id = user_id) (ho' : o' ∈ (s.db .orders).rows) (huser' : o'.user_id = user_id) :
    o'.status ≠ 0 := by
  intro hst
  obtain ⟨s₁, hr, hnone⟩ := h.unpaid
  obtain ⟨o₁, ho₁, huser₁, hst₁⟩ := hr.evol _ o' (Table.get?_of_mem ho') huser' hst
  exact hnone o₁ (Table.mem_of_get? ho₁) (huser₁.trans huser.symm) hst₁

/-- One commit keeps the pending order single. -/
theorem OnePending.commit {c : Call} (h : OnePending s.db user_id)
    (hkept : placesFor rt user_id email c = false → PendingKept user_id s (s.commit ss))
    (he : placesFor rt user_id email c = true → Undisturbed rt user_id c s ss) :
    OnePending (s.commit ss).db user_id := by
  -- two orders that were pending before are one
  have hold : ∀ o ∈ (s.view ss .orders).rows, ∀ o' ∈ (s.view ss .orders).rows,
      (∃ o₀, (s.db .orders).get? (Order.id o) = some o₀ ∧ Order.user_id o₀ = user_id ∧
        o₀.status = 0) →
      (∃ o₀, (s.db .orders).get? (Order.id o') = some o₀ ∧ Order.user_id o₀ = user_id ∧
        o₀.status = 0) → o = o' := by
    rintro o ho o' ho' ⟨o₀, ho₀, huser₀, hst₀⟩ ⟨o₀', ho₀', huser₀', hst₀'⟩
    have hsame : o₀ = o₀' := h o₀ (Table.mem_of_get? ho₀) o₀' (Table.mem_of_get? ho₀') huser₀ hst₀
      huser₀' hst₀'
    have hid : o₀.id = o.id := Table.key_of_get? ho₀
    have hid' : o₀'.id = o'.id := Table.key_of_get? ho₀'
    refine Table.eq_of_key_eq _ ho ho' ?_
    change o.id = o'.id
    rw [← hid, ← hid', hsame]
  intro o ho o' ho' huser hst huser' hst'
  rw [State.commit_db] at ho ho'
  cases hf : placesFor rt user_id email c with
  | false =>
    exact hold o ho o' ho' (hkept hf o.id o (Table.get?_of_mem ho) huser hst)
      (hkept hf o'.id o' (Table.get?_of_mem ho') huser' hst')
  | true =>
    rcases (he hf).pending_before (Table.get?_of_mem ho) hst with
      ⟨o₀, ho₀, huser₀, hst₀⟩ | ⟨hplaced, hws⟩ <;>
    rcases (he hf).pending_before (Table.get?_of_mem ho') hst' with
      ⟨o₀', ho₀', huser₀', hst₀'⟩ | ⟨hplaced', hws'⟩
    · exact hold o ho o' ho' ⟨o₀, ho₀, huser₀.trans huser, hst₀⟩
        ⟨o₀', ho₀', huser₀'.trans huser', hst₀'⟩
    · exact absurd hst₀ (hplaced'.none_pending huser' (Table.mem_of_get? ho₀) (huser₀.trans huser))
    · exact absurd hst₀' (hplaced.none_pending huser (Table.mem_of_get? ho₀')
        (huser₀'.trans huser'))
    · rw [hws] at hws'
      injection (List.cons.inj hws').1

/-! ## §4. The result. -/

/-- **At most one pending order**, in every run in which the calls that place orders for the
    user do not overlap. -/
theorem one_order_pending {db : Database} {now : Int} {c : Server}
    (hnone : ∀ o ∈ (db .orders).rows, Order.user_id o = user_id → o.status ≠ 0)
    (hemail : ∀ u, (db .users).get? user_id = some u → User.email u = email)
    (hrun : Exclusively (Call.prog rt) Cond.any (placesFor rt user_id email)
      (Server.start db now) c) : OnePending c.state.db user_id := by
  refine hrun.state_induction (C := pendingContract rt user_id email) (P := unplaced user_id)
    (E := Undisturbed rt user_id) (I := fun s _ => OnePending s.db user_id)
    (fun c _ => pending_keep c) (fun _ => trivial) (fun _ _ _ => rfl)
    (fun c _ _ s => c.undisturbed_spec s) (fun _ _ _ _ hf _ _ hg => hg.2 hf) (.quiet hemail) rfl
    ?_ (fun _ _ _ _ h => h) fun _ _ _ _ _ _ _ _ hg he h => h.commit hg.2 he
  intro o ho _ _ huser hst
  exact absurd hst (hnone o ho huser)

/-- A user and a plan. -/
def buyerAndPlan : Database := Database.empty.apply [
  .put Tbl.users ({ id := 1, email := "a@example.com", password := "", token := "",
                    uuid := "" } : User),
  .put Tbl.plan ({ id := 1, group_id := 1, transfer_enable := 0, «show» := true,
                   month_price := some 150 } : Plan)]

/-- Two requests of user 1 for the plan. -/
def firstOrder : Event Call := .begin ⟨.createOrder 1 ⟨1, "month_price", none, none⟩, ⟨1, 0, "A"⟩⟩
def secondOrder : Event Call :=
  .begin ⟨.createOrder 1 ⟨1, "month_price", none, none⟩, ⟨2, 0, "B"⟩⟩

/-- Is everything over, and which orders are pending? -/
def Server.pending (c : Server) : Bool × List Int :=
  (c.txs.isEmpty,
    ((c.state.db .orders).rows.filter fun o : Order => o.status = 0).map Order.id)

theorem buyerAndPlan_email : ∀ u, (buyerAndPlan .users).get? (1 : Int) = some u →
    User.email u = "a@example.com" := by
  intro u hu
  cases hu
  rfl

/-- The second request finds the order of the first one. -/
theorem one_order_pending_second : ∃ c : Server,
    Exclusively (Call.prog Utc.bare) Cond.any (placesFor Utc.bare 1 "a@example.com")
      (Server.start buyerAndPlan 1700000000) c ∧
    c.pending = (true, [1]) ∧ OnePending c.state.db 1 := by
  obtain ⟨c, hrun, hc⟩ : ∃ c : Server,
      Exclusively (Call.prog Utc.bare) Cond.any (placesFor Utc.bare 1 "a@example.com")
        (Server.start buyerAndPlan 1700000000) c ∧ c.pending = (true, [1]) :=
    Exclusively.exists_of_steps
      ([firstOrder] ++ List.replicate 8 (.exec 0) ++
        [.finish 0, secondOrder, .exec 0, .exec 0, .finish 0])
      Server.pending (by decide +kernel)
  refine ⟨c, hrun, hc, one_order_pending ?_ buyerAndPlan_email hrun⟩
  intro o ho
  cases ho

/-- **Both orders are pending** when the second request passes the check before the first
    one commits. -/
theorem two_orders_pending : (∀ o ∈ (buyerAndPlan .orders).rows, Order.status o ≠ 0) ∧
    ∃ c : Server, Runs Utc.bare Cond.any (Server.start buyerAndPlan 1700000000) c ∧ c.txs = [] ∧
      ¬ OnePending c.state.db 1 := by
  obtain ⟨c, hc, hpending⟩ := Option.map_eq_some_iff.mp
    (by decide +kernel : ((Server.start buyerAndPlan 1700000000).steps (Call.prog Utc.bare)
      Cond.any ([firstOrder] ++ List.replicate 8 (.exec 0) ++ [secondOrder] ++
        List.replicate 8 (.exec 1) ++ [.finish 0, .finish 0])).map
          (fun c : Server => (c.pending, (c.state.db .orders).rows.map fun o : Order =>
            (o.id, o.user_id, o.status))) = some ((true, [1, 2]), [(1, 1, 0), (2, 1, 0)]))
  simp only [Prod.mk.injEq, Server.pending] at hpending
  obtain ⟨⟨hover, -⟩, hrows⟩ := hpending
  refine ⟨fun o ho => (by cases ho), c, .of_steps (.refl _) hc, List.isEmpty_iff.mp hover,
    fun h => ?_⟩
  obtain ⟨o, ho, hfields⟩ := List.mem_map.mp (hrows ▸ List.mem_cons_self)
  obtain ⟨o', ho', hfields'⟩ := List.mem_map.mp (hrows ▸ List.mem_cons_of_mem _ List.mem_cons_self)
  simp only [Prod.mk.injEq] at hfields hfields'
  have hsame : o = o' := h o ho o' ho' hfields.2.1 hfields.2.2 hfields'.2.1 hfields'.2.2
  rw [hsame] at hfields
  omega

end PyBoard
