/-
  PyBoard.Results.Reservations — the balance that a pending order has reserved.

  `createOrder` puts the balance it deducts into `balance_amount` and takes it when the
  order is opened.  When the operations run one after the other, a user has at most one
  open order, and its `balance_amount` stays available (`reserved_balance_available`): the
  balance of a user falls only when that order itself is opened.  So no opening is refused
  for want of balance (`processPaidOrder_funded`).

  The admin page's "mark paid" is left out: it is not atomic, since it commits what a
  refused opening has written.
-/
import PyBoard.Specs.Serial
import PyBoard.Specs.Refusals
import PyBoard.Python.Utc

namespace PyBoard

open Relational

variable {C : Contract Call Tbl} {rt : Runtime} {s : State Tbl} {ss : Session Tbl}

/-! ## §1. The reserved balance. -/

/-- Runs of atomic operations in which no redeemed card has a negative value. -/
def reserving (rt : Runtime) : Cond Call Tbl where
  begin c := c.op.isAtomic
  stmt _ _ _ := true
  commit c s _ :=
    match c.op with
    | .redeem _ code =>
        match GiftcardService.normalizeCode rt code with
        | .ok code => (s.db .giftcard).rows.all fun g : Giftcard =>
          g.code ≠ code || 0 ≤ g.value.getD 0
        | .error _ => true
    | _ => true

/-- **What the open orders have reserved is there.** -/
structure Reserved (db : Database) : Prop where
  pending : ∀ o ∈ (db .orders).rows, Order.isOpen o = true → o.status = 0
  only : ∀ o ∈ (db .orders).rows, ∀ o' ∈ (db .orders).rows, Order.isOpen o = true →
    Order.isOpen o' = true → o.user_id = o'.user_id → o = o'
  covered : ∀ o ∈ (db .orders).rows, Order.isOpen o = true → 0 < o.balance_amount.getD 0 →
    ∃ u, (db .users).get? o.user_id = some u ∧ o.balance_amount.getD 0 ≤ u.balance

/-! ## §2. Balances. -/

/-- No balance has fallen, except those of `k`. -/
def BalancesKept (except : Option Int) (t t' : Table User.id) : Prop :=
  ∀ k u, t.get? k = some u → ∃ u', t'.get? k = some u' ∧
    (except = some k ∨ u.balance ≤ u'.balance)

theorem BalancesKept.refl (except : Option Int) (t : Table User.id) : BalancesKept except t t :=
  fun _ u hu => ⟨u, hu, Or.inr le_rfl⟩

theorem BalancesKept.trans {except : Option Int} {t₁ t₂ t₃ : Table User.id}
    (h₁ : BalancesKept except t₁ t₂) (h₂ : BalancesKept except t₂ t₃) :
    BalancesKept except t₁ t₃ := by
  intro k u hu
  obtain ⟨u₂, hu₂, hle₂⟩ := h₁ k u hu
  obtain ⟨u₃, hu₃, hle₃⟩ := h₂ k u₂ hu₂
  refine ⟨u₃, hu₃, ?_⟩
  rcases hle₂ with hk | hle₂
  · exact Or.inl hk
  · exact hle₃.imp_right fun hle => hle₂.trans hle

/-- Storing one user. -/
theorem BalancesKept.put {except : Option Int} {t : Table User.id} {cur r : User}
    (hcur : t.get? r.id = some cur) (h : except = some r.id ∨ cur.balance ≤ r.balance) :
    BalancesKept except t (t.put r) := by
  intro k u hu
  rw [Table.get?_put]
  split
  · next hk =>
    rw [hk, hcur] at hu
    cases hu
    rw [hk]
    exact ⟨r, rfl, h⟩
  · exact ⟨u, hu, Or.inr le_rfl⟩

/-- A commission touches no balance. -/
theorem CommissionWrites.balancesKept {o : Order} {ws : List (Write Tbl)} {except : Option Int}
    (h : CommissionWrites C rt o s ss ws) {db : Database}
    (hother : ∀ k, k ≠ o.user_id → (db .users).get? k = (s.db .users).get? k) :
    BalancesKept except (db .users) (db.apply ws .users) := by
  cases h with
  | nothing => exact .refl _ _
  | status o' => exact .refl _ _
  | grant g hg =>
    have hcur : (db .users).get? g.current.id = some g.current := by
      rw [hother _ (hg.current_id ▸ hg.inviter_ne), hg.current_id]
      exact hg.held.committed
    have hput : db.apply g.writes .users
        = (db .users).put (g.inviter.merge (g.inviter.granted g.amount) g.current) :=
      DB.put_same db _ _
    rw [hput]
    exact .put hcur (Or.inr (by simp [User.merge, User.granted]))

/-- An opening takes from the balance of its user only. -/
theorem Opened.Valid.balancesKept {opened : Opened} {cb : Option String}
    (hv : opened.Valid C rt cb s ss) :
    BalancesKept (some opened.order.user_id) (s.db .users)
      (s.db.apply (opened.writes cb) .users) := by
  have hkey : opened.user'.id = opened.order.user_id := hv.entitled.id_eq.trans hv.user_id
  rw [opened.apply_users cb s.db, DB.apply_cons]
  have hstored : s.db.write (.put .users opened.user') .users
      = (s.db .users).put opened.user' := DB.put_same s.db _ _
  refine .trans ?_ (hv.commission_valid.balancesKept fun k hk => ?_)
  · rw [hstored]
    have hcur : (s.db .users).get? opened.user'.id = some opened.user := by
      rw [hv.entitled.id_eq]
      exact hv.user_held.committed
    exact .put hcur (Or.inl (by rw [hkey]))
  · rw [hstored]
    exact Table.get?_put_of_ne _ fun h => hk (h.trans hkey)

/-- **A balance falls only when an order of its user is completed.** -/
theorem Effect.balancesKept {c : Call} (h : Effect alone rt c.op s ss ss.ws)
    (hatom : c.op.isAtomic = true) (hcommit : (reserving rt).commit c s ss = true) :
    ∃ except, BalancesKept except (s.db .users) (s.view ss .users) ∧
      ∀ k, except = some k → ∃ o, (s.db .orders).get? o.id = some o ∧ o.user_id = k ∧
        completes s.db (s.view ss) o.id = true := by
  unfold State.view
  generalize hws : ss.ws = ws at h
  have hquiet : s.db.apply ws .users = s.db .users → ∃ except,
      BalancesKept except (s.db .users) (s.db.apply ws .users) ∧
        ∀ k, except = some k → ∃ o, (s.db .orders).get? o.id = some o ∧ o.user_id = k ∧
          completes s.db (s.db.apply ws) o.id = true := by
    intro hsame
    rw [hsame]
    exact ⟨none, .refl _ _, fun k hk => by cases hk⟩
  cases h with
  | nothing => exact hquiet rfl
  | opened opened cb why hv =>
    have hc := hv.completes_order hws
    rw [State.view, hws] at hc
    refine ⟨_, hv.balancesKept, fun k hk => ⟨opened.order, hv.order_held.committed, ?_, hc⟩⟩
    exact Option.some.inj hk
  | refused trade_no request order_id ws hop => rw [hop] at hatom; cases hatom
  | cancelled o cur => exact hquiet rfl
  | invoiced user_id method trade_no o cur => exact hquiet rfl
  | updated data o cur => exact hquiet rfl
  | created o => exact hquiet rfl
  | granted order_id o ws hop held h =>
    exact ⟨none, h.balancesKept fun _ _ => rfl, fun k hk => by cases hk⟩
  | transferred user_id amount user cur o hop hpos seen adm held =>
    refine ⟨none, ?_, fun k hk => by cases hk⟩
    -- the version that the UPDATE meets is the one that was read
    have hcur : cur = user := by
      have hstored := seen.stored
      rw [held.committed] at hstored
      exact Option.some.inj hstored
    have hput : s.db.apply [.put .users (user.merge (user.transferred amount) cur), .put .orders o]
        .users = (s.db .users).put (user.merge (user.transferred amount) cur) := by
      rw [DB.apply_filter]
      exact DB.put_same s.db _ _
    have hnew : user.merge (user.transferred amount) cur = user.transferred amount := by
      rw [hcur]
      exact Tbl.users.merge_self user (user.transferred amount) rfl
    rw [hput, hnew]
    refine .put seen.stored (Or.inr ?_)
    simp only [User.transferred]
    omega
  | redeemed user_id code r hop huser hv hcode =>
    refine ⟨none, ?_, fun k hk => by cases hk⟩
    rw [r.apply_users]
    have hcur : (s.db .users).get? r.user'.id = some r.user := by
      rw [hv.applied.id_eq]
      exact hv.user_held.committed
    have hvalue : 0 ≤ r.card.value.getD 0 := by
      simp only [reserving, hop, hcode, List.all_eq_true] at hcommit
      simpa using hcommit r.card (Table.mem_of_get? hv.card_held.committed)
    refine .put hcur (Or.inr ?_)
    rw [hv.applied.balance]
    split <;> omega

/-! ## §3. The run. -/

theorem Reserved.start {db : Database} (h : ∀ o ∈ (db .orders).rows, Order.isOpen o = false) :
    Reserved db where
  pending o ho hopen := by rw [h o ho] at hopen; cases hopen
  only o ho _ _ hopen := by rw [h o ho] at hopen; cases hopen
  covered o ho hopen := by rw [h o ho] at hopen; cases hopen

/-- **One operation keeps the reserved balances available.** -/
theorem Reserved.commit {c : Call} (h : Reserved s.db) (he : Alone rt c s ss)
    (hatom : c.op.isAtomic = true) (hcommit : (reserving rt).commit c s ss = true) :
    Reserved (s.view ss) := by
  have hone : OneOpen (s.view ss) := OneOpen.commit ⟨h.pending, h.only⟩ he hatom
    fun o' hplaced o ho huser => hplaced.unpaid.stored o ho huser
  refine ⟨hone.pending, hone.only, ?_⟩
  intro o' ho' hopen hpos
  rcases he.open_before ho' hopen with ⟨o, ho, hopen₀, hterms, -⟩ | ⟨hplaced, hws⟩
  · have huser : o'.user_id = o.user_id := congrArg (fun t => t.2.1) hterms
    have hamount : o'.balance_amount = o.balance_amount :=
      congrArg (fun t => t.2.2.2.2.2.1) hterms
    rw [hamount] at hpos
    rw [huser, hamount]
    obtain ⟨u, hu, hle⟩ := h.covered o (Table.mem_of_get? ho) hopen₀ hpos
    obtain ⟨except, hkept, hexcept⟩ := he.balancesKept hatom hcommit
    obtain ⟨u', hu', hk | hle'⟩ := hkept _ u hu
    · -- the balance may have fallen, but then this order is no longer open
      obtain ⟨o₂, ho₂, huser₂, hc⟩ := hexcept _ hk
      obtain ⟨o₄, o₃, ho₂', ho₃, hopen₂, h3⟩ := completes_iff.mp hc
      have hcurrent : o₂ = o₄ := Option.some.inj (ho₂.symm.trans ho₂')
      rw [← hcurrent] at hopen₂
      have hsame := h.only o₂ (Table.mem_of_get? ho₂) o (Table.mem_of_get? ho) hopen₂ hopen₀
        huser₂
      have hid : o.id = o'.id := Table.key_of_get? ho
      have hcur : (s.view ss .orders).get? o'.id = some o' := Table.get?_of_mem ho'
      rw [hsame, hid, hcur] at ho₃
      cases ho₃
      simp [Order.isOpen, h3] at hopen
    · exact ⟨u', hu', hle.trans hle'⟩
  · obtain ⟨u, hu, hle⟩ := hplaced.reserved hpos
    refine ⟨u, ?_, hle⟩
    rw [State.view, hws]
    exact hu.stored

/-- No opening that runs alone in `s` is refused for want of balance. -/
def NeverShort (rt : Runtime) (s : State Tbl) : Prop :=
  ∀ fresh order_id callback_no,
    wp alone (OrderService.processPaidOrder rt fresh order_id callback_no)
      (fun r _ _ => r ≠ .error (BadRequestException "用户余额不足")) s Session.fresh

/-- Where the reserved balances are available, no opening is refused for want of one. -/
theorem Reserved.neverShort (h : Reserved s.db) : NeverShort rt s := by
  intro fresh order_id callback_no
  refine wp_mono (processPaidOrder_raises (E := fun e => e ≠ shortBalance) (fun _ he => he.1) rfl
    (fun s₁ o u hr₁ ho hst s₂ hr₂ hu hpos hlt => ?_) fun _ _ _ _ _ _ _ => by decide) ?_
  · rw [hr₁.solo_db] at ho
    rw [hr₂.solo_db, hr₁.solo_db] at hu
    have hamount : 0 < o.balance_amount.getD 0 := by
      simp only [OrderService.deduction] at hpos
      omega
    obtain ⟨u', hu', hle⟩ := h.covered o (Table.mem_of_get? ho) (Order.isOpen_iff.mpr hst) hamount
    rw [hu] at hu'
    cases hu'
    simp only [OrderService.deduction] at hlt
    omega
  · rintro (e | _) s' ss' hE heq
    · cases heq
      exact hE _ rfl rfl
    · cases heq

/-- **The balance that a pending order has reserved stays available** in every serial run of
    atomic operations from a state without open orders, and no opening is refused for want
    of balance. -/
theorem reserved_balance_available {db : Database} {now : Int} {c : Server}
    (hstart : ∀ o ∈ (db .orders).rows, Order.isOpen o = false)
    (hrun : SerialRuns rt (reserving rt) (Server.start db now) c) :
    Reserved c.state.db ∧ NeverShort rt c.state := by
  have hreserved : Reserved c.state.db :=
    hrun.state_induction (I := fun s _ => Reserved s.db) (.start hstart) (fun _ _ _ h => h)
      fun _ _ _ _ hb hc he h => h.commit he hb hc
  exact ⟨hreserved, hreserved.neverShort⟩

/-- A user who can pay a part of the price of a plan. -/
def partPayer : Database
  | .users => ⟨[{ id := 1, email := "a@example.com", password := "", token := "", uuid := "",
                  balance := 100, commission_balance := 10 }], by decide⟩
  | .plan => ⟨[{ id := 1, group_id := 1, transfer_enable := 0, «show» := true,
                 month_price := some 150 }], by decide⟩
  | _ => Table.empty

/-- What the order `1` has reserved, and the balance of the user `1`. -/
def Server.reserved (c : Server) : Option (Option Int) × Option Int :=
  (((c.state.db .orders).get? (1 : Int)).map fun o : Order => o.balance_amount,
    ((c.state.db .users).get? (1 : Int)).map fun u : User => u.balance)

/-- An order reserves the balance, and a transfer adds to it. -/
theorem reserved_balance_available_partPayer : ∃ c : Server,
    SerialRuns Utc.bare (reserving Utc.bare) (Server.start partPayer 1700000000) c ∧
      c.reserved = (some (some 100), some 110) ∧ Reserved c.state.db ∧
      NeverShort Utc.bare c.state := by
  obtain ⟨c, hrun, hc⟩ : ∃ c : Server,
      SerialRuns Utc.bare (reserving Utc.bare) (Server.start partPayer 1700000000) c ∧
        c.reserved = (some (some 100), some 110) :=
    Exclusively.exists_of_steps
      ([.begin ⟨.createOrder 1 ⟨1, "month_price", none, none⟩, ⟨1, 0, "A"⟩⟩] ++
        List.replicate 8 (.exec 0) ++ [.finish 0, .begin ⟨.transferCommission 1 10, ⟨2, 0, "B"⟩⟩] ++
        List.replicate 4 (.exec 0) ++ [.finish 0])
      Server.reserved (by decide +kernel)
  refine ⟨c, hrun, hc, reserved_balance_available ?_ hrun⟩
  intro o ho
  cases ho

end PyBoard
