/-
  PyBoard.Results.Resets — the plan that a traffic packet was bought for.

  A packet resets the traffic of its user, who has to hold the plan of the packet when the
  order is created.  The opening does not look again: a packet that was assigned, or whose
  user lost the plan while the order was open, resets whatever the user has by then
  (`packet_resets_another_plan`).  Where nothing of this happens, every packet that is opened
  belongs to the plan that its user holds (`packets_reset_their_plan`).
-/
import PyBoard.Python.Utc
import PyBoard.Specs.Serial
import PyBoard.Specs.Users

namespace PyBoard

open Relational

variable {rt : Runtime} {s : State Tbl} {ss : Session Tbl}

/-! ## §1. Holders of a plan. -/

/-- The plan of a user and its end. -/
def User.subscription (u : User) : Option Int × Option Int := (u.plan_id, u.expired_at)

/-- The user actively holds the plan. -/
def User.holdsPlan (u : User) (now plan_id : Int) : Prop :=
  u.plan_id = some plan_id ∧ isUserActive now u.expired_at = true

theorem User.holdsPlan.congr {u u' : User} {now plan_id : Int} (h : u.holdsPlan now plan_id)
    (hsame : u'.subscription = u.subscription) : u'.holdsPlan now plan_id := by
  obtain ⟨hplan, hexp⟩ : u'.plan_id = u.plan_id ∧ u'.expired_at = u.expired_at := by
    simpa [User.subscription] using hsame
  unfold User.holdsPlan
  rw [hplan, hexp]
  exact h

/-- A traffic packet of a plan. -/
def Order.isPacket (o : Order) : Bool := o.period = "reset_price" && !OrderService.isDeposit o

theorem Order.isPacket_congr {o o' : Order} (h : o'.terms = o.terms) :
    o'.isPacket = o.isPacket := by
  have hperiod : o'.period = o.period := congrArg (fun t => t.2.2.2.1) h
  rw [Order.isPacket, Order.isPacket, hperiod, Order.isDeposit_congr h]

/-- The user of the order actively holds its plan. -/
def PlanHeld (s : State Tbl) (o : Order) : Prop :=
  ∃ u, (s.db .users).get? o.user_id = some u ∧ u.holdsPlan s.now o.plan_id

/-- **The packets that can be opened are for plans that their users hold.** -/
def PacketsHeld (s : State Tbl) : Prop :=
  ∀ o ∈ (s.db .orders).rows, Order.isOpen o = true → Order.isPacket o = true → PlanHeld s o

/-! ## §2. What a call does to a subscription. -/

/-- The user has the same subscription in both tables. -/
def SubscriptionKept (t t' : Table User.id) (user_id : Int) : Prop :=
  ∀ u, t.get? user_id = some u → ∃ u', t'.get? user_id = some u' ∧ u'.subscription = u.subscription

theorem SubscriptionKept.refl (t : Table User.id) (user_id : Int) :
    SubscriptionKept t t user_id := fun u hu => ⟨u, hu, rfl⟩

theorem subscription_of_entitlement {u u' : User} (h : u'.entitlement = u.entitlement) :
    u'.subscription = u.subscription := by
  simp only [User.entitlement, Prod.mk.injEq] at h
  obtain ⟨-, hplan, -, hexp, -⟩ := h
  rw [User.subscription, User.subscription, hplan, hexp]

/-- Storing a version of a user with the same subscription. -/
theorem SubscriptionKept.put {t : Table User.id} (cur : User) {r : User} {user_id : Int}
    (hcur : t.get? r.id = some cur) (h : r.id = user_id → r.subscription = cur.subscription) :
    SubscriptionKept t (t.put r) user_id := by
  intro u hu
  rw [Table.get?_put]
  split
  · next hid =>
    rw [hid, hcur] at hu
    cases hu
    exact ⟨r, rfl, h hid.symm⟩
  · exact ⟨u, hu, rfl⟩

/-- A refused opening takes the balance at most. -/
theorem RefusedWrites.subscriptionKept {order_id : Int} {cb : Option String}
    {ws : List (Write Tbl)} (h : RefusedWrites order_id cb s ss ws) (user_id : Int) :
    SubscriptionKept (s.db .users) (s.db.apply ws .users) user_id := by
  cases h with
  | missing => exact .refl _ _
  | noUser o => exact .refl _ _
  | refused o user ws hid hst ho huid hu hr =>
    rw [DB.apply_filter]
    cases hr with
    | early => exact .refl _ _
    | short hd c =>
      rw [List.filter_cons, couponWrites_filter (by simp)]
      exact .refl _ _
    | unsupported hd c =>
      rw [List.filter_cons, List.filter_append, couponWrites_filter (by simp)]
      exact SubscriptionKept.put user hu.committed fun _ => rfl

/-- **A subscription changes only by a gift card and by an order of the user.** -/
theorem Effect.subscriptionKept {op : Op} (h : Effect (atOnce s) rt op s ss ss.ws)
    {user_id : Int} (hredeem : ∀ code, op ≠ .redeem user_id code)
    (hopen : ∀ o : Order, (s.db .orders).get? o.id = some o → o.user_id = user_id →
      ∀ cb, Prompt (atOnce s) rt op o.id s cb → completes s.db (s.view ss) o.id = false) :
    SubscriptionKept (s.db .users) (s.view ss .users) user_id := by
  unfold State.view
  generalize hws : ss.ws = ws at h
  cases h with
  | nothing => exact .refl _ _
  | opened opened cb why hv =>
    have hne : user_id ≠ opened.order.user_id := by
      intro heq
      have hc := hopen _ hv.order_held.committed heq.symm cb why
      rw [hv.completes_order hws] at hc
      cases hc
    intro u hu
    obtain ⟨u', hu', hsame⟩ := hv.users.2 user_id u hne hu
    exact ⟨u', hu', subscription_of_entitlement hsame⟩
  | refused trade_no request order_id ws hop why hr => exact hr.subscriptionKept user_id
  | cancelled o cur => exact .refl _ _
  | invoiced id method trade_no o cur => exact .refl _ _
  | updated data o cur => exact .refl _ _
  | created o => exact .refl _ _
  | granted order_id o ws hop held h =>
    intro u hu
    obtain ⟨u', hu', hsame⟩ := (h.sameEntitlements fun _ _ => rfl).1 user_id u hu
    exact ⟨u', hu', subscription_of_entitlement hsame⟩
  | transferred id amount user cur o hop hpos seen adm held =>
    have hid : cur.id = user.id := Table.key_of_get? held.committed
    rw [DB.apply_filter]
    refine SubscriptionKept.put cur ?_ fun _ => ?_
    · exact hid ▸ held.committed
    · simp [User.subscription, User.merge, User.transferred]
  | redeemed id code r hop huser hv hcode =>
    have hne : r.user'.id ≠ user_id := by
      rw [hv.applied.id_eq, huser]
      intro heq
      exact hredeem code (heq ▸ hop)
    rw [r.apply_users]
    refine SubscriptionKept.put r.user ?_ fun heq => absurd heq hne
    rw [hv.applied.id_eq]
    exact hv.user_held.committed

/-- A card that is redeemed by a holder of the plan leaves him the plan, unless it is a plan
    card and his subscription has no end. -/
theorem Giftcard.Kind.holdsPlan {g : Giftcard} {now : Int} {db : Database} {user user' : User}
    {plan_id : Int} (h : g.Kind now db user user') (hholds : user.holdsPlan now plan_id)
    (hends : g.type = 5 → ∃ e, user.expired_at = some e ∧ e ≠ 0) : user'.holdsPlan now plan_id := by
  obtain ⟨hplan, hactive⟩ := hholds
  cases h with
  | balance => exact ⟨hplan, hactive⟩
  | duration _ hpos =>
    refine ⟨hplan, ?_⟩
    simp only [isUserActive, decide_eq_true_eq]
    omega
  | traffic => exact ⟨hplan, hactive⟩
  | reset => exact ⟨hplan, hactive⟩
  | plan h5 p hid hp hexpired =>
    -- such a card is refused while the subscription runs
    obtain ⟨e, he, hne⟩ := hends h5
    rw [he] at hactive
    simp only [isUserActive, decide_eq_true_eq] at hactive
    exact absurd ⟨by rw [hplan]; rfl, by simp [he, hne, hactive]⟩ hexpired

/-! ## §3. Undisturbed steps. -/

/-- **A call that disturbs no open packet**: it assigns packets to holders of their plan only;
    no other order of a user with an open packet is to be opened; and if such a user redeems
    a plan card, his subscription has an end. -/
structure LeavesPackets (rt : Runtime) (c : Call) (s : State Tbl) : Prop where
  assigned : ∀ data, c.op.assigns rt data → data.period = "reset_price" → data.plan_id ≠ 0 →
    ∀ u ∈ (s.db .users).rows, User.email u = data.email → User.holdsPlan u s.now data.plan_id
  opened : ∀ o ∈ (s.db .orders).rows, Order.isOpen o = true → Order.isPacket o = true →
    ∀ o₂ ∈ (s.db .orders).rows, Order.user_id o₂ = Order.user_id o → o₂ ≠ o →
      ∀ cb, ¬Prompt (atOnce s) rt c.op (Order.id o₂) s cb
  redeemed : ∀ user_id code, c.op = .redeem user_id code →
    ∀ o ∈ (s.db .orders).rows, Order.user_id o = user_id → Order.isOpen o = true →
      Order.isPacket o = true → ∀ g ∈ (s.db .giftcard).rows,
        GiftcardService.normalizeCode rt code = .ok (Giftcard.code g) → Giftcard.type g = 5 →
          ∀ u, (s.db .users).get? user_id = some u → ∃ e, u.expired_at = some e ∧ e ≠ 0

/-- What is known of a packet that `createOrder` has just placed. -/
theorem PlanPlaced.planHeld {data : OrderService.OrderCreate} {o : Order}
    (h : PlanPlaced (atOnce s) data o s) (hperiod : o.period = "reset_price") : PlanHeld s o := by
  obtain ⟨user, plan, s₁, huser, -, hid, hlow, hhigh, hbuy, -⟩ := h.agreed
  have hnow : s₁.now = s.now := le_antisymm hhigh hlow
  refine ⟨user, huser.at_once, ?_⟩
  unfold OrderService.checkPurchasable at hbuy
  dsimp only at hbuy
  rw [hperiod, hnow, hid] at hbuy
  by_cases hactive : isUserActive s.now user.expired_at = true
  · by_cases hplan : user.plan_id = some o.plan_id
    · exact ⟨hplan, hactive⟩
    · rw [if_pos ⟨rfl, Or.inr hplan⟩] at hbuy
      cases hbuy
  · rw [if_pos ⟨rfl, Or.inl (by simpa using hactive)⟩] at hbuy
    cases hbuy

/-- An assigned packet is for a holder of the plan. -/
theorem Placed.packet_held {c : Call} {o : Order} (h : Placed (atOnce s) rt c.op o s)
    (hc : LeavesPackets rt c s) (hpacket : o.isPacket = true) : PlanHeld s o := by
  obtain ⟨op, fresh⟩ := c
  obtain ⟨hperiod, hdeposit⟩ : o.period = "reset_price" ∧ OrderService.isDeposit o = false := by
    simpa [Order.isPacket] using hpacket
  have hplan_id : o.plan_id ≠ 0 := by
    intro hzero
    simp [OrderService.isDeposit, hzero] at hdeposit
  cases h.ordered with
  | deposit user_id data hzero hplan => exact absurd hplan hplan_id
  | plan user_id data hplan hp => exact hp.planHeld hperiod
  | assigned op data hassigns hplan hperiod' =>
    obtain ⟨u, hu, hemail⟩ := h.owner.assigned hassigns
    have hstored := hu.at_once
    refine ⟨u, hstored, hplan ▸ ?_⟩
    exact hc.assigned data hassigns (hperiod'.symm.trans hperiod) (hplan ▸ hplan_id) u
      (Table.mem_of_get? hstored) hemail

/-- A holder of a plan who redeems a card still holds it. -/
theorem redeem_holdsPlan {fresh : Fresh} {user_id plan_id : Int} {code : String} {u : User}
    (hrun : (GiftcardService.redeem rt fresh user_id code).run s Session.fresh = (.ok (), ss))
    (hu : (s.db .users).get? user_id = some u) (hholds : u.holdsPlan s.now plan_id)
    (hends : ∀ g ∈ (s.db .giftcard).rows,
      GiftcardService.normalizeCode rt code = .ok (Giftcard.code g) → Giftcard.type g = 5 →
        ∃ e, u.expired_at = some e ∧ e ≠ 0) :
    ∃ u', (s.view ss .users).get? user_id = some u' ∧ u'.holdsPlan s.now plan_id := by
  obtain ⟨r, huser, hr⟩ := redeem_run hrun
  have hsame : r.user = u := by
    have hstored := hr.user
    rw [huser, hu] at hstored
    exact (Option.some.inj hstored).symm
  have hkey : r.user'.id = user_id := hr.applied.id_eq.trans huser
  refine ⟨r.user', ?_, ?_⟩
  · rw [hr.users, ← hkey]
    exact Table.get?_put_self _ _
  · refine hr.applied.kind.holdsPlan (hsame ▸ hholds) fun h5 => ?_
    rw [hsame]
    exact hends r.card (Table.mem_of_get? hr.card) hr.coded h5

/-- **An undisturbing call keeps the packets of its users held.** -/
theorem PacketsHeld.call {c : Call} (h : PacketsHeld s) (hc : LeavesPackets rt c s)
    (hrun : (c.prog rt).run s Session.fresh = (.ok (), ss)) : PacketsHeld (s.commit ss) := by
  have he := Call.run_effect hrun
  intro o' ho' hopen' hpacket'
  rcases he.open_before ho' hopen' with ⟨o, ho, hopen, hterms, -⟩ | ⟨hplaced, hws⟩
  · have huser_id : o'.user_id = o.user_id := congrArg (fun t => t.2.1) hterms
    have hplan_id : o'.plan_id = o.plan_id := congrArg (fun t => t.2.2.1) hterms
    have hid : o.id = o'.id := Table.key_of_get? ho
    rw [Order.isPacket_congr hterms] at hpacket'
    have hmem := Table.mem_of_get? ho
    obtain ⟨u, hu, hholds⟩ := h o hmem hopen hpacket'
    unfold PlanHeld
    rw [huser_id, hplan_id]
    by_cases hredeem : ∃ code, c.op = .redeem o.user_id code
    · obtain ⟨code, hop⟩ := hredeem
      rw [Call.prog, hop] at hrun
      exact redeem_holdsPlan hrun hu hholds fun g hg hcode h5 =>
        hc.redeemed o.user_id code hop o hmem rfl hopen hpacket' g hg hcode h5 u hu
    · -- the packet is still open, and no other order of the user is opened
      have hothers : ∀ o₂ : Order, (s.db .orders).get? o₂.id = some o₂ → o₂.user_id = o.user_id →
          ∀ cb, Prompt (atOnce s) rt c.op o₂.id s cb →
            completes s.db (s.view ss) o₂.id = false := by
        intro o₂ ho₂ huser₂ cb hprompt
        by_cases hsame : o₂ = o
        · by_contra hcompletes
          obtain ⟨-, o₄, -, ho₄, -, h3⟩ := completes_iff.mp (by simpa using hcompletes)
          have hcur : (s.view ss .orders).get? o'.id = some o' := Table.get?_of_mem ho'
          rw [hsame, hid, hcur] at ho₄
          cases ho₄
          simp [Order.isOpen, h3] at hopen'
        · exact absurd hprompt
            (hc.opened o hmem hopen hpacket' o₂ (Table.mem_of_get? ho₂) huser₂ hsame cb)
      obtain ⟨u', hu', hsame⟩ := he.subscriptionKept (fun code hop => hredeem ⟨code, hop⟩)
        hothers u hu
      exact ⟨u', hu', hholds.congr hsame⟩
  · obtain ⟨u, hu, hholds⟩ := hplaced.packet_held hc hpacket'
    refine ⟨u, ?_, hholds⟩
    rw [State.commit_db, State.view, hws]
    exact hu

/-! ## §4. Runs. -/

/-- The subscriptions of the users with open packets last for `d` seconds. -/
def PacketsOutlast (s : State Tbl) (d : Nat) : Prop :=
  ∀ o ∈ (s.db .orders).rows, Order.isOpen o = true → Order.isPacket o = true →
    ∀ u : User, (s.db .users).get? (Order.user_id o) = some u →
      isUserActive (s.now + d) u.expired_at = true

/-- While they last, the packets stay held. -/
theorem PacketsHeld.tick (h : PacketsHeld s) {d : Nat} (hd : PacketsOutlast s d) :
    PacketsHeld (s.tick d) := by
  intro o ho hopen hpacket
  obtain ⟨u, hu, hplan, -⟩ := h o ho hopen hpacket
  exact ⟨u, hu, hplan, hd o ho hopen hpacket u hu⟩

/-- **Runs in which nothing disturbs an open packet**: calls, one after the other, and time. -/
inductive PacketRun (rt : Runtime) (s₀ : State Tbl) : State Tbl → Prop
  | start : PacketRun rt s₀ s₀
  | call {s : State Tbl} {ss : Session Tbl} (c : Call) (h : PacketRun rt s₀ s)
      (hc : LeavesPackets rt c s)
      (hrun : (c.prog rt).run s Session.fresh = (.ok (), ss)) : PacketRun rt s₀ (s.commit ss)
  | tick {s : State Tbl} (d : Nat) (h : PacketRun rt s₀ s) (hd : PacketsOutlast s d) :
      PacketRun rt s₀ (s.tick d)

/-- **The packets stay held in such a run.** -/
theorem PacketRun.held {s₀ : State Tbl} (h : PacketRun rt s₀ s) (h₀ : PacketsHeld s₀) :
    PacketsHeld s := by
  induction h with
  | start => exact h₀
  | call c _ hc hrun ih => exact ih.call hc hrun
  | tick d _ hd ih => exact ih.tick hd

/-- Opening the order resets the traffic that its user has used. -/
def ResetsTraffic (rt : Runtime) (s : State Tbl) (o : Order) : Prop :=
  ∃ (fresh : Fresh) (cb : Option String) (ss : Session Tbl) (u u' : User),
    (OrderService.processPaidOrder rt fresh o.id cb).run s Session.fresh = (.ok (), ss) ∧
      (s.db .users).get? o.user_id = some u ∧ (u.u ≠ 0 ∨ u.d ≠ 0) ∧
      (s.view ss .users).get? o.user_id = some u' ∧ u'.u = 0 ∧ u'.d = 0

/-- A closed order is not opened again. -/
theorem processPaidOrder_closed {fresh : Fresh} {cb : Option String} {o : Order}
    (ho : (s.db .orders).get? o.id = some o) (hclosed : o.isOpen = false)
    (hrun : (OrderService.processPaidOrder rt fresh o.id cb).run s Session.fresh = (.ok (), ss)) :
    ss.ws = [] := by
  have hpost := wp_run trivial (fun _ _ => rfl)
    (show wp (Contract.solo : Contract Call Tbl)
      (OrderService.processPaidOrder rt fresh o.id cb) _ s Session.fresh
      from processPaidOrder_spec rfl)
  rw [hrun] at hpost
  obtain ⟨ws, he, ⟨rfl, -⟩ | ⟨op, hid, hv, -⟩⟩ := hpost
  · exact he.ws_eq
  · have horder := hv.order_held.committed
    rw [hid, ho] at horder
    have hopen := Order.isOpen_iff.mpr hv.pending
    rw [← Option.some.inj horder, hclosed] at hopen
    cases hopen

/-- Only an open packet resets traffic, among the orders with its period. -/
theorem ResetsTraffic.isPacket {o : Order} (h : ResetsTraffic rt s o)
    (ho : (s.db .orders).get? o.id = some o) (hperiod : o.period = "reset_price") :
    o.isOpen = true ∧ o.isPacket = true := by
  obtain ⟨fresh, cb, ss, u, u', hrun, hu, hused, hu', hzero⟩ := h
  have hopen : o.isOpen = true := by
    by_contra hclosed
    rw [State.view, processPaidOrder_closed ho (by simpa using hclosed) hrun] at hu'
    have hsame : u = u' := Option.some.inj (hu.symm.trans hu')
    rw [← hsame] at hzero
    omega
  refine ⟨hopen, ?_⟩
  obtain ⟨user, user', huser, huser', hopens⟩ :=
    processPaidOrder_opens ho (Order.isOpen_iff.mp hopen) hrun
  cases Option.some.inj (hu.symm.trans huser)
  cases Option.some.inj (hu'.symm.trans huser')
  -- a deposit leaves the traffic alone
  have hdeposit : OrderService.isDeposit o = false := by
    by_contra hd
    cases hopens with
    | deposit => exact absurd hused (by simpa using hzero)
    | reset hno => exact hd hno
    | onetime hno => exact hd hno
    | months hno => exact hd hno
  simp [Order.isPacket, hperiod, hdeposit]

/-- **Undisturbed packets reset the plan they were bought for**: in every state of such a run,
    opening an order for a reset does so only if its user actively holds its plan. -/
theorem packets_reset_their_plan {s₀ : State Tbl} (hrun : PacketRun rt s₀ s)
    (h₀ : PacketsHeld s₀) : PacketsHeld s ∧ ∀ o ∈ (s.db .orders).rows,
      Order.period o = "reset_price" → ResetsTraffic rt s o → PlanHeld s o := by
  have hheld := hrun.held h₀
  refine ⟨hheld, fun o ho hperiod hresets => ?_⟩
  obtain ⟨hopen, hpacket⟩ := hresets.isPacket (Table.get?_of_mem ho) hperiod
  exact hheld o ho hopen hpacket

/-- The holder of a plan that ends soon, and two plans with packets. -/
def packetShop : State Tbl where
  now := 1700000000
  db
    | .users => ⟨[{ id := 1, email := "a@example.com", password := "", token := "a", uuid := "",
                    plan_id := some 1, expired_at := some 1700000100, u := 5, d := 6 }],
        by decide⟩
    | .plan => ⟨[{ id := 1, group_id := 1, transfer_enable := 0, reset_price := some 100 },
                 { id := 2, group_id := 1, transfer_enable := 0, reset_price := some 100 }],
        by decide⟩
    | _ => Table.empty

/-- The holder buys a packet of his plan. -/
def buyPacket : Call := ⟨.createOrder 1 { plan_id := 1, period := "reset_price" }, ⟨1, 0, "T"⟩⟩

/-- An administrator gives him a packet of the other plan. -/
def assignPacket : Call :=
  ⟨.adminAssignOrder { email := "a@example.com", plan_id := 2, period := "reset_price" },
    ⟨1, 0, "T"⟩⟩

/-- What opening the order leaves, after the commit of a call and `d` seconds: the traffic of
    the user, the plan that he actively holds, and the plan of the order. -/
def openedAfter (c : Call) (d : Nat) : Option (Int × Int × Option Int × Option Int) :=
  match (c.prog Utc.bare).run packetShop Session.fresh with
  | (.error _, _) => none
  | (.ok (), placing) =>
      let s := (packetShop.commit placing).tick d
      match (OrderService.processPaidOrder Utc.bare ⟨2, 0, ""⟩ 1 none).run s Session.fresh with
      | (.error _, _) => none
      | (.ok (), ss) => ((s.view ss .users).get? (1 : Int)).map fun u : User =>
          (u.u, u.d, if isUserActive s.now u.expired_at then u.plan_id else none,
            ((s.db .orders).get? (1 : Int)).map Order.plan_id)

/-- **Two packets that reset something else**: one is opened when the plan has ended, the other
    one belongs to a plan that its user never had. -/
theorem packet_resets_another_plan :
    openedAfter buyPacket 200 = some (0, 0, none, some 1) ∧
      openedAfter assignPacket 0 = some (0, 0, some 1, some 2) := by
  decide +kernel

/-- The packet is bought, and can be opened while the plan lasts. -/
theorem packets_reset_bought : ∃ s : State Tbl, PacketRun Utc.bare packetShop s ∧
    s.now = 1700000050 ∧ (s.db .orders).rows.map Order.isOpen = [true] ∧ PacketsHeld s ∧
      ∀ o ∈ (s.db .orders).rows, Order.period o = "reset_price" →
        ResetsTraffic Utc.bare s o → PlanHeld s o := by
  obtain ⟨ss, hrun, horders, husers⟩ : ∃ ss : Session Tbl,
      (buyPacket.prog Utc.bare).run packetShop Session.fresh = (.ok (), ss) ∧
        (packetShop.view ss .orders).rows.map Order.isOpen = [true] ∧
        packetShop.view ss .users = packetShop.db .users :=
    ⟨_, rfl, rfl, rfl⟩
  have hheld : PacketsHeld packetShop := by
    intro o ho
    cases ho
  have hcall : LeavesPackets Utc.bare buyPacket packetShop :=
    ⟨fun _ hassigns => hassigns.elim, (by intro o ho; cases ho), (by intro _ _ hop; cases hop)⟩
  have hlasts : PacketsOutlast (packetShop.commit ss) 50 := by
    intro o ho hopen hpacket u hu
    have hmem := Table.mem_of_get? hu
    rw [State.commit_db, husers] at hmem
    rw [List.mem_singleton.mp hmem]
    show decide ((1700000000 : Int) + 50 < 1700000100) = true
    decide
  have hreached := (PacketRun.start.call buyPacket hcall hrun).tick 50 hlasts
  exact ⟨_, hreached, rfl, horders, packets_reset_their_plan hreached hheld⟩

end PyBoard
