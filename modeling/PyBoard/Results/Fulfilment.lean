/-
  PyBoard.Results.Fulfilment — an order is fulfilled exactly once, when it completes.

  The opening of an order runs under the lock of its row, so the effects of an order
  are committed with its change to status 3 and with nothing else.  One path breaks
  this: the admin page that marks an order as paid swallows the refusal of the
  opening, and commits the coupon or the balance that was taken before it
  (`coupon_taken_unfulfilled`).  Every run without such a commit fulfils each order
  exactly once (`fulfilled_exactly_once`).
-/
import PyBoard.Specs.Orders
import PyBoard.Specs.Users
import PyBoard.Python.Utc

namespace PyBoard

open Relational

variable {rt : Runtime}

/-! ## §1. What an order does, and when. -/

/-- The effect of the order `o` on its user: the deposit is credited, or the balance is
    debited and the traffic reset or the plan opened. -/
inductive Fulfilled (rt : Runtime) (settings : List Setting) (o : Order) (u u' : User) : Prop
  | deposit (hd : OrderService.isDeposit o = true) (bonus : Int)
      (hbonus : depositBonusOf rt settings o.total_amount = .ok bonus)
      (h : u'.entitlement
        = { u with balance := u.balance + o.total_amount + bonus }.entitlement)
  | reset (hd : OrderService.isDeposit o = false) (hperiod : o.period = "reset_price")
      (h : u'.entitlement
        = (OrderService.resetTraffic (OrderService.paying o u)).entitlement)
  | plan (hd : OrderService.isDeposit o = false) (p : Plan) (hpid : p.id = o.plan_id)
      (carried : User) (hc : carried = OrderService.paying o u ∨
        carried = OrderService.resetTraffic (OrderService.paying o u)) (expired_at : Int)
      (h : u'.entitlement = (OrderService.entitle carried p expired_at).entitlement)

/-- The operations that credit a user apart from any order. -/
def Op.creditsUser : Op → Bool
  | .redeem .. | .transferCommission .. => true
  | _ => false

/-- **One commit fulfils what it completes.**  It completes at most one order, with the
    order's effect on the user; and a user or a coupon changes only then. -/
structure Fulfils (rt : Runtime) (settings : List Setting) (op : Op) (db db' : Database) :
    Prop where
  alone : ∀ id id', completes db db' id = true → completes db db' id' = true → id = id'
  effects : ∀ id, completes db db' id = true → ∃ o u u', (db .orders).get? id = some o ∧
    (db .users).get? o.user_id = some u ∧ (db' .users).get? o.user_id = some u' ∧
    Fulfilled rt settings o u u'
  users : op.creditsUser = false → ∀ k u, (db .users).get? k = some u →
    ∃ u', (db' .users).get? k = some u' ∧ (u'.entitlement = u.entitlement ∨
      ∃ id o, completes db db' id = true ∧ (db .orders).get? id = some o ∧ o.user_id = k)
  coupons : ∀ k c, (db .coupon).get? k = some c →
    ∃ c', (db' .coupon).get? k = some c' ∧ (c' = c ∨
      (∃ n, c.limit_use = some n ∧ c' = { c with limit_use := some (n - 1) }) ∧
      ∃ id o, completes db db' id = true ∧ (db .orders).get? id = some o ∧ o.coupon_id = some k)

/-- **Exactly-once fulfilment** over the commits of a run. -/
structure ExactlyOnce (rt : Runtime) (settings : List Setting) (commits : List (Commit Call Tbl)) :
    Prop where
  once : ∀ id, commits.countP (fun cm => completes cm.before.db cm.after.db id) ≤ 1
  fulfils : ∀ cm ∈ commits, Fulfils rt settings cm.label.op cm.before.db cm.after.db

/-! ## §2. The condition. -/

/-- Does the opening of `o` take one use of a limited coupon? -/
def takesCoupon (db : Database) (o : Order) : Bool :=
  0 < o.discount_amount.getD 0 &&
    (o.coupon_id.bind fun id => (db .coupon).get? id).any fun c => c.limit_use.isSome

/-- An order whose opening takes a coupon or a balance, and is refused afterwards: the
    balance is too low, or the period has no number of months. -/
def refusedAfterTaking (db : Database) (o : Order) : Bool :=
  !OrderService.isDeposit o && ((db .plan).get? o.plan_id).isSome &&
    ((db .users).get? o.user_id).any fun u =>
      if 0 < OrderService.deduction o ∧ u.balance < OrderService.deduction o then
        takesCoupon db o
      else
        unsupportedPeriod o && (takesCoupon db o || 0 < OrderService.deduction o)

/-- The runs in which the admin page never commits with such an order. -/
def withoutSwallowedRefusals : Cond Call Tbl where
  begin _ := true
  stmt _ _ _ := true
  commit c s _ :=
    match c.op with
    | .markOrderPaidAction trade_no _ =>
        (s.db .orders).rows.all fun o =>
          !(o.trade_no = trade_no && o.isOpen && refusedAfterTaking s.db o)
    | _ => true

/-! ## §3. The contract. -/

/-- What a commit guarantees. -/
structure FulfilmentGuar (rt : Runtime) (settings : List Setting) (c : Call) (s : State Tbl)
    (ss : Session Tbl) : Prop where
  settings_kept : s.view ss .setting = s.db .setting
  evolves : OrdersEvolve s (s.commit ss)
  fulfils : Fulfils rt settings c.op s.db (s.view ss)

/-- The contract about fulfilment, while `settings` are stored. -/
def fulfilmentContract (rt : Runtime) (settings : List Setting) : Contract Call Tbl where
  toCond := withoutSwallowedRefusals
  Inv s := (s.db .setting).rows = settings
  Evol _ := OrdersEvolve
  Guar := FulfilmentGuar rt settings
  evol_refl _ := .refl
  evol_trans := .trans
  evol_mono _ h := h
  inv_tick _ h := h
  evol_tick _ _ _ := .refl _
  guar_inv h _ hg := by rw [State.commit_db, hg.settings_kept]; exact h
  guar_evol _ _ hg _ := hg.evolves

/-! ## §4. Users and coupons. -/

section

variable {C : Contract Call Tbl} {op : Op} {s : State Tbl} {ss : Session Tbl}

/-- What is entitled is fulfilled. -/
theorem Entitled.fulfilled {settings : List Setting} {o : Order} {user user' : User}
    (h : Entitled (fulfilmentContract rt settings) rt o user s ss user') :
    Fulfilled rt settings o user user' := by
  cases h with
  | deposit hd bonus s₁ hi hbonus =>
    have hset : (s₁.db .setting).rows = settings := hi
    exact .deposit hd bonus (hset ▸ hbonus) rfl
  | reset hd hperiod => exact .reset hd hperiod rfl
  | plan hd p hp hpid slot carried expired_at hc =>
    exact .plan hd p hpid carried hc expired_at rfl

/-- The opening of an order keeps the contract. -/
theorem Opened.Valid.fulfils {settings : List Setting} {c : Op} {opened : Opened}
    {cb : Option String} (hv : opened.Valid (fulfilmentContract rt settings) rt cb s ss)
    (hws : ss.ws = opened.writes cb) (h : Effect (fulfilmentContract rt settings) rt c s ss ss.ws) :
    Fulfils rt settings c s.db (s.view ss) := by
  have hid : ∀ id, completes s.db (s.view ss) id = true → id = opened.order.id :=
    fun id hc => Opened.only_completes hws h hc
  have hdone := hv.completes_order hws
  have hview : s.view ss = s.db.apply (opened.writes cb) := by rw [State.view, hws]
  obtain ⟨huser, hothers⟩ := hv.users
  refine ⟨fun id id' hc hc' => (hid id hc).trans (hid id' hc').symm, fun id hc => ?_,
    fun _ k u hu => ?_, fun k c hc => ?_⟩
  · refine ⟨opened.order, opened.user, opened.user', ?_, ?_, ?_, ?_⟩
    · rw [hid id hc]
      exact hv.order_held.committed
    · rw [← hv.user_id]
      exact hv.user_held.committed
    · rw [hview]
      exact huser
    · cases hv.entitled.fulfilled with
      | deposit hd bonus hb h => exact .deposit hd bonus hb h
      | reset hd hperiod h => exact .reset hd hperiod h
      | plan hd p hpid carried hc expired_at h => exact .plan hd p hpid carried hc expired_at h
  · rw [hview]
    by_cases hk : k = opened.order.user_id
    · rw [hk]
      exact ⟨_, huser, Or.inr ⟨_, _, hview ▸ hdone, hv.order_held.committed, rfl⟩⟩
    · obtain ⟨u', hu', he⟩ := hothers k u hk hu
      exact ⟨u', hu', Or.inl he⟩
  · rw [hview, hv.apply_coupons]
    cases hop : opened.coupon with
    | none => exact ⟨c, hc, Or.inl rfl⟩
    | some u =>
      have hu := hv.coupon_valid u hop
      obtain ⟨n, hn, hafter⟩ := hu.stock
      have hput : s.db.apply (couponWrites (some u)) .coupon = (s.db .coupon).put u.after :=
        DB.put_same s.db _ _
      have hkey : u.after.id = u.before.id := by rw [hafter]
      rw [hput, Table.get?_put]
      split
      · next hk =>
        have hkb : k = u.before.id := hk.trans hkey
        have hcur : c = u.before := by
          rw [hkb, hu.held.committed] at hc
          exact (Option.some.inj hc).symm
        refine ⟨u.after, rfl, Or.inr ⟨⟨n, hcur ▸ hn, hcur ▸ hafter⟩, opened.order.id, opened.order,
          hview ▸ hdone, hv.order_held.committed, ?_⟩⟩
        exact hkb ▸ hu.ordered
      · exact ⟨c, hc, Or.inl rfl⟩

/-- A refused opening that takes nothing changes no user and no coupon. -/
theorem RefusedWrites.takes_nothing {order_id : Int} {cb : Option String}
    {ws : List (Write Tbl)} (h : RefusedWrites order_id cb s ss ws)
    (hok : ∀ o, (s.db .orders).get? order_id = some o → o.isOpen = true →
      refusedAfterTaking s.db o = false) :
    s.db.apply ws .users = s.db .users ∧ s.db.apply ws .coupon = s.db .coupon := by
  cases h with
  | missing => exact ⟨rfl, rfl⟩
  | noUser o => exact ⟨rfl, rfl⟩
  | refused o user ws hid hst ho huid hu hr =>
    have hfine := hok o (hid ▸ ho.committed) (Order.isOpen_iff.mpr hst)
    have huser : (s.db .users).get? o.user_id = some user := huid ▸ hu.committed
    have hplan : ∀ (p : Plan), Holds s ss .plan p.id (some p) → p.id = o.plan_id →
        ((s.db .plan).get? o.plan_id).isSome = true := by
      intro p hp hpid
      rw [← hpid, hp.committed]
      rfl
    have htakes : ∀ (c : CouponUse), c.Valid (OrderService.accepted o cb) s ss →
        takesCoupon s.db o = true := by
      intro c hc
      obtain ⟨n, hn, -⟩ := hc.stock
      have hordered : o.coupon_id = some c.before.id := hc.ordered
      have hdisc : 0 < o.discount_amount.getD 0 := hc.discounted
      simp [takesCoupon, hdisc, hordered, hc.held.committed, hn]
    have hded : OrderService.deduction (OrderService.accepted o cb) =
        OrderService.deduction o := rfl
    cases hr with
    | early => exact ⟨rfl, rfl⟩
    | short hd c hc hpos hshort p hp hpid =>
      exfalso
      have hd' : OrderService.isDeposit o = false := hd
      rw [hded] at hpos hshort
      simp [refusedAfterTaking, hd', hplan p hp hpid, huser, htakes c hc, hpos, hshort] at hfine
    | unsupported hd c hc hpaid hperiod p hp hpid =>
      have hd' : OrderService.isDeposit o = false := hd
      have hperiod' : unsupportedPeriod o := hperiod
      rw [hded] at hpaid
      have hnone : takesCoupon s.db o = false ∧ ¬0 < OrderService.deduction o := by
        simpa [refusedAfterTaking, hd', hplan p hp hpid, huser, hpaid, hperiod'] using hfine
      cases c with
      | some u =>
        rw [htakes u (hc u rfl)] at hnone
        cases hnone.1
      | none =>
        have hsame : OrderService.paying (OrderService.accepted o cb) user = user := by
          have hzero : OrderService.deduction o = 0 :=
            le_antisymm (not_lt.mp hnone.2) (le_max_left _ _)
          simp [OrderService.paying, hded, hzero]
        refine ⟨?_, rfl⟩
        rw [DB.apply_filter]
        have hput : s.db.apply [.put .users user] .users = (s.db .users).put user :=
          DB.put_same s.db _ _
        rw [hsame]
        exact hput.trans (Table.put_eq_self hu.committed)

/-- A commit that completes no order, and leaves users and coupons as they are. -/
theorem Fulfils.of_quiet {settings : List Setting} {c : Op} {db db' : Database}
    (hc : ∀ id, ¬ completes db db' id = true)
    (hu : c.creditsUser = false → SameEntitlements (db .users) (db' .users))
    (hcoupon : db' .coupon = db .coupon) : Fulfils rt settings c db db' where
  alone id _ h := absurd h (hc id)
  effects id h := absurd h (hc id)
  users hop k u hk := by
    obtain ⟨u', hu', he⟩ := hu hop k u hk
    exact ⟨u', hu', Or.inl he⟩
  coupons k c hk := ⟨c, by rw [hcoupon]; exact hk, Or.inl rfl⟩

end

/-! ## §5. Every effect keeps the contract. -/

variable {settings : List Setting} {s : State Tbl} {ss : Session Tbl}

/-- The orders that the admin page marks as paid take nothing when they are refused. -/
theorem markedOrder_fine {c : Call} {trade_no : String} {request : AdminUi.Request}
    {order_id : Int} (hop : c.op = .markOrderPaidAction trade_no request)
    (why : Prompt (fulfilmentContract rt settings) rt c.op order_id s (some "manual_operation"))
    (hcommit : withoutSwallowedRefusals.commit c s ss = true) :
    ∀ o, (s.db .orders).get? order_id = some o → o.isOpen = true →
      refusedAfterTaking s.db o = false := by
  intro o ho hopen
  have htrade : o.trade_no = trade_no := by
    rw [hop] at why
    generalize (some "manual_operation" : Option String) = cb at why
    cases why with
    | free user_id method trade_no hop' => cases hop'
    | notified gateway_name payment_uuid params hop' => cases hop'
    | paid trade_no hop' => cases hop'
    | marked trade_no' hop' o₁ hseen htrade hst =>
      obtain ⟨s₁, hr, ho₁⟩ := hseen.when
      obtain ⟨o', ho', ht, -⟩ := hr.evol order_id o₁ ho₁
      rw [ho] at ho'
      cases ho'
      exact ((congrArg Prod.fst ht).trans htrade).trans hop'.symm
  simp only [withoutSwallowedRefusals, hop, List.all_eq_true] at hcommit
  have := hcommit o (Table.mem_of_get? ho)
  simpa [htrade, hopen] using this

/-- **Every effect keeps the contract.** -/
theorem Effect.fulfils {c : Call}
    (h : Effect (fulfilmentContract rt settings) rt c.op s ss ss.ws)
    (hcommit : withoutSwallowedRefusals.commit c s ss = true) :
    Fulfils rt settings c.op s.db (s.view ss) := by
  by_cases hc : ∃ id, completes s.db (s.view ss) id = true
  · obtain ⟨id, hc⟩ := hc
    obtain ⟨opened, cb, hv, hws, -⟩ := h.of_completes hc
    exact hv.fulfils hws h
  have hquiet := not_exists.mp hc
  unfold State.view at hquiet ⊢
  generalize hws : ss.ws = ws at h hquiet
  cases h with
  | nothing => exact .of_quiet hquiet (fun _ => .refl _) rfl
  | opened opened cb why hv =>
    refine absurd (hv.completes_order hws) ?_
    rw [State.view, hws]
    exact hquiet _
  | refused trade_no request order_id ws hop why hr =>
    obtain ⟨husers, hcoupons⟩ := hr.takes_nothing (markedOrder_fine hop why hcommit)
    refine .of_quiet hquiet (fun _ => ?_) hcoupons
    rw [husers]
    exact .refl _
  | cancelled o cur => exact .of_quiet hquiet (fun _ => .refl _) rfl
  | invoiced user_id method trade_no o cur => exact .of_quiet hquiet (fun _ => .refl _) rfl
  | updated data o cur => exact .of_quiet hquiet (fun _ => .refl _) rfl
  | created o => exact .of_quiet hquiet (fun _ => .refl _) rfl
  | granted order_id o ws hop held hw =>
    refine .of_quiet hquiet (fun _ => (hw.sameEntitlements fun _ _ => rfl).1) ?_
    refine DB.apply_of_table_not_mem _ _ fun w hmem => ?_
    rcases hw.table hmem with ht | ht | ht <;> simp [ht]
  | transferred user_id amount user cur o hop =>
    exact .of_quiet hquiet (fun hcredits => by rw [hop] at hcredits; cases hcredits) rfl
  | redeemed user_id code r hop =>
    exact .of_quiet hquiet (fun hcredits => by rw [hop] at hcredits; cases hcredits) rfl

/-- Every call keeps the contract about fulfilment. -/
theorem fulfilment_keeps (c : Call) :
    (fulfilmentContract rt settings).Keeps c (c.prog rt) :=
  keeps_of_effect c fun _ _ _ h hcommit =>
    ⟨DB.apply_of_table_not_mem _ _ fun _ hw => (h.table hw).2.2,
      h.ordersEvolve, h.fulfils hcommit⟩

/-! ## §6. The result. -/

/-- **Every order is fulfilled at most once, and by the commit that completes it**, in every
    run in which the admin page swallows no refusal that comes after the coupon or the
    balance was taken. -/
theorem fulfilled_exactly_once {db : Database} {now : Int} {c : Server}
    (hrun : Runs rt withoutSwallowedRefusals (Server.start db now) c) :
    ExactlyOnce rt (db .setting).rows c.commits := by
  have h := hrun.state_induction (C := fulfilmentContract rt (db .setting).rows)
    (P := fun s cs => ExactlyOnce rt (db .setting).rows cs ∧ CompletedAreClosed s cs)
    (fun c _ => fulfilment_keeps c) (.quiet rfl)
    ⟨⟨fun _ => Nat.zero_le _, fun _ h => by cases h⟩, fun _ h => by cases h⟩
    (fun _ _ _ _ h => h) ?_
  · exact h.1
  rintro l s ss cs - - hg ⟨⟨honce, hall⟩, hclosed⟩
  refine ⟨⟨fun id => ?_, ?_⟩, hclosed.commit hg.evolves⟩
  · rw [List.countP_cons]
    split
    · next hc =>
      have hbefore := hclosed.not_before hc
      rw [completedIn, List.any_eq_false] at hbefore
      rw [List.countP_eq_zero.mpr fun cm hcm => by simpa using hbefore cm hcm]
    · exact honce id
  · intro cm hcm
    rcases List.mem_cons.mp hcm with rfl | hcm
    · exact hg.fulfils
    · exact hall cm hcm

/-- A pending order for one month of a plan, with a coupon and 50 cents of balance. -/
def couponedOrder : Order :=
  { id := 1, user_id := 1, plan_id := 1, coupon_id := some 1, type := 1, period := "month_price",
    trade_no := "A", total_amount := 40, discount_amount := some 10, balance_amount := some 50,
    created_at := 0 }

/-- The order's user, whose balance is `balance` by now, and an administrator. -/
def couponed (balance : Int) : Database
  | .users => ⟨[{ id := 1, email := "a", password := "", token := "a", uuid := "a",
                  balance := balance },
                { id := 2, email := "b", password := "", token := "b", uuid := "b",
                  is_admin := true }], by change ([1, 2] : List Int).Nodup; decide⟩
  | .plan => ⟨[{ id := 1, group_id := 1, transfer_enable := 10, month_price := some 100 }],
      by decide⟩
  | .coupon => ⟨[{ id := 1, code := "OFF", type := 1, value := 10, «show» := true,
                   limit_use := some 5, started_at := 0, ended_at := 4102444800 }], by decide⟩
  | .orders => ⟨[couponedOrder], by decide⟩
  | _ => Table.empty

/-- The administrator presses the button that marks the order as paid. -/
def pressMarkPaid : AdminUi.Request :=
  { token := some "token", csrf_cookie := some "csrf", csrf_header := some "csrf",
    form := some [] }

/-- The interpreter in which the administrator's token is valid. -/
def adminSession : Runtime := Utc.runtime (fun _ => none) (fun _ _ => some 2) []

/-- What is left of coupon 1. -/
def usesLeft (db : Database) : Option Int := ((db .coupon).get? (1 : Int)).bind Coupon.limit_use

/-- The orders of each commit, those it completes, and what is left of coupon 1 before and
    after it. -/
def Server.couponUses (c : Server) : List (List Int × List Int × Option Int × Option Int) :=
  c.commits.map fun cm =>
    let ids := (cm.before.db .orders).rows.map Order.id
    (ids, ids.filter (completes cm.before.db cm.after.db), usesLeft cm.before.db,
      usesLeft cm.after.db)

/-- With enough balance the button completes the order; a second call that waits for the
    lock of the order changes nothing. -/
theorem fulfilled_exactly_once_repeated : ∃ c : Server,
    c.couponUses = [([1], [], some 4, some 4), ([1], [1], some 5, some 4)] ∧
      ExactlyOnce adminSession [] c.commits := by
  obtain ⟨c, hc, huses⟩ := Option.map_eq_some_iff.mp
    (by decide : ((Server.start (couponed 50) 1700000000).steps (Call.prog adminSession)
      withoutSwallowedRefusals
      ([.begin ⟨.markOrderPaidAction "A" pressMarkPaid, ⟨0, 0, ""⟩⟩,
        .begin ⟨.adminMarkPaid "A", ⟨0, 0, ""⟩⟩, .exec 1] ++ List.replicate 21 (.exec 0) ++
        [.finish 0, .exec 0, .finish 0])).map Server.couponUses
      = some [([1], [], some 4, some 4), ([1], [1], some 5, some 4)])
  have hrun : Runs adminSession withoutSwallowedRefusals
      (Server.start (couponed 50) 1700000000) c := .of_steps (.refl _) hc
  exact ⟨c, huses, fulfilled_exactly_once hrun⟩

/-- **The admin page takes a coupon without fulfilling the order**: the balance is too low by
    now, the refusal is shown on the page, and the coupon that was taken before it stays
    taken. -/
theorem coupon_taken_unfulfilled : ∃ c,
    Runs adminSession Cond.any (Server.start (couponed 0) 1700000000) c ∧
      ¬ ExactlyOnce adminSession [] c.commits := by
  obtain ⟨c, hc, huses⟩ := Option.map_eq_some_iff.mp
    (by decide : ((Server.start (couponed 0) 1700000000).steps (Call.prog adminSession) Cond.any
      ([.begin ⟨.markOrderPaidAction "A" pressMarkPaid, ⟨0, 0, ""⟩⟩] ++
        List.replicate 11 (.exec 0) ++ [.finish 0])).map Server.couponUses
      = some [([1], [], some 5, some 4)])
  refine ⟨c, .of_steps (.refl _) hc, fun h => ?_⟩
  obtain ⟨cm, hcm, hobs⟩ := List.map_eq_singleton_iff.mp huses
  simp only [Prod.mk.injEq] at hobs
  obtain ⟨hids, hnone, hbefore, hafter⟩ := hobs
  obtain ⟨k, hk, hlimit⟩ := Option.bind_eq_some_iff.mp hbefore
  obtain ⟨k', hk', hsame | ⟨-, id, o, hdone, ho, -⟩⟩ :=
    (h.fulfils cm (by rw [hcm]; exact List.mem_singleton_self cm)).coupons (1 : Int) k hk
  · rw [usesLeft, hk', hsame] at hafter
    have : some (5 : Int) = some 4 := hlimit.symm.trans hafter
    cases this
  · have hmem : id ∈ (cm.before.db .orders).rows.map Order.id :=
      List.mem_map.mpr ⟨o, Table.mem_of_get? ho, Table.key_of_get? ho⟩
    have := List.mem_filter.mpr ⟨hmem, hdone⟩
    rw [hnone] at this
    cases this

end PyBoard
