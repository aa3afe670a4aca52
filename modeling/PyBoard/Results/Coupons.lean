/-
  PyBoard.Results.Coupons — the books of the coupons.

  A coupon is checked when an order is created with it, and again, locked, when the order
  is opened; only the opening takes one from its stock.  When the operations run one after
  the other, the stock is the initial one less the orders completed with the coupon, and
  nobody completes more orders with it than it allows for one user
  (`coupons_accounted`).
-/
import PyBoard.Specs.Serial
import PyBoard.Python.Utc

namespace PyBoard

open Relational

variable {rt : Runtime} {s : State Tbl} {ss : Session Tbl}

/-! ## §1. The books. -/

/-- Serial runs of atomic operations. -/
def atomically : Cond Call Tbl := ⟨fun c => c.op.isAtomic, fun _ _ _ => true, fun _ _ _ => true⟩

/-- The open orders that have a coupon buy a plan at a discount. -/
def OpenOrdersDiscounted (db : Database) : Prop :=
  ∀ o ∈ (db .orders).rows, Order.isOpen o = true → o.Discounted

/-- The number of orders that a run has completed with a coupon. -/
def completedWith (db : Database) (commits : List (Commit Call Tbl)) (coupon_id : Int) : Nat :=
  (db .orders).rows.countP fun o : Order => o.coupon_id = some coupon_id && completedIn commits o.id

/-- The number of completed orders of a user with a coupon. -/
def completedOf (db : Database) (coupon_id user_id : Int) : Nat :=
  (db .orders).rows.countP fun o : Order =>
    o.coupon_id = some coupon_id && o.user_id = user_id && o.status = 3

/-- **The books of the coupons**, after a run from `db₀` to `db` with `commits`. -/
structure CouponsAccounted (db₀ db : Database) (commits : List (Commit Call Tbl)) : Prop where
  /-- The stock is the initial one less the completed orders; no stock stays no stock. -/
  stock : ∀ id c₀, (db₀ .coupon).get? id = some c₀ → (db .coupon).get? id =
    some { c₀ with limit_use := c₀.limit_use.map (· - completedWith db commits id) }
  /-- A stock does not become negative. -/
  nonneg : ∀ id c₀ n₀, (db₀ .coupon).get? id = some c₀ → c₀.limit_use = some n₀ → 0 ≤ n₀ →
    0 ≤ n₀ - completedWith db commits id
  per_user : ∀ id c₀ limit, (db₀ .coupon).get? id = some c₀ →
    c₀.limit_use_with_user = some limit → ∀ user_id,
      (completedOf db id user_id : Int) ≤ max limit (completedOf db₀ id user_id)
  /-- A commit that completes no order with the coupon leaves the coupon as it is. -/
  only_completed : ∀ cm ∈ commits, ∀ id,
    (∀ o, (cm.before.db .orders).get? o.id = some o → o.coupon_id = some id →
      completes cm.before.db cm.after.db o.id = false) →
    (cm.after.db .coupon).get? id = (cm.before.db .coupon).get? id

theorem completedWith_eq (db : Database) (commits : List (Commit Call Tbl)) (coupon_id : Int) :
    (completedWith db commits coupon_id : Int)
      = sumOver db (fun o => if o.coupon_id = some coupon_id then 1 else 0)
          (completedIn commits) := by
  rw [completedWith, Table.countP_eq_sum, sumOver]
  congr 1
  funext o
  by_cases hc : o.coupon_id = some coupon_id <;> simp [hc]

/-! ## §2. One commit. -/

/-- Discounts are kept: they are among the terms of an order. -/
theorem Order.Discounted.congr {o o' : Order} (h : o.Discounted) (hterms : o'.terms = o.terms) :
    o'.Discounted := by
  have hd := Order.isDeposit_congr hterms
  simp only [Order.terms, Prod.mk.injEq] at hterms
  obtain ⟨-, -, -, -, -, -, -, hcoupon, hdiscount⟩ := hterms
  rw [Order.Discounted, hd, hcoupon, hdiscount]
  exact h

theorem OpenOrdersDiscounted.commit {c : Call} (h : OpenOrdersDiscounted s.db)
    (he : Alone rt c s ss) : OpenOrdersDiscounted (s.view ss) := by
  intro o' ho' hopen
  rcases he.open_before ho' hopen with ⟨o, ho, hopen₀, hterms, -⟩ | ⟨hplaced, -⟩
  · exact (h o (Table.mem_of_get? ho) hopen₀).congr hterms
  · exact hplaced.discounted

/-- An order that is completed after a commit, with a coupon, was so before or has become so. -/
theorem Effect.completed_before {c : Call} (h : Effect alone rt c.op s ss ss.ws) {o' : Order}
    (ho' : o' ∈ (s.view ss .orders).rows) (hst : o'.status = 3)
    (hcoupon : o'.coupon_id.isSome = true) :
    (∃ o, (s.db .orders).get? o'.id = some o ∧ o.status = 3 ∧ o'.terms = o.terms) ∨
      completes s.db (s.view ss) o'.id = true := by
  have hstep := h.orderStep o'.id
  have hnew : (s.view ss .orders).get? o'.id = some o' := Table.get?_of_mem ho'
  rw [hnew] at hstep
  generalize hold : (s.db .orders).get? o'.id = old at hstep
  cases hstep with
  | same => exact Or.inl ⟨o', rfl, hst, rfl⟩
  | inserted _ hpay hplaced =>
    rcases hplaced with ⟨hplaced, -⟩ | ⟨-, -, hnone, -⟩
    · rw [hplaced.pending] at hst
      cases hst
    · rw [hnone] at hcoupon
      cases hcoupon
  | kept o _ hterms hst' => exact Or.inl ⟨o, rfl, hst'.symm.trans hst, hterms⟩
  | cancelled => cases hst
  | refused => cases hst
  | opened opened cb _ why hv hws hid hterms =>
    exact Or.inr (completes_iff.mpr ⟨_, _, hold, hnew, Order.isOpen_iff.mpr hv.pending, hst⟩)

/-- A commit that completes no order writes no coupon. -/
theorem Effect.coupons_of_quiet {c : Call} (h : Effect alone rt c.op s ss ss.ws)
    (hatom : c.op.isAtomic = true) (hc : ∀ id, ¬ completes s.db (s.view ss) id = true) :
    s.view ss .coupon = s.db .coupon := by
  unfold State.view at hc ⊢
  generalize hws : ss.ws = ws at h hc
  cases h with
  | nothing => rfl
  | opened opened cb why hv =>
    have hdone := hv.completes_order hws
    rw [State.view, hws] at hdone
    exact absurd hdone (hc _)
  | refused trade_no request order_id ws hop => rw [hop] at hatom; cases hatom
  | cancelled o cur => rfl
  | invoiced user_id method trade_no o cur => rfl
  | updated data o cur => rfl
  | created o => rfl
  | granted order_id o ws hop held h =>
    refine DB.apply_of_table_not_mem _ _ fun w hw => ?_
    rcases h.table hw with h | h | h <;> simp [h]
  | transferred user_id amount user cur o => rfl
  | redeemed user_id code r => rfl

/-- **What the opening of a discounted order does to its coupon.** -/
theorem Opened.Valid.coupon_step {opened : Opened} {cb : Option String}
    (hv : opened.Valid alone rt cb s ss) (hdisc : opened.order.Discounted) {id : Int}
    (hid : opened.order.coupon_id = some id) :
    ∃ k : Coupon, (s.db .coupon).get? id = some k ∧
      (s.db.apply (opened.writes cb) .coupon).get? id
        = some { k with limit_use := k.limit_use.map (· - 1) } ∧
      (∀ n, k.limit_use = some n → 0 < n) ∧
      ∀ limit, k.limit_use_with_user = some limit →
        (usedByUser s.db id opened.order.user_id opened.order.id : Int) < limit := by
  obtain ⟨hd, hpos⟩ := hdisc (by rw [hid]; rfl)
  have htakes : (OrderService.accepted opened.order cb).takesCoupon :=
    ⟨hd, by rw [show (OrderService.accepted opened.order cb).coupon_id = some id from hid]; rfl,
      hpos⟩
  obtain ⟨k, hk⟩ := hv.coupon_passed htakes
  have hkid : k.id = id := Option.some.inj (hk.ordered.symm.trans hid)
  subst hkid
  refine ⟨k, hk.held.committed, ?_, fun n hn => (hk.limited n hn).1, fun limit hlimit => ?_⟩
  · rw [hv.apply_coupons]
    cases hn : k.limit_use with
    | none =>
      rw [hk.unlimited hn]
      have hself : { k with limit_use := (none : Option Int).map (· - 1) } = k := by
        rw [Option.map_none, ← hn]
      rw [hself]
      exact hk.held.committed
    | some n =>
      rw [(hk.limited n hn).2]
      have hput : s.db.apply (couponWrites (some ⟨k, { k with limit_use := some (n - 1) }⟩)) .coupon
          = (s.db .coupon).put { k with limit_use := some (n - 1) } := DB.put_same s.db _ _
      have hself : ∀ k' : Coupon, ((s.db .coupon).put k').get? k'.id = some k' :=
        fun k' => Table.get?_put_self _ k'
      rw [hput]
      exact hself { k with limit_use := some (n - 1) }
  · obtain ⟨s₁, hr₁, hlt⟩ := hk.within limit hlimit
    rw [hr₁.solo_db]
    exact hlt

/-- An opening writes no other coupon. -/
theorem Opened.Valid.other_coupons {opened : Opened} {cb : Option String}
    (hv : opened.Valid alone rt cb s ss) {id : Int} (hid : opened.order.coupon_id ≠ some id) :
    (s.db.apply (opened.writes cb) .coupon).get? id = (s.db .coupon).get? id := by
  rw [hv.apply_coupons]
  cases hc : opened.coupon with
  | none => rfl
  | some u =>
    have hu := hv.coupon_valid u hc
    obtain ⟨n, -, hafter⟩ := hu.stock
    have hkey : u.after.id = u.before.id := by rw [hafter]
    have hput : s.db.apply (couponWrites (some u)) .coupon = (s.db .coupon).put u.after :=
      DB.put_same s.db _ _
    rw [hput]
    refine Table.get?_put_of_ne _ fun h => hid ?_
    have hordered : opened.order.coupon_id = some u.before.id := hu.ordered
    rw [hordered, ← hkey, h]
    rfl

/-! ## §3. The run. -/

variable {db₀ : Database} {commits : List (Commit Call Tbl)}

/-- The users' completed orders grow at most by the order that the commit completes. -/
theorem Effect.completedOf_le {c : Call} (h : Effect alone rt c.op s ss ss.ws) (id user_id : Int)
    (hc : ∀ o, (s.db .orders).get? o.id = some o → o.coupon_id = some id → o.user_id = user_id →
      completes s.db (s.view ss) o.id = false) :
    completedOf (s.view ss) id user_id ≤ completedOf s.db id user_id := by
  refine Table.countP_le_of_keys fun o' ho' hp => ?_
  simp only [Bool.and_eq_true, decide_eq_true_eq] at hp
  obtain ⟨⟨hcoupon, huser⟩, hst⟩ := hp
  rcases h.completed_before ho' hst (by rw [hcoupon]; rfl) with ⟨o, ho, hst₀, hterms⟩ | hdone
  · have hcoupon₀ : o.coupon_id = some id := by
      rw [← hcoupon]
      exact (congrArg (fun t => t.2.2.2.2.2.2.2.1) hterms).symm
    have huser₀ : o.user_id = user_id := by
      rw [← huser]
      exact (congrArg (fun t => t.2.1) hterms).symm
    exact ⟨o, Table.mem_of_get? ho, Table.key_of_get? ho, by simp [hcoupon₀, huser₀, hst₀]⟩
  · obtain ⟨o, o'', ho, ho'', -⟩ := completes_iff.mp hdone
    obtain ⟨o₂, ho₂, hterms, -⟩ := h.ordersEvolve _ o ho
    have hcur : (s.view ss .orders).get? o'.id = some o' := Table.get?_of_mem ho'
    rw [State.commit_db, hcur] at ho₂
    cases ho₂
    have hkey : o.id = o'.id := Table.key_of_get? ho
    have hcoupon₀ : o.coupon_id = o'.coupon_id :=
      (congrArg (fun t => t.2.2.2.2.2.2.2.1) hterms).symm
    have huser₀ : o.user_id = o'.user_id := (congrArg (fun t => t.2.1) hterms).symm
    have hnot := hc o (hkey ▸ ho) (hcoupon₀.trans hcoupon) (huser₀.trans huser)
    rw [hkey, hdone] at hnot
    cases hnot

/-- The opening of an order with a coupon stays within the limit for its user. -/
theorem Opened.Valid.completedOf_le {opened : Opened} {cb : Option String}
    (hv : opened.Valid alone rt cb s ss) (hws : ss.ws = opened.writes cb) {id : Int} (limit : Int)
    (hlimit : (usedByUser s.db id opened.order.user_id opened.order.id : Int) < limit) :
    (completedOf (s.view ss) id opened.order.user_id : Int) ≤ limit := by
  have hsplit := (s.view ss .orders).countP_le_others (fun o : Order =>
    o.coupon_id = some id && o.user_id = opened.order.user_id && o.status = 3) opened.order.id
  have hothers : ((s.view ss .orders).rows.countP fun o : Order =>
      (o.coupon_id = some id && o.user_id = opened.order.user_id && o.status = 3) &&
        !decide (o.id = opened.order.id))
      ≤ usedByUser s.db id opened.order.user_id opened.order.id := by
    refine Table.countP_le_of_keys fun o' ho' hp => ?_
    simp only [Bool.and_eq_true, Bool.not_eq_true', decide_eq_true_eq, decide_eq_false_iff_not]
      at hp
    obtain ⟨⟨⟨hcoupon, huser⟩, hst⟩, hne⟩ := hp
    have hcur : (s.db .orders).get? o'.id = some o' := by
      rw [← hv.orders.1 o'.id hne, ← hws]
      exact Table.get?_of_mem ho'
    exact ⟨o', Table.mem_of_get? hcur, rfl, by simp [hcoupon, huser, hst, hne]⟩
  have hcount : completedOf (s.view ss) id opened.order.user_id
      ≤ usedByUser s.db id opened.order.user_id opened.order.id + 1 :=
    hsplit.trans (Nat.add_le_add_right hothers 1)
  omega

/-- What holds along a run. -/
structure CouponBooks (db₀ : Database) (s : State Tbl) (commits : List (Commit Call Tbl)) :
    Prop where
  discounted : OpenOrdersDiscounted s.db
  closed : CompletedAreClosed s commits
  accounted : CouponsAccounted db₀ s.db commits

theorem CouponBooks.start (h : OpenOrdersDiscounted s.db) : CouponBooks s.db s [] := by
  have hnone : ∀ id, completedWith s.db [] id = 0 := fun id => by simp [completedWith, completedIn]
  constructor
  · exact h
  · intro id hid
    cases hid
  · constructor
    · intro id c₀ hc₀
      rw [hnone, hc₀]
      cases hn : c₀.limit_use <;> cases c₀ <;> simp_all
    · intro id c₀ n₀ _ _ hpos
      rw [hnone]
      simpa using hpos
    · intro id c₀ limit _ _ user_id
      exact le_max_right _ _
    · intro cm hcm
      cases hcm

/-- The number of orders completed with a coupon, after one more commit. -/
theorem completedWith_commit {c : Call} (h : CouponBooks db₀ s commits)
    (he : Alone rt c s ss) (id : Int) :
    (completedWith (s.view ss) (⟨c, s, ss⟩ :: commits) id : Int)
      = completedWith s.db commits id + sumOver s.db
          (fun o => if o.coupon_id = some id then 1 else 0) (completes s.db (s.view ss)) := by
  rw [completedWith_eq, completedWith_eq]
  refine sumOver_commit (fun o o' hterms => ?_) (Effect.ordersEvolve he) h.closed
  have hcoupon : o'.coupon_id = o.coupon_id := congrArg (fun t => t.2.2.2.2.2.2.2.1) hterms
  rw [hcoupon]

/-- A commit that completes no order keeps the books. -/
theorem CouponBooks.quiet {c : Call} (h : CouponBooks db₀ s commits) (he : Alone rt c s ss)
    (hatom : c.op.isAtomic = true) (hc : ∀ id, ¬ completes s.db (s.view ss) id = true) :
    CouponsAccounted db₀ (s.view ss) (⟨c, s, ss⟩ :: commits) := by
  have hsame := Effect.coupons_of_quiet he hatom hc
  have hcount : ∀ id, (completedWith (s.view ss) (⟨c, s, ss⟩ :: commits) id : Int)
      = completedWith s.db commits id := by
    intro id
    rw [completedWith_commit h he, sumOver_of_none hc, add_zero]
  constructor
  · intro id c₀ hc₀
    rw [hsame, hcount]
    exact h.accounted.stock id c₀ hc₀
  · intro id c₀ n₀ hc₀ hn₀ hpos
    rw [hcount]
    exact h.accounted.nonneg id c₀ n₀ hc₀ hn₀ hpos
  · intro id c₀ limit hc₀ hlimit user_id
    have hle := Effect.completedOf_le he id user_id
      fun o _ _ _ => Bool.eq_false_iff.mpr (hc o.id)
    have := h.accounted.per_user id c₀ limit hc₀ hlimit user_id
    omega
  · intro cm hcm id hnone
    rcases List.mem_cons.mp hcm with rfl | hcm
    · change (s.view ss .coupon).get? id = _
      rw [hsame]
    · exact h.accounted.only_completed cm hcm id hnone

/-- The opening of an order keeps the books. -/
theorem CouponBooks.opened {c : Call} (h : CouponBooks db₀ s commits) (he : Alone rt c s ss)
    {opened : Opened} {cb : Option String} (hv : opened.Valid alone rt cb s ss)
    (hws : ss.ws = opened.writes cb) :
    CouponsAccounted db₀ (s.view ss) (⟨c, s, ss⟩ :: commits) := by
  have hview : s.view ss = s.db.apply (opened.writes cb) := by rw [State.view, hws]
  have hdisc := h.discounted opened.order (Table.mem_of_get? hv.order_held.committed)
    (Order.isOpen_iff.mpr hv.pending)
  have hcount : ∀ id, (completedWith (s.view ss) (⟨c, s, ss⟩ :: commits) id : Int)
      = completedWith s.db commits id + if opened.order.coupon_id = some id then 1 else 0 := by
    intro id
    rw [completedWith_commit h he, hv.sumOver_completes hws he]
  have honly : ∀ o, (s.db .orders).get? o.id = some o → o ≠ opened.order →
      completes s.db (s.view ss) o.id = false := by
    intro o ho hne
    refine Bool.eq_false_iff.mpr fun hc => hne ?_
    have hid := Opened.only_completes hws he hc
    rw [hid, hv.order_held.committed] at ho
    exact (Option.some.inj ho).symm
  constructor
  · intro id c₀ hc₀
    have hstock := h.accounted.stock id c₀ hc₀
    rw [hcount, hview]
    by_cases hid : opened.order.coupon_id = some id
    · obtain ⟨k, hk, hnew, -, -⟩ := hv.coupon_step hdisc hid
      have hcur : k =
          { c₀ with limit_use := c₀.limit_use.map (· - completedWith s.db commits id) } :=
        Option.some.inj (hk.symm.trans hstock)
      rw [hnew, hcur, if_pos hid]
      cases c₀.limit_use with
      | none => rfl
      | some n₀ => simp [sub_sub]
    · rw [hv.other_coupons hid, if_neg hid, add_zero]
      exact hstock
  · intro id c₀ n₀ hc₀ hn₀ hpos
    have hbefore := h.accounted.nonneg id c₀ n₀ hc₀ hn₀ hpos
    rw [hcount]
    by_cases hid : opened.order.coupon_id = some id
    · -- the stock was positive, or the coupon would have been refused
      obtain ⟨k, hk, -, hstock, -⟩ := hv.coupon_step hdisc hid
      have hcur := Option.some.inj (hk.symm.trans (h.accounted.stock id c₀ hc₀))
      have hleft := hstock (n₀ - completedWith s.db commits id) (by rw [hcur, hn₀]; rfl)
      rw [if_pos hid]
      omega
    · rw [if_neg hid]
      omega
  · intro id c₀ limit hc₀ hlimit user_id
    have hbefore := h.accounted.per_user id c₀ limit hc₀ hlimit user_id
    by_cases hid : opened.order.coupon_id = some id ∧ opened.order.user_id = user_id
    · obtain ⟨hid, rfl⟩ := hid
      obtain ⟨k, hk, -, -, hwithin⟩ := hv.coupon_step hdisc hid
      have hcur := Option.some.inj (hk.symm.trans (h.accounted.stock id c₀ hc₀))
      have hle := hv.completedOf_le hws limit (hwithin limit (by rw [hcur]; exact hlimit))
      exact hle.trans (le_max_left _ _)
    · have hle := Effect.completedOf_le he id user_id
        fun o ho hcoupon huser => honly o ho fun heq => hid ⟨heq ▸ hcoupon, heq ▸ huser⟩
      omega
  · intro cm hcm id hnone
    rcases List.mem_cons.mp hcm with rfl | hcm
    · change (s.view ss .coupon).get? id = _
      rw [hview]
      refine hv.other_coupons fun hid => ?_
      have hnot := hnone opened.order hv.order_held.committed hid
      have hdone := hv.completes_order hws
      rw [show completes s.db (s.view ss) opened.order.id = false from hnot] at hdone
      cases hdone
    · exact h.accounted.only_completed cm hcm id hnone

/-- **One commit keeps the books.** -/
theorem CouponBooks.commit {c : Call} (h : CouponBooks db₀ s commits) (he : Alone rt c s ss)
    (hatom : c.op.isAtomic = true) : CouponBooks db₀ (s.commit ss) (⟨c, s, ss⟩ :: commits) where
  discounted := h.discounted.commit he
  closed := h.closed.commit (Effect.ordersEvolve he)
  accounted := by
    by_cases hc : ∃ id, completes s.db (s.view ss) id = true
    · obtain ⟨id, hc⟩ := hc
      obtain ⟨opened, cb, hv, hws, -⟩ := Effect.of_completes he hc
      exact h.opened he hv hws
    · exact h.quiet he hatom (not_exists.mp hc)

/-- **The books of the coupons agree** after every serial run of atomic operations, and a
    call that raised ends without a trace. -/
theorem coupons_accounted {db : Database} {now : Int} {c : Server}
    (hdisc : OpenOrdersDiscounted db) (hrun : SerialRuns rt atomically (Server.start db now) c) :
    CouponsAccounted db c.state.db c.commits ∧
      ∀ i l e ss (c' : Server), c.txs[i]? = some ⟨l, .throw e, ss⟩ →
        c.step (Call.prog rt) (.finish i) = some c' →
        c'.state = c.state ∧ c'.commits = c.commits := by
  constructor
  · have hbooks := hrun.state_induction (I := CouponBooks db)
      (CouponBooks.start (s := ⟨db, now⟩) hdisc)
      (fun _ _ _ h => ⟨h.discounted, h.closed, h.accounted⟩)
      fun _ _ _ _ hb _ he h => h.commit he hb
    exact hbooks.accounted
  · intro i l e ss c' hi hs
    simp only [Config.step, hi] at hs
    cases hs
    exact ⟨rfl, rfl⟩

/-- A coupon with two uses, one for each user, and a pending order with it. -/
def discounted : Database := Database.empty.apply [
  .put Tbl.users ({ id := 1, email := "a@example.com", password := "", token := "",
                    uuid := "" } : User),
  .put Tbl.plan ({ id := 1, group_id := 1, transfer_enable := 10 } : Plan),
  .put Tbl.coupon ({ id := 1, code := "HALF", type := 1, value := 50, «show» := true,
                     limit_use := some 2, limit_use_with_user := some 1, started_at := 0,
                     ended_at := 4000000000 } : Coupon),
  .put Tbl.orders ({ id := 1, user_id := 1, plan_id := 1, type := 1, period := "onetime_price",
                     trade_no := "A", total_amount := 50, coupon_id := some 1,
                     discount_amount := some 50, created_at := 0 } : Order)]

/-- The stock of the coupon `1`, and the orders that its use completed. -/
def Server.stock (c : Server) : Option (Option Int) × Nat :=
  (((c.state.db .coupon).get? (1 : Int)).map fun k : Coupon => k.limit_use,
    completedWith c.state.db c.commits 1)

/-- The order is marked as paid: one use is gone, for one completed order. -/
theorem coupons_accounted_used : ∃ c : Server,
    SerialRuns Utc.bare atomically (Server.start discounted 1700000000) c ∧
      c.stock = (some (some 1), 1) ∧ CouponsAccounted discounted c.state.db c.commits := by
  obtain ⟨c, hrun, hc⟩ : ∃ c : Server,
      SerialRuns Utc.bare atomically (Server.start discounted 1700000000) c ∧
        c.stock = (some (some 1), 1) :=
    Exclusively.exists_of_steps
      ([.begin ⟨.adminMarkPaid "A", ⟨0, 0, ""⟩⟩] ++ List.replicate 17 (.exec 0) ++ [.finish 0])
      Server.stock (by decide +kernel)
  refine ⟨c, hrun, hc, (coupons_accounted ?_ hrun).1⟩
  intro o ho _ _
  rw [List.mem_singleton.mp ho]
  exact ⟨rfl, by decide⟩

end PyBoard
