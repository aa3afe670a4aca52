/-
  PyBoard.Results.Wallets — when no money is lost between wallets.

  The wallet of a user is its balance and its commission balance.  A transfer and a
  granted commission compute the new balances from a row that was read without a lock,
  so they overwrite what has been credited since (`deposit_lost`).  As long as no
  UPDATE of a user meets a wallet that has changed since it was read, every wallet is
  its initial value, plus the completed orders, the redeemed cards and the granted
  commissions (`wallets_conserved`).
-/
import PyBoard.Specs.Orders
import PyBoard.Python.Utc

namespace PyBoard

open Relational

variable {rt : Runtime}

/-! ## §1. The books. -/

def User.wallet (u : User) : Int := u.balance + u.commission_balance

/-- The bonus of a deposit under the stored settings. -/
def creditedBonus (rt : Runtime) (settings : List Setting) (total_amount : Int) : Int :=
  match depositBonusOf rt settings total_amount with
  | .ok bonus => bonus
  | .error _ => 0

/-- What the completion of an order adds to the wallet of its user. -/
def Order.worth (rt : Runtime) (settings : List Setting) (o : Order) : Int :=
  (if OrderService.isDeposit o then o.total_amount + creditedBonus rt settings o.total_amount
    else 0) - o.balance_amount.getD 0

/-- What the orders of the user `k` that satisfy `done` add to its wallet. -/
def ordersWorth (rt : Runtime) (settings : List Setting) (db : Database) (done : Int → Bool)
    (k : Int) : Int :=
  (db .orders).sum fun o : Order =>
    if o.user_id = k ∧ done o.id = true then o.worth rt settings else 0

/-- What a redemption adds to the wallet of the user `k`. -/
def GiftcardRedemption.worth (k : Int) (r : GiftcardRedemption) : Int :=
  if r.user_id = k ∧ r.type = 1 then r.value.getD 0 else 0

/-- What a commission log row adds to the wallet of the user `k`. -/
def CommissionLog.worth (k : Int) (l : CommissionLog) : Int :=
  if l.invite_user_id = k then l.get_amount else 0

/-- The redemptions since `db₀`. -/
def redeemedWorth (db₀ db : Database) (k : Int) : Int :=
  (db .giftcard_redemption).sum fun r : GiftcardRedemption =>
    if ((db₀ .giftcard_redemption).get? r.id).isNone then r.worth k else 0

/-- The commission log rows since `db₀`. -/
def grantedWorth (db₀ db : Database) (k : Int) : Int :=
  (db .commission_log).sum fun l : CommissionLog =>
    if ((db₀ .commission_log).get? l.id).isNone then l.worth k else 0

/-- What a run from `db₀` that ends in `db` with `commits` has credited to the user `k`. -/
def credited (rt : Runtime) (db₀ db : Database) (commits : List (Commit Call Tbl)) (k : Int) :
    Int :=
  ordersWorth rt (db₀ .setting).rows db (completedIn commits) k + redeemedWorth db₀ db k +
    grantedWorth db₀ db k

/-- **Every wallet of `db₀` has grown by exactly what was credited.** -/
def Conserved (rt : Runtime) (db₀ db : Database) (commits : List (Commit Call Tbl)) : Prop :=
  ∀ k u₀, (db₀ .users).get? k = some u₀ → ∃ u, (db .users).get? k = some u ∧
    u.wallet = u₀.wallet + credited rt db₀ db commits k

/-! ## §2. The condition. -/

/-- The wallet columns that the UPDATE from `old` to `new` writes are in `cur` as they were
    read. -/
def walletUnchanged (old new cur : User) : Bool :=
  (old.balance = new.balance || cur.balance = old.balance) &&
    (old.commission_balance = new.commission_balance ||
      cur.commission_balance = old.commission_balance)

/-- The runs in which every UPDATE of a user finds the wallet columns it writes as they were
    read. -/
def freshWallets : Cond Call Tbl where
  begin _ := true
  stmt
    | .update .users old new, s, ss =>
        match (s.view ss .users).get? (Tbl.users.key old) with
        | some cur => walletUnchanged old new cur
        | none => true
    | _, _, _ => true
  commit _ _ _ := true

/-- Such an UPDATE moves the wallet by the difference that was computed. -/
theorem User.wallet_merge {old new cur : User} (h : walletUnchanged old new cur = true) :
    (old.merge new cur).wallet = cur.wallet + (new.wallet - old.wallet) := by
  have hcolumn : ∀ (a b c : Int), a = b ∨ c = a → column a b c = c + (b - a) := by
    intro a b c h
    unfold column
    split
    · next heq => omega
    · next hne =>
      rcases h with h | h
      · exact absurd h hne
      · omega
  simp only [walletUnchanged, Bool.and_eq_true, Bool.or_eq_true, decide_eq_true_eq] at h
  simp only [User.wallet, User.merge, hcolumn _ _ _ h.1, hcolumn _ _ _ h.2]
  ring

/-! ## §3. The contract. -/

/-- Every open order is payable. -/
def OpenOrdersPayable (db : Database) : Prop :=
  ∀ id o, (db .orders).get? id = some o → o.isOpen = true → o.Payable

/-- The wallets grow by the orders that become completed, by one redemption and by one
    commission. -/
def WalletsGrow (rt : Runtime) (settings : List Setting) (db db' : Database)
    (r : Option GiftcardRedemption) (l : Option CommissionLog) : Prop :=
  ∀ k u, (db .users).get? k = some u → ∃ u', (db' .users).get? k = some u' ∧
    u'.wallet = u.wallet + ordersWorth rt settings db (completes db db') k +
      (r.map (GiftcardRedemption.worth k)).getD 0 + (l.map (CommissionLog.worth k)).getD 0

/-- A commit adds at most one redemption and one commission, and the wallets grow by them. -/
def Grows (rt : Runtime) (settings : List Setting) (db db' : Database) : Prop :=
  ∃ r l, (db .giftcard_redemption).Adds r (db' .giftcard_redemption) ∧
    (db .commission_log).Adds l (db' .commission_log) ∧ WalletsGrow rt settings db db' r l

/-- What a commit guarantees. -/
structure WalletGuar (rt : Runtime) (settings : List Setting) (s : State Tbl) (ss : Session Tbl) :
    Prop where
  settings_kept : s.view ss .setting = s.db .setting
  evolves : OrdersEvolve s (s.commit ss)
  payable : OpenOrdersPayable (s.view ss)
  grows : Grows rt settings s.db (s.view ss)

/-- The contract about wallets, while `settings` are stored. -/
def walletContract (rt : Runtime) (settings : List Setting) : Contract Call Tbl where
  toCond := freshWallets
  Inv s := (s.db .setting).rows = settings ∧ OpenOrdersPayable s.db
  Evol _ _ _ := True
  Guar _ := WalletGuar rt settings
  evol_refl _ _ := trivial
  evol_trans _ _ := trivial
  evol_mono _ _ := trivial
  inv_tick _ h := h
  evol_tick _ _ _ := trivial
  guar_inv h _ hg := ⟨by rw [State.commit_db, hg.settings_kept]; exact h.1, hg.payable⟩
  guar_evol _ _ _ _ := trivial

/-! ## §4. Orders. -/

variable {settings : List Setting} {s : State Tbl} {ss : Session Tbl}

/-- The worth of an order is among its terms. -/
theorem Order.worth_congr {o o' : Order} (h : o'.terms = o.terms) :
    o'.worth rt settings = o.worth rt settings := by
  have hd := Order.isDeposit_congr h
  simp only [Order.terms, Prod.mk.injEq] at h
  obtain ⟨-, -, -, -, htotal, hbal, -⟩ := h
  rw [Order.worth, Order.worth, hd, htotal, hbal]

/-- A commit keeps the open orders payable. -/
theorem Effect.openOrdersPayable {C : Contract Call Tbl} {op : Op}
    (h : Effect C rt op s ss ss.ws) (hs : OpenOrdersPayable s.db) :
    OpenOrdersPayable (s.view ss) := by
  intro id o' ho' hopen
  cases ho : (s.db .orders).get? id with
  | none =>
    have hstep := h.orderStep id
    rw [ho, ho'] at hstep
    cases hstep with
    | inserted _ hpay _ => exact hpay
  | some o =>
    obtain ⟨o'', ho'', hterms, hclosed⟩ := h.ordersEvolve id o ho
    rw [State.commit_db, ho'] at ho''
    cases ho''
    refine (hs id o ho ?_).congr hterms
    by_contra hne
    rw [hclosed (Bool.eq_false_iff.mpr hne)] at hopen
    cases hopen

theorem ordersWorth_eq (db : Database) (done : Int → Bool) (k : Int) :
    ordersWorth rt settings db done k
      = sumOver db (fun o => if o.user_id = k then o.worth rt settings else 0) done := by
  unfold ordersWorth sumOver
  congr 1
  funext o
  by_cases hk : o.user_id = k <;> simp [hk]

/-- **The completed orders of a run**, after one more commit. -/
theorem ordersWorth_commit {cs : List (Commit Call Tbl)} {c : Call} (k : Int)
    (he : OrdersEvolve s (s.commit ss)) (hclosed : CompletedAreClosed s cs) :
    ordersWorth rt settings (s.view ss) (completedIn (⟨c, s, ss⟩ :: cs)) k
      = ordersWorth rt settings s.db (completedIn cs) k
        + ordersWorth rt settings s.db (completes s.db (s.view ss)) k := by
  rw [ordersWorth_eq, ordersWorth_eq, ordersWorth_eq]
  refine sumOver_commit (fun o o' hterms => ?_) he hclosed
  have huser : o'.user_id = o.user_id := congrArg (fun t => t.2.1) hterms
  rw [huser, Order.worth_congr hterms]

/-! ## §5. Users. -/

theorem ordersWorth_of_none {db db' : Database} (hc : ∀ id, ¬ completes db db' id = true)
    (k : Int) : ordersWorth rt settings db (completes db db') k = 0 := by
  rw [ordersWorth_eq]
  exact sumOver_of_none hc

/-- A commit that completes no order, adds nothing, and leaves the wallets as they are. -/
theorem walletsGrow_of_quiet {db db' : Database} (hc : ∀ id, ¬ completes db db' id = true)
    (h : ∀ k u, (db .users).get? k = some u →
      ∃ u', (db' .users).get? k = some u' ∧ u'.wallet = u.wallet) :
    WalletsGrow rt settings db db' none none := by
  intro k u hu
  obtain ⟨u', hu', hw⟩ := h k u hu
  exact ⟨u', hu', by simp [hw, ordersWorth_of_none hc]⟩

/-- The UPDATE of a user under the condition. -/
theorem Admitted.walletUnchanged {old new cur : User}
    (h : Admitted (walletContract rt settings) (t := .users) old new cur) :
    walletUnchanged old new cur = true := by
  obtain ⟨s, ss, hstmt, hcur⟩ := h
  have : (match (s.view ss .users).get? (Tbl.users.key old) with
    | some cur => PyBoard.walletUnchanged old new cur
    | none => true) = true := hstmt
  rwa [hcur] at this

/-- A commission moves the wallet of the inviter by the amount of its log row. -/
theorem CommissionWrites.grow {o : Order} {ws : List (Write Tbl)}
    (h : CommissionWrites (walletContract rt settings) rt o s ss ws) (db : Database)
    (hother : ∀ k, k ≠ o.user_id → (db .users).get? k = (s.db .users).get? k)
    (hlog : db .commission_log = s.db .commission_log) :
    ∃ l, (db .commission_log).Adds l (db.apply ws .commission_log) ∧
      ∀ k u, (db .users).get? k = some u → ∃ u', (db.apply ws .users).get? k = some u' ∧
        u'.wallet = u.wallet + (l.map (CommissionLog.worth k)).getD 0 := by
  cases h with
  | nothing => exact ⟨none, .nothing, fun k u hu => ⟨u, hu, by simp⟩⟩
  | status o' => exact ⟨none, .nothing, fun k u hu => ⟨u, hu, by simp⟩⟩
  | grant g hg =>
    set r := g.inviter.merge (g.inviter.granted g.amount) g.current with hr
    have hcur : (db .users).get? r.id = some g.current := by
      change (db .users).get? g.current.id = some g.current
      rw [hother _ (hg.current_id ▸ hg.inviter_ne), hg.current_id]
      exact hg.held.committed
    have husers : db.apply g.writes .users = (db .users).put r := DB.put_same db _ _
    have hlogs : db.apply g.writes .commission_log = (db .commission_log).put g.log :=
      DB.put_same _ _ _
    have hmoved : r.wallet - g.current.wallet = g.amount := by
      rw [hr, User.wallet_merge hg.admitted.walletUnchanged, User.granted]
      simp only [User.wallet]
      ring
    refine ⟨some g.log, ?_, fun k u hu => ?_⟩
    · rw [hlogs]
      exact .row g.log (by rw [hlog]; exact hg.log_fresh.committed)
    · rw [husers]
      obtain ⟨u', hu', hw⟩ := User.put_moves User.wallet hcur hu
      refine ⟨u', hu', hw.trans ?_⟩
      have hinviter : r.id = g.log.invite_user_id := hg.current_id.trans hg.log_inviter.symm
      simp [CommissionLog.worth, hmoved, hinviter, hg.log_amount]

/-- The opening of an order moves the wallet of its user by the worth of the order. -/
theorem Entitled.wallet {o : Order} {user user' : User} {cb : Option String}
    (h : Entitled (walletContract rt settings) rt (OrderService.accepted o cb) user s ss user')
    (hpay : o.Payable) : user'.wallet = user.wallet + o.worth rt settings := by
  have hded : OrderService.isDeposit o = false →
      OrderService.deduction o = o.balance_amount.getD 0 ∧
        o.worth rt settings = -o.balance_amount.getD 0 := by
    intro hd
    exact ⟨max_eq_right hpay.nonneg, by simp [Order.worth, hd]⟩
  have hpaying : (OrderService.paying (OrderService.accepted o cb) user).wallet
      = user.wallet - OrderService.deduction o := by
    simp only [OrderService.paying, User.wallet]
    change user.balance - OrderService.deduction o + _ = _
    ring
  cases h with
  | deposit hd bonus s₁ hi hbonus =>
    have hd' : OrderService.isDeposit o = true := hd
    have hnone : o.balance_amount.getD 0 = 0 := by
      refine le_antisymm (not_lt.mp fun hpos => ?_) hpay.nonneg
      rw [(hpay.plan hpos).1] at hd'
      cases hd'
    have hb : creditedBonus rt settings o.total_amount = bonus := by
      have hbonus' : depositBonusOf rt settings o.total_amount = .ok bonus := by
        rw [← hi.1]
        exact hbonus
      rw [creditedBonus, hbonus']
    simp only [User.wallet, Order.worth, hd', hnone, hb, if_true]
    change user.balance + o.total_amount + bonus + _ = _
    ring
  | reset hd hperiod =>
    obtain ⟨h1, h2⟩ := hded hd
    change (OrderService.paying (OrderService.accepted o cb) user).wallet = _
    rw [hpaying, h1, h2]
    ring
  | plan hd p hp hpid slot carried expired_at hc =>
    obtain ⟨h1, h2⟩ := hded hd
    have hcarried : (OrderService.entitle carried p expired_at).wallet
        = (OrderService.paying (OrderService.accepted o cb) user).wallet := by
      rcases hc with rfl | rfl <;> rfl
    rw [hcarried, hpaying, h1, h2]
    ring

/-! ## §6. Every effect keeps the contract. -/

/-- The opening of a payable order. -/
theorem Opened.Valid.grow {c : Op} {opened : Opened} {cb : Option String}
    (hv : opened.Valid (walletContract rt settings) rt cb s ss) (hws : ss.ws = opened.writes cb)
    (h : Effect (walletContract rt settings) rt c s ss ss.ws) (hpay : opened.order.Payable) :
    ∃ l, (s.db .commission_log).Adds l (s.view ss .commission_log) ∧
      WalletsGrow rt settings s.db (s.view ss) none l := by
  have hview : s.view ss = s.db.apply (opened.writes cb) := by rw [State.view, hws]
  have hkey : opened.user'.id = opened.order.user_id := hv.entitled.id_eq.trans hv.user_id
  -- the user of the order is stored first, the commission after it
  set db' := s.db.write (.put .users opened.user') with hdb'
  have hstored : db' .users = (s.db .users).put opened.user' := DB.put_same s.db _ _
  have hlog : db' .commission_log = s.db .commission_log := DB.put_other s.db _ (by decide)
  obtain ⟨l, hadds, hgrow⟩ := hv.commission_valid.grow db' (fun k hk => by
    rw [hstored]
    exact Table.get?_put_of_ne _ fun h => hk (h.trans hkey)) hlog
  have hlogs : s.view ss .commission_log = db'.apply opened.commission .commission_log := by
    rw [hview, opened.apply_commission_log cb s.db]
    exact DB.apply_congr _ hlog.symm
  refine ⟨l, by rw [hlogs, ← hlog]; exact hadds, fun k u hu => ?_⟩
  have hcur : (s.db .users).get? opened.user'.id = some opened.user := by
    rw [hv.entitled.id_eq]
    exact hv.user_held.committed
  obtain ⟨u₁, hu₁, hw₁⟩ := User.put_moves User.wallet hcur hu
  obtain ⟨u₂, hu₂, hw₂⟩ := hgrow k u₁ (by rw [hstored]; exact hu₁)
  refine ⟨u₂, ?_, ?_⟩
  · rw [hview, opened.apply_users cb s.db, DB.apply_cons]
    exact hu₂
  have hworth : ordersWorth rt settings s.db (completes s.db (s.view ss)) k
      = if opened.user'.id = k then opened.user'.wallet - opened.user.wallet else 0 := by
    rw [ordersWorth_eq, hv.sumOver_completes hws h, hkey, hv.entitled.wallet hpay]
    simp
  rw [hw₂, hw₁, hworth]
  simp

/-- An accepted order that is refused keeps every wallet. -/
theorem RefusedWrites.wallets {order_id : Int} {cb : Option String} {ws : List (Write Tbl)}
    (h : RefusedWrites order_id cb s ss ws) (hpay : OpenOrdersPayable s.db) :
    s.db.apply ws .users = s.db .users := by
  cases h with
  | missing => rfl
  | noUser o => rfl
  | refused o user ws hid hst ho huid hu hr =>
    cases hr with
    | early => rfl
    | short hd c =>
      refine DB.apply_of_table_not_mem _ _ fun w hw => ?_
      rcases List.mem_cons.mp hw with rfl | hw
      · simp
      · simp [couponWrites_table hw]
    | unsupported hd c hc hpaid hperiod =>
      have hp := hpay o.id o ho.committed (Order.isOpen_iff.mpr hst)
      -- a known period is never refused, so no balance was taken
      have hzero : OrderService.deduction (OrderService.accepted o cb) = 0 := by
        refine max_eq_left (not_lt.mp fun hpos => ?_)
        have hperiods := (hp.plan hpos).2
        exact not_unsupportedPeriod hperiods hperiod
      have hsame : OrderService.paying (OrderService.accepted o cb) user = user := by
        simp [OrderService.paying, hzero]
      rw [hsame, DB.apply_filter]
      have hput : s.db.apply [.put .users user] .users = (s.db .users).put user :=
        DB.put_same s.db _ _
      simp only [List.filter_cons, List.filter_append, couponWrites_filter, ne_eq, reduceCtorEq,
        not_false_eq_true, Write.table_put, decide_false, Bool.false_eq_true, if_false,
        List.nil_append, decide_true, if_true, List.filter_nil]
      exact hput.trans (Table.put_eq_self hu.committed)

theorem Grows.of_quiet {db db' : Database} (hc : ∀ id, ¬ completes db db' id = true)
    (hu : db' .users = db .users) (hr : db' .giftcard_redemption = db .giftcard_redemption)
    (hl : db' .commission_log = db .commission_log) : Grows rt settings db db' := by
  refine ⟨none, none, ?_, ?_, walletsGrow_of_quiet hc fun k u hk => ⟨u, ?_, rfl⟩⟩
  · rw [hr]; exact .nothing
  · rw [hl]; exact .nothing
  · rw [hu]; exact hk

/-- **Every effect lets the wallets grow** by what it credits. -/
theorem Effect.grow {c : Op} (h : Effect (walletContract rt settings) rt c s ss ss.ws)
    (hpay : OpenOrdersPayable s.db) : Grows rt settings s.db (s.view ss) := by
  by_cases hc : ∃ id, completes s.db (s.view ss) id = true
  · obtain ⟨id, hc⟩ := hc
    obtain ⟨opened, cb, hv, hws, -⟩ := h.of_completes hc
    have hopen := Order.isOpen_iff.mpr hv.pending
    obtain ⟨l, hl, hgrow⟩ := hv.grow hws h (hpay _ _ hv.order_held.committed hopen)
    have hcards : s.view ss .giftcard_redemption = s.db .giftcard_redemption := by
      refine DB.apply_of_table_not_mem _ _ fun w hw => ?_
      rw [hws] at hw
      rcases hv.table hw with h | h | h | h <;> simp [h]
    exact ⟨none, l, by rw [hcards]; exact .nothing, hl, hgrow⟩
  have hnone := not_exists.mp hc
  unfold State.view at hnone ⊢
  generalize hws : ss.ws = ws at h hnone
  cases h with
  | nothing => exact .of_quiet hnone rfl rfl rfl
  | opened opened cb why hv =>
    refine absurd (hv.completes_order hws) ?_
    rw [State.view, hws]
    exact hnone _
  | refused trade_no request order_id ws hop why hr =>
    refine .of_quiet hnone (hr.wallets hpay) ?_ ?_ <;>
    · refine DB.apply_of_table_not_mem _ _ fun w hw => ?_
      rcases hr.table hw with h | h | h <;> simp [h]
  | cancelled o cur => exact .of_quiet hnone rfl rfl rfl
  | invoiced user_id method trade_no o cur => exact .of_quiet hnone rfl rfl rfl
  | updated data o cur => exact .of_quiet hnone rfl rfl rfl
  | created o => exact .of_quiet hnone rfl rfl rfl
  | granted order_id o ws hop held hw =>
    obtain ⟨l, hl, hgrow⟩ := hw.grow s.db (fun _ _ => rfl) rfl
    refine ⟨none, l, ?_, hl, fun k u hu => ?_⟩
    · rw [DB.apply_of_table_not_mem]
      · exact .nothing
      · intro w hmem
        rcases hw.table hmem with h | h | h <;> simp [h]
    · obtain ⟨u', hu', hwallet⟩ := hgrow k u hu
      exact ⟨u', hu', by rw [hwallet, ordersWorth_of_none hnone]; simp⟩
  | transferred user_id amount user cur o hop hpos seen adm held =>
    refine ⟨none, none, .nothing, .nothing, walletsGrow_of_quiet hnone fun k u hu => ?_⟩
    have hcur : (s.db .users).get? (user.merge (user.transferred amount) cur).id = some cur := by
      have hid : cur.id = user.id := Table.key_of_get? held.committed
      change (s.db .users).get? cur.id = some cur
      rw [hid]
      exact held.committed
    have hsame : (user.merge (user.transferred amount) cur).wallet = cur.wallet := by
      rw [User.wallet_merge adm.walletUnchanged, User.transferred]
      simp only [User.wallet]
      ring
    obtain ⟨u', hu', hwallet⟩ := User.put_moves User.wallet hcur hu
    refine ⟨u', ?_, by simp [hwallet, hsame]⟩
    have hput : s.db.apply [.put .users (user.merge (user.transferred amount) cur), .put .orders o]
        .users = (s.db .users).put (user.merge (user.transferred amount) cur) := by
      rw [DB.apply_filter]
      exact DB.put_same s.db _ _
    rw [hput]
    exact hu'
  | redeemed user_id code r hop huser hv =>
    refine ⟨some r.row, none, ?_, .nothing, fun k u huk => ?_⟩
    · rw [r.apply_redemption]
      exact .row r.row hv.row_free.committed
    · have hid : r.user'.id = r.user.id := hv.applied.id_eq
      have hcur : (s.db .users).get? r.user'.id = some r.user := by
        rw [hid]
        exact hv.user_held.committed
      obtain ⟨u', hu', hwallet⟩ := User.put_moves User.wallet hcur huk
      refine ⟨u', by rw [r.apply_users]; exact hu', ?_⟩
      have hmoved : r.user'.wallet - r.user.wallet
          = if r.card.type = 1 then r.card.value.getD 0 else 0 := by
        rw [User.wallet, User.wallet, hv.applied.balance, hv.applied.commission_balance]
        ring
      rw [hwallet, ordersWorth_of_none hnone, hmoved, hid]
      by_cases hk : r.user.id = k <;> simp [GiftcardRedemption.worth, Redemption.row, hk]

/-- Every call keeps the contract about wallets. -/
theorem wallets_keep (c : Call) : (walletContract rt settings).Keeps c (c.prog rt) :=
  keeps_of_effect c fun _ _ hi h _ =>
    ⟨DB.apply_of_table_not_mem _ _ fun _ hw => (h.table hw).2.2, h.ordersEvolve,
      h.openOrdersPayable hi.2, h.grow hi.2⟩

/-! ## §7. The result. -/

/-- One more commit, in the books of a run. -/
theorem Conserved.commit {db₀ : Database} {cs : List (Commit Call Tbl)} {c : Call}
    (h : Conserved rt db₀ s.db cs) (hclosed : CompletedAreClosed s cs)
    (hcards : ∀ id, (s.db .giftcard_redemption).get? id = none →
      (db₀ .giftcard_redemption).get? id = none)
    (hlogs : ∀ id, (s.db .commission_log).get? id = none →
      (db₀ .commission_log).get? id = none)
    (hg : WalletGuar rt (db₀ .setting).rows s ss) :
    Conserved rt db₀ (s.view ss) (⟨c, s, ss⟩ :: cs) := by
  intro k u₀ hu₀
  obtain ⟨u, hu, hwallet⟩ := h k u₀ hu₀
  obtain ⟨r, l, hr, hl, hgrow⟩ := hg.grows
  obtain ⟨u', hu', hwallet'⟩ := hgrow k u hu
  refine ⟨u', hu', ?_⟩
  have hcard : redeemedWorth db₀ (s.view ss) k
      = redeemedWorth db₀ s.db k + (r.map (GiftcardRedemption.worth k)).getD 0 := by
    rw [redeemedWorth, hr.sum, redeemedWorth]
    cases r with
    | none => rfl
    | some r =>
      have hnew : (db₀ .giftcard_redemption).get? r.id = none := hcards _ hr.row_free
      simp [hnew]
  have hlog : grantedWorth db₀ (s.view ss) k
      = grantedWorth db₀ s.db k + (l.map (CommissionLog.worth k)).getD 0 := by
    rw [grantedWorth, hl.sum, grantedWorth]
    cases l with
    | none => rfl
    | some l =>
      have hnew : (db₀ .commission_log).get? l.id = none := hlogs _ hl.row_free
      simp [hnew]
  rw [hwallet', hwallet, credited, credited, hcard, hlog,
    ordersWorth_commit k hg.evolves hclosed]
  ring

/-- **Wallets are conserved** in every run in which no UPDATE of a user meets a wallet that
    has changed since it was read. -/
theorem wallets_conserved {db : Database} {now : Int} {c : Server} (hpay : OpenOrdersPayable db)
    (hrun : Runs rt freshWallets (Server.start db now) c) :
    Conserved rt db c.state.db c.commits := by
  have h := hrun.state_induction (C := walletContract rt (db .setting).rows)
    (P := fun s cs => Conserved rt db s.db cs ∧ CompletedAreClosed s cs ∧
      (∀ id, (s.db .giftcard_redemption).get? id = none →
        (db .giftcard_redemption).get? id = none) ∧
      ∀ id, (s.db .commission_log).get? id = none → (db .commission_log).get? id = none)
    (fun c _ => wallets_keep c) (.quiet ⟨rfl, hpay⟩)
    ⟨?_, fun _ h => (by cases h), fun _ h => h, fun _ h => h⟩ (fun _ _ _ _ h => h) ?_
  · exact h.1
  · intro k u hu
    refine ⟨u, hu, ?_⟩
    have horders : ordersWorth rt (db .setting).rows db (completedIn []) k = 0 :=
      Table.sum_eq_zero fun o _ => by simp [completedIn]
    have hcards : redeemedWorth db db k = 0 := Table.sum_eq_zero fun r hr => by
      have : (db .giftcard_redemption).get? r.id = some r := Table.get?_of_mem hr
      simp [this]
    have hlogs : grantedWorth db db k = 0 := Table.sum_eq_zero fun l hl => by
      have : (db .commission_log).get? l.id = some l := Table.get?_of_mem hl
      simp [this]
    change u.wallet = u.wallet + credited rt db db [] k
    rw [credited, horders, hcards, hlogs]
    simp
  · rintro l s ss cs - - hg ⟨hcons, hclosed, hcards, hlogs⟩
    obtain ⟨r, l', hr, hl, -⟩ := hg.grows
    exact ⟨hcons.commit hclosed hcards hlogs hg, hclosed.commit hg.evolves,
      fun id hid => hcards id (hr.free hid), fun id hid => hlogs id (hl.free hid)⟩

/-! ## §8. A deposit that is lost. -/

/-- A user with 100 cents of commission and a pending deposit of 1000 cents. -/
def commissionAndDeposit : Database
  | .users => ⟨[{ id := 1, email := "a", password := "", token := "a", uuid := "a",
                  commission_balance := 100 }], by decide⟩
  | .orders => ⟨[{ id := 1, user_id := 1, plan_id := 0, type := 9, period := "deposit",
                   trade_no := "A", total_amount := 1000, created_at := 0 }], by decide⟩
  | _ => Table.empty

theorem commissionAndDeposit_payable : OpenOrdersPayable commissionAndDeposit := by
  intro id o ho _
  have hmem := Table.mem_of_get? ho
  rw [List.mem_singleton.mp hmem]
  exact ⟨le_rfl, fun h => absurd h (lt_irrefl _)⟩

/-- Is everything over, what is in the wallet of user 1, and what was credited to it? -/
def Server.books (db₀ : Database) (c : Server) : Bool × Option Int × Int :=
  (c.txs.isEmpty, ((c.state.db .users).get? (1 : Int)).map User.wallet,
    credited Utc.bare db₀ c.state.db c.commits 1)

/-- The transfer of the commission. -/
def transferAll : Event Call := .begin ⟨.transferCommission 1 100, ⟨2, 0, "T"⟩⟩

/-- The deposit is opened before the transfer begins. -/
theorem wallets_conserved_deposit : ∃ c : Server,
    c.books commissionAndDeposit = (true, some 1100, 1000) ∧
      Conserved Utc.bare commissionAndDeposit c.state.db c.commits := by
  obtain ⟨c, hc, hbooks⟩ := Option.map_eq_some_iff.mp
    (by decide : ((Server.start commissionAndDeposit 1700000000).steps (Call.prog Utc.bare)
      freshWallets ([.begin ⟨.adminMarkPaid "A", ⟨0, 0, ""⟩⟩] ++ List.replicate 8 (.exec 0) ++
        [.finish 0, transferAll, .exec 0, .exec 0, .exec 0, .exec 0, .finish 0])).map
          (Server.books commissionAndDeposit) = some (true, some 1100, 1000))
  exact ⟨c, hbooks, wallets_conserved commissionAndDeposit_payable (.of_steps (.refl _) hc)⟩

/-- **A transfer loses a deposit** that is opened after the transfer has read its user. -/
theorem deposit_lost : ∃ c : Server, OpenOrdersPayable commissionAndDeposit ∧
    Runs Utc.bare Cond.any (Server.start commissionAndDeposit 1700000000) c ∧ c.txs = [] ∧
      ¬ Conserved Utc.bare commissionAndDeposit c.state.db c.commits := by
  obtain ⟨c, hc, hbooks⟩ := Option.map_eq_some_iff.mp
    (by decide : ((Server.start commissionAndDeposit 1700000000).steps (Call.prog Utc.bare)
      Cond.any ([transferAll, .begin ⟨.adminMarkPaid "A", ⟨0, 0, ""⟩⟩, .exec 0] ++
        List.replicate 8 (.exec 1) ++ [.finish 1, .exec 0, .exec 0, .exec 0, .finish 0])).map
          (Server.books commissionAndDeposit) = some (true, some 100, 1000))
  simp only [Server.books, Prod.mk.injEq] at hbooks
  obtain ⟨hover, hwallet, hcredited⟩ := hbooks
  refine ⟨c, commissionAndDeposit_payable, .of_steps (.refl _) hc, List.isEmpty_iff.mp hover,
    fun h => ?_⟩
  obtain ⟨u, hu, heq⟩ := h (1 : Int) _ rfl
  rw [hu, Option.map_some, heq, hcredited] at hwallet
  exact absurd hwallet (by decide)

end PyBoard
