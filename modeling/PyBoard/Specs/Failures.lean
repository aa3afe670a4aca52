/-
  PyBoard.Specs.Failures — when an opening fails otherwise than by a refusal.

  A refusal is an `AppException`, which a handler answers.  Whatever else an opening raises
  comes from a value that it cannot compute with, or that a column does not take.  Each
  lemma says of one part of the opening, and of what follows it, which values these are;
  a part that is not reached asks for nothing.
-/
import PyBoard.Specs.Instant

namespace PyBoard

open Relational

variable {rt : Runtime} {s : State Tbl} {ss : Session Tbl} {settings : SettingSource} {α β : Type}

/-! ## §1. Programs that refuse only. -/

/-- The program raises nothing but an `AppException`. -/
def RefusesOnly (p : Db α) (s : State Tbl) (ss : Session Tbl) : Prop :=
  ∀ e, (p.run s ss).1 = .error e → e.isApp = true

theorem refusesOnly_of_ok {p : Db α} {a : α} {ss' : Session Tbl} (h : p.run s ss = (.ok a, ss')) :
    RefusesOnly p s ss := by
  intro e he
  rw [h] at he
  cases he

theorem refusesOnly_of_error {p : Db α} {e : PyExc} {ss' : Session Tbl}
    (h : p.run s ss = (.error e, ss')) : RefusesOnly p s ss ↔ e.isApp = true := by
  unfold RefusesOnly
  rw [h]
  exact ⟨fun hall => hall e rfl, fun happ e' he' => Except.error.inj he' ▸ happ⟩

section

variable {p : Db α} {f : α → Db β}

theorem refusesOnly_bind_ok {a : α} {ss' : Session Tbl} (h : p.run s ss = (.ok a, ss')) :
    RefusesOnly (p.bind f) s ss ↔ RefusesOnly (f a) s ss' := by
  unfold RefusesOnly
  rw [Prog.run_bind, h]

theorem refusesOnly_bind_error {e : PyExc} {ss' : Session Tbl}
    (h : p.run s ss = (.error e, ss')) : RefusesOnly (p.bind f) s ss ↔ e.isApp = true := by
  have hbind : (p.bind f).run s ss = (.error e, ss') := by rw [Prog.run_bind, h]
  exact refusesOnly_of_error hbind

/-! One read, and what follows it. -/

theorem refusesOnly_getForUpdate {t : Tbl} {k : t.Key} {f : Option t.Row → Db β} :
    RefusesOnly ((Prog.getForUpdate t k).bind f) s ss ↔
      RefusesOnly (f ((s.view ss t).get? k)) s
        (ss.lock (((s.view ss t).get? k).toList.map fun _ => ⟨t, k⟩)) := Iff.rfl

theorem refusesOnly_get {t : Tbl} {k : t.Key} {f : Option t.Row → Db β} :
    RefusesOnly ((Prog.get t k).bind f) s ss ↔ RefusesOnly (f ((s.view ss t).get? k)) s ss :=
  Iff.rfl

theorem refusesOnly_throw {e : PyExc} : RefusesOnly (Prog.throw e : Db α) s ss ↔ e.isApp = true :=
  refusesOnly_of_error rfl

theorem refusesOnly_save {t : Tbl} {old new : t.Row}
    (h : (s.view ss t).get? (t.key old) = some old) (hk : t.key old = t.key new) :
    RefusesOnly (save t old new) s ss :=
  refusesOnly_of_ok (run_save h hk)

end

/-! ## §2. The commission. -/

/-- The session of an opening whose order is fulfilled, `last` being its latest version: the
    order and its user are written. -/
structure OrderFulfilled (s : State Tbl) (user : User) (last : Order) (ss : Session Tbl) :
    Prop where
  orders : s.view ss .orders = (s.db .orders).put last
  users : ∃ user' : User, user'.id = user.id ∧ user'.invite_user_id = user.invite_user_id ∧
    s.view ss .users = (s.db .users).put user'
  logs : s.view ss .commission_log = s.db .commission_log
  rows : s.view ss .setting = s.db .setting

/-- The session has not read the setting yet. -/
def Unread (s : State Tbl) (ss : Session Tbl) (key : String) : Prop :=
  SameDocument s Session.fresh ss (SettingService.Cached.cacheKey key)

section

variable {o last : Order} {user : User}

theorem OrderFulfilled.lock (h : OrderFulfilled s user last ss) (ids : List (RowId Tbl)) :
    OrderFulfilled s user last (ss.lock ids) :=
  ⟨h.orders, h.users, h.logs, h.rows⟩

/-- The latest version of the order is stored. -/
theorem OrderFulfilled.order (h : OrderFulfilled s user last ss) :
    (s.view ss .orders).get? last.id = some last := by
  rw [h.orders]
  exact Table.get?_put_self _ last

/-- Another user is stored as he was. -/
theorem OrderFulfilled.other_user (h : OrderFulfilled s user last ss) {id : Int}
    (hne : id ≠ user.id) :
    (s.view ss .users).get? id = (s.db .users).get? id := by
  obtain ⟨user', hid, -, hview⟩ := h.users
  have hne' : id ≠ user'.id := by rwa [hid]
  rw [hview]
  exact Table.get?_put_of_ne _ (r := user') hne'

/-- Reading a setting leaves all of this. -/
theorem OrderFulfilled.since {ss' : Session Tbl} (h : OrderFulfilled s user last ss)
    (hsince : CacheSince ss ss') : OrderFulfilled s user last ss' where
  orders := (hsince.view (by decide)).trans h.orders
  users := by
    rw [hsince.view (by decide)]
    exact h.users
  logs := (hsince.view (by decide)).trans h.logs
  rows := (hsince.view (by decide)).trans h.rows

/-- The rate of a commission. -/
def SettingSource.rate (settings : SettingSource) (rt : Runtime) (s : State Tbl) (inviter : User) :
    Except PyExc Int :=
  match CommissionService.orElse inviter.commission_rate none with
  | some rate => .ok rate
  | none => settings.int rt s Session.fresh "invite_commission" 10

/-- How many other orders of a plan the user of the order has completed. -/
def otherCompleted (s : State Tbl) (o : Order) : Nat :=
  (s.db .orders).rows.countP fun x : Order =>
    (x.user_id = o.user_id && 0 < x.plan_id && x.status = 3) && !decide (x.id = o.id)

/-- The inviter has a commission of the order to be computed. -/
structure CommissionDue (s : State Tbl) (o : Order) (user inviter : User) : Prop where
  paid : 0 < o.total_amount
  unsettled : o.commission_status ≠ 2 ∧ o.commission_status ≠ 3
  unlogged : ∀ log ∈ (s.db .commission_log).rows, CommissionLog.trade_no log ≠ o.trade_no
  invited : CommissionService.orElse o.invite_user_id user.invite_user_id = some inviter.id
  other : inviter.id ≠ user.id
  stored : (s.db .users).get? inviter.id = some inviter

/-- **The commission of the inviter can be computed and stored**: the settings that are read
    are integers, and the amounts fit their columns. -/
def CommissionComputes (rt : Runtime) (settings : SettingSource) (s : State Tbl) (o : Order)
    (inviter : User) : Prop :=
  ∃ first, settings.int rt s Session.fresh "commission_first_time_enable" 1 = .ok first ∧
    (first = 0 ∨ otherCompleted s o = 0 → ∃ rate, settings.rate rt s inviter = .ok rate ∧
      ∃ amount, CommissionService.commissionAmount o.total_amount rate = .ok amount ∧
        (0 < amount → CommissionService.grantFits inviter amount = true))

/-- The order after its opening. -/
def Order.opened (o : Order) (cb : Option String) (now : Int) : Order :=
  OrderService.completed (OrderService.accepted o cb) now

variable {cb : Option String}

/-- The completed orders that are counted for the first commission: the order itself is one. -/
theorem run_completedBefore (h : OrderFulfilled s user (o.opened cb s.now) ss)
    (hplan : 0 < o.plan_id)
    (first : Int) : (CommissionService.completedBefore first o.user_id).run s ss
      = (.ok (if first ≠ 0 then (otherCompleted s o : Int) + 1 else 0), ss) := by
  unfold CommissionService.completedBefore
  split
  · unfold OrderRepository.countCompletedPlanOrders
    rw [Prog.bind_eq, Prog.run_select_bind, h.orders, ← List.countP_eq_length_filter,
      Table.countP_put]
    have hself : ((o.opened cb s.now).user_id = o.user_id && 0 < (o.opened cb s.now).plan_id &&
        (o.opened cb s.now).status = 3) = true := by
      simp [Order.opened, OrderService.completed, OrderService.accepted, hplan]
    rw [if_pos hself]
    rfl
  · rfl

theorem run_create {t : Tbl} {r : t.Row} (h : (s.view ss).refuses t r = false) :
    (create t r).run s ss = (.ok (), ss.write (.put t r)) := by
  unfold create
  rw [Prog.bind_eq, Prog.run_insert_bind, Stmt.exec_insert, h]
  rfl

/-- The rate is read. -/
theorem run_commissionRate (h : OrderFulfilled s user last ss)
    (hunread : Unread s ss "invite_commission")
    (inviter : User) :
    ∃ ss', (CommissionService.commissionRate rt inviter settings).run s ss
        = (settings.rate rt s inviter, ss') ∧ CacheSince ss ss' := by
  unfold CommissionService.commissionRate SettingSource.rate
  cases CommissionService.orElse inviter.commission_rate none with
  | some rate => exact ⟨ss, rfl, .refl ss⟩
  | none =>
    obtain ⟨ss', hrun, hsince, -⟩ :=
      SettingSource.run_getInt rt settings h.rows "invite_commission" 10
    rw [SettingSource.int_congr hunread] at hrun
    exact ⟨ss', hrun, hsince⟩

end

/-- The commission of an order is logged once at most, and the log draws a new key. -/
structure LogsCommission (s : State Tbl) (fresh : Fresh) : Prop where
  unique : ∀ a ∈ (s.db .commission_log).rows, ∀ b ∈ (s.db .commission_log).rows,
    CommissionLog.trade_no a = CommissionLog.trade_no b → a = b
  free : (s.db .commission_log).get? fresh.log_id = none

section

variable {fresh : Fresh} {o : Order} {cb : Option String} {user inviter : User}

/-- The amount is granted, if there is one. -/
theorem refusesOnly_grant (h : OrderFulfilled s user (o.opened cb s.now) ss)
    (hfree : (s.db .commission_log).get? fresh.log_id = none)
    (hdue : CommissionDue s o user inviter) (amount : Int) :
    RefusesOnly (if amount ≤ 0 then
        save .orders (o.opened cb s.now) { o.opened cb s.now with commission_status := 3 }
      else if !CommissionService.grantFits inviter amount then
        Prog.throw (.other "DBAPIError")
      else do
        save .users inviter
          { inviter with commission_balance := inviter.commission_balance + amount }
        save .orders (o.opened cb s.now)
          { o.opened cb s.now with
            invite_user_id := some inviter.id
            commission_balance := amount
            actual_commission_balance := some amount
            commission_status := 2 }
        create .commission_log
          { id := fresh.log_id, invite_user_id := inviter.id,
            user_id := o.user_id, trade_no := o.trade_no,
            order_amount := o.total_amount, get_amount := amount }) s ss ↔
      (0 < amount → CommissionService.grantFits inviter amount = true) := by
  by_cases hpos : amount ≤ 0
  · rw [if_pos hpos]
    exact iff_of_true (refusesOnly_save h.order rfl) fun hlt => by omega
  rw [if_neg hpos]
  by_cases hfits : CommissionService.grantFits inviter amount = true
  swap
  · rw [if_pos (by simpa using hfits), refusesOnly_throw]
    exact iff_of_false (by decide) fun hall => hfits (hall (by omega))
  rw [if_neg (by simpa using hfits)]
  refine iff_of_true ?_ fun _ => hfits
  have hinviter : (s.view ss .users).get? inviter.id = some inviter :=
    (h.other_user hdue.other).trans hdue.stored
  set granted : User :=
    { inviter with commission_balance := inviter.commission_balance + amount } with hgranted
  have hsaved : (save .users inviter granted).run s ss = (.ok (), ss.write (.put .users granted)) :=
    run_save (t := .users) hinviter rfl
  have horder : (s.view (ss.write (.put .users granted)) .orders).get? (o.opened cb s.now).id
      = some (o.opened cb s.now) := by
    rw [view_write_of_ne (w := .users) _ (by decide)]
    exact h.order
  have hsettled := run_save (t := .orders) horder
    (show (o.opened cb s.now).id = ({ o.opened cb s.now with
      invite_user_id := some inviter.id
      commission_balance := amount
      actual_commission_balance := some amount
      commission_status := 2 } : Order).id from rfl)
  refine (refusesOnly_bind_ok hsaved).mpr ((refusesOnly_bind_ok hsettled).mpr ?_)
  refine refusesOnly_of_ok (run_create (t := .commission_log) ?_)
  unfold DB.refuses
  rw [view_write_of_ne (w := .orders) _ (by decide), view_write_of_ne (w := .users) _ (by decide),
    h.logs, List.any_eq_false]
  intro log hlog hrefused
  rcases (Bool.or_eq_true _ _).mp hrefused with hkey | htrade
  · exact Table.get?_eq_none.mp hfree log hlog (of_decide_eq_true hkey)
  · exact hdue.unlogged log hlog (of_decide_eq_true htrade)

theorem SettingSource.rate_quiet {e : PyExc} (h : settings.rate rt s inviter = .error e) :
    e.isApp = false := by
  unfold rate at h
  split at h
  · cases h
  · exact int_quiet h

theorem commissionAmount_quiet {total_amount rate : Int} {e : PyExc}
    (h : CommissionService.commissionAmount total_amount rate = .error e) : e.isApp = false := by
  have hquiet := quiet_toInt (PyFloat.divInt (total_amount * rate) 100)
  unfold CommissionService.commissionAmount at h
  rw [h] at hquiet
  exact hquiet

/-- The computation of the amount, followed by the grant `f`; `g` refuses the commission. -/
theorem refusesOnly_commission {f : Int → Db Unit} {g : Db Unit}
    (h : OrderFulfilled s user (o.opened cb s.now) ss) (hplan : 0 < o.plan_id)
    (hunread : Unread s ss "commission_first_time_enable")
    (hunread' : Unread s ss "invite_commission")
    (hg : ∀ ss', OrderFulfilled s user (o.opened cb s.now) ss' → RefusesOnly g s ss')
    (hf : ∀ amount ss', OrderFulfilled s user (o.opened cb s.now) ss' →
      (RefusesOnly (f amount) s ss' ↔
      (0 < amount → CommissionService.grantFits inviter amount = true))) :
    RefusesOnly ((settings.getInt rt "commission_first_time_enable" 1).bind fun first =>
        (CommissionService.completedBefore first o.user_id).bind fun completed =>
          if completed > 1 then g
          else (CommissionService.commissionRate rt inviter settings).bind fun rate =>
            (liftExcept (CommissionService.commissionAmount o.total_amount rate)).bind f) s ss ↔
      CommissionComputes rt settings s o inviter := by
  obtain ⟨ss₁, hrun, hsince, hsame⟩ :=
    SettingSource.run_getInt rt settings h.rows "commission_first_time_enable" 1
  rw [SettingSource.int_congr hunread] at hrun
  unfold CommissionComputes
  cases hfirst : settings.int rt s Session.fresh "commission_first_time_enable" 1 with
  | error e =>
    rw [hfirst] at hrun
    rw [refusesOnly_bind_error hrun, SettingSource.int_quiet hfirst]
    exact iff_of_false (by decide) (by simp)
  | ok first =>
  rw [hfirst] at hrun
  have h₁ := h.since hsince
  rw [refusesOnly_bind_ok hrun, refusesOnly_bind_ok (run_completedBefore h₁ hplan first)]
  simp only [Except.ok.injEq, exists_eq_left']
  by_cases hcounted : first = 0 ∨ otherCompleted s o = 0
  swap
  · rw [if_pos (by split <;> omega)]
    exact iff_of_true (hg ss₁ h₁) fun hno => absurd hno hcounted
  rw [if_neg (by split <;> omega), forall_prop_of_true hcounted]
  have hrate : Unread s ss₁ "invite_commission" := (hsame _ (by decide)).trans hunread'
  obtain ⟨ss₂, hrun₂, hsince₂⟩ := @run_commissionRate rt s ss₁ settings _ user h₁ hrate inviter
  cases hread : settings.rate rt s inviter with
  | error e =>
    rw [hread] at hrun₂
    rw [refusesOnly_bind_error hrun₂, SettingSource.rate_quiet hread]
    exact iff_of_false (by decide) (by simp)
  | ok rate =>
  rw [hread] at hrun₂
  rw [refusesOnly_bind_ok hrun₂]
  simp only [Except.ok.injEq, exists_eq_left']
  cases hamount : CommissionService.commissionAmount o.total_amount rate with
  | error e =>
    rw [refusesOnly_bind_error (run_liftExcept _), commissionAmount_quiet hamount]
    exact iff_of_false (by decide) (by simp)
  | ok amount =>
    rw [refusesOnly_bind_ok (run_liftExcept _), hf amount ss₂ (h₁.since hsince₂)]
    simp

/-- The log of the commission of an order, if there is one. -/
theorem run_getByTradeNo (h : s.view ss .commission_log = s.db .commission_log)
    (hlogs : LogsCommission s fresh) (trade_no : String) :
    (∃ log ∈ (s.db .commission_log).rows, CommissionLog.trade_no log = trade_no ∧
      (CommissionLogRepository.getByTradeNo trade_no).run s ss = (.ok (some log), ss)) ∨
    (∀ log ∈ (s.db .commission_log).rows, CommissionLog.trade_no log ≠ trade_no) ∧
      (CommissionLogRepository.getByTradeNo trade_no).run s ss = (.ok none, ss) := by
  rw [← h]
  rcases @run_selectUnique s ss .commission_log
    (fun log : CommissionLog => log.trade_no = trade_no) (fun a ha b hb hano hbno =>
      hlogs.unique a (h ▸ ha) b (h ▸ hb)
        ((of_decide_eq_true hano).trans (of_decide_eq_true hbno).symm)) with
    ⟨log, hlog, hno, hrun⟩ | ⟨hnone, hrun⟩
  · exact .inl ⟨log, hlog, of_decide_eq_true hno, hrun⟩
  · exact .inr ⟨fun log hlog hno => hnone log hlog (decide_eq_true hno), hrun⟩

/-- **The commission of a fulfilled order fails** exactly if it is due and cannot be computed. -/
theorem refusesOnly_calculateForOrder (h : OrderFulfilled s user (o.opened cb s.now) ss)
    (huser : user.id = o.user_id) (hplan : 0 < o.plan_id)
    (hunread : Unread s ss "commission_first_time_enable")
    (hunread' : Unread s ss "invite_commission") (hlogs : LogsCommission s fresh) :
    RefusesOnly (CommissionService.calculateForOrder rt fresh o.id settings) s ss ↔
      ∀ inviter, CommissionDue s o user inviter → CommissionComputes rt settings s o inviter := by
  have hidle : (∀ inviter, ¬CommissionDue s o user inviter) →
      ∀ inviter, CommissionDue s o user inviter → CommissionComputes rt settings s o inviter :=
    fun hno inviter hdue => absurd hdue (hno inviter)
  unfold CommissionService.calculateForOrder OrderRepository.getByIdForUpdate
    UserRepository.getById
  rw [Prog.bind_eq, refusesOnly_getForUpdate,
    show (s.view ss .orders).get? o.id = some (o.opened cb s.now) from h.order]
  set ss₁ := ss.lock _
  have h₁ : OrderFulfilled s user (o.opened cb s.now) ss₁ := h.lock _
  have hsave : ∀ {new : Order}, new.id = o.id →
      RefusesOnly (save .orders (o.opened cb s.now) new) s ss₁ :=
    fun hid => refusesOnly_save h₁.order hid.symm
  dsimp only
  by_cases hskip : (o.opened cb s.now).status ≠ 3 ∨ (o.opened cb s.now).plan_id = 0 ∨
      (o.opened cb s.now).total_amount ≤ 0 ∨ (o.opened cb s.now).commission_status = 2 ∨
      (o.opened cb s.now).commission_status = 3
  · rw [if_pos hskip]
    refine iff_of_true (refusesOnly_of_ok rfl) (hidle fun inviter hdue => ?_)
    have hpaid : 0 < (o.opened cb s.now).total_amount := hdue.paid
    have hplan' : 0 < (o.opened cb s.now).plan_id := hplan
    rcases hskip with hst | hskip | hskip | hskip | hskip
    · exact hst rfl
    · omega
    · omega
    · exact hdue.unsettled.1 hskip
    · exact hdue.unsettled.2 hskip
  rw [if_neg hskip]
  have hpaid : 0 < o.total_amount := by
    by_contra hno
    exact hskip (Or.inr (Or.inr (Or.inl (not_lt.mp hno))))
  have hunsettled : o.commission_status ≠ 2 ∧ o.commission_status ≠ 3 :=
    ⟨fun h2 => hskip (by simp [Order.opened, OrderService.completed, OrderService.accepted, h2]),
      fun h3 => hskip (by simp [Order.opened, OrderService.completed, OrderService.accepted, h3])⟩
  rcases run_getByTradeNo h₁.logs hlogs o.trade_no with ⟨log, hlog, hno, hrun⟩ | ⟨hunlogged, hrun⟩
  · refine (refusesOnly_bind_ok hrun).trans ?_
    exact iff_of_true (hsave rfl) (hidle fun inviter hdue => hdue.unlogged log hlog hno)
  refine (refusesOnly_bind_ok hrun).trans ?_
  obtain ⟨user', hid', hinvite', hview⟩ := h₁.users
  dsimp only
  have hget : (s.view ss₁ .users).get? (o.opened cb s.now).user_id = some user' := by
    rw [hview, show (o.opened cb s.now).user_id = user'.id from huser.symm.trans hid'.symm]
    exact Table.get?_put_self _ user'
  rw [Prog.bind_eq, refusesOnly_get, hget]
  dsimp only
  rw [hinvite']
  cases hinvited : CommissionService.orElse (o.opened cb s.now).invite_user_id
    user.invite_user_id with
  | none =>
    refine iff_of_true (hsave rfl) (hidle fun inviter hdue => ?_)
    cases hinvited.symm.trans hdue.invited
  | some invite_user_id =>
  dsimp only
  by_cases hself : invite_user_id = user'.id
  · rw [if_pos hself]
    refine iff_of_true (hsave rfl) (hidle fun inviter hdue => hdue.other ?_)
    have hinviter := Option.some.inj (hinvited.symm.trans hdue.invited)
    omega
  have hother : invite_user_id ≠ user.id := by omega
  rw [if_neg hself, Prog.bind_eq, refusesOnly_get, h₁.other_user hother]
  cases hstored : (s.db .users).get? invite_user_id with
  | none =>
    refine iff_of_true (hsave rfl) (hidle fun inviter hdue => ?_)
    have hinviter := Option.some.inj (hinvited.symm.trans hdue.invited)
    rw [hinviter, hdue.stored] at hstored
    cases hstored
  | some inviter =>
  have hkey : inviter.id = invite_user_id := Table.key_of_get? hstored
  subst hkey
  have hdue : CommissionDue s o user inviter :=
    ⟨hpaid, hunsettled, hunlogged, hinvited, by omega, hstored⟩
  have honly : (∀ inviter', CommissionDue s o user inviter' →
      CommissionComputes rt settings s o inviter') ↔
        CommissionComputes rt settings s o inviter := by
    refine ⟨fun hall => hall inviter hdue, fun hcomputes inviter' hdue' => ?_⟩
    have hid := Option.some.inj (hdue.invited.symm.trans hdue'.invited)
    have heq := hdue.stored
    rw [hid, hdue'.stored] at heq
    rwa [Option.some.inj heq]
  rw [honly]
  exact refusesOnly_commission (o := o) h₁ hplan hunread hunread'
    (fun ss' h' => refusesOnly_save h'.order rfl)
    fun amount ss' h' => refusesOnly_grant (o := o) h' hlogs.free hdue amount

end

/-! ## §3. The completion. -/

section

variable {fresh : Fresh} {o : Order} {cb : Option String} {user : User}

/-- The session has not read the settings of the commission yet. -/
structure CommissionUnread (s : State Tbl) (ss : Session Tbl) : Prop where
  first : Unread s ss "commission_first_time_enable"
  rate : Unread s ss "invite_commission"

theorem CommissionUnread.of_view {ss' : Session Tbl} (h : CommissionUnread s ss)
    (hview : s.view ss' .runtime_cache = s.view ss .runtime_cache) : CommissionUnread s ss' :=
  ⟨(sameDocument_of_view hview _).trans h.first, (sameDocument_of_view hview _).trans h.rate⟩

/-- **The order can be completed**: `paid_at` takes the time, and a commission that is due can be
    computed. -/
structure CompletionComputes (rt : Runtime) (settings : SettingSource) (s : State Tbl)
    (o : Order) (user : User) : Prop where
  paid_at : integerFits s.now = true
  commission : 0 < o.plan_id → ∀ inviter, CommissionDue s o user inviter →
    CommissionComputes rt settings s o inviter

theorem refusesOnly_completeOrder (h : OrderFulfilled s user (OrderService.accepted o cb) ss)
    (huser : user.id = o.user_id) (hunread : CommissionUnread s ss)
    (hlogs : LogsCommission s fresh) :
    RefusesOnly (OrderService.completeOrder rt fresh (OrderService.accepted o cb) settings) s ss ↔
      CompletionComputes rt settings s o user := by
  by_cases hnow : integerFits s.now = true
  swap
  · rw [refusesOnly_of_error (run_completeOrder_late (Bool.eq_false_iff.mpr hnow))]
    exact iff_of_false (by decide) fun hcomputes => hnow hcomputes.paid_at
  set ss₁ := ss.write (.put .orders (OrderService.completed (OrderService.accepted o cb) s.now))
    with hss₁
  have hcomplete : RefusesOnly
      (OrderService.completeOrder rt fresh (OrderService.accepted o cb) settings) s ss ↔
      RefusesOnly (whenever (0 < o.plan_id)
        (CommissionService.calculateForOrder rt fresh o.id settings)) s ss₁ := by
    unfold RefusesOnly
    rw [run_completeOrder h.order hnow]
    rfl
  have h₁ : OrderFulfilled s user (o.opened cb s.now) ss₁ := by
    have hother : ∀ {t : Tbl}, t ≠ .orders → s.view ss₁ t = s.view ss t := fun ht =>
      view_write_of_ne (w := .orders) _ ht
    refine ⟨?_, ?_, (hother (by decide)).trans h.logs, (hother (by decide)).trans h.rows⟩
    · rw [hss₁, view_write_self (t := .orders), h.orders]
      exact Table.put_put _ rfl
    · rw [hother (by decide)]
      exact h.users
  have hunread₁ : CommissionUnread s ss₁ :=
    hunread.of_view (view_write_of_ne (w := .orders) _ (by decide))
  rw [hcomplete, whenever]
  by_cases hplan : 0 < o.plan_id
  · rw [if_pos hplan, refusesOnly_calculateForOrder h₁ huser hplan hunread₁.first hunread₁.rate
      hlogs]
    exact ⟨fun hall => ⟨hnow, fun _ => hall⟩, fun hcomputes => hcomputes.commission hplan⟩
  · rw [if_neg hplan]
    exact iff_of_true (refusesOnly_of_ok rfl) ⟨hnow, fun hpos => absurd hpos hplan⟩

end

/-! ## §4. The coupon. -/

/-- The coupon of an order that is still offered. -/
structure CouponOffered (s : State Tbl) (o : Order) (coupon : Coupon) : Prop where
  ordered : o.coupon_id = some coupon.id
  stored : (s.db .coupon).get? coupon.id = some coupon
  shown : coupon.show = true

/-- The user of the order has not used the coupon up. -/
def CouponUnused (s : State Tbl) (o : Order) (coupon : Coupon) : Prop :=
  ∀ limit, coupon.limit_use_with_user = some limit →
    (usedByUser s.db coupon.id o.user_id o.id : Int) < limit

/-- What the coupon is checked against. -/
def Order.couponChecks (rt : Runtime) (s : State Tbl) (o : Order) (coupon : Coupon) :
    Except PyExc Unit :=
  CouponService.checkCoupon rt s.now coupon o.plan_id o.period

/-- The discount that the coupon gives now. -/
def Order.discountNow (o : Order) (coupon : Coupon) : Except PyExc Int :=
  CouponService.calculateDiscount coupon
    (o.total_amount + o.balance_amount.getD 0 + o.discount_amount.getD 0)

/-- **The coupon can be read**: what its checks and then its discount raise is a refusal. -/
def CouponReadable (rt : Runtime) (s : State Tbl) (o : Order) : Prop :=
  ∀ coupon, CouponOffered s o coupon →
    (∀ e, o.couponChecks rt s coupon = .error e → e.isApp = true) ∧
      (o.couponChecks rt s coupon = .ok () → CouponUnused s o coupon →
        ∀ e, o.discountNow coupon = .error e → e.isApp = true)

/-- The coupon passes its checks and gives the discount of the order. -/
def CouponAccepted (rt : Runtime) (s : State Tbl) (o : Order) : Prop :=
  ∃ coupon, CouponOffered s o coupon ∧ o.couponChecks rt s coupon = .ok () ∧
    CouponUnused s o coupon ∧ o.discountNow coupon = .ok (o.discount_amount.getD 0)

/-- The session of an opening that has accepted its order: besides, it has written the coupon and
    the cache at most. -/
structure OrderAccepted (s : State Tbl) (last : Order) (ss : Session Tbl) : Prop where
  orders : s.view ss .orders = (s.db .orders).put last
  others : ∀ t, t ≠ .orders → t ≠ .coupon → t ≠ .runtime_cache → s.view ss t = s.db t
  unread : CommissionUnread s ss

section

variable {o : Order} {cb : Option String} {K : Prop}

theorem OrderAccepted.lock (h : OrderAccepted s (OrderService.accepted o cb) ss)
    (ids : List (RowId Tbl)) :
    OrderAccepted s (OrderService.accepted o cb) (ss.lock ids) :=
  ⟨h.orders, h.others, h.unread.of_view rfl⟩

theorem run_countUserUsed (h : OrderAccepted s (OrderService.accepted o cb) ss) (coupon_id : Int) :
    (CouponRepository.countUserUsed coupon_id o.user_id (some o.id)).run s ss
      = (.ok (usedByUser s.db coupon_id o.user_id o.id : Int), ss) := by
  unfold CouponRepository.countUserUsed usedByUser
  rw [Prog.bind_eq, Prog.run_select_bind, h.orders, ← List.countP_eq_length_filter,
    Table.countP_put]
  -- the order itself is not counted
  rw [if_neg (by simp [OrderService.accepted])]
  refine congrArg (fun n : Nat => ((.ok (n : Int), ss) : Except PyExc Int × Session Tbl))
    (List.countP_congr fun x _ => ?_)
  simp only [Bool.and_eq_true, and_iff_left_iff_imp]
  intro hcounted
  rw [Bool.not_eq_true', decide_eq_false_iff_not]
  exact of_decide_eq_true hcounted.2

theorem OrderAccepted.written {t : Tbl} {r : t.Row}
    (h : OrderAccepted s (OrderService.accepted o cb) ss) (ht : t = .coupon) :
    OrderAccepted s (OrderService.accepted o cb) (ss.write (.put t r)) := by
  subst ht
  refine ⟨?_, fun t ht hne hcache => ?_, ?_⟩
  · exact (view_write_of_ne (w := .coupon) _ (by decide)).trans h.orders
  · exact (view_write_of_ne (w := .coupon) _ hne).trans (h.others t ht hne hcache)
  · exact h.unread.of_view (view_write_of_ne (w := .coupon) _ (by decide))

/-- **A coupon on offer is checked**: what its checks raise is raised, or the user has used it
    up, or it passes. -/
theorem run_validateCoupon {coupon : Coupon} (h : OrderAccepted s (OrderService.accepted o cb) ss)
    (hshow : coupon.show = true) :
    ∃ r, (CouponService.validateCoupon rt (some coupon) o.user_id o.plan_id o.period
        (some o.id)).run s ss = (r, ss) ∧
      ((r = .ok coupon ∧ o.couponChecks rt s coupon = .ok () ∧ CouponUnused s o coupon) ∨
        ∃ e, r = .error e ∧ (o.couponChecks rt s coupon = .error e ∨
          o.couponChecks rt s coupon = .ok () ∧ ¬CouponUnused s o coupon ∧ e.isApp = true)) := by
  unfold CouponService.validateCoupon
  dsimp only
  rw [if_neg (by simp [hshow]), Prog.bind_eq]
  unfold time
  rw [Prog.run_clock_bind, Prog.bind_eq, Prog.run_bind, run_liftExcept,
    show CouponService.checkCoupon rt s.now coupon o.plan_id o.period
      = o.couponChecks rt s coupon from rfl]
  cases hchecks : o.couponChecks rt s coupon with
  | error e => exact ⟨_, rfl, .inr ⟨e, rfl, .inl rfl⟩⟩
  | ok _ =>
  dsimp only
  unfold CouponUnused
  cases coupon.limit_use_with_user with
  | none => exact ⟨_, rfl, .inl ⟨rfl, rfl, fun limit hlimit => by cases hlimit⟩⟩
  | some limit =>
  dsimp only
  rw [Prog.bind_eq, Prog.run_bind, run_countUserUsed h coupon.id]
  simp only [Option.some.injEq, forall_eq']
  by_cases hused : (usedByUser s.db coupon.id o.user_id o.id : Int) ≥ limit
  · rw [if_pos hused]
    exact ⟨_, rfl, .inr ⟨_, rfl, .inr ⟨trivial, not_lt.mpr hused, rfl⟩⟩⟩
  · rw [if_neg hused]
    exact ⟨_, rfl, .inl ⟨rfl, trivial, not_le.mp hused⟩⟩

theorem CouponOffered.only {coupon c : Coupon} (h : CouponOffered s o coupon)
    (hc : CouponOffered s o c) : c = coupon := by
  have hid := Option.some.inj (hc.ordered.symm.trans h.ordered)
  have hstored := hc.stored
  rw [hid, h.stored] at hstored
  exact (Option.some.inj hstored).symm

/-- What is asked of the coupon on offer. -/
theorem CouponOffered.readable_iff {coupon : Coupon} (h : CouponOffered s o coupon) :
    CouponReadable rt s o ↔
      (∀ e, o.couponChecks rt s coupon = .error e → e.isApp = true) ∧
        (o.couponChecks rt s coupon = .ok () → CouponUnused s o coupon →
          ∀ e, o.discountNow coupon = .error e → e.isApp = true) :=
  ⟨fun hreadable => hreadable coupon h, fun hall _ hc => h.only hc ▸ hall⟩

theorem CouponOffered.accepted_iff {coupon : Coupon} (h : CouponOffered s o coupon) :
    CouponAccepted rt s o ↔ o.couponChecks rt s coupon = .ok () ∧ CouponUnused s o coupon ∧
      o.discountNow coupon = .ok (o.discount_amount.getD 0) :=
  ⟨fun ⟨_, hc, hall⟩ => h.only hc ▸ hall, fun hall => ⟨coupon, h, hall⟩⟩

/-- A coupon that is accepted has been read. -/
theorem CouponAccepted.readable (h : CouponAccepted rt s o) : CouponReadable rt s o := by
  obtain ⟨coupon, hoffered, hchecks, -, hdiscount⟩ := h
  refine hoffered.readable_iff.mpr ⟨fun e he => ?_, fun _ _ e he => ?_⟩
  · cases hchecks.symm.trans he
  · cases hdiscount.symm.trans he

/-- Without a coupon on offer nothing is read, and nothing accepted. -/
theorem coupon_not_offered (h : ∀ coupon, ¬CouponOffered s o coupon) :
    ¬CouponAccepted rt s o ∧ CouponReadable rt s o :=
  ⟨fun ⟨coupon, hoffered, _⟩ => h coupon hoffered, fun coupon hoffered =>
    absurd hoffered (h coupon)⟩

/-- **The coupon is taken** if it is accepted, and refused if it can be read. -/
theorem run_consumeForPaidOrder (h : OrderAccepted s (OrderService.accepted o cb) ss)
    (hcoupons : s.view ss .coupon = s.db .coupon) (hid : o.coupon_id.isSome = true) :
    ∃ r ss', (CouponService.consumeForPaidOrder rt (OrderService.accepted o cb)).run s ss
        = (r, ss') ∧ OrderAccepted s (OrderService.accepted o cb) ss' ∧
      (r = .ok () ∧ CouponAccepted rt s o ∨
        ∃ e, r = .error e ∧ ¬CouponAccepted rt s o ∧
          (e.isApp = true ↔ CouponReadable rt s o)) := by
  obtain ⟨coupon_id, hid⟩ := Option.isSome_iff_exists.mp hid
  unfold CouponService.consumeForPaidOrder CouponRepository.getByIdForUpdate
  rw [show (OrderService.accepted o cb).coupon_id = some coupon_id from hid]
  dsimp only
  rw [Prog.bind_eq, Prog.run_getForUpdate_bind, hcoupons]
  set ss₁ := ss.lock _
  have h₁ : OrderAccepted s (OrderService.accepted o cb) ss₁ := h.lock _
  cases hstored : (s.db .coupon).get? coupon_id with
  | none =>
    obtain ⟨hno, hreadable⟩ := @coupon_not_offered rt s o fun coupon hoffered => by
      rw [Option.some.inj (hid.symm.trans hoffered.ordered), hoffered.stored] at hstored
      cases hstored
    exact ⟨_, ss₁, rfl, h₁, .inr ⟨_, rfl, hno, iff_of_true rfl hreadable⟩⟩
  | some coupon =>
  have hkey : coupon.id = coupon_id := Table.key_of_get? hstored
  subst hkey
  by_cases hshow : coupon.show = true
  swap
  · obtain ⟨hno, hreadable⟩ := @coupon_not_offered rt s o fun c hoffered => hshow <| by
      have hstored' := hoffered.stored
      rw [← Option.some.inj (hid.symm.trans hoffered.ordered), hstored] at hstored'
      rw [Option.some.inj hstored']
      exact hoffered.shown
    refine ⟨.error (BadRequestException "优惠券无效"), ss₁, ?_, h₁,
      .inr ⟨_, rfl, hno, iff_of_true rfl hreadable⟩⟩
    unfold CouponService.validateCoupon
    dsimp only
    rw [if_pos (by simp [hshow])]
    rfl
  have hoffered : CouponOffered s o coupon := ⟨hid, hstored, hshow⟩
  rw [hoffered.accepted_iff, hoffered.readable_iff, Prog.bind_eq, Prog.run_bind]
  obtain ⟨r, hrun, hcases⟩ := @run_validateCoupon rt s ss₁ o cb coupon h₁ hshow
  rw [show (CouponService.validateCoupon rt (some coupon) (OrderService.accepted o cb).user_id
    (OrderService.accepted o cb).plan_id (OrderService.accepted o cb).period
      (some (OrderService.accepted o cb).id)).run s ss₁ = (r, ss₁) from hrun]
  rcases hcases with ⟨rfl, hchecks, hunused⟩ | ⟨e, rfl, hchecks | ⟨hchecks, hused, happ⟩⟩
  · dsimp only
    rw [Prog.bind_eq, Prog.run_bind, run_liftExcept, hchecks,
      show CouponService.calculateDiscount coupon ((OrderService.accepted o cb).total_amount +
        (OrderService.accepted o cb).balance_amount.getD 0 +
          (OrderService.accepted o cb).discount_amount.getD 0) = o.discountNow coupon from rfl]
    cases hdiscount : o.discountNow coupon with
    | error e => exact ⟨_, ss₁, rfl, h₁, .inr ⟨e, rfl, by simp, by simp [hunused]⟩⟩
    | ok discount =>
    dsimp only
    rw [show (OrderService.accepted o cb).discount_amount = o.discount_amount from rfl]
    by_cases hsame : discount = o.discount_amount.getD 0
    swap
    · rw [if_pos hsame]
      exact ⟨_, ss₁, rfl, h₁, .inr ⟨_, rfl, by simp [hsame], iff_of_true rfl (by simp)⟩⟩
    rw [if_neg (not_not.mpr hsame)]
    cases coupon.limit_use with
    | none => exact ⟨_, ss₁, rfl, h₁, .inl ⟨rfl, rfl, hunused, by rw [hsame]⟩⟩
    | some n =>
      have hview : (s.view ss₁ .coupon).get? coupon.id = some coupon := hcoupons ▸ hstored
      exact ⟨_, _, run_save (t := .coupon) hview rfl, h₁.written rfl,
        .inl ⟨rfl, rfl, hunused, by rw [hsame]⟩⟩
  · exact ⟨_, ss₁, rfl, h₁, .inr ⟨e, rfl, by simp [hchecks], by simp [hchecks]⟩⟩
  · exact ⟨_, ss₁, rfl, h₁, .inr ⟨e, rfl, fun hall => hused hall.2.1, iff_of_true happ
      ⟨by simp [hchecks], fun _ hunused => absurd hunused hused⟩⟩⟩

end

/-! ## §5. The plan. -/

open OrderService in
/-- The user holds a slot of the plan, or the plan has room for one more. -/
def SlotFree (s : State Tbl) (o : Order) (user : User) (plan : Plan) : Prop :=
  requiresCapacitySlot s.now user.plan_id user.expired_at plan.id o.period = true →
    ∀ limit, plan.capacity_limit = some limit → 0 < limit →
      (activeCount s.db s.now plan.id : Int) < limit

/-- Nothing refuses the opening of the plan. -/
structure PlanPasses (rt : Runtime) (s : State Tbl) (o : Order) (user : User) (plan : Plan) :
    Prop where
  slot : SlotFree s o user plan
  coupon : o.takesCoupon → CouponAccepted rt s o
  balance : 0 < OrderService.deduction o → OrderService.deduction o ≤ user.balance
  period : ¬unsupportedPeriod o

/-- The end of the term is a time. -/
def TermComputes (rt : Runtime) (s : State Tbl) (o : Order) (user : User) : Prop :=
  ∀ months, PERIOD_MONTHS o.period = some months →
    ∃ expired_at, addMonths rt s.now (user.expired_at.getD 0) months = .ok expired_at

/-- **The plan can be opened**: its coupon can be read, and unless something refuses the opening,
    its term and its completion can be computed. -/
structure PlanComputes (rt : Runtime) (settings : SettingSource) (s : State Tbl) (o : Order)
    (user : User) (plan : Plan) : Prop where
  coupon : SlotFree s o user plan → o.takesCoupon → CouponReadable rt s o
  term : PlanPasses rt s o user plan → TermComputes rt s o user
  completion : PlanPasses rt s o user plan → CompletionComputes rt settings s o user

section

variable {o : Order} {cb : Option String} {user : User} {plan : Plan} {K : Prop}

theorem run_activeCount (husers : s.view ss .users = s.db .users) (plan_id : Int) :
    ∃ counts, PlanRepository.countActiveUsers.run s ss = (.ok counts, ss) ∧
      counts plan_id = activeCount s.db s.now plan_id := by
  refine ⟨_, rfl, ?_⟩
  change (((s.view ss .users).rows.filter (PlanRepository.isActiveRow s.now)).countP
    (fun u : User => u.plan_id = some plan_id) : Int) = _
  rw [husers, filter_countP_active]
  rfl

/-- The capacity is checked. -/
theorem run_capacity (husers : s.view ss .users = s.db .users) :
    ∃ r, (whenever (requiresCapacitySlot s.now user.plan_id user.expired_at plan.id o.period)
        (OrderService.ensurePlanCapacityAvailable plan.id plan.capacity_limit)).run s ss
        = (r, ss) ∧
      (r = .ok () ∧ SlotFree s o user plan ∨
        ∃ e, r = .error e ∧ ¬SlotFree s o user plan ∧ e.isApp = true) := by
  unfold whenever SlotFree
  by_cases hslot : requiresCapacitySlot s.now user.plan_id user.expired_at plan.id o.period = true
  swap
  · rw [if_neg hslot]
    exact ⟨_, rfl, .inl ⟨rfl, fun h => absurd h hslot⟩⟩
  rw [if_pos hslot, forall_prop_of_true hslot]
  unfold OrderService.ensurePlanCapacityAvailable
  cases plan.capacity_limit with
  | none => exact ⟨_, rfl, .inl ⟨rfl, fun limit hlimit => by cases hlimit⟩⟩
  | some limit =>
  simp only [Option.some.injEq, forall_eq']
  by_cases hle : limit ≤ 0
  · rw [if_pos hle]
    exact ⟨_, rfl, .inl ⟨rfl, fun hlt => by omega⟩⟩
  rw [if_neg hle, forall_prop_of_true (not_le.mp hle)]
  obtain ⟨counts, hrun, hcount⟩ := run_activeCount husers plan.id
  rw [Prog.bind_eq, Prog.run_bind, hrun, ← hcount]
  dsimp only
  by_cases hfull : counts plan.id ≥ limit
  · rw [if_pos hfull]
    exact ⟨_, rfl, .inr ⟨_, rfl, not_lt.mpr hfull, rfl⟩⟩
  · rw [if_neg hfull]
    exact ⟨_, rfl, .inl ⟨rfl, not_le.mp hfull⟩⟩

/-- The coupon is taken, if the order has one. -/
theorem run_coupon (h : OrderAccepted s (OrderService.accepted o cb) ss)
    (hcoupons : s.view ss .coupon = s.db .coupon) (hd : OrderService.isDeposit o = false) :
    ∃ r ss', (whenever (o.coupon_id.isSome ∧ 0 < o.discount_amount.getD 0)
        (CouponService.consumeForPaidOrder rt (OrderService.accepted o cb))).run s ss
        = (r, ss') ∧ OrderAccepted s (OrderService.accepted o cb) ss' ∧
      (r = .ok () ∧ (o.takesCoupon → CouponAccepted rt s o) ∨
        ∃ e, r = .error e ∧ (o.takesCoupon ∧ ¬CouponAccepted rt s o) ∧
          (e.isApp = true ↔ CouponReadable rt s o)) := by
  unfold whenever
  by_cases htakes : o.coupon_id.isSome ∧ 0 < o.discount_amount.getD 0
  · rw [if_pos htakes]
    obtain ⟨r, ss', hrun, h', ⟨hr, haccepted⟩ | ⟨e, hr, hno, happ⟩⟩ :=
      @run_consumeForPaidOrder rt s ss o cb h hcoupons htakes.1
    · exact ⟨r, ss', hrun, h', .inl ⟨hr, fun _ => haccepted⟩⟩
    · exact ⟨r, ss', hrun, h', .inr ⟨e, hr, ⟨⟨hd, htakes⟩, hno⟩, happ⟩⟩
  · rw [if_neg htakes]
    exact ⟨_, ss, rfl, h, .inl ⟨rfl, fun ht => absurd ht.2 htakes⟩⟩

/-- **The opening of the plan is refused**: something does not pass, and what is checked before
    it can be read. -/
structure PlanRefused (rt : Runtime) (s : State Tbl) (o : Order) (user : User) (plan : Plan) :
    Prop where
  coupon : SlotFree s o user plan → o.takesCoupon → CouponReadable rt s o
  fails : ¬PlanPasses rt s o user plan

open OrderService in
/-- **The plan is opened** if everything passes and the term is a time.  Otherwise the order is
    left accepted. -/
theorem run_openPlan (h : OrderAccepted s (OrderService.accepted o cb) ss)
    (hcoupons : s.view ss .coupon = s.db .coupon) (hd : isDeposit o = false)
    (hu : (s.db .users).get? user.id = some user) :
    (PlanPasses rt s o user plan ∧ TermComputes rt s o user ∧ ∃ (ss₁ : Session Tbl) (user' : User),
      (openPlan rt (OrderService.accepted o cb) user plan).run s ss
          = (.ok (), ss₁.write (.put .users user')) ∧
        OrderAccepted s (OrderService.accepted o cb) ss₁ ∧
        user'.id = user.id ∧ user'.invite_user_id = user.invite_user_id) ∨
    (¬(PlanPasses rt s o user plan ∧ TermComputes rt s o user) ∧ ∃ e ss',
      (openPlan rt (OrderService.accepted o cb) user plan).run s ss = (.error e, ss') ∧
        s.view ss' .orders = (s.db .orders).put (OrderService.accepted o cb) ∧
        (e.isApp = true ↔ PlanRefused rt s o user plan)) := by
  unfold openPlan time
  rw [Prog.bind_eq, Prog.run_clock_bind, Prog.bind_eq, Prog.run_bind]
  obtain ⟨r, hslot, ⟨rfl, hfree⟩ | ⟨e, rfl, hfull, happ⟩⟩ := @run_capacity s ss o user plan
    (h.others _ (by decide) (by decide) (by decide))
  swap
  · rw [show (OrderService.accepted o cb).period = o.period from rfl, hslot]
    exact .inr ⟨fun hp => hfull hp.1.slot, e, ss, rfl, h.orders, iff_of_true happ
      ⟨fun hfree => absurd hfree hfull, fun hp => hfull hp.slot⟩⟩
  rw [show (OrderService.accepted o cb).period = o.period from rfl, hslot]
  dsimp only
  rw [Prog.bind_eq, Prog.run_bind]
  obtain ⟨r, ss₁, hcoupon, h₁, ⟨rfl, haccepted⟩ | ⟨e, rfl, ⟨htakes, hno⟩, happ⟩⟩ :=
    @run_coupon rt s ss o cb h hcoupons hd
  swap
  · rw [show (OrderService.accepted o cb).coupon_id = o.coupon_id from rfl,
      show (OrderService.accepted o cb).discount_amount = o.discount_amount from rfl, hcoupon]
    exact .inr ⟨fun hp => hno (hp.1.coupon htakes), e, ss₁, rfl, h₁.orders, happ.trans
      ⟨fun hreadable => ⟨fun _ _ => hreadable, fun hp => hno (hp.coupon htakes)⟩,
        fun hrefused => hrefused.coupon hfree htakes⟩⟩
  rw [show (OrderService.accepted o cb).coupon_id = o.coupon_id from rfl,
    show (OrderService.accepted o cb).discount_amount = o.discount_amount from rfl, hcoupon]
  dsimp only
  rw [show deduction (OrderService.accepted o cb) = deduction o from rfl]
  set paid := paying (OrderService.accepted o cb) user
  -- from here on only the balance and the period can be refused
  have hrefused : ∀ e : PyExc, e.isApp = true → ¬PlanPasses rt s o user plan →
      (e.isApp = true ↔ PlanRefused rt s o user plan) := fun e happ hnot =>
    iff_of_true happ ⟨fun _ ht => (haccepted ht).readable, hnot⟩
  have hsave : ∀ u : User, u.id = user.id → (save .users user u).run s ss₁
      = (.ok (), ss₁.write (.put .users u)) := by
    intro u hid
    refine run_save (t := .users) ?_ hid.symm
    rw [h₁.others _ (by decide) (by decide) (by decide)]
    exact hu
  by_cases hshort : 0 < deduction o ∧ user.balance < deduction o
  · rw [if_pos hshort]
    have hnot : ¬PlanPasses rt s o user plan := fun hp => by
      have := hp.balance hshort.1
      omega
    exact .inr ⟨fun hp => hnot hp.1, _, ss₁, rfl, h₁.orders, hrefused _ rfl hnot⟩
  rw [if_neg hshort]
  have hpasses : ¬unsupportedPeriod o → PlanPasses rt s o user plan :=
    fun hperiod => ⟨hfree, haccepted, by omega, hperiod⟩
  have hfixed : PERIOD_MONTHS o.period = none → TermComputes rt s o user := by
    intro hnone months hmonths
    rw [hnone] at hmonths
    cases hmonths
  by_cases hreset : o.period = "reset_price"
  · rw [if_pos hreset]
    exact .inl ⟨hpasses fun hno => hno.1 hreset, hfixed (by rw [hreset]; decide), ss₁,
      resetTraffic paid, hsave _ rfl, h₁, rfl, rfl⟩
  rw [if_neg hreset]
  by_cases honetime : o.period = "onetime_price"
  · rw [if_pos honetime]
    exact .inl ⟨hpasses fun hno => hno.2.1 honetime, hfixed (by rw [honetime]; decide), ss₁,
      entitle (resetTraffic paid) plan NEVER_EXPIRES_AT, hsave _ rfl, h₁, rfl, rfl⟩
  rw [if_neg honetime]
  cases hmonths : PERIOD_MONTHS o.period with
  | none =>
    dsimp only
    have hnot : ¬PlanPasses rt s o user plan := fun hp => hp.period ⟨hreset, honetime, hmonths⟩
    rw [Prog.bind_eq, Prog.run_bind, hsave paid rfl]
    refine .inr ⟨fun hp => hnot hp.1, _, _, rfl, ?_, hrefused _ rfl hnot⟩
    exact (view_write_of_ne (w := .users) paid (by decide)).trans h₁.orders
  | some months =>
    have hpass : PlanPasses rt s o user plan := hpasses fun hno => by simp [hno.2.2] at hmonths
    dsimp only
    rw [Prog.bind_eq, Prog.run_clock_bind, Prog.bind_eq, Prog.run_clock_bind, Prog.bind_eq,
      Prog.run_bind, run_liftExcept]
    cases hadd : addMonths rt s.now (user.expired_at.getD 0) months with
    | error e =>
      refine .inr ⟨fun hp => ?_, e, ss₁, rfl, h₁.orders, iff_of_false (by
        rw [addMonths_quiet hadd]
        decide) fun hr => hr.fails hpass⟩
      obtain ⟨expired_at, hok⟩ := hp.2 months hmonths
      cases hadd.symm.trans hok
    | ok expired_at =>
      refine .inl ⟨hpass, fun months' hmonths' => ?_, ss₁, _, hsave _ ?_, h₁, ?_, ?_⟩
      · cases hmonths.symm.trans hmonths'
        exact ⟨expired_at, hadd⟩
      all_goals split <;> rfl

open OrderService in
/-- The plan is opened, and `f` follows. -/
theorem refusesOnly_openPlan {f : Unit → Db β} (h : OrderAccepted s (OrderService.accepted o cb) ss)
    (hcoupons : s.view ss .coupon = s.db .coupon) (hd : isDeposit o = false)
    (hu : (s.db .users).get? user.id = some user)
    (hf : ∀ ss' (user' : User), OrderAccepted s (OrderService.accepted o cb) ss' →
      user'.id = user.id → user'.invite_user_id = user.invite_user_id →
        (RefusesOnly (f ()) s (ss'.write (.put .users user')) ↔ K)) :
    RefusesOnly ((openPlan rt (OrderService.accepted o cb) user plan).bind f) s ss ↔
      (SlotFree s o user plan → o.takesCoupon → CouponReadable rt s o) ∧
        (PlanPasses rt s o user plan → TermComputes rt s o user ∧ K) := by
  rcases @run_openPlan rt s ss o cb user plan h hcoupons hd hu with
    ⟨hpass, hterm, ss₁, user', hrun, h₁, hid, hinvite⟩ | ⟨hnot, e, ss', hrun, -, happ⟩
  · rw [refusesOnly_bind_ok hrun, hf ss₁ user' h₁ hid hinvite]
    exact ⟨fun hK => ⟨fun _ ht => (hpass.coupon ht).readable, fun _ => ⟨hterm, hK⟩⟩,
      fun hall => (hall.2 hpass).2⟩
  · rw [refusesOnly_bind_error hrun, happ]
    exact ⟨fun hrefused => ⟨hrefused.coupon, fun hpass => absurd hpass hrefused.fails⟩,
      fun hall => ⟨hall.1, fun hpass => hnot ⟨hpass, (hall.2 hpass).1⟩⟩⟩

end

/-! ## §6. The opening. -/

section

variable {fresh : Fresh} {o : Order} {cb : Option String} {user : User}

theorem accepted_acceptedSession :
    OrderAccepted s (OrderService.accepted o cb) (acceptedSession o cb) := by
  have hother : ∀ {t : Tbl}, t ≠ .orders → s.view (acceptedSession o cb) t = s.db t :=
    fun ht => view_acceptedSession_of_ne ht
  refine ⟨?_, fun t ht _ _ => hother ht, ?_⟩
  · change s.view ((Session.fresh.lock [⟨Tbl.orders, o.id⟩]).write
      (.put .orders (OrderService.accepted o cb))) .orders = _
    rw [view_write_self (t := .orders)]
    rfl
  · exact (CommissionUnread.mk rfl rfl : CommissionUnread s Session.fresh).of_view
      (hother (by decide))

/-- The user of the order is written. -/
theorem OrderAccepted.fulfilled {user' : User} (h : OrderAccepted s (OrderService.accepted o cb) ss)
    (hid : user'.id = user.id) (hinvite : user'.invite_user_id = user.invite_user_id) :
    OrderFulfilled s user (OrderService.accepted o cb) (ss.write (.put .users user')) := by
  have hother : ∀ {t : Tbl}, t ≠ .users → s.view (ss.write (.put .users user')) t = s.view ss t :=
    fun ht => view_write_of_ne (w := .users) _ ht
  refine ⟨(hother (by decide)).trans h.orders, ⟨user', hid, hinvite, ?_⟩, ?_, ?_⟩
  · rw [view_write_self (t := .users), h.others _ (by decide) (by decide) (by decide)]
  · exact (hother (by decide)).trans (h.others _ (by decide) (by decide) (by decide))
  · exact (hother (by decide)).trans (h.others _ (by decide) (by decide) (by decide))

/-- The user of the order is written, and the order is completed. -/
theorem refusesOnly_complete {user' : User} (h : OrderAccepted s (OrderService.accepted o cb) ss)
    (huid : user.id = o.user_id) (hid : user'.id = user.id)
    (hinvite : user'.invite_user_id = user.invite_user_id) (hlogs : LogsCommission s fresh) :
    RefusesOnly (OrderService.completeOrder rt fresh (OrderService.accepted o cb) settings) s
        (ss.write (.put .users user')) ↔ CompletionComputes rt settings s o user :=
  refusesOnly_completeOrder (h.fulfilled hid hinvite) huid
    (h.unread.of_view (view_write_of_ne (w := .users) _ (by decide))) hlogs

/-- An order of a user that is not stored is accepted and then refused. -/
theorem run_unknownUser (ho : (s.db .orders).get? o.id = some o)
    (hst : o.status = 0 ∨ o.status = 1) (hu : (s.db .users).get? o.user_id = none) :
    ∃ e ss', (OrderService.processPaidOrder rt fresh o.id cb settings).run s Session.fresh
        = (.error e, ss') ∧ e.isApp = true ∧
      s.view ss' .orders = (s.db .orders).put (OrderService.accepted o cb) := by
  unfold OrderService.processPaidOrder OrderRepository.getByIdForUpdate
    UserRepository.getByIdForUpdate
  have hfound : (s.view Session.fresh Tbl.orders).get? o.id = some o := ho
  rw [Prog.bind_eq, Prog.run_getForUpdate_found hfound]
  dsimp only
  have hsave : (save .orders o (OrderService.accepted o cb)).run s
      (Session.fresh.lock [⟨Tbl.orders, o.id⟩]) = (.ok (), _) := run_save (t := .orders) ho rfl
  rw [if_neg (by omega), Prog.bind_eq, Prog.run_bind, hsave]
  dsimp only
  set ss₁ := (Session.fresh.lock [⟨Tbl.orders, o.id⟩]).write
    (.put .orders (OrderService.accepted o cb))
  have hview : (s.view ss₁ .users).get? (OrderService.accepted o cb).user_id = none := by
    rw [view_write_of_ne (w := .orders) (OrderService.accepted o cb) (by decide)]
    exact hu
  rw [Prog.bind_eq, Prog.run_getForUpdate_bind, hview]
  exact ⟨_, _, rfl, rfl, view_write_self (t := .orders) (OrderService.accepted o cb)⟩

/-- An open order is accepted, fulfilled and completed. -/
theorem refusesOnly_processPaidOrder (ho : (s.db .orders).get? o.id = some o)
    (hst : o.status = 0 ∨ o.status = 1) (hu : (s.db .users).get? o.user_id = some user) :
    RefusesOnly (OrderService.processPaidOrder rt fresh o.id cb settings) s Session.fresh ↔
      RefusesOnly ((OrderService.fulfil rt (OrderService.accepted o cb) user settings).bind fun _ =>
        OrderService.completeOrder rt fresh (OrderService.accepted o cb) settings) s
          (acceptedSession o cb) := by
  unfold RefusesOnly
  rw [run_processPaidOrder ho hst hu, Prog.run_bind]
  rcases (OrderService.fulfil rt (OrderService.accepted o cb) user settings).run s _ with
    ⟨e | _, ss⟩ <;> rfl

/-- **The opening of a plan order fails** exactly if its plan is stored and cannot be opened. -/
theorem refusesOnly_openPlanOrder (ho : (s.db .orders).get? o.id = some o)
    (hst : o.status = 0 ∨ o.status = 1) (hu : (s.db .users).get? o.user_id = some user)
    (hd : OrderService.isDeposit o = false) (hlogs : LogsCommission s fresh) :
    RefusesOnly (OrderService.processPaidOrder rt fresh o.id cb settings) s Session.fresh ↔
      ∀ plan, (s.db .plan).get? o.plan_id = some plan →
        PlanComputes rt settings s o user plan := by
  have huid : user.id = o.user_id := Table.key_of_get? hu
  rw [refusesOnly_processPaidOrder ho hst hu]
  unfold OrderService.fulfil PlanRepository.getByIdForUpdate
  rw [if_neg (by
      rw [show OrderService.isDeposit (OrderService.accepted o cb) = false from hd]
      decide),
    Prog.bind_eq, Prog.bind_assoc, refusesOnly_getForUpdate,
    view_acceptedSession_of_ne (by decide),
    show (OrderService.accepted o cb).plan_id = o.plan_id from rfl]
  cases hplan : (s.db .plan).get? o.plan_id with
  | none => exact iff_of_true ((refusesOnly_of_error rfl).mpr rfl) (by simp)
  | some plan =>
  simp only [Option.some.injEq, forall_eq']
  have h := (@accepted_acceptedSession s o cb).lock [⟨Tbl.plan, o.plan_id⟩]
  refine (refusesOnly_openPlan h (view_acceptedSession_of_ne (by decide)) hd (huid ▸ hu)
    fun ss' user' h' hid hinvite => refusesOnly_complete h' huid hid hinvite hlogs).trans ?_
  exact ⟨fun ⟨hcoupon, hrest⟩ =>
      ⟨hcoupon, fun hpass => (hrest hpass).1, fun hpass => (hrest hpass).2⟩,
    fun hplan => ⟨hplan.coupon, fun hpass => ⟨hplan.term hpass, hplan.completion hpass⟩⟩⟩

theorem SettingSource.bonus_quiet {total_amount : Int} {e : PyExc}
    (h : settings.bonus rt s ss total_amount = .error e) : e.isApp = false := by
  unfold bonus at h
  cases htext : settings.text rt s ss "deposit_bounus" with
  | error e' =>
    rw [htext] at h
    cases h
    exact text_quiet htext
  | ok text =>
    rw [htext] at h
    change bonusOfText rt total_amount text = .error e at h
    unfold bonusOfText at h
    split at h
    · cases h
    split at h
    · cases h
      rfl
    · exact bonusOfTiers_quiet _ _ _ h
    · cases h

/-- **The opening of a deposit fails** exactly if its bonus cannot be computed, the sum is more than
    the balance can hold, or it cannot be completed. -/
theorem refusesOnly_openDepositOrder (ho : (s.db .orders).get? o.id = some o)
    (hst : o.status = 0 ∨ o.status = 1) (hu : (s.db .users).get? o.user_id = some user)
    (hd : OrderService.isDeposit o = true) (hlogs : LogsCommission s fresh) :
    RefusesOnly (OrderService.processPaidOrder rt fresh o.id cb settings) s Session.fresh ↔
      (∃ bonus, settings.bonus rt s Session.fresh o.total_amount = .ok bonus ∧
        user.balance + o.total_amount + bonus ≤ OrderService.INTEGER_MAX) ∧
        CompletionComputes rt settings s o user := by
  have huid : user.id = o.user_id := Table.key_of_get? hu
  have hcache : s.view (acceptedSession o cb) .runtime_cache = s.db .runtime_cache :=
    view_acceptedSession_of_ne (by decide)
  rw [refusesOnly_processPaidOrder ho hst hu]
  unfold OrderService.fulfil OrderService.creditDeposit
  rw [if_pos (show OrderService.isDeposit (OrderService.accepted o cb) = true from hd)]
  obtain ⟨ss', hrun, hsince, hsame⟩ := @run_depositBonus rt s (acceptedSession o cb) settings
    (view_acceptedSession_of_ne (by decide)) o.total_amount
  rw [@SettingSource.bonus_congr rt s Session.fresh settings (acceptedSession o cb) hcache] at hrun
  rw [Prog.bind_eq, Prog.bind_assoc,
    show (OrderService.accepted o cb).total_amount = o.total_amount from rfl]
  cases hbonus : settings.bonus rt s Session.fresh o.total_amount with
  | error e =>
    rw [hbonus] at hrun
    rw [refusesOnly_bind_error hrun, SettingSource.bonus_quiet hbonus]
    exact iff_of_false (by decide) (by simp)
  | ok bonus =>
  rw [hbonus] at hrun
  rw [refusesOnly_bind_ok hrun]
  simp only [Except.ok.injEq, exists_eq_left']
  by_cases hfull : user.balance + o.total_amount + bonus > OrderService.INTEGER_MAX
  · rw [if_pos hfull]
    exact iff_of_false (fun hquiet => by cases hquiet _ rfl) fun hroom => by omega
  rw [if_neg hfull, and_iff_right (not_lt.mp hfull)]
  have h' : OrderAccepted s (OrderService.accepted o cb) ss' := by
    have h := @accepted_acceptedSession s o cb
    refine ⟨(hsince.view (by decide)).trans h.orders, fun t ht hne hcache => ?_, ?_, ?_⟩
    · exact (hsince.view hcache).trans (h.others t ht hne hcache)
    · exact (hsame _ (by decide)).trans h.unread.first
    · exact (hsame _ (by decide)).trans h.unread.rate
  have hstored : (s.view ss' .users).get? user.id = some user := by
    rw [h'.others _ (by decide) (by decide) (by decide), huid]
    exact hu
  refine (refusesOnly_bind_ok (run_save (t := .users) hstored ?_)).trans
    (refusesOnly_complete h' huid ?_ ?_ hlogs) <;> rfl

end

/-! ## §7. Refusals. -/

section

variable {fresh : Fresh} {o : Order} {cb : Option String}

/-- **The opening is refused**: the user of the order is unknown, its plan is unknown, or the
    plan is refused. -/
def OpeningRefused (rt : Runtime) (s : State Tbl) (o : Order) : Prop :=
  ∀ user, (s.db .users).get? o.user_id = some user → OrderService.isDeposit o = false ∧
    ∀ plan, (s.db .plan).get? o.plan_id = some plan → PlanRefused rt s o user plan

/-- **An `AppException` stops exactly the openings that are refused**, and leaves the order
    accepted. -/
theorem run_processPaidOrder_refused (ho : (s.db .orders).get? o.id = some o)
    (hst : o.status = 0 ∨ o.status = 1) :
    ∃ r ss', (OrderService.processPaidOrder rt fresh o.id cb settings).run s Session.fresh
        = (r, ss') ∧
      ((∃ e, r = .error e ∧ e.isApp = true) ↔ OpeningRefused rt s o) ∧
      ∀ e, r = .error e → e.isApp = true →
        s.view ss' .orders = (s.db .orders).put (OrderService.accepted o cb) := by
  cases hu : (s.db .users).get? o.user_id with
  | none =>
    obtain ⟨e, ss', hrun, happ, hview⟩ := @run_unknownUser rt s settings fresh o cb
      ho hst hu
    exact ⟨_, ss', hrun, iff_of_true ⟨e, rfl, happ⟩ fun user huser => by simp [hu] at huser,
      fun _ _ _ => hview⟩
  | some user =>
  have huid : user.id = o.user_id := Table.key_of_get? hu
  have honly : ∀ u, (s.db .users).get? o.user_id = some u → u = user := fun u huser =>
    Option.some.inj (huser.symm.trans hu)
  rw [run_processPaidOrder ho hst hu]
  unfold OrderService.fulfil PlanRepository.getByIdForUpdate
  -- the completion is never refused
  have hdone : ∀ (ss₁ : Session Tbl) (e : PyExc),
      ((OrderService.completeOrder rt fresh (OrderService.accepted o cb) settings).run s ss₁).1
        = .error e → ¬e.isApp = true :=
    fun ss₁ e he => by simp [(neverRefuses_completeOrder _ _ _).run he]
  cases hd : OrderService.isDeposit o with
  | true =>
    have hno : ¬OpeningRefused rt s o := fun hrefused => by
      cases hd.symm.trans (hrefused user hu).1
    rw [if_pos (show OrderService.isDeposit (OrderService.accepted o cb) = true from hd)]
    rcases hrun : (OrderService.creditDeposit rt (OrderService.accepted o cb) user settings).run s
      (acceptedSession o cb) with ⟨e | _, ss₁⟩
    · have hquiet : e.isApp = false :=
        (neverRefuses_creditDeposit _ _ settings).run (congrArg Prod.fst hrun)
      exact ⟨_, ss₁, rfl, iff_of_false (by simp [hquiet]) hno, by simp [hquiet]⟩
    · exact ⟨_, _, rfl, iff_of_false (fun h => h.elim fun e he => hdone ss₁ e he.1 he.2) hno,
        fun e he happ => absurd happ (hdone ss₁ e he)⟩
  | false =>
  have hplanned : OpeningRefused rt s o ↔ ∀ plan, (s.db .plan).get? o.plan_id = some plan →
      PlanRefused rt s o user plan :=
    ⟨fun h => (h user hu).2, fun h u hu' => ⟨hd, honly u hu' ▸ h⟩⟩
  rw [hplanned, if_neg (by
      rw [show OrderService.isDeposit (OrderService.accepted o cb) = false from hd]
      decide),
    Prog.bind_eq, Prog.run_getForUpdate_bind, view_acceptedSession_of_ne (by decide),
    show (OrderService.accepted o cb).plan_id = o.plan_id from rfl]
  have h := @accepted_acceptedSession s o cb
  cases hplan : (s.db .plan).get? o.plan_id with
  | none =>
    exact ⟨_, _, rfl, iff_of_true ⟨_, rfl, rfl⟩ (by simp), fun _ _ _ => h.orders⟩
  | some plan =>
  simp only [Option.some.injEq, forall_eq']
  rcases @run_openPlan rt s _ o cb user plan (h.lock [⟨Tbl.plan, o.plan_id⟩])
    (view_acceptedSession_of_ne (by decide)) hd (huid ▸ hu) with
    ⟨hpass, -, ss₁, user', hrun, -⟩ | ⟨-, e, ss₁, hrun, hview, happ⟩
  · dsimp only [Option.toList, List.map]
    rw [hrun]
    exact ⟨_, _, rfl, iff_of_false (fun h => h.elim fun e he => hdone _ e he.1 he.2)
      fun hrefused => hrefused.fails hpass, fun e he happ => absurd happ (hdone _ e he)⟩
  · dsimp only [Option.toList, List.map]
    rw [hrun]
    refine ⟨_, ss₁, rfl, ⟨?_, fun hrefused => ⟨e, rfl, happ.mpr hrefused⟩⟩, fun _ _ _ => hview⟩
    rintro ⟨_, ⟨⟩, hrefused⟩
    exact happ.mp hrefused

end

end PyBoard
