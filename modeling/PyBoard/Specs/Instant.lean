/-
  PyBoard.Specs.Instant — what the opening of an order answers at one instant.

  The rules of `PyBoard.Specs.Opening` say what holds of an opening that returns.
  Here an opening that runs alone is computed step by step, so that what it raises
  is known as well: first the order is accepted, then it is fulfilled, then it is
  completed (`run_processPaidOrder`).  The settings are read in either way.
-/
import PyBoard.Specs.Reads
import PyBoard.Specs.Refusals

namespace PyBoard

open Relational

variable {rt : Runtime} {s : State Tbl} {ss : Session Tbl} {settings : SettingSource}

/-! ## §1. One row. -/

/-- Saving the stored version of a row. -/
theorem run_save {t : Tbl} {old new : t.Row} (h : (s.view ss t).get? (t.key old) = some old)
    (hk : t.key old = t.key new) :
    (save t old new).run s ss = (.ok (), ss.write (.put t new)) := by
  unfold save
  rw [Prog.bind_eq, Prog.run_update_bind,
    show (Stmt.update t old new).exec s ss = (true, ss.write (.put t new)) from
      Stmt.exec_update_stored h hk]
  rfl

/-- A session sees what it has just written, and nothing else of it. -/
theorem view_write_self {t : Tbl} (r : t.Row) :
    s.view (ss.write (.put t r)) t = (s.view ss t).put r := by
  rw [State.view, State.view, Session.write_ws, DB.apply_append]
  exact DB.put_same _ t r

theorem view_write_of_ne {t w : Tbl} (r : w.Row) (h : t ≠ w) :
    s.view (ss.write (.put w r)) t = s.view ss t := by
  rw [State.view, State.view, Session.write_ws, DB.apply_append]
  exact DB.put_other _ r h

/-- A query that found at most one row. -/
theorem run_selectOne {t : Tbl} {p : t.Row → Bool} {r? : Option t.Row} {ss' : Session Tbl}
    (h : ((Prog.select t p : Db _).bind scalarOneOrNone).run s ss = (.ok r?, ss')) :
    ss' = ss ∧ (s.view ss t).rows.filter p = r?.toList := by
  rw [Prog.run_select_bind] at h
  rcases scalarOneOrNone_cases ((s.view ss t).rows.filter p) with ⟨hret, hl⟩ | ⟨r, hret, hl⟩ | hret
  · rw [hret] at h
    cases h
    exact ⟨rfl, hl⟩
  · rw [hret] at h
    cases h
    exact ⟨rfl, hl⟩
  · rw [hret] at h
    cases h

/-- A query that found the row `r` at most. -/
theorem run_selectOne_eq {t : Tbl} {p : t.Row → Bool} {r : t.Row} {r? : Option t.Row}
    {ss' : Session Tbl}
    (h : ((Prog.select t p : Db _).bind scalarOneOrNone).run s ss = (.ok r?, ss'))
    (hr : (s.view ss t).get? (t.key r) = some r) (hp : p r = true) : ss' = ss ∧ r? = some r := by
  obtain ⟨hss, hfilter⟩ := run_selectOne h
  refine ⟨hss, ?_⟩
  have hmem : r ∈ r?.toList := by
    rw [← hfilter]
    exact List.mem_filter.mpr ⟨Table.mem_of_get? hr, hp⟩
  exact Option.mem_toList.mp hmem

/-- A query of a unique column finds its row, or there is none. -/
theorem run_selectUnique {t : Tbl} {p : t.Row → Bool}
    (hunique : ∀ a ∈ (s.view ss t).rows, ∀ b ∈ (s.view ss t).rows,
      p a = true → p b = true → a = b) :
    (∃ r ∈ (s.view ss t).rows, p r = true ∧
      ((Prog.select t p : Db _).bind scalarOneOrNone).run s ss = (.ok (some r), ss)) ∨
    (∀ r ∈ (s.view ss t).rows, ¬p r = true) ∧
      ((Prog.select t p : Db _).bind scalarOneOrNone).run s ss = (.ok none, ss) := by
  rw [Prog.run_select_bind]
  by_cases hfound : ∃ r ∈ (s.view ss t).rows, p r = true
  · obtain ⟨r, hr, hp⟩ := hfound
    refine .inl ⟨r, hr, hp, ?_⟩
    rw [Table.filter_eq_singleton _ hr hp fun x hx hxp => hunique x hx r hr hxp hp]
    rfl
  · have hnone : ∀ r ∈ (s.view ss t).rows, ¬p r = true := fun r hr hp => hfound ⟨r, hr, hp⟩
    refine .inr ⟨hnone, ?_⟩
    rw [List.filter_eq_nil_iff.mpr hnone]
    rfl

/-! ## §2. The deposit. -/

/-- The bonus of a deposit under the text of the setting. -/
def bonusOfText (rt : Runtime) (total_amount : Int) : Option String → Except PyExc Int
  | none => .ok 0
  | some val =>
      match rt.orjson_loads val with
      | none => .error (.value "JSONDecodeError")
      | some (.arr tiers) => OrderService.bonusOfTiers rt total_amount tiers 0
      | some _ => .ok 0

/-- The bonus that is computed from the text that a read answers. -/
def SettingSource.bonus (settings : SettingSource) (rt : Runtime) (s : State Tbl)
    (ss : Session Tbl) (total_amount : Int) : Except PyExc Int := do
  bonusOfText rt total_amount (← settings.text rt s ss "deposit_bounus")

theorem SettingSource.bonus_congr {ss' : Session Tbl}
    (h : s.view ss' .runtime_cache = s.view ss .runtime_cache) (total_amount : Int) :
    settings.bonus rt s ss' total_amount = settings.bonus rt s ss total_amount := by
  unfold bonus
  rw [text_congr (sameDocument_of_view h _)]

theorem SettingSource.bonus_of_text {text : Option String} {total_amount : Int}
    (h : settings.text rt s ss "deposit_bounus" = .ok text) :
    settings.bonus rt s ss total_amount = bonusOfText rt total_amount text := by
  unfold bonus
  rw [h]
  rfl

variable (settings) in
theorem run_depositBonus (hrows : s.view ss .setting = s.db .setting) (total_amount : Int) :
    ∃ ss', (OrderService.depositBonus rt total_amount settings).run s ss
      = (settings.bonus rt s ss total_amount, ss') ∧ CacheSince ss ss' ∧
        ∀ k, k ≠ SettingService.Cached.cacheKey "deposit_bounus" → SameDocument s ss ss' k := by
  obtain ⟨ss', hrun, hsince, hsame⟩ :=
    SettingSource.run_getJson rt settings hrows "deposit_bounus" (.arr [])
  refine ⟨ss', ?_, hsince, hsame⟩
  unfold OrderService.depositBonus SettingSource.bonus
  rw [Prog.bind_eq, Prog.run_bind, hrun]
  unfold SettingSource.json
  cases settings.text rt s ss "deposit_bounus" with
  | error e => rfl
  | ok val =>
    cases val with
    | none => rfl
    | some val =>
      dsimp only [bind, Except.bind, jsonOfText, bonusOfText]
      cases rt.orjson_loads val with
      | none => rfl
      | some v =>
        cases v with
        | arr tiers => exact run_liftExcept _
        | _ => rfl

/-- The deposit branch: the bonus is computed, and the sum must fit the column. -/
theorem run_creditDeposit {o : Order} {user : User} (hrows : s.view ss .setting = s.db .setting)
    (hu : (s.view ss .users).get? user.id = some user) :
    ∃ ss', CacheSince ss ss' ∧ (OrderService.creditDeposit rt o user settings).run s ss =
      match settings.bonus rt s ss o.total_amount with
      | .error e => (.error e, ss')
      | .ok bonus =>
        if user.balance + o.total_amount + bonus > OrderService.INTEGER_MAX then
          (.error (.other "DataError"), ss')
        else (.ok (), ss'.write (.put .users
          { user with balance := user.balance + o.total_amount + bonus })) := by
  obtain ⟨ss', hrun, hsince, -⟩ := @run_depositBonus rt s ss settings hrows o.total_amount
  have hu' : (s.view ss' .users).get? user.id = some user := by
    rw [hsince.view (by decide)]
    exact hu
  refine ⟨ss', hsince, ?_⟩
  unfold OrderService.creditDeposit
  rw [Prog.bind_eq, Prog.run_bind, hrun]
  cases settings.bonus rt s ss o.total_amount with
  | error e => rfl
  | ok bonus =>
    dsimp only
    split
    · rfl
    · exact run_save hu' rfl

/-! ## §3. The opening. -/

/-- The session of an opening that has accepted its order and locked its user. -/
def acceptedSession (o : Order) (cb : Option String) : Session Tbl :=
  ((Session.fresh.lock [⟨Tbl.orders, o.id⟩]).write (.put .orders (OrderService.accepted o cb))).lock
    [⟨Tbl.users, (OrderService.accepted o cb).user_id⟩]

theorem view_acceptedSession_of_ne {o : Order} {cb : Option String} {t : Tbl} (h : t ≠ .orders) :
    s.view (acceptedSession o cb) t = s.db t :=
  view_write_of_ne (w := .orders) (OrderService.accepted o cb) h

/-- The order is stored as it was accepted while its user is credited. -/
theorem view_acceptedSession_order {o : Order} {cb : Option String} {ss' : Session Tbl}
    (h : CacheSince (acceptedSession o cb) ss') (u : User) :
    (s.view (ss'.write (.put .users u)) .orders).get?
      (OrderService.accepted o cb).id = some (OrderService.accepted o cb) := by
  rw [view_write_of_ne (w := .users) _ (by decide), h.view (by decide)]
  show (s.view ((Session.fresh.lock [⟨Tbl.orders, o.id⟩]).write
    (.put .orders (OrderService.accepted o cb))) .orders).get? _ = _
  rw [view_write_self (t := .orders)]
  exact Table.get?_put_self _ (OrderService.accepted o cb)

/-- **An opening at one instant**: the order is accepted, fulfilled and completed. -/
theorem run_processPaidOrder {fresh : Fresh} {cb : Option String} {o : Order} {user : User}
    (ho : (s.db .orders).get? o.id = some o) (hst : o.status = 0 ∨ o.status = 1)
    (hu : (s.db .users).get? o.user_id = some user) :
    (OrderService.processPaidOrder rt fresh o.id cb settings).run s Session.fresh =
      match (OrderService.fulfil rt (OrderService.accepted o cb) user settings).run s
          (acceptedSession o cb) with
      | (.ok _, ss) =>
        (OrderService.completeOrder rt fresh (OrderService.accepted o cb) settings).run s ss
      | (.error e, ss) => (.error e, ss) := by
  unfold OrderService.processPaidOrder OrderRepository.getByIdForUpdate
    UserRepository.getByIdForUpdate
  have hfound : (s.view Session.fresh Tbl.orders).get? o.id = some o := ho
  rw [Prog.bind_eq, Prog.run_getForUpdate_found hfound]
  dsimp only
  have hsave : (save .orders o (OrderService.accepted o cb)).run s
      (Session.fresh.lock [⟨Tbl.orders, o.id⟩]) = (.ok (), _) :=
    run_save (t := .orders) ho rfl
  rw [if_neg (by omega), Prog.bind_eq, Prog.run_bind, hsave]
  dsimp only
  have hview : (s.view ((Session.fresh.lock [⟨Tbl.orders, o.id⟩]).write
      (.put .orders (OrderService.accepted o cb))) Tbl.users).get?
        (OrderService.accepted o cb).user_id = some user := by
    rw [view_write_of_ne (w := .orders) (OrderService.accepted o cb) (by decide)]
    exact hu
  rw [Prog.bind_eq, Prog.run_getForUpdate_found hview]
  dsimp only
  rw [Prog.bind_eq, Prog.run_bind]
  unfold acceptedSession
  rcases (OrderService.fulfil rt (OrderService.accepted o cb) user settings).run s _ with
    ⟨e | a, ss⟩ <;> rfl

/-- The completion of an order: the order is stored, and its commission follows if it has a
    plan. -/
theorem run_completeOrder {fresh : Fresh} {o : Order}
    (ho : (s.view ss .orders).get? o.id = some o) (hnow : integerFits s.now = true) :
    (OrderService.completeOrder rt fresh o settings).run s ss
      = (whenever (o.plan_id > 0)
          (CommissionService.calculateForOrder rt fresh o.id settings)).run s
          (ss.write (.put .orders (OrderService.completed o s.now))) := by
  have hsave : (save .orders o (OrderService.completed o s.now)).run s ss = (.ok (), _) :=
    run_save (t := .orders) ho rfl
  unfold OrderService.completeOrder time
  rw [Prog.bind_eq, Prog.run_clock_bind, if_neg (by simp [hnow]), Prog.bind_eq, Prog.run_bind,
    hsave]

/-- A time that `paid_at` does not take. -/
theorem run_completeOrder_late {fresh : Fresh} {o : Order} (hnow : integerFits s.now = false) :
    (OrderService.completeOrder rt fresh o settings).run s ss
      = (.error (.other "DBAPIError"), ss) := by
  unfold OrderService.completeOrder time
  rw [Prog.bind_eq, Prog.run_clock_bind, if_pos (by simp [hnow])]
  rfl

/-- A commission that was refused by hand is not calculated. -/
theorem run_calculateForOrder_refused {fresh : Fresh} {o : Order}
    (ho : (s.view ss .orders).get? o.id = some o) (hrefused : o.commission_status = 3) :
    (CommissionService.calculateForOrder rt fresh o.id settings).run s ss
      = (.ok (), ss.lock [⟨Tbl.orders, o.id⟩]) := by
  unfold CommissionService.calculateForOrder OrderRepository.getByIdForUpdate
  rw [Prog.bind_eq, Prog.run_getForUpdate_found ho]
  dsimp only
  rw [if_pos (Or.inr (Or.inr (Or.inr (Or.inr hrefused))))]
  rfl

theorem run_completeOrder_refused {fresh : Fresh} {o : Order}
    (ho : (s.view ss .orders).get? o.id = some o) (hnow : integerFits s.now = true)
    (hrefused : o.commission_status = 3) :
    ∃ ids, (OrderService.completeOrder rt fresh o settings).run s ss
      = (.ok (), (ss.write (.put .orders (OrderService.completed o s.now))).lock ids) := by
  rw [run_completeOrder ho hnow]
  unfold whenever
  by_cases hplan : o.plan_id > 0
  · have hfound : (s.view (ss.write (.put .orders (OrderService.completed o s.now))) .orders).get?
        (OrderService.completed o s.now).id = some (OrderService.completed o s.now) := by
      rw [view_write_self (t := .orders)]
      exact Table.get?_put_self _ (OrderService.completed o s.now)
    rw [if_pos hplan]
    exact ⟨_, run_calculateForOrder_refused (o := OrderService.completed o s.now) hfound hrefused⟩
  · rw [if_neg hplan]
    exact ⟨[], rfl⟩

/-- The plan branch of an order that takes nothing and whose period has no number of months:
    the period is refused. -/
theorem run_openPlan_unsupported {o : Order} {user : User} {plan : Plan}
    (hu : (s.view ss .users).get? user.id = some user) (hroom : plan.capacity_limit = none)
    (hcoupon : o.coupon_id = none) (hbalance : o.balance_amount = none)
    (hperiod : unsupportedPeriod o) :
    ((OrderService.openPlan rt o user plan).run s ss).1 = .error badPeriod := by
  have hsave : (save .users user (OrderService.paying o user)).run s ss = (.ok (), _) :=
    run_save (t := .users) hu rfl
  have hcapacity : ∀ c : Prop, ∀ _ : Decidable c, (whenever c
      (OrderService.ensurePlanCapacityAvailable plan.id plan.capacity_limit)).run s ss
        = (.ok (), ss) := by
    intro c _
    unfold whenever
    rw [hroom]
    split <;> rfl
  have hskip : ¬(o.coupon_id.isSome ∧ 0 < o.discount_amount.getD 0) := by simp [hcoupon]
  have hfree : ¬(0 < OrderService.deduction o ∧ user.balance < OrderService.deduction o) := by
    simp [OrderService.deduction, hbalance]
  unfold OrderService.openPlan time
  rw [Prog.bind_eq, Prog.run_clock_bind, Prog.bind_eq, Prog.run_bind, hcapacity]
  dsimp only
  rw [whenever, if_neg hskip]
  show ((if _ then _ else _ : Db Unit).run s ss).1 = _
  rw [if_neg hfree, if_neg hperiod.1, if_neg hperiod.2.1, hperiod.2.2]
  dsimp only
  rw [Prog.bind_eq, Prog.run_bind, hsave]
  rfl

end PyBoard
