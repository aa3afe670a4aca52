/-
  PyBoard.Results.Access — what redemptions and openings do to a user's access.

  `User.endOfAccess` is the end of the access of a user as the services read it:
  a plan without a term is permanent (`_is_user_active`), a term that is not over
  counts with or without a plan, and everything else has ended.  A redemption
  moves this end back for the cards of `Giftcard.curtails` and for no other card
  (`redemption_takes_nothing_iff`).  Opening an order for the plan that its user
  holds keeps the end, except where the order fixes it (`renewal_keeps_access_iff`).
  Opening an order for another plan counts the bought months from the end of the old
  term, so what is left of it becomes time on the new plan (`plan_change_bought_only`).
-/
import Mathlib.Data.Int.ConditionallyCompleteOrder
import Mathlib.Order.WithBot
import PyBoard.Python.Calendar
import PyBoard.Specs.Users

namespace PyBoard

open Relational

variable {rt : Runtime}

/-! ## §1. The end of a user's access. -/

/-- **The end of the access** of a user at the time `now`: `⊤` is permanent, `⊥` is over. -/
def User.endOfAccess (user : User) (now : Int) : WithBot (WithTop Int) :=
  match user.expired_at with
  | none => if user.plan_id.isSome then ⊤ else ⊥
  | some e => if now < e then ((e : WithTop Int) : WithBot (WithTop Int)) else ⊥

/-- Does the user hold a plan without a term? -/
def User.permanent (user : User) : Bool := user.plan_id.isSome && user.expired_at.isNone

section

variable {user : User} {now e : Int}

theorem User.endOfAccess_permanent (h : user.permanent = true) : user.endOfAccess now = ⊤ := by
  simp only [User.permanent, Bool.and_eq_true, Option.isNone_iff_eq_none] at h
  simp [User.endOfAccess, h.1, h.2]

theorem User.endOfAccess_running (h : user.expired_at = some e) (hlt : now < e) :
    user.endOfAccess now = ((e : WithTop Int) : WithBot (WithTop Int)) := by
  simp [User.endOfAccess, h, hlt]

/-- Access that is neither permanent nor bounded by a term to come is over. -/
theorem User.endOfAccess_over (h : user.permanent = false)
    (hterm : ∀ e, user.expired_at = some e → e ≤ now) : user.endOfAccess now = ⊥ := by
  unfold User.endOfAccess
  unfold User.permanent at h
  cases hexp : user.expired_at with
  | none => simpa [hexp] using h
  | some e => exact if_neg (not_lt.mpr (hterm e hexp))

/-- When a user with the term `t` keeps the access of `user`. -/
theorem User.endOfAccess_le_iff {user' : User} {t : Int} (h' : user'.expired_at = some t) :
    user.endOfAccess now ≤ user'.endOfAccess now ↔
      user.permanent = false ∧ ∀ e, user.expired_at = some e → now < e → e ≤ t := by
  have hend' : user'.endOfAccess now
      = if now < t then ((t : WithTop Int) : WithBot (WithTop Int)) else ⊥ := by
    unfold User.endOfAccess
    rw [h']
  rw [hend']
  cases hperm : user.permanent with
  | true =>
    rw [User.endOfAccess_permanent hperm]
    split <;> simp
  | false =>
    simp only [true_and]
    by_cases hrun : ∃ e, user.expired_at = some e ∧ now < e
    · obtain ⟨e, hexp, hlt⟩ := hrun
      rw [User.endOfAccess_running hexp hlt]
      simp only [hexp, Option.some.injEq, forall_eq', hlt, true_imp_iff]
      split
      · simp
      · -- a term that is over does not reach a later one
        simp only [le_bot_iff, WithBot.coe_ne_bot, false_iff]
        omega
    · rw [User.endOfAccess_over hperm fun e hexp => not_lt.mp fun hlt => hrun ⟨e, hexp, hlt⟩]
      simp only [bot_le, true_iff]
      exact fun e hexp hlt => absurd ⟨e, hexp, hlt⟩ hrun

/-- Two users with the same plan and term have the same end. -/
theorem User.endOfAccess_congr {user' : User} (hplan : user'.plan_id = user.plan_id)
    (hexp : user'.expired_at = user.expired_at) :
    user'.endOfAccess now = user.endOfAccess now := by
  unfold User.endOfAccess
  rw [hplan, hexp]

end

/-! ## §2. Redemptions. -/

/-- The end of the term that a plan card brings. -/
def Giftcard.termFrom (g : Giftcard) (now : Int) : Int :=
  if g.value = some 0 then 4102444800 else now + g.value.getD 0 * 86400

/-- Does redeeming the card move the end of the user's access to an earlier time?  The
    term of a duration card or of a plan card replaces a permanent plan, and that of a
    plan card replaces a longer term. -/
def Giftcard.curtails (g : Giftcard) (now : Int) (user : User) : Bool :=
  (g.type = 2 && user.permanent) ||
    (g.type = 5 && (user.permanent ||
      user.expired_at.any fun e => now < e && g.termFrom now < e))

/-- **One redemption**: the balance grows, and the access ends earlier exactly for a card
    that curtails it. -/
theorem Giftcard.applies.takes_nothing_iff {g : Giftcard} {now : Int} {db : Database}
    {user user' : User} (h : g.applies now db user user') (hvalue : 0 ≤ g.value.getD 0) :
    (user.balance ≤ user'.balance ∧ user.endOfAccess now ≤ user'.endOfAccess now) ↔
      g.curtails now user = false := by
  have hbalance : user.balance ≤ user'.balance := by
    rw [h.balance]
    split <;> omega
  rw [and_iff_right hbalance]
  -- a card that keeps the plan and its term keeps the end of the access
  have hsame : ∀ u : User, g.type ≠ 2 → g.type ≠ 5 → u.plan_id = user.plan_id →
      u.expired_at = user.expired_at →
      (user.endOfAccess now ≤ u.endOfAccess now ↔ g.curtails now user = false) := by
    intro u h2 h5 hplan hexp
    rw [User.endOfAccess_congr hplan hexp]
    simp [Giftcard.curtails, h2, h5]
  cases h.kind with
  | balance h1 => exact hsame _ (by omega) (by omega) rfl rfl
  | traffic h3 hpos => exact hsame _ (by omega) (by omega) rfl rfl
  | reset h4 => exact hsame _ (by omega) (by omega) rfl rfl
  | duration h2 hpos =>
    refine Iff.trans (User.endOfAccess_le_iff rfl) ?_
    simp only [Giftcard.curtails, h2, decide_true, Bool.true_and, Bool.or_eq_false_iff]
    constructor
    · intro hend
      exact ⟨hend.1, by simp⟩
    · intro hend
      refine ⟨hend.1, fun e hexp _ => ?_⟩
      rw [hexp, Option.getD_some]
      omega
  | plan h5 plan hid hplan hexpired =>
    refine Iff.trans (User.endOfAccess_le_iff rfl) ?_
    have hcurtails : g.curtails now user = (user.permanent ||
        user.expired_at.any fun e => now < e && g.termFrom now < e) := by
      simp [Giftcard.curtails, h5]
    rw [hcurtails, Bool.or_eq_false_iff]
    refine and_congr_right fun _ => ?_
    show _ ↔ (user.expired_at.any fun e => now < e && g.termFrom now < e) = false
    cases user.expired_at with
    | none => simp
    | some e =>
      simp only [Option.some.injEq, forall_eq', Option.any_some, Bool.and_eq_false_imp,
        decide_eq_true_eq, decide_eq_false_iff_not, not_lt]
      rfl

/-- **When redeeming a card takes nothing away**: exactly when the card does not curtail the
    access of its user. -/
theorem redemption_takes_nothing_iff {fresh : Fresh} {user_id : Int} {code : String}
    {s : State Tbl} {ss : Session Tbl}
    (hrun : (GiftcardService.redeem rt fresh user_id code).run s Session.fresh = (.ok (), ss)) :
    ∃ (g : Giftcard) (user user' : User), GiftcardService.normalizeCode rt code = .ok g.code ∧
      (s.db .giftcard).get? g.id = some g ∧ (s.db .users).get? user_id = some user ∧
      (s.view ss .users).get? user_id = some user' ∧
      (0 ≤ g.value.getD 0 →
        ((user.balance ≤ user'.balance ∧ user.endOfAccess s.now ≤ user'.endOfAccess s.now) ↔
          g.curtails s.now user = false)) := by
  obtain ⟨r, huser, hr⟩ := redeem_run hrun
  refine ⟨r.card, r.user, r.user', hr.coded, hr.card, huser ▸ hr.user, ?_,
    fun hvalue => hr.applied.takes_nothing_iff hvalue⟩
  rw [hr.users, ← huser, ← hr.applied.id_eq]
  exact Table.get?_put_self _ r.user'

/-- A user without a plan whose access ends in thirty days, a plan, and a card. -/
def timeWithoutPlan (g : Giftcard) : Database
  | .users => ⟨[{ id := 1, email := "a@example.com", password := "", token := "a", uuid := "",
                  expired_at := some 1702592000 }], by decide⟩
  | .plan => ⟨[{ id := 1, group_id := 1, transfer_enable := 0 }], by decide⟩
  | .giftcard => ⟨[g], List.nodup_singleton _⟩
  | _ => Table.empty

/-- A card of the type `type` with the value 7, for the plan 1. -/
def cardOfType (type : Int) : Giftcard :=
  { id := 1, code := "CARD", type := type, value := some 7, plan_id := some 1, started_at := 0,
    ended_at := 4000000000 }

/-- The end of the access of the user 1. -/
def accessOf (db : Database) (now : Int) : Option (WithBot (WithTop Int)) :=
  ((db .users).get? (1 : Int)).map fun user : User => user.endOfAccess now

/-- What redeeming the card of the user 1 answers, with the end of the access before and
    after it. -/
def accessAround (g : Giftcard) (now : Int) :
    Bool × Option (WithBot (WithTop Int)) × Option (WithBot (WithTop Int)) :=
  let s : State Tbl := ⟨timeWithoutPlan g, now⟩
  let (r, ss) := (GiftcardService.redeem Utc.bare ⟨1, 0, ""⟩ 1 g.code).run s Session.fresh
  (r.isOk, accessOf s.db now, accessOf (s.view ss) now)

/-- **A plan card takes access away**: the thirty days become seven. -/
theorem redemption_takes_access :
    let thirtyDays : WithBot (WithTop Int) := ((1702592000 : Int) : WithTop Int)
    let sevenDays : WithBot (WithTop Int) := ((1700604800 : Int) : WithTop Int)
    accessAround (cardOfType 5) 1700000000 = (true, some thirtyDays, some sevenDays) ∧
      ¬thirtyDays ≤ sevenDays := by
  exact ⟨rfl, by decide⟩

/-- A balance card takes nothing away from the same user. -/
theorem redemption_takes_nothing_balance : ∃ ss,
    (GiftcardService.redeem Utc.bare ⟨1, 0, ""⟩ 1 "CARD").run
        ⟨timeWithoutPlan (cardOfType 1), 1700000000⟩ Session.fresh = (.ok (), ss) ∧
      ∃ user user' : User, (timeWithoutPlan (cardOfType 1) .users).get? (1 : Int) = some user ∧
        (State.view ⟨timeWithoutPlan (cardOfType 1), 1700000000⟩ ss .users).get? (1 : Int)
          = some user' ∧
        user.balance ≤ user'.balance ∧
        user.endOfAccess 1700000000 ≤ user'.endOfAccess 1700000000 := by
  have hok : ((GiftcardService.redeem Utc.bare ⟨1, 0, ""⟩ 1 "CARD").run
      ⟨timeWithoutPlan (cardOfType 1), 1700000000⟩ Session.fresh).1 = .ok () := rfl
  obtain ⟨g, user, user', -, hcard, huser, huser', hiff⟩ :=
    redemption_takes_nothing_iff (Prod.ext hok rfl)
  have hg : g = cardOfType 1 := List.mem_singleton.mp (Table.mem_of_get? hcard)
  refine ⟨_, Prod.ext hok rfl, user, user', huser, huser', ?_⟩
  rw [hg] at hiff
  exact (hiff (by decide)).mpr rfl

/-! ## §3. Renewals. -/

/-- Does opening the order keep the access of a user who holds its plan?  A deposit leaves
    it alone; a term is counted from a finite expiry only, and that of a onetime order is
    fixed. -/
def Order.keepsAccess (o : Order) (user : User) : Bool :=
  o.period = "deposit" ||
    user.expired_at.any fun e => o.period ≠ "onetime_price" || e ≤ NEVER_EXPIRES_AT

/-- **The access that a renewal promises**: it lasts at least as long, and a period of `n`
    months moves a finite expiry by exactly so many calendar months. -/
def Renewed (rt : Runtime) (o : Order) (now : Int) (user user' : User) : Prop :=
  user.endOfAccess now ≤ user'.endOfAccess now ∧
    ∀ n e, PERIOD_MONTHS o.period = some n → user.expired_at = some e →
      ∃ e', rt.monthsLater e n = some e' ∧ user'.expired_at = some e'

theorem PERIOD_MONTHS_pos {period : String} {n : Int} (h : PERIOD_MONTHS period = some n) :
    1 ≤ n := by
  unfold PERIOD_MONTHS at h
  repeat' split at h
  all_goals first
    | (injection h with h; omega)
    | cases h

/-- Months are added as the calendar counts them. -/
theorem addMonths_eq {now t n e : Int} (h : addMonths rt now t n = .ok e) :
    rt.monthsLater (max t now) n = some e := by
  unfold addMonths at h
  unfold Runtime.monthsLater
  cases hdt : rt.fromtimestamp (max t now) with
  | none =>
    rw [hdt] at h
    cases h
  | some dt =>
    rw [hdt] at h
    have hyear : dt.year + (dt.month - 1 + n) / 12 = (dt.monthIndex + n) / 12 := by
      unfold LocalTime.monthIndex
      omega
    have hmonth : (dt.month - 1 + n) % 12 + 1 = (dt.monthIndex + n) % 12 + 1 := by
      unfold LocalTime.monthIndex
      omega
    dsimp only at h
    rw [hyear, hmonth] at h
    split at h
    · cases h
    split at h
    · cases h
    · next ts hts =>
      injection h with h
      rw [← h]
      exact hts

/-- **One renewal.** -/
theorem OpensTo.renewed_iff (hclock : LocalClock rt) {o : Order} {user user' : User} {now : Int}
    {s : State Tbl} {ss : Session Tbl} (h : OpensTo rt o user now s ss user')
    (hplan : o.plan_id ≠ 0)
    (hholds : user.plan_id = some o.plan_id)
    (hactive : isUserActive now user.expired_at = true) (hperiod : o.period ≠ "reset_price") :
    Renewed rt o now user user' ↔ o.keepsAccess user = true := by
  cases h with
  | deposit hd bonus =>
    have hdeposit : o.period = "deposit" := by
      simpa [OrderService.isDeposit, hplan] using hd
    have hmonths : PERIOD_MONTHS o.period = none := by
      rw [hdeposit]
      rfl
    simp only [Order.keepsAccess, hdeposit, decide_true, Bool.true_or, iff_true]
    exact ⟨le_rfl, fun n e hn => by rw [hmonths] at hn; cases hn⟩
  | reset hd hreset => exact absurd hreset hperiod
  | onetime hd honetime p hpid =>
    have hmonths : PERIOD_MONTHS o.period = none := by
      rw [honetime]
      rfl
    have hend : user.endOfAccess now ≤ (OrderService.entitle
        (OrderService.resetTraffic (OrderService.paying o user)) p NEVER_EXPIRES_AT).endOfAccess now
        ↔ _ := User.endOfAccess_le_iff rfl
    unfold Renewed
    rw [hend, and_iff_left (fun n e hn => by rw [hmonths] at hn; cases hn)]
    have hplan' : user.plan_id.isSome = true := by rw [hholds]; rfl
    cases hexp : user.expired_at with
    | none => simp [Order.keepsAccess, User.permanent, hplan', hexp, honetime]
    | some e =>
      rw [hexp] at hactive
      have hlt : now < e := by simpa [isUserActive] using hactive
      simp [Order.keepsAccess, User.permanent, hexp, honetime, hlt]
  | months hd hreset n hmonths p hpid carried hc e he =>
    have hlater := addMonths_eq he
    have hdeposit : o.period ≠ "deposit" := by
      intro h
      rw [h] at hmonths
      cases hmonths
    have honetime : o.period ≠ "onetime_price" := by
      intro h
      rw [h] at hmonths
      cases hmonths
    have hend : user.endOfAccess now ≤ (OrderService.entitle carried p e).endOfAccess now ↔ _ :=
      User.endOfAccess_le_iff rfl
    unfold Renewed
    rw [hend]
    cases hexp : user.expired_at with
    | none =>
      have hplan' : user.plan_id.isSome = true := by rw [hholds]; rfl
      simp [Order.keepsAccess, User.permanent, hplan', hexp, hdeposit]
    | some t =>
      -- the expiry of an active user is what the months are counted from
      have hlt : now < t := by
        rw [hexp] at hactive
        simpa [isUserActive] using hactive
      rw [hexp, Option.getD_some, max_eq_left hlt.le] at hlater
      have hle := hclock.monthsLater_le (PERIOD_MONTHS_pos hmonths) hlater
      have hkeeps : o.keepsAccess user = true := by
        simp [Order.keepsAccess, hexp, honetime]
      rw [hkeeps]
      simp only [iff_true]
      refine ⟨⟨by simp [User.permanent, hexp], ?_⟩, ?_⟩
      · intro e' he' _
        rw [← Option.some.inj he']
        exact hle
      · intro n' e' hn' he'
        rw [hmonths] at hn'
        rw [← Option.some.inj hn', ← Option.some.inj he']
        exact ⟨e, hlater, rfl⟩

/-- **When a renewal keeps the access**: exactly when the order does not fix the end, or
    replace a permanent one. -/
theorem renewal_keeps_access_iff (hclock : LocalClock rt) {fresh : Fresh} {cb : Option String}
    {s : State Tbl} {ss : Session Tbl} {o : Order} {user : User}
    (ho : (s.db .orders).get? o.id = some o) (hst : o.status = 0 ∨ o.status = 1)
    (huser : (s.db .users).get? o.user_id = some user) (hplan : o.plan_id ≠ 0)
    (hholds : user.plan_id = some o.plan_id)
    (hactive : isUserActive s.now user.expired_at = true) (hperiod : o.period ≠ "reset_price")
    (hrun : (OrderService.processPaidOrder rt fresh o.id cb).run s Session.fresh = (.ok (), ss)) :
    ∃ user' : User, (s.view ss .users).get? o.user_id = some user' ∧
      (Renewed rt o s.now user user' ↔ o.keepsAccess user = true) := by
  obtain ⟨u, user', hu, hu', hopens⟩ := processPaidOrder_opens ho hst hrun
  rw [huser] at hu
  cases hu
  exact ⟨user', hu', hopens.renewed_iff hclock hplan hholds hactive hperiod⟩

/-- A user of the plan 1 until `expired_at`. -/
def holder (expired_at : Int) : User :=
  { id := 1, email := "a@example.com", password := "", token := "a", uuid := "",
    plan_id := some 1, expired_at := some expired_at }

/-- A paid order of the user 1 for the plan 1. -/
def paidOrder (period : String) : Order :=
  { id := 1, user_id := 1, plan_id := 1, period := period, trade_no := "T", total_amount := 0,
    type := 2, status := 1, created_at := 0 }

/-- The user, the plan and the order. -/
def renewing (expired_at : Int) (period : String) : Database
  | .users => ⟨[holder expired_at], List.nodup_singleton _⟩
  | .plan => ⟨[{ id := 1, group_id := 1, transfer_enable := 0 }], by decide⟩
  | .orders => ⟨[paidOrder period], List.nodup_singleton _⟩
  | _ => Table.empty

/-- What opening the order answers, with the end of the access before and after it. -/
def accessAroundRenewal (db : Database) (now : Int) :
    Bool × Option (WithBot (WithTop Int)) × Option (WithBot (WithTop Int)) :=
  let (r, ss) := (OrderService.processPaidOrder Utc.bare ⟨1, 0, ""⟩ 1 none).run ⟨db, now⟩
    Session.fresh
  (r.isOk, accessOf db now, accessOf (State.view ⟨db, now⟩ ss) now)

/-- **A onetime order takes access away**: it ends the access of a user whose term is over
    in February 2100 a month earlier. -/
theorem renewal_takes_access :
    let february : WithBot (WithTop Int) := ((4105123200 : Int) : WithTop Int)
    let january : WithBot (WithTop Int) := ((4102444800 : Int) : WithTop Int)
    accessAroundRenewal (renewing 4105123200 "onetime_price") 1700000000
      = (true, some february, some january) ∧ ¬february ≤ january := by
  exact ⟨rfl, by decide⟩

/-- The UTC clock around the end of the year 2023. -/
def clockOf2023 : Runtime :=
  { Utc.bare with fromtimestamp := fun t => if t = 1703980800 then Utc.fromtimestamp t else none }

theorem localClock_2023 : LocalClock clockOf2023 where
  shown := by
    intro t dt h
    obtain ⟨ht, h⟩ : t = 1703980800 ∧ Utc.fromtimestamp t = some dt := by
      simpa [clockOf2023, Option.ite_none_right_eq_some] using h
    rw [ht, show Utc.fromtimestamp 1703980800 = some ⟨2023, 12, 31, 0⟩ by decide] at h
    cases h
    rw [ht]
    exact ⟨⟨by decide, by decide, by decide⟩, by decide⟩
  read := by
    intro dt t _ h
    have ht : dt.civil = t := Option.some.inj h
    rw [ht, sub_self]
    decide

/-- A term that ends on 31 December 2023 is renewed for two years. -/
theorem renewal_keeps_access_two_years : ∃ ss,
    (OrderService.processPaidOrder clockOf2023 ⟨1, 0, ""⟩ 1 none).run
        ⟨renewing 1703980800 "two_year_price", 1700000000⟩ Session.fresh = (.ok (), ss) ∧
      ∃ user' : User,
        (State.view ⟨renewing 1703980800 "two_year_price", 1700000000⟩ ss .users).get? (1 : Int)
          = some user' ∧
        (holder 1703980800).endOfAccess 1700000000 ≤ user'.endOfAccess 1700000000 := by
  have hok : ((OrderService.processPaidOrder clockOf2023 ⟨1, 0, ""⟩ (paidOrder "two_year_price").id
      none).run ⟨renewing 1703980800 "two_year_price", 1700000000⟩ Session.fresh).1 = .ok () := rfl
  have ho : (renewing 1703980800 "two_year_price" .orders).get? (paidOrder "two_year_price").id
      = some (paidOrder "two_year_price") := rfl
  have huser : (renewing 1703980800 "two_year_price" .users).get?
      (paidOrder "two_year_price").user_id = some (holder 1703980800) := rfl
  obtain ⟨user', hu', hiff⟩ := renewal_keeps_access_iff localClock_2023 ho (Or.inr rfl) huser
    (by decide) rfl (by decide) (by decide) (Prod.ext hok rfl)
  exact ⟨_, Prod.ext hok rfl, user', hu', (hiff.mpr (by decide)).1⟩

/-! ## §4. Plan changes. -/

/-- **The term that was bought**: it ends no later than `n` calendar months from now. -/
def BoughtOnly (rt : Runtime) (now n : Int) (user' : User) : Prop :=
  ∃ limit e, rt.monthsLater now n = some limit ∧ user'.expired_at = some e ∧ e ≤ limit

/-- What the opening of a monthly order for a plan makes of its user. -/
theorem OpensTo.term {o : Order} {user user' : User} {now n : Int} {s : State Tbl}
    {ss : Session Tbl} (h : OpensTo rt o user now s ss user') (hplan : o.plan_id ≠ 0)
    (hmonths : PERIOD_MONTHS o.period = some n) :
    user'.plan_id = some o.plan_id ∧
      ∃ e, rt.monthsLater (max (user.expired_at.getD 0) now) n = some e ∧
        user'.expired_at = some e := by
  have hother : ∀ period, PERIOD_MONTHS period = none → o.period ≠ period := by
    intro period hnone heq
    rw [heq, hnone] at hmonths
    cases hmonths
  cases h with
  | deposit hd bonus =>
    have hdeposit : o.period = "deposit" := by
      simpa [OrderService.isDeposit, hplan] using hd
    exact absurd hdeposit (hother "deposit" rfl)
  | reset hd hreset => exact absurd hreset (hother "reset_price" rfl)
  | onetime hd honetime => exact absurd honetime (hother "onetime_price" rfl)
  | months hd hreset m hm p hpid carried hc e he =>
    rw [hmonths] at hm
    cases hm
    exact ⟨congrArg some hpid, e, addMonths_eq he, rfl⟩

/-- **What is left of the old plan becomes time on the new one**: the new term is the bought
    one if the old term is over, and longer if that has ten days left. -/
theorem plan_change_bought_only (hclock : LocalClock rt) {fresh : Fresh} {cb : Option String}
    {s : State Tbl} {ss : Session Tbl} {o : Order} {user : User} {n : Int}
    (ho : (s.db .orders).get? o.id = some o) (hst : o.status = 0 ∨ o.status = 1)
    (huser : (s.db .users).get? o.user_id = some user) (hplan : o.plan_id ≠ 0)
    (hmonths : PERIOD_MONTHS o.period = some n)
    (hrun : (OrderService.processPaidOrder rt fresh o.id cb).run s Session.fresh = (.ok (), ss)) :
    ∃ user' : User, (s.view ss .users).get? o.user_id = some user' ∧
      user'.plan_id = some o.plan_id ∧
      (user.expired_at.getD 0 ≤ s.now → BoughtOnly rt s.now n user') ∧
      (s.now + 10 * 86400 ≤ user.expired_at.getD 0 → ¬BoughtOnly rt s.now n user') := by
  obtain ⟨u, user', hu, hu', hopens⟩ := processPaidOrder_opens ho hst hrun
  rw [huser] at hu
  cases hu
  obtain ⟨hplan', e, hlater, hexp⟩ := hopens.term hplan hmonths
  refine ⟨user', hu', hplan', fun hover => ?_, fun hleft => ?_⟩
  · rw [max_eq_right hover] at hlater
    exact ⟨e, e, hlater, hexp, le_rfl⟩
  · rintro ⟨limit, e', hlimit, hexp', hle⟩
    rw [max_eq_left (by omega)] at hlater
    have hlt := hclock.monthsLater_lt hleft hlimit hlater
    rw [hexp] at hexp'
    cases hexp'
    omega

/-- A user of the plan 2 with a paid order for the plan 1. -/
def changing (expired_at : Int) : Database
  | .users => ⟨[{ holder expired_at with plan_id := some 2 }], List.nodup_singleton _⟩
  | t => renewing expired_at "month_price" t

/-- **A month on a new plan that lasts until 2100**: the user comes from a onetime plan. -/
theorem plan_change_carries_time :
    let before : WithBot (WithTop Int) := ((4102444800 : Int) : WithTop Int)
    let after : WithBot (WithTop Int) := ((4105123200 : Int) : WithTop Int)
    accessAroundRenewal (changing 4102444800) 1700000000 = (true, some before, some after) ∧
      Utc.bare.monthsLater 1700000000 1 = some 1702592000 := by
  exact ⟨rfl, rfl⟩

/-- A user whose term is over gets one month. -/
theorem plan_change_bought_only_lapsed : ∃ ss,
    (OrderService.processPaidOrder clockOf2023 ⟨1, 0, ""⟩ 1 none).run
        ⟨changing 1600000000, 1703980800⟩ Session.fresh = (.ok (), ss) ∧
      ∃ user' : User, (State.view ⟨changing 1600000000, 1703980800⟩ ss .users).get? (1 : Int)
        = some user' ∧ BoughtOnly clockOf2023 1703980800 1 user' := by
  have hok : ((OrderService.processPaidOrder clockOf2023 ⟨1, 0, ""⟩ (paidOrder "month_price").id
      none).run ⟨changing 1600000000, 1703980800⟩ Session.fresh).1 = .ok () := rfl
  have ho : (changing 1600000000 .orders).get? (paidOrder "month_price").id
      = some (paidOrder "month_price") := rfl
  have huser : (changing 1600000000 .users).get? (paidOrder "month_price").user_id
      = some { holder 1600000000 with plan_id := some 2 } := rfl
  obtain ⟨user', hu', -, hbought, -⟩ := plan_change_bought_only localClock_2023 ho (Or.inr rfl)
    huser (by decide) rfl (Prod.ext hok rfl)
  exact ⟨_, Prod.ext hok rfl, user', hu', hbought (by decide)⟩

end PyBoard
