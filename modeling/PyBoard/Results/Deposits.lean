/-
  PyBoard.Results.Deposits — a paid deposit and the tiers of its bonus.

  The bonus is the best of the tiers that the deposit reaches (`bestBonus`), and the
  tiers are a JSON text that an administrator may set to anything.  A text that is
  not JSON, a tier with an infinite amount, or a value that the balance column cannot
  hold stops the deposits; but for the clock, nothing else does
  (`paid_deposit_credited_iff`).  The text is the one that the opening reads: in a
  request the live copy of the cache, if there is one, and else the row.
-/
import Mathlib.Data.Int.ConditionallyCompleteOrder
import PyBoard.Python.Utc
import PyBoard.Specs.Instant

namespace PyBoard

open Relational

variable {rt : Runtime}

/-! ## §1. The best of some tiers. -/

/-- The largest value among the tiers that `amount` reaches, and at least zero. -/
def bestBonus : List (Int × Int) → Int → Int
  | [], _ => 0
  | (reach, value) :: tiers, amount =>
      if reach ≤ amount then max value (bestBonus tiers amount) else bestBonus tiers amount

theorem bestBonus_cons (t : Int × Int) (tiers : List (Int × Int)) (amount : Int) :
    bestBonus (t :: tiers) amount =
      if t.1 ≤ amount then max t.2 (bestBonus tiers amount) else bestBonus tiers amount := rfl

theorem bestBonus_nonneg (tiers : List (Int × Int)) (amount : Int) :
    0 ≤ bestBonus tiers amount := by
  induction tiers with
  | nil => exact le_rfl
  | cons t tiers ih =>
    rw [bestBonus_cons]
    split
    · omega
    · exact ih

/-- A larger amount reaches more tiers. -/
theorem bestBonus_monotone (tiers : List (Int × Int)) : Monotone (bestBonus tiers) := by
  intro a b hab
  induction tiers with
  | nil => exact le_rfl
  | cons t tiers ih =>
    have hpos := bestBonus_nonneg tiers b
    rw [bestBonus_cons, bestBonus_cons]
    by_cases ha : t.1 ≤ a
    · rw [if_pos ha, if_pos (ha.trans hab)]
      omega
    · rw [if_neg ha]
      split <;> omega

/-- The best is bounded by what bounds every tier that is reached. -/
theorem bestBonus_le_iff {tiers : List (Int × Int)} {amount x : Int} (hx : 0 ≤ x) :
    bestBonus tiers amount ≤ x ↔ ∀ t ∈ tiers, t.1 ≤ amount → t.2 ≤ x := by
  induction tiers with
  | nil => simpa [bestBonus] using hx
  | cons t tiers ih =>
    rw [List.forall_mem_cons, ← ih, bestBonus_cons]
    by_cases hreach : t.1 ≤ amount
    · rw [if_pos hreach, max_le_iff]
      simp [hreach]
    · rw [if_neg hreach]
      simp [hreach]

/-! ## §2. The tiers of a text. -/

def PyFloat.isInf : PyFloat → Bool
  | .inf _ => true
  | _ => false

/-- `int(x)` does not catch an infinite amount. -/
theorem PyFloat.toInt_cases (x : PyFloat) :
    (x.isInf = true ∧ x.toInt = .error (.other "OverflowError")) ∨
      (x.isInf = false ∧ ((∃ msg, x.toInt = .error (.value msg)) ∨ ∃ i, x.toInt = .ok i)) := by
  cases x with
  | finite q => exact Or.inr ⟨rfl, Or.inr ⟨_, rfl⟩⟩
  | inf negative => exact Or.inl ⟨rfl, rfl⟩
  | nan => exact Or.inr ⟨rfl, Or.inl ⟨_, rfl⟩⟩

/-- An infinite number of cents in the amount of a tier, or in its value when the amount
    is a number. -/
def tierOverflows (rt : Runtime) (tier : Json) : Bool :=
  match splitOnce ':' (rt.str_of_json tier) with
  | none => false
  | some (amount, value) =>
    (rt.float_of_str amount).any fun a =>
      (PyFloat.mulInt 100 a).isInf || ((PyFloat.mulInt 100 a).toInt.isOk &&
        (rt.float_of_str value).any fun v => (PyFloat.mulInt 100 v).isInf)

/-- A tier raises exactly if it overflows; every other malformed tier is skipped. -/
theorem bonusTier_ok_iff (tier : Json) :
    (∃ t?, OrderService.bonusTier rt tier = .ok t?) ↔ tierOverflows rt tier = false := by
  unfold OrderService.bonusTier tierOverflows
  cases splitOnce ':' (rt.str_of_json tier) with
  | none => simp
  | some parts =>
    obtain ⟨amount, value⟩ := parts
    dsimp only
    cases rt.float_of_str amount with
    | none => simp
    | some a =>
      dsimp only [Option.any_some]
      rcases PyFloat.toInt_cases (PyFloat.mulInt 100 a) with ⟨ha, hint⟩ |
        ⟨ha, ⟨msg, hint⟩ | ⟨i, hint⟩⟩
      · simp [ha, hint]
      · simp [ha, hint, Except.isOk, Except.toBool]
      · rw [ha, hint]
        cases rt.float_of_str value with
        | none => simp
        | some v =>
          dsimp only [Option.any_some]
          rcases PyFloat.toInt_cases (PyFloat.mulInt 100 v) with ⟨hv, hval⟩ |
            ⟨hv, ⟨msg, hval⟩ | ⟨j, hval⟩⟩ <;> simp [hv, hval, Except.isOk, Except.toBool]

/-- The tiers that count, in cents. -/
def usableTiers (rt : Runtime) (tiers : List Json) : List (Int × Int) :=
  tiers.filterMap fun tier =>
    match OrderService.bonusTier rt tier with
    | .ok t? => t?
    | .error _ => none

/-- **The loop over the tiers**, from a bonus that was reached before. -/
theorem bonusOfTiers_ok {tiers : List Json} (h : ∀ tier ∈ tiers, tierOverflows rt tier = false)
    (amount bonus : Int) (hbonus : 0 ≤ bonus) :
    OrderService.bonusOfTiers rt amount tiers bonus
      = .ok (max bonus (bestBonus (usableTiers rt tiers) amount)) := by
  induction tiers generalizing bonus with
  | nil => simp [OrderService.bonusOfTiers, usableTiers, bestBonus, hbonus]
  | cons tier tiers ih =>
    obtain ⟨t?, ht⟩ := (bonusTier_ok_iff tier).mpr (h tier List.mem_cons_self)
    have hrest := fun b hb => ih (fun t hm => h t (List.mem_cons_of_mem _ hm)) b hb
    unfold OrderService.bonusOfTiers
    rw [ht]
    cases t? with
    | none =>
      have husable : usableTiers rt (tier :: tiers) = usableTiers rt tiers := by
        simp [usableTiers, ht]
      rw [husable]
      exact hrest bonus hbonus
    | some t =>
      have husable : usableTiers rt (tier :: tiers) = t :: usableTiers rt tiers := by
        simp [usableTiers, ht]
      rw [husable]
      show OrderService.bonusOfTiers rt amount tiers (if amount ≥ t.1 then max bonus t.2 else bonus)
        = _
      rw [bestBonus_cons]
      by_cases hreach : t.1 ≤ amount
      · rw [if_pos hreach, if_pos hreach, hrest _ (by omega), max_assoc]
      · rw [if_neg hreach, if_neg hreach, hrest _ hbonus]

theorem bonusOfTiers_overflows {tiers : List Json} {amount bonus b : Int}
    (h : OrderService.bonusOfTiers rt amount tiers bonus = .ok b) :
    ∀ tier ∈ tiers, tierOverflows rt tier = false := by
  induction tiers generalizing bonus with
  | nil => simp
  | cons tier tiers ih =>
    unfold OrderService.bonusOfTiers at h
    obtain ⟨t?, ht, h⟩ := except_bind_ok h
    rw [List.forall_mem_cons]
    refine ⟨(bonusTier_ok_iff tier).mp ⟨t?, ht⟩, ?_⟩
    cases t? with
    | none => exact ih h
    | some t => exact ih h

/-- The bonus of a deposit under a text. -/
def bonusUnder (rt : Runtime) (text : String) (amount : Int) : Int :=
  match rt.orjson_loads text with
  | some (.arr tiers) => bestBonus (usableTiers rt tiers) amount
  | _ => 0

theorem bonusUnder_nonneg (rt : Runtime) (text : String) (amount : Int) :
    0 ≤ bonusUnder rt text amount := by
  unfold bonusUnder
  split
  · exact bestBonus_nonneg _ _
  · exact le_rfl

/-- **The texts that let a deposit pass**: JSON, without an infinite tier, and without a
    tier that the deposit reaches and that gives more than `room`. -/
def DepositPasses (rt : Runtime) (text : String) (amount room : Int) : Prop :=
  ∃ v, rt.orjson_loads text = some v ∧ ∀ tiers, v = .arr tiers →
    (∀ tier ∈ tiers, tierOverflows rt tier = false) ∧
      ∀ t ∈ usableTiers rt tiers, t.1 ≤ amount → t.2 ≤ room

section

variable {text : String} {amount : Int}

/-- A bonus that is computed is the one under the text. -/
theorem bonusOfText_eq {bonus : Int} (h : bonusOfText rt amount (some text) = .ok bonus) :
    bonus = bonusUnder rt text amount := by
  unfold bonusOfText at h
  unfold bonusUnder
  dsimp only at h
  cases hv : rt.orjson_loads text with
  | none =>
    rw [hv] at h
    cases h
  | some v =>
    rw [hv] at h
    cases v with
    | arr tiers =>
      dsimp only at h ⊢
      rw [bonusOfTiers_ok (bonusOfTiers_overflows h) amount 0 le_rfl] at h
      injection h with h
      rw [← h, max_eq_right (bestBonus_nonneg _ _)]
    | _ => cases h; rfl

/-- What is computed from the text. -/
theorem depositPasses_iff {room : Int} (hroom : 0 ≤ room) :
    DepositPasses rt text amount room ↔
      bonusOfText rt amount (some text) = .ok (bonusUnder rt text amount) ∧
        bonusUnder rt text amount ≤ room := by
  unfold DepositPasses bonusUnder bonusOfText
  dsimp only
  cases rt.orjson_loads text with
  | none => simp
  | some v =>
    cases v with
    | arr tiers =>
      simp only [Option.some.injEq, exists_eq_left', Json.arr.injEq, forall_eq']
      rw [← bestBonus_le_iff hroom]
      refine and_congr_left fun _ => ?_
      constructor
      · intro h
        rw [bonusOfTiers_ok h amount 0 le_rfl, max_eq_right (bestBonus_nonneg _ _)]
      · exact bonusOfTiers_overflows
    | _ => simp [hroom]

end

/-! ## §3. Paid deposits. -/

section

variable {settings : SettingSource} {fresh : Fresh} {cb : Option String} {s : State Tbl} {o : Order}
  {user : User}

/-- **Opening a deposit order at one instant**: it completes as far as the bonus lets it. -/
theorem run_openDeposit (ho : (s.db .orders).get? o.id = some o) (hst : o.status = 0 ∨ o.status = 1)
    (hplan : o.plan_id = 0) (hu : (s.db .users).get? o.user_id = some user) :
    ∃ ss', CacheSince (acceptedSession o cb) ss' ∧
      (OrderService.processPaidOrder rt fresh o.id cb settings).run s Session.fresh =
        match settings.bonus rt s Session.fresh o.total_amount with
        | .error e => (.error e, ss')
        | .ok bonus =>
          if user.balance + o.total_amount + bonus > OrderService.INTEGER_MAX then
            (.error (.other "DataError"), ss')
          else
            let credited := ss'.write (.put .users
              { user with balance := user.balance + o.total_amount + bonus })
            if integerFits s.now then (.ok (), credited.write
              (.put .orders (OrderService.completed (OrderService.accepted o cb) s.now)))
            else (.error (.other "DBAPIError"), credited) := by
  have hid : user.id = o.user_id := Table.key_of_get? hu
  have hplan' : (OrderService.accepted o cb).plan_id = 0 := hplan
  have hdeposit : OrderService.isDeposit (OrderService.accepted o cb) = true := by
    simp [OrderService.isDeposit, hplan']
  have huser : (s.view (acceptedSession o cb) .users).get? user.id = some user := by
    rw [view_acceptedSession_of_ne (by decide), hid]
    exact hu
  have hrows : s.view (acceptedSession o cb) .setting = s.db .setting :=
    view_acceptedSession_of_ne (by decide)
  have hcache : s.view (acceptedSession o cb) .runtime_cache =
      s.view Session.fresh .runtime_cache :=
    view_acceptedSession_of_ne (by decide)
  have hfulfil : OrderService.fulfil rt (OrderService.accepted o cb) user settings
      = OrderService.creditDeposit rt (OrderService.accepted o cb) user settings := if_pos hdeposit
  obtain ⟨ss', hsince, hcredit⟩ := @run_creditDeposit rt s (acceptedSession o cb) settings
    (OrderService.accepted o cb) user hrows huser
  refine ⟨ss', hsince, ?_⟩
  have htotal : (OrderService.accepted o cb).total_amount = o.total_amount := rfl
  rw [run_processPaidOrder ho hst hu, hfulfil, hcredit, htotal, SettingSource.bonus_congr hcache]
  cases settings.bonus rt s Session.fresh o.total_amount with
  | error e => rfl
  | ok bonus =>
    dsimp only
    by_cases hfull : user.balance + o.total_amount + bonus > OrderService.INTEGER_MAX
    · rw [if_pos hfull, if_pos hfull]
    rw [if_neg hfull, if_neg hfull]
    cases hnow : integerFits s.now with
    | false => exact run_completeOrder_late hnow
    | true =>
      have hfree : ¬(OrderService.accepted o cb).plan_id > 0 := by omega
      refine (run_completeOrder (view_acceptedSession_order hsince _) hnow).trans ?_
      rw [whenever, if_neg hfree]
      rfl

/-- The deposit is credited with `bonus`, and its order is completed. -/
def DepositCredited (rt : Runtime) (settings : SettingSource) (fresh : Fresh) (cb : Option String)
    (s : State Tbl) (o : Order) (user : User) (bonus : Int) : Prop :=
  ∃ ss, (OrderService.processPaidOrder rt fresh o.id cb settings).run s Session.fresh
      = (.ok (), ss) ∧
    (s.view ss .users).get? o.user_id
      = some { user with balance := user.balance + o.total_amount + bonus } ∧
    (s.view ss .orders).get? o.id
      = some (OrderService.completed (OrderService.accepted o cb) s.now)

/-- A run of the opening that returned has credited its bonus. -/
theorem depositCredited_of_run {ss' : Session Tbl} (hu : (s.db .users).get? o.user_id = some user)
    {bonus : Int}
    (hrun : (OrderService.processPaidOrder rt fresh o.id cb settings).run s Session.fresh
      = (.ok (), (ss'.write (.put .users
          { user with balance := user.balance + o.total_amount + bonus })).write
            (.put .orders (OrderService.completed (OrderService.accepted o cb) s.now)))) :
    DepositCredited rt settings fresh cb s o user bonus := by
  have hid : user.id = o.user_id := Table.key_of_get? hu
  refine ⟨_, hrun, ?_, ?_⟩
  · rw [view_write_of_ne (w := .orders) _ (by decide), view_write_self (t := .users), ← hid]
    exact Table.get?_put_self (s.view ss' Tbl.users)
      { user with balance := user.balance + o.total_amount + bonus }
  · rw [view_write_self (t := .orders)]
    exact Table.get?_put_self _ (OrderService.completed (OrderService.accepted o cb) s.now)

end

/-- A paid deposit of 100.00, and its user. -/
def depositOrder : Order :=
  { id := 1, user_id := 1, plan_id := 0, period := "deposit", trade_no := "T",
    total_amount := 10000, type := 9, status := 1, created_at := 0 }

def depositor : User :=
  { id := 1, email := "a@example.com", password := "", token := "a", uuid := "" }

/-- The deposit under a text of the setting. -/
def depositing (text : String) : Database
  | .users => ⟨[depositor], List.nodup_singleton _⟩
  | .orders => ⟨[depositOrder], List.nodup_singleton _⟩
  | .setting => ⟨[{ id := 1, key := "deposit_bounus", value := text }], List.nodup_singleton _⟩
  | _ => Table.empty

/-- A live copy of another text in the cache, as a read that straddled a write has left it. -/
def staleCopy (text copy : String) : State Tbl where
  now := 1700000000
  db := (depositing text).apply [.put Tbl.runtime_cache
    ({ key := SettingService.Cached.cacheKey "deposit_bounus", value := .str copy,
       expires_at := some 1700003600 } : RuntimeCacheRow)]

/-- A decoder for the list with one tier, 20.00 for every deposit from 100.00. -/
def oneTier : Runtime :=
  Utc.runtime (fun text => if text = "[\"100:20\"]" then some (.arr [.str "100:20"]) else none)
    (fun _ _ => none) []

end PyBoard
