/-
  PyBoard.Results.Giftcards — what redemptions do to cards, users and plans.

  Under interleaved redemptions the books of the cards agree: the redemption rows
  are those of the committed redemptions, one each, and every one of them took one
  use of its card and applied the card to its user once (`redemptions_accounted`).
  The capacity of a plan is not looked at: a duration card or a plan card may
  overfill it (`redemption_keeps_capacity_iff`).
-/
import PyBoard.Relational.Exclusive
import PyBoard.Specs.Effects
import PyBoard.Python.Utc

namespace PyBoard

open Relational

variable {rt : Runtime}

/-! ## §1. Committed redemptions. -/

/-- The runs of redemptions. -/
def redemptionsOnly : Cond Call Tbl where
  begin c := match c.op with | .redeem .. => true | _ => false
  stmt _ _ _ := true
  commit _ _ _ := true

/-- The rows of `r` are current in `s`, and `s'` is `s` with `r` done: the card, as it is
    now, was usable at `r.now` and has been applied to the user, as it is now, once. -/
structure Redeems (rt : Runtime) (op : Op) (s s' : State Tbl) (r : Redemption) : Prop where
  requested : ∃ code, op = .redeem r.user.id code
  card : (s.db .giftcard).get? r.card.id = some r.card
  user : (s.db .users).get? r.user.id = some r.user
  now_le : r.now ≤ s.now
  checked : GiftcardService.checkGiftcard r.card r.now = .ok ()
  applied : r.card.applies r.now s.db r.user r.user'
  row_free : (s.db .giftcard_redemption).get? r.id = none
  unused : ∀ r' ∈ (s.db .giftcard_redemption).rows, r'.giftcard_id = r.card.id →
    r'.user_id ≠ r.user.id
  users : s'.db .users = (s.db .users).put r.user'
  cards : s'.db .giftcard = (s.db .giftcard).put (r.card' rt)
  rows : (s'.db .giftcard_redemption).rows = (s.db .giftcard_redemption).rows ++ [r.row]

/-- No redemption of a locked card is added. -/
def CardsLocked (ids : List (RowId Tbl)) (s s' : State Tbl) : Prop :=
  ∀ giftcard_id : Int, ⟨Tbl.giftcard, giftcard_id⟩ ∈ ids →
    ∀ r ∈ (s'.db .giftcard_redemption).rows, r.giftcard_id = giftcard_id →
      r ∈ (s.db .giftcard_redemption).rows

/-- Interleaved redemptions: each commit is a redemption that held its card. -/
def redemptionContract (rt : Runtime) : Contract Call Tbl where
  toCond := redemptionsOnly
  Inv _ := True
  Evol := CardsLocked
  Guar c s ss := ∃ r : Redemption, Redeems rt c.op s (s.commit ss) r ∧
    ⟨Tbl.giftcard, r.card.id⟩ ∈ ss.locks
  evol_refl _ _ _ _ _ h _ := h
  evol_trans h₁ h₂ id hid r hr hcard := h₁ id hid r (h₂ id hid r hr hcard) hcard
  evol_mono hsub h id hid := h id (hsub hid)
  inv_tick _ _ := trivial
  evol_tick _ _ _ _ _ _ h _ := h
  guar_inv _ _ _ := trivial
  guar_evol := by
    rintro c s ss ids - - ⟨r, hr, hlock⟩ hdisj id hid r' hr' hcard
    have hmem : r' ∈ (s.db .giftcard_redemption).rows ++ [r.row] := hr.rows ▸ hr'
    rcases List.mem_append.mp hmem with h | h
    · exact h
    · rw [List.mem_singleton.mp h] at hcard
      exact absurd hid fun hid => hdisj hlock (by rw [← hcard] at hid; exact hid)

theorem redemption_keeps (c : Call) (hb : redemptionsOnly.begin c = true) :
    (redemptionContract rt).Keeps c (c.prog rt) := by
  obtain ⟨op, fresh⟩ := c
  cases op with
  | redeem user_id code =>
    intro s _
    refine wp_mono redeem_spec ?_
    rintro (e | _) s' ss' h
    · trivial
    intro s'' hr hi _
    obtain ⟨r, huser, -, -, hv, hws⟩ := h
    have hv' := hv.extends (.read hr hi)
    obtain ⟨s₁, hr₁, hnone⟩ := hv'.unused
    refine ⟨r, ⟨⟨code, by rw [huser]⟩, hv'.card_held.committed, hv'.user_held.committed,
      hv'.now_le, hv'.checked, hv'.applied, hv'.row_free.committed, ?_, ?_, ?_, ?_⟩,
      hv'.card_held.locked⟩
    · intro r' hr' hcard
      exact hnone r' (hr₁.evol r.card.id List.mem_cons_self r' hr' hcard) hcard
    · rw [State.commit_db, State.view, hws, r.apply_users]
    · rw [State.commit_db, State.view, hws, r.apply_giftcard]
    · rw [State.commit_db, State.view, hws, r.apply_redemption]
      exact Table.rows_put_fresh _ hv'.row_free.committed
  | _ => cases hb

/-! ## §2. The books. -/

/-- The redemptions of a card. -/
def redeemedTimes (db : Database) (giftcard_id : Int) : Nat :=
  (db .giftcard_redemption).rows.countP fun r : GiftcardRedemption => r.giftcard_id = giftcard_id

/-- **The books of the cards**, after a run from `db₀` to `db` with `commits`. -/
structure Accounted (rt : Runtime) (db₀ db : Database) (commits : List (Commit Call Tbl)) :
    Prop where
  /-- Each commit is one redemption, and adds the row of this redemption. -/
  one_each : ∃ rs : List Redemption,
    List.Forall₂ (fun cm r => Redeems rt cm.label.op cm.before cm.after r) commits rs ∧
    (db .giftcard_redemption).rows
      = (db₀ .giftcard_redemption).rows ++ (rs.map Redemption.row).reverse
  /-- A user redeems a card at most once. -/
  once : ∀ r ∈ (db .giftcard_redemption).rows, ∀ r' ∈ (db .giftcard_redemption).rows,
    r.giftcard_id = r'.giftcard_id → r.user_id = r'.user_id → r = r'
  /-- The uses of a limited card go down with its redemptions, not below zero. -/
  limited : ∀ id g₀ n₀, (db₀ .giftcard).get? id = some g₀ → g₀.limit_use = some n₀ →
    ∃ g n, (db .giftcard).get? id = some g ∧ g.limit_use = some n ∧
      (redeemedTimes db id : Int) - redeemedTimes db₀ id = n₀ - n ∧ (n = n₀ ∨ 0 ≤ n)

/-- The unique constraint of the redemptions. -/
def RedeemedOnce (db : Database) : Prop :=
  ∀ r ∈ (db .giftcard_redemption).rows, ∀ r' ∈ (db .giftcard_redemption).rows,
    r.giftcard_id = r'.giftcard_id → r.user_id = r'.user_id → r = r'

variable {db₀ db : Database} {commits : List (Commit Call Tbl)}

theorem Accounted.start (h : RedeemedOnce db) : Accounted rt db db [] where
  one_each := ⟨[], .nil, by simp⟩
  once := h
  limited _ g₀ n₀ hg hn := ⟨g₀, n₀, hg, hn, by simp, Or.inl rfl⟩

/-- A redemption adds one to the redemptions of its card. -/
theorem Redeems.times {op : Op} {s s' : State Tbl} {r : Redemption} (h : Redeems rt op s s' r)
    (id : Int) :
    redeemedTimes s'.db id = redeemedTimes s.db id + if r.card.id = id then 1 else 0 := by
  rw [redeemedTimes, h.rows, List.countP_append, redeemedTimes]
  by_cases hid : r.card.id = id <;> simp [Redemption.row, hid]

/-- **One redemption keeps the books.** -/
theorem Accounted.commit {c : Call} {s : State Tbl} {ss : Session Tbl}
    (h : Accounted rt db₀ s.db commits) {r : Redemption}
    (hr : Redeems rt c.op s (s.commit ss) r) :
    Accounted rt db₀ (s.commit ss).db (⟨c, s, ss⟩ :: commits) where
  one_each := by
    obtain ⟨rs, hrs, hrows⟩ := h.one_each
    refine ⟨r :: rs, .cons hr hrs, ?_⟩
    rw [hr.rows, hrows]
    simp
  once := by
    intro r₁ h₁ r₂ h₂ hcard huser
    rw [hr.rows, List.mem_append, List.mem_singleton] at h₁ h₂
    rcases h₁ with h₁ | rfl
    · rcases h₂ with h₂ | rfl
      · exact h.once r₁ h₁ r₂ h₂ hcard huser
      · exact absurd huser (hr.unused r₁ h₁ hcard)
    · rcases h₂ with h₂ | rfl
      · exact absurd huser.symm (hr.unused r₂ h₂ hcard.symm)
      · rfl
  limited := by
    intro id g₀ n₀ hg₀ hn₀
    obtain ⟨g, n, hg, hn, hcount, hlow⟩ := h.limited id g₀ n₀ hg₀ hn₀
    have htimes := hr.times id
    have hput : ((s.commit ss).db .giftcard) = (s.db .giftcard).put (r.card' rt) := hr.cards
    by_cases hid : id = r.card.id
    · -- the redeemed card itself
      have hcur : g = r.card := by
        have := hr.card
        rw [← hid, hg] at this
        exact Option.some.inj this
      refine ⟨r.card' rt, n - 1, ?_, ?_, ?_, Or.inr ?_⟩
      · rw [hput, hid]
        exact Table.get?_put_self _ (r.card' rt)
      · rw [Redemption.card', ← hcur, hn]
        rfl
      · rw [htimes, if_pos hid.symm]
        push_cast
        omega
      · have := checkGiftcard_limit hr.checked (hcur ▸ hn)
        omega
    · refine ⟨g, n, ?_, hn, ?_, hlow⟩
      · rw [hput, Table.get?_put_of_ne _ (r := r.card' rt) hid]
        exact hg
      · rw [htimes, if_neg fun h => hid h.symm]
        simpa using hcount

/-- **The books of the cards agree** after every interleaving of redemptions, and a
    redemption that raised ends without a trace. -/
theorem redemptions_accounted {now : Int} {c : Server} (hunique : RedeemedOnce db)
    (hrun : Runs rt redemptionsOnly (Server.start db now) c) :
    Accounted rt db c.state.db c.commits ∧
      ∀ i l e ss (c' : Server), c.txs[i]? = some ⟨l, .throw e, ss⟩ →
        c.step (Call.prog rt) (.finish i) = some c' →
        c'.state = c.state ∧ c'.commits = c.commits := by
  constructor
  · exact hrun.state_induction (C := redemptionContract rt)
      (P := fun s cs => Accounted rt db s.db cs) redemption_keeps (.quiet trivial)
      (.start hunique) (fun _ _ _ _ h => h)
      fun _ _ _ _ _ _ ⟨_, hr, _⟩ h => h.commit hr
  · intro i l e ss c' hi hs
    simp only [Config.step, hi] at hs
    cases hs
    exact ⟨rfl, rfl⟩

/-- Two users and a balance card with two uses. -/
def twoUses : Database
  | .users => ⟨[{ id := 1, email := "a@example.com", password := "", token := "a", uuid := "" },
                { id := 2, email := "b@example.com", password := "", token := "b", uuid := "" }],
      by decide⟩
  | .giftcard => ⟨[{ id := 1, code := "CARD", type := 1, value := some 50, limit_use := some 2,
                     started_at := 0, ended_at := 4000000000 }], by decide⟩
  | _ => Table.empty

/-- Both users redeem the card; the second one waits for the lock of the first. -/
theorem redemptions_accounted_twice : ∃ c : Server,
    Runs Utc.bare redemptionsOnly (Server.start twoUses 1700000000) c ∧
      redeemedTimes c.state.db 1 = 2 ∧ Accounted Utc.bare twoUses c.state.db c.commits := by
  obtain ⟨c, -, hrun, -, hcount, -⟩ : ∃ c c' : Server,
      Runs Utc.bare redemptionsOnly (Server.start twoUses 1700000000) c ∧
      Runs Utc.bare redemptionsOnly c c' ∧
      redeemedTimes c.state.db 1 = 2 ∧ redeemedTimes c'.state.db 1 = 2 :=
    Reaches.exists_of_steps
      ([.begin ⟨.redeem 1 "card", ⟨1, 0, ""⟩⟩, .exec 0, .begin ⟨.redeem 2 "CARD", ⟨2, 0, ""⟩⟩] ++
        List.replicate 6 (.exec 0) ++ [.finish 0] ++ List.replicate 7 (.exec 0) ++ [.finish 0])
      [] (fun c : Server => redeemedTimes c.state.db 1) (by decide +kernel)
  refine ⟨c, hrun, hcount, (redemptions_accounted ?_ hrun).1⟩
  intro r hr
  cases hr

/-! ## §3. The capacity of the plans. -/

/-- No limited plan of `db` has more active users in `db'` than its limit and than before. -/
def CapacityKept (now : Int) (db db' : Database) : Prop :=
  ∀ (p : Plan) (limit : Int), (db .plan).get? p.id = some p → p.capacity_limit = some limit →
    0 < limit → (activeCount db' now p.id : Int) ≤ max limit (activeCount db now p.id)

/-- Does the user count against the capacity of the plan? -/
def User.holdsSlot (user : User) (now plan_id : Int) : Bool :=
  PlanRepository.isActiveRow now user && user.plan_id = some plan_id

/-- Does redeeming the card give the user a slot of the plan that he does not hold yet?
    A duration card revives the plan that the user has, a plan card brings its own. -/
def Giftcard.takesSlot (g : Giftcard) (now : Int) (user : User) (plan_id : Int) : Bool :=
  !user.holdsSlot now plan_id &&
    ((g.type = 2 && user.plan_id = some plan_id) ||
      (g.type = 5 && g.plan_id = some plan_id &&
        now ≤ (if g.value = some 0 then 4102444800 else now + g.value.getD 0 * 86400)))

/-- The card takes exactly the slots that the user gains. -/
theorem Giftcard.applies.takesSlot {g : Giftcard} {now : Int} {db : Database}
    {user user' : User} (h : g.applies now db user user') (plan_id : Int) :
    g.takesSlot now user plan_id =
      (!user.holdsSlot now plan_id && user'.holdsSlot now plan_id) := by
  unfold Giftcard.takesSlot
  cases hheld : user.holdsSlot now plan_id with
  | true => rfl
  | false =>
    -- a card that changes neither the plan nor its term leaves the slots as they are
    have hsame : ∀ u : User, u.plan_id = user.plan_id → u.expired_at = user.expired_at →
        u.holdsSlot now plan_id = false := by
      intro u hplan hexp
      rw [← hheld, User.holdsSlot, User.holdsSlot, PlanRepository.isActiveRow,
        PlanRepository.isActiveRow, hplan, hexp]
    cases h.kind with
    | balance h1 =>
      rw [hsame { user with balance := user.balance + g.value.getD 0 } rfl rfl]
      simp [h1]
    | duration h2 hpos =>
      have hlater : now ≤ max (user.expired_at.getD 0) now + g.value.getD 0 * 86400 := by omega
      cases user.plan_id <;> simp [h2, User.holdsSlot, PlanRepository.isActiveRow, hlater]
    | traffic h3 hpos =>
      rw [hsame { user with
        transfer_enable := user.transfer_enable + g.value.getD 0 * GiftcardService.GIB } rfl rfl]
      simp [h3]
    | reset h4 =>
      rw [hsame { user with u := 0, d := 0 } rfl rfl]
      simp [h4]
    | plan h5 plan hid hplan =>
      simp [h5, hid, User.holdsSlot, PlanRepository.isActiveRow, User.onPlanOf, Bool.and_comm]

/-- How the active users of a plan change when one user is stored anew. -/
theorem activeCount_put {db db' : Database} {now plan_id : Int} {user user' : User}
    (hid : user'.id = user.id) (huser : (db .users).get? user.id = some user)
    (h : db' .users = (db .users).put user') :
    (activeCount db' now plan_id : Int) = activeCount db now plan_id +
      ((if user'.holdsSlot now plan_id then 1 else 0) -
        if user.holdsSlot now plan_id then 1 else 0) := by
  have hstored : (db .users).get? user'.id = some user := hid.symm ▸ huser
  have hput := (db .users).sum_put
    (fun u : User => if u.holdsSlot now plan_id then 1 else 0) hstored
  rw [← Table.countP_eq_sum _ fun u : User => u.holdsSlot now plan_id,
    ← Table.countP_eq_sum _ fun u : User => u.holdsSlot now plan_id, ← h] at hput
  exact hput

/-- A stored user overfills a limited plan exactly if it takes a slot of a full one. -/
theorem capacityKept_iff {now : Int} {db db' : Database} {user user' : User}
    (hid : user'.id = user.id) (huser : (db .users).get? user.id = some user)
    (h : db' .users = (db .users).put user') :
    CapacityKept now db db' ↔ ∀ (p : Plan) (limit : Int), (db .plan).get? p.id = some p →
      p.capacity_limit = some limit → 0 < limit →
      (!user.holdsSlot now p.id && user'.holdsSlot now p.id) = true →
      (activeCount db now p.id : Int) < limit := by
  refine forall_congr' fun p => forall_congr' fun limit => forall_congr' fun _ =>
    forall_congr' fun _ => forall_congr' fun _ => ?_
  rw [activeCount_put hid huser h]
  cases user.holdsSlot now p.id
  · cases user'.holdsSlot now p.id
    · simp
    · -- one slot more is taken
      simp only [Bool.not_false, Bool.and_self, forall_const, if_true, Bool.false_eq_true, if_false]
      omega
  · cases user'.holdsSlot now p.id
    · simp
    · simp

/-- **When redeeming a card respects the capacity of the plans**: exactly when it takes no
    slot of a plan that is full. -/
theorem redemption_keeps_capacity_iff {fresh : Fresh} {user_id : Int} {code : String}
    {s : State Tbl} {ss : Session Tbl}
    (hrun : (GiftcardService.redeem rt fresh user_id code).run s Session.fresh = (.ok (), ss)) :
    ∃ (g : Giftcard) (user : User), GiftcardService.normalizeCode rt code = .ok g.code ∧
      (s.db .giftcard).get? g.id = some g ∧ (s.db .users).get? user_id = some user ∧
      (CapacityKept s.now s.db (s.view ss) ↔
        ∀ (p : Plan) (limit : Int), (s.db .plan).get? p.id = some p →
          p.capacity_limit = some limit → 0 < limit → g.takesSlot s.now user p.id = true →
          (activeCount s.db s.now p.id : Int) < limit) := by
  obtain ⟨r, huser, hr⟩ := redeem_run hrun
  refine ⟨r.card, r.user, hr.coded, hr.card, huser ▸ hr.user, ?_⟩
  rw [capacityKept_iff hr.applied.id_eq hr.user hr.users]
  simp only [hr.applied.takesSlot]

/-- A full plan, a user on it whose term is over, and a duration card. -/
def fullPlan : Database
  | .users => ⟨[{ id := 1, email := "a@example.com", password := "", token := "a", uuid := "",
                  plan_id := some 1, expired_at := some 1600000000 },
                { id := 2, email := "b@example.com", password := "", token := "b", uuid := "",
                  plan_id := some 1, expired_at := none }], by decide⟩
  | .plan => ⟨[{ id := 1, group_id := 1, transfer_enable := 0, capacity_limit := some 1 }],
      by decide⟩
  | .giftcard => ⟨[{ id := 1, code := "CARD", type := 2, value := some 30, limit_use := some 2,
                     started_at := 0, ended_at := 4000000000 }], by decide⟩
  | _ => Table.empty

/-- What redeeming `code` for the user `user_id` answers, and the active users of the plan 1
    afterwards. -/
def activeAfter (s : State Tbl) (user_id : Int) (code : String) : Bool × Nat :=
  let (r, ss) := (GiftcardService.redeem Utc.bare ⟨1, 0, ""⟩ user_id code).run s Session.fresh
  (r.isOk, activeCount (s.view ss) s.now 1)

/-- **A duration card overfills a plan**: its capacity is 1, one user is active before the
    redemption and two are active after it. -/
theorem redemption_overfills :
    activeCount fullPlan 1700000000 1 = 1 ∧
      activeAfter ⟨fullPlan, 1700000000⟩ 1 "CARD" = (true, 2) := by
  decide +kernel

/-- The user who is active on the full plan may redeem the card. -/
theorem redemption_keeps_capacity_renewal : ∃ ss,
    (GiftcardService.redeem Utc.bare ⟨1, 0, ""⟩ 2 "CARD").run ⟨fullPlan, 1700000000⟩
        Session.fresh = (.ok (), ss) ∧
      CapacityKept 1700000000 fullPlan (State.view ⟨fullPlan, 1700000000⟩ ss) := by
  have hok : ((GiftcardService.redeem Utc.bare ⟨1, 0, ""⟩ 2 "CARD").run ⟨fullPlan, 1700000000⟩
      Session.fresh).1 = .ok () := by decide +kernel
  obtain ⟨g, user, -, -, huser, hiff⟩ := redemption_keeps_capacity_iff (Prod.ext hok rfl)
  refine ⟨_, Prod.ext hok rfl, hiff.mpr fun p limit hp _ _ htakes => ?_⟩
  have hmem : p ∈ (fullPlan .plan).rows := Table.mem_of_get? hp
  have hslot : user.holdsSlot 1700000000 p.id = true := by
    rw [List.mem_singleton.mp hmem]
    cases huser
    decide
  simp [Giftcard.takesSlot, hslot] at htakes

end PyBoard
