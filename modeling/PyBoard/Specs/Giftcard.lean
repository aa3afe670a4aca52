/-
  PyBoard.Specs.Giftcard — what redeeming a gift card does to the database.

  A redemption holds its card and its user under lock, so the versions it computed
  with are the committed ones at its commit (`Redemption.Valid`).  What a card does
  to its user is what `applyGiftcard` answers (`Giftcard.applies`); it depends on
  the database through the locked plan of a plan card only.
-/
import PyBoard.Relational.Exclusive
import PyBoard.Specs.Basic

namespace PyBoard

open Relational

variable {L : Type} {C : Contract L Tbl} {rt : Runtime}

/-! ## §1. What a card does. -/

/-- The card `g` makes `user` into `user'` at the time `now`. -/
def Giftcard.applies (g : Giftcard) (now : Int) (db : Database) (user user' : User) : Prop :=
  ((GiftcardService.applyGiftcard g user now).run ⟨db, now⟩ Session.fresh).1 = .ok user'

/-- The user on the plan of a plan card. -/
def User.onPlanOf (user : User) (g : Giftcard) (plan : Plan) (now : Int) : User :=
  { user with
    plan_id := some plan.id
    group_id := some plan.group_id
    transfer_enable := plan.transfer_enable
    device_limit := plan.device_limit
    speed_limit := plan.speed_limit
    u := 0
    d := 0
    expired_at := some (if g.value = some 0 then 4102444800
      else now + g.value.getD 0 * 86400) }

section

variable {g : Giftcard} {now : Int} {db db' : Database} {user user' : User}

/-- **The five kinds of cards.** -/
inductive Giftcard.Kind (g : Giftcard) (now : Int) (db : Database) (user : User) : User → Prop
  | balance (h : g.type = 1) :
      Kind g now db user { user with balance := user.balance + g.value.getD 0 }
  | duration (h : g.type = 2) (hpos : 0 < g.value.getD 0) :
      Kind g now db user { user with
        expired_at := some (max (user.expired_at.getD 0) now + g.value.getD 0 * 86400) }
  | traffic (h : g.type = 3) (hpos : 0 < g.value.getD 0) :
      Kind g now db user { user with
        transfer_enable := user.transfer_enable + g.value.getD 0 * GiftcardService.GIB }
  | reset (h : g.type = 4) : Kind g now db user { user with u := 0, d := 0 }
  | plan (h : g.type = 5) (plan : Plan) (hid : g.plan_id = some plan.id)
      (hplan : (db .plan).get? plan.id = some plan)
      (hexpired : ¬(user.plan_id.isSome ∧ user.expired_at.any (fun e => e ≠ 0 && e > now))) :
      Kind g now db user (user.onPlanOf g plan now)

/-- What a card does is one of the five kinds. -/
theorem Giftcard.applies.kind (h : g.applies now db user user') :
    g.Kind now db user user' := by
  unfold Giftcard.applies GiftcardService.applyGiftcard at h
  dsimp only at h
  split at h
  · next h1 => cases h; exact .balance h1
  split at h
  · next h2 =>
    split at h
    · cases h
    · next hpos => cases h; exact .duration h2 (not_le.mp hpos)
  split at h
  · next h3 =>
    split at h
    · cases h
    · next hpos => cases h; exact .traffic h3 (not_le.mp hpos)
  split at h
  · next h4 => cases h; exact .reset h4
  split at h
  · next h5 =>
    unfold GiftcardService.applyPlanGiftcard at h
    split at h
    · cases h
    next hexpired =>
    split at h
    · cases h
    next plan_id hplan_id =>
    rw [Prog.bind_eq, Prog.run_bind] at h
    simp only [Prog.getForUpdate, Prog.ofStmt, Prog.run, Stmt.exec, State.view_fresh] at h
    cases hp : (db .plan).get? plan_id with
    | none => rw [hp] at h; cases h
    | some plan =>
      rw [hp] at h
      cases h
      have hid : plan.id = plan_id := Table.key_of_get? hp
      exact .plan h5 plan (by rw [hplan_id, hid]) (hid ▸ hp) hexpired
  · cases h

/-- Every kind is what the card does. -/
theorem Giftcard.Kind.applies (h : g.Kind now db user user') : g.applies now db user user' := by
  unfold Giftcard.applies GiftcardService.applyGiftcard
  cases h with
  | balance h1 => simp [h1, Prog.run]
  | duration h2 hpos => simp [h2, not_le.mpr hpos, Prog.run]
  | traffic h3 hpos => simp [h3, not_le.mpr hpos, Prog.run]
  | reset h4 => simp [h4, Prog.run]
  | plan h5 plan hid hplan hexpired =>
    dsimp only
    rw [if_neg (by omega), if_neg (by omega), if_neg (by omega), if_neg (by omega), if_pos h5,
      GiftcardService.applyPlanGiftcard, if_neg hexpired, hid]
    dsimp only
    rw [Prog.bind_eq, Prog.run_bind]
    simp only [Prog.getForUpdate, Prog.ofStmt, Prog.run, Stmt.exec, State.view_fresh]
    rw [hplan]
    rfl

/-- A card looks at the database for the plan of a plan card only. -/
theorem Giftcard.applies.congr (h : g.applies now db user user')
    (hplan : g.type = 5 → ∀ plan_id, g.plan_id = some plan_id →
      (db' .plan).get? plan_id = (db .plan).get? plan_id) : g.applies now db' user user' := by
  refine Giftcard.Kind.applies ?_
  cases h.kind with
  | balance h1 => exact .balance h1
  | duration h2 hpos => exact .duration h2 hpos
  | traffic h3 hpos => exact .traffic h3 hpos
  | reset h4 => exact .reset h4
  | plan h5 plan hid hp hexpired =>
    exact .plan h5 plan hid ((hplan h5 plan.id hid).trans hp) hexpired

/-- A card keeps the identity of its user. -/
theorem Giftcard.applies.id_eq (h : g.applies now db user user') : user'.id = user.id := by
  cases h.kind <;> rfl

/-- What a card does to the balance. -/
theorem Giftcard.applies.balance (h : g.applies now db user user') :
    user'.balance = user.balance + if g.type = 1 then g.value.getD 0 else 0 := by
  cases h.kind with
  | balance h1 => simp [h1]
  | duration h2 => simp [h2]
  | traffic h3 => simp [h3]
  | reset h4 => simp [h4]
  | plan h5 => simp [h5, User.onPlanOf]

theorem Giftcard.applies.commission_balance (h : g.applies now db user user') :
    user'.commission_balance = user.commission_balance := by
  cases h.kind <;> rfl

/-- When a plan card lets the subscription end. -/
def Giftcard.planEnd (g : Giftcard) (now : Int) : Int :=
  if g.value = some 0 then 4102444800 else now + g.value.getD 0 * 86400

/-- **The columns of the user have room for what the card adds.**  An UPDATE sends a column only
    when it changes. -/
structure Giftcard.HasRoom (g : Giftcard) (now : Int) (db : Database) (user : User) : Prop where
  balance : g.type = 1 →
    g.value.getD 0 = 0 ∨ integerFits (user.balance + g.value.getD 0) = true
  expired_at : g.type = 2 →
    fitsBigint (max (user.expired_at.getD 0) now + g.value.getD 0 * 86400) = true
  transfer_enable : g.type = 3 →
    fitsBigint (user.transfer_enable + g.value.getD 0 * GiftcardService.GIB) = true
  plan : g.type = 5 → ∀ plan : Plan, g.plan_id = some plan.id →
    (db .plan).get? plan.id = some plan →
      (user.transfer_enable = plan.transfer_enable ∨ fitsBigint plan.transfer_enable = true) ∧
        (user.expired_at = some (g.planEnd now) ∨ fitsBigint (g.planEnd now) = true)

/-- A card of another type asks for no room of this kind. -/
theorem Giftcard.type_ne {n m : Int} (h : g.type = n) (hne : n ≠ m) {P : Prop} (hm : g.type = m) :
    P :=
  absurd (h.symm.trans hm) hne

/-- The UPDATE of the user is taken exactly if there is room. -/
theorem Giftcard.applies.changeFits_iff (h : g.applies now db user user') :
    user.changeFits user' = true ↔ g.HasRoom now db user := by
  cases h.kind with
  | balance h1 =>
    have hfits : user.changeFits { user with balance := user.balance + g.value.getD 0 } = true ↔
        g.value.getD 0 = 0 ∨ integerFits (user.balance + g.value.getD 0) = true := by
      simp [User.changeFits]
    rw [hfits]
    exact ⟨fun hroom => ⟨fun _ => hroom, Giftcard.type_ne h1 (by decide),
      Giftcard.type_ne h1 (by decide), Giftcard.type_ne h1 (by decide)⟩,
      fun hroom => hroom.balance h1⟩
  | duration h2 hpos =>
    set expires := max (user.expired_at.getD 0) now + g.value.getD 0 * 86400 with hexpires
    -- the card lasts for a positive time, so the column always changes
    have hchanged : user.expired_at ≠ some expires := by
      intro heq
      have hold : user.expired_at.getD 0 = expires := by rw [heq]; rfl
      have hle : user.expired_at.getD 0 ≤ max (user.expired_at.getD 0) now := le_max_left _ _
      omega
    have hfits : user.changeFits { user with expired_at := some expires } = true ↔
        fitsBigint expires = true := by
      simp [User.changeFits, hchanged]
    rw [hfits]
    exact ⟨fun hroom => ⟨Giftcard.type_ne h2 (by decide), fun _ => hroom,
      Giftcard.type_ne h2 (by decide), Giftcard.type_ne h2 (by decide)⟩,
      fun hroom => hroom.expired_at h2⟩
  | traffic h3 hpos =>
    set transfer_enable := user.transfer_enable + g.value.getD 0 * GiftcardService.GIB
      with htransfer
    have hchanged : user.transfer_enable ≠ transfer_enable := by
      have hgib : 0 < g.value.getD 0 * GiftcardService.GIB := mul_pos hpos (by decide)
      omega
    have hfits : user.changeFits { user with transfer_enable := transfer_enable } = true ↔
        fitsBigint transfer_enable = true := by
      simp [User.changeFits, hchanged]
    rw [hfits]
    exact ⟨fun hroom => ⟨Giftcard.type_ne h3 (by decide), Giftcard.type_ne h3 (by decide),
      fun _ => hroom, Giftcard.type_ne h3 (by decide)⟩, fun hroom => hroom.transfer_enable h3⟩
  | reset h4 =>
    have hfits : user.changeFits { user with u := 0, d := 0 } = true := by
      simp [User.changeFits]
    exact ⟨fun _ => ⟨Giftcard.type_ne h4 (by decide), Giftcard.type_ne h4 (by decide),
      Giftcard.type_ne h4 (by decide), Giftcard.type_ne h4 (by decide)⟩, fun _ => hfits⟩
  | plan h5 plan hid hplan hexpired =>
    have hfits : user.changeFits (user.onPlanOf g plan now) = true ↔
        (user.transfer_enable = plan.transfer_enable ∨ fitsBigint plan.transfer_enable = true) ∧
          (user.expired_at = some (g.planEnd now) ∨ fitsBigint (g.planEnd now) = true) := by
      simp [User.changeFits, User.onPlanOf, Giftcard.planEnd]
    rw [hfits]
    refine ⟨fun hroom => ⟨Giftcard.type_ne h5 (by decide), Giftcard.type_ne h5 (by decide),
      Giftcard.type_ne h5 (by decide), fun _ other hother hstored => ?_⟩,
      fun hroom => hroom.plan h5 plan hid hplan⟩
    have hsame : other.id = plan.id := Option.some.inj (hother.symm.trans hid)
    rw [hsame, hplan] at hstored
    cases hstored
    exact hroom

end

/-! ## §2. Redemptions. -/

/-- A redemption: the rows it found under its locks, and what it made of them. -/
structure Redemption where
  card : Giftcard
  user : User
  user' : User
  /-- The users that had used the card, by its own list. -/
  used_user_ids : List Int
  /-- The time at which the card was applied. -/
  now : Int
  /-- The key of the redemption row. -/
  id : Int

/-- The card after the redemption. -/
def Redemption.card' (rt : Runtime) (r : Redemption) : Giftcard :=
  { r.card with
    used_user_ids := some (rt.orjson_dumps_ints (r.used_user_ids ++ [r.user.id]))
    limit_use := r.card.limit_use.map (· - 1) }

/-- The redemption row. -/
def Redemption.row (r : Redemption) : GiftcardRedemption :=
  { id := r.id, giftcard_id := r.card.id, user_id := r.user.id, code := r.card.code,
    type := r.card.type, value := r.card.value, plan_id := r.card.plan_id }

/-- The rows a redemption writes, first to last. -/
def Redemption.writes (rt : Runtime) (r : Redemption) : List (Write Tbl) :=
  [.put .users r.user', .put .giftcard (r.card' rt), .put .giftcard_redemption r.row]

section

variable (rt) (r : Redemption) (db : Database)

theorem Redemption.apply_users : db.apply (r.writes rt) .users = (db .users).put r.user' := by
  rw [DB.apply_filter]
  exact DB.put_same db _ _

theorem Redemption.apply_giftcard :
    db.apply (r.writes rt) .giftcard = (db .giftcard).put (r.card' rt) := by
  rw [DB.apply_filter]
  exact DB.put_same db _ _

theorem Redemption.apply_redemption :
    db.apply (r.writes rt) .giftcard_redemption = (db .giftcard_redemption).put r.row := by
  rw [DB.apply_filter]
  exact DB.put_same db _ _

end

/-- The user has not redeemed the card at a moment since the card was locked. -/
def SeenUnused (C : Contract L Tbl) (giftcard_id user_id : Int) (s' : State Tbl) : Prop :=
  ∃ s₁, C.Rely [⟨Tbl.giftcard, giftcard_id⟩] s₁ s' ∧
    ∀ r ∈ (s₁.db .giftcard_redemption).rows, r.giftcard_id = giftcard_id → r.user_id ≠ user_id

/-- **What is known of a redemption** at its end in `s'`, `ss'`. -/
structure Redemption.Valid (C : Contract L Tbl) (r : Redemption) (s' : State Tbl)
    (ss' : Session Tbl) : Prop where
  card_held : Holds s' ss' .giftcard r.card.id (some r.card)
  user_held : Holds s' ss' .users r.user.id (some r.user)
  row_free : Holds s' ss' .giftcard_redemption r.id none
  now_le : r.now ≤ s'.now
  checked : GiftcardService.checkGiftcard r.card r.now = .ok ()
  applied : r.card.applies r.now s'.db r.user r.user'
  plan_locked : r.card.type = 5 → ∀ plan_id, r.card.plan_id = some plan_id →
    ⟨Tbl.plan, plan_id⟩ ∈ ss'.locks
  unused : SeenUnused C r.card.id r.user.id s'

theorem Redemption.Valid.extends {r : Redemption} {s s' : State Tbl} {ss ss' : Session Tbl}
    {ws : List (Write Tbl)} (h : r.Valid C s ss) (he : Extends C s ss s' ss' ws) :
    r.Valid C s' ss' where
  card_held := h.card_held.extends he
  user_held := h.user_held.extends he
  row_free := h.row_free.extends he
  now_le := h.now_le.trans he.rely.now
  checked := h.checked
  applied := h.applied.congr fun h5 plan_id hid =>
    he.rely.frame ⟨Tbl.plan, plan_id⟩ (h.plan_locked h5 plan_id hid)
  plan_locked h5 plan_id hid := he.locks (h.plan_locked h5 plan_id hid)
  unused := by
    obtain ⟨s₁, hr₁, hnone⟩ := h.unused
    exact ⟨s₁, hr₁.trans (he.rely.mono (by simpa using h.card_held.locked)), hnone⟩

/-- A card that can be used has uses left. -/
theorem checkGiftcard_limit {g : Giftcard} {now n : Int}
    (h : GiftcardService.checkGiftcard g now = .ok ()) (hn : g.limit_use = some n) : 0 < n := by
  unfold GiftcardService.checkGiftcard at h
  split at h
  · cases h
  split at h
  · cases h
  split at h
  · cases h
  · next hlimit =>
    rw [hn] at hlimit
    simpa using hlimit

/-- What a gift card does to its user, when it does something. -/
theorem applyGiftcard_spec {g : Giftcard} {user : User} {now : Int} {s : State Tbl}
    {ss : Session Tbl} (hi : C.Inv s) (ha : ss.Avoids .plan)
    {Q : Except PyExc User → State Tbl → Session Tbl → Prop}
    (hok : ∀ user' s' ss', Extends C s ss s' ss' [] → g.applies now s'.db user user' →
      (g.type = 5 → ∀ plan_id, g.plan_id = some plan_id → ⟨Tbl.plan, plan_id⟩ ∈ ss'.locks) →
      Q (.ok user') s' ss') (herr : ∀ e s' ss', Q (.error e) s' ss') :
    wp C (GiftcardService.applyGiftcard g user now) Q s ss := by
  have hkeep : ∀ user', g.type ≠ 5 → g.Kind now s.db user user' → Q (.ok user') s ss :=
    fun user' h5 hk => hok user' s ss (.refl hi) hk.applies fun h => absurd h h5
  unfold GiftcardService.applyGiftcard
  refine wp_ite (fun h1 => hkeep _ (by omega) (.balance h1)) fun _ => ?_
  refine wp_ite (fun h2 => wp_ite (fun _ => herr _ _ _)
    fun hpos => hkeep _ (by omega) (.duration h2 (not_le.mp hpos))) fun _ => ?_
  refine wp_ite (fun h3 => wp_ite (fun _ => herr _ _ _)
    fun hpos => hkeep _ (by omega) (.traffic h3 (not_le.mp hpos))) fun _ => ?_
  refine wp_ite (fun h4 => hkeep _ (by omega) (.reset h4)) fun _ => ?_
  refine wp_ite (fun h5 => ?_) fun _ => herr _ _ _
  refine wp_ite (fun _ => herr _ _ _) fun hexpired => ?_
  split
  · exact herr _ _ _
  next plan_id hid =>
  refine (wp_bind _ _ _ _ _).mpr (wp_getForUpdate (fun _ _ _ => herr _ _ _)
    fun s₁ plan he₁ hpid hp => ?_)
  have hplan : (s₁.db .plan).get? plan.id = some plan :=
    (hp.holds fun w hw heq => ha w hw (congrArg Sigma.fst heq)).committed
  have hpid' : plan.id = plan_id := hpid
  refine hok _ s₁ _ he₁ (Giftcard.Kind.plan h5 plan (by rw [hid, hpid']) hplan hexpired).applies
    fun _ plan_id' hid' => ?_
  rw [hid] at hid'
  cases hid'
  exact List.mem_cons_self

/-- **What a redemption that returns has written.** -/
theorem redeem_spec {fresh : Fresh} {user_id : Int} {code : String} {s : State Tbl} :
    wp C (GiftcardService.redeem rt fresh user_id code)
      (fun out s' ss' =>
        match out with
        | .ok _ => ∃ r : Redemption, r.user.id = user_id ∧
            GiftcardService.normalizeCode rt code = .ok r.card.code ∧ s.now ≤ r.now ∧
            r.Valid C s' ss' ∧ ss'.ws = r.writes rt
        | .error _ => True) s Session.fresh := by
  refine (wp_bind _ _ _ _ _).mpr (wp_liftExcept ?_)
  split
  swap
  · trivial
  next normalized_code hcode =>
  refine (wp_bind _ _ _ _ _).mpr (wp_selectOneForUpdate (fun _ _ _ => trivial)
    (fun s₁ ids g he₁ hg₁ hp => ?_) fun _ _ _ => trivial)
  refine (wp_bind _ _ _ _ _).mpr (wp_getForUpdate (fun _ _ _ => trivial)
    fun s₂ user he₂ hkey hu₂ => ?_)
  have hid : user.id = user_id := hkey
  have hg₂ := hg₁.extends he₂ (by simp)
  refine (wp_bind _ _ _ _ _).mpr (wp_clock fun s₃ he₃ => ?_)
  refine (wp_bind _ _ _ _ _).mpr (wp_liftExcept ?_)
  split
  swap
  · trivial
  next hchecked =>
  refine (wp_bind _ _ _ _ _).mpr (wp_selectOne (fun s₄ he₄ hnone => ?_)
    (fun _ _ _ _ _ => trivial) fun _ _ => trivial)
  refine (wp_bind _ _ _ _ _).mpr (wp_liftExcept ?_)
  split
  swap
  · trivial
  next used_user_ids _ =>
  refine wp_ite (fun _ => trivial) fun _ => ?_
  refine (wp_bind _ _ _ _ _).mpr (applyGiftcard_spec he₄.inv (fun w hw => by cases hw)
    (fun user' s₅ ss₅ he₅ happ hlocked => ?_) fun _ _ _ => trivial)
  have he₂₅ := (he₃.trans he₄).trans he₅
  have hu₅ := hu₂.extends he₂₅ (by simp)
  have hg₅ := hg₂.extends he₂₅ (by simp)
  have hws₅ : ss₅.ws = [] := (he₁.trans (he₂.trans he₂₅)).ws_eq
  have hu : Holds s₅ ss₅ .users user.id (some user) := hu₅.holds (by simp [hws₅])
  have hg : Holds s₅ ss₅ .giftcard g.id (some g) := hg₅.holds (by simp [hws₅])
  -- the check for an earlier redemption was made while the card was locked
  have hlock := he₄.locks (he₃.locks hg₂.locked)
  have hunused : SeenUnused C g.id user.id s₅ := by
    refine ⟨s₄, he₅.rely.mono (List.cons_subset.mpr ⟨hlock, List.nil_subset _⟩),
      fun r hr hgid huid => ?_⟩
    have hno := hnone r hr
    simp [hgid, huid, hid] at hno
  refine (wp_bind _ _ _ _ _).mpr (wp_ite (fun _ =>
    wp_save_owned hu₅ happ.id_eq.symm fun s₆ he₆ => ?_) fun _ => trivial)
  refine (wp_bind _ _ _ _ _).mpr (wp_ite (fun _ => trivial) fun _ =>
    wp_save_owned (hg₅.extends he₆ (by simp)) rfl fun s₇ he₇ => ?_)
  refine (wp_bind _ _ _ _ _).mpr (wp_insert (fun _ _ => trivial) fun s₈ he₈ _ hfresh => ?_)
  have he := (he₆.trans he₇).trans he₈
  refine wp_ite (fun _ => ?_) fun h => absurd rfl h
  dsimp only [Prog.pure_eq, wp_ret]
  refine ⟨⟨g, user, user', used_user_ids, s₃.now, fresh.id⟩, hid, ?_,
    ((he₁.trans he₂).trans he₃).rely.now, ⟨hg.extends he, hu.extends he, ⟨List.mem_cons_self, ?_⟩,
      ((he₄.trans he₅).trans he).rely.now, hchecked, happ.congr fun h5 plan_id hid => ?_,
      fun h5 plan_id hid => he.locks (hlocked h5 plan_id hid), ?_⟩, ?_⟩
  · rw [hcode, show g.code = normalized_code by simpa using hp]
  · refine Session.Avoids.committed (Session.Avoids.write (Session.Avoids.write ?_ ?_) ?_) hfresh
    · intro w hw
      rw [hws₅] at hw
      cases hw
    · simp
    · simp
  · exact he.rely.frame ⟨Tbl.plan, plan_id⟩ (hlocked h5 plan_id hid)
  · obtain ⟨s₁', hr₁, hnone⟩ := hunused
    exact ⟨s₁', hr₁.trans (he.rely.mono (by simpa using hg.locked)), hnone⟩
  · simp [Redemption.writes, Redemption.card', Redemption.row, hws₅, hid]

/-- A redemption that ran alone and returned. -/
structure Redemption.Ran (rt : Runtime) (r : Redemption) (code : String) (s : State Tbl)
    (ss : Session Tbl) : Prop where
  coded : GiftcardService.normalizeCode rt code = .ok r.card.code
  card : (s.db .giftcard).get? r.card.id = some r.card
  user : (s.db .users).get? r.user.id = some r.user
  applied : r.card.applies s.now s.db r.user r.user'
  writes : ss.ws = r.writes rt

/-- The user after it. -/
theorem Redemption.Ran.users {r : Redemption} {code : String} {s : State Tbl}
    {ss : Session Tbl} (h : r.Ran rt code s ss) : s.view ss .users = (s.db .users).put r.user' := by
  rw [State.view, h.writes, r.apply_users]

theorem redeem_run {fresh : Fresh} {user_id : Int} {code : String} {s : State Tbl}
    {ss : Session Tbl}
    (hrun : (GiftcardService.redeem rt fresh user_id code).run s Session.fresh = (.ok (), ss)) :
    ∃ r : Redemption, r.user.id = user_id ∧ r.Ran rt code s ss := by
  have h := wp_run trivial (fun _ _ => rfl)
    (show wp (Contract.solo : Contract Unit Tbl) (GiftcardService.redeem rt fresh user_id code) _
      s Session.fresh from redeem_spec)
  rw [hrun] at h
  obtain ⟨r, huser, hcode, hlow, hv, hws⟩ := h
  have hnow : r.now = s.now := le_antisymm hv.now_le hlow
  exact ⟨r, huser, hcode, hv.card_held.committed, hv.user_held.committed, hnow ▸ hv.applied, hws⟩

end PyBoard
