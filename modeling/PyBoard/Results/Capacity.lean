/-
  PyBoard.Results.Capacity — plans are never oversold.

  The plan row is locked from before the active users are counted until the
  commit, and a commit that gives somebody a slot of a plan holds that lock.  So
  between the count and the commit no other transaction can fill a slot, and time
  only empties them.

  Main result:
    * `capacity_holds` — under every interleaving of order operations, every plan
      keeps at most `capacity_limit` active users.
-/
import PyBoard.Specs.Effects
import PyBoard.Python.Utc

namespace PyBoard

open Relational

variable {rt : Runtime}

/-! ## §1. Slots. -/

/-- Does `u` count against the capacity of plan `k` at `now`? -/
def holdsSlot (now k : Int) (u : User) : Bool :=
  PlanRepository.isActiveRow now u && u.plan_id = some k

theorem activeCount_eq (db : Database) (now k : Int) :
    activeCount db now k = (db .users).rows.countP (holdsSlot now k) := rfl

/-- A slot is only ever lost by the passing of time. -/
theorem holdsSlot_mono {now now' k : Int} {u : User} (hle : now ≤ now')
    (h : holdsSlot now' k u = true) : holdsSlot now k u = true := by
  simp only [holdsSlot, PlanRepository.isActiveRow, Bool.and_eq_true] at h ⊢
  refine ⟨⟨h.1.1, ?_⟩, h.2⟩
  cases he : u.expired_at with
  | none => rfl
  | some e =>
    have hactive := h.1.2
    rw [he] at hactive
    simp only [decide_eq_true_eq] at hactive ⊢
    omega

/-- Two versions of a user with the same plan and expiry hold the same slots. -/
theorem holdsSlot_congr {now k : Int} {u u' : User} (hplan : u'.plan_id = u.plan_id)
    (hexp : u'.expired_at = u.expired_at) : holdsSlot now k u' = holdsSlot now k u := by
  unfold holdsSlot PlanRepository.isActiveRow
  rw [hplan, hexp]

/-- Whoever holds a slot of plan `k` in `t'` at `now'` already did in `t` at `now`. -/
def SlotsWithin (k : Int) (t : Table User.id) (now : Int) (t' : Table User.id) (now' : Int) :
    Prop :=
  ∀ u' ∈ t'.rows, holdsSlot now' k u' = true →
    ∃ u ∈ t.rows, u.id = u'.id ∧ holdsSlot now k u = true

namespace SlotsWithin

variable {k now now' now'' : Int} {t t' t'' : Table User.id}

theorem refl (hle : now ≤ now') : SlotsWithin k t now t now' :=
  fun u' hu' h => ⟨u', hu', rfl, holdsSlot_mono hle h⟩

theorem trans (h₁ : SlotsWithin k t now t' now') (h₂ : SlotsWithin k t' now' t'' now'') :
    SlotsWithin k t now t'' now'' := by
  intro u'' hu'' h
  obtain ⟨u', hu', hid', h'⟩ := h₂ u'' hu'' h
  obtain ⟨u, hu, hid, h⟩ := h₁ u' hu' h'
  exact ⟨u, hu, hid.trans hid', h⟩

theorem count_le (h : SlotsWithin k t now t' now') :
    t'.rows.countP (holdsSlot now' k) ≤ t.rows.countP (holdsSlot now k) :=
  Table.countP_le_of_keys h

/-- Storing a version with the same plan and expiry takes no slot. -/
theorem put_same {cur r : User} (hcur : t.get? r.id = some cur)
    (hplan : r.plan_id = cur.plan_id) (hexp : r.expired_at = cur.expired_at) :
    SlotsWithin k t now (t.put r) now := by
  intro u' hu' h
  rcases Table.mem_put.mp hu' with rfl | ⟨hu', _⟩
  · refine ⟨cur, Table.mem_of_get? hcur, Table.key_of_get? hcur, ?_⟩
    rw [← holdsSlot_congr hplan hexp]
    exact h
  · exact ⟨u', hu', rfl, h⟩

/-- Storing a user of another plan takes no slot. -/
theorem put_other {r : User} (hplan : r.plan_id ≠ some k) :
    SlotsWithin k t now (t.put r) now := by
  intro u' hu' h
  rcases Table.mem_put.mp hu' with rfl | ⟨hu', _⟩
  · simp only [holdsSlot, Bool.and_eq_true, decide_eq_true_eq] at h
    exact absurd h.2 hplan
  · exact ⟨u', hu', rfl, h⟩

end SlotsWithin

/-! ## §2. The contract. -/

/-- Every limited plan has at most its number of active users. -/
def WithinCapacity (s : State Tbl) : Prop :=
  ∀ (p : Plan) (limit : Int), (s.db .plan).get? p.id = some p → p.capacity_limit = some limit →
    0 < limit → (activeCount s.db s.now p.id : Int) ≤ limit

/-- What a commit does to the slots: a plan gets new active users only under its lock,
    and then it stays within its capacity. -/
structure CapacityGuar (s : State Tbl) (ss : Session Tbl) : Prop where
  plans : s.view ss .plan = s.db .plan
  slots : ∀ k, SlotsWithin k (s.db .users) s.now (s.view ss .users) s.now ∨
    (⟨.plan, k⟩ ∈ ss.locks ∧ ∀ (p : Plan) (limit : Int), (s.db .plan).get? k = some p →
      p.capacity_limit = some limit → 0 < limit →
      (activeCount (s.view ss) s.now k : Int) ≤ limit)

/-- Everything but gift cards. -/
def Op.isOrdering : Op → Bool
  | .redeem .. => false
  | _ => true

/-- The runs of order operations. -/
def ordering : Cond Call Tbl :=
  ⟨fun c => c.op.isOrdering, fun _ _ _ => true, fun _ _ _ => true⟩

/-- The contract of the order operations about plan slots. -/
def capacityContract : Contract Call Tbl where
  toCond := ordering
  Inv := WithinCapacity
  Evol ids s s' := ∀ k, (⟨.plan, k⟩ : RowId Tbl) ∈ ids →
    SlotsWithin k (s.db .users) s.now (s'.db .users) s'.now
  Guar _ := CapacityGuar
  evol_refl _ _ _ _ := .refl le_rfl
  evol_trans h₁ h₂ k hk := (h₁ k hk).trans (h₂ k hk)
  evol_mono hsub h k hk := h k (hsub hk)
  inv_tick d h p limit hp hlimit hpos :=
    le_trans (Int.ofNat_le.mpr (SlotsWithin.refl (by simp)).count_le) (h p limit hp hlimit hpos)
  evol_tick _ d _ _ _ := .refl (by simp)
  guar_inv {_ s ss} h _ hg p limit hp hlimit hpos := by
    rw [State.commit_db, hg.plans] at hp
    rcases hg.slots p.id with hslots | ⟨_, hcap⟩
    · exact le_trans (Int.ofNat_le.mpr hslots.count_le) (h p limit hp hlimit hpos)
    · exact hcap p limit hp hlimit hpos
  guar_evol {_ s ss ids} _ _ hg hdisj k hk := by
    rcases hg.slots k with hslots | ⟨hlock, _⟩
    · exact hslots
    · exact absurd hk (hdisj hlock)

/-! ## §3. Every effect keeps it. -/

section

variable {s : State Tbl} {ss : Session Tbl}

/-- A commission changes no plan and no expiry. -/
theorem CommissionWrites.slotsWithin {C : Contract Call Tbl} {o : Order}
    {ws : List (Write Tbl)} (h : CommissionWrites C rt o s ss ws) {db : Database}
    (hother : ∀ k, k ≠ o.user_id → (db .users).get? k = (s.db .users).get? k) (k now : Int) :
    SlotsWithin k (db .users) now (db.apply ws .users) now := by
  cases h with
  | nothing => exact .refl le_rfl
  | status o' => exact .refl le_rfl
  | grant g hg =>
    have hcur : (db .users).get? g.current.id = some g.current := by
      rw [hother _ (hg.current_id ▸ hg.inviter_ne), hg.current_id]
      exact hg.held.committed
    exact SlotsWithin.put_same (r := g.inviter.merge _ g.current) hcur
      (column_same _ _) (column_same _ _)

/-- The users after an opening: the order's user is stored, then the commission. -/
theorem Opened.Valid.slotsWithin {C : Contract Call Tbl} {op : Opened} {cb : Option String}
    (hv : op.Valid C rt cb s ss) (k : Int) :
    SlotsWithin k ((s.db .users).put op.user') s.now (s.db.apply (op.writes cb) .users)
      s.now := by
  rw [op.apply_users cb s.db, DB.apply_cons]
  have hstored : s.db.write (.put .users op.user') .users = (s.db .users).put op.user' :=
    DB.put_same s.db _ _
  rw [← hstored]
  refine hv.commission_valid.slotsWithin (fun k' hk' => ?_) k s.now
  rw [hstored]
  refine Table.get?_put_of_ne _ fun h => hk' ?_
  rw [h]
  exact (hv.entitled.id_eq.trans hv.user_id)

/-- An opening that leaves its user's plan and expiry alone takes no slot. -/
theorem Opened.Valid.slotsWithin_of_same {C : Contract Call Tbl} {op : Opened}
    {cb : Option String} (hv : op.Valid C rt cb s ss) (hplan : op.user'.plan_id = op.user.plan_id)
    (hexp : op.user'.expired_at = op.user.expired_at) (k : Int) :
    SlotsWithin k (s.db .users) s.now (s.db.apply (op.writes cb) .users) s.now := by
  refine (SlotsWithin.put_same ?_ hplan hexp).trans (hv.slotsWithin k)
  rw [hv.entitled.id_eq]
  exact hv.user_held.committed

/-- Whoever counts at the end, besides the order's user, already counted before. -/
theorem others_le {t t' : Table User.id} {now now' k : Int} (uid : Int)
    (h : SlotsWithin k t now t' now') :
    (t'.rows.countP fun u => holdsSlot now' k u && !decide (u.id = uid))
      ≤ t.rows.countP fun u => holdsSlot now k u && !decide (u.id = uid) := by
  refine Table.countP_le_of_keys fun u' hu' hp => ?_
  simp only [Bool.and_eq_true, Bool.not_eq_true', decide_eq_false_iff_not] at hp ⊢
  obtain ⟨u, hu, hid, hslot⟩ := h u' hu' hp.1
  exact ⟨u, hu, hid, hslot, by rw [hid]; exact hp.2⟩

/-- **A user that has a slot may be entitled**: with it stored, the plan is still within
    its capacity. -/
theorem HasSlot.count_le {user user' : User} {p : Plan} (hslot : HasSlot capacityContract user p s)
    (hp : (s.db .plan).get? p.id = some p) (hid : user'.id = user.id) {limit : Int}
    (hlimit : p.capacity_limit = some limit) (hpos : 0 < limit) :
    (((s.db .users).put user').rows.countP (holdsSlot s.now p.id) : Int) ≤ limit := by
  have hput : ((s.db .users).put user').rows.countP (holdsSlot s.now p.id)
      ≤ ((s.db .users).rows.countP fun u =>
        holdsSlot s.now p.id u && !decide (u.id = user.id)) + 1 := by
    rw [← hid]
    exact Table.countP_put_le (s.db .users) user' _
  have hmem : (⟨.plan, p.id⟩ : RowId Tbl) ∈ [(⟨.plan, p.id⟩ : RowId Tbl)] :=
    List.mem_singleton_self _
  cases hslot with
  | counted s₁ now hi hr hnow hlt =>
    have hothers : ((s.db .users).rows.countP fun u =>
        holdsSlot s.now p.id u && !decide (u.id = user.id))
        ≤ (s.db .users).rows.countP (holdsSlot s.now p.id) :=
      List.countP_mono_left fun u _ h => by
        simp only [Bool.and_eq_true] at h
        exact h.1
    have hcount := ((SlotsWithin.refl hnow).trans (hr.evol p.id hmem)).count_le
    have := hlt limit hlimit hpos
    rw [activeCount_eq] at this
    omega
  | held s₁ hi hr hrow hplan hactive =>
    have hothers := others_le user.id (hr.evol p.id hmem)
    have hplan₁ : (s₁.db .plan).get? p.id = some p := (hr.frame _ hmem).symm.trans hp
    have hcap := hi p limit hplan₁ hlimit hpos
    rw [activeCount_eq] at hcap
    have huser : holdsSlot s₁.now p.id user = true := by
      simp only [holdsSlot, PlanRepository.isActiveRow, Bool.and_eq_true, decide_eq_true_eq, hplan,
        Option.isSome_some, true_and, and_true]
      unfold isUserActive at hactive
      split at hactive
      · next he => rw [he]
      · next e he =>
        rw [he]
        simp only [decide_eq_true_eq] at hactive ⊢
        omega
    have hlt : ((s₁.db .users).rows.countP fun u =>
        holdsSlot s₁.now p.id u && !decide (u.id = user.id)) + 1
        ≤ (s₁.db .users).rows.countP (holdsSlot s₁.now p.id) :=
      Table.countP_others_lt (s₁.db .users) _ (Table.mem_of_get? hrow) huser
    omega

/-- What an opening guarantees about the slots. -/
theorem Opened.Valid.capacityGuar {op : Opened} {cb : Option String}
    (hv : op.Valid capacityContract rt cb s ss) (k : Int) :
    SlotsWithin k (s.db .users) s.now (s.db.apply (op.writes cb) .users) s.now ∨
      (⟨.plan, k⟩ ∈ ss.locks ∧ ∀ (p : Plan) (limit : Int), (s.db .plan).get? k = some p →
        p.capacity_limit = some limit → 0 < limit →
        (activeCount (s.db.apply (op.writes cb)) s.now k : Int) ≤ limit) := by
  have hid := hv.entitled.id_eq
  have hcases := hv.entitled
  generalize huser : op.user' = user' at hcases
  cases hcases with
  | deposit =>
    exact Or.inl (hv.slotsWithin_of_same (by rw [huser]) (by rw [huser]) k)
  | reset =>
    exact Or.inl (hv.slotsWithin_of_same (by rw [huser]; rfl) (by rw [huser]; rfl) k)
  | plan hd p hp hpid slot carried expired_at hc =>
    have hplan : op.user'.plan_id = some p.id := by rw [huser]; rfl
    by_cases hk : k = p.id
    · subst hk
      refine Or.inr ⟨hp.locked, fun p' limit hp' hlimit hpos => ?_⟩
      have hpp : p' = p := Option.some.inj (hp'.symm.trans hp.committed)
      subst hpp
      have hcount := (hv.slotsWithin p'.id).count_le
      have := slot.count_le hp' hid hlimit hpos
      rw [activeCount_eq]
      omega
    · refine Or.inl ((SlotsWithin.put_other ?_).trans (hv.slotsWithin k))
      rw [hplan]
      exact fun h => hk (Option.some.inj h).symm

/-- A write of one user row with the plan and the expiry of its current version. -/
theorem slotsWithin_write {db : Database} (cur : User) {r : User} {k now : Int}
    (hcur : (db .users).get? r.id = some cur) (hplan : r.plan_id = cur.plan_id)
    (hexp : r.expired_at = cur.expired_at) :
    SlotsWithin k (db .users) now (db.write (.put .users r) .users) now := by
  have hstored : db.write (.put .users r) .users = (db .users).put r := DB.put_same db _ _
  rw [hstored]
  exact .put_same hcur hplan hexp

/-- **Every effect of the order operations keeps the capacity contract.** -/
theorem Effect.capacityGuar {c : Op} (hop : c.isOrdering = true)
    (h : Effect capacityContract rt c s ss ss.ws) : CapacityGuar s ss := by
  have hplans : s.view ss .plan = s.db .plan :=
    DB.apply_of_table_not_mem _ _ fun w hw => (h.table hw).1
  refine ⟨hplans, fun k => ?_⟩
  unfold State.view
  generalize hws : ss.ws = ws at h
  cases h with
  | nothing => exact Or.inl (.refl le_rfl)
  | opened op cb why hv => exact hv.capacityGuar k
  | refused trade_no request order_id ws hop why hr =>
    left
    cases hr with
    | missing => exact .refl le_rfl
    | noUser o => exact .refl le_rfl
    | refused o user ws hid hst ho huid hu hr =>
      cases hr with
      | early => exact .refl le_rfl
      | short hd c hc =>
        rw [DB.apply_of_table_not_mem]
        · exact .refl le_rfl
        · intro w hw
          rcases List.mem_cons.mp hw with rfl | hw
          · simp
          · simp [couponWrites_table hw]
      | unsupported hd c =>
        rw [DB.apply_filter]
        simp only [List.filter_cons, List.filter_append, couponWrites_filter, ne_eq,
          reduceCtorEq, not_false_eq_true, Write.table_put, decide_false, Bool.false_eq_true,
          if_false, List.nil_append, decide_true, if_true, List.filter_nil]
        exact slotsWithin_write user hu.committed rfl rfl
  | cancelled o cur => exact Or.inl (.refl le_rfl)
  | invoiced user_id method trade_no o cur => exact Or.inl (.refl le_rfl)
  | updated data o cur => exact Or.inl (.refl le_rfl)
  | created o => exact Or.inl (.refl le_rfl)
  | granted order_id o ws hop held h => exact Or.inl (h.slotsWithin (fun _ _ => rfl) k s.now)
  | transferred user_id amount user cur o hop hpos seen adm held =>
    left
    have hcur_id : cur.id = user.id := Table.key_of_get? held.committed
    refine slotsWithin_write cur ?_ (column_same _ _) (column_same _ _)
    exact hcur_id ▸ held.committed
  | redeemed user_id code r hc =>
    rw [hc] at hop
    cases hop

end

/-- Every ordering call keeps the capacity contract. -/
theorem capacity_keeps (c : Call) (hb : capacityContract.begin c = true) :
    capacityContract.Keeps c (c.prog rt) :=
  keeps_of_effect c fun _ _ _ h _ => h.capacityGuar hb

/-! ## §4. The result. -/

/-- **Plans are never oversold.**  From a state in which every limited plan has at most
    its number of active users, every state reached by interleaved order operations is
    of this kind. -/
theorem capacity_holds {db : Database} {now : Int} {c : Server}
    (h : WithinCapacity ⟨db, now⟩) (hrun : Runs rt ordering (Server.start db now) c) :
    WithinCapacity c.state :=
  (hrun.sound (C := capacityContract) capacity_keeps (.quiet h)).inv

/-- A user without a plan, with a pending order for one month of plan 1. -/
def buyer (id : Int) (name : String) : User :=
  { id := id, email := name, password := "", token := name, uuid := name }

def buying (id : Int) (trade_no : String) : Order :=
  { id := id, user_id := id, plan_id := 1, type := 1, period := "month_price",
    trade_no := trade_no, total_amount := 100, created_at := 0 }

/-- Two such users, for the last slot of the plan. -/
def lastSlot : Database
  | .users => ⟨[buyer 1 "a", buyer 2 "b"], by decide⟩
  | .plan => ⟨[{ id := 1, group_id := 1, transfer_enable := 10, capacity_limit := some 1 }],
      by decide⟩
  | .orders => ⟨[buying 1 "A", buying 2 "B"], by decide⟩
  | _ => Table.empty

/-- Both orders are marked as paid at once; the second opening waits for the plan and is
    refused. -/
def lastSlotRace : List (Event Call) :=
  [.begin ⟨.adminMarkPaid "A", ⟨0, 0, ""⟩⟩, .begin ⟨.adminMarkPaid "B", ⟨0, 0, ""⟩⟩] ++
    List.replicate 4 (.exec 1) ++ List.replicate 17 (.exec 0) ++ [.finish 0] ++
    List.replicate 4 (.exec 0) ++ [.finish 0]

theorem capacity_holds_lastSlot : ∃ c,
    (Server.start lastSlot 1700000000).steps
        (Call.prog Utc.bare) ordering lastSlotRace
      = some c ∧ WithinCapacity c.state := by
  obtain ⟨c, hc⟩ := Option.isSome_iff_exists.mp
    (by decide : ((Server.start lastSlot 1700000000).steps
      (Call.prog Utc.bare) ordering
      lastSlotRace).isSome = true)
  refine ⟨c, hc, capacity_holds ?_ (Reaches.of_steps (.refl _) hc)⟩
  intro p limit _ _ hpos
  have hzero : activeCount lastSlot 1700000000 p.id = 0 := by
    simp [activeCount, lastSlot, buyer, PlanRepository.isActiveRow]
  change (activeCount lastSlot 1700000000 p.id : Int) ≤ limit
  omega

end PyBoard
