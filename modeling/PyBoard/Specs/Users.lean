/-
  PyBoard.Specs.Users — what calls change of the users.

  Every write to the users stores a row over the row with the same key, and none of
  them touches the e-mail address or the rights.  So an address names the same user in all
  states of a run, and a user keeps its rights (`Effect.identities`).  An opening stores what
  it makes of the order's user, and changes nobody else's entitlement (`Opened.Valid.users`).
-/
import PyBoard.Relational.Exclusive
import PyBoard.Specs.Effects

namespace PyBoard

open Relational

variable {C : Contract Call Tbl} {rt : Runtime} {s : State Tbl} {ss : Session Tbl}

/-! ## §1. Addresses and rights. -/

/-- The columns that say who a user is. -/
def User.identity (u : User) : String × Bool × Bool := (u.email, u.is_admin, u.is_staff)

/-- A write that, if it is to the users, keeps the address and the rights of a stored user. -/
def KeepsIdentity (db : Database) (w : Write Tbl) : Prop :=
  w.table = .users → ∃ u u₀ : User, w = .put .users u ∧ (db .users).get? u.id = some u₀ ∧
    u.identity = u₀.identity

theorem KeepsIdentity.of_table {db : Database} {w : Write Tbl} (h : w.table ≠ .users) :
    KeepsIdentity db w := fun ht => absurd ht h

theorem KeepsIdentity.put {db : Database} {u u₀ : User} (h : (db .users).get? u.id = some u₀)
    (hsame : u.identity = u₀.identity) : KeepsIdentity db (.put .users u) :=
  fun _ => ⟨u, u₀, rfl, h, hsame⟩

theorem CommissionWrites.keepsIdentity {o : Order} {ws : List (Write Tbl)}
    (h : CommissionWrites C rt o s ss ws) {w : Write Tbl} (hw : w ∈ ws) :
    KeepsIdentity s.db w := by
  cases h with
  | nothing => cases hw
  | status o' =>
    rw [List.mem_singleton.mp hw]
    exact .of_table (by simp)
  | grant g hg =>
    simp only [Grant.writes, List.mem_cons, List.not_mem_nil, or_false] at hw
    rcases hw with rfl | rfl | rfl
    · have hcur : (s.db .users).get? g.current.id = some g.current := by
        rw [hg.current_id]
        exact hg.held.committed
      exact .put hcur (by simp [User.identity, User.merge, User.granted])
    · exact .of_table (by simp)
    · exact .of_table (by simp)

/-- An opening changes nothing of the address and the rights. -/
theorem Entitled.identity {o : Order} {user user' : User} (h : Entitled C rt o user s ss user') :
    user'.identity = user.identity := by
  cases h with
  | deposit => rfl
  | reset => rfl
  | plan hd p hp hpid slot carried expired_at hc => rcases hc with rfl | rfl <;> rfl

/-- Nor does a card. -/
theorem Giftcard.applies.identity {g : Giftcard} {now : Int} {db : Database} {user user' : User}
    (h : g.applies now db user user') : user'.identity = user.identity := by
  cases h.kind <;> rfl

theorem Opened.Valid.keepsIdentity {opened : Opened} {cb : Option String}
    (hv : opened.Valid C rt cb s ss) {w : Write Tbl} (hw : w ∈ opened.writes cb) :
    KeepsIdentity s.db w := by
  simp only [Opened.writes, List.mem_cons, List.mem_append, List.not_mem_nil, or_false] at hw
  rcases hw with rfl | (((hw | rfl) | rfl) | hw)
  · exact .of_table (by simp)
  · exact .of_table (by simp [couponWrites_table hw])
  · refine .put ?_ hv.entitled.identity
    rw [hv.entitled.id_eq]
    exact hv.user_held.committed
  · exact .of_table (by simp)
  · exact hv.commission_valid.keepsIdentity hw

theorem RefusedWrites.keepsIdentity {order_id : Int} {cb : Option String} {ws : List (Write Tbl)}
    (h : RefusedWrites order_id cb s ss ws) {w : Write Tbl} (hw : w ∈ ws) :
    KeepsIdentity s.db w := by
  cases h with
  | missing => cases hw
  | noUser o =>
    rw [List.mem_singleton.mp hw]
    exact .of_table (by simp)
  | refused o user ws hid hst ho huid hheld hr =>
    rcases List.mem_cons.mp hw with rfl | hw
    · exact .of_table (by simp)
    cases hr with
    | early => cases hw
    | short hd c => exact .of_table (by simp [couponWrites_table hw])
    | unsupported hd c =>
      rcases List.mem_append.mp hw with hw | hw
      · exact .of_table (by simp [couponWrites_table hw])
      · rw [List.mem_singleton.mp hw]
        exact .put hheld.committed rfl

/-- **No commit of a call changes who a user is.** -/
theorem Effect.identities {op : Op} (h : Effect C rt op s ss ss.ws) (user_id : Int) :
    ((s.view ss .users).get? user_id).map User.identity
      = ((s.db .users).get? user_id).map User.identity := by
  suffices hkeeps : ∀ w ∈ ss.ws, KeepsIdentity s.db w from
    DB.map_get?_apply (t := Tbl.users) User.identity hkeeps user_id
  generalize ss.ws = ws at h
  intro w hw
  cases h with
  | nothing => cases hw
  | opened opened cb why hv => exact hv.keepsIdentity hw
  | refused trade_no request order_id ws hop why hr => exact hr.keepsIdentity hw
  | cancelled o cur => rw [List.mem_singleton.mp hw]; exact .of_table (by simp)
  | invoiced user_id method trade_no o cur =>
    rw [List.mem_singleton.mp hw]; exact .of_table (by simp)
  | updated data o cur => rw [List.mem_singleton.mp hw]; exact .of_table (by simp)
  | created o => rw [List.mem_singleton.mp hw]; exact .of_table (by simp)
  | granted order_id o ws hop held hg => exact hg.keepsIdentity hw
  | transferred user_id amount user cur o hop hpos seen adm held =>
    simp only [List.mem_cons, List.not_mem_nil, or_false] at hw
    rcases hw with rfl | rfl
    · have hcur : (s.db .users).get? cur.id = some cur := by
        have hid : cur.id = user.id := Table.key_of_get? held.committed
        rw [hid]
        exact held.committed
      exact .put hcur (by simp [User.identity, User.merge, User.transferred])
    · exact .of_table (by simp)
  | redeemed user_id code r hop huser hv =>
    simp only [Redemption.writes, List.mem_cons, List.not_mem_nil, or_false] at hw
    rcases hw with rfl | rfl | rfl
    · refine .put ?_ hv.applied.identity
      rw [hv.applied.id_eq]
      exact hv.user_held.committed
    · exact .of_table (by simp)
    · exact .of_table (by simp)

/-- So an address stays with its user. -/
theorem Effect.emails {op : Op} (h : Effect C rt op s ss ss.ws) (user_id : Int) :
    ((s.view ss .users).get? user_id).map User.email
      = ((s.db .users).get? user_id).map User.email := by
  have hmap := congrArg (Option.map Prod.fst) (h.identities user_id)
  rw [Option.map_map, Option.map_map] at hmap
  exact hmap

/-! ## §2. Entitlements. -/

/-- The columns of a user that the fulfilment of an order changes. -/
def User.entitlement (u : User) :
    Int × Option Int × Option Int × Option Int × Int × Int × Int × Option Int × Option Int :=
  (u.balance, u.plan_id, u.group_id, u.expired_at, u.u, u.d, u.transfer_enable, u.device_limit,
    u.speed_limit)

/-- Every user has the same entitlement in both tables. -/
def SameEntitlements (t t' : Table User.id) : Prop :=
  ∀ k u, t.get? k = some u → ∃ u', t'.get? k = some u' ∧ u'.entitlement = u.entitlement

theorem SameEntitlements.refl (t : Table User.id) : SameEntitlements t t :=
  fun _ u hu => ⟨u, hu, rfl⟩

/-- Storing a version of a user with the same entitlement. -/
theorem SameEntitlements.put {t : Table User.id} {cur r : User} (hcur : t.get? r.id = some cur)
    (h : r.entitlement = cur.entitlement) : SameEntitlements t (t.put r) := by
  intro k u hu
  rw [Table.get?_put]
  split
  · next hk =>
    rw [hk, hcur] at hu
    cases hu
    exact ⟨r, rfl, h⟩
  · exact ⟨u, hu, rfl⟩

/-- A commission changes nobody's entitlement, and nothing of the order's user. -/
theorem CommissionWrites.sameEntitlements {o : Order} {ws : List (Write Tbl)}
    (h : CommissionWrites C rt o s ss ws) {db : Database}
    (hother : ∀ k, k ≠ o.user_id → (db .users).get? k = (s.db .users).get? k) :
    SameEntitlements (db .users) (db.apply ws .users) ∧
      (db.apply ws .users).get? o.user_id = (db .users).get? o.user_id := by
  cases h with
  | nothing => exact ⟨.refl _, rfl⟩
  | status o' => exact ⟨.refl _, rfl⟩
  | grant g hg =>
    have hcur : (db .users).get? g.current.id = some g.current := by
      rw [hother _ (hg.current_id ▸ hg.inviter_ne), hg.current_id]
      exact hg.held.committed
    have hput : db.apply g.writes .users
        = (db .users).put (g.inviter.merge (g.inviter.granted g.amount) g.current) :=
      DB.put_same db _ _
    rw [hput]
    refine ⟨SameEntitlements.put hcur ?_, Table.get?_put_of_ne _ fun h => hg.inviter_ne ?_⟩
    · simp [User.entitlement, User.merge, User.granted]
    · exact (h.trans hg.current_id).symm

/-- What an opening does to the users. -/
theorem Opened.Valid.users {opened : Opened} {cb : Option String}
    (hv : opened.Valid C rt cb s ss) :
    (s.db.apply (opened.writes cb) .users).get? opened.order.user_id = some opened.user' ∧
      ∀ k u, k ≠ opened.order.user_id → (s.db .users).get? k = some u →
        ∃ u', (s.db.apply (opened.writes cb) .users).get? k = some u' ∧
          u'.entitlement = u.entitlement := by
  have hkey : opened.user'.id = opened.order.user_id := hv.entitled.id_eq.trans hv.user_id
  rw [opened.apply_users cb s.db, DB.apply_cons]
  have hstored : s.db.write (.put .users opened.user') .users
      = (s.db .users).put opened.user' := DB.put_same s.db _ _
  have hothers : ∀ k, k ≠ opened.order.user_id →
      (s.db.write (.put .users opened.user') .users).get? k = (s.db .users).get? k := by
    intro k hk
    rw [hstored]
    exact Table.get?_put_of_ne _ fun h => hk (h.trans hkey)
  obtain ⟨hsame, hown⟩ := hv.commission_valid.sameEntitlements hothers
  refine ⟨hown.trans ?_, fun k u hk hu => hsame k u ((hothers k hk).trans hu)⟩
  rw [hstored]
  exact hkey ▸ Table.get?_put_self _ opened.user'

/-- **An opening that ran alone** leaves its user as what it made of it. -/
theorem processPaidOrder_opens {fresh : Fresh} {cb : Option String} {o : Order}
    (ho : (s.db .orders).get? o.id = some o) (hst : o.status = 0 ∨ o.status = 1)
    (hrun : (OrderService.processPaidOrder rt fresh o.id cb).run s Session.fresh = (.ok (), ss)) :
    ∃ user user' : User, (s.db .users).get? o.user_id = some user ∧
      (s.view ss .users).get? o.user_id = some user' ∧
      OpensTo rt (OrderService.accepted o cb) user s.now s ss user' := by
  have hpost := wp_run trivial (fun _ _ => rfl)
    (show wp (Contract.solo : Contract Call Tbl)
      (OrderService.processPaidOrder rt fresh o.id cb) _ s Session.fresh
      from processPaidOrder_spec rfl)
  rw [hrun] at hpost
  obtain ⟨ws, he, ⟨-, o', hclosed, hheld⟩ | ⟨op, hid, hv, hlow, rfl⟩⟩ := hpost
  · -- the locked row is the open order
    have ho' := hheld.committed
    rw [ho] at ho'
    cases ho'
    omega
  · have hop : op.order = o := by
      have horder := hv.order_held.committed
      rw [hid, ho] at horder
      exact (Option.some.inj horder).symm
    have hnow : op.opened_at = s.now := le_antisymm hv.opened_at_le hlow
    have hview : s.view ss = s.db.apply (op.writes cb) := by
      rw [State.view, he.ws_eq]
      rfl
    rw [← hop, ← hnow]
    refine ⟨op.user, op.user', hv.user_id ▸ hv.user_held.committed, ?_, hv.opens⟩
    rw [hview]
    exact hv.users.1

end PyBoard
