/-
  PyBoard.Specs.Commission — what granting commission does to the database.

  `calculateForOrder` touches its order only in the commission columns.  When it
  grants, it also writes the inviter's `commission_balance`, computed from an
  unlocked read, over whatever version of the inviter's row is current then, and
  adds one commission log row.
-/
import PyBoard.Specs.Basic

namespace PyBoard

open Relational

/-- Two versions of an order that differ at most in the commission columns. -/
def Order.SameButCommission (o o' : Order) : Prop :=
  o' = { o with
    invite_user_id := o'.invite_user_id
    commission_status := o'.commission_status
    commission_balance := o'.commission_balance
    actual_commission_balance := o'.actual_commission_balance }

/-- The inviter after a grant, as the session holds it. -/
def User.granted (inviter : User) (amount : Int) : User :=
  { inviter with commission_balance := inviter.commission_balance + amount }

variable {L : Type} {rt : Runtime}

/-- The commission rate of an inviter under the stored settings. -/
def rateInForce (rt : Runtime) (settings : List Setting) (inviter : User) : Except PyExc Int :=
  match CommissionService.orElse inviter.commission_rate none with
  | some rate => .ok rate
  | none => intSetting rt settings "invite_commission" 10

/-- A granted commission: the inviter as it was read, its version current at the
    UPDATE, the order afterwards and the log row. -/
structure Grant where
  inviter : User
  current : User
  amount : Int
  order : Order
  log : CommissionLog

/-- The rows a grant writes. -/
def Grant.writes (g : Grant) : List (Write Tbl) :=
  [.put .users (g.inviter.merge (g.inviter.granted g.amount) g.current), .put .orders g.order,
    .put .commission_log g.log]

/-- No commission of the order `trade_no` was logged at a moment since the transaction
    began. -/
def SeenUnlogged (C : Contract L Tbl) (trade_no : String) (s' : State Tbl) : Prop :=
  ∃ s₁, C.Rely [] s₁ s' ∧ ∀ l ∈ (s₁.db .commission_log).rows, l.trade_no ≠ trade_no

/-- The commission of `o` for `inviter` was `amount` at a moment since the transaction
    began. -/
def SeenRate (C : Contract L Tbl) (rt : Runtime) (o : Order) (inviter : User) (amount : Int)
    (s' : State Tbl) : Prop :=
  ∃ s₁ rate, C.Rely [] s₁ s' ∧ rateInForce rt (s₁.db .setting).rows inviter = .ok rate ∧
    CommissionService.commissionAmount o.total_amount rate = .ok amount

/-- Commission was not limited to first orders at a moment since the transaction began, or
    its user had completed no other plan order. -/
def SeenFirst (C : Contract L Tbl) (rt : Runtime) (o : Order) (s' : State Tbl) : Prop :=
  (∃ s₁, C.Rely [] s₁ s' ∧
    intSetting rt (s₁.db .setting).rows "commission_first_time_enable" 1 = .ok 0) ∨
  ∃ s₁, C.Rely [] s₁ s' ∧ ∀ o' ∈ (s₁.db .orders).rows, o'.user_id = o.user_id →
    0 < o'.plan_id → o'.status = 3 → o'.id = o.id

section

variable {C : Contract L Tbl} {o : Order} {s s' : State Tbl}

theorem SeenUnlogged.rely {trade_no : String} (h : SeenUnlogged C trade_no s)
    (hr : C.Rely [] s s') : SeenUnlogged C trade_no s' := by
  obtain ⟨s₁, hr₁, hl⟩ := h
  exact ⟨s₁, hr₁.trans hr, hl⟩

theorem SeenRate.rely {inviter : User} {amount : Int} (h : SeenRate C rt o inviter amount s)
    (hr : C.Rely [] s s') : SeenRate C rt o inviter amount s' := by
  obtain ⟨s₁, rate, hr₁, hrate⟩ := h
  exact ⟨s₁, rate, hr₁.trans hr, hrate⟩

theorem SeenFirst.rely (h : SeenFirst C rt o s) (hr : C.Rely [] s s') : SeenFirst C rt o s' := by
  rcases h with ⟨s₁, hr₁, hoff⟩ | ⟨s₁, hr₁, hfirst⟩
  · exact Or.inl ⟨s₁, hr₁.trans hr, hoff⟩
  · exact Or.inr ⟨s₁, hr₁.trans hr, hfirst⟩

end

/-- What is known of a grant for `o`, at its end in `s'`, `ss'`. -/
structure Grant.Valid (C : Contract L Tbl) (rt : Runtime) (g : Grant) (o : Order)
    (s' : State Tbl) (ss' : Session Tbl) : Prop where
  inviter_ne : g.inviter.id ≠ o.user_id
  amount_pos : 0 < g.amount
  completed : o.status = 3
  total_pos : 0 < o.total_amount
  plan_ne : o.plan_id ≠ 0
  same : o.SameButCommission g.order
  log_inviter : g.log.invite_user_id = g.inviter.id
  log_amount : g.log.get_amount = g.amount
  log_user : g.log.user_id = o.user_id
  log_trade_no : g.log.trade_no = o.trade_no
  current_id : g.current.id = g.inviter.id
  /-- The UPDATE ran on the version `current`, in a state the contract admits. -/
  admitted : Admitted C (t := .users) g.inviter (g.inviter.granted g.amount) g.current
  held : Holds s' ss' .users g.inviter.id (some g.current)
  log_fresh : Holds s' ss' .commission_log g.log.id none
  seen : SeenUser C g.inviter.id g.inviter s'
  unlogged : SeenUnlogged C o.trade_no s'
  rated : SeenRate C rt o g.inviter g.amount s'
  first : 0 < o.plan_id → SeenFirst C rt o s'

theorem Grant.Valid.extends {C : Contract L Tbl} {g : Grant} {o : Order} {s s' : State Tbl}
    {ss ss' : Session Tbl} {ws : List (Write Tbl)} (h : g.Valid C rt o s ss)
    (he : Extends C s ss s' ss' ws) : g.Valid C rt o s' ss' :=
  have hr : C.Rely [] s s' := he.rely.mono (List.nil_subset _)
  { h with
    held := h.held.extends he
    log_fresh := h.log_fresh.extends he
    seen := h.seen.rely hr
    unlogged := h.unlogged.rely hr
    rated := h.rated.rely hr
    first := fun hpos => (h.first hpos).rely hr }

/-- What `calculateForOrder` may have written for the order `o`. -/
inductive CommissionWrites (C : Contract L Tbl) (rt : Runtime) (o : Order) (s' : State Tbl)
    (ss' : Session Tbl) : List (Write Tbl) → Prop
  | nothing : CommissionWrites C rt o s' ss' []
  | status (o' : Order) (h : o.SameButCommission o') (hs : o.status = 3) :
      CommissionWrites C rt o s' ss' [.put .orders o']
  | grant (g : Grant) (h : g.Valid C rt o s' ss') : CommissionWrites C rt o s' ss' g.writes

theorem CommissionWrites.extends {C : Contract L Tbl} {o : Order} {s s' : State Tbl}
    {ss ss' : Session Tbl} {ws ws' : List (Write Tbl)} (h : CommissionWrites C rt o s ss ws)
    (he : Extends C s ss s' ss' ws') : CommissionWrites C rt o s' ss' ws := by
  cases h with
  | nothing => exact .nothing
  | status o' hsame hs => exact .status o' hsame hs
  | grant g hg => exact .grant g (hg.extends he)

namespace CommissionService

variable {C : Contract L Tbl} (rt : Runtime) (fresh : Fresh) (order_id : Int)

/-- The outcome of `calculateForOrder` started in `s`, `ss`. -/
def Post (C : Contract L Tbl) (rt : Runtime) (order_id : Int) (s : State Tbl) (ss : Session Tbl)
    (r : Except PyExc Unit) (s' : State Tbl) (ss' : Session Tbl) : Prop :=
  match r with
  | .error e => e.isApp = false
  | .ok _ => ∃ ws, Extends C s ss s' ss' ws ∧
      (ws = [] ∨ ∃ s₁ ss₁ o, o.id = order_id ∧ Extends C s ss s₁ ss₁ [] ∧
        Owns s₁ ss₁ .orders o ∧ Extends C s₁ ss₁ s' ss' ws ∧ CommissionWrites C rt o s' ss' ws)

variable {rt fresh order_id} {s : State Tbl} {ss : Session Tbl}

/-- Saving the order with other commission columns is one of the outcomes. -/
theorem wp_save_status {s₀ : State Tbl} {ss₀ : Session Tbl} {o o' : Order}
    (hid : o.id = order_id) (he₀ : Extends C s₀ ss₀ s ss []) (ho : Owns s ss .orders o)
    (hst : o.status = 3) (hsame : o.SameButCommission o') :
    wp C (save .orders o o') (Post C rt order_id s₀ ss₀) s ss := by
  have hkey : o.id = o'.id := by rw [hsame]
  refine wp_save_owned ho hkey fun s' he => ?_
  exact ⟨_, he₀.trans he, Or.inr ⟨s, ss, o, hid, he₀, ho, he, .status o' hsame hst⟩⟩

/-- The rate that is computed is the one in force. -/
theorem commissionRate_spec (u : User) {Q : Except PyExc Int → State Tbl → Session Tbl → Prop}
    (hi : C.Inv s)
    (hok : ∀ s' v, Extends C s ss s' ss [] →
      rateInForce rt (s'.view ss .setting).rows u = .ok v → Q (.ok v) s' ss)
    (herr : ∀ e s', Extends C s ss s' ss [] → e.isApp = false → Q (.error e) s' ss) :
    wp C (commissionRate rt u) Q s ss := by
  unfold commissionRate
  cases hr : orElse u.commission_rate none with
  | some rate => exact hok s rate (.refl hi) (by rw [rateInForce, hr])
  | none =>
    refine getInt_spec _ _ (fun s' v he hv => hok s' v he ?_) herr
    rw [rateInForce, hr]
    exact hv

/-- If at most one completed plan order of the user is counted and `o` is one, there is
    no other one. -/
theorem only_completed {o : Order} (ho : Owns s ss .orders o) (hst : o.status = 3)
    (hplan : 0 < o.plan_id)
    (horders : ∀ w ∈ ss.ws, ∀ k, w.rowId = ⟨Tbl.orders, k⟩ → k = o.id)
    (hcount : ((s.view ss .orders).rows.filter fun o' : Order =>
      o'.user_id = o.user_id && 0 < o'.plan_id && o'.status = 3).length ≤ 1) :
    ∀ o' ∈ (s.db .orders).rows, o'.user_id = o.user_id → 0 < o'.plan_id → o'.status = 3 →
      o'.id = o.id := by
  intro o' ho' huser hplan' hst'
  by_contra hne
  -- the session has written no order but `o`, so it sees both of them
  have hview : (s.view ss .orders).get? o'.id = some o' := by
    rw [State.view, DB.get?_apply_of_not_mem _ _ fun w hw heq => hne (horders w hw _ heq)]
    exact Table.get?_of_mem ho'
  have hmem : ∀ x ∈ (s.view ss .orders).rows, x.user_id = o.user_id → 0 < x.plan_id →
      x.status = 3 → x ∈ (s.view ss .orders).rows.filter fun o' : Order =>
        o'.user_id = o.user_id && 0 < o'.plan_id && o'.status = 3 := by
    intro x hx h₁ h₂ h₃
    exact List.mem_filter.mpr ⟨hx, by simp [h₁, h₂, h₃]⟩
  have h₁ := hmem o' (Table.mem_of_get? hview) huser hplan' hst'
  have h₂ := hmem o (Table.mem_of_get? ho.seen) rfl hplan hst
  obtain ⟨x, hx⟩ := List.length_eq_one_iff.mp (le_antisymm hcount (List.length_pos_of_mem h₁))
  rw [hx, List.mem_singleton] at h₁ h₂
  exact hne (by rw [h₁, h₂])

/-- What the count of earlier orders allows. -/
theorem completedBefore_spec {o : Order} {first : Int} (ho : Owns s ss .orders o)
    (hst : o.status = 3) (hset : ∃ s₁, C.Rely [] s₁ s ∧
      intSetting rt (s₁.db .setting).rows "commission_first_time_enable" 1 = .ok first)
    (horders : ∀ w ∈ ss.ws, ∀ k, w.rowId = ⟨Tbl.orders, k⟩ → k = o.id) (hi : C.Inv s)
    {Q : Except PyExc Int → State Tbl → Session Tbl → Prop}
    (hok : ∀ s' n, Extends C s ss s' ss [] →
      (n ≤ 1 → 0 < o.plan_id → SeenFirst C rt o s') → Q (.ok n) s' ss) :
    wp C (completedBefore first o.user_id) Q s ss := by
  obtain ⟨s₁, hr₁, hset⟩ := hset
  unfold completedBefore
  refine wp_ite (fun _ => ?_) fun hoff => ?_
  · refine (wp_bind _ _ _ _ _).mpr (wp_select fun s' he => ?_)
    refine hok s' _ he fun hle hplan => Or.inr ⟨s', .refl _ _, ?_⟩
    exact only_completed (ho.extends he (by simp)) hst hplan horders (by exact_mod_cast hle)
  · refine hok s 0 (.refl hi) fun _ _ => Or.inl ⟨s₁, hr₁, ?_⟩
    rw [hset, not_not.mp hoff]

variable (rt fresh order_id) in
/-- **What `calculateForOrder` does**, for a session that has written no setting, no log
    row, of the orders only this one and of the users only the order's own. -/
theorem calculateForOrder_spec (hset : ss.Avoids .setting) (hlog : ss.Avoids .commission_log)
    (horders : ∀ w ∈ ss.ws, ∀ k, w.rowId = ⟨Tbl.orders, k⟩ → k = order_id)
    (husers : ∀ s₁ ss₁ o, Extends C s ss s₁ ss₁ [] → Owns s₁ ss₁ .orders o →
      o.id = order_id → ∀ w ∈ ss.ws, ∀ k, w.rowId = ⟨Tbl.users, k⟩ → k = o.user_id) :
    wp C (calculateForOrder rt fresh order_id) (Post C rt order_id s ss) s ss := by
  refine (wp_bind _ _ _ _ _).mpr (wp_getForUpdate (fun s₁ he₁ _ => ?_)
    fun s₁ o he₁ hid ho₁ => ?_)
  · exact ⟨[], he₁, Or.inl rfl⟩
  dsimp only
  split
  · exact ⟨[], he₁, Or.inl rfl⟩
  next hguard =>
  have hst : o.status = 3 := by
    by_contra h
    exact hguard (Or.inl h)
  have htotal : 0 < o.total_amount := by
    by_contra h
    exact hguard (Or.inr (Or.inr (Or.inl (not_lt.mp h))))
  have hplan_ne : o.plan_id ≠ 0 := fun h => hguard (Or.inr (Or.inl h))
  have hstatus : ∀ c : Int, o.SameButCommission { o with commission_status := c } :=
    fun _ => rfl
  refine (wp_bind _ _ _ _ _).mpr (wp_selectOne (fun s₂ he₂ hnone => ?_) (fun s₂ _ he₂ _ _ => ?_)
    fun _ _ => rfl)
  swap
  · exact wp_save_status hid (he₁.trans he₂) (ho₁.extends he₂ (by simp)) hst (hstatus 2)
  have ho₂ := ho₁.extends he₂ (by simp)
  have hunlogged : ∀ l ∈ (s₂.db .commission_log).rows, l.trade_no ≠ o.trade_no := by
    intro l hl
    rw [← (hlog.lock [⟨Tbl.orders, order_id⟩]).view s₂] at hl
    exact of_decide_eq_false (hnone l hl)
  refine (wp_bind _ _ _ _ _).mpr (wp_get fun s₃ he₃ => ?_)
  have ho₃ := ho₂.extends he₃ (by simp)
  have he₀₃ := (he₁.trans he₂).trans he₃
  dsimp only
  split
  · exact wp_save_status hid he₀₃ ho₃ hst (hstatus 1)
  next user huser =>
  have huid : user.id = o.user_id := Table.key_of_get? huser
  split
  · exact wp_save_status hid he₀₃ ho₃ hst (hstatus 3)
  next invite_user_id _ =>
  split
  · exact wp_save_status hid he₀₃ ho₃ hst (hstatus 3)
  next hne =>
  refine (wp_bind _ _ _ _ _).mpr (wp_get fun s₄ he₄ => ?_)
  have ho₄ := ho₃.extends he₄ (by simp)
  have he₀₄ := he₀₃.trans he₄
  dsimp only
  split
  · exact wp_save_status hid he₀₄ ho₄ hst (hstatus 3)
  next inviter hinviter =>
  have hinv_id : inviter.id = invite_user_id := Table.key_of_get? hinviter
  have hne_user : inviter.id ≠ o.user_id := by
    rw [hinv_id, ← huid]
    exact hne
  -- nothing this session has written is about the inviter
  have hclean : ∀ s : State Tbl, (s.view (ss.lock [⟨Tbl.orders, order_id⟩]) .users).get?
      inviter.id = (s.db .users).get? inviter.id := fun s =>
    DB.get?_apply_of_not_mem _ _ fun w hw heq =>
      hne_user (husers s₁ _ o he₁ ho₁ hid w hw _ heq)
  have hseen : (s₄.db .users).get? inviter.id = some inviter := by
    rw [← hclean, hinv_id]
    exact hinviter
  refine (wp_bind _ _ _ _ _).mpr (getInt_spec _ _ (fun s₅ first he₅ hfirst => ?_)
    fun e _ _ hE => hE)
  rw [(hset.lock [⟨Tbl.orders, order_id⟩]).view s₅] at hfirst
  refine (wp_bind _ _ _ _ _).mpr (completedBefore_spec (ho₄.extends he₅ (by simp)) hst
    ⟨s₅, .refl _ _, hfirst⟩ (hid ▸ horders) he₅.inv fun s₆ completed he₆ hcompleted => ?_)
  have he₄₆ := he₅.trans he₆
  dsimp only
  split
  · exact wp_save_status hid (he₀₄.trans he₄₆) (ho₄.extends he₄₆ (by simp)) hst (hstatus 3)
  next hfew =>
  refine (wp_bind _ _ _ _ _).mpr (commissionRate_spec _ he₆.inv (fun s₇ rate he₇ hrate => ?_)
    fun e _ _ hE => hE)
  rw [(hset.lock [⟨Tbl.orders, order_id⟩]).view s₇] at hrate
  refine (wp_bind _ _ _ _ _).mpr (wp_liftExcept ?_)
  split
  swap
  · next e he =>
    have hquiet := quiet_toInt (PyFloat.divInt (o.total_amount * rate) 100)
    rw [show (PyFloat.divInt (o.total_amount * rate) 100).toInt = .error e from he] at hquiet
    exact hquiet
  next amount hcommission =>
  have he₄₇ := he₄₆.trans he₇
  have he₁₇ := ((he₂.trans he₃).trans he₄).trans he₄₇
  have ho₇ := ho₁.extends he₁₇ (by simp)
  split
  · exact wp_save_status hid (he₁.trans he₁₇) ho₇ hst (hstatus 3)
  next hamount =>
  split
  · rfl
  refine (wp_bind _ _ _ _ _).mpr (wp_save (fun _ _ _ => rfl)
    fun s₉ cur hr₉ hi₉ hstmt hcur => ?_)
  have hcur_id : cur.id = inviter.id := Table.key_of_get? hcur
  set row := inviter.merge (inviter.granted amount) cur with hrow
  have he₉ := Extends.write (C := C) hr₉ hi₉ (.put Tbl.users row)
  have hheld : Holds s₉ ((ss.lock [⟨Tbl.orders, order_id⟩]).write (.put Tbl.users row)) .users
      inviter.id (some cur) := by
    refine ⟨?_, (hclean s₉).symm.trans hcur⟩
    rw [← hcur_id]
    exact List.mem_cons_self
  have ho₉ := ho₇.extends he₉ (by simp [Write.rowId])
  refine (wp_bind _ _ _ _ _).mpr (wp_save_owned ho₉ rfl fun s₁₀ he₁₀ => ?_)
  refine wp_create (fun _ _ _ => rfl) fun s₁₁ he₁₁ hfresh => ?_
  have he₇' := (he₉.trans he₁₀).trans he₁₁
  have he := he₁₇.trans he₇'
  have hr₇ : C.Rely [] s₇ s₁₁ := he₇'.rely.mono (List.nil_subset _)
  have hr₆ : C.Rely [] s₆ s₁₁ := (he₇.rely.mono (List.nil_subset _)).trans hr₇
  have hr₄ : C.Rely [] s₄ s₁₁ := (he₄₆.rely.mono (List.nil_subset _)).trans hr₆
  have hr₂ : C.Rely [] s₂ s₁₁ :=
    ((he₃.trans he₄).rely.mono (List.nil_subset _)).trans hr₄
  refine ⟨_, he₁.trans he, Or.inr ⟨s₁, _, o, hid, he₁, ho₁, by simpa using he, ?_⟩⟩
  refine .grant ⟨inviter, cur, amount, _, _⟩
    { inviter_ne := hne_user
      amount_pos := not_le.mp hamount
      completed := hst
      total_pos := htotal
      plan_ne := hplan_ne
      same := rfl
      log_inviter := hinv_id.symm
      log_amount := rfl
      log_user := rfl
      log_trade_no := rfl
      current_id := hcur_id
      admitted := ⟨s₉, _, hstmt, hcur⟩
      held := (hheld.extends he₁₀).extends he₁₁
      log_fresh := ⟨List.mem_cons_self, ?_⟩
      seen := ⟨s₄, hr₄, hseen⟩
      unlogged := ⟨s₂, hr₂, hunlogged⟩
      rated := ⟨s₇, rate, hr₇, hrate, hcommission⟩
      first := fun hplan => (hcompleted (not_lt.mp hfew) hplan).rely hr₆ }
  refine Session.Avoids.committed ?_ hfresh
  exact ((hlog.lock _).write (by simp)).write (by simp)

end CommissionService

end PyBoard
