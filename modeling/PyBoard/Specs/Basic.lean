/-
  PyBoard.Specs.Basic — rules for the building blocks of the services.

  `save` and `create` are the flushes of a dirty and of a new row; the typed
  settings, the counts and the coupon checks only read.
-/
import PyBoard.Relational.Locking
import PyBoard.Services.Order
import PyBoard.Services.Giftcard

namespace PyBoard

open Relational

variable {L : Type} {C : Contract L Tbl} {α β : Type}

/-- The program issues only plain SELECTs and clock readings. -/
abbrev Reads (p : Db α) : Prop := p.All (·.isRead = true) (fun _ => True)

/-- The program only reads, and raises no `AppException`. -/
abbrev Quiet (p : Db α) : Prop := p.All (·.isRead = true) (·.isApp = false)

/-! ## §1. Flushing one row. -/

/-- The contract admitted this UPDATE at a moment when `cur` was the current version. -/
def Admitted (C : Contract L Tbl) {t : Tbl} (old new cur : t.Row) : Prop :=
  ∃ s ss, C.stmt (.update t old new) s ss = true ∧ (s.view ss t).get? (t.key old) = some cur

section

variable {s : State Tbl} {ss : Session Tbl} {t : Tbl}
  {Q : Except PyExc Unit → State Tbl → Session Tbl → Prop}

/-- Saving an owned row always succeeds and stores the new version. -/
theorem wp_save_owned {old new : t.Row} (ho : Owns s ss t old) (hk : t.key old = t.key new)
    (h : ∀ s', Extends C s ss s' (ss.write (.put t new)) [.put t new] →
      Q (.ok ()) s' (ss.write (.put t new))) :
    wp C (save t old new) Q s ss := by
  refine (wp_bind _ _ _ _ _).mpr (wp_update_owned ho hk fun s' he => ?_)
  exact h s' he

/-- Saving a row that was read without a lock: the current version keeps the
    columns that were not changed. -/
theorem wp_save {old new : t.Row}
    (herr : ∀ name s' ss', Q (.error (.other name)) s' ss')
    (h : ∀ s' cur, C.Rely ss.locks s s' → C.Inv s' →
      C.stmt (.update t old new) s' ss = true → (s'.view ss t).get? (t.key old) = some cur →
      Q (.ok ()) s' (ss.write (.put t (t.merge old new cur)))) :
    wp C (save t old new) Q s ss := by
  refine (wp_bind _ _ _ _ _).mpr (wp_update (fun s' _ => ?_) fun s' cur hr hi hst hcur => ?_)
  · exact herr _ _ _
  · exact h s' cur hr hi hst hcur

theorem wp_create {r : t.Row}
    (herr : ∀ name s' ss', Q (.error (.other name)) s' ss')
    (h : ∀ s', Extends C s ss s' (ss.write (.put t r)) [.put t r] →
      (s'.view ss t).get? (t.key r) = none → Q (.ok ()) s' (ss.write (.put t r))) :
    wp C (create t r) Q s ss := by
  refine (wp_bind _ _ _ _ _).mpr (wp_insert (fun s' _ => ?_) fun s' he _ hfresh => ?_)
  · exact herr _ _ _
  · exact h s' he hfresh

end

/-! ## §2. Pure steps. -/

theorem scalarOneOrNone_of_length {l : List α} (h : l.length ≤ 1) :
    scalarOneOrNone l = .ret l.head? := by
  match l with
  | [] => rfl
  | [_] => rfl
  | _ :: _ :: _ => simp at h

theorem scalarOneOrNone_cases (l : List α) :
    (scalarOneOrNone l = .ret none ∧ l = []) ∨ (∃ a, scalarOneOrNone l = .ret (some a) ∧ l = [a])
      ∨ scalarOneOrNone l = .throw (.other "MultipleResultsFound") := by
  match l with
  | [] => exact Or.inl ⟨rfl, rfl⟩
  | [a] => exact Or.inr (Or.inl ⟨a, rfl, rfl⟩)
  | _ :: _ :: _ => exact Or.inr (Or.inr rfl)

theorem wp_scalarOneOrNone {s : State Tbl} {ss : Session Tbl} {l : List α}
    {Q : Except PyExc (Option α) → State Tbl → Session Tbl → Prop}
    (hnone : l = [] → Q (.ok none) s ss) (hsome : ∀ a, l = [a] → Q (.ok (some a)) s ss)
    (herr : Q (.error (.other "MultipleResultsFound")) s ss) :
    wp C (scalarOneOrNone l) Q s ss := by
  rcases scalarOneOrNone_cases l with ⟨h, hl⟩ | ⟨a, h, hl⟩ | h <;> rw [h]
  · exact hnone hl
  · exact hsome a hl
  · exact herr

/-- A query that expects at most one row. -/
theorem wp_selectOne {s : State Tbl} {ss : Session Tbl} {t : Tbl} {p : t.Row → Bool}
    {Q : Except PyExc (Option t.Row) → State Tbl → Session Tbl → Prop}
    (hnone : ∀ s', Extends C s ss s' ss [] → (∀ r ∈ (s'.view ss t).rows, p r = false) →
      Q (.ok none) s' ss)
    (hsome : ∀ s' r, Extends C s ss s' ss [] → (s'.view ss t).get? (t.key r) = some r →
      p r = true → Q (.ok (some r)) s' ss)
    (herr : ∀ s', Extends C s ss s' ss [] →
      Q (.error (.other "MultipleResultsFound")) s' ss) :
    wp C ((Prog.select t p : Db _).bind scalarOneOrNone) Q s ss := by
  refine (wp_bind _ _ _ _ _).mpr (wp_select fun s' he => wp_scalarOneOrNone
    (fun hl => hnone s' he fun r hr => ?_) (fun r hl => ?_) (herr s' he))
  · have hmem := List.filter_eq_nil_iff.mp hl r hr
    exact Bool.eq_false_iff.mpr hmem
  · have hmem : r ∈ (s'.view ss t).rows.filter p := by
      rw [hl]
      exact List.mem_singleton_self r
    exact hsome s' r he (Table.get?_of_mem (List.mem_of_mem_filter hmem))
      (List.mem_filter.mp hmem).2

/-- The same FOR UPDATE: the row that is found is owned from now on. -/
theorem wp_selectOneForUpdate {s : State Tbl} {ss : Session Tbl} {t : Tbl}
    {p : t.Row → Bool} {Q : Except PyExc (Option t.Row) → State Tbl → Session Tbl → Prop}
    (hnone : ∀ s' ss', Extends C s ss s' ss' [] → Q (.ok none) s' ss')
    (hsome : ∀ s' ids r, Extends C s ss s' (ss.lock ids) [] → Owns s' (ss.lock ids) t r →
      p r = true → Q (.ok (some r)) s' (ss.lock ids))
    (herr : ∀ s' ss', Extends C s ss s' ss' [] →
      Q (.error (.other "MultipleResultsFound")) s' ss') :
    wp C ((Prog.selectForUpdate t p : Db _).bind scalarOneOrNone) Q s ss := by
  refine (wp_bind _ _ _ _ _).mpr (wp_selectForUpdate fun s' ids he hown => ?_)
  refine wp_scalarOneOrNone (fun _ => hnone s' _ he) (fun r hl => ?_) (herr s' _ he)
  have hmem : r ∈ (s'.view ss t).rows.filter p := by
    rw [hl]
    exact List.mem_singleton_self r
  exact hsome s' ids r he (hown r hmem) (List.mem_filter.mp hmem).2

theorem wp_liftExcept {s : State Tbl} {ss : Session Tbl} {x : Except PyExc α}
    {Q : Except PyExc α → State Tbl → Session Tbl → Prop} (h : Q x s ss) :
    wp C (liftExcept x) Q s ss := by
  cases x <;> exact h

/-- A check that passes. -/
theorem wp_liftExcept_ok {s : State Tbl} {ss : Session Tbl} {x : Except PyExc α} {a : α}
    {Q : Except PyExc α → State Tbl → Session Tbl → Prop} (hx : x = .ok a) (h : Q (.ok a) s ss) :
    wp C (liftExcept x) Q s ss :=
  wp_liftExcept (hx ▸ h)

theorem quiet_scalarOneOrNone (l : List α) : Quiet (scalarOneOrNone l) := by
  rcases scalarOneOrNone_cases l with ⟨h, _⟩ | ⟨a, h, _⟩ | h <;> rw [h] <;> trivial

theorem reads_liftExcept (x : Except PyExc α) : Reads (liftExcept x) := by
  cases x <;> trivial

theorem quiet_toInt (x : PyFloat) : Quiet (liftExcept x.toInt) := by
  cases x <;> trivial

theorem quiet_time : Quiet time := ⟨rfl, fun _ => trivial⟩

theorem quiet_select {t : Tbl} (p : t.Row → Bool) : Quiet (Prog.select t p : Db _) :=
  ⟨rfl, fun _ => trivial⟩

theorem quiet_get {t : Tbl} (k : t.Key) : Quiet (Prog.get t k : Db _) :=
  ⟨rfl, fun _ => trivial⟩

theorem Quiet.reads {p : Db α} (h : Quiet p) : Reads p :=
  h.imp (fun _ => id) fun _ _ => trivial

/-! ## §3. Settings, counts and coupon checks only read. -/

theorem quiet_getCached (key : String) : Quiet (SettingService.getCached key) :=
  .bind (.bind (quiet_select _) fun _ => quiet_scalarOneOrNone _) fun _ => trivial

theorem quiet_getInt (rt : Runtime) (key : String) (default : Int) :
    Quiet (SettingService.getInt rt key default) := by
  refine .bind (quiet_getCached key) fun v => ?_
  cases v with
  | none => trivial
  | some val =>
    dsimp only
    cases rt.int_of_str val <;> trivial

theorem quiet_getJson (rt : Runtime) (key : String) (default : Json) :
    Quiet (SettingService.getJson rt key default) := by
  refine .bind (quiet_getCached key) fun v => ?_
  cases v with
  | none => trivial
  | some val =>
    dsimp only
    cases rt.orjson_loads val <;> trivial

theorem quiet_completedBefore (first_time_only user_id : Int) :
    Quiet (CommissionService.completedBefore first_time_only user_id) := by
  unfold CommissionService.completedBefore
  split
  · exact .bind (quiet_select _) fun _ => trivial
  · trivial

/-- A coupon that passes the validation is the one that was given to it. -/
theorem wp_validateCoupon {rt : Runtime} {s : State Tbl} {ss : Session Tbl} {c : Option Coupon}
    {user_id plan_id : Int} {period : String} {exclude : Option Int} (hi : C.Inv s)
    {Q : Except PyExc Coupon → State Tbl → Session Tbl → Prop}
    (hok : ∀ s' coupon, Extends C s ss s' ss [] → c = some coupon → Q (.ok coupon) s' ss)
    (herr : ∀ e s', Extends C s ss s' ss [] → Q (.error e) s' ss) :
    wp C (CouponService.validateCoupon rt c user_id plan_id period exclude) Q s ss := by
  unfold CouponService.validateCoupon
  cases c with
  | none => exact herr _ s (.refl hi)
  | some coupon =>
    refine wp_ite (fun _ => herr _ s (.refl hi)) fun _ => ?_
    refine (wp_bind _ _ _ _ _).mpr (wp_clock fun s₁ he₁ => ?_)
    refine (wp_bind _ _ _ _ _).mpr (wp_liftExcept ?_)
    split
    swap
    · exact herr _ s₁ he₁
    split
    · exact hok s₁ coupon he₁ rfl
    refine (wp_bind _ _ _ _ _).mpr ((wp_bind _ _ _ _ _).mpr (wp_select fun s₂ he₂ => ?_))
    exact wp_ite (fun _ => herr _ s₂ (he₁.trans he₂)) fun _ => hok s₂ coupon (he₁.trans he₂) rfl

/-- A discount is between zero and the amount. -/
theorem calculateDiscount_range {coupon : Coupon} {amount discount : Int} (hamount : 0 ≤ amount)
    (h : CouponService.calculateDiscount coupon amount = .ok discount) :
    0 ≤ discount ∧ discount ≤ amount := by
  have hclamp : ∀ d : Int, 0 ≤ max 0 (min amount d) ∧ max 0 (min amount d) ≤ amount := by
    intro d
    omega
  unfold CouponService.calculateDiscount at h
  split at h
  · cases h
    exact ⟨le_rfl, hamount⟩
  split at h
  · cases h
    exact hclamp _
  split at h
  · obtain ⟨d, -, hd⟩ := except_bind_ok h
    cases hd
    exact hclamp d
  · cases h

/-! ## §4. Stored settings. -/

/-- The stored value of a setting. -/
def storedSetting (settings : List Setting) (key : String) : Except PyExc (Option String) :=
  match settings.filter fun s => s.key = key with
  | [] => .ok none
  | [s] => .ok (some s.value)
  | _ => .error (.other "MultipleResultsFound")

/-- The integer that a stored setting stands for. -/
def intSetting (rt : Runtime) (settings : List Setting) (key : String) (default : Int) :
    Except PyExc Int := do
  match ← storedSetting settings key with
  | none => .ok default
  | some val =>
    match rt.int_of_str val with
    | some i => .ok i
    | none => .error (.value "invalid literal for int()")

theorem getInt_spec {rt : Runtime} {s : State Tbl} {ss : Session Tbl} (key : String)
    (default : Int) {Q : Except PyExc Int → State Tbl → Session Tbl → Prop}
    (hok : ∀ s' v, Extends C s ss s' ss [] →
      intSetting rt (s'.view ss .setting).rows key default = .ok v → Q (.ok v) s' ss)
    (herr : ∀ e s', Extends C s ss s' ss [] → e.isApp = false → Q (.error e) s' ss) :
    wp C (SettingService.getInt rt key default) Q s ss := by
  refine (wp_bind _ _ _ _ _).mpr ((wp_bind _ _ _ _ _).mpr ((wp_bind _ _ _ _ _).mpr
    (wp_select fun s' he => wp_scalarOneOrNone (fun hl => ?_) (fun a hl => ?_)
      (herr _ s' he rfl))))
  · refine hok s' default he ?_
    rw [intSetting, storedSetting, hl]
    rfl
  · have hstored : storedSetting (s'.view ss .setting).rows key = .ok (some a.value) := by
      rw [storedSetting, hl]
    have hint : intSetting rt (s'.view ss .setting).rows key default =
        match rt.int_of_str a.value with
        | some i => .ok i
        | none => .error (.value "invalid literal for int()") := by rw [intSetting, hstored]; rfl
    simp only [Prog.pure_eq, wp_ret, Option.map]
    cases hv : rt.int_of_str a.value with
    | none => exact herr _ s' he rfl
    | some v =>
      rw [hv] at hint
      exact hok s' v he hint

/-! ## §5. Users. -/

/-- Storing a user moves a quantity of this user, and of no other. -/
theorem User.put_moves (f : User → Int) {t : Table User.id} {cur r : User}
    (hcur : t.get? r.id = some cur) {k : Int} {u : User} (hu : t.get? k = some u) :
    ∃ u', (t.put r).get? k = some u' ∧ f u' = f u + if r.id = k then f r - f cur else 0 :=
  Table.get?_put_moves f r hcur hu

/-! ## §6. What has been read. -/

/-- The user with `id` `user_id` was read as `u` since the transaction began. -/
def SeenUser (C : Contract L Tbl) (user_id : Int) (u : User) (s' : State Tbl) : Prop :=
  ∃ s₁, C.Rely [] s₁ s' ∧ (s₁.db .users).get? user_id = some u

theorem SeenUser.rely {user_id : Int} {u : User} {s s' : State Tbl} (h : SeenUser C user_id u s)
    (hr : C.Rely [] s s') : SeenUser C user_id u s' := by
  obtain ⟨s₁, hr₁, hu⟩ := h
  exact ⟨s₁, hr₁.trans hr, hu⟩

/-- The row was stored at a moment since the transaction began. -/
def SeenRow (C : Contract L Tbl) (t : Tbl) (r : t.Row) (s' : State Tbl) : Prop :=
  ∃ s₁, C.Rely [] s₁ s' ∧ (s₁.db t).get? (t.key r) = some r

theorem SeenRow.rely {t : Tbl} {r : t.Row} {s s' : State Tbl} (h : SeenRow C t r s)
    (hr : C.Rely [] s s') : SeenRow C t r s' := by
  obtain ⟨s₁, hr₁, hget⟩ := h
  exact ⟨s₁, hr₁.trans hr, hget⟩

end PyBoard
