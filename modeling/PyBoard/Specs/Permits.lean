/-
  PyBoard.Specs.Permits — what a request may do to the accounts.

  A `Permit` names the rows that a request may create, edit or remove, the columns that it
  may change, and the values that may get into the columns that decide about access.  An
  UPDATE changes the columns in which two versions of an account differ (`User.blank_merge`),
  so it keeps to a permit whatever version it meets (`Editing.allows_merge`).

  Main definitions:
    * `User.Column`, `User.blank`.
    * `Editing`, `Permit`, `Permit.policy`.
-/
import PyBoard.Models.Schema
import PyBoard.Relational.Changes

namespace PyBoard

open Relational

/-! ## §1. Columns. -/

/-- The columns of an account besides its identifier. -/
inductive User.Column
  | email | password | token | invite_user_id | telegram_id | balance | discount
  | commission_type | commission_rate | commission_balance | t | u | d | transfer_enable
  | group_id | plan_id | speed_limit | device_limit | banned | is_admin | is_staff
  | auto_renewal | remind_expire | remind_traffic | last_login_at | last_login_ip | uuid
  | expired_at | remarks
  deriving DecidableEq

/-- The account without the contents of some columns. -/
def User.blank (cols : List User.Column) (a : User) : User where
  id := a.id
  email := if .email ∈ cols then "" else a.email
  password := if .password ∈ cols then "" else a.password
  token := if .token ∈ cols then "" else a.token
  invite_user_id := if .invite_user_id ∈ cols then none else a.invite_user_id
  telegram_id := if .telegram_id ∈ cols then none else a.telegram_id
  balance := if .balance ∈ cols then 0 else a.balance
  discount := if .discount ∈ cols then none else a.discount
  commission_type := if .commission_type ∈ cols then 0 else a.commission_type
  commission_rate := if .commission_rate ∈ cols then none else a.commission_rate
  commission_balance := if .commission_balance ∈ cols then 0 else a.commission_balance
  t := if .t ∈ cols then 0 else a.t
  u := if .u ∈ cols then 0 else a.u
  d := if .d ∈ cols then 0 else a.d
  transfer_enable := if .transfer_enable ∈ cols then 0 else a.transfer_enable
  group_id := if .group_id ∈ cols then none else a.group_id
  plan_id := if .plan_id ∈ cols then none else a.plan_id
  speed_limit := if .speed_limit ∈ cols then none else a.speed_limit
  device_limit := if .device_limit ∈ cols then none else a.device_limit
  banned := if .banned ∈ cols then false else a.banned
  is_admin := if .is_admin ∈ cols then false else a.is_admin
  is_staff := if .is_staff ∈ cols then false else a.is_staff
  auto_renewal := if .auto_renewal ∈ cols then 0 else a.auto_renewal
  remind_expire := if .remind_expire ∈ cols then 0 else a.remind_expire
  remind_traffic := if .remind_traffic ∈ cols then 0 else a.remind_traffic
  last_login_at := if .last_login_at ∈ cols then none else a.last_login_at
  last_login_ip := if .last_login_ip ∈ cols then none else a.last_login_ip
  uuid := if .uuid ∈ cols then "" else a.uuid
  expired_at := if .expired_at ∈ cols then none else a.expired_at
  remarks := if .remarks ∈ cols then none else a.remarks

/-- A column of an UPDATE whose versions agree unless the column is blank. -/
theorem column_blank {α : Type} [DecidableEq α] {c : Prop} [Decidable c] {x old new cur : α}
    (h : (if c then x else new) = if c then x else old) :
    (if c then x else column old new cur) = if c then x else cur := by
  by_cases hc : c
  · simp only [hc, if_true]
  · simp only [hc, if_false] at h ⊢
    rw [h]
    simp [column]

/-- **An UPDATE changes no column in which its versions agree.** -/
theorem User.blank_merge {cols : List User.Column} {old new : User}
    (h : new.blank cols = old.blank cols) (cur : User) :
    (User.merge old new cur).blank cols = cur.blank cols := by
  simp only [User.blank, User.mk.injEq] at h
  obtain ⟨-, h₁, h₂, h₃, h₄, h₅, h₆, h₇, h₈, h₉, h₁₀, h₁₁, h₁₂, h₁₃, h₁₄, h₁₅, h₁₆, h₁₇, h₁₈, h₁₉,
    h₂₀, h₂₁, h₂₂, h₂₃, h₂₄, h₂₅, h₂₆, h₂₇, h₂₈, h₂₉⟩ := h
  simp only [User.blank, User.merge, User.mk.injEq]
  exact ⟨trivial, column_blank h₁, column_blank h₂, column_blank h₃, column_blank h₄,
    column_blank h₅,
    column_blank h₆, column_blank h₇, column_blank h₈, column_blank h₉, column_blank h₁₀,
    column_blank h₁₁, column_blank h₁₂, column_blank h₁₃, column_blank h₁₄, column_blank h₁₅,
    column_blank h₁₆, column_blank h₁₇, column_blank h₁₈, column_blank h₁₉, column_blank h₂₀,
    column_blank h₂₁, column_blank h₂₂, column_blank h₂₃, column_blank h₂₄, column_blank h₂₅,
    column_blank h₂₆, column_blank h₂₇, column_blank h₂₈, column_blank h₂₉⟩

/-- A column that is not blank. -/
theorem User.eq_of_blank {β : Type} {cols : List User.Column} {a b : User} (f : User → β)
    (h : a.blank cols = b.blank cols) (hf : ∀ a : User, f (a.blank cols) = f a) : f a = f b := by
  rw [← hf a, ← hf b, h]

theorem User.id_of_blank {cols : List User.Column} {a b : User}
    (h : a.blank cols = b.blank cols) : a.id = b.id := eq_of_blank User.id h fun _ => rfl

/-! ## §2. Permits. -/

/-- The columns of one account, and what may get into them. -/
structure Editing where
  account : Int
  columns : List User.Column
  password : String → Prop := fun _ => False
  admin : Prop := False
  staff : Prop := False

/-- May the account `r` become `r'`? -/
structure Editing.Allows (e : Editing) (r r' : User) : Prop where
  others : r.id ≠ e.account → r' = r
  columns : r'.blank e.columns = r.blank e.columns
  password : r'.password = r.password ∨ e.password r'.password
  admin : r'.is_admin = true → r.is_admin = true ∨ e.admin
  staff : r'.is_staff = true → r.is_staff = true ∨ e.staff

/-- What a request may do to the accounts. -/
inductive Permit
  | creating (P : User → Prop)
  | editing (e : Editing)
  | deleting (user_id : Int)

def Permit.policy : Permit → Policy User
  | .creating P => { create := P, edit := fun r r' => r' = r, remove := fun _ => False }
  | .editing e => { create := fun _ => False, edit := e.Allows, remove := fun _ => False }
  | .deleting user_id =>
      { create := fun _ => False
        edit := fun r r' => r'.blank [.invite_user_id] = r.blank [.invite_user_id]
        remove := fun r => r.id = user_id }

theorem Editing.Allows.refl (e : Editing) (r : User) : e.Allows r r :=
  ⟨fun _ => rfl, rfl, Or.inl rfl, Or.inl, Or.inl⟩

theorem Editing.Allows.trans {e : Editing} {r₁ r₂ r₃ : User} (h₁ : e.Allows r₁ r₂)
    (h₂ : e.Allows r₂ r₃) : e.Allows r₁ r₃ where
  others h := by
    have h₁₂ : r₂ = r₁ := h₁.others h
    rw [← h₁₂] at h ⊢
    exact h₂.others h
  columns := h₂.columns.trans h₁.columns
  password := by
    cases h₂.password with
    | inl hsame =>
      rw [hsame]
      exact h₁.password
    | inr hnew => exact Or.inr hnew
  admin h := by
    cases h₂.admin h with
    | inl h' => exact h₁.admin h'
    | inr h' => exact Or.inr h'
  staff h := by
    cases h₂.staff h with
    | inl h' => exact h₁.staff h'
    | inr h' => exact Or.inr h'

theorem Permit.lawful (P : Permit) : P.policy.Lawful := by
  cases P with
  | creating P =>
    constructor
    · intro r
      rfl
    · intro r₁ r₂ r₃ h₁ h₂
      exact h₂.trans h₁
    · intro r r' h heq
      rw [show r' = r from heq]
      exact h
    · intro r r' _ h
      exact h.elim
    · intro r r' h _
      exact h.elim
  | editing e =>
    constructor
    · exact Editing.Allows.refl e
    · exact Editing.Allows.trans
    · intro r r' h _
      exact h.elim
    · intro r r' _ h
      exact h.elim
    · intro r r' h _
      exact h.elim
  | deleting user_id =>
    constructor
    · intro r
      rfl
    · intro r₁ r₂ r₃ h₁ h₂
      exact h₂.trans h₁
    · intro r r' h _
      exact h.elim
    · intro r r' h hid
      exact (User.id_of_blank h).symm.trans hid
    · intro r r' _ h
      exact h.elim

/-- **The UPDATE of an account** keeps to the permit if its versions do. -/
theorem Editing.allows_merge {e : Editing} {old new : User} (hid : old.id = e.account)
    (h : e.Allows old new) (cur : User) (hcur : cur.id = old.id) :
    e.Allows cur (User.merge old new cur) where
  others hne := absurd (hcur.trans hid) hne
  columns := User.blank_merge h.columns cur
  password := by
    show column old.password new.password cur.password = _ ∨
      e.password (column old.password new.password cur.password)
    unfold column
    split
    · exact Or.inl rfl
    · next hne => exact Or.inr (h.password.resolve_left fun heq => hne heq.symm)
  admin := by
    show column old.is_admin new.is_admin cur.is_admin = true → _
    unfold column
    split
    · exact Or.inl
    · next hne =>
      intro hnew
      cases h.admin hnew with
      | inl hold => exact absurd (hold.trans hnew.symm) hne
      | inr hadmin => exact Or.inr hadmin
  staff := by
    show column old.is_staff new.is_staff cur.is_staff = true → _
    unfold column
    split
    · exact Or.inl
    · next hne =>
      intro hnew
      cases h.staff hnew with
      | inl hold => exact absurd (hold.trans hnew.symm) hne
      | inr hstaff => exact Or.inr hstaff

end PyBoard
