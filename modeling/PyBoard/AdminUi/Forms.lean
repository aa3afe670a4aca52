/-
  PyBoard.AdminUi.Forms — the edit forms of users, coupons and gift cards.

  A form is converted field by field; every field that a form has is sent, also when it is
  empty.  Of the fragments that show a row for editing only the inputs of its dates are kept.
-/
import PyBoard.AdminUi.Deps
import PyBoard.Services.Codes
import PyBoard.Services.User

namespace PyBoard.AdminUi

open UserService CouponService GiftcardService

variable (rt : Runtime)

/-! ## §1. Users. -/

/-- `_datetime_or_original`. -/
def datetimeOrOriginal (value original : Option String) : Except PyExc (Option Int) :=
  if rt.strip (orEmpty value) ≠ "" then datetimeOrNone rt value else intOrNone rt original

def userUpdateFromForm (form : Form) : Except PyExc UserUpdate := do
  return {
    email := some (blankNone rt (form.get "email"))
    password := some (blankNone rt (form.get "password"))
    balance := some (← intOrNone rt (form.get "balance"))
    transfer_enable := some (← intOrNone rt (form.get "transfer_enable"))
    device_limit := some (← intOrNone rt (form.get "device_limit"))
    speed_limit := some (← intOrNone rt (form.get "speed_limit"))
    group_id := some (← intOrNone rt (form.get "group_id"))
    plan_id := some (← intOrNone rt (form.get "plan_id"))
    discount := some (← intOrNone rt (form.get "discount"))
    commission_rate := some (← intOrNone rt (form.get "commission_rate"))
    expired_at :=
      some (← datetimeOrOriginal rt (form.get "expired_at") (form.get "expired_at_original"))
    remarks := some (blankNone rt (form.get "remarks"))
    banned := some (some (asBool rt (form.get "banned")))
    is_admin := some (some (asBool rt (form.get "is_admin")))
    is_staff := some (some (asBool rt (form.get "is_staff"))) }

/-- A value of an optional column. -/
def jsonOfInt : Option Int → Json
  | none => .null
  | some i => .int i

/-- The inputs of the dates in `user_form.html.j2`. -/
def userDateInputs (user : User) : Except PyExc Form := do
  return [("expired_at_original", rt.str (jsonOfInt user.expired_at)),
    ("expired_at", ← datetimeInputValue rt (jsonOfInt user.expired_at))]

/-! ## §2. Coupons and gift cards. -/

/-- A text, or nothing, in a field that may also hold a list. -/
def jsonOfText : Option String → Json
  | none => .null
  | some text => .str text

def couponUpdateFromForm (form : Form) : Except PyExc CouponUpdate := do
  return {
    code := some (blankNone rt (form.get "code"))
    name := some (blankNone rt (form.get "name"))
    type := some (← intOrNone rt (form.get "type"))
    value := some (← intOrNone rt (form.get "value"))
    «show» := some (some (asBool rt (form.get "show")))
    limit_use := some (← intOrNone rt (form.get "limit_use"))
    limit_use_with_user := some (← intOrNone rt (form.get "limit_use_with_user"))
    limit_plan_ids := some (jsonOfText (blankNone rt (form.get "limit_plan_ids")))
    limit_period := some (jsonOfText (blankNone rt (form.get "limit_period")))
    started_at := some (← datetimeOrNone rt (form.get "started_at"))
    ended_at := some (← datetimeOrNone rt (form.get "ended_at")) }

def giftcardUpdateFromForm (form : Form) : Except PyExc GiftcardUpdate := do
  return {
    code := some (blankNone rt (form.get "code"))
    name := some (blankNone rt (form.get "name"))
    type := some (← intOrNone rt (form.get "type"))
    value := some (← intOrNone rt (form.get "value"))
    plan_id := some (← intOrNone rt (form.get "plan_id"))
    limit_use := some (← intOrNone rt (form.get "limit_use"))
    used_user_ids := some (blankNone rt (form.get "used_user_ids"))
    started_at := some (← datetimeOrNone rt (form.get "started_at"))
    ended_at := some (← datetimeOrNone rt (form.get "ended_at")) }

/-- The inputs of the dates in `coupon_form.html.j2` and `giftcard_form.html.j2`. -/
def spanInputs (started_at ended_at : Int) : Except PyExc Form := do
  return [("started_at", ← datetimeInputValue rt (.int started_at)),
    ("ended_at", ← datetimeInputValue rt (.int ended_at))]

/-- A form has inputs with their values. -/
def Form.Shows (form inputs : Form) : Prop := ∀ i ∈ inputs, form.get i.1 = some i.2

end PyBoard.AdminUi
