/-
  PyBoard.Python.Value — the Python values that the services compute with.

  Integers are `Int`.  A float is an exact rational rounded to the nearest
  double (`PyFloat.ofRat`), so that `int(amount * (value / 100))` and
  `int(total * rate / 100)` can be told apart.  Decoded JSON is `Json`, and
  what can be raised is `PyExc`: the error handlers only look at whether an
  exception is an `AppException`, a `ValueError` or something else.
-/
import Mathlib.Data.Rat.Floor

namespace PyBoard

/-! ## §1. Exceptions. -/

/-- A raised exception. -/
inductive PyExc
  /-- An `AppException` with its HTTP status and its detail. -/
  | app (status_code : Nat) (detail : String)
  /-- A `ValueError` or one of its subclasses. -/
  | value (msg : String)
  | other (name : String)
  deriving DecidableEq, Repr

/-- `isinstance(exc, AppException)`. -/
def PyExc.isApp : PyExc → Bool
  | .app .. => true
  | _ => false

def BadRequestException (detail : String) : PyExc := .app 400 detail
def UnauthorizedException (detail : String := "未登录或登录已过期") : PyExc := .app 401 detail
def ForbiddenException (detail : String := "无权限访问") : PyExc := .app 403 detail
def NotFoundException (detail : String) : PyExc := .app 404 detail
def ConflictException (detail : String) : PyExc := .app 409 detail

/-- A sequence that returns went through its first part. -/
theorem except_bind_ok {ε α β : Type} {x : Except ε α} {f : α → Except ε β} {b : β}
    (h : (x >>= f) = .ok b) : ∃ a, x = .ok a ∧ f a = .ok b := by
  cases x with
  | error e => cases h
  | ok a => exact ⟨a, rfl, h⟩

/-- The results of a list are those of its items, one each. -/
theorem forall₂_of_mapM_ok {ε α β : Type} {f : α → Except ε β} {l : List α} {l' : List β}
    (h : l.mapM f = .ok l') : List.Forall₂ (fun a b => f a = .ok b) l l' := by
  induction l generalizing l' with
  | nil =>
      cases h
      exact .nil
  | cons a l ih =>
      rw [List.mapM_cons] at h
      obtain ⟨b', hb', h⟩ := except_bind_ok h
      obtain ⟨l'', hl'', h⟩ := except_bind_ok h
      injection h with h
      rw [← h]
      exact .cons hb' (ih hl'')

/-- Every item of the second list has one of the first. -/
theorem exists_mem_of_forall₂ {α β : Type} {R : α → β → Prop} {l : List α} {l' : List β}
    (h : List.Forall₂ R l l') {b : β} (hb : b ∈ l') : ∃ a ∈ l, R a b := by
  induction h with
  | nil => cases hb
  | cons hfirst _ ih =>
    rcases List.mem_cons.mp hb with rfl | hmem
    · exact ⟨_, List.mem_cons_self, hfirst⟩
    · obtain ⟨a, ha, hab⟩ := ih hmem
      exact ⟨a, List.mem_cons_of_mem _ ha, hab⟩

/-- The results of a list come from its items. -/
theorem mem_of_mapM_ok {ε α β : Type} {f : α → Except ε β} {l : List α} {l' : List β}
    (h : l.mapM f = .ok l') {b : β} (hb : b ∈ l') : ∃ a ∈ l, f a = .ok b :=
  exists_mem_of_forall₂ (forall₂_of_mapM_ok h) hb

/-- A list returns exactly when each of its items does. -/
theorem mapM_isOk_iff {ε α β : Type} {f : α → Except ε β} {l : List α} :
    (∃ l', l.mapM f = .ok l') ↔ ∀ a ∈ l, ∃ b, f a = .ok b := by
  constructor
  · rintro ⟨l', h⟩
    have hall := forall₂_of_mapM_ok h
    clear h
    induction hall with
    | nil => simp
    | cons hfirst _ ih => exact List.forall_mem_cons.mpr ⟨⟨_, hfirst⟩, ih⟩
  · intro h
    induction l with
    | nil => exact ⟨[], rfl⟩
    | cons a l ih =>
        obtain ⟨b, hb⟩ := h a List.mem_cons_self
        obtain ⟨l', hl'⟩ := ih fun a' ha' => h a' (List.mem_cons_of_mem _ ha')
        rw [List.mapM_cons, hb]
        exact ⟨b :: l', by rw [hl']; rfl⟩

/-- What a list raises comes from one of its items. -/
theorem mem_of_mapM_error {ε α β : Type} {f : α → Except ε β} {l : List α} {e : ε}
    (h : l.mapM f = .error e) : ∃ a ∈ l, f a = .error e := by
  induction l with
  | nil => cases h
  | cons a l ih =>
      rw [List.mapM_cons] at h
      cases hfa : f a with
      | error e' =>
          rw [hfa] at h
          cases h
          exact ⟨a, List.mem_cons_self, hfa⟩
      | ok b =>
          rw [hfa] at h
          cases hrest : l.mapM f with
          | error e' =>
              rw [hrest] at h
              cases h
              obtain ⟨a', ha', hfa'⟩ := ih hrest
              exact ⟨a', List.mem_cons_of_mem _ ha', hfa'⟩
          | ok l' =>
              rw [hrest] at h
              cases h

/-! ## §2. Floats. -/

/-- A double.  The sign of zero is not kept: nothing here depends on it. -/
inductive PyFloat
  | finite (q : Rat)
  | inf (negative : Bool)
  | nan
  deriving DecidableEq, Repr

/-- Two to an integer power. -/
def pow2 (e : Int) : Rat := if 0 ≤ e then 2 ^ e.toNat else 1 / 2 ^ (-e).toNat

/-- The exponent of the binade of a positive rational. -/
def binade (q : Rat) : Int :=
  let e : Int := (q.num.natAbs.log2 : Int) - (q.den.log2 : Int)
  if pow2 e ≤ q then e else e - 1

/-- The nearest integer, ties to even. -/
def roundHalfEven (q : Rat) : Int :=
  let f := q.floor
  let r := q - f
  if r < 1 / 2 then f else if 1 / 2 < r then f + 1 else if f % 2 = 0 then f else f + 1

/-- The double nearest to a rational. -/
def PyFloat.ofRat (q : Rat) : PyFloat :=
  if q = 0 then .finite 0
  else
    let ulp := pow2 (max (binade |q|) (-1022) - 52)
    let r := roundHalfEven (q / ulp) * ulp
    if pow2 1024 ≤ |r| then .inf (q < 0) else .finite r

/-- `a / b` of two integers. -/
def PyFloat.divInt (a b : Int) : PyFloat := .ofRat (a / b)

/-- `a * x` of an integer and a float. -/
def PyFloat.mulInt (a : Int) : PyFloat → PyFloat
  | .finite q =>
      match PyFloat.ofRat a with
      | .finite a' => .ofRat (a' * q)
      | x => if q = 0 then .nan else x
  | .inf s => if a = 0 then .nan else .inf (s != decide (a < 0))
  | .nan => .nan

/-- `x + y`. -/
def PyFloat.add : PyFloat → PyFloat → PyFloat
  | .finite a, .finite b => .ofRat (a + b)
  | .finite _, .inf s => .inf s
  | .inf s, .finite _ => .inf s
  | .inf s, .inf s' => if s = s' then .inf s else .nan
  | _, _ => .nan

/-- `x / b` of a float and an integer. -/
def PyFloat.overInt (x : PyFloat) (b : Int) : PyFloat :=
  match x with
  | .finite q => .ofRat (q / b)
  | x => x

/-- `int(x)`: truncation towards zero. -/
def PyFloat.toInt : PyFloat → Except PyExc Int
  | .finite q => .ok (q.num.tdiv q.den)
  | .nan => .error (.value "cannot convert float NaN to integer")
  | .inf _ => .error (.other "OverflowError")

/-! ## §3. Decoded JSON. -/

/-- What `orjson.loads` and the JSONB codec produce. -/
inductive Json
  | null
  | bool (b : Bool)
  | int (i : Int)
  | float (x : PyFloat)
  | str (s : String)
  | arr (items : List Json)
  | obj (fields : List (String × Json))

/-- The value under a key of a dict; a later binding of the same key wins, as
    when a decoder builds the dict. -/
def Json.lookup (fields : List (String × Json)) (k : String) : Option Json :=
  (fields.reverse.find? fun f => f.1 = k).map (·.2)

/-- `bool(value)`. -/
def Json.truthy : Json → Bool
  | .null => false
  | .bool b => b
  | .int i => i ≠ 0
  | .float x => x ≠ .finite 0
  | .str s => s ≠ ""
  | .arr l => !l.isEmpty
  | .obj l => !l.isEmpty

/-! ## §4. Equality of JSON values. -/

mutual

/-- Are two values equal? -/
def Json.beq : Json → Json → Bool
  | .null, .null => true
  | .bool a, .bool b => a = b
  | .int a, .int b => a = b
  | .float a, .float b => a = b
  | .str a, .str b => a = b
  | .arr l, .arr l' => Json.beqItems l l'
  | .obj l, .obj l' => Json.beqFields l l'
  | _, _ => false

def Json.beqItems : List Json → List Json → Bool
  | [], [] => true
  | a :: l, b :: l' => a.beq b && Json.beqItems l l'
  | _, _ => false

def Json.beqFields : List (String × Json) → List (String × Json) → Bool
  | [], [] => true
  | (k, a) :: l, (k', b) :: l' => k = k' && a.beq b && Json.beqFields l l'
  | _, _ => false

end

mutual

theorem Json.beq_iff : (a b : Json) → (a.beq b = true ↔ a = b)
  | .arr l, b => by
      cases b <;> simp [Json.beq, Json.beqItems_iff]
  | .obj l, b => by
      cases b <;> simp [Json.beq, Json.beqFields_iff]
  | .null, b => by cases b <;> simp [Json.beq]
  | .bool _, b => by cases b <;> simp [Json.beq]
  | .int _, b => by cases b <;> simp [Json.beq]
  | .float _, b => by cases b <;> simp [Json.beq]
  | .str _, b => by cases b <;> simp [Json.beq]

theorem Json.beqItems_iff : (l l' : List Json) → (Json.beqItems l l' = true ↔ l = l')
  | [], l' => by cases l' <;> simp [Json.beqItems]
  | a :: l, l' => by
      cases l' with
      | nil => simp [Json.beqItems]
      | cons b l' => simp [Json.beqItems, Json.beq_iff a b, Json.beqItems_iff l l']

theorem Json.beqFields_iff :
    (l l' : List (String × Json)) → (Json.beqFields l l' = true ↔ l = l')
  | [], l' => by cases l' <;> simp [Json.beqFields]
  | (k, a) :: l, l' => by
      cases l' with
      | nil => simp [Json.beqFields]
      | cons f l' =>
          simp [Json.beqFields, Prod.ext_iff, Json.beq_iff a f.2, Json.beqFields_iff l l']

end

instance : DecidableEq Json := fun a b => decidable_of_iff _ (Json.beq_iff a b)

end PyBoard
