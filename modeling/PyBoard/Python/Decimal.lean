/-
  PyBoard.Python.Decimal — the decimal numbers of the module `decimal`.

  A finite decimal is `coefficient * 10 ^ exponent`.  An operation computes the exact
  result and rounds it to 28 significant digits, half to even, as the default
  context does.

  Main result: `fix_quantizeUnit_isOk_iff`, the results that can be rounded to the unit.
-/
import Mathlib.Tactic.Ring
import Mathlib.Tactic.Positivity
import PyBoard.Python.Value

namespace PyBoard

/-- A `Decimal`. -/
inductive Decimal
  | finite (coefficient exponent : Int)
  | infinity
  | nan
  deriving DecidableEq, Repr

namespace Decimal

/-- The precision of the default context. -/
def prec : Nat := 28

/-- The number of decimal digits. -/
def digits (n : Nat) : Nat := (Nat.toDigits 10 n).length

/-- `n / 10 ^ k`, rounded half to even. -/
def roundHalfEven (n k : Nat) : Nat :=
  let q := n / 10 ^ k
  let r := n % 10 ^ k
  if 10 ^ k < 2 * r ∨ (2 * r = 10 ^ k ∧ q % 2 = 1) then q + 1 else q

/-- A result in the precision of the context. -/
def fix (coefficient exponent : Int) : Decimal :=
  let excess := digits coefficient.natAbs - prec
  .finite (coefficient.sign * roundHalfEven coefficient.natAbs excess) (exponent + excess)

/-- `Decimal(n)`. -/
def ofInt (n : Int) : Decimal := .finite n 0

/-- `x * y`; zero times infinity is an invalid operation. -/
def mul : Decimal → Decimal → Except PyExc Decimal
  | .finite c e, .finite c' e' => .ok (fix (c * c') (e + e'))
  | .nan, _ => .ok .nan
  | _, .nan => .ok .nan
  | .finite 0 _, .infinity => .error (.other "InvalidOperation")
  | .infinity, .finite 0 _ => .error (.other "InvalidOperation")
  | _, _ => .ok .infinity

/-- `int(x)` truncates toward zero. -/
def toInt : Decimal → Except PyExc Int
  | .finite c e => .ok (if 0 ≤ e then c * 10 ^ e.toNat else c.tdiv (10 ^ (-e).toNat))
  | .infinity => .error (.other "OverflowError")
  | .nan => .error (.value "cannot convert NaN to integer")

/-- The magnitude of `coefficient * 10 ^ exponent`, rounded half up to an integer. -/
def roundHalfUp (coefficient exponent : Int) : Nat :=
  if 0 ≤ exponent then coefficient.natAbs * 10 ^ exponent.toNat
  else
    let unit := 10 ^ (-exponent).toNat
    let q := coefficient.natAbs / unit
    if unit ≤ 2 * (coefficient.natAbs % unit) then q + 1 else q

/-- `x.quantize(Decimal("1"), rounding=ROUND_HALF_UP)`; a result beyond the precision is an
    invalid operation. -/
def quantizeUnit : Decimal → Except PyExc Decimal
  | .finite c e =>
      let n := roundHalfUp c e
      if prec < digits n then .error (.other "InvalidOperation")
      else .ok (.finite (c.sign * n) 0)
  | .infinity => .error (.other "InvalidOperation")
  | .nan => .ok .nan

/-- `x < 0`; a comparison with NaN is an invalid operation.  The sign of infinity is not kept:
    no infinity is compared. -/
def isNegative : Decimal → Except PyExc Bool
  | .finite c _ => .ok (c < 0)
  | .infinity => .ok false
  | .nan => .error (.other "InvalidOperation")

/-! Which results have a unit. -/

theorem digits_le_iff {n k : Nat} (hk : 0 < k) : digits n ≤ k ↔ n < 10 ^ k :=
  Nat.length_toDigits_le_iff (by decide) hk

/-- A number rounds below a power of ten exactly if it is below the middle of the last step:
    the tie goes to the power, which is even. -/
theorem roundHalfEven_lt_iff {n k p : Nat} (hp : 0 < p) :
    roundHalfEven n k < 10 ^ p ↔ 2 * n < (2 * 10 ^ p - 1) * 10 ^ k := by
  obtain ⟨m, hm, heven⟩ : ∃ m, 0 < m ∧ 10 ^ p = 2 * m := by
    obtain ⟨j, rfl⟩ : ∃ j, p = j + 1 := ⟨p - 1, by omega⟩
    exact ⟨5 * 10 ^ j, by positivity, by ring⟩
  have hu : 0 < 10 ^ k := Nat.pow_pos (by decide)
  have hsplit := Nat.div_add_mod n (10 ^ k)
  have hrest := Nat.mod_lt n hu
  unfold roundHalfEven
  rw [heven]
  clear heven
  generalize n / 10 ^ k = q at *
  generalize n % 10 ^ k = r at *
  generalize 10 ^ k = u at *
  dsimp only
  have hodd : (2 * (2 * m) - 1) * u = 2 * (u * (2 * m - 1)) + u := by
    obtain ⟨j, rfl⟩ : ∃ j, m = j + 1 := ⟨m - 1, by omega⟩
    rw [show 2 * (2 * (j + 1)) - 1 = 4 * j + 3 by omega, show 2 * (j + 1) - 1 = 2 * j + 1 by omega]
    ring
  rw [hodd]
  -- the quotient below, at and above the last step
  rcases Nat.lt_trichotomy q (2 * m - 1) with hlow | hlast | hhigh
  · have hmul : u * (q + 1) ≤ u * (2 * m - 1) := Nat.mul_le_mul_left u (by omega)
    rw [Nat.mul_succ] at hmul
    split <;> omega
  · rw [← hlast]
    split <;> omega
  · have hmul : u * (2 * m - 1 + 1) ≤ u * q := Nat.mul_le_mul_left u (by omega)
    rw [Nat.mul_succ] at hmul
    split <;> omega

theorem le_roundHalfEven {n k a : Nat} (h : a * 10 ^ k ≤ n) : a ≤ roundHalfEven n k := by
  have hle : a ≤ n / 10 ^ k := (Nat.le_div_iff_mul_le (Nat.pow_pos (by decide))).mpr h
  unfold roundHalfEven
  dsimp only
  split <;> omega

theorem roundHalfEven_le {n k a : Nat} (h : n < a * 10 ^ k) : roundHalfEven n k ≤ a := by
  have hlt : n / 10 ^ k < a := (Nat.div_lt_iff_lt_mul (Nat.pow_pos (by decide))).mpr h
  unfold roundHalfEven
  dsimp only
  split <;> omega

theorem natAbs_sign_mul (x : Int) (k : Nat) :
    (x.sign * (roundHalfEven x.natAbs k : Int)).natAbs = roundHalfEven x.natAbs k := by
  rw [Int.natAbs_mul, Int.natAbs_natCast]
  by_cases hx : x = 0
  · have hzero : roundHalfEven 0 k = 0 := by
      have hu : 0 < 10 ^ k := Nat.pow_pos (by decide)
      unfold roundHalfEven
      rw [Nat.zero_div, Nat.zero_mod]
      dsimp only
      rw [if_neg (by omega)]
    rw [hx]
    exact hzero ▸ Nat.mul_zero _
  · rw [Int.natAbs_sign_of_ne_zero hx, Nat.one_mul]

theorem quantizeUnit_isOk_iff (c e : Int) :
    (∃ y, (Decimal.finite c e).quantizeUnit = .ok y) ↔ roundHalfUp c e < 10 ^ prec := by
  rw [← digits_le_iff (by decide)]
  unfold quantizeUnit
  dsimp only
  split
  · next hmany =>
    refine ⟨?_, fun hfew => absurd hfew (by omega)⟩
    rintro ⟨_, h⟩
    cases h
  · next hfew => exact ⟨fun _ => by omega, fun _ => ⟨_, rfl⟩⟩

/-- A number of few digits is rounded below the next power when digits are dropped. -/
theorem roundHalfUp_lt {c e : Int} {p : Nat} (hp : 0 < p) (he : e < 0) (hc : c.natAbs ≤ 10 ^ p) :
    roundHalfUp c e < 10 ^ p := by
  unfold roundHalfUp
  rw [if_neg (by omega)]
  obtain ⟨j, hj⟩ : ∃ j, (-e).toNat = j + 1 := ⟨(-e).toNat - 1, by omega⟩
  obtain ⟨i, rfl⟩ : ∃ i, p = i + 1 := ⟨p - 1, by omega⟩
  have hi : 0 < 10 ^ i := Nat.pow_pos (by decide)
  have hq : c.natAbs / 10 ^ (j + 1) ≤ 10 ^ i := by
    calc c.natAbs / 10 ^ (j + 1) ≤ c.natAbs / 10 :=
          Nat.div_le_div_left (Nat.le_self_pow (by omega) 10) (by decide)
      _ ≤ 10 ^ (i + 1) / 10 := Nat.div_le_div_right hc
      _ = 10 ^ i := by rw [Nat.pow_succ, Nat.mul_div_cancel _ (by decide)]
  rw [hj]
  dsimp only
  rw [Nat.pow_succ 10 i]
  split <;> omega

/-- **A result in the precision can be quantized to the unit** exactly if it is below the
    middle of the last step before `10 ^ prec`. -/
theorem fix_quantizeUnit_isOk_iff (x e : Int) :
    (∃ y, (fix x e).quantizeUnit = .ok y) ↔
      2 * x.natAbs * 10 ^ e.toNat < (2 * 10 ^ prec - 1) * 10 ^ (-e).toNat := by
  unfold fix
  dsimp only
  rw [quantizeUnit_isOk_iff]
  have hprec : 0 < prec := by decide
  have habs := natAbs_sign_mul x (digits x.natAbs - prec)
  generalize hc : x.sign * (roundHalfEven x.natAbs (digits x.natAbs - prec) : Int) = c at *
  clear hc
  by_cases hfew : digits x.natAbs ≤ prec
  · -- no digit is dropped
    rw [Nat.sub_eq_zero_of_le hfew] at *
    have hsame : roundHalfEven x.natAbs 0 = x.natAbs := by
      unfold roundHalfEven
      rw [Nat.pow_zero, Nat.div_one, Nat.mod_one]
      rfl
    have hlt := (digits_le_iff hprec).mp hfew
    rw [hsame] at habs
    rw [show e + ((0 : Nat) : Int) = e by omega]
    rcases Int.lt_or_le e 0 with hneg | hpos
    · have hleft : roundHalfUp c e < 10 ^ prec := roundHalfUp_lt hprec hneg (by omega)
      rw [iff_true_left hleft, Int.toNat_of_nonpos hneg.le, Nat.pow_zero, Nat.mul_one]
      have hten : 10 ≤ 10 ^ (-e).toNat := Nat.le_self_pow (by omega) 10
      calc 2 * x.natAbs < (2 * 10 ^ prec - 1) * 10 := by omega
        _ ≤ (2 * 10 ^ prec - 1) * 10 ^ (-e).toNat := Nat.mul_le_mul_left _ hten
    · unfold roundHalfUp
      rw [if_pos hpos, habs, Int.toNat_of_nonpos (by omega : -e ≤ 0), Nat.pow_zero, Nat.mul_one,
        Nat.mul_assoc]
      omega
  · -- a digit is dropped: the coefficient has all digits of the precision
    obtain ⟨k, hk, hkpos⟩ : ∃ k, digits x.natAbs - prec = k ∧ 0 < k := ⟨_, rfl, by omega⟩
    rw [hk] at habs ⊢
    have hhigh : x.natAbs < 10 ^ prec * 10 ^ k := by
      rw [← Nat.pow_add]
      exact (digits_le_iff (by omega)).mp (by omega)
    have hlow : 10 ^ (prec - 1) * 10 ^ k ≤ x.natAbs := by
      rw [← Nat.pow_add]
      by_contra hlt
      have hle := (digits_le_iff (n := x.natAbs) (k := prec - 1 + k) (by omega)).mpr (by omega)
      omega
    have hcoef := roundHalfEven_le hhigh
    rw [← habs] at hcoef
    rcases Int.lt_trichotomy (e + k) 0 with hneg | hzero | hpos
    · have hleft : roundHalfUp c (e + k) < 10 ^ prec := roundHalfUp_lt hprec hneg hcoef
      rw [iff_true_left hleft, Int.toNat_of_nonpos (by omega : e ≤ 0), Nat.pow_zero, Nat.mul_one]
      have hstep : 10 ^ k * 10 ≤ 10 ^ (-e).toNat := by
        rw [← Nat.pow_succ]
        exact Nat.pow_le_pow_right (by decide) (by omega)
      calc 2 * x.natAbs < 2 * 10 ^ prec * 10 ^ k := by
            rw [Nat.mul_assoc]
            omega
        _ ≤ (2 * 10 ^ prec - 1) * 10 * 10 ^ k := Nat.mul_le_mul_right _ (by decide)
        _ = (2 * 10 ^ prec - 1) * (10 ^ k * 10) := by ring
        _ ≤ (2 * 10 ^ prec - 1) * 10 ^ (-e).toNat := Nat.mul_le_mul_left _ hstep
    · have he : (-e).toNat = k := by omega
      have hround : roundHalfUp c (e + k) = roundHalfEven x.natAbs k := by
        unfold roundHalfUp
        rw [hzero, if_pos le_rfl, habs]
        simp
      rw [hround, roundHalfEven_lt_iff hprec, he, Int.toNat_of_nonpos (by omega : e ≤ 0),
        Nat.pow_zero, Nat.mul_one]
    · have hcoef' := le_roundHalfEven hlow
      rw [← habs] at hcoef'
      have hleft : 10 ^ prec ≤ roundHalfUp c (e + k) := by
        unfold roundHalfUp
        rw [if_pos hpos.le]
        calc 10 ^ prec = 10 ^ (prec - 1) * 10 := by decide
          _ ≤ c.natAbs * 10 ^ (e + k).toNat :=
            Nat.mul_le_mul hcoef' (Nat.le_self_pow (by omega) 10)
      have hright : (2 * 10 ^ prec - 1) * 10 ^ (-e).toNat ≤ 2 * x.natAbs * 10 ^ e.toNat := by
        calc (2 * 10 ^ prec - 1) * 10 ^ (-e).toNat ≤ 2 * 10 ^ prec * 10 ^ (-e).toNat :=
              Nat.mul_le_mul_right _ (by decide)
          _ = 2 * 10 ^ (prec + (-e).toNat) := by rw [Nat.mul_assoc, Nat.pow_add]
          _ ≤ 2 * 10 ^ (prec - 1 + k + e.toNat) :=
            Nat.mul_le_mul_left 2 (Nat.pow_le_pow_right (by decide) (by omega))
          _ = 2 * (10 ^ (prec - 1) * 10 ^ k) * 10 ^ e.toNat := by ring
          _ ≤ 2 * x.natAbs * 10 ^ e.toNat :=
            Nat.mul_le_mul_right _ (Nat.mul_le_mul_left 2 hlow)
      exact ⟨fun h => absurd h (by omega), fun h => absurd h (by omega)⟩

end Decimal

/-- `int(Decimal(n) * rate)`. -/
def Decimal.scaled (n : Int) (rate : Decimal) : Except PyExc Int := do
  (← (Decimal.ofInt n).mul rate).toInt

/-- Half a byte is dropped, and no digit of a byte count is. -/
example : Decimal.scaled 3 (.finite 15 (-1)) = .ok 4 ∧
    Decimal.scaled (10 ^ 18 + 1) (.finite 1 0) = .ok (10 ^ 18 + 1) := by decide +kernel

end PyBoard
