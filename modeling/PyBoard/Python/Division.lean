/-
  PyBoard.Python.Division — when `int(n / d)` is the floor of the exact quotient.

  The true division of two integers is rounded to the nearest double.  A quotient
  below `2 ^ 32` has an ulp of at most `2 ^ (-21)`, which is less than the distance of a
  fraction with a small denominator to the next integer; so truncating the double gives
  the floor, as long as the result fits an INTEGER column.
-/
import PyBoard.Python.Value
import Mathlib.Algebra.Order.Floor.Ring
import Mathlib.Data.Rat.Floor
import Mathlib.Tactic.Linarith
import Mathlib.Tactic.Positivity
import Mathlib.Tactic.FieldSimp
import Mathlib.Tactic.NormNum

namespace PyBoard

/-! ## §1. Powers of two and binades. -/

theorem pow2_eq (e : Int) : pow2 e = (2 : ℚ) ^ e := by
  unfold pow2
  split
  · next h =>
    conv_rhs => rw [← Int.toNat_of_nonneg h]
    rw [zpow_natCast]
  · next h =>
    conv_rhs => rw [← neg_neg e, ← Int.toNat_of_nonneg (by omega : 0 ≤ -e)]
    rw [zpow_neg, zpow_natCast, one_div]

/-- A positive rational is at least the power of its binade. -/
theorem binade_le {q : ℚ} (h : 0 < q) : (2 : ℚ) ^ binade q ≤ q := by
  unfold binade
  dsimp only
  split
  · next hle => rwa [← pow2_eq]
  · -- the numerator and the denominator bound the quotient from below
    have hnum : 0 < q.num := Rat.num_pos.mpr h
    have hlow : (2 : ℚ) ^ q.num.natAbs.log2 ≤ q.num := by
      have hle := Nat.log2_self_le (n := q.num.natAbs) (by omega)
      have habs : ((q.num.natAbs : ℤ) : ℚ) = q.num := by
        rw [Int.natAbs_of_nonneg hnum.le]
      rw [← habs]
      exact_mod_cast hle
    have hhigh : (q.den : ℚ) ≤ 2 ^ (q.den.log2 + 1) := by
      exact_mod_cast (Nat.lt_log2_self (n := q.den)).le
    have hden : (0 : ℚ) < q.den := by exact_mod_cast q.den_pos
    have hsplit : (2 : ℚ) ^ ((q.num.natAbs.log2 : ℤ) - q.den.log2 - 1)
        = 2 ^ q.num.natAbs.log2 / 2 ^ (q.den.log2 + 1) := by
      rw [show (q.num.natAbs.log2 : ℤ) - q.den.log2 - 1
        = (q.num.natAbs.log2 : ℤ) - ((q.den.log2 + 1 : ℕ) : ℤ) by push_cast; ring,
        zpow_sub₀ two_ne_zero, zpow_natCast, zpow_natCast]
    rw [hsplit]
    calc (2 : ℚ) ^ q.num.natAbs.log2 / 2 ^ (q.den.log2 + 1)
        ≤ q.num / q.den := div_le_div₀ (by exact_mod_cast hnum.le) hlow hden hhigh
      _ = q := Rat.num_div_den q

/-! ## §2. Rounding. -/

theorem roundHalfEven_near (q : ℚ) : |(roundHalfEven q : ℚ) - q| ≤ 1 / 2 := by
  have hfloor : ((q.floor : ℤ) : ℚ) ≤ q := Int.floor_le q
  have hlt : q < (q.floor : ℤ) + 1 := Int.lt_floor_add_one q
  unfold roundHalfEven
  dsimp only
  rw [abs_le]
  split
  · constructor <;> linarith
  · split
    · push_cast
      constructor <;> linarith
    · split
      · constructor <;> linarith
      · push_cast
        constructor <;> linarith

/-- Rounding stays above an integer. -/
theorem le_roundHalfEven {m : ℤ} {q : ℚ} (h : (m : ℚ) ≤ q) : m ≤ roundHalfEven q := by
  have hfloor : m ≤ q.floor := Int.le_floor.mpr h
  unfold roundHalfEven
  dsimp only
  split
  · exact hfloor
  · split
    · omega
    · split <;> omega

/-! ## §3. Truncated quotients. -/

/-- Truncating a positive rational is taking its floor. -/
theorem toInt_finite_of_pos {r : ℚ} (h : 0 < r) : (PyFloat.finite r).toInt = .ok ⌊r⌋ := by
  have hnum : 0 ≤ r.num := (Rat.num_pos.mpr h).le
  rw [PyFloat.toInt, Int.tdiv_eq_ediv_of_nonneg hnum, Rat.floor_def']

/-- What `ofRat` makes of a positive rational whose binade is normal. -/
theorem toInt_ofRat_of_pos {q : ℚ} {a : ℤ} (hq : 0 < q) (hnormal : -1022 ≤ binade q)
    (h : (PyFloat.ofRat q).toInt = .ok a) :
    ∃ r : ℚ, 0 < r ∧ a = ⌊r⌋ ∧ |r - q| ≤ 2 ^ (binade q - 52) / 2 ∧
      ∀ m : ℤ, (m : ℚ) ≤ q / 2 ^ (binade q - 52) → (m : ℚ) * 2 ^ (binade q - 52) ≤ r := by
  set u : ℚ := 2 ^ (binade q - 52) with hu
  have hu0 : 0 < u := zpow_pos two_pos _
  -- the ulp is at most `q * 2 ^ (-52)`, so rounding keeps the sign
  have hule : u ≤ q / 2 ^ 52 := by
    rw [hu, zpow_sub₀ two_ne_zero]
    exact div_le_div_of_nonneg_right (binade_le hq) (by positivity)
  have hulp : pow2 (max (binade |q|) (-1022) - 52) = u := by
    rw [abs_of_pos hq, max_eq_left hnormal, pow2_eq]
  set r : ℚ := roundHalfEven (q / u) * u with hr
  have hnear : |r - q| ≤ u / 2 := by
    have hround := roundHalfEven_near (q / u)
    have hscale : r - q = (roundHalfEven (q / u) - q / u) * u := by
      rw [hr, sub_mul, div_mul_cancel₀ _ hu0.ne']
    rw [hscale, abs_mul, abs_of_pos hu0]
    linarith [mul_le_mul_of_nonneg_right hround hu0.le]
  have hr0 : 0 < r := by
    have hlow := (abs_le.mp hnear).1
    have hhalf : u / 2 < q := by
      have : q / 2 ^ 52 < 2 * q := by
        rw [div_lt_iff₀ (by positivity)]
        linarith
      linarith
    linarith
  refine ⟨r, hr0, ?_, hnear, fun m hm => ?_⟩
  · have hof : PyFloat.ofRat q = if pow2 1024 ≤ |r| then .inf (q < 0) else .finite r := by
      unfold PyFloat.ofRat
      rw [if_neg hq.ne', hulp]
    rw [hof] at h
    split at h
    · cases h
    · rw [toInt_finite_of_pos hr0] at h
      exact (Except.ok.inj h).symm
  · have hle : (m : ℚ) ≤ roundHalfEven (q / u) := by exact_mod_cast le_roundHalfEven hm
    exact mul_le_mul_of_nonneg_right hle hu0.le

/-- **`int(n / d)` is the floor** of the exact quotient, if it fits an INTEGER column and the
    divisor is small. -/
theorem toInt_divInt {n d a : ℤ} (hn : 0 ≤ n) (hd : 0 < d) (hsmall : d < 2 ^ 21)
    (h : (PyFloat.divInt n d).toInt = .ok a) (ha : a < 2 ^ 31) : a = n / d := by
  have hdq : (0 : ℚ) < d := by exact_mod_cast hd
  rcases hn.eq_or_lt with rfl | hn
  · have hzero : ((0 : ℤ) : ℚ) / d = 0 := by simp
    rw [PyFloat.divInt, hzero] at h
    cases h
    simp
  set q : ℚ := (n : ℚ) / d with hq
  have hnq : (1 : ℚ) ≤ n := by exact_mod_cast hn
  have hq0 : 0 < q := div_pos (by linarith) hdq
  have hdsmall : (d : ℚ) < 2 ^ 21 := by exact_mod_cast hsmall
  have hnormal : -1022 ≤ binade q := by
    have hden : q.den ≤ 2 ^ 21 := by
      have hle := Int.le_of_dvd hd (Rat.den_dvd n d)
      rw [Rat.divInt_eq_div, ← hq] at hle
      omega
    have hlog : q.den.log2 ≤ 21 := by
      have hlt := (Nat.log2_lt q.den_nz).mpr (show q.den < 2 ^ 22 by omega)
      omega
    unfold binade
    dsimp only
    split <;> omega
  obtain ⟨r, hr0, har, hnear, hstay⟩ := toInt_ofRat_of_pos hq0 hnormal h
  set u : ℚ := 2 ^ (binade q - 52) with hu
  have hu0 : 0 < u := zpow_pos two_pos _
  obtain ⟨hlow, hhigh⟩ := abs_le.mp hnear
  have hr31 : r < 2 ^ 31 := by
    have hlt : r < ⌊r⌋ + 1 := Int.lt_floor_add_one r
    have hfit : ((⌊r⌋ : ℤ) : ℚ) + 1 ≤ 2 ^ 31 := by
      rw [← har]
      exact_mod_cast ha
    linarith
  -- the quotient is below `2 ^ 32`, so its ulp is at most `2 ^ (-21)`
  have hexp : binade q ≤ 31 := by
    have hulp : u ≤ q / 2 ^ 52 := by
      rw [hu, zpow_sub₀ two_ne_zero]
      exact div_le_div_of_nonneg_right (binade_le hq0) (by positivity)
    have hhalf : q / 2 ^ 52 ≤ q := div_le_self hq0.le (by norm_num)
    have hbound : (2 : ℚ) ^ binade q < 2 ^ (32 : ℤ) := by
      have := binade_le hq0
      norm_num at *
      linarith
    have := (zpow_lt_zpow_iff_right₀ (by norm_num : (1 : ℚ) < 2)).mp hbound
    omega
  have hu21 : u ≤ 1 / 2 ^ 21 := by
    have hle : u ≤ 2 ^ (-21 : ℤ) := zpow_le_zpow_right₀ (by norm_num) (by omega)
    rwa [zpow_neg, one_div] at *
  rw [har]
  refine Int.floor_eq_iff.mpr ⟨?_, ?_⟩
  · -- the floor is a multiple of the ulp, and rounding does not go below it
    have hmul : ((n / d : ℤ) : ℚ) ≤ q := by
      rw [hq, le_div_iff₀ hdq]
      exact_mod_cast Int.ediv_mul_le n hd.ne'
    obtain ⟨k, hk⟩ : ∃ k : ℕ, (k : ℤ) = 52 - binade q := ⟨(52 - binade q).toNat, by omega⟩
    have hinv : u * 2 ^ k = 1 := by
      rw [hu, ← zpow_natCast, ← zpow_add₀ two_ne_zero, hk]
      norm_num
    have hm := hstay (n / d * 2 ^ k) (by
      rw [le_div_iff₀ hu0]
      push_cast
      calc ((n / d : ℤ) : ℚ) * 2 ^ k * u
          = ((n / d : ℤ) : ℚ) := by rw [mul_assoc, mul_comm _ u, hinv, mul_one]
        _ ≤ q := hmul)
    push_cast at hm
    calc ((n / d : ℤ) : ℚ) = ((n / d : ℤ) : ℚ) * 2 ^ k * u := by
          rw [mul_assoc, mul_comm _ u, hinv, mul_one]
      _ ≤ r := hm
  · -- the next integer is at least `1 / d` away
    have hnext : q + 1 / d ≤ ((n / d : ℤ) : ℚ) + 1 := by
      rw [hq, ← add_div, div_le_iff₀ hdq]
      have hlt := Int.lt_ediv_add_one_mul_self n hd
      exact_mod_cast hlt
    have hgap : (1 : ℚ) / 2 ^ 21 < 1 / d := one_div_lt_one_div_of_lt hdq hdsmall
    linarith

end PyBoard
