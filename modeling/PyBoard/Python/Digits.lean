/-
  PyBoard.Python.Digits — numbers written with a fixed number of digits.

  `padded base k n` are the last `k` digits of `n`, with leading zeros, as the formats `%04d`
  and `%032x` write them.  Decimal digits are read back (`Utc.digits_padded`).
-/
import Mathlib.Tactic.IntervalCases
import PyBoard.Python.Utc

namespace PyBoard

variable {base : Nat}

/-- The last `k` digits of a number. -/
def padded (base : Nat) : Nat → Nat → List Char
  | 0, _ => []
  | k + 1, n => padded base k (n / base) ++ [Nat.digitChar (n % base)]

@[simp] theorem length_padded (k n : Nat) : (padded base k n).length = k := by
  induction k generalizing n with
  | zero => rfl
  | succ k ih =>
      show (padded base k (n / base) ++ [Nat.digitChar (n % base)]).length = k + 1
      rw [List.length_append, ih]
      rfl

/-- A property of the digits below the base holds of all that are written. -/
theorem padded_all {P : Char → Prop} (hbase : 0 < base) (h : ∀ d < base, P (Nat.digitChar d))
    (k n : Nat) : ∀ c ∈ padded base k n, P c := by
  induction k generalizing n with
  | zero =>
      intro c hc
      cases hc
  | succ k ih =>
      intro c hc
      rcases List.mem_append.mp hc with hc | hc
      · exact ih _ c hc
      · rw [List.mem_singleton.mp hc]
        exact h _ (Nat.mod_lt n hbase)

theorem digitChar_spec {d : Nat} (hd : d < 10) :
    (Nat.digitChar d).isDigit = true ∧ (Nat.digitChar d).toNat - '0'.toNat = d := by
  interval_cases d <;> decide

/-- The value of decimal digits: the induction drops the last one. -/
theorem foldl_padded {k n : Nat} (h : n < 10 ^ k) :
    (padded 10 k n).foldl (fun n c => 10 * n + (c.toNat - '0'.toNat)) 0 = n := by
  induction k generalizing n with
  | zero =>
      have hzero : n = 0 := by omega
      rw [hzero]
      rfl
  | succ k ih =>
      have hrest : n / 10 < 10 ^ k := by
        rw [pow_succ] at h
        omega
      show (padded 10 k (n / 10) ++ [Nat.digitChar (n % 10)]).foldl _ 0 = n
      rw [List.foldl_append, ih hrest, List.foldl_cons, List.foldl_nil,
        (digitChar_spec (Nat.mod_lt n (by decide))).2]
      omega

/-- **Decimal digits are read back.** -/
theorem Utc.digits_padded {k n : Nat} (hk : 0 < k) (h : n < 10 ^ k) :
    Utc.digits (padded 10 k n) = some n := by
  have hne : (padded 10 k n).isEmpty = false := by
    rw [List.isEmpty_eq_false_iff, ← List.length_pos_iff, length_padded]
    exact hk
  have hall : (padded 10 k n).all Char.isDigit = true :=
    List.all_eq_true.mpr (padded_all (by decide) (fun d hd => (digitChar_spec hd).1) k n)
  unfold Utc.digits
  rw [hne, hall, foldl_padded h]
  rfl

end PyBoard
