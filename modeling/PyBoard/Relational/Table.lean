/-
  PyBoard.Relational.Table — tables with a primary key.

  A table is a list of rows whose keys are pairwise different.  The
  invariant is a field, so that "the row with key `k`" is well defined in
  every table that can be built, and sums over tables can be compared key by
  key (`sum_add_of_valueAt`).

  Nothing here names the application: rows and keys are arbitrary.
-/
import Mathlib.Data.List.Perm.Basic
import Mathlib.Data.List.Nodup
import Mathlib.Algebra.BigOperators.Group.Finset.Basic
import Mathlib.Algebra.Group.Int.Defs
import Mathlib.Tactic.Ring

namespace PyBoard.Relational

/-- A table: rows with pairwise different primary keys. -/
structure Table {ρ κ : Type} (key : ρ → κ) where
  rows : List ρ
  nodup : (rows.map key).Nodup

namespace Table

variable {ρ κ : Type} {key : ρ → κ}

@[ext]
theorem ext_rows {t t' : Table key} (h : t.rows = t'.rows) : t = t' := by
  cases t; cases t'; cases h; rfl

instance [DecidableEq ρ] : DecidableEq (Table key) := fun t t' =>
  decidable_of_iff (t.rows = t'.rows) ⟨ext_rows, fun h => h ▸ rfl⟩

/-- The table without rows. -/
def empty : Table key := ⟨[], List.nodup_nil⟩

instance : Inhabited (Table key) := ⟨empty⟩

/-- Two rows of a table with the same key are the same row. -/
theorem eq_of_key_eq (t : Table key) {r r' : ρ} (hr : r ∈ t.rows)
    (hr' : r' ∈ t.rows) (h : key r = key r') : r = r' :=
  List.inj_on_of_nodup_map t.nodup hr hr' h

variable [DecidableEq κ]

/-! ## §1. Lookup. -/

/-- The row with key `k`. -/
def get? (t : Table key) (k : κ) : Option ρ :=
  t.rows.find? (fun r => key r = k)

theorem get?_eq_some {t : Table key} {k : κ} {r : ρ} :
    t.get? k = some r ↔ r ∈ t.rows ∧ key r = k := by
  constructor
  · intro h
    exact ⟨List.mem_of_find?_eq_some h, by simpa using List.find?_some h⟩
  · rintro ⟨hmem, rfl⟩
    cases hf : t.get? (key r) with
    | none =>
      have := List.find?_eq_none.mp hf r hmem
      simp at this
    | some r' =>
      have hk : key r' = key r := by simpa using List.find?_some hf
      rw [t.eq_of_key_eq (List.mem_of_find?_eq_some hf) hmem hk]

theorem get?_eq_none {t : Table key} {k : κ} :
    t.get? k = none ↔ ∀ r ∈ t.rows, key r ≠ k := by
  simp [get?]

theorem key_of_get? {t : Table key} {k : κ} {r : ρ} (h : t.get? k = some r) :
    key r = k := (get?_eq_some.mp h).2

theorem mem_of_get? {t : Table key} {k : κ} {r : ρ} (h : t.get? k = some r) :
    r ∈ t.rows := (get?_eq_some.mp h).1

theorem get?_of_mem {t : Table key} {r : ρ} (h : r ∈ t.rows) :
    t.get? (key r) = some r := get?_eq_some.mpr ⟨h, rfl⟩

/-- A list without duplicates of which any two items are the same. -/
theorem length_le_one_of_same {α : Type} {l : List α} (hn : l.Nodup)
    (hsame : ∀ a ∈ l, ∀ b ∈ l, a = b) : l.length ≤ 1 := by
  match l with
  | [] => exact Nat.zero_le 1
  | [_] => exact le_refl 1
  | a :: b :: rest =>
    have heq : a = b := hsame a List.mem_cons_self b (List.mem_cons_of_mem _ List.mem_cons_self)
    rw [heq] at hn
    exact absurd List.mem_cons_self (List.nodup_cons.mp hn).1

omit [DecidableEq κ] in
/-- A query that finds at most one row. -/
theorem length_filter_le_one (t : Table key) {p : ρ → Bool}
    (h : ∀ r ∈ t.rows, p r = true → ∀ r' ∈ t.rows, p r' = true → r = r') :
    (t.rows.filter p).length ≤ 1 := by
  refine length_le_one_of_same ((t.nodup.of_map _).filter _) fun r hr r' hr' => ?_
  obtain ⟨hmem, hp⟩ := List.mem_filter.mp hr
  obtain ⟨hmem', hp'⟩ := List.mem_filter.mp hr'
  exact h r hmem hp r' hmem' hp'

/-! ## §2. Replacing, adding and erasing a row. -/

/-- Store `r`: it replaces the row that has its key, or is added at the end. -/
def put (t : Table key) (r : ρ) : Table key where
  rows :=
    if key r ∈ t.rows.map key then
      t.rows.map (fun x => if key x = key r then r else x)
    else t.rows ++ [r]
  nodup := by
    split
    · have hkeys : (t.rows.map (fun x => if key x = key r then r else x)).map key
          = t.rows.map key := by
        rw [List.map_map]
        refine List.map_congr_left fun x _ => ?_
        by_cases hx : key x = key r <;> simp [hx]
      rw [hkeys]; exact t.nodup
    · next hfresh =>
      rw [List.map_append, List.map_cons, List.map_nil]
      refine List.Nodup.append t.nodup (List.nodup_singleton _) ?_
      simpa using hfresh

/-- Remove the row with key `k`. -/
def erase (t : Table key) (k : κ) : Table key where
  rows := t.rows.filter (fun r => key r ≠ k)
  nodup := (List.filter_sublist.map key).nodup t.nodup

theorem mem_put {t : Table key} {r x : ρ} :
    x ∈ (t.put r).rows ↔ x = r ∨ (x ∈ t.rows ∧ key x ≠ key r) := by
  unfold put
  dsimp only
  split
  · next hmem =>
    obtain ⟨y, hy, hyk⟩ := List.mem_map.mp hmem
    constructor
    · intro hx
      obtain ⟨z, hz, rfl⟩ := List.mem_map.mp hx
      by_cases hzk : key z = key r
      · simp [hzk]
      · right; simpa [hzk] using hz
    · rintro (rfl | ⟨hx, hne⟩)
      · exact List.mem_map.mpr ⟨y, hy, by simp [hyk]⟩
      · exact List.mem_map.mpr ⟨x, hx, by simp [hne]⟩
  · next hfresh =>
    rw [List.mem_append, List.mem_singleton]
    constructor
    · rintro (hx | rfl)
      · exact Or.inr ⟨hx, fun h => hfresh (List.mem_map.mpr ⟨x, hx, h⟩)⟩
      · exact Or.inl rfl
    · rintro (rfl | ⟨hx, _⟩)
      · exact Or.inr rfl
      · exact Or.inl hx

theorem mem_erase {t : Table key} {k : κ} {x : ρ} :
    x ∈ (t.erase k).rows ↔ x ∈ t.rows ∧ key x ≠ k := by
  simp [erase]

theorem get?_put (t : Table key) (r : ρ) (k : κ) :
    (t.put r).get? k = if k = key r then some r else t.get? k := by
  split
  · next h => exact get?_eq_some.mpr ⟨mem_put.mpr (Or.inl rfl), h.symm⟩
  · next h =>
    cases hk : t.get? k with
    | none =>
      refine get?_eq_none.mpr fun x hx => ?_
      rcases mem_put.mp hx with rfl | ⟨hx, _⟩
      · exact fun h' => h h'.symm
      · exact get?_eq_none.mp hk x hx
    | some x =>
      obtain ⟨hx, rfl⟩ := get?_eq_some.mp hk
      exact get?_eq_some.mpr ⟨mem_put.mpr (Or.inr ⟨hx, h⟩), rfl⟩

@[simp]
theorem get?_put_self (t : Table key) (r : ρ) :
    (t.put r).get? (key r) = some r := by simp [get?_put]

theorem get?_put_of_ne (t : Table key) {r : ρ} {k : κ} (h : k ≠ key r) :
    (t.put r).get? k = t.get? k := by simp [get?_put, h]

theorem get?_erase (t : Table key) (k k' : κ) :
    (t.erase k).get? k' = if k' = k then none else t.get? k' := by
  split
  · next h =>
    subst h
    exact get?_eq_none.mpr fun x hx => (mem_erase.mp hx).2
  · next h =>
    cases hk : t.get? k' with
    | none => exact get?_eq_none.mpr fun x hx => get?_eq_none.mp hk x (mem_erase.mp hx).1
    | some x =>
      obtain ⟨hx, rfl⟩ := get?_eq_some.mp hk
      exact get?_eq_some.mpr ⟨mem_erase.mpr ⟨hx, h⟩, rfl⟩

/-- Storing a row moves a quantity of the row with its key, and of no other. -/
theorem get?_put_moves {t : Table key} (f : ρ → Int) (r : ρ) {cur : ρ}
    (hcur : t.get? (key r) = some cur)
    {k : κ} {x : ρ} (hx : t.get? k = some x) :
    ∃ x', (t.put r).get? k = some x' ∧ f x' = f x + if key r = k then f r - f cur else 0 := by
  rw [get?_put]
  by_cases hk : k = key r
  · subst hk
    rw [hcur] at hx
    cases hx
    exact ⟨r, by simp, by simp⟩
  · rw [if_neg hk]
    exact ⟨x, hx, by rw [if_neg (Ne.symm hk), add_zero]⟩

/-- Storing a row over itself changes nothing. -/
theorem put_eq_self {t : Table key} {r : ρ} (h : t.get? (key r) = some r) :
    t.put r = t := by
  refine ext_rows ?_
  have hmem := mem_of_get? h
  unfold put
  dsimp only
  rw [if_pos (List.mem_map_of_mem hmem)]
  conv_rhs => rw [← List.map_id t.rows]
  refine List.map_congr_left fun x hx => ?_
  by_cases hk : key x = key r
  · simp [t.eq_of_key_eq hx hmem hk]
  · simp [hk]

/-- The later version of a row stays. -/
theorem put_put (t : Table key) {r r' : ρ} (h : key r = key r') : (t.put r).put r' = t.put r' := by
  have hmem : key r' ∈ (t.put r).rows.map key :=
    List.mem_map.mpr ⟨r, mem_put.mpr (Or.inl rfl), h⟩
  refine ext_rows ?_
  show (if key r' ∈ (t.put r).rows.map key then
    (t.put r).rows.map (fun x => if key x = key r' then r' else x) else _) = (t.put r').rows
  rw [if_pos hmem]
  unfold put
  dsimp only
  rw [h]
  split
  · rw [List.map_map]
    refine List.map_congr_left fun x _ => ?_
    by_cases hx : key x = key r' <;> simp [hx, h]
  · next hfresh =>
    rw [List.map_append, List.map_cons, List.map_nil, if_pos h]
    congr 1
    conv_rhs => rw [← List.map_id t.rows]
    refine List.map_congr_left fun x hx => ?_
    have hne : key x ≠ key r' := fun heq => hfresh (List.mem_map.mpr ⟨x, hx, heq⟩)
    simp [hne]

/-! ## §3. Changing the rows with a property. -/

/-- `UPDATE … SET … WHERE p`, for an assignment that leaves the key alone. -/
def update (t : Table key) (p : ρ → Bool) (f : ρ → ρ) (hf : ∀ r, key (f r) = key r) :
    Table key where
  rows := t.rows.map fun r => if p r then f r else r
  nodup := by
    have hkeys : (t.rows.map fun r => if p r then f r else r).map key = t.rows.map key := by
      rw [List.map_map]
      refine List.map_congr_left fun r _ => ?_
      by_cases hp : p r <;> simp [hp, hf]
    rw [hkeys]
    exact t.nodup

theorem get?_update (t : Table key) (p : ρ → Bool) (f : ρ → ρ) (hf : ∀ r, key (f r) = key r)
    (k : κ) :
    (t.update p f hf).get? k = (t.get? k).map fun r => if p r then f r else r := by
  have hkey : ∀ r, key (if p r then f r else r) = key r := by
    intro r
    by_cases hp : p r <;> simp [hp, hf]
  unfold get? update
  rw [List.find?_map]
  congr 2
  funext r
  simp only [Function.comp_apply, hkey]

/-- Among rows with pairwise different keys, `r` is the only one with its key. -/
theorem filter_key_of_mem {l : List ρ} (hn : (l.map key).Nodup) {r : ρ} (hr : r ∈ l) :
    l.filter (fun x => key x = key r) = [r] := by
  induction l with
  | nil => cases hr
  | cons x xs ih =>
      rw [List.map_cons, List.nodup_cons] at hn
      obtain ⟨hx, hxs⟩ := hn
      rcases List.mem_cons.mp hr with rfl | hr
      · -- nothing else has the key of the head
        have hnone : xs.filter (fun x => key x = key r) = [] := by
          refine List.filter_eq_nil_iff.mpr ?_
          intro y hy hk
          exact hx (List.mem_map.mpr ⟨y, hy, by simpa using hk⟩)
        simp [hnone]
      · have hne : key x ≠ key r := by
          intro hk
          exact hx (hk ▸ List.mem_map_of_mem hr)
        rw [List.filter_cons_of_neg (by simpa using hne)]
        exact ih hxs hr

/-- The only row with a property. -/
theorem filter_eq_singleton (t : Table key) {p : ρ → Bool} {r : ρ} (hr : r ∈ t.rows)
    (hp : p r = true) (huniq : ∀ x ∈ t.rows, p x = true → x = r) : t.rows.filter p = [r] := by
  have hsame : t.rows.filter p = t.rows.filter (fun x => key x = key r) := by
    refine List.filter_congr fun x hx => ?_
    rw [Bool.eq_iff_iff, decide_eq_true_eq]
    constructor
    · intro h
      rw [huniq x hx h]
    · intro h
      rw [t.eq_of_key_eq hx hr h]
      exact hp
  rw [hsame]
  exact filter_key_of_mem t.nodup hr

/-- The rows with a key and a property: the row with that key, if it has the property. -/
theorem filter_key_and (t : Table key) (k : κ) (q : ρ → Bool) :
    t.rows.filter (fun r => key r = k && q r) = ((t.get? k).filter q).toList := by
  have hsplit : t.rows.filter (fun r => key r = k && q r)
      = (t.rows.filter fun r => key r = k).filter q := by
    rw [List.filter_filter]
    refine List.filter_congr ?_
    intro r _
    rw [Bool.and_comm]
  rw [hsplit]
  cases hk : t.get? k with
  | none =>
      have hnone : t.rows.filter (fun r => key r = k) = [] := by
        refine List.filter_eq_nil_iff.mpr ?_
        intro r hr
        simpa using get?_eq_none.mp hk r hr
      rw [hnone]
      rfl
  | some r =>
      obtain ⟨hr, rfl⟩ := get?_eq_some.mp hk
      rw [filter_key_of_mem t.nodup hr]
      by_cases hq : q r <;> simp [hq, Option.filter]

theorem filter_key (t : Table key) (k : κ) :
    t.rows.filter (fun r => key r = k) = (t.get? k).toList := by
  have h := t.filter_key_and k fun _ => true
  simp only [Bool.and_true] at h
  rw [h]
  cases t.get? k <;> rfl

/-- How many rows have one of the keys. -/
theorem length_filter_keys (t : Table key) (ks : List κ) :
    (t.rows.filter fun r => key r ∈ ks).length
      = (ks.dedup.filter fun k => (t.get? k).isSome).length := by
  have hperm : ((t.rows.filter fun r => key r ∈ ks).map key).Perm
      (ks.dedup.filter fun k => (t.get? k).isSome) := by
    refine (List.perm_ext_iff_of_nodup ((List.filter_sublist.map key).nodup t.nodup)
      (ks.nodup_dedup.filter _)).mpr ?_
    intro k
    rw [List.mem_filter, List.mem_dedup, List.mem_map]
    constructor
    · rintro ⟨r, hr, rfl⟩
      obtain ⟨hmem, hk⟩ := List.mem_filter.mp hr
      exact ⟨of_decide_eq_true hk, by rw [get?_of_mem hmem]; rfl⟩
    · rintro ⟨hk, hsome⟩
      obtain ⟨r, hr⟩ := Option.isSome_iff_exists.mp hsome
      obtain ⟨hmem, rfl⟩ := get?_eq_some.mp hr
      exact ⟨r, List.mem_filter.mpr ⟨hmem, decide_eq_true hk⟩, rfl⟩
  rw [← hperm.length_eq, List.length_map]

/-! ## §4. Sums over a table. -/

/-- The sum of `f` over the rows. -/
def sum (t : Table key) (f : ρ → Int) : Int := (t.rows.map f).sum

/-- The value of `f` at the row with key `k`; zero where there is none. -/
def valueAt (t : Table key) (f : ρ → Int) (k : κ) : Int := ((t.get? k).map f).getD 0

theorem valueAt_of_get? {t : Table key} {f : ρ → Int} {k : κ} {r : ρ} (h : t.get? k = some r) :
    t.valueAt f k = f r := by simp [valueAt, h]

theorem valueAt_of_none {t : Table key} {f : ρ → Int} {k : κ} (h : t.get? k = none) :
    t.valueAt f k = 0 := by simp [valueAt, h]

theorem valueAt_put (t : Table key) (f : ρ → Int) (r : ρ) (k : κ) :
    (t.put r).valueAt f k = if key r = k then f r else t.valueAt f k := by
  rw [valueAt, get?_put]
  by_cases hk : k = key r
  · rw [if_pos hk, if_pos hk.symm]
    rfl
  · rw [if_neg hk, if_neg (Ne.symm hk), valueAt]

theorem valueAt_erase (t : Table key) (f : ρ → Int) (k k' : κ) :
    (t.erase k).valueAt f k' = if k = k' then 0 else t.valueAt f k' := by
  rw [valueAt, get?_erase]
  by_cases hk : k' = k
  · rw [if_pos hk, if_pos hk.symm]
    rfl
  · rw [if_neg hk, if_neg (Ne.symm hk), valueAt]

/-- A sum over the rows is a sum over any keys that include theirs. -/
theorem sum_eq_sum_valueAt (t : Table key) (f : ρ → Int) (S : Finset κ)
    (h : ∀ r ∈ t.rows, key r ∈ S) : t.sum f = ∑ k ∈ S, t.valueAt f k := by
  have hkeys : t.sum f = ∑ k ∈ (t.rows.map key).toFinset, t.valueAt f k := by
    rw [List.sum_toFinset _ t.nodup, List.map_map]
    refine congrArg List.sum (List.map_congr_left fun r hr => ?_)
    exact (valueAt_of_get? (get?_of_mem hr)).symm
  rw [hkeys]
  refine Finset.sum_subset (fun k hk => ?_) fun k _ hk => ?_
  · obtain ⟨r, hr, rfl⟩ := List.mem_map.mp (List.mem_toFinset.mp hk)
    exact h r hr
  · refine valueAt_of_none (get?_eq_none.mpr fun r hr hkey => hk ?_)
    exact List.mem_toFinset.mpr (List.mem_map.mpr ⟨r, hr, hkey⟩)

/-- **Sums are compared key by key.** -/
theorem sum_add_of_valueAt {t t₁ t₂ : Table key} {f f₁ f₂ : ρ → Int}
    (h : ∀ k, t.valueAt f k = t₁.valueAt f₁ k + t₂.valueAt f₂ k) :
    t.sum f = t₁.sum f₁ + t₂.sum f₂ := by
  let S := (t.rows.map key ++ t₁.rows.map key ++ t₂.rows.map key).toFinset
  have hmem : ∀ (l : List ρ), (∀ k ∈ l.map key, k ∈ S) → ∀ r ∈ l, key r ∈ S :=
    fun l hl r hr => hl _ (List.mem_map_of_mem hr)
  rw [t.sum_eq_sum_valueAt f S (hmem _ fun k hk => by simp [S, hk]),
    t₁.sum_eq_sum_valueAt f₁ S (hmem _ fun k hk => by simp [S, hk]),
    t₂.sum_eq_sum_valueAt f₂ S (hmem _ fun k hk => by simp [S, hk]), ← Finset.sum_add_distrib]
  exact Finset.sum_congr rfl fun k _ => h k

/-- A sum with one term that is not zero. -/
theorem sum_eq_single {t : Table key} {f : ρ → Int} {k : κ} {r : ρ} (hr : t.get? k = some r)
    (h : ∀ x ∈ t.rows, key x ≠ k → f x = 0) : t.sum f = f r := by
  rw [t.sum_eq_sum_valueAt f (t.rows.map key).toFinset fun x hx =>
    List.mem_toFinset.mpr (List.mem_map_of_mem hx)]
  rw [Finset.sum_eq_single k, valueAt_of_get? hr]
  · intro k' hk' hne
    obtain ⟨x, hx, rfl⟩ := List.mem_map.mp (List.mem_toFinset.mp hk')
    rw [valueAt_of_get? (get?_of_mem hx), h x hx hne]
  · intro hk
    refine absurd ?_ hk
    rw [← key_of_get? hr]
    exact List.mem_toFinset.mpr (List.mem_map_of_mem (mem_of_get? hr))

/-- A sum of zeros. -/
theorem sum_eq_zero {t : Table key} {f : ρ → Int} (h : ∀ r ∈ t.rows, f r = 0) :
    t.sum f = 0 := by
  rw [t.sum_eq_sum_valueAt f (t.rows.map key).toFinset fun x hx =>
    List.mem_toFinset.mpr (List.mem_map_of_mem hx)]
  refine Finset.sum_eq_zero fun k _ => ?_
  cases hk : t.get? k with
  | none => exact valueAt_of_none hk
  | some r => rw [valueAt_of_get? hk, h r (mem_of_get? hk)]

/-- A row with a fresh key is added at the end. -/
theorem rows_put_fresh (t : Table key) {r : ρ} (h : t.get? (key r) = none) :
    (t.put r).rows = t.rows ++ [r] := by
  have hfresh : key r ∉ t.rows.map key := by
    intro hmem
    obtain ⟨x, hx, hk⟩ := List.mem_map.mp hmem
    exact get?_eq_none.mp h x hx hk
  simp [put, hfresh]

/-- Adding a row with a fresh key adds its value to a sum. -/
theorem sum_put_fresh (t : Table key) (f : ρ → Int) {r : ρ}
    (h : t.get? (key r) = none) :
    (t.put r).sum f = t.sum f + f r := by
  simp [sum, rows_put_fresh t h]

/-- Storing a new version of a row moves a sum by the difference of the two versions. -/
theorem sum_put (t : Table key) (f : ρ → Int) {r r₀ : ρ} (h : t.get? (key r) = some r₀) :
    (t.put r).sum f = t.sum f + (f r - f r₀) := by
  have hadd : (t.put r).sum f
      = t.sum f + (⟨[r], List.nodup_singleton _⟩ : Table key).sum fun x => f x - f r₀ := by
    refine sum_add_of_valueAt fun k => ?_
    by_cases hk : k = key r
    · subst hk
      rw [valueAt_of_get? (get?_put_self t r), valueAt_of_get? h, valueAt_of_get? (r := r)]
      · ring
      · simp [get?]
    · rw [valueAt, get?_put_of_ne t hk, valueAt, valueAt_of_none, add_zero]
      simpa [get?] using Ne.symm hk
  rw [hadd]
  simp [sum]

/-- At most one row with a new key is added. -/
inductive Adds (t : Table key) : Option ρ → Table key → Prop
  | nothing : Adds t none t
  | row (r : ρ) (h : t.get? (key r) = none) : Adds t (some r) (t.put r)

theorem Adds.sum {t t' : Table key} {r : Option ρ} (h : t.Adds r t') (f : ρ → Int) :
    t'.sum f = t.sum f + (r.map f).getD 0 := by
  cases h with
  | nothing => simp
  | row r hr => simpa using sum_put_fresh t f hr

theorem Adds.row_free {t t' : Table key} {r : ρ} (h : t.Adds (some r) t') :
    t.get? (key r) = none := by
  cases h with
  | row r hr => exact hr

/-- Keys that are free afterwards were free before. -/
theorem Adds.free {t t' : Table key} {r : Option ρ} (h : t.Adds r t') {k : κ}
    (hk : t'.get? k = none) : t.get? k = none := by
  cases h with
  | nothing => exact hk
  | row r hr =>
    rw [get?_put] at hk
    split at hk
    · cases hk
    · exact hk

/-- A row afterwards was there before, or has been added. -/
theorem Adds.mem {t t' : Table key} {r : Option ρ} (h : t.Adds r t') {x : ρ}
    (hx : x ∈ t'.rows) : x ∈ t.rows ∨ r = some x := by
  cases h with
  | nothing => exact Or.inl hx
  | row r hr =>
    rcases mem_put.mp hx with rfl | ⟨hx, -⟩
    · exact Or.inr rfl
    · exact Or.inl hx

/-! ## §5. Counting rows. -/

omit [DecidableEq κ] in
/-- A count is a sum of ones. -/
theorem countP_eq_sum (t : Table key) (p : ρ → Bool) :
    (t.rows.countP p : Int) = t.sum fun r => if p r then 1 else 0 := by
  rw [sum]
  induction t.rows with
  | nil => rfl
  | cons r rows ih =>
    rw [List.countP_cons, List.map_cons, List.sum_cons, ← ih]
    split <;> push_cast <;> ring

omit [DecidableEq κ] in
/-- **Counting by keys.**  If every counted row of `t'` has the key of a counted row of
    `t`, no more rows are counted in `t'`. -/
theorem countP_le_of_keys {t t' : Table key} {p p' : ρ → Bool}
    (h : ∀ r ∈ t'.rows, p' r = true → ∃ r₀ ∈ t.rows, key r₀ = key r ∧ p r₀ = true) :
    t'.rows.countP p' ≤ t.rows.countP p := by
  rw [List.countP_eq_length_filter, List.countP_eq_length_filter,
    ← List.length_map (f := key), ← List.length_map (f := key)]
  have hnodup : ((t'.rows.filter p').map key).Nodup :=
    (List.filter_sublist.map key).nodup t'.nodup
  refine hnodup.length_le_of_subset fun k hk => ?_
  obtain ⟨r, hr, rfl⟩ := List.mem_map.mp hk
  obtain ⟨hmem, hp'⟩ := List.mem_filter.mp hr
  obtain ⟨r₀, hr₀, hkey, hp⟩ := h r hmem hp'
  exact hkey ▸ List.mem_map_of_mem (List.mem_filter.mpr ⟨hr₀, hp⟩)

/-- At most one counted row has a given key. -/
theorem countP_le_others (t : Table key) (p : ρ → Bool) (k : κ) :
    t.rows.countP p ≤ t.rows.countP (fun x => p x && !decide (key x = k)) + 1 := by
  have hsplit : t.rows.countP p
      ≤ (t.rows.countP fun x => p x && !decide (key x = k))
        + t.rows.countP fun x => decide (key x = k) := by
    generalize t.rows = l
    induction l with
    | nil => simp
    | cons x l ih =>
      simp only [List.countP_cons]
      by_cases hx : key x = k <;> cases p x <;> simp [hx] <;> omega
  have hone : (t.rows.countP fun x => decide (key x = k)) ≤ 1 := by
    by_contra hmany
    obtain ⟨r, hr, hk⟩ := List.countP_pos_iff.mp (by omega :
      0 < t.rows.countP fun x => decide (key x = k))
    have hle : (t.rows.countP fun x => decide (key x = k))
        ≤ (⟨[r], List.nodup_singleton _⟩ : Table key).rows.countP fun _ => true :=
      countP_le_of_keys fun x _ hx => ⟨r, List.mem_singleton_self r,
        (of_decide_eq_true hk).trans (of_decide_eq_true hx).symm, rfl⟩
    rw [List.countP_true, List.length_singleton] at hle
    exact hmany hle
  omega

/-- The rows after storing one: that one, and those with other keys. -/
theorem rows_put_perm (t : Table key) (r : ρ) :
    (t.put r).rows.Perm (r :: (t.erase (key r)).rows) := by
  have hnew : (r :: (t.erase (key r)).rows).Nodup := by
    refine List.nodup_cons.mpr ⟨fun hmem => ?_, (t.erase (key r)).nodup.of_map _⟩
    exact (mem_erase.mp hmem).2 rfl
  refine (List.perm_ext_iff_of_nodup ((t.put r).nodup.of_map _) hnew).mpr fun x => ?_
  rw [mem_put, List.mem_cons, mem_erase]

theorem countP_put (t : Table key) (r : ρ) (p : ρ → Bool) :
    (t.put r).rows.countP p
      = t.rows.countP (fun x => p x && !decide (key x = key r)) + if p r then 1 else 0 := by
  rw [(rows_put_perm t r).countP_eq, List.countP_cons, erase, List.countP_filter]
  simp only [decide_not]

/-- Storing a row adds at most one to a count of the rows with other keys. -/
theorem countP_put_le (t : Table key) (r : ρ) (p : ρ → Bool) :
    (t.put r).rows.countP p ≤ t.rows.countP (fun x => p x && !decide (key x = key r)) + 1 := by
  rw [countP_put]
  split <;> omega

/-- A counted row is one more than the counted rows with other keys. -/
theorem countP_others_lt (t : Table key) (p : ρ → Bool) {r : ρ} (h : r ∈ t.rows)
    (hp : p r = true) :
    t.rows.countP (fun x => p x && !decide (key x = key r)) + 1 ≤ t.rows.countP p := by
  have : t.rows.countP (fun x => p x && !decide (key x = key r)) < t.rows.countP p := by
    rw [List.countP_eq_length_filter, List.countP_eq_length_filter]
    have hsub : (t.rows.filter fun x => p x && !decide (key x = key r)).Sublist (t.rows.filter p) :=
      List.monotone_filter_right t.rows fun x hx => by
        simp only [Bool.and_eq_true] at hx
        exact hx.1
    refine lt_of_le_of_ne hsub.length_le fun heq => ?_
    have hlists := hsub.eq_of_length heq
    have hmem : r ∈ t.rows.filter p := List.mem_filter.mpr ⟨h, hp⟩
    rw [← hlists] at hmem
    simp at hmem
  omega

end Table

/-! The keys of small tables. -/

theorem nodup_one : ([1] : List Int).Nodup := List.nodup_singleton 1
theorem nodup_one_two : ([1, 2] : List Int).Nodup := by decide
theorem nodup_seven : ([7] : List Nat).Nodup := List.nodup_singleton 7

end PyBoard.Relational
