/-
  PyBoard.Relational.Finer — a table that is read by a finer key than its own.

  The rows of a table have pairwise different keys.  Where what a row is about is finer
  than its key (`fine`, of which the key is the image under `coarse`), the table has room
  for one row of those that share a key, and writing one replaces another.

  Main result:
    * `at?_foldl_put_iff` — a list of writes leaves, for every finer key, what was written
      last for it, if and only if rows that share a key share the finer key as well.
-/
import PyBoard.Relational.Table

namespace PyBoard.Relational.Table

variable {ρ κ π : Type} {key : ρ → κ} [DecidableEq κ] [DecidableEq π]
variable (fine : ρ → π) (coarse : π → κ)

/-- The row of a finer key. -/
def at? (t : Table key) (p : π) : Option ρ := (t.get? (coarse p)).filter fun r => fine r = p

/-- What a list of writes leaves for a finer key when each is kept under its own. -/
def lastAt (m : π → Option ρ) (rows : List ρ) : π → Option ρ :=
  rows.foldl (fun m r => Function.update m (fine r) (some r)) m

/-- The rows that share a key share the finer key. -/
def OneFine (key : ρ → κ) (rows : List ρ) : Prop :=
  ∀ r ∈ rows, ∀ r' ∈ rows, key r = key r' → fine r = fine r'

variable {fine coarse}

theorem at?_eq_some {t : Table key} {p : π} {r : ρ} :
    t.at? fine coarse p = some r ↔ t.get? (coarse p) = some r ∧ fine r = p := by
  unfold at?
  rw [Option.filter_eq_some_iff, decide_eq_true_eq]

variable (hfine : ∀ r, coarse (fine r) = key r)
include hfine

theorem at?_of_mem {t : Table key} {r : ρ} (h : r ∈ t.rows) :
    t.at? fine coarse (fine r) = some r := by
  refine at?_eq_some.mpr ⟨?_, rfl⟩
  rw [hfine]
  exact get?_of_mem h

/-- A row that is written hides the others of its key. -/
theorem at?_put (t : Table key) (r : ρ) (p : π) :
    (t.put r).at? fine coarse p =
      if p = fine r then some r else if coarse p = key r then none else t.at? fine coarse p := by
  unfold at?
  rw [get?_put]
  by_cases hp : p = fine r
  · subst hp
    simp [hfine]
  · by_cases hkey : coarse p = key r
    · simp [hp, hkey, Ne.symm hp]
    · simp [hp, hkey]

/-- A write that hides nothing is an update at the finer key. -/
theorem at?_put_eq_update {t : Table key} {r : ρ}
    (h : ∀ x ∈ t.rows, key x = key r → fine x = fine r) :
    (t.put r).at? fine coarse = Function.update (t.at? fine coarse) (fine r) (some r) := by
  funext p
  rw [at?_put hfine, Function.update_apply]
  by_cases hp : p = fine r
  · rw [if_pos hp, if_pos hp]
  · rw [if_neg hp, if_neg hp]
    by_cases hkey : coarse p = key r
    · rw [if_pos hkey]
      symm
      rw [Option.eq_none_iff_forall_ne_some]
      intro x hx
      obtain ⟨hget, hx⟩ := at?_eq_some.mp hx
      obtain ⟨hmem, hxkey⟩ := get?_eq_some.mp hget
      exact hp (hx.symm.trans (h x hmem (hxkey.trans hkey)))
    · rw [if_neg hkey]

omit hfine in
/-- What has been written for a finer key is not lost under it. -/
theorem isSome_lastAt {m : π → Option ρ} {rows : List ρ} {p : π} (h : (m p).isSome = true) :
    (lastAt fine m rows p).isSome = true := by
  induction rows generalizing m with
  | nil => exact h
  | cons r rows ih =>
      refine ih ?_
      show (Function.update m (fine r) (some r) p).isSome = true
      rw [Function.update_apply]
      by_cases hp : p = fine r
      · rw [if_pos hp]
        rfl
      · rw [if_neg hp]
        exact h

omit hfine in
theorem isSome_lastAt_of_mem {m : π → Option ρ} {rows : List ρ} {r : ρ} (h : r ∈ rows) :
    (lastAt fine m rows (fine r)).isSome = true := by
  induction rows generalizing m with
  | nil => cases h
  | cons x rows ih =>
      show (lastAt fine (Function.update m (fine x) (some x)) rows (fine r)).isSome = true
      rcases List.mem_cons.mp h with rfl | hmem
      · refine isSome_lastAt ?_
        rw [Function.update_self]
        rfl
      · exact ih hmem

/-- **Writes that share a key only with writes of their finer key** are all kept. -/
theorem at?_foldl_put {t : Table key} {rows : List ρ} (h : OneFine fine key (t.rows ++ rows)) :
    (rows.foldl put t).at? fine coarse = lastAt fine (t.at? fine coarse) rows := by
  induction rows generalizing t with
  | nil => rfl
  | cons r rows ih =>
      have hr : r ∈ t.rows ++ r :: rows := List.mem_append_right _ List.mem_cons_self
      have hput : ∀ x ∈ t.rows, key x = key r → fine x = fine r :=
        fun x hx hkey => h x (List.mem_append_left _ hx) r hr hkey
      have hsub : ∀ x ∈ (t.put r).rows ++ rows, x ∈ t.rows ++ r :: rows := by
        intro x hx
        rcases List.mem_append.mp hx with hx | hx
        · rcases mem_put.mp hx with rfl | ⟨hx, -⟩
          · exact hr
          · exact List.mem_append_left _ hx
        · exact List.mem_append_right _ (List.mem_cons_of_mem _ hx)
      have hrest : OneFine fine key ((t.put r).rows ++ rows) :=
        fun x hx y hy hkey => h x (hsub x hx) y (hsub y hy) hkey
      show (rows.foldl put (t.put r)).at? fine coarse = _
      rw [ih hrest, at?_put_eq_update hfine hput]
      rfl

/-- **The exact condition**: every finer key keeps its last write just when the rows that
    share a key share the finer key. -/
theorem at?_foldl_put_iff {t : Table key} {rows : List ρ} :
    (∀ p, (rows.foldl put t).at? fine coarse p = lastAt fine (t.at? fine coarse) rows p) ↔
      OneFine fine key (t.rows ++ rows) := by
  constructor
  · intro h r hr r' hr' hkey
    -- both finer keys have a row, and there is one row under their key
    have hfound : ∀ x ∈ t.rows ++ rows,
        ∃ y, (rows.foldl put t).get? (key x) = some y ∧ fine y = fine x := by
      intro x hx
      have hsome : (lastAt fine (t.at? fine coarse) rows (fine x)).isSome = true := by
        rcases List.mem_append.mp hx with hx | hx
        · refine isSome_lastAt ?_
          rw [at?_of_mem hfine hx]
          rfl
        · exact isSome_lastAt_of_mem hx
      rw [← h, Option.isSome_iff_exists] at hsome
      obtain ⟨y, hy⟩ := hsome
      obtain ⟨hget, hyx⟩ := at?_eq_some.mp hy
      rw [hfine] at hget
      exact ⟨y, hget, hyx⟩
    obtain ⟨y, hget, hy⟩ := hfound r hr
    obtain ⟨y', hget', hy'⟩ := hfound r' hr'
    rw [← hkey, hget] at hget'
    cases hget'
    exact hy.symm.trans hy'
  · intro h p
    rw [at?_foldl_put hfine h]

end PyBoard.Relational.Table
