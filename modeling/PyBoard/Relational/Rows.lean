/-
  PyBoard.Relational.Rows — a property of all rows of a table.

  A table keeps a property of its rows in every interleaved run if no transaction that
  commits stores a row without it.  An UPDATE of some columns stores a row that is made of
  two others, so the property of the row that it meets counts as well.

  Main definitions:
    * `AllRows`, `Puts` — the rows of a database, and those that a session stores.
    * `Contract.rows` — the contract of the property.
    * `Contract.keeping` — the contract of an invariant that every commit keeps.

  Main results: `Reaches.rows`, `Reaches.keeping`.
-/
import PyBoard.Relational.Exclusive
import PyBoard.Relational.Steady

namespace PyBoard.Relational

open Schema

variable {L T : Type} [Schema T] [DecidableEq T] {ε α : Type} {t : T} {P : Row t → Prop}

/-- Every row of the table has the property. -/
def AllRows (P : Row t → Prop) (db : DB T) : Prop := ∀ r ∈ (db t).rows, P r

/-- If the write stores a row of the table, the row has the property. -/
def Puts (P : Row t → Prop) (w : Write T) : Prop := ∀ r : Row t, w = .put t r → P r

omit [DecidableEq T] in
theorem Puts.of_table {w : Write T} (h : w.table ≠ t) : Puts P w := by
  intro r hw
  rw [hw] at h
  exact absurd rfl h

omit [DecidableEq T] in
theorem Puts.put {r : Row t} (h : P r) : Puts P (.put t r) := by
  intro r' hr'
  injection hr' with _ hr'
  exact hr' ▸ h

/-- A session that stores rows with the property leaves such rows. -/
theorem AllRows.apply {db : DB T} {ws : List (Write T)} (h : AllRows P db)
    (hws : ∀ w ∈ ws, Puts P w) : AllRows P (db.apply ws) := by
  intro r hr
  rcases DB.get?_apply_some (Table.get?_of_mem hr) with hold | hput
  · exact h r (Table.mem_of_get? hold)
  · exact hws _ hput r rfl

/-- The contract of the property: who commits has stored rows with it. -/
def Contract.rows (C : Cond L T) (P : Row t → Prop) : Contract L T where
  toCond := C
  Inv s := AllRows P s.db
  Evol _ _ _ := True
  Guar _ _ ss := ∀ w ∈ ss.ws, Puts P w
  evol_refl _ _ := trivial
  evol_trans _ _ := trivial
  evol_mono _ _ := trivial
  inv_tick _ h := h
  evol_tick _ _ _ := trivial
  guar_inv h _ hws := h.apply hws
  guar_evol _ _ _ _ := trivial

variable {C : Cond L T}

omit [DecidableEq T] in
/-- A session that stores rows with the property bears one more. -/
theorem rows_append {ws : List (Write T)} {s : State T} {w : Write T} (hw : Puts P w)
    (h : Only (Puts P) s ws) : Only (Puts P) s (ws ++ [w]) := h.append hw

theorem rows_stable : (Contract.rows C P).Stable (Only (Puts P)) := Only.stable _ _

/-- **UPDATE**: the row that is met has the property. -/
theorem steady_update_rows {old new : Row t} (hmerge : ∀ cur, P cur → P (merge old new cur)) :
    (Contract.rows C P).Steady (Only (Puts P)) (Prog.update t old new : Prog T ε _) := by
  intro s ss _ hj s' hr hi _
  rw [Stmt.exec_update]
  split
  · exact hj
  · next cur hcur =>
    have hseen : AllRows P (s'.view ss) := hi.apply hj
    exact rows_append (.put (hmerge cur (hseen cur (Table.mem_of_get? hcur)))) hj

/-- **The property holds in every state that is reached**, if every transaction that may commit
    stores rows with it. -/
theorem Reaches.rows {progOf : L → Prog T ε α} {s : State T} {c : Config L T ε α}
    (hprog : ∀ l, C.begin l = true → (∃ s ss, C.commit l s ss = true) →
      (Contract.rows C P).Steady (Only (Puts P)) (progOf l))
    (hr : Reaches progOf C (.quiet s) c) (h : AllRows P s.db) : AllRows P c.state.db := by
  refine (hr.sound (C := Contract.rows C P) (fun l hl s hi => ?_) (.quiet h)).inv
  by_cases hcommit : ∃ s ss, C.commit l s ss = true
  · refine wp_mono (hprog l hl hcommit s Session.fresh hi (Only.nil _ s)) ?_
    intro r s' ss' hj
    cases r with
    | error e => trivial
    | ok a => exact fun _ _ _ _ => hj
  · -- a transaction that never commits guarantees nothing
    refine wp_of_forall (fun r s' ss' => ?_) s Session.fresh
    cases r with
    | error e => trivial
    | ok a => exact fun s'' _ _ hadm => absurd ⟨s'', ss', hadm⟩ hcommit

/-! An invariant of the database, and what the sessions that commit have written. -/

/-- The contract of an invariant: every commit keeps it. -/
def Contract.keeping (C : Cond L T) (I : DB T → Prop) : Contract L T where
  toCond := C
  Inv s := I s.db
  Evol _ _ _ := True
  Guar _ s ss := I (s.view ss)
  evol_refl _ _ := trivial
  evol_trans _ _ := trivial
  evol_mono _ _ := trivial
  inv_tick _ h := h
  evol_tick _ _ _ := trivial
  guar_inv _ _ h := h
  guar_evol _ _ _ _ := trivial

/-- **The invariant holds in every state that is reached**, if a session that satisfies `E`
    keeps it wherever it may commit. -/
theorem Reaches.keeping {progOf : L → Prog T ε α} {s : State T} {c : Config L T ε α}
    {I : DB T → Prop} {E : L → Session T → Prop}
    (hprog : ∀ l s, I s.db → wp (Contract.keeping C I) (progOf l)
      (fun r _ ss' => ∀ a, r = .ok a → E l ss') s Session.fresh)
    (hcommit : ∀ l s ss, I s.db → E l ss → C.commit l s ss = true → I (s.view ss))
    (hr : Reaches progOf C (.quiet s) c) (h : I s.db) : I c.state.db := by
  refine (hr.sound (C := Contract.keeping C I) (fun l _ s hi => ?_) (.quiet h)).inv
  refine wp_mono (hprog l s hi) ?_
  intro r s' ss' hpost
  cases r with
  | error e => trivial
  | ok a => exact fun s'' _ hi' hadm => hcommit l s'' ss' hi' (hpost a rfl) hadm

end PyBoard.Relational
