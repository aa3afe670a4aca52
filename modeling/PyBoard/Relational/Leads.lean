/-
  PyBoard.Relational.Leads — what a program makes of its session.

  A program leads from `J` to `K` if it ends with `K`, raised or not, whenever it begins with
  `J`; a steady program leads from `J` to itself.  `Shows t U` says that a session sees the
  table `U`.  A program that runs alone finds in a table what it sees, and each of its
  statements makes a definite table of it.

  Main definitions:
    * `Contract.Leads`, `Shows`.
-/
import PyBoard.Relational.Exclusive
import PyBoard.Relational.Steady

namespace PyBoard.Relational

open Schema

variable {L T : Type} [Schema T] [DecidableEq T] {ε α β : Type}

/-! ## §1. Programs that lead from one property to another. -/

/-- A program that ends with `K` if it begins with `J`. -/
def Contract.Leads (C : Contract L T) (J K : State T → List (Write T) → Prop)
    (p : Prog T ε α) : Prop :=
  ∀ s (ss : Session T), C.Inv s → J s ss.ws → wp C p (fun _ s' ss' => K s' ss'.ws) s ss

variable {C : Contract L T} {J J' K : State T → List (Write T) → Prop}

theorem Contract.Steady.leads {p : Prog T ε α} (h : C.Steady J p)
    (hend : ∀ s ws, J s ws → K s ws) : C.Leads J K p := by
  intro s ss hi hj
  refine wp_mono (h s ss hi hj) fun _ s' ss' hj' => ?_
  exact hend s' ss'.ws hj'

theorem Contract.Leads.ret (a : α) (hend : ∀ s ws, J s ws → K s ws) :
    C.Leads J K (.ret a : Prog T ε α) := (Contract.Steady.ret a).leads hend

theorem Contract.Leads.throw (e : ε) (hend : ∀ s ws, J s ws → K s ws) :
    C.Leads J K (.throw e : Prog T ε α) := (Contract.Steady.throw e).leads hend

/-- **Sequencing**: a first part that raises ends with `J'`. -/
theorem Contract.Leads.bind {p : Prog T ε α} {f : α → Prog T ε β} (hp : C.Leads J J' p)
    (hf : ∀ a, C.Leads J' K (f a)) (hraise : ∀ s ws, J' s ws → K s ws) :
    C.Leads J K (p.bind f) := by
  intro s ss hi hj
  refine (wp_bind _ _ _ _ _).mpr (wp_mono (wp_inv hi (hp s ss hi hj)) ?_)
  intro r s' ss' h
  cases r with
  | error e => exact hraise s' ss'.ws h.2
  | ok a => exact hf a s' ss' h.1 h.2

/-- **Exceptions**: the handler begins with what the program has made. -/
theorem Contract.Leads.tryCatch {p : Prog T ε α} {handler : ε → Prog T ε α}
    (hp : C.Leads J J' p) (hh : ∀ e, C.Leads J' K (handler e))
    (hend : ∀ s ws, J' s ws → K s ws) : C.Leads J K (p.tryCatch handler) := by
  intro s ss hi hj
  refine (wp_tryCatch _ _ _ _ _).mpr (wp_mono (wp_inv hi (hp s ss hi hj)) ?_)
  intro r s' ss' h
  cases r with
  | error e => exact hh e s' ss' h.1 h.2
  | ok a => exact hend s' ss'.ws h.2

theorem Contract.Leads.ite {c : Prop} [Decidable c] {p q : Prog T ε α} (hp : c → C.Leads J K p)
    (hq : ¬c → C.Leads J K q) : C.Leads J K (if c then p else q) := by
  by_cases hc : c
  · rw [if_pos hc]
    exact hp hc
  · rw [if_neg hc]
    exact hq hc

/-- It is enough to begin with one of the properties that `J` offers. -/
theorem Contract.Leads.exists {ι : Type} {P : ι → Prop} {J : ι → State T → List (Write T) → Prop}
    {p : Prog T ε α} (h : ∀ i, P i → C.Leads (J i) K p) :
    C.Leads (fun s ws => ∃ i, P i ∧ J i s ws) K p := by
  intro s ss hi hj
  obtain ⟨i, hpi, hji⟩ := hj
  exact h i hpi s ss hi hji

theorem Contract.Stable.and (hJ : C.Stable J) (hK : C.Stable K) :
    C.Stable fun s ws => J s ws ∧ K s ws :=
  fun s s' ss hr hi h => ⟨hJ s s' ss hr hi h.1, hK s s' ss hr hi h.2⟩

/-! ## §2. A table that a program alone sees. -/

/-- The session sees the table `U`. -/
def Shows (t : T) (U : Table (key (t := t))) (s : State T) (ws : List (Write T)) : Prop :=
  s.db.apply ws t = U

variable {t : T} {U : Table (key (t := t))}

theorem Shows.stable : (Contract.solo : Contract L T).Stable (Shows t U) := by
  intro s s' ss hr _ h
  show s'.db.apply ss.ws t = U
  rw [hr.solo_db]
  exact h

/-- A write to another table. -/
theorem Shows.other {s : State T} {ws : List (Write T)} (h : Shows t U s ws) {w : Write T}
    (hw : w.table ≠ t) : Shows t U s (ws ++ [w]) := by
  show s.db.apply (ws ++ [w]) t = U
  rw [DB.apply_append]
  exact (DB.write_other _ hw).trans h

theorem Shows.put {s : State T} {ws : List (Write T)} (h : Shows t U s ws) (r : Row t) :
    Shows t (U.put r) s (ws ++ [.put t r]) := by
  show s.db.apply (ws ++ [.put t r]) t = U.put r
  rw [DB.apply_append]
  show (s.db.apply ws).put t r t = U.put r
  rw [DB.put_same, show s.db.apply ws t = U from h]

section

variable (hJ : (Contract.solo : Contract L T).Stable J) (hshows : ∀ s ws, J s ws → Shows t U s ws)

include hJ hshows

theorem Shows.get_bind {f : Option (Row t) → Prog T ε β} {k : Key t}
    (hf : (Contract.solo : Contract L T).Leads J K (f (U.get? k))) :
    (Contract.solo : Contract L T).Leads J K ((Prog.get t k).bind f) := by
  intro s ss hi hj
  refine (wp_bind _ _ _ _ _).mpr fun s' hr hi' _ => ?_
  have hj' : J s' ss.ws := hJ _ _ ss hr hi' hj
  have hfound : (s'.view ss t).get? k = U.get? k :=
    congrArg (·.get? k) (hshows s' ss.ws hj')
  show wp Contract.solo (f ((s'.view ss t).get? k)) _ s' ss
  rw [hfound]
  exact hf s' ss hi' hj'

theorem Shows.select_bind {f : List (Row t) → Prog T ε β} {p : Row t → Bool}
    (hf : (Contract.solo : Contract L T).Leads J K (f (U.rows.filter p))) :
    (Contract.solo : Contract L T).Leads J K ((Prog.select t p).bind f) := by
  intro s ss hi hj
  refine (wp_bind _ _ _ _ _).mpr fun s' hr hi' _ => ?_
  have hj' : J s' ss.ws := hJ _ _ ss hr hi' hj
  have hfound : (s'.view ss t).rows.filter p = U.rows.filter p := by
    rw [show s'.view ss t = U from hshows s' ss.ws hj']
  show wp Contract.solo (f ((s'.view ss t).rows.filter p)) _ s' ss
  rw [hfound]
  exact hf s' ss hi' hj'

end

/-- **An UPDATE of a row as it is stored.** -/
theorem Shows.update_bind {f : Bool → Prog T ε β} {old new : Row t}
    (hget : U.get? (key old) = some old) (hid : key old = key new)
    (hf : (Contract.solo : Contract L T).Leads (Shows t (U.put new)) K (f true)) :
    (Contract.solo : Contract L T).Leads (Shows t U) K ((Prog.update t old new).bind f) := by
  intro s ss hi hj
  refine (wp_bind _ _ _ _ _).mpr fun s' hr hi' _ => ?_
  have hj' : Shows t U s' ss.ws := Shows.stable _ _ ss hr hi' hj
  have hstored : (s'.view ss t).get? (key old) = some old := by
    rw [show s'.view ss t = U from hj', hget]
  rw [Stmt.exec_update_stored hstored hid]
  exact hf s' _ hi' (hj'.put new)

/-- **An INSERT**, refused or not. -/
theorem Shows.insert_bind {f : Bool → Prog T ε β} {r : Row t}
    (hrefused : (Contract.solo : Contract L T).Leads (Shows t U) K (f false))
    (hf : (Contract.solo : Contract L T).Leads (Shows t (U.put r)) K (f true)) :
    (Contract.solo : Contract L T).Leads (Shows t U) K ((Prog.insert t r).bind f) := by
  intro s ss hi hj
  refine (wp_bind _ _ _ _ _).mpr fun s' hr hi' _ => ?_
  have hj' : Shows t U s' ss.ws := Shows.stable _ _ ss hr hi' hj
  rw [Stmt.exec_insert]
  by_cases hrefuses : (s'.view ss).refuses t r = true
  · rw [if_pos hrefuses]
    exact hrefused s' _ hi' hj'
  · rw [if_neg hrefuses]
    exact hf s' _ hi' (hj'.put r)

/-- A request that runs alone from a state, and its own table. -/
theorem Contract.Leads.run {p : Prog T ε α} (s : State T)
    (h : (Contract.solo : Contract L T).Leads (Shows t (s.db t)) K p) :
    K s (p.run s Session.fresh).2.ws :=
  wp_run trivial (fun _ _ => rfl) (h s Session.fresh trivial rfl)

end PyBoard.Relational
