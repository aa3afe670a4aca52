/-
  PyBoard.Results.Removals — plans, payment methods and routes that are deleted.

  Whatever else runs, a deletion that commits has deleted nothing, or its row and nothing
  else, and each of its queries has found nothing at a moment of the same transaction
  (`removals_are_guarded`).  The moments need not be the commit: an order that is placed
  between the queries and the DELETE refers to a plan that is gone (`order_of_deleted_plan`).

  Main results:
    * `removals_are_guarded`.
-/
import PyBoard.Python.Utc
import PyBoard.Specs.Removals
import PyBoard.Operations

namespace PyBoard

open Relational

variable {rt : Runtime} {L : Type} {others : L → Db Unit}
  {c : Config (Removal ⊕ L) Tbl PyExc Unit} {cm : Commit (Removal ⊕ L) Tbl} {op : Removal}

/-! ## §1. Runs. -/

/-- Deletions among other requests. -/
def Removal.among (rt : Runtime) (others : L → Db Unit) : Removal ⊕ L → Db Unit :=
  Sum.elim (Removal.prog rt) others

/-- The transaction of a deletion has removed its row, and each of its queries has found
    nothing at a moment of the transaction. -/
structure RemovedGuarded (rt : Runtime) (others : L → Db Unit)
    (start c₁ c₂ c : Config (Removal ⊕ L) Tbl PyExc Unit) (cm : Commit (Removal ⊕ L) Tbl)
    (op : Removal) : Prop where
  began : ∃ c₀, Reaches (Removal.among rt others) Cond.any start c₀ ∧
    c₀.step (Removal.among rt others) (.begin cm.label) = some c₁
  since : Reaches (Removal.among rt others) Cond.any c₁ c₂
  committed : c₂.state = cm.before
  later : Reaches (Removal.among rt others) Cond.any c₂ c
  removed : cm.after.db = cm.before.db.apply [op.write]
  guarded : op.Guarded rt (During (Between (Removal.among rt others) Cond.any c₁ c₂)
    c₁.state.now c₂.state.now)

/-- **A deletion deletes nothing, or its queries have found nothing**, in every interleaved run
    of deletions and any other requests. -/
theorem removals_are_guarded {s : State Tbl}
    (hrun : Reaches (Removal.among rt others) Cond.any (.quiet s) c) (hcm : cm ∈ c.commits)
    (hlabel : cm.label = .inl op) :
    cm.after.db = cm.before.db ∨ ∃ c₁ c₂, RemovedGuarded rt others (.quiet s) c₁ c₂ c cm op := by
  obtain ⟨c₁, c₂, hlater, hspan⟩ := hrun.spanned.commits cm hcm
  obtain ⟨_, s, _, hdone⟩ := hspan.within fun hclean => by
    rw [hlabel]
    exact Removal.guarded op hclean
  cases hdone with
  | inl hnothing =>
    refine Or.inl ?_
    show cm.before.db.apply cm.session.ws = cm.before.db
    rw [hnothing]
    rfl
  | inr hdone =>
    obtain ⟨hws, hguarded⟩ := hdone
    refine Or.inr ⟨c₁, c₂, hspan.began, hspan.since, hspan.state, hlater, ?_, hguarded⟩
    show cm.before.db.apply cm.session.ws = _
    rw [hws]

/-! ## §2. An order that comes between. -/

/-- A user and a plan that nobody has bought. -/
def unsoldPlan : State Tbl where
  now := 1700000000
  db := Database.empty.apply [
    .put Tbl.users ({ id := 1, email := "a@example.com", password := "", token := "",
                      uuid := "" } : User),
    .put Tbl.plan ({ id := 1, group_id := 1, transfer_enable := 0, «show» := true,
                     month_price := some 150 } : Plan)]

/-- The plan is found unsold, it is ordered, and it is deleted. -/
def orderBetween : List (Event (Removal ⊕ Call)) :=
  .begin (.inl (.plan 1)) :: List.replicate 4 (.exec 0) ++
    .begin (.inr ⟨.createOrder 1 ⟨1, "month_price", none, none⟩, ⟨1, 0, "A"⟩⟩) ::
      List.replicate 8 (.exec 1) ++ [.finish 1, .exec 0, .finish 0]

/-- The identifiers of the stored plans, and the plans of the stored orders. -/
structure Sold where
  plans : List Int
  ordered : List Int
  deriving DecidableEq

def Sold.of (db : Database) : Sold where
  plans := (db .plan).rows.map Plan.id
  ordered := (db .orders).rows.map Order.plan_id

/-- What the deletions of the plan find and leave when they commit. -/
def deletionsOf (c : Config (Removal ⊕ Call) Tbl PyExc Unit) : List (Sold × Sold) :=
  c.commits.filterMap fun cm =>
    match cm.label with
    | .inl (.plan 1) => some (Sold.of cm.before.db, Sold.of cm.after.db)
    | _ => none

/-- **The plan of an order is gone**: it was ordered after the deletion had looked for orders. -/
theorem order_of_deleted_plan : ∃ c : Config (Removal ⊕ Call) Tbl PyExc Unit,
    Reaches (Removal.among Utc.bare (Call.prog Utc.bare)) Cond.any (.quiet unsoldPlan) c ∧
      ∃ cm ∈ c.commits, cm.label = .inl (.plan 1) ∧
        Sold.of cm.before.db = ⟨[1], [1]⟩ ∧ Sold.of cm.after.db = ⟨[], [1]⟩ := by
  obtain ⟨c, -, hrun, -, hdeleted, -⟩ : ∃ c c' : Config (Removal ⊕ Call) Tbl PyExc Unit,
      Reaches (Removal.among Utc.bare (Call.prog Utc.bare)) Cond.any (.quiet unsoldPlan) c ∧
      Reaches (Removal.among Utc.bare (Call.prog Utc.bare)) Cond.any c c' ∧
      deletionsOf c = [(⟨[1], [1]⟩, ⟨[], [1]⟩)] ∧ deletionsOf c' = [(⟨[1], [1]⟩, ⟨[], [1]⟩)] :=
    Reaches.exists_of_steps orderBetween [] deletionsOf (by decide +kernel)
  obtain ⟨cm, hcm, hobserved⟩ := List.mem_filterMap.mp (hdeleted ▸ List.mem_singleton.mpr rfl)
  split at hobserved
  · next hlabel =>
    obtain ⟨hbefore, hafter⟩ := Prod.mk.inj (Option.some.inj hobserved)
    exact ⟨c, hrun, cm, hcm, hlabel, hbefore, hafter⟩
  · cases hobserved

/-- Its deletion had found no order and no active user, at moments of its own. -/
theorem removals_are_guarded_ordered :
    ∃ (c c₁ c₂ : Config (Removal ⊕ Call) Tbl PyExc Unit) (cm : Commit (Removal ⊕ Call) Tbl),
      Sold.of cm.before.db = ⟨[1], [1]⟩ ∧ Sold.of cm.after.db = ⟨[], [1]⟩ ∧
      RemovedGuarded Utc.bare (Call.prog Utc.bare) (.quiet unsoldPlan) c₁ c₂ c cm (.plan 1) := by
  obtain ⟨c, hrun, cm, hcm, hlabel, hbefore, hafter⟩ := order_of_deleted_plan
  have hchanged : cm.after.db ≠ cm.before.db := by
    intro hsame
    rw [hsame, hbefore] at hafter
    cases hafter
  obtain ⟨c₁, c₂, hguarded⟩ := (removals_are_guarded hrun hcm hlabel).resolve_left hchanged
  exact ⟨c, c₁, c₂, cm, hbefore, hafter, hguarded⟩

end PyBoard
