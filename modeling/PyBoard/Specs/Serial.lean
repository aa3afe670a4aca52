/-
  PyBoard.Specs.Serial — the effects of calls that run one after the other.

  In a serial run a call sees one database from its begin to its commit, so what
  its effect says about earlier moments (`Seen`, `SeenUser`, `SeenUnpaid`) is about
  the database it commits to.
-/
import PyBoard.Relational.Exclusive
import PyBoard.Specs.Orders

namespace PyBoard

open Relational

variable {rt : Runtime}

/-- Serial runs of calls under a condition. -/
abbrev SerialRuns (rt : Runtime) (C : Cond Call Tbl) : Server → Server → Prop :=
  Serially (Call.prog rt) C

/-- The contract of a call that runs alone. -/
abbrev alone : Contract Call Tbl := Contract.solo

/-- The effect of a call that ran alone and is about to commit. -/
abbrev Alone (rt : Runtime) (c : Call) (s : State Tbl) (ss : Session Tbl) : Prop :=
  Effect alone rt c.op s ss ss.ws

/-- **Every call that runs alone has its effect when it commits.** -/
theorem Call.alone_spec (c : Call) (s : State Tbl) :
    wp alone (c.prog rt) (Outcome alone (Alone rt) c) s Session.fresh := by
  refine wp_mono (c.prog_spec (C := alone) (s := s) trivial) ?_
  rintro (e | _) s' ss' h
  · trivial
  · exact fun s'' hr => h.rely hr trivial

/-- **Induction over the commits of a serial run.** -/
theorem SerialRuns.state_induction {C : Cond Call Tbl} {c : Server} {db : Database} {now : Int}
    {I : State Tbl → List (Commit Call Tbl) → Prop}
    (hrun : SerialRuns rt C (Server.start db now) c) (hI : I ⟨db, now⟩ [])
    (tick : ∀ s cs d, I s cs → I (s.tick d) cs)
    (commit : ∀ l s ss cs, C.begin l = true → C.commit l s ss = true → Alone rt l s ss →
      I s cs → I (s.commit ss) (⟨l, s, ss⟩ :: cs)) : I c.state c.commits :=
  Serially.state_induction (E := Alone rt) (fun l _ s => l.alone_spec s) hrun hI tick
    fun l s ss cs hb hc _ he => commit l s ss cs hb hc he

section

variable {s : State Tbl}

/-- An order that was read alone is stored. -/
theorem Seen.stored {order_id : Int} {o : Order} (h : Seen alone order_id o s) :
    (s.db .orders).get? order_id = some o := by
  obtain ⟨s₁, hr, ho⟩ := h.when
  rw [hr.solo_db]
  exact ho

/-- A user that was read alone is stored. -/
theorem SeenUser.stored {user_id : Int} {u : User} (h : SeenUser alone user_id u s) :
    (s.db .users).get? user_id = some u := by
  obtain ⟨s₁, hr, hu⟩ := h
  rw [hr.solo_db]
  exact hu

/-- A user that was seen alone without a pending order has none. -/
theorem SeenUnpaid.stored {user_id : Int} (h : SeenUnpaid alone user_id s) :
    ∀ o ∈ (s.db .orders).rows, o.user_id = user_id → o.status ≠ 0 := by
  obtain ⟨s₁, hr, ho⟩ := h
  rw [hr.solo_db]
  exact ho

/-- An UPDATE that ran alone met the version it was computed from, if that was stored. -/
theorem Seen.unique {order_id : Int} {o o' : Order} (h : Seen alone order_id o s)
    (ho' : (s.db .orders).get? order_id = some o') : o = o' :=
  Option.some.inj (h.stored.symm.trans ho')

end

/-! Calls that run at one instant. -/

/-- What a call that runs at the instant `s` relies on: nothing changes. -/
abbrev atOnce (s : State Tbl) : Contract Call Tbl := Contract.soloFrom s.now

section

variable {s : State Tbl} {ss : Session Tbl}

/-- **A call that runs at one instant has its effect.** -/
theorem Call.run_effect {c : Call} (h : (c.prog rt).run s Session.fresh = (.ok (), ss)) :
    Effect (atOnce s) rt c.op s ss ss.ws := by
  have hspec : wp (atOnce s) (c.prog rt) (EffectPost (atOnce s) rt c.op) s Session.fresh :=
    c.prog_spec le_rfl
  have hpost := wp_run le_rfl (fun _ _ => rfl) hspec
  rw [h] at hpost
  exact hpost

theorem SeenUser.at_once {user_id : Int} {u : User} (h : SeenUser (atOnce s) user_id u s) :
    (s.db .users).get? user_id = some u := by
  obtain ⟨s₁, hr, hu⟩ := h
  rw [hr.soloFrom_db]
  exact hu

theorem SeenUnpaid.at_once {user_id : Int} (h : SeenUnpaid (atOnce s) user_id s) :
    ∀ o ∈ (s.db .orders).rows, o.user_id = user_id → o.status ≠ 0 := by
  obtain ⟨s₁, hr, ho⟩ := h
  rw [hr.soloFrom_db]
  exact ho

end

end PyBoard
