/-
  PyBoard.Relational.Ttl — maps whose entries have an expiry time.

  An entry is alive before its expiry time, and for ever when it has none.  A map
  may still store entries that are no longer alive: `purge` is the map without them.
  Two stores that differ only in which dead entries they still keep are related by
  `Trims`; such stores have one purge, and stay related when time passes, when a key
  is assigned and when dead entries are removed.
-/
import Mathlib.Logic.Function.Basic

namespace PyBoard.Relational

/-- A value with an optional expiry time. -/
structure Entry (β : Type) where
  value : β
  expires_at : Option Int

/-- Is the entry alive at a time? -/
def Entry.alive {β : Type} (now : Int) (e : Entry β) : Bool :=
  match e.expires_at with
  | none => true
  | some expires_at => now < expires_at

/-- An entry that is alive was alive before. -/
theorem Entry.alive_of_le {β : Type} {e : Entry β} {now now' : Int} (h : now ≤ now')
    (he : e.alive now' = true) : e.alive now = true := by
  unfold Entry.alive at he ⊢
  split at he <;> simp_all
  omega

/-- A store of entries. -/
abbrev TtlMap (κ β : Type) := κ → Option (Entry β)

namespace TtlMap

variable {κ β : Type} {now now' : Int} {m m₀ : TtlMap κ β}

/-- The map without the entries that are not alive. -/
def purge (now : Int) (m : TtlMap κ β) : TtlMap κ β := fun k => (m k).filter (Entry.alive now)

theorem purge_apply (k : κ) : m.purge now k = (m k).filter (Entry.alive now) := rfl

/-- Purging again later forgets the first time. -/
theorem purge_purge (h : now ≤ now') (m : TtlMap κ β) :
    (m.purge now).purge now' = m.purge now' := by
  funext k
  rw [purge_apply, purge_apply, purge_apply, Option.filter_filter]
  congr 1
  funext e
  by_cases he : e.alive now' = true
  · rw [he, Entry.alive_of_le h he]
    rfl
  · simp [he]

/-- Maps with one purge have one purge later. -/
theorem purge_eq_of_le (h : now ≤ now') (heq : m.purge now = m₀.purge now) :
    m.purge now' = m₀.purge now' := by
  rw [← purge_purge h m, heq, purge_purge h m₀]

/-- Does the map store a dead entry under the key? -/
def Stale (now : Int) (m : TtlMap κ β) (k : κ) : Prop := ∃ e, m k = some e ∧ e.alive now = false

/-- What is stored under a key that is not stale. -/
theorem purge_of_not_stale {k : κ} (h : ¬ m.Stale now k) : m.purge now k = m k := by
  rw [purge_apply]
  cases hk : m k with
  | none => rfl
  | some e =>
      have he : e.alive now = true := by
        by_contra hdead
        exact h ⟨e, hk, by simpa using hdead⟩
      simp [Option.filter, he]

theorem purge_of_stale {k : κ} (h : m.Stale now k) : m.purge now k = none := by
  obtain ⟨e, hk, he⟩ := h
  simp [purge_apply, hk, Option.filter, he]

/-! ## Stores that differ in their dead entries. -/

/-- `m` stores what `m₀` stores, except that some dead entries may be gone. -/
def Trims (now : Int) (m m₀ : TtlMap κ β) : Prop :=
  ∀ k, m k = m₀ k ∨ (m k = none ∧ m₀.Stale now k)

theorem Trims.refl (now : Int) (m : TtlMap κ β) : Trims now m m := fun _ => Or.inl rfl

theorem Trims.trans {m₁ : TtlMap κ β} (h : Trims now m m₁) (h' : Trims now m₁ m₀) :
    Trims now m m₀ := by
  intro k
  rcases h k with hk | ⟨hk, e, he, hdead⟩
  · rw [hk]
    exact h' k
  · rcases h' k with hk' | ⟨hk', -⟩
    · exact Or.inr ⟨hk, e, hk' ▸ he, hdead⟩
    · rw [hk'] at he
      cases he

/-- Dead entries stay dead. -/
theorem Trims.later (h : Trims now m m₀) (hle : now ≤ now') : Trims now' m m₀ := by
  intro k
  rcases h k with hk | ⟨hk, e, he, hdead⟩
  · exact Or.inl hk
  · refine Or.inr ⟨hk, e, he, ?_⟩
    by_contra halive
    rw [Entry.alive_of_le hle (by simpa using halive)] at hdead
    cases hdead

/-- **Both stores hold the same live entries.** -/
theorem Trims.purge_eq (h : Trims now m m₀) : m.purge now = m₀.purge now := by
  funext k
  rcases h k with hk | ⟨hk, hstale⟩
  · rw [purge_apply, purge_apply, hk]
  · rw [purge_of_stale hstale, purge_apply, hk]
    rfl

/-- A key that is not stale in the larger store is not stale in the other. -/
theorem Trims.not_stale (h : Trims now m m₀) {k : κ} (hk : ¬ m₀.Stale now k) :
    ¬ m.Stale now k := by
  rintro ⟨e, he, hdead⟩
  rcases h k with heq | ⟨hnone, -⟩
  · exact hk ⟨e, heq ▸ he, hdead⟩
  · rw [hnone] at he
    cases he

/-- Removing dead entries. -/
theorem trims_purge (now : Int) (m : TtlMap κ β) : Trims now (m.purge now) m := by
  intro k
  by_cases hk : m.Stale now k
  · exact Or.inr ⟨purge_of_stale hk, hk⟩
  · exact Or.inl (purge_of_not_stale hk)

variable [DecidableEq κ]

/-- Assigning a key. -/
theorem purge_update (now : Int) (m : TtlMap κ β) (k : κ) (o : Option (Entry β)) :
    purge now (Function.update m k o)
      = Function.update (m.purge now) k (o.filter (Entry.alive now)) := by
  funext k'
  by_cases hk : k' = k
  · subst hk
    simp [purge_apply]
  · simp [purge_apply, hk]

theorem Trims.update (h : Trims now m m₀) (k : κ) (o : Option (Entry β)) :
    Trims now (Function.update m k o) (Function.update m₀ k o) := by
  intro k'
  by_cases hk : k' = k
  · subst hk
    exact Or.inl (by simp)
  · simpa [Stale, hk] using h k'

/-- Removing the dead entry of one key. -/
def dropDead (now : Int) (m : TtlMap κ β) (k : κ) : TtlMap κ β :=
  Function.update m k (m.purge now k)

theorem trims_dropDead (now : Int) (m : TtlMap κ β) (k : κ) : Trims now (m.dropDead now k) m := by
  intro k'
  by_cases hk : k' = k
  · subst hk
    simpa [dropDead, Stale] using trims_purge now m k'
  · exact Or.inl (by simp [dropDead, hk])

end TtlMap

end PyBoard.Relational
