/-
  PyBoard.Relational.Clients — clients that work on a shared machine.

  A `Service` is a machine and the requests that are served on it.  A request arrives,
  takes steps of its own, which may move the shared machine, and stays in the list when it
  is over.  Steps of the shared machine by others fall between any two of them.

  `Service.shared_moves` is the rule for the shared machine: where a request only moves it
  by its own events, a run of the service is a run of the machine.
-/
import PyBoard.Relational.Machine

namespace PyBoard.Relational

/-- The shared state and the requests, the first first. -/
structure Served (σ ρ : Type) where
  shared : σ
  requests : List ρ

inductive ServiceEvent (ε κ α : Type)
  /-- A step of the shared machine by others. -/
  | shared (e : ε)
  /-- A request arrives. -/
  | arrive (k : κ)
  /-- The request at a place of the list takes a step. -/
  | act (i : Nat) (a : α)

/-- A machine with states `σ` and events `ε`, and requests `ρ` that arrive on `κ` and take
    steps `α`.  `admits` says which events of others may happen beside the requests. -/
structure Service (σ ε ρ κ α : Type) where
  base : Machine σ ε
  admits : List ρ → ε → Bool
  arrive : σ → κ → Option ρ
  act : σ → List ρ → ρ → α → Option (σ × ρ)

namespace Service

variable {σ ε ρ κ α : Type} (v : Service σ ε ρ κ α)

def step (s : Served σ ρ) : ServiceEvent ε κ α → Option (Served σ ρ)
  | .shared e =>
      if v.admits s.requests e then (v.base.step s.shared e).map fun x => { s with shared := x }
      else none
  | .arrive k => (v.arrive s.shared k).map fun r => { s with requests := s.requests ++ [r] }
  | .act i a => do
      let r ← s.requests[i]?
      let (x, r') ← v.act s.shared s.requests r a
      return ⟨x, s.requests.set i r'⟩

def machine : Machine (Served σ ρ) (ServiceEvent ε κ α) := ⟨v.step⟩

variable {v}

/-- **What a step of a service does.** -/
inductive Step (v : Service σ ε ρ κ α) (s : Served σ ρ) : ServiceEvent ε κ α → Served σ ρ → Prop
  | shared (e : ε) (x : σ) (hadmits : v.admits s.requests e = true)
      (hstep : v.base.step s.shared e = some x) : Step v s (.shared e) ⟨x, s.requests⟩
  | arrive (k : κ) (r : ρ) (harrive : v.arrive s.shared k = some r) :
      Step v s (.arrive k) ⟨s.shared, s.requests ++ [r]⟩
  | act (i : Nat) (a : α) (r r' : ρ) (x : σ) (hr : s.requests[i]? = some r)
      (hact : v.act s.shared s.requests r a = some (x, r')) :
      Step v s (.act i a) ⟨x, s.requests.set i r'⟩

theorem step_cases {s s' : Served σ ρ} {e : ServiceEvent ε κ α}
    (h : v.machine.step s e = some s') : Step v s e s' := by
  cases e with
  | shared e =>
      simp only [machine, step] at h
      split at h
      · next hadmits =>
        obtain ⟨x, hx, rfl⟩ := Option.map_eq_some_iff.mp h
        exact .shared e x hadmits hx
      · cases h
  | arrive k =>
      obtain ⟨r, hr, rfl⟩ := Option.map_eq_some_iff.mp h
      exact .arrive k r hr
  | act i a =>
      obtain ⟨r, hr, h⟩ := Option.bind_eq_some_iff.mp h
      obtain ⟨⟨x, r'⟩, hact, h⟩ := Option.bind_eq_some_iff.mp h
      cases h
      exact .act i a r r' x hr hact

/-- **A run of a service is a run of its machine**, where its requests move the machine by
    events of the machine. -/
theorem shared_moves
    (hact : ∀ x rs r a x' r', v.act x rs r a = some (x', r') → x' = x ∨ v.base.Moves x x')
    {s s' : Served σ ρ} {e : ServiceEvent ε κ α} (h : v.machine.step s e = some s') :
    s'.shared = s.shared ∨ v.base.Moves s.shared s'.shared := by
  cases step_cases h with
  | shared e x _ hstep => exact .inr ⟨e, hstep⟩
  | arrive k r _ => exact .inl rfl
  | act i a r r' x _ hstep => exact hact _ _ _ _ _ _ hstep

end Service

/-- What is at a place of a list that has one entry replaced. -/
theorem mem_set_iff {α : Type} {l : List α} {i : Nat} {a b x : α} (hi : l[i]? = some a) :
    x ∈ l.set i b ↔ x = b ∨ ∃ j, j ≠ i ∧ l[j]? = some x := by
  obtain ⟨hlt, -⟩ := List.getElem?_eq_some_iff.mp hi
  rw [List.mem_iff_getElem?]
  constructor
  · rintro ⟨j, hj⟩
    rw [List.getElem?_set] at hj
    by_cases hij : i = j
    · rw [if_pos hij, if_pos hlt] at hj
      exact .inl (Option.some.inj hj).symm
    · rw [if_neg hij] at hj
      exact .inr ⟨j, fun h => hij h.symm, hj⟩
  · rintro (rfl | ⟨j, hne, hj⟩)
    · exact ⟨i, by rw [List.getElem?_set, if_pos rfl, if_pos hlt]⟩
    · exact ⟨j, by rw [List.getElem?_set, if_neg fun h => hne h.symm, hj]⟩

end PyBoard.Relational
