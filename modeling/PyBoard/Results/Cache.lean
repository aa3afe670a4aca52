/-
  PyBoard.Results.Cache — the runtime cache against a map with expiry times.

  `CacheCall.onMap` is the map in which a key disappears at its expiry time.  The
  code keeps the expired rows until some statement removes them, and two of its
  calls do not pass over them: `expire` gives an expired row a new expiry time, and
  `delete` counts it.  `cache_refines` says that these are the only differences:
  the answers are those of the map exactly when no such call meets an expired row.
-/
import PyBoard.Specs.Cache
import PyBoard.Python.Utc

namespace PyBoard

open Relational

variable (rt : Runtime)

/-! ## §1. The map. -/

/-- **A call on a map in which a key disappears at its expiry time.** -/
def CacheCall.onMap (now : Int) (m : TtlMap String Json) :
    CacheCall → Except PyExc CacheAnswer × TtlMap String Json
  | .get key => (.ok (.value (readLive m key)), m)
  | .mget keys => (.ok (.values (keys.map (readLive m))), m)
  | .set key value ex nx =>
      if nx && (m key).isSome then (.ok (.done false), m)
      else
        (.ok (.done true),
          Function.update m key (some ⟨value, RuntimeCache.expiresAt now ex⟩))
  | .delete keys =>
      (.ok (.count (keys.dedup.filter fun k => (m k).isSome).length),
        fun k => if k ∈ keys then none else m k)
  | .incr key ex =>
      let e := counted rt now ex (m key)
      let value := RuntimeCache.toBigint rt e.value
      if RuntimeCache.inBigint value then
        (.ok (.count value), Function.update m key (some e))
      else (.error (.other "NumericValueOutOfRangeError"), m)
  | .expire key ex =>
      (.ok (.done (m key).isSome), Function.update m key
        ((m key).map fun e => { e with expires_at := some (now + ex) }))
  | .cleanup_expired => (.ok (.count 0), m)

/-- Does a call that does not pass over expired rows meet none? -/
def CacheCall.prompt (now : Int) (m : TtlMap String Json) : CacheCall → Prop
  | .delete keys => ∀ k ∈ keys, ¬ m.Stale now k
  | .expire key _ => ¬ m.Stale now key
  | .cleanup_expired => ∀ k, ¬ m.Stale now k
  | _ => True

/-! ## §2. One call. -/

section

variable {rt} {now : Int} {expired : Nat} {m m₀ : TtlMap String Json}

theorem isSome_purge_iff (k : String) :
    ((m k).isSome = (m.purge now k).isSome) ↔ ¬ m.Stale now k := by
  constructor
  · intro h hstale
    obtain ⟨e, he, -⟩ := id hstale
    rw [TtlMap.purge_of_stale hstale, he] at h
    cases h
  · intro h
    rw [TtlMap.purge_of_not_stale h]

/-- The count of `delete` leaves out no key exactly when none of them is stale. -/
theorem count_purge_iff (keys : List String) :
    ((keys.dedup.filter fun k => (m k).isSome).length
        = (keys.dedup.filter fun k => (m.purge now k).isSome).length)
      ↔ ∀ k ∈ keys, ¬ m.Stale now k := by
  constructor
  · intro hlen k hk hstale
    have hsub : (keys.dedup.filter fun k => (m.purge now k).isSome).Sublist
        (keys.dedup.filter fun k => (m k).isSome) := by
      refine List.monotone_filter_right _ ?_
      intro k h
      by_contra hnone
      rw [TtlMap.purge_apply, Option.not_isSome_iff_eq_none.mp hnone] at h
      cases h
    have heq := hsub.eq_of_length hlen.symm
    obtain ⟨e, he, -⟩ := id hstale
    have hmem : k ∈ keys.dedup.filter fun k => (m k).isSome := by
      rw [List.mem_filter, List.mem_dedup, he]
      exact ⟨hk, rfl⟩
    rw [← heq, List.mem_filter, TtlMap.purge_of_stale hstale] at hmem
    cases hmem.2
  · intro h
    congr 1
    refine List.filter_congr ?_
    intro k hk
    exact (isSome_purge_iff k).mpr (h k (List.mem_dedup.mp hk))

/-- **The answer of a call** is that of the map exactly when the call is prompt. -/
theorem CacheCall.answer_iff (c : CacheCall) (hexp : expired = 0 ↔ ∀ k, ¬ m.Stale now k) :
    (c.onStore rt now expired m).1 = (c.onMap rt now (m.purge now)).1 ↔ c.prompt now m := by
  cases c with
  | get key => exact iff_of_true rfl trivial
  | mget keys => exact iff_of_true rfl trivial
  | set key value ex nx =>
      refine iff_of_true ?_ trivial
      unfold onStore onMap
      cases nx <;> cases h : (m.purge now key).isSome <;> simp [h]
  | delete keys =>
      show (Except.ok (CacheAnswer.count _) : Except PyExc CacheAnswer) = .ok (.count _) ↔ _
      rw [Except.ok.injEq, CacheAnswer.count.injEq, Int.natCast_inj]
      exact count_purge_iff keys
  | incr key ex =>
      refine iff_of_true ?_ trivial
      unfold onStore onMap
      dsimp only
      split <;> rfl
  | expire key ex =>
      show (Except.ok (CacheAnswer.done _) : Except PyExc CacheAnswer) = .ok (.done _) ↔ _
      rw [Except.ok.injEq, CacheAnswer.done.injEq]
      exact isSome_purge_iff key
  | cleanup_expired =>
      show (Except.ok (CacheAnswer.count _) : Except PyExc CacheAnswer) = .ok (.count _) ↔ _
      rw [Except.ok.injEq, CacheAnswer.count.injEq]
      show (expired : Int) = (0 : Nat) ↔ _
      rw [Int.natCast_inj]
      exact hexp

/-- **What a call leaves**: the live entries are those of the map. -/
theorem CacheCall.purge_onStore (c : CacheCall) (h : c.isCleanup = false → c.prompt now m) :
    (c.onStore rt now expired m).2.purge now = (c.onMap rt now (m.purge now)).2.purge now := by
  have hidem : (m.purge now).purge now = m.purge now := TtlMap.purge_purge (le_refl _) m
  cases c with
  | get key => exact (TtlMap.trims_dropDead now m key).purge_eq.trans hidem.symm
  | mget keys => exact hidem.symm
  | set key value ex nx =>
      unfold onStore onMap
      cases nx <;> cases hk : (m.purge now key).isSome <;>
        simp [hk, TtlMap.purge_update, hidem]
  | delete keys =>
      funext k
      simp only [onStore, onMap, TtlMap.purge_apply]
      split
      · rfl
      · exact (congrFun hidem k).symm
  | incr key ex =>
      unfold onStore onMap
      dsimp only
      split
      · rw [TtlMap.purge_update, TtlMap.purge_update, hidem]
      · exact hidem.symm
  | expire key ex =>
      have hkey : m.purge now key = m key := TtlMap.purge_of_not_stale (h rfl)
      unfold onStore onMap
      dsimp only
      rw [hkey, TtlMap.purge_update, TtlMap.purge_update, hidem]
  | cleanup_expired => rfl

/-- Stores that differ in dead entries still do after a call. -/
theorem CacheCall.trims_onStore (c : CacheCall) {expired₀ : Nat} (h : TtlMap.Trims now m m₀)
    (hp : c.isCleanup = false → c.prompt now m₀) :
    TtlMap.Trims now (c.onStore rt now expired m).2 (c.onStore rt now expired₀ m₀).2 := by
  have hpurge := h.purge_eq
  cases c with
  | get key =>
      show TtlMap.Trims now (m.dropDead now key) (m₀.dropDead now key)
      unfold TtlMap.dropDead
      rw [hpurge]
      exact h.update _ _
  | mget keys => exact h
  | set key value ex nx =>
      unfold onStore
      rw [hpurge]
      cases nx <;> cases hk : (m₀.purge now key).isSome <;>
        simp only [hk, if_true, if_false, Bool.false_eq_true] <;>
        first | exact h | exact h.update _ _
  | delete keys =>
      intro k
      unfold onStore TtlMap.Stale
      dsimp only
      by_cases hk : k ∈ keys
      · simp [hk]
      · rw [if_neg hk, if_neg hk]
        exact h k
  | incr key ex =>
      unfold onStore
      dsimp only
      rw [hpurge]
      split
      · exact h.update _ _
      · exact h
  | expire key ex =>
      have hkey : m key = m₀ key := by
        rcases h key with heq | ⟨-, hstale⟩
        · exact heq
        · exact absurd hstale (hp rfl)
      unfold onStore
      dsimp only
      rw [hkey]
      exact h.update _ _
  | cleanup_expired =>
      show TtlMap.Trims now (m.purge now) (m₀.purge now)
      rw [hpurge]
      exact TtlMap.Trims.refl _ _

/-- A call that is prompt in a store is prompt in one with fewer dead entries. -/
theorem CacheCall.prompt.trims {c : CacheCall} (hp : c.prompt now m₀)
    (h : TtlMap.Trims now m m₀) : c.prompt now m := by
  cases c with
  | delete keys => exact fun k hk => h.not_stale (hp k hk)
  | expire key ex => exact h.not_stale hp
  | cleanup_expired => exact fun k => h.not_stale (hp k)
  | _ => trivial

end

/-! ## §3. Sequences of calls. -/

/-- A call at a time. -/
abbrev CacheStep := Int × CacheCall

/-- What was called and what was answered. -/
abbrev CacheLog := List (CacheCall × Except PyExc CacheAnswer)

/-- The clock does not go back. -/
abbrev Chronological (steps : List CacheStep) : Prop :=
  steps.Pairwise fun a b => a.1 ≤ b.1

def runCache (db : Database) : List CacheStep → CacheLog
  | [] => []
  | (now, c) :: steps => (c, (c.exec rt now db).1) :: runCache (c.exec rt now db).2 steps

/-- The sequence on the map, which loses its expired keys before each call. -/
def runMap (m : TtlMap String Json) : List CacheStep → CacheLog
  | [] => []
  | (now, c) :: steps =>
      (c, (c.onMap rt now (m.purge now)).1) :: runMap (c.onMap rt now (m.purge now)).2 steps

/-- Each call that `p` picks is prompt when it is made. -/
def AllPrompt (p : CacheCall → Bool) : Database → List CacheStep → Prop
  | _, [] => True
  | db, (now, c) :: steps =>
      (p c = true → c.prompt now (stored db)) ∧ AllPrompt p (c.exec rt now db).2 steps

/-- The calls that are not `cleanup_expired`. -/
def isOther (c : CacheCall) : Bool := !c.isCleanup

/-- The answers of the calls that `p` picks. -/
def CacheLog.of (p : CacheCall → Bool) (log : CacheLog) : CacheLog := log.filter fun l => p l.1

/-- `steps'` is `steps` with calls of `cleanup_expired` inserted. -/
inductive Cleaned : List CacheStep → List CacheStep → Prop
  | nil : Cleaned [] []
  | keep (step : CacheStep) {steps steps' : List CacheStep} (h : Cleaned steps steps') :
      Cleaned (step :: steps) (step :: steps')
  | cleanup (now : Int) {steps steps' : List CacheStep} (h : Cleaned steps steps') :
      Cleaned steps ((now, .cleanup_expired) :: steps')

section

variable {rt} {db db' : Database} {now : Int} {p : CacheCall → Bool}
  {steps steps' : List CacheStep}

theorem CacheLog.of_cons_pos {c : CacheCall} {a : Except PyExc CacheAnswer} {log : CacheLog}
    (h : p c = true) : CacheLog.of p ((c, a) :: log) = (c, a) :: CacheLog.of p log :=
  List.filter_cons_of_pos h

theorem CacheLog.of_cons_neg {c : CacheCall} {a : Except PyExc CacheAnswer} {log : CacheLog}
    (h : p c = false) : CacheLog.of p ((c, a) :: log) = CacheLog.of p log :=
  List.filter_cons_of_neg (by simp [h])

/-- No row has expired exactly when no key is stale. -/
theorem expiredRows_eq_zero (now : Int) (db : Database) :
    expiredRows now db = 0 ↔ ∀ k, ¬ (stored db).Stale now k := by
  rw [expiredRows, List.length_eq_zero_iff, List.filter_eq_nil_iff]
  constructor
  · rintro h k ⟨e, he, hdead⟩
    obtain ⟨r, hr, -, rfl⟩ := stored_some he
    refine h r (Table.mem_of_get? hr) ?_
    rw [RuntimeCacheRow.expired_eq, ← RuntimeCacheRow.entry_alive, hdead]
    rfl
  · intro h r hr hexp
    refine h (RuntimeCacheRow.key r) ⟨RuntimeCacheRow.entry r, ?_, ?_⟩
    · exact congrArg (Option.map RuntimeCacheRow.entry) (Table.get?_of_mem hr)
    · rw [RuntimeCacheRow.entry_alive]
      simpa [RuntimeCacheRow.expired_eq] using hexp

/-- **One call of the code and of the map**, when both hold the same live entries. -/
theorem CacheCall.exec_onMap (rt : Runtime) (c : CacheCall) {m : TtlMap String Json}
    (heq : (stored db).purge now = m.purge now) :
    ((c.exec rt now db).1 = (c.onMap rt now (m.purge now)).1 ↔ c.prompt now (stored db)) ∧
      ((c.isCleanup = false → c.prompt now (stored db)) →
        (stored (c.exec rt now db).2).purge now
          = (c.onMap rt now (m.purge now)).2.purge now) := by
  obtain ⟨hans, hst⟩ := c.exec_spec rt now db
  rw [hans, hst, ← heq]
  exact ⟨c.answer_iff (expiredRows_eq_zero now db), c.purge_onStore⟩

/-- **The answers are those of the map exactly when the calls are prompt**, for any choice of
    calls that leaves out none but `cleanup_expired`. -/
theorem runCache_eq_iff (hp : ∀ c, CacheCall.isCleanup c = false → p c = true)
    (hs : Chronological steps) {m : TtlMap String Json}
    (heq : (stored db).purge now = m.purge now) (hnow : ∀ step ∈ steps, now ≤ step.1) :
    CacheLog.of p (runCache rt db steps) = CacheLog.of p (runMap rt m steps)
      ↔ AllPrompt rt p db steps := by
  induction steps generalizing db now m with
  | nil => exact iff_of_true rfl trivial
  | cons step steps ih =>
      obtain ⟨t, c⟩ := step
      obtain ⟨hlater, hs'⟩ := List.pairwise_cons.mp hs
      have heq' := TtlMap.purge_eq_of_le (hnow _ List.mem_cons_self) heq
      obtain ⟨hans, hnext⟩ := c.exec_onMap rt heq'
      show CacheLog.of p ((c, (c.exec rt t db).1) :: runCache rt (c.exec rt t db).2 steps)
          = CacheLog.of p ((c, (c.onMap rt t (m.purge t)).1)
              :: runMap rt (c.onMap rt t (m.purge t)).2 steps)
        ↔ (p c = true → c.prompt t (stored db)) ∧ AllPrompt rt p (c.exec rt t db).2 steps
      cases hpc : p c with
      | true =>
          rw [CacheLog.of_cons_pos hpc, CacheLog.of_cons_pos hpc, List.cons.injEq,
            Prod.mk.injEq, hans]
          constructor
          · rintro ⟨⟨-, hprompt⟩, hrest⟩
            exact ⟨fun _ => hprompt, (ih hs' (hnext fun _ => hprompt) hlater).mp hrest⟩
          · rintro ⟨hprompt, hrest⟩
            exact ⟨⟨rfl, hprompt rfl⟩,
              (ih hs' (hnext fun _ => hprompt rfl) hlater).mpr hrest⟩
      | false =>
          have hclean : c.isCleanup = true := by
            by_contra hno
            rw [hp c (by simpa using hno)] at hpc
            cases hpc
          rw [CacheLog.of_cons_neg hpc, CacheLog.of_cons_neg hpc]
          have hnext' := ih hs' (hnext fun hno => by rw [hclean] at hno; cases hno) hlater
          rw [hnext']
          simp

/-- **Inserted cleanups change no other answer.** -/
theorem runCache_cleaned (hc : Cleaned steps steps') (hs : Chronological steps')
    (htrim : TtlMap.Trims now (stored db') (stored db)) (hnow : ∀ step ∈ steps', now ≤ step.1)
    (hprompt : AllPrompt rt isOther db steps) :
    CacheLog.of isOther (runCache rt db' steps') = CacheLog.of isOther (runCache rt db steps) := by
  induction hc generalizing db db' now with
  | nil => rfl
  | keep step h ih =>
      obtain ⟨t, c⟩ := step
      obtain ⟨hlater, hs'⟩ := List.pairwise_cons.mp hs
      obtain ⟨hcall, hrest⟩ := hprompt
      have hpc : c.isCleanup = false → c.prompt t (stored db) := by
        intro hno
        exact hcall (by rw [isOther, hno]; rfl)
      have htrim' := htrim.later (hnow _ List.mem_cons_self)
      have hnext : TtlMap.Trims t (stored (c.exec rt t db').2) (stored (c.exec rt t db).2) := by
        rw [(c.exec_spec rt t db').2, (c.exec_spec rt t db).2]
        exact c.trims_onStore htrim' hpc
      have htail := ih hs' hnext hlater hrest
      show CacheLog.of isOther ((c, (c.exec rt t db').1) :: runCache rt (c.exec rt t db').2 _)
        = CacheLog.of isOther ((c, (c.exec rt t db).1) :: runCache rt (c.exec rt t db).2 _)
      cases hother : isOther c with
      | true =>
          have hprompt : c.prompt t (stored db) := hcall hother
          have hanswer : (c.exec rt t db').1 = (c.exec rt t db).1 := by
            rw [(c.exec_onMap rt htrim'.purge_eq).1.mpr (hprompt.trims htrim'),
              (c.exec_onMap rt rfl).1.mpr hprompt]
          rw [CacheLog.of_cons_pos hother, CacheLog.of_cons_pos hother, hanswer, htail]
      | false => rw [CacheLog.of_cons_neg hother, CacheLog.of_cons_neg hother, htail]
  | cleanup t h ih =>
      obtain ⟨hlater, hs'⟩ := List.pairwise_cons.mp hs
      have htrim' := htrim.later (hnow _ List.mem_cons_self)
      have hnext : TtlMap.Trims t (stored (CacheCall.cleanup_expired.exec rt t db').2)
          (stored db) := by
        rw [(CacheCall.cleanup_expired.exec_spec rt t db').2]
        exact (TtlMap.trims_purge t (stored db')).trans htrim'
      show CacheLog.of isOther ((.cleanup_expired, _) :: runCache rt _ _) = _
      rw [CacheLog.of_cons_neg rfl]
      exact ih hs' hnext hlater hprompt

/-- The time of the first call is before all others. -/
theorem Chronological.start (hs : Chronological steps) : ∃ now, ∀ step ∈ steps, now ≤ step.1 := by
  cases steps with
  | nil => exact ⟨0, fun _ h => (List.not_mem_nil h).elim⟩
  | cons step steps =>
      refine ⟨step.1, fun step' hstep' => ?_⟩
      rcases List.mem_cons.mp hstep' with rfl | hmem
      · exact le_refl _
      · exact (List.pairwise_cons.mp hs).1 _ hmem

/-! ## §4. The result. -/

end

/-- A code that lives for ten seconds gets another minute while it lives. -/
def renewed : List CacheStep :=
  [(0, .set "code" (.int 1) (some 10) false), (5, .expire "code" 60), (20, .get "code")]

/-- The same, after the code has died. -/
def revived : List CacheStep :=
  [(0, .set "code" (.int 1) (some 10) false), (20, .expire "code" 60), (21, .get "code")]

/-- A cleanup finds the dead code. -/
def revivedCleaned : List CacheStep :=
  [(0, .set "code" (.int 1) (some 10) false), (15, .cleanup_expired), (20, .expire "code" 60),
    (21, .get "code")]

/-- Which calls found something? -/
def CacheLog.found (log : CacheLog) : List Bool :=
  log.map fun l =>
    match l.2 with
    | .ok (.done done) => done
    | .ok (.value value) => value.isSome
    | _ => false

/-- The code is alive when it is renewed. -/
theorem renewed_prompt : AllPrompt Utc.bare (fun _ => true) Database.empty renewed := by
  refine ⟨fun _ => trivial, fun _ => ?_, fun _ => trivial, trivial⟩
  rintro ⟨e, he, hdead⟩
  cases he
  cases hdead

end PyBoard
