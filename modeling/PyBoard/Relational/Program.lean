/-
  PyBoard.Relational.Program — database programs and what one statement does.

  A program is a free monad over the statements an ORM session issues:
  reads (plain or `FOR UPDATE`), an UPDATE of the columns that changed
  between two versions of a row, an INSERT guarded by the unique
  constraints, a clock reading and a ROLLBACK.  `Stmt.exec` says what one
  statement answers and what it leaves behind in the session; nothing here
  says when it may run (that is `PyBoard.Relational.ReadCommitted`).

  Main definitions:
    * `Schema` — the tables of a database, with the column-wise `merge`
      an ORM UPDATE performs.
    * `Session` — the rows a transaction has written and locked so far;
      `State.view` is the committed database overlaid with those rows.
    * `Prog`, `Stmt.exec`, `Prog.run`.
-/
import Mathlib.Logic.Function.Basic
import PyBoard.Relational.Table

namespace PyBoard.Relational

/-- **The tables of a database.**  `merge old new cur` is the row that
    `UPDATE … SET <columns that differ between old and new> WHERE key`
    leaves when it finds `cur`; `conflict` is what the unique constraints
    refuse besides an equal primary key. -/
class Schema (T : Type) where
  Row : T → Type
  Key : T → Type
  decKey : (t : T) → DecidableEq (Key t)
  key : {t : T} → Row t → Key t
  merge : {t : T} → Row t → Row t → Row t → Row t
  conflict : {t : T} → Row t → Row t → Bool
  key_merge : ∀ {t : T} (old new cur : Row t), key (merge old new cur) = key cur
  merge_self : ∀ {t : T} (old new : Row t), key old = key new → merge old new old = new

open Schema

instance {T : Type} [Schema T] (t : T) : DecidableEq (Key t) := Schema.decKey t

attribute [simp] Schema.key_merge

section

variable (T : Type) [Schema T]

/-- The committed contents of every table. -/
abbrev DB := (t : T) → Table (key (t := t))

/-- The name of a row that can be locked. -/
abbrev RowId := (t : T) × Key t

/-- A row written or removed by a transaction. -/
inductive Write
  | put (t : T) (r : Row t)
  | del (t : T) (k : Key t)

/-- A committed database and the time. -/
structure State where
  db : DB T
  now : Int

/-- What a transaction holds: the rows it has written, oldest first, and the
    row locks it has taken. -/
structure Session where
  ws : List (Write T)
  locks : List (RowId T)

end

variable {T : Type} [Schema T]

/-- The row that a write is about. -/
def Write.rowId : Write T → RowId T
  | .put t r => ⟨t, key r⟩
  | .del t k => ⟨t, k⟩

/-- The table that a write is about. -/
def Write.table (w : Write T) : T := w.rowId.1

@[simp] theorem Write.rowId_put (t : T) (r : Row t) :
    (Write.put t r).rowId = ⟨t, key r⟩ := rfl
@[simp] theorem Write.table_put (t : T) (r : Row t) : (Write.put t r).table = t := rfl
@[simp] theorem Write.table_del (t : T) (k : Key t) : (Write.del t k).table = t := rfl

/-- The session of a transaction that has done nothing. -/
def Session.fresh : Session T := ⟨[], []⟩

@[simp] theorem Session.fresh_ws : (Session.fresh : Session T).ws = [] := rfl
@[simp] theorem Session.fresh_locks : (Session.fresh : Session T).locks = [] := rfl

/-- The state `d` seconds later. -/
def State.tick (s : State T) (d : Nat) : State T := ⟨s.db, s.now + d⟩

@[simp] theorem State.tick_db (s : State T) (d : Nat) : (s.tick d).db = s.db := rfl
@[simp] theorem State.tick_now (s : State T) (d : Nat) : (s.tick d).now = s.now + d := rfl

variable [DecidableEq T]

/-! ## §1. Writing rows over a database. -/

/-- Store one row. -/
def DB.put (db : DB T) (t : T) (r : Row t) : DB T :=
  Function.update db t ((db t).put r)

/-- Remove one row. -/
def DB.del (db : DB T) (t : T) (k : Key t) : DB T :=
  Function.update db t ((db t).erase k)

@[simp]
theorem DB.put_same (db : DB T) (t : T) (r : Row t) :
    db.put t r t = (db t).put r := Function.update_self ..

theorem DB.put_other (db : DB T) {t t' : T} (r : Row t) (h : t' ≠ t) :
    db.put t r t' = db t' := Function.update_of_ne h ..

@[simp]
theorem DB.del_same (db : DB T) (t : T) (k : Key t) :
    db.del t k t = (db t).erase k := Function.update_self ..

theorem DB.del_other (db : DB T) {t t' : T} (k : Key t) (h : t' ≠ t) :
    db.del t k t' = db t' := Function.update_of_ne h ..

/-- Perform one write. -/
def DB.write (db : DB T) : Write T → DB T
  | .put t r => db.put t r
  | .del t k => db.del t k

/-- Perform a list of writes, first to last. -/
def DB.apply (db : DB T) (ws : List (Write T)) : DB T := ws.foldl DB.write db

@[simp] theorem DB.apply_nil (db : DB T) : db.apply [] = db := rfl

@[simp]
theorem DB.apply_cons (db : DB T) (w : Write T) (ws : List (Write T)) :
    db.apply (w :: ws) = (db.write w).apply ws := rfl

theorem DB.apply_append (db : DB T) (ws ws' : List (Write T)) :
    db.apply (ws ++ ws') = (db.apply ws).apply ws' := List.foldl_append ..

theorem DB.write_other (db : DB T) {t : T} {w : Write T} (h : w.table ≠ t) :
    db.write w t = db t := by
  cases w with
  | put t' r => exact DB.put_other db r (Ne.symm h)
  | del t' k => exact DB.del_other db k (Ne.symm h)

/-- **Frame**: a row that is not written keeps its value. -/
theorem DB.get?_write_of_ne (db : DB T) {t : T} {k : Key t} {w : Write T}
    (h : w.rowId ≠ ⟨t, k⟩) : (db.write w t).get? k = (db t).get? k := by
  by_cases ht : w.table = t
  · cases w with
    | put t' r =>
      change t' = t at ht
      subst ht
      exact (congrArg (·.get? k) (DB.put_same db _ r)).trans
        (Table.get?_put_of_ne _ fun hk => h (by rw [hk]; rfl))
    | del t' k' =>
      change t' = t at ht
      subst ht
      have hk : k ≠ k' := fun hk => h (by rw [hk]; rfl)
      exact (congrArg (·.get? k) (DB.del_same db _ k')).trans
        ((Table.get?_erase _ _ _).trans (if_neg hk))
  · rw [DB.write_other db ht]

/-- What a written database finds under a key depends on the underlying database
    only through that key. -/
theorem DB.get?_write_congr {db db' : DB T} {t : T} {k : Key t} (w : Write T)
    (h : (db t).get? k = (db' t).get? k) :
    (db.write w t).get? k = (db'.write w t).get? k := by
  by_cases ht : w.table = t
  · cases w with
    | put t' r =>
      change t' = t at ht
      subst ht
      simp only [DB.write, DB.put_same, Table.get?_put, h]
    | del t' k' =>
      change t' = t at ht
      subst ht
      simp only [DB.write, DB.del_same, Table.get?_erase, h]
  · rw [DB.write_other db ht, DB.write_other db' ht, h]

theorem DB.get?_apply_congr {db db' : DB T} {t : T} {k : Key t} (ws : List (Write T))
    (h : (db t).get? k = (db' t).get? k) :
    (db.apply ws t).get? k = (db'.apply ws t).get? k := by
  induction ws generalizing db db' with
  | nil => exact h
  | cons w ws ih => exact ih (DB.get?_write_congr w h)

theorem DB.get?_apply_of_not_mem (db : DB T) (ws : List (Write T)) {t : T} {k : Key t}
    (h : ∀ w ∈ ws, Write.rowId w ≠ ⟨t, k⟩) :
    (db.apply ws t).get? k = (db t).get? k := by
  induction ws generalizing db with
  | nil => rfl
  | cons w ws ih =>
    rw [DB.apply_cons, ih _ (fun w' hw' => h w' (List.mem_cons_of_mem _ hw')),
      DB.get?_write_of_ne db (h w List.mem_cons_self)]

/-- **Columns that are kept**: a quantity of the rows of `t` stays when every write to `t`
    stores a row over a stored one that has the same quantity. -/
theorem DB.map_get?_apply {β : Type} {db : DB T} {t : T} (f : Row t → β) {ws : List (Write T)}
    (h : ∀ w ∈ ws, Write.table w = t → ∃ r r₀ : Row t, w = .put t r ∧
      (db t).get? (key r) = some r₀ ∧ f r = f r₀) (k : Key t) :
    ((db.apply ws t).get? k).map f = ((db t).get? k).map f := by
  induction ws generalizing db with
  | nil => rfl
  | cons w ws ih =>
    have hwrite : ∀ k, ((db.write w t).get? k).map f = ((db t).get? k).map f := by
      intro k
      by_cases ht : w.table = t
      · obtain ⟨r, r₀, rfl, hr₀, hf⟩ := h w List.mem_cons_self ht
        rw [DB.write, DB.put_same, Table.get?_put]
        split
        · next hk => rw [hk, hr₀, Option.map_some, Option.map_some, hf]
        · rfl
      · rw [DB.write_other db ht]
    rw [DB.apply_cons, ih (fun w' hw' ht' => ?_), hwrite]
    obtain ⟨r, r₀, hr, hr₀, hf⟩ := h w' (List.mem_cons_of_mem _ hw') ht'
    have hsome : ((db.write w t).get? (key r)).map f = some (f r₀) := by
      rw [hwrite, hr₀, Option.map_some]
    obtain ⟨r₁, hr₁, hf₁⟩ := Option.map_eq_some_iff.mp hsome
    exact ⟨r, r₁, hr, hr₁, hf.trans hf₁.symm⟩

/-- A table that no write names is unchanged. -/
theorem DB.apply_of_table_not_mem (db : DB T) (ws : List (Write T)) {t : T}
    (h : ∀ w ∈ ws, Write.table w ≠ t) : db.apply ws t = db t := by
  induction ws generalizing db with
  | nil => rfl
  | cons w ws ih =>
    rw [DB.apply_cons, ih _ (fun w' hw' => h w' (List.mem_cons_of_mem _ hw')),
      DB.write_other db (h w List.mem_cons_self)]

theorem DB.write_congr {db db' : DB T} {t : T} (w : Write T) (h : db t = db' t) :
    db.write w t = db'.write w t := by
  by_cases ht : w.table = t
  · cases w with
    | put t' r =>
      change t' = t at ht
      subst ht
      simp only [DB.write, DB.put_same, h]
    | del t' k =>
      change t' = t at ht
      subst ht
      simp only [DB.write, DB.del_same, h]
  · rw [DB.write_other db ht, DB.write_other db' ht, h]

theorem DB.apply_congr {db db' : DB T} {t : T} (ws : List (Write T)) (h : db t = db' t) :
    db.apply ws t = db'.apply ws t := by
  induction ws generalizing db db' with
  | nil => exact h
  | cons w ws ih => exact ih (DB.write_congr w h)

/-- What becomes of one table depends on the writes that name it. -/
theorem DB.apply_filter (db : DB T) (ws : List (Write T)) (t : T) :
    db.apply ws t = db.apply (ws.filter fun w => w.table = t) t := by
  induction ws generalizing db with
  | nil => rfl
  | cons w ws ih =>
    by_cases ht : w.table = t
    · rw [List.filter_cons_of_pos (by simpa using ht), DB.apply_cons, DB.apply_cons, ih]
    · rw [List.filter_cons_of_neg (by simpa using ht), DB.apply_cons, ← ih]
      exact DB.apply_congr ws (DB.write_other db ht)

/-! ## §2. What a session sees. -/

/-- The committed database overlaid with the session's own writes. -/
def State.view (s : State T) (ss : Session T) : DB T := s.db.apply ss.ws

/-- The state after the session has committed. -/
def State.commit (s : State T) (ss : Session T) : State T := ⟨s.view ss, s.now⟩

@[simp] theorem State.view_fresh (s : State T) : s.view Session.fresh = s.db := rfl
@[simp] theorem State.commit_db (s : State T) (ss : Session T) :
    (s.commit ss).db = s.view ss := rfl
@[simp] theorem State.commit_now (s : State T) (ss : Session T) :
    (s.commit ss).now = s.now := rfl

/-! ## §3. Statements. -/

/-- The statements an ORM session issues. -/
inductive Stmt (T : Type) [Schema T] : Type
  /-- SELECT by primary key; `lock` is FOR UPDATE. -/
  | get (t : T) (k : Key t) (lock : Bool)
  /-- SELECT of the rows that satisfy a predicate. -/
  | select (t : T) (p : Row t → Bool) (lock : Bool)
  /-- UPDATE of the columns in which `new` differs from `old`. -/
  | update (t : T) (old new : Row t)
  | insert (t : T) (r : Row t)
  /-- INSERT … ON CONFLICT (key) DO UPDATE: `f` computes the new version. -/
  | upsert (t : T) (r : Row t) (f : Row t → Row t)
  /-- DELETE by primary key. -/
  | delete (t : T) (k : Key t)
  /-- Take a lock only if nobody else holds it (`pg_try_advisory_xact_lock`, SKIP LOCKED).
      `granted` is the answer; the statement runs only where it is the right one. -/
  | tryLock (t : T) (k : Key t) (granted : Bool)
  | clock
  | rollback

/-- The answer of a statement; a write answers whether it concerned a row, an
    upsert the row it leaves. -/
def Stmt.Resp : Stmt T → Type
  | .get t _ _ => Option (Row t)
  | .select t _ _ => List (Row t)
  | .update .. => Bool
  | .insert .. => Bool
  | .upsert t _ _ => Row t
  | .delete .. => Bool
  | .tryLock .. => Bool
  | .clock => Int
  | .rollback => Unit

/-- The row locks a statement takes. -/
def Stmt.wants (s : State T) (ss : Session T) : Stmt T → List (RowId T)
  | .get t k true => ((s.view ss t).get? k).toList.map fun _ => ⟨t, k⟩
  | .select t p true => ((s.view ss t).rows.filter p).map fun r => ⟨t, key r⟩
  | .update t old _ => [⟨t, key old⟩]
  | .insert t r => [⟨t, key r⟩]
  | .upsert t r _ => [⟨t, key r⟩]
  | .delete t k => [⟨t, k⟩]
  | .tryLock t k true => [⟨t, k⟩]
  | _ => []

/-- Perform a write and keep the lock of its row. -/
def Session.write (ss : Session T) (w : Write T) : Session T :=
  ⟨ss.ws ++ [w], w.rowId :: ss.locks⟩

/-- Take row locks. -/
def Session.lock (ss : Session T) (ids : List (RowId T)) : Session T :=
  ⟨ss.ws, ids ++ ss.locks⟩

/-- Would the unique constraints of `t` refuse `r`? -/
def DB.refuses (db : DB T) (t : T) (r : Row t) : Bool :=
  (db t).rows.any fun r' => key r' = key r || conflict r' r

/-- **What a statement does** when it runs in `s` for the session `ss`.  An
    UPDATE meets the current version of its row and changes only the columns
    that the program changed. -/
def Stmt.exec (s : State T) (ss : Session T) : (st : Stmt T) → st.Resp × Session T
  | .get t k lock =>
      ((s.view ss t).get? k, ss.lock (Stmt.wants s ss (.get t k lock)))
  | .select t p lock =>
      ((s.view ss t).rows.filter p, ss.lock (Stmt.wants s ss (.select t p lock)))
  | .update t old new =>
      match (s.view ss t).get? (key old) with
      | none => (false, ss.lock [⟨t, key old⟩])
      | some cur => (true, ss.write (.put t (merge old new cur)))
  | .insert t r =>
      if (s.view ss).refuses t r then (false, ss.lock [⟨t, key r⟩])
      else (true, ss.write (.put t r))
  | .upsert t r f =>
      match (s.view ss t).get? (key r) with
      | none => (r, ss.write (.put t r))
      | some cur => (merge cur (f cur) cur, ss.write (.put t (merge cur (f cur) cur)))
  | .delete t k =>
      match (s.view ss t).get? k with
      | none => (false, ss.lock [⟨t, k⟩])
      | some _ => (true, ss.write (.del t k))
  | .tryLock t k granted => (granted, ss.lock (Stmt.wants s ss (.tryLock t k granted)))
  | .clock => (s.now, ss)
  | .rollback => ((), Session.fresh)

theorem Stmt.exec_update (s : State T) (ss : Session T) (t : T) (old new : Row t) :
    (Stmt.update t old new).exec s ss =
      match (s.view ss t).get? (key old) with
      | none => (false, ss.lock [⟨t, key old⟩])
      | some cur => (true, ss.write (.put t (merge old new cur))) := rfl

/-- The UPDATE of a row that is stored as it was read. -/
theorem Stmt.exec_update_stored {s : State T} {ss : Session T} {t : T} {old new : Row t}
    (h : (s.view ss t).get? (key old) = some old) (hk : key old = key new) :
    (Stmt.update t old new).exec s ss = (true, ss.write (.put t new)) := by
  rw [Stmt.exec_update, h]
  dsimp only
  rw [merge_self old new hk]
  rfl

theorem Stmt.exec_insert (s : State T) (ss : Session T) (t : T) (r : Row t) :
    (Stmt.insert t r).exec s ss =
      if (s.view ss).refuses t r then (false, ss.lock [⟨t, key r⟩])
      else (true, ss.write (.put t r)) := rfl

theorem Stmt.exec_upsert (s : State T) (ss : Session T) (t : T) (r : Row t)
    (f : Row t → Row t) :
    (Stmt.upsert t r f).exec s ss =
      match (s.view ss t).get? (key r) with
      | none => (r, ss.write (.put t r))
      | some cur => (merge cur (f cur) cur, ss.write (.put t (merge cur (f cur) cur))) := rfl

theorem Stmt.exec_delete (s : State T) (ss : Session T) (t : T) (k : Key t) :
    (Stmt.delete t k).exec s ss =
      match (s.view ss t).get? k with
      | none => (false, ss.lock [⟨t, k⟩])
      | some _ => (true, ss.write (.del t k)) := rfl

/-! ## §4. Programs. -/

/-- A program over the statements, failing with errors `ε`. -/
inductive Prog (T : Type) [Schema T] (ε α : Type) : Type
  | ret (a : α)
  | throw (e : ε)
  | step (st : Stmt T) (k : st.Resp → Prog T ε α)

namespace Prog

variable {ε α β : Type}

/-- Sequencing. -/
def bind : Prog T ε α → (α → Prog T ε β) → Prog T ε β
  | ret a, f => f a
  | throw e, _ => throw e
  | step st k, f => step st fun r => (k r).bind f

/-- `try … except`: the handler decides what becomes of an error. -/
def tryCatch : Prog T ε α → (ε → Prog T ε α) → Prog T ε α
  | ret a, _ => ret a
  | throw e, h => h e
  | step st k, h => step st fun r => (k r).tryCatch h

instance : Monad (Prog T ε) where
  pure := ret
  bind := bind

omit [DecidableEq T] in
@[simp] theorem pure_eq (a : α) : (pure a : Prog T ε α) = ret a := rfl
omit [DecidableEq T] in
@[simp] theorem bind_eq (p : Prog T ε α) (f : α → Prog T ε β) : p >>= f = p.bind f := rfl

omit [DecidableEq T] in
theorem bind_assoc {γ : Type} (p : Prog T ε α) (f : α → Prog T ε β) (g : β → Prog T ε γ) :
    (p.bind f).bind g = p.bind fun a => (f a).bind g := by
  induction p with
  | ret a => rfl
  | throw e => rfl
  | step st k ih =>
      simp only [bind]
      congr 1
      funext r
      exact ih r

/-- One statement. -/
def ofStmt (st : Stmt T) : Prog T ε st.Resp := step st ret

/-- SELECT by primary key. -/
def get (t : T) (k : Key t) : Prog T ε (Option (Row t)) := ofStmt (.get t k false)

/-- SELECT by primary key FOR UPDATE. -/
def getForUpdate (t : T) (k : Key t) : Prog T ε (Option (Row t)) := ofStmt (.get t k true)

def select (t : T) (p : Row t → Bool) : Prog T ε (List (Row t)) := ofStmt (.select t p false)

def selectForUpdate (t : T) (p : Row t → Bool) : Prog T ε (List (Row t)) :=
  ofStmt (.select t p true)

def update (t : T) (old new : Row t) : Prog T ε Bool := ofStmt (.update t old new)

def insert (t : T) (r : Row t) : Prog T ε Bool := ofStmt (.insert t r)

def upsert (t : T) (r : Row t) (f : Row t → Row t) : Prog T ε (Row t) :=
  ofStmt (.upsert t r f)

def delete (t : T) (k : Key t) : Prog T ε Bool := ofStmt (.delete t k)

def tryLock (t : T) (k : Key t) (granted : Bool) : Prog T ε Bool := ofStmt (.tryLock t k granted)

def clock : Prog T ε Int := ofStmt .clock

def rollback : Prog T ε Unit := ofStmt .rollback

/-- Run a program alone, at one instant. -/
def run (s : State T) : Prog T ε α → Session T → Except ε α × Session T
  | ret a, ss => (.ok a, ss)
  | throw e, ss => (.error e, ss)
  | step st k, ss => (k (st.exec s ss).1).run s (st.exec s ss).2

theorem run_bind (s : State T) (p : Prog T ε α) (f : α → Prog T ε β) (ss : Session T) :
    (p.bind f).run s ss =
      match p.run s ss with
      | (.ok a, ss') => (f a).run s ss'
      | (.error e, ss') => (.error e, ss') := by
  induction p generalizing ss with
  | ret a => rfl
  | throw e => rfl
  | step st k ih => exact ih _ _

/-- A program that returns went through its first part. -/
theorem run_bind_ok {s : State T} {p : Prog T ε α} {f : α → Prog T ε β} {ss ss' : Session T}
    {b : β} (h : (p.bind f).run s ss = (.ok b, ss')) :
    ∃ a ss₁, p.run s ss = (.ok a, ss₁) ∧ (f a).run s ss₁ = (.ok b, ss') := by
  rw [run_bind] at h
  rcases hp : p.run s ss with ⟨e | a, ss₁⟩
  · rw [hp] at h
    cases h
  · rw [hp] at h
    exact ⟨a, ss₁, rfl, h⟩

/-! One statement and the rest of the program, running alone. -/

section

variable {s : State T} {ss : Session T} {t : T} {k : Key t}

theorem run_select_bind {p : Row t → Bool} {f : List (Row t) → Prog T ε β} :
    ((select t p).bind f).run s ss = (f ((s.view ss t).rows.filter p)).run s ss := rfl

theorem run_get_bind {f : Option (Row t) → Prog T ε β} :
    ((get t k).bind f).run s ss = (f ((s.view ss t).get? k)).run s ss := rfl

theorem run_getForUpdate_bind {f : Option (Row t) → Prog T ε β} :
    ((getForUpdate t k).bind f).run s ss = (f ((s.view ss t).get? k)).run s
      (ss.lock (((s.view ss t).get? k).toList.map fun _ => ⟨t, k⟩)) := rfl

theorem run_getForUpdate_found {r : Row t} {f : Option (Row t) → Prog T ε β}
    (h : (s.view ss t).get? k = some r) :
    ((getForUpdate t k).bind f).run s ss = (f (some r)).run s (ss.lock [⟨t, k⟩]) := by
  rw [run_getForUpdate_bind, h]
  rfl

theorem run_clock_bind {f : Int → Prog T ε β} :
    (clock.bind f).run s ss = (f s.now).run s ss := rfl

theorem run_delete_bind {f : Bool → Prog T ε β} :
    ((delete t k).bind f).run s ss
      = (f ((Stmt.delete t k).exec s ss).1).run s ((Stmt.delete t k).exec s ss).2 := rfl

theorem run_update_bind {old new : Row t} {f : Bool → Prog T ε β} :
    ((update t old new).bind f).run s ss
      = (f ((Stmt.update t old new).exec s ss).1).run s ((Stmt.update t old new).exec s ss).2 :=
  rfl

theorem run_insert_bind {r : Row t} {f : Bool → Prog T ε β} :
    ((insert t r).bind f).run s ss
      = (f ((Stmt.insert t r).exec s ss).1).run s ((Stmt.insert t r).exec s ss).2 := rfl

theorem run_upsert_bind {r : Row t} {g : Row t → Row t} {f : Row t → Prog T ε β} :
    ((upsert t r g).bind f).run s ss
      = (f ((Stmt.upsert t r g).exec s ss).1).run s ((Stmt.upsert t r g).exec s ss).2 := rfl

end

theorem run_tryCatch (s : State T) (p : Prog T ε α) (h : ε → Prog T ε α)
    (ss : Session T) :
    (p.tryCatch h).run s ss =
      match p.run s ss with
      | (.ok a, ss') => (.ok a, ss')
      | (.error e, ss') => (h e).run s ss' := by
  induction p generalizing ss with
  | ret a => rfl
  | throw e => rfl
  | step st k ih => exact ih _ _

end Prog

end PyBoard.Relational
