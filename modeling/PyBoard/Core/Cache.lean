/-
  PyBoard.Core.Cache — the runtime cache.

  `RuntimeCache` keeps JSON documents in the table `runtime_cache`, each with an
  optional expiry.  An expired row stays in the table until some statement removes
  it, and every operation has its own way of passing over it.  A document is what
  the JSONB column gives back; `Json.null` is read as `None`.

  Every operation reads the clock once, before its first statement.
-/
import PyBoard.Relational.Bulk
import PyBoard.Repositories.Queries

namespace PyBoard

open Relational

/-- `expires_at IS NULL OR expires_at > :now`. -/
def RuntimeCacheRow.live (now : Int) (row : RuntimeCacheRow) : Bool :=
  match row.expires_at with
  | none => true
  | some expires_at => now < expires_at

/-- `expires_at IS NOT NULL AND expires_at <= :now`. -/
def RuntimeCacheRow.expired (now : Int) (row : RuntimeCacheRow) : Bool :=
  match row.expires_at with
  | none => false
  | some expires_at => expires_at ≤ now

theorem RuntimeCacheRow.expired_eq (now : Int) (row : RuntimeCacheRow) :
    row.expired now = !row.live now := by
  unfold expired live
  cases row.expires_at with
  | none => rfl
  | some e =>
      simp only [← decide_not, not_lt]

namespace RuntimeCache

variable (rt : Runtime)

/-- `_decode_jsonb`. -/
def decodeJsonb : Json → Option Json
  | .null => none
  | value => some value

/-- `now + ex if ex else None`. -/
def expiresAt (now : Int) (ex : Option Int) : Option Int :=
  match ex with
  | none => none
  | some ex => if ex = 0 then none else some (now + ex)

/-- `_delete_expired_key`. -/
def deleteExpiredKey (key : String) (now : Int) : Db Unit := do
  let _rows ← Prog.deleteReturning Tbl.runtime_cache fun (r : RuntimeCacheRow) =>
    r.key = key && r.expired now
  return ()

def get (key : String) : Db (Option Json) := do
  let now ← time
  let rows ← Prog.select Tbl.runtime_cache fun (r : RuntimeCacheRow) =>
    r.key = key && r.live now
  let value := rows.head?.bind fun (r : RuntimeCacheRow) => decodeJsonb r.value
  whenever (value.isNone) (deleteExpiredKey key now)
  return value

def mget (keys : List String) : Db (List (Option Json)) := do
  if keys.isEmpty then return []
  else
    let now ← time
    let rows ← Prog.select Tbl.runtime_cache fun (r : RuntimeCacheRow) =>
      r.key ∈ keys && r.live now
    return keys.map fun key =>
      (rows.find? fun (r : RuntimeCacheRow) => r.key = key).bind fun r => decodeJsonb r.value

/-- The row of a conflict, after `DO UPDATE`. -/
def overwrite (row cur : RuntimeCacheRow) : RuntimeCacheRow :=
  { cur with value := row.value, expires_at := row.expires_at }

def set (key : String) (value : Json) (ex : Option Int) (nx : Bool := false) : Db Bool := do
  let now ← time
  let row : RuntimeCacheRow := { key := key, value := value, expires_at := expiresAt now ex }
  if nx then
    deleteExpiredKey key now
    Prog.insert Tbl.runtime_cache row
  else
    let _row ← Prog.upsert Tbl.runtime_cache row (overwrite row)
    return true

def delete (keys : List String) : Db Int := do
  if keys.isEmpty then return 0
  else
    let rows ← Prog.deleteReturning Tbl.runtime_cache fun (r : RuntimeCacheRow) => r.key ∈ keys
    return rows.length

/-- The value of a text of the form `^-?[0-9]+$`; other texts count as zero. -/
def bigintOfText (text : String) : Int :=
  let digits := fun (l : List Char) =>
    if l.isEmpty ∨ !l.all Char.isDigit then (0 : Int)
    else (l.foldl (fun (n : Nat) c => 10 * n + (c.toNat - '0'.toNat)) 0 : Nat)
  match text.toList with
  | '-' :: l => -digits l
  | l => digits l

/-- `CASE WHEN (value #>> '{}') ~ '^-?[0-9]+$' THEN (value #>> '{}')::bigint ELSE 0 END`. -/
def toBigint : Json → Int
  | .int i => i
  | .str s => bigintOfText s
  | .float x => rt.bigint_of_float x
  | _ => 0

/-- The row of a conflict, after the `DO UPDATE` of `incr`. -/
def increment (row : RuntimeCacheRow) (now : Int) (cur : RuntimeCacheRow) : RuntimeCacheRow :=
  if cur.expired now then
    { cur with value := .int 1, expires_at := row.expires_at }
  else
    { cur with
      value := .int (toBigint rt cur.value + 1)
      expires_at := match cur.expires_at with
        | none => row.expires_at
        | some e => some e }

/-- Is the sum one that `bigint` arithmetic can have reached? -/
def inBigint (i : Int) : Bool := -2 ^ 63 < i && i < 2 ^ 63

/-- `incr`.  A value that leaves the range of `bigint` fails the statement. -/
def incr (key : String) (ex : Option Int) : Db Int := do
  let now ← time
  let row : RuntimeCacheRow := { key := key, value := .int 1, expires_at := expiresAt now ex }
  let row ← Prog.upsert Tbl.runtime_cache row (increment rt row now)
  let value := toBigint rt (RuntimeCacheRow.value row)
  if inBigint value then return value
  else Prog.throw (.other "NumericValueOutOfRangeError")

def expire (key : String) (ex : Int) : Db Bool := do
  let now ← time
  let rows ← Prog.updateReturning Tbl.runtime_cache (fun (r : RuntimeCacheRow) => r.key = key)
    fun (r : RuntimeCacheRow) => { r with expires_at := some (now + ex) }
  return !rows.isEmpty

def cleanupExpired : Db Int := do
  let now ← time
  let rows ← Prog.deleteReturning Tbl.runtime_cache fun (r : RuntimeCacheRow) => r.expired now
  return rows.length

end RuntimeCache

end PyBoard
