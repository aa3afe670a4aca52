/-
  PyBoard.Services.Setting — typed reads of the configuration.

  `SettingService` without a cache, as the jobs build it: a read goes to the row.  With
  the runtime cache in front of the table it is `PyBoard.Services.SettingCache`.
-/
import PyBoard.Repositories.Queries

namespace PyBoard.SettingService

open Relational

variable (rt : Runtime)

/-- `_get_cached`. -/
def getCached (key : String) : Db (Option String) := do
  let item ← SettingRepository.getByKey key
  return item.map (·.value)

def getStr (key default : String) : Db String := do
  return (← getCached key).getD default

/-- `int(val) if val is not None else default`. -/
def getInt (key : String) (default : Int) : Db Int := do
  match ← getCached key with
  | none => return default
  | some val =>
    match rt.int_of_str val with
    | some i => return i
    | none => Prog.throw (.value "invalid literal for int()")

/-- `orjson.loads(val) if val is not None else default`. -/
def getJson (key : String) (default : Json) : Db Json := do
  match ← getCached key with
  | none => return default
  | some val =>
    match rt.orjson_loads val with
    | some v => return v
    | none => Prog.throw (.value "JSONDecodeError")

end PyBoard.SettingService
