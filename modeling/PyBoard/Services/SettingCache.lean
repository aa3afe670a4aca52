/-
  PyBoard.Services.SettingCache — the configuration behind the runtime cache.

  `SettingService` with a cache: a read takes the cached text if there is one, and
  otherwise reads the row and stores a copy of it for an hour; a write changes the
  row and then stores or removes the copy, all in the transaction of its request.
  The reads without a cache are those of `PyBoard.Services.Setting`; a service that is
  built in both ways reads by `SettingSource`.
-/
import PyBoard.Core.Cache
import PyBoard.Services.Setting

namespace PyBoard.SettingService.Cached

open Relational

variable (rt : Runtime)

/-! ## §1. The copies. -/

/-- `f"{_CACHE_PREFIX}{key}"`. -/
def cacheKey (key : String) : String := "setting:" ++ key

/-- `_CACHE_TTL`. -/
def CACHE_TTL : Int := 3600

/-- `_cache_set`. -/
def cacheSet (key value : String) : Db Unit := do
  let _done ← RuntimeCache.set (cacheKey key) (.str value) (some CACHE_TTL)
  return ()

/-- `_cache_delete`. -/
def cacheDelete (key : String) : Db Unit := do
  let _count ← RuntimeCache.delete [cacheKey key]
  return ()

/-! ## §2. Reads. -/

/-- `_get_cached`. -/
def getCached (key : String) : Db (Option String) := do
  match ← RuntimeCache.get (cacheKey key) with
  | some val => return some (rt.str val)
  | none =>
    match ← SettingRepository.getByKey key with
    | none => return none
    | some item =>
      cacheSet key item.value
      return some item.value

def getStr (key default : String) : Db String := do
  return (← getCached rt key).getD default

/-- `int(val) if val is not None else default`. -/
def getInt (key : String) (default : Int) : Db Int := do
  match ← getCached rt key with
  | none => return default
  | some val =>
    match rt.int_of_str val with
    | some i => return i
    | none => Prog.throw (.value "invalid literal for int()")

/-- `orjson.loads(val) if val is not None else default`. -/
def getJson (key : String) (default : Json) : Db Json := do
  match ← getCached rt key with
  | none => return default
  | some val =>
    match rt.orjson_loads val with
    | some v => return v
    | none => Prog.throw (.value "JSONDecodeError")

/-! ## §3. Writes. -/

/-- `self.repo.update(item)`: the UPDATE of the columns that changed, if any did, and a
    refresh of the row. -/
def updateItem (old new : Setting) : Db Setting := do
  whenever (old ≠ new) (save .setting old new)
  match ← Prog.get Tbl.setting old.id with
  | none => Prog.throw (.other "InvalidRequestError")
  | some item => return item

/-- `str_value` of `set`. -/
def strValue (value : Json) (type_ : String) : String :=
  if type_ = "json" then rt.orjson_dumps value else rt.str value

/-- 设置配置值，自动同步运行期缓存。  A new row draws the identifier `id`. -/
def set (id : Int) (key : String) (value : Json) (type_ : String := "str") : Db Unit := do
  let str_value := strValue rt value type_
  match ← SettingRepository.getByKey key with
  | some existing =>
    let _item ← updateItem existing { existing with value := str_value, type := type_ }
    cacheSet key str_value
  | none =>
    create .setting ({ id := id, key := key, value := str_value, type := type_ } : Setting)
    cacheSet key str_value

/-- 更新配置: the fields that the request sets. -/
structure SettingUpdate where
  value : Option String := none
  type : Option String := none

/-- `setattr(item, field, value)` for the fields that are set. -/
def SettingUpdate.apply (data : SettingUpdate) (item : Setting) : Setting :=
  { item with value := data.value.getD item.value, type := data.type.getD item.type }

def updateSetting (setting_id : Int) (data : SettingUpdate) : Db Unit := do
  match ← Prog.get Tbl.setting setting_id with
  | none => Prog.throw (NotFoundException ("配置 " ++ toString setting_id ++ " 不存在"))
  | some item =>
    let item ← updateItem item (data.apply item)
    cacheSet (Setting.key item) (Setting.value item)

def deleteSetting (setting_id : Int) : Db Unit := do
  match ← Prog.get Tbl.setting setting_id with
  | none => Prog.throw (NotFoundException ("配置 " ++ toString setting_id ++ " 不存在"))
  | some item =>
    let _found ← Prog.delete Tbl.setting setting_id
    cacheDelete (Setting.key item)

end PyBoard.SettingService.Cached

namespace PyBoard

open Relational

/-! ## §4. Both ways to read. -/

/-- The `SettingService` that a service was given: one without a cache, as a job builds it, or
    one behind the runtime cache, as `get_setting_service` builds it for a request. -/
inductive SettingSource
  | stored
  | cached
  deriving DecidableEq

namespace SettingSource

variable (rt : Runtime)

def getStr (settings : SettingSource) (key default : String) : Db String :=
  match settings with
  | .stored => SettingService.getStr key default
  | .cached => SettingService.Cached.getStr rt key default

def getInt (settings : SettingSource) (key : String) (default : Int) : Db Int :=
  match settings with
  | .stored => SettingService.getInt rt key default
  | .cached => SettingService.Cached.getInt rt key default

def getJson (settings : SettingSource) (key : String) (default : Json) : Db Json :=
  match settings with
  | .stored => SettingService.getJson rt key default
  | .cached => SettingService.Cached.getJson rt key default

end SettingSource

end PyBoard
