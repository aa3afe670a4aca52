/-
  PyBoard.Services.Alive — the addresses at which users are online.

  A node reports the addresses of its users.  The runtime cache keeps one document for
  each user: the last report of each node, and how many addresses they make together.
  A report reads the documents of its users, puts its own entry into each and writes them
  back, without a lock.
-/
import PyBoard.Core.Cache
import PyBoard.Python.Formats
import PyBoard.Services.Coupon
import PyBoard.Services.ServerAdmin
import PyBoard.Services.SettingCache

namespace PyBoard

open Relational

namespace ServerService

variable (rt : Runtime)

/-! ## §1. Reports. -/

/-- `_normalize_node_type`. -/
def normalizeNodeType (value : String) : String :=
  if value = "v2ray" then "vmess" else if value = "hysteria2" then "hysteria" else value

/-- The node types that `get_uniproxy_node` lets through. -/
def NODE_TYPES : List String :=
  "v2node" :: ServerAdminService.PROTOCOLS.map normalizeNodeType

/-- A node as it reports. -/
structure AliveNode where
  node_type : String
  node_id : Int
  known : node_type ∈ NODE_TYPES
  deriving DecidableEq

/-- `f"{node_type}{node_id}"`. -/
def AliveNode.key (node : AliveNode) : String := node.node_type ++ toString node.node_id

/-- A report: what a decoded JSON object holds for each user. -/
structure AliveReport where
  items : JsonDict
  nodup : (items.map Prod.fst).Nodup

/-- `f"ALIVE_IP_USER_{uid}"`. -/
def aliveKey (uid : String) : String := "ALIVE_IP_USER_" ++ uid

/-! ## §2. The document of a user. -/

/-- `_loads_cache_json`. -/
def loadsCacheJson : Option Json → Option Json
  | none => none
  | some (.obj fields) => some (.obj fields)
  | some (.arr items) => some (.arr items)
  | some (.str raw) => rt.orjson_loads raw
  | some _ => none

/-- `{"aliveips": ips, "lastupdateAt": update_at}`. -/
def aliveEntry (ips : List Json) (update_at : Int) : Json :=
  .obj [("aliveips", .arr ips), ("lastupdateAt", .int update_at)]

/-- Is an entry kept?  `update_at - int(old_ips.get("lastupdateAt") or 0) > 100` drops it. -/
def keepsEntry (update_at : Int) (field : String × Json) : Except PyExc Bool :=
  if field.1 = "alive_ip" then .ok true
  else
    match field.2 with
    | .obj old_ips => do
        let at_ := dictGet old_ips "lastupdateAt"
        let lastupdateAt ← CouponService.intOfItem rt (if at_.truthy then at_ else .int 0)
        .ok (decide (update_at - lastupdateAt ≤ 100))
    | _ => .ok true

/-- `str(ip_node_id).split("_", 1)[0]`. -/
def addressOf (ip_node_id : Json) : String :=
  String.ofList ((rt.str ip_node_id).toList.takeWhile (· ≠ '_'))

/-- The items that a `for` loop goes through. -/
def iterated : Json → Except PyExc (List Json)
  | .arr items => .ok items
  | .obj fields => .ok (fields.map fun field => .str field.1)
  | .str text => .ok (text.toList.map fun c => .str (String.ofList [c]))
  | _ => .error (.other "TypeError")

/-- The addresses of an entry, as far as it has some. -/
def entryAddresses (value : Json) : Except PyExc (List String) :=
  match value with
  | .obj node_data =>
      match Json.lookup node_data "aliveips" with
      | some aliveips => do
          let items ← iterated aliveips
          .ok (items.map (addressOf rt))
      | none => .ok []
  | _ => .ok []

/-- `len(node_data["aliveips"])` of an entry with a list of them. -/
def entryCount : Json → Int
  | .obj node_data =>
      match Json.lookup node_data "aliveips" with
      | some (.arr ips) => ips.length
      | _ => 0
  | _ => 0

/-- `_count_alive_ips`. -/
def countAliveIps (ips_array : JsonDict) (unique_ip : Bool) : Except PyExc Int :=
  if unique_ip then do
    let addresses ← ips_array.mapM fun field => entryAddresses rt field.2
    .ok addresses.flatten.dedup.length
  else .ok (ips_array.map fun field => entryCount field.2).sum

/-- The document that `handle_alive` makes of the cached one. -/
def aliveDocument (node_key : String) (ips : List Json) (update_at device_limit_mode : Int)
    (cached : JsonDict) : Except PyExc JsonDict := do
  let ips_array := dictSet cached node_key (aliveEntry ips update_at)
  let ips_array ← ips_array.filterM (keepsEntry rt update_at)
  let alive_ip ← countAliveIps rt ips_array (decide (device_limit_mode = 1))
  .ok (dictSet ips_array "alive_ip" (.int alive_ip))

/-! ## §3. The request. -/

/-- `cached.get(key)`, and `{}` if that is no dict. -/
def cachedDocument (cached : List (String × Option Json)) (key : String) : JsonDict :=
  match (cached.lookup key).join with
  | some (.obj fields) => fields
  | _ => []

/-- One turn of the loop of `handle_alive`. -/
def storeAlive (node_key : String) (update_at device_limit_mode : Int)
    (cached : List (String × Option Json)) (item : String × Json) : Db Unit :=
  match item.2 with
  | .arr ips =>
      whenever (rt.isnumeric item.1 = true) do
        let ips_array ← liftExcept (aliveDocument rt node_key ips update_at device_limit_mode
          (cachedDocument cached (aliveKey item.1)))
        let _done ← RuntimeCache.set (aliveKey item.1) (.obj ips_array) (some 120)
        return ()
  | _ => return ()

/-- 复刻 UniProxyController::alive。 -/
def handleAlive (node : AliveNode) (data : AliveReport) : Db Unit := do
  let update_at ← time
  let keys := data.items.map fun item => aliveKey item.1
  let cached_values ← RuntimeCache.mget keys
  let cached := keys.zip (cached_values.map (loadsCacheJson rt))
  let device_limit_mode ← SettingService.Cached.getInt rt "device_limit_mode" 0
  Prog.forEach data.items (storeAlive rt node.key update_at device_limit_mode cached)
  let _count ← RuntimeCache.delete ["ALIVE_LIST"]
  return ()

end ServerService

end PyBoard
