/-
  PyBoard.Services.Server — what a node asks for.

  A node fetches its configuration, and it asks for its users by its stored
  `group_id`, which may be an integer, a list or a text; `_int_list_cast` reads the
  group ids out of it.
-/
import PyBoard.Python.Formats
import PyBoard.Services.Coupon
import PyBoard.Services.SettingCache

namespace PyBoard

open Relational

variable (rt : Runtime)

/-- `value if value is not None`. -/
def Json.ofOption {α : Type} (f : α → Json) : Option α → Json
  | none => .null
  | some a => f a

/-- `_json_cast`. -/
def jsonCast : Json → Json
  | .str s =>
      if s = "" then .null
      else
        match rt.orjson_loads s with
        | some v => v
        | none => .str s
  | value => value

/-- `int(item.strip()) for item in parsed.split(",") if item.strip().isdigit()`. -/
def intsOfText (text : String) : Except PyExc (List Int) :=
  let items := (text.toList.splitOn ',').map fun l => rt.strip (String.ofList l)
  (items.filter rt.isdigit).mapM fun item => CouponService.intOfItem rt (.str item)

/-- `int(item)` of the items that have one. -/
def intsOfItems : List Json → Except PyExc (List Int)
  | [] => .ok []
  | item :: items =>
      match CouponService.intOfItem rt item with
      | .ok i => (intsOfItems items).map fun l => i :: l
      | .error (.value _) => intsOfItems items
      | .error e => if e = .other "TypeError" then intsOfItems items else .error e

/-- `_int_list_cast`. -/
def intListCast (value : Json) : Except PyExc (List Int) :=
  match jsonCast rt value with
  | .int i => .ok [i]
  | .bool b => .ok [if b then 1 else 0]
  | .str s => intsOfText rt s
  | .arr items => intsOfItems rt items
  | _ => .ok []

namespace ServerService

/-! ## §1. The users of a node. -/

/-- `(User.expired_at >= now) | (User.expired_at.is_(None))`. -/
def notExpired (now : Int) (expired_at : Option Int) : Bool :=
  match expired_at with
  | some e => now ≤ e
  | none => true

/-- The conditions of `get_available_users` besides the traffic. -/
def isCandidate (now : Int) (group_ids : List Int) (user : User) : Bool :=
  (match user.group_id with | some g => g ∈ group_ids | none => false) &&
    notExpired now user.expired_at && !user.banned

/-- The WHERE clause of `get_available_users`. -/
def isAvailableUser (now : Int) (group_ids : List Int) (user : User) : Bool :=
  isCandidate now group_ids user && user.u + user.d < user.transfer_enable

/-- The rows of which the query computes `u + d`: the candidates, and the rows `early` that
    PostgreSQL tests for their traffic before another condition has ruled them out. -/
def isSummed (early : User → Bool) (now : Int) (group_ids : List Int) (user : User) : Bool :=
  early user || isCandidate now group_ids user

/-- `_user_to_node_dict`. -/
def userToNodeDict (user : User) : JsonDict :=
  [("id", .int user.id), ("uuid", .str user.uuid),
    ("speed_limit", .ofOption .int user.speed_limit),
    ("device_limit", .ofOption .int user.device_limit),
    ("u", .int user.u), ("d", .int user.d), ("transfer_enable", .int user.transfer_enable),
    ("expired_at", .ofOption .int user.expired_at), ("t", .int user.t),
    ("group_id", .ofOption .int user.group_id),
    ("plan_id", .ofOption .int user.plan_id)].filter fun field =>
      match field.2 with
      | .null => false
      | _ => true

/-- 复刻 ServerService::getAvailableUsers。 The group ids and the time are bound to the
    query, and `u + d` is computed in BIGINT. -/
def getAvailableUsers (early : User → Bool) (group_id : Json) : Db (List JsonDict) := do
  let group_ids ← liftExcept (intListCast rt group_id)
  if group_ids.isEmpty then return []
  else
    let now ← time
    liftExcept (bindIntegers group_ids 1)
    let rows ← Prog.select Tbl.users (isSummed early now group_ids)
    if rows.any fun user : User => !fitsBigint (user.u + user.d) then
      Prog.throw (.other "DBAPIError")
    else
      let users := rows.filter (isAvailableUser now group_ids)
      return users.map userToNodeDict

/-! ## §2. The configuration of a node. -/

variable (fm : Formats)

/-- `_get_server_key`. -/
def getServerKey (timestamp : Int) (length : Nat) : String :=
  b64encode (textPrefix length (fm.md5_hexdigest (toString timestamp)))

/-- `_route_match_cast`. -/
def routeMatchCast (value : Json) : Json :=
  match jsonCast rt value with
  | .obj fields => .obj fields
  | .arr items => .arr items
  | _ => value

/-- `_route_to_config`. -/
def routeToConfig (route : ServerRoute) : Json :=
  .obj [("id", .int route.id), ("match", routeMatchCast rt route.match),
    ("action", .str route.action), ("action_value", route.action_value)]

/-- The columns of a node that its configuration holds. -/
def configColumns (node : ServerV2Node) : JsonDict :=
  [("listen_ip", .str node.listen_ip), ("server_port", .int node.server_port),
    ("network", .str node.network), ("network_settings", jsonCast rt node.network_settings),
    ("protocol", .str node.protocol), ("tls", .int node.tls),
    ("tls_settings", jsonCast rt node.tls_settings),
    ("encryption", .ofOption .str node.encryption),
    ("encryption_settings", jsonCast rt node.encryption_settings),
    ("flow", .ofOption .str node.flow), ("cipher", .ofOption .str node.cipher),
    ("congestion_control", .ofOption .str node.congestion_control),
    ("zero_rtt_handshake", .bool node.zero_rtt_handshake),
    ("up_mbps", .int node.up_mbps), ("down_mbps", .int node.down_mbps),
    ("obfs", .ofOption .str node.obfs), ("obfs_password", .ofOption .str node.obfs_password),
    ("padding_scheme", jsonCast rt node.padding_scheme)]

/-- The key of a node whose cipher is one of the two AES ciphers. -/
def withServerKey (node : ServerV2Node) (response : JsonDict) : JsonDict :=
  if node.cipher = some "2022-blake3-aes-128-gcm" then
    dictSet response "server_key" (.str (getServerKey fm node.created_at 16))
  else if node.cipher = some "2022-blake3-aes-256-gcm" then
    dictSet response "server_key" (.str (getServerKey fm node.created_at 32))
  else response

/-- The intervals and thresholds of `base_config`. -/
def baseConfig : Db Json := do
  let push_interval ← SettingService.Cached.getInt rt "server_push_interval" 60
  let pull_interval ← SettingService.Cached.getInt rt "server_pull_interval" 60
  let node_report ← SettingService.Cached.getInt rt "server_node_report_min_traffic" 0
  let device_online ← SettingService.Cached.getInt rt "server_device_online_min_traffic" 0
  return .obj [("push_interval", .int push_interval), ("pull_interval", .int pull_interval),
    ("node_report_min_traffic", .int node_report),
    ("device_online_min_traffic", .int device_online)]

/-- `response["routes"]`, when the node names routes. -/
def withRoutes (node : ServerV2Node) (response : JsonDict) : Db JsonDict := do
  let route_ids ← liftExcept (intListCast rt node.route_id)
  if route_ids.isEmpty then return response
  else
    let routes ← ServerRouteRepository.getByIdsOrdered route_ids
    return dictSet response "routes" (.arr (routes.map (routeToConfig rt)))

/-- 构造 /api/v2/server/config 响应体。 -/
def getV2nodeConfig (node_id : Int) : Db (Option JsonDict) := do
  match ← ServerV2NodeRepository.getById node_id with
  | none => return none
  | some node =>
    let response := withServerKey fm node (configColumns rt node)
    let response := dictSet response "ignore_client_bandwidth"
      (.bool (ServerV2Node.up_mbps node = 0 && ServerV2Node.down_mbps node = 0))
    let base_config ← baseConfig rt
    let response ← withRoutes rt node (dictSet response "base_config" base_config)
    return some response

end ServerService

end PyBoard
