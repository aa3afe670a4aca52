/-
  PyBoard.Services.ServerAdmin — how the admin pages change a node.

  A request is a dict of the fields that it sets, with values of the declared types.
  `_normalize_node` checks the dict, forces some columns, fills others in with drawn
  secrets, and every item of what it returns is assigned to the column of its name.
-/
import PyBoard.Services.Server

namespace PyBoard

open Relational

/-! ## §1. Columns. -/

/-- The value of a VARCHAR column that is NOT NULL. -/
def textColumn (length : Nat) : Json → Except PyExc String
  | .str s =>
      if s.length ≤ length then .ok s else .error (.other "StringDataRightTruncationError")
  | _ => .error (.other "IntegrityError")

/-- The value of a VARCHAR column. -/
def optTextColumn (length : Nat) : Json → Except PyExc (Option String)
  | .null => .ok none
  | value => (textColumn length value).map some

/-- The value of an INTEGER column that is NOT NULL. -/
def intColumn : Json → Except PyExc Int
  | .int i => if -2 ^ 31 ≤ i ∧ i < 2 ^ 31 then .ok i else .error (.other "DataError")
  | _ => .error (.other "IntegrityError")

/-- The value of an INTEGER column. -/
def optIntColumn : Json → Except PyExc (Option Int)
  | .null => .ok none
  | value => (intColumn value).map some

/-- The value of a BOOLEAN column that is NOT NULL. -/
def boolColumn : Json → Except PyExc Bool
  | .bool b => .ok b
  | _ => .error (.other "IntegrityError")

/-- `setattr(node, key, value)`, and what the flush then says about the value.  A JSONB column
    takes every value. -/
def ServerV2Node.setattr (node : ServerV2Node) (key : String) (value : Json) :
    Except PyExc ServerV2Node :=
  match key with
  | "group_id" => .ok { node with group_id := value }
  | "route_id" => .ok { node with route_id := value }
  | "name" => (textColumn 255 value).map fun v => { node with name := v }
  | "parent_id" => (optIntColumn value).map fun v => { node with parent_id := v }
  | "host" => (textColumn 255 value).map fun v => { node with host := v }
  | "listen_ip" => (textColumn 255 value).map fun v => { node with listen_ip := v }
  | "port" => (textColumn 11 value).map fun v => { node with port := v }
  | "server_port" => (intColumn value).map fun v => { node with server_port := v }
  | "tags" => .ok { node with tags := value }
  | "rate" => (textColumn 11 value).map fun v => { node with rate := v }
  | "show" => (boolColumn value).map fun v => { node with «show» := v }
  | "sort" => (optIntColumn value).map fun v => { node with sort := v }
  | "protocol" => (textColumn 24 value).map fun v => { node with protocol := v }
  | "tls" => (intColumn value).map fun v => { node with tls := v }
  | "tls_settings" => .ok { node with tls_settings := value }
  | "flow" => (optTextColumn 64 value).map fun v => { node with flow := v }
  | "network" => (textColumn 11 value).map fun v => { node with network := v }
  | "network_settings" => .ok { node with network_settings := value }
  | "encryption" => (optTextColumn 64 value).map fun v => { node with encryption := v }
  | "encryption_settings" => .ok { node with encryption_settings := value }
  | "disable_sni" => (boolColumn value).map fun v => { node with disable_sni := v }
  | "udp_relay_mode" => (optTextColumn 64 value).map fun v => { node with udp_relay_mode := v }
  | "zero_rtt_handshake" => (boolColumn value).map fun v => { node with zero_rtt_handshake := v }
  | "congestion_control" =>
      (optTextColumn 64 value).map fun v => { node with congestion_control := v }
  | "cipher" => (optTextColumn 64 value).map fun v => { node with cipher := v }
  | "up_mbps" => (intColumn value).map fun v => { node with up_mbps := v }
  | "down_mbps" => (intColumn value).map fun v => { node with down_mbps := v }
  | "obfs" => (optTextColumn 64 value).map fun v => { node with obfs := v }
  | "obfs_password" => (optTextColumn 255 value).map fun v => { node with obfs_password := v }
  | "padding_scheme" => .ok { node with padding_scheme := value }
  | _ => .error (.value "object has no field")

/-- `for key, value in payload.items(): setattr(node, key, value)`. -/
def ServerV2Node.setattrs (node : ServerV2Node) (payload : JsonDict) :
    Except PyExc ServerV2Node :=
  payload.foldlM (fun node f => node.setattr f.1 f.2) node

/-- `node.model_dump()`, but for the stamp of the last change. -/
def ServerV2Node.columns (node : ServerV2Node) : JsonDict :=
  [("id", .int node.id), ("group_id", node.group_id), ("route_id", node.route_id),
    ("name", .str node.name), ("parent_id", .ofOption .int node.parent_id),
    ("host", .str node.host), ("listen_ip", .str node.listen_ip), ("port", .str node.port),
    ("server_port", .int node.server_port), ("tags", node.tags), ("rate", .str node.rate),
    ("show", .bool node.show), ("sort", .ofOption .int node.sort),
    ("protocol", .str node.protocol), ("tls", .int node.tls),
    ("tls_settings", node.tls_settings), ("flow", .ofOption .str node.flow),
    ("network", .str node.network), ("network_settings", node.network_settings),
    ("encryption", .ofOption .str node.encryption),
    ("encryption_settings", node.encryption_settings), ("disable_sni", .bool node.disable_sni),
    ("udp_relay_mode", .ofOption .str node.udp_relay_mode),
    ("zero_rtt_handshake", .bool node.zero_rtt_handshake),
    ("congestion_control", .ofOption .str node.congestion_control),
    ("cipher", .ofOption .str node.cipher), ("up_mbps", .int node.up_mbps),
    ("down_mbps", .int node.down_mbps), ("obfs", .ofOption .str node.obfs),
    ("obfs_password", .ofOption .str node.obfs_password),
    ("padding_scheme", node.padding_scheme), ("created_at", .int node.created_at)]

/-- The row as the trigger of an UPDATE stamps it. -/
def ServerV2Node.stamped (node : ServerV2Node) (now : Int) : ServerV2Node :=
  { node with updated_at := now }

namespace ServerV2NodeRepository

/-- `BaseRepository.update`: the UPDATE of the columns that changed, if any did, whose trigger
    stamps the row, and a refresh. -/
def update (old new : ServerV2Node) : Db ServerV2Node := do
  if old ≠ new then
    let now ← time
    save .server_v2node old (new.stamped now)
  match ← Prog.get Tbl.server_v2node old.id with
  | none => Prog.throw (.other "InvalidRequestError")
  | some node => return node

end ServerV2NodeRepository

namespace ServerAdminService

/-! ## §2. Requests. -/

def PROTOCOLS : List String :=
  ["shadowsocks", "vmess", "vless", "trojan", "tuic", "hysteria2", "hysteria", "anytls"]

def NETWORKS : List String := ["tcp", "ws", "grpc", "http", "httpupgrade", "xhttp"]

/-- The declared type of a field. -/
inductive FieldType
  | text
  | int
  | bool
  /-- `list[int] | str` and `list[str] | str`. -/
  | ints
  | texts
  /-- `dict | str`. -/
  | object
  deriving DecidableEq

/-- Every field of an update may be `None`. -/
def FieldType.admits : FieldType → Json → Bool
  | _, .null => true
  | .text, .str _ | .ints, .str _ | .texts, .str _ | .object, .str _ => true
  | .int, .int _ => true
  | .bool, .bool _ => true
  | .ints, .arr items => items.all fun | .int _ => true | _ => false
  | .texts, .arr items => items.all fun | .str _ => true | _ => false
  | .object, .obj _ => true
  | _, _ => false

/-- The fields of `ServerV2NodeUpdate`. -/
def fieldTypes : List (String × FieldType) :=
  [("group_id", .ints), ("route_id", .ints), ("name", .text), ("parent_id", .int),
    ("host", .text), ("listen_ip", .text), ("port", .text), ("server_port", .int),
    ("tags", .texts), ("rate", .text), ("show", .bool), ("sort", .int), ("protocol", .text),
    ("tls", .int), ("tls_settings", .object), ("flow", .text), ("network", .text),
    ("network_settings", .object), ("encryption", .text), ("encryption_settings", .object),
    ("disable_sni", .bool), ("udp_relay_mode", .text), ("zero_rtt_handshake", .bool),
    ("congestion_control", .text), ("cipher", .text), ("up_mbps", .int), ("down_mbps", .int),
    ("obfs", .text), ("obfs_password", .text), ("padding_scheme", .texts)]

/-- `data.model_dump(exclude_unset=True)` of a request to change a node. -/
structure ServerV2NodeUpdate where
  fields : JsonDict
  nodup : (fields.map Prod.fst).Nodup
  typed : ∀ f ∈ fields, ∃ t, (f.1, t) ∈ fieldTypes ∧ t.admits f.2 = true

/-! ## §3. Normalization. -/

/-- What `secrets.token_urlsafe(length)` draws. -/
abbrev TokenBytes (length : Nat) : Type := { bytes : List UInt8 // bytes.length = length }

/-- `secrets.token_urlsafe(length)`. -/
def TokenBytes.text {length : Nat} (bytes : TokenBytes length) : String :=
  String.ofList (Base64.urlsafe bytes.1)

/-- What one request may draw. -/
structure NodeSecrets where
  public_key : TokenBytes 32
  private_key : TokenBytes 32
  obfs_password : TokenBytes 12

variable (rt : Runtime) (fm : Formats)

/-- `_json_dump`. -/
def jsonDump : Json → Json
  | .str s => if s = "" then .null else (rt.orjson_loads s).getD (.str s)
  | value => value

/-- `_json_object_dump`. -/
def jsonObjectDump (value : Json) (field : String) : Except PyExc Json :=
  let refused : Except PyExc Json := .error (BadRequestException (field ++ " 必须是 JSON 对象"))
  match value with
  | .null => .ok .null
  | .str s =>
      if s = "" ∨ rt.strip s = "" then .ok .null
      else
        match rt.orjson_loads (rt.strip s) with
        | some (.obj fields) => .ok (.obj fields)
        | _ => refused
  | .obj fields => .ok (.obj fields)
  | _ => refused

/-- `_json_load`. -/
def jsonLoad (value : Json) : Json := jsonCast rt value

/-- `value is not None and value not in allowed`. -/
def unknown (allowed : List String) : Json → Bool
  | .null => false
  | .str s => s ∉ allowed
  | _ => true

/-- The fields that a new node must have. -/
def requiredFields : List String :=
  ["group_id", "name", "host", "port", "server_port", "protocol", "tls", "network", "rate"]

/-- The checks of `_normalize_node`; `whole` is set for a new node. -/
def checkNode (data : JsonDict) (whole : Bool) : Except PyExc Unit :=
  if unknown PROTOCOLS (dictGet data "protocol") then
    .error (BadRequestException "协议类型参数有误")
  else if unknown NETWORKS (dictGet data "network") then
    .error (BadRequestException "传输类型参数有误")
  else
    match (if whole then requiredFields else []).find? fun field =>
        dictGet data field = .null ∨ dictGet data field = .str "" with
    | some field => .error (BadRequestException (field ++ " 不能为空"))
    | none => .ok ()

/-- The protocols that always use TLS. -/
def forcesTls (protocol : Json) : Bool :=
  ["hysteria2", "hysteria", "trojan", "tuic"].any fun name => protocol.isText name

/-- `data["tls"] = 1`, where the protocol asks for it. -/
def forceTls (data : JsonDict) : JsonDict :=
  let protocol := dictGet data "protocol"
  if forcesTls protocol ∨ (protocol.isText "anytls" ∧ dictGet data "tls" = .int 0) then
    dictSet data "tls" (.int 1)
  else data

def defaultCipher (data : JsonDict) : JsonDict :=
  if (dictGet data "protocol").isText "shadowsocks" ∧ !(dictGet data "cipher").truthy then
    dictSet data "cipher" (.str "aes-128-gcm")
  else data

/-- `field in data`. -/
def isSet (data : JsonDict) (field : String) : Bool := data.any fun f => f.1 = field

/-- `data[field] = _json_dump(data[field])`, when the field is set. -/
def dumpField (data : JsonDict) (field : String) : JsonDict :=
  if isSet data field then dictSet data field (jsonDump rt (dictGet data field)) else data

/-- `data[field] = _json_object_dump(data[field], field)`, when the field is set. -/
def dumpObject (data : JsonDict) (field : String) : Except PyExc JsonDict :=
  if isSet data field then
    (jsonObjectDump rt (dictGet data field) field).map fun value => dictSet data field value
  else .ok data

/-- `settings.setdefault(key, value)`. -/
def setDefault (settings : JsonDict) (key : String) (value : Json) : JsonDict :=
  if isSet settings key then settings else settings ++ [(key, value)]

/-- The settings of a Reality node, completed. -/
def realitySettings (secrets : NodeSecrets) (settings : JsonDict) : Except PyExc JsonDict :=
  let settings := setDefault settings "public_key" (.str secrets.public_key.text)
  let settings := setDefault settings "private_key" (.str secrets.private_key.text)
  match dictGet settings "private_key" with
  | .str private_key =>
      let short_id := textPrefix 8 (fm.sha1_hexdigest private_key)
      .ok (setDefault (setDefault settings "short_id" (.str short_id)) "server_port" (.str "443"))
  | _ => .error (.other "AttributeError")

def completeReality (secrets : NodeSecrets) (data : JsonDict) : Except PyExc JsonDict :=
  if dictGet data "tls" = .int 2 then
    (realitySettings fm secrets
      (dictOrEmpty ((jsonLoad rt (dictGet data "tls_settings")).or (.obj [])))).map
        fun settings => dictSet data "tls_settings" (.obj settings)
  else .ok data

/-- `data.get("network") not in (None, "tcp")`. -/
def otherNetwork (network : Json) : Bool := network ≠ .null ∧ !network.isText "tcp"

def clearFlow (data : JsonDict) : JsonDict :=
  if otherNetwork (dictGet data "network") ∧
      !(dictGet data "encryption").isText "mlkem768x25519plus" then
    dictSet data "flow" .null
  else data

def fillObfsPassword (secrets : NodeSecrets) (data : JsonDict) : JsonDict :=
  let data :=
    if (dictGet data "obfs").truthy ∧ !(dictGet data "obfs_password").truthy then
      dictSet data "obfs_password" (.str secrets.obfs_password.text)
    else data
  if isSet data "obfs" ∧ !(dictGet data "obfs").truthy then dictSet data "obfs_password" .null
  else data

/-- `_normalize_node`. -/
def normalizeNode (secrets : NodeSecrets) (data : JsonDict) (whole : Bool) :
    Except PyExc JsonDict := do
  checkNode data whole
  let data := defaultCipher (forceTls data)
  let data := ["group_id", "route_id", "tags", "padding_scheme"].foldl (dumpField rt) data
  let data ← ["tls_settings", "network_settings", "encryption_settings"].foldlM (dumpObject rt)
    data
  let data ← completeReality rt fm secrets data
  let data := fillObfsPassword secrets (clearFlow data)
  return setDefault (setDefault data "up_mbps" (.int 0)) "down_mbps" (.int 0)

/-! ## §4. The request. -/

/-- `update_node`. -/
def updateNode (secrets : NodeSecrets) (node_id : Int) (data : ServerV2NodeUpdate) :
    Db ServerV2Node := do
  match ← ServerV2NodeRepository.getById node_id with
  | none => Prog.throw (NotFoundException "节点不存在")
  | some node =>
    let payload ← liftExcept (normalizeNode rt fm secrets data.fields false)
    let changed ← liftExcept (ServerV2Node.setattrs node payload)
    ServerV2NodeRepository.update node changed

/-! ## §5. A new node. -/

/-- The fields of `ServerV2NodeCreate` that may be `None`. -/
def optionalFields : List String :=
  ["route_id", "parent_id", "tags", "sort", "tls_settings", "flow", "network_settings",
    "encryption", "encryption_settings", "udp_relay_mode", "congestion_control", "cipher", "obfs",
    "obfs_password", "padding_scheme"]

/-- `data.model_dump()` of a request to create a node: every field, given or by default. -/
structure ServerV2NodeCreate where
  fields : JsonDict
  names : fields.map Prod.fst = fieldTypes.map Prod.fst
  typed : ∀ f ∈ fields, ∃ t, (f.1, t) ∈ fieldTypes ∧ t.admits f.2 = true
  given : ∀ f ∈ fields, f.2 = .null → f.1 ∈ optionalFields

/-- `ServerV2Node(**payload)`, under its id and the time of the INSERT. -/
def newNode (secrets : NodeSecrets) (data : ServerV2NodeCreate) (id now : Int) :
    Except PyExc ServerV2Node := do
  let payload ← normalizeNode rt fm secrets data.fields true
  ServerV2Node.setattrs
    { id := id, group_id := .arr [], name := "", host := "", port := "", server_port := 0,
      rate := "", protocol := "", tls := 0, network := "", created_at := now, updated_at := now }
    payload

/-- `create_node`. -/
def createNode (secrets : NodeSecrets) (data : ServerV2NodeCreate) (id : Int) :
    Db ServerV2Node := do
  let now ← time
  let node ← liftExcept (newNode rt fm secrets data id now)
  create .server_v2node node
  return node

end ServerAdminService

end PyBoard
