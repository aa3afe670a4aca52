/-
  PyBoard.Services.Subscribe — the nodes and the subscription of a user.

  A node becomes a dict of its columns (`nodeToSubscribeDict`), to which some
  derived fields are added (`prepareSubscribeServer`); `/user/servers` returns these
  dicts, and a subscription is a template rendered with them.
-/
import PyBoard.Python.Formats
import PyBoard.Services.Server
import PyBoard.Services.SettingCache

namespace PyBoard.SubscribeService

open Relational

variable (rt : Runtime) (fm : Formats)

/-! ## §1. One node. -/

/-- `_get_server_key`. -/
def getServerKey (timestamp : Int) (length : Nat) : String :=
  b64encode (textPrefix length (fm.md5_hexdigest (toString timestamp)))

/-- `_uuid_to_base64`. -/
def uuidToBase64 (uuid : String) (length : Nat) : String := b64encode (textPrefix length uuid)

/-- `_format_host`. -/
def formatHost (host : String) : String :=
  if fm.ip_version host = some 6 then "[" ++ host ++ "]" else host

/-- `_first_port`. -/
def firstPort (port : String) : String :=
  String.ofList ((port.toList.takeWhile (· ≠ ',')).takeWhile (· ≠ '-'))

/-- `_allow_insecure`. -/
def allowInsecure (server tls_settings : JsonDict) : Bool :=
  (dictGet server "insecure").truthy || (dictGet server "allow_insecure").truthy ||
    (dictGet tls_settings "allow_insecure").truthy || (dictGet tls_settings "allowInsecure").truthy

/-- `_ss_password`. -/
def ssPassword (uuid : String) (server : JsonDict) : Except PyExc String :=
  let cipher := rt.str ((dictGet server "cipher").or (.str ""))
  if !isIn "2022-blake3" cipher then .ok uuid
  else do
    let length := if cipher = "2022-blake3-aes-128-gcm" then 16 else 32
    let created_at ← CouponService.intOfItem rt ((dictGet server "created_at").or (.int 0))
    return getServerKey fm created_at length ++ ":" ++ uuidToBase64 uuid length

/-- `(network_settings.get("headers") or \x7b\x7d).get("Host")`. -/
def headersHost (network_settings : JsonDict) : Except PyExc Json :=
  match (dictGet network_settings "headers").or (.obj []) with
  | .obj headers => .ok (dictGet headers "Host")
  | _ => .error (.other "AttributeError")

/-- `_ss_plugin`. -/
def ssPlugin (server network_settings : JsonDict) : Except PyExc String :=
  let plugin := fun (host path : Json) =>
    "obfs-local;obfs=http;obfs-host=" ++ rt.str host ++ ";path=" ++ rt.str path
  if (dictGet server "obfs").isText "http" then
    .ok (plugin
      ((dictGet server "obfs_host").or ((dictGet server "obfs-host").or (.str "")))
      ((dictGet server "obfs_path").or ((dictGet server "obfs-path").or (.str "/"))))
  else do
    let host ←
      if (dictGet network_settings "Host").truthy then .ok (dictGet network_settings "Host")
      else headersHost network_settings
    if rt.str ((dictGet server "network").or (.str "")) = "http" ∧ host.truthy then
      return plugin host ((dictGet network_settings "path").or (.str "/"))
    else return ""

/-- `_vless_encryption`. -/
def vlessEncryption (server : JsonDict) : String :=
  let settings := dictOrEmpty (dictGet server "encryption_settings")
  if !(dictGet server "encryption").isText "mlkem768x25519plus" ∨ settings.isEmpty then ""
  else
    let parts := ["mlkem768x25519plus", rt.str ((dictGet settings "mode").or (.str "native")),
      rt.str ((dictGet settings "rtt").or (.str "1rtt"))]
    let padding :=
      if (dictGet settings "client_padding").truthy then
        [rt.str (dictGet settings "client_padding")]
      else []
    ".".intercalate (parts ++ padding ++ [rt.str ((dictGet settings "password").or (.str ""))])

/-- `_SS_SIP008_CIPHERS`. -/
def SS_SIP008_CIPHERS : List String :=
  ["aes-128-gcm", "aes-192-gcm", "aes-256-gcm", "chacha20-ietf-poly1305"]

/-- The fields that `_prepare_subscribe_server` computes. -/
def preparedFields (server : JsonDict) (ss_password ss_plugin : String)
    (tls_settings network_settings : JsonDict) : JsonDict :=
  let protocol := rt.str ((dictGet server "protocol").or ((dictGet server "type").or (.str "")))
  let port := rt.str ((dictGet server "port").or (.str ""))
  let first_port := firstPort port
  let allow_insecure := allowInsecure server tls_settings
  [("protocol", .str protocol),
    ("network", .str (rt.str ((dictGet server "network").or (.str "tcp")))),
    ("tls_settings", .obj tls_settings), ("network_settings", .obj network_settings),
    ("formatted_host", .str (formatHost fm (rt.str ((dictGet server "host").or (.str ""))))),
    ("first_port", .str first_port), ("first_port_int", .int ((rt.int_of_str first_port).getD 0)),
    ("allow_insecure", .bool allow_insecure),
    ("allow_insecure_int", .int (if allow_insecure then 1 else 0)),
    ("sni", .str (rt.str ((dictGet server "server_name").or
      ((dictGet tls_settings "server_name").or
        ((dictGet tls_settings "serverName").or (.str "")))))),
    ("ss_password", .str ss_password),
    ("ss_auth", .str (base64Urlsafe
      (rt.str ((dictGet server "cipher").or (.str "none")) ++ ":" ++ ss_password))),
    ("ss_plugin", .str ss_plugin),
    ("sip008", .bool (protocol = "shadowsocks" &&
      SS_SIP008_CIPHERS.any fun c => (dictGet server "cipher").isText c)),
    ("vless_encryption", .str (vlessEncryption rt server)),
    ("multi_port", .bool (isIn "," port || isIn "-" port))]

/-- `_prepare_subscribe_server`. -/
def prepareSubscribeServer (server : JsonDict) (uuid : String) : Except PyExc JsonDict := do
  let tls_settings :=
    dictOrEmpty ((dictGet server "tls_settings").or (dictGet server "tlsSettings"))
  let network_settings :=
    dictOrEmpty ((dictGet server "network_settings").or (dictGet server "networkSettings"))
  let ss_password ← ssPassword rt fm uuid server
  let ss_plugin ← ssPlugin rt server network_settings
  return dictUpdate server
    (preparedFields rt fm server ss_password ss_plugin tls_settings network_settings)

/-- `_json_cast(value) or \x7b\x7d`. -/
def settingsOf (value : Json) : Json := (jsonCast rt value).or (.obj [])

/-- The dict of the columns of a node. -/
def nodeColumns (node : ServerV2Node) : JsonDict :=
  [("id", .int node.id), ("type", .str "v2node"), ("protocol", .str node.protocol),
    ("name", .str node.name), ("host", .str node.host), ("port", .str node.port),
    ("server_port", .int node.server_port), ("rate", .str node.rate),
    ("network", .str node.network), ("network_settings", settingsOf rt node.network_settings),
    ("tls", .int node.tls), ("tls_settings", settingsOf rt node.tls_settings),
    ("flow", .ofOption .str node.flow), ("encryption", .ofOption .str node.encryption),
    ("encryption_settings", settingsOf rt node.encryption_settings),
    ("cipher", .ofOption .str node.cipher), ("obfs", .ofOption .str node.obfs),
    ("obfs_password", .ofOption .str node.obfs_password), ("up_mbps", .int node.up_mbps),
    ("down_mbps", .int node.down_mbps), ("disable_sni", .bool node.disable_sni),
    ("udp_relay_mode", .ofOption .str node.udp_relay_mode),
    ("zero_rtt_handshake", .bool node.zero_rtt_handshake),
    ("congestion_control", .ofOption .str node.congestion_control),
    ("padding_scheme", settingsOf rt node.padding_scheme), ("created_at", .int node.created_at),
    ("updated_at", .int node.updated_at),
    ("cache_key", .str ("v2node:" ++ toString node.id ++ ":" ++ toString node.updated_at))]

/-- `_node_to_subscribe_dict`. -/
def nodeToSubscribeDict (node : ServerV2Node) (uuid : String) : Except PyExc JsonDict :=
  prepareSubscribeServer rt fm (nodeColumns rt node) uuid

/-! ## §2. The nodes of a user. -/

/-- `user.expired_at is None or user.expired_at > now`. -/
def notExpired (now : Int) (expired_at : Option Int) : Bool :=
  match expired_at with
  | none => true
  | some e => now < e

/-- 账号是否可用于订阅。 -/
def isAvailable (now : Int) (user : User) : Bool :=
  !user.banned && (match user.plan_id with | some p => p ≠ 0 | none => false) &&
    0 < user.transfer_enable && user.u + user.d < user.transfer_enable &&
    notExpired now user.expired_at

/-- `_format_bytes`. -/
def formatBytes (value : Int) : String :=
  formatUnits fm.fixed2 (.ofRat (max value 0)) ["B", "KB", "MB", "GB", "TB", "PB"]

/-- `_prepend_subscribe_info_servers`; `_reset_day` is always `None`. -/
def prependSubscribeInfoServers (servers : List JsonDict) (user : User) : List JsonDict :=
  match servers with
  | [] => []
  | first :: _ =>
      let remaining := formatBytes fm (user.transfer_enable - user.u - user.d)
      let expired :=
        match user.expired_at with
        | none => "长期有效"
        | some e => fm.strftime "%Y-%m-%d" e
      [dictSet first "name" (.str ("剩余流量：" ++ remaining)),
        dictSet first "name" (.str ("套餐到期：" ++ expired))] ++ servers

/-- 获取用户可用节点。 -/
def getAvailableServers (user : User) : Db (List JsonDict) := do
  let now ← time
  if !isAvailable now user then return []
  else
    let nodes ← ServerV2NodeRepository.listVisibleByGroup rt user.group_id
    let servers ← liftExcept (nodes.mapM fun node => nodeToSubscribeDict rt fm node user.uuid)
    let info ← SettingService.Cached.getInt rt "show_info_to_server_enable" 0
    if info ≠ 0 then return prependSubscribeInfoServers fm servers user
    else return servers

/-! ## §3. Tokens. -/

/-- `f"otp_\x7btoken\x7d"`, `f"otpn_\x7btoken\x7d"` and `f"totp_\x7btoken\x7d"`. -/
def otpKey (token : String) : String := "otp_" ++ token
def otpnKey (token : String) : String := "otpn_" ++ token
def totpKey (token : String) : String := "totp_" ++ token

/-- `str(value)` of what the cache gives. -/
def strOfCached : Option Json → String
  | none => "None"
  | some value => rt.str value

/-- The one-time token of `build_subscribe_url`; `token_bytes` is what `secrets` draws. -/
def oneTimeToken (user_token : String) (token_bytes : List UInt8) : Db String := do
  match ← RuntimeCache.get (otpKey user_token) with
  | some cached =>
    if cached.truthy then return rt.str cached
    else drawToken
  | none => drawToken
where
  drawToken : Db String := do
    let cached := String.ofList (Base64.urlsafe token_bytes)
    let added ← RuntimeCache.set (otpKey user_token) (.str cached) (some 86400) true
    if added then
      let _done ← RuntimeCache.set (otpnKey cached) (.str user_token) (some 86400)
      return cached
    else return strOfCached rt (← RuntimeCache.get (otpKey user_token))

/-- `max(expire_minutes, 1) * 60`. -/
def timestepOf (expire_minutes : Int) : Int := max expire_minutes 1 * 60

/-- `(0).to_bytes(4, "big") + counter.to_bytes(4, "big")`. -/
def counterBytes (counter : Int) : Except PyExc (List UInt8) :=
  if counter < 0 ∨ 2 ^ 32 ≤ counter then .error (.other "OverflowError")
  else
    let n := counter.toNat
    .ok [0, 0, 0, 0, UInt8.ofNat (n / 2 ^ 24), UInt8.ofNat (n / 2 ^ 16), UInt8.ofNat (n / 2 ^ 8),
      UInt8.ofNat n]

/-- The digest of a user's token in the window of a time. -/
def totpDigest (user_token : String) (timestep now : Int) : Except PyExc String := do
  let counter_bytes ← counterBytes (now / timestep)
  return fm.hmac_sha1_hexdigest user_token counter_bytes

/-- `_base64_urlsafe(f"\x7buser.id\x7d:\x7bdigest\x7d".encode())`. -/
def totpText (user_id : Int) (digest : String) : String :=
  base64Urlsafe (toString user_id ++ ":" ++ digest)

def totpToken (user : User) : Db String := do
  let expire_minutes ← SettingService.Cached.getInt rt "show_subscribe_expire" 5
  let now ← time
  let digest ← liftExcept (totpDigest fm user.token (timestepOf expire_minutes) now)
  return totpText user.id digest

/-- `_subscribe_base_url`. -/
def subscribeBaseUrl : Db String := do
  let subscribe_urls ← SettingService.Cached.getStr rt "subscribe_url" ""
  let candidates :=
    if subscribe_urls = "" then [] else (splitCommas rt subscribe_urls).map rstripSlash
  match candidates with
  | url :: _ => return url
  | [] => return rstripSlash (← SettingService.Cached.getStr rt "app_url" "")

/-- The token of an address, by the configured method. -/
def subscribeToken (method : Int) (user : User) (token_bytes : List UInt8) : Db String :=
  if method = 1 then oneTimeToken rt user.token token_bytes
  else if method = 2 then totpToken rt fm user
  else return user.token

/-- 按配置生成订阅 URL，支持直连、一次性 token 和 TOTP token。 -/
def buildSubscribeUrl (user : User) (token_bytes : List UInt8) : Db String := do
  let method ← SettingService.Cached.getInt rt "show_subscribe_method" 0
  let path ← SettingService.Cached.getStr rt "subscribe_path" "/api/v1/client/subscribe"
  let path := if path = "" then "/api/v1/client/subscribe" else path
  let token ← subscribeToken rt fm method user token_bytes
  let separator := if isIn "?" path then "&" else "?"
  let base_url ← subscribeBaseUrl rt
  return base_url ++ path ++ separator ++ "token=" ++ fm.quote token

/-- `_decode_totp_token`. -/
def decodeTotpToken (token : String) : Except PyExc (Int × String) :=
  let decoded := (Base64.urlsafeDecode (token.toList ++ Base64.padding token.toList.length)).bind
    fun data => String.fromUTF8? ⟨data.toArray⟩
  match decoded.bind (splitOnce ':') with
  | none => .error (UnauthorizedException "token is error")
  | some (user_id, digest) =>
      match rt.int_of_str user_id with
      | none => .error (UnauthorizedException "token is error")
      | some user_id => .ok (user_id, digest)

/-- `hmac.compare_digest(expected, digest)` of two texts. -/
def compareDigest (expected digest : String) : Except PyExc Bool :=
  if expected.toList.all (·.toNat < 128) ∧ digest.toList.all (·.toNat < 128) then
    .ok (expected = digest)
  else .error (.other "TypeError")

/-- Method 1 of `resolve_subscribe_user`. -/
def takeOneTimeToken (token : String) : Db String := do
  match ← RuntimeCache.get (otpnKey token) with
  | none => Prog.throw (UnauthorizedException "token is error")
  | some raw =>
    let user_token := rt.str raw
    let _count ← RuntimeCache.delete [otpnKey token]
    let _count ← RuntimeCache.delete [otpKey user_token]
    return user_token

/-- Method 2 of `resolve_subscribe_user`. -/
def checkTotpToken (token : String) : Db String := do
  match ← RuntimeCache.get (totpKey token) with
  | some cached => return rt.str cached
  | none =>
    let (user_id, digest) ← liftExcept (decodeTotpToken rt token)
    match ← UserRepository.getById user_id with
    | none => Prog.throw (UnauthorizedException "token is error")
    | some user =>
      let expire_minutes ← SettingService.Cached.getInt rt "show_subscribe_expire" 5
      let timestep := timestepOf expire_minutes
      let now ← time
      let expected ← liftExcept (totpDigest fm (User.token user) timestep now)
      if ← liftExcept (compareDigest expected digest) then
        let _done ← RuntimeCache.set (totpKey token) (.str (User.token user)) (some timestep)
        return User.token user
      else Prog.throw (UnauthorizedException "token is error")

/-- The user's own token that a token stands for, by the configured method. -/
def userTokenOf (method : Int) (token : String) : Db String :=
  if method = 1 then takeOneTimeToken rt token
  else if method = 2 then checkTotpToken rt fm token
  else return token

/-- 解析订阅 token 并返回用户。 -/
def resolveSubscribeUser (token : String) : Db User := do
  if token = "" then Prog.throw (UnauthorizedException "token is null")
  else
    let method ← SettingService.Cached.getInt rt "show_subscribe_method" 0
    let user_token ← userTokenOf rt fm method token
    match ← UserRepository.getByToken user_token with
    | none => Prog.throw (UnauthorizedException "token is error")
    | some user => return user

end PyBoard.SubscribeService
