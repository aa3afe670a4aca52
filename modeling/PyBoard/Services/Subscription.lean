/-
  PyBoard.Services.Subscription — rendering a subscription.

  The flag of a request names a client; the client decides the format, the template
  and the headers.  The template itself is the function `Formats.render`.
-/
import PyBoard.Services.Subscribe

namespace PyBoard.SubscribeService

open Relational

variable (rt : Runtime) (fm : Formats)

/-! ## §1. Formats. -/

inductive SubscribeFormat
  | singbox | singbox_old | clash_meta | clash_verge | clash_nyanpasu | stash | clash
  | shadowrocket | quantumultx | surfboard | surge | loon | shadowsocks | sagernet | passwall
  | ssrplus | v2raytun | v2rayng | v2rayn | general
  deriving DecidableEq

def SubscribeFormat.name : SubscribeFormat → String
  | singbox => "singbox"
  | singbox_old => "singbox_old"
  | clash_meta => "clash_meta"
  | clash_verge => "clash_verge"
  | clash_nyanpasu => "clash_nyanpasu"
  | stash => "stash"
  | clash => "clash"
  | shadowrocket => "shadowrocket"
  | quantumultx => "quantumultx"
  | surfboard => "surfboard"
  | surge => "surge"
  | loon => "loon"
  | shadowsocks => "shadowsocks"
  | sagernet => "sagernet"
  | passwall => "passwall"
  | ssrplus => "ssrplus"
  | v2raytun => "v2raytun"
  | v2rayng => "v2rayng"
  | v2rayn => "v2rayn"
  | general => "general"

/-- `_GENERAL_FORMATS | …`. -/
def BASE64_FORMATS : List SubscribeFormat :=
  [.general, .passwall, .ssrplus, .v2rayn, .v2rayng, .v2raytun, .sagernet, .shadowrocket,
    .quantumultx]

/-- `_template_for_format`: the template and the media type. -/
def templateForFormat : SubscribeFormat → String × String
  | .clash | .clash_meta | .clash_verge | .clash_nyanpasu | .stash =>
      ("subscribe/clash.yaml.j2", "text/yaml; charset=utf-8")
  | .singbox | .singbox_old => ("subscribe/singbox.json.j2", "application/json; charset=utf-8")
  | .shadowsocks => ("subscribe/sip008.json.j2", "application/json; charset=utf-8")
  | .surge => ("subscribe/surge.conf.j2", "text/plain; charset=utf-8")
  | .surfboard => ("subscribe/surfboard.conf.j2", "text/plain; charset=utf-8")
  | .loon | .quantumultx | .shadowrocket =>
      ("subscribe/client_lines.txt.j2", "text/plain; charset=utf-8")
  | _ => ("subscribe/general.txt.j2", "text/plain; charset=utf-8")

/-- `text.replace("/", " ")`. -/
def slashToBlank (text : String) : String :=
  String.ofList (text.toList.map fun c => if c = '/' then ' ' else c)

/-- `text.strip("/")`. -/
def stripSlash (text : String) : String :=
  rstripSlash (String.ofList (text.toList.dropWhile (· = '/')))

/-- The loop of `_extract_singbox_version`. -/
def versionIn : List String → Option String
  | [] => none
  | part :: parts =>
      let sing_box := "sing-box".toList
      let maybe :=
        if sing_box <+: part.toList then
          stripSlash (String.ofList (part.toList.drop sing_box.length))
        else ""
      if part = "sing-box" ∧ parts ≠ [] then parts.head?
      else if maybe ≠ "" then some maybe
      else versionIn parts

/-- `_extract_singbox_version`. -/
def extractSingboxVersion (value : String) : Option String :=
  versionIn (fm.split (slashToBlank value))

/-- `parse` of `_version_gte`. -/
def parseVersion (item : String) : Except PyExc (List Int) :=
  (item.toList.splitOn '.').mapM fun part =>
    let digits := String.ofList (part.filter fun c => rt.isdigit (String.singleton c))
    if digits = "" then .ok 0
    else
      match rt.int_of_str digits with
      | some n => .ok n
      | none => .error (.value "invalid literal for int()")

/-- `left >= right` of two tuples. -/
def tupleGe : List Int → List Int → Bool
  | _, [] => true
  | [], _ :: _ => false
  | a :: l, b :: r => b < a || (a = b && tupleGe l r)

/-- `_version_gte`. -/
def versionGte (version target : String) : Except PyExc Bool := do
  let left ← parseVersion rt version
  let right ← parseVersion rt target
  let size := max left.length right.length
  return tupleGe (left ++ List.replicate (size - left.length) 0)
    (right ++ List.replicate (size - right.length) 0)

/-- The names that `_detect_format` looks for, in this order. -/
def formatNeedles : List (SubscribeFormat × List String) :=
  [(.singbox, ["sing"]),
    (.clash_meta, ["clash.meta", "clash-meta", "mihomo", "meta"]),
    (.clash_verge, ["clash-verge", "verge"]),
    (.clash_nyanpasu, ["nyanpasu"]),
    (.stash, ["stash"]),
    (.clash, ["clash"]),
    (.shadowrocket, ["shadowrocket"]),
    (.quantumultx, ["quantumult x", "quantumult%20x", "quantumultx"]),
    (.surfboard, ["surfboard"]),
    (.surge, ["surge"]),
    (.loon, ["loon"]),
    (.shadowsocks, ["shadowsocks", "sip008"]),
    (.sagernet, ["sagernet"]),
    (.passwall, ["passwall"]),
    (.ssrplus, ["ssrplus"]),
    (.v2raytun, ["v2raytun"]),
    (.v2rayng, ["v2rayng"]),
    (.v2rayn, ["v2rayn"])]

/-- `_detect_format`. -/
def detectFormat (flag : String) : Except PyExc SubscribeFormat := do
  let value := fm.unquote (rt.lower flag)
  if isIn "sing-box" value then
    match extractSingboxVersion fm value with
    | none => return .singbox_old
    | some version =>
      if version ≠ "" && (← versionGte rt version "1.12.0") then return .singbox
      else return .singbox_old
  else
    match formatNeedles.find? fun check => check.2.any fun needle => isIn needle value with
    | some (name, _) => return name
    | none => return .general

/-! ## §2. The answer. -/

/-- `_user_to_subscribe_dict`. -/
def userToSubscribeDict (user : User) : JsonDict :=
  let gb := fun (n : Int) => fm.round2 (.divInt n (1024 * 1024 * 1024))
  let date := fun (format : String) =>
    match user.expired_at with
    | none => "长期有效"
    | some e => fm.strftime format e
  [("id", .int user.id), ("email", .str user.email), ("uuid", .str user.uuid),
    ("u", .int user.u), ("d", .int user.d), ("transfer_enable", .int user.transfer_enable),
    ("expired_at", .ofOption .int user.expired_at), ("upload_gb", .float (gb user.u)),
    ("download_gb", .float (gb user.d)),
    ("used_gb", .float (fm.round2 ((gb user.u).add (gb user.d)))),
    ("total_gb", .float (gb user.transfer_enable)), ("expired_date", .str (date "%Y-%m-%d")),
    ("expired_at_text", .str (date "%Y-%m-%d %H:%M:%S"))]

/-- `_subscription_headers`. -/
def subscriptionHeaders (user : User) (app_name app_url : String) : JsonDict :=
  [("subscription-userinfo", .str ("upload=" ++ toString user.u ++ "; download=" ++
      toString user.d ++ "; total=" ++ toString user.transfer_enable ++ "; expire=" ++
      (match user.expired_at with | none => "None" | some e => toString e))),
    ("profile-update-interval", .str "24"),
    ("content-disposition", .str ("attachment;filename*=UTF-8''" ++ fm.quote app_name))] ++
  (if app_url = "" then [] else [("profile-web-page-url", .str app_url)])

/-- The headers of a format. -/
def formatHeaders (subscribe_format : SubscribeFormat) (app_name : String) (headers : JsonDict) :
    JsonDict :=
  match subscribe_format with
  | .singbox | .singbox_old =>
      dictSet headers "profile-title" (.str ("base64:" ++ b64encode app_name))
  | .surge | .surfboard =>
      dictSet headers "content-disposition"
        (.str ("attachment;filename*=UTF-8''" ++ fm.quote app_name ++ ".conf"))
  | .v2raytun =>
      dictSet (dictSet headers "profile-title" (.str app_name)) "content-disposition"
        (.str ("attachment; filename=\"" ++ app_name ++ "\""))
  | _ => headers

/-- A rendered subscription. -/
structure Rendered where
  content : String
  media_type : String
  headers : JsonDict

/-- The context of the template. -/
def renderContext (user : User) (app_name app_url subscribe_url : String)
    (subscribe_format : SubscribeFormat) (servers : List JsonDict) : JsonDict :=
  [("app_name", .str app_name), ("app_url", .str app_url), ("subscribe_url", .str subscribe_url),
    ("format", .str subscribe_format.name),
    ("singbox_old", .bool (subscribe_format = .singbox_old)),
    ("user", .obj (userToSubscribeDict fm user)), ("servers", .arr (servers.map .obj))]

/-- The nodes that a format shows. -/
def formatServers (subscribe_format : SubscribeFormat) (servers : List JsonDict) :
    List JsonDict :=
  if subscribe_format = .sagernet then
    servers.filter fun server => !(dictGet server "protocol").isText "hysteria"
  else servers

/-- What `render_subscription` makes of what it has read. -/
def renderWith (user : User) (app_name app_url subscribe_url : String)
    (subscribe_format : SubscribeFormat) (servers : List JsonDict) : Except PyExc Rendered := do
  let (template, media_type) := templateForFormat subscribe_format
  let content ← fm.render template
    (renderContext fm user app_name app_url subscribe_url subscribe_format servers)
  return {
    content := if subscribe_format ∈ BASE64_FORMATS then b64encode content else content
    media_type := media_type
    headers := formatHeaders fm subscribe_format app_name
      (subscriptionHeaders fm user app_name app_url) }

/-- 根据客户端标识渲染订阅内容。 -/
def renderSubscription (user : User) (flag : String) (token_bytes : List UInt8) : Db Rendered := do
  let now ← time
  if !isAvailable now user then Prog.throw (ForbiddenException "订阅不可用")
  else
    let app_name ← SettingService.Cached.getStr rt "app_name" "PyBoard"
    let app_url ← SettingService.Cached.getStr rt "app_url" ""
    let subscribe_format ← liftExcept (detectFormat rt fm flag)
    let servers ← getAvailableServers rt fm user
    let subscribe_url ← buildSubscribeUrl rt fm user token_bytes
    liftExcept (renderWith fm user app_name app_url subscribe_url subscribe_format
      (formatServers subscribe_format servers))

/-! ## §3. The panel. -/

/-- `_plan_to_dict`. -/
def planToDict (plan : Plan) : JsonDict :=
  [("id", .int plan.id), ("name", .str plan.name), ("group_id", .int plan.group_id),
    ("transfer_enable", .int plan.transfer_enable),
    ("device_limit", .ofOption .int plan.device_limit),
    ("speed_limit", .ofOption .int plan.speed_limit)]

/-- `_cache_get_json`. -/
def cacheGetJson (key : String) : Db (Option Json) := do
  match ← RuntimeCache.get key with
  | none => return none
  | some (.arr items) => return some (.arr items)
  | some (.obj fields) => return some (.obj fields)
  | some (.str text) => return rt.orjson_loads text
  | some _ => return none

/-- `int(alive_data.get("alive_ip", 0)) if isinstance(alive_data, dict) else 0`. -/
def aliveIp : Option Json → Except PyExc Int
  | some (.obj alive_data) =>
      CouponService.intOfItem rt ((Json.lookup alive_data "alive_ip").getD (.int 0))
  | _ => .ok 0

/-- 获取用户订阅面板信息。 -/
def getUserSubscribeInfo (user_id : Int) (token_bytes : List UInt8) : Db JsonDict := do
  match ← UserRepository.getById user_id with
  | none => Prog.throw (NotFoundException "用户不存在")
  | some user =>
    let plan ← planOf (User.plan_id user)
    let alive_data ← cacheGetJson rt ("ALIVE_IP_USER_" ++ toString user_id)
    let alive_ip ← liftExcept (aliveIp rt alive_data)
    let subscribe_url ← buildSubscribeUrl rt fm user token_bytes
    let allow_new_period ← SettingService.Cached.getInt rt "allow_new_period" 0
    return infoDict user plan alive_ip subscribe_url allow_new_period
where
  planOf : Option Int → Db (Option Plan)
    | none => return none
    | some plan_id => if plan_id = 0 then return none else PlanRepository.getById plan_id
  infoDict (user : User) (plan : Option Plan) (alive_ip : Int) (subscribe_url : String)
      (allow_new_period : Int) : JsonDict :=
    [("plan_id", .ofOption .int user.plan_id), ("plan", .ofOption (.obj ∘ planToDict) plan),
      ("token", .str user.token), ("expired_at", .ofOption .int user.expired_at),
      ("u", .int user.u), ("d", .int user.d), ("transfer_enable", .int user.transfer_enable),
      ("device_limit", .ofOption .int user.device_limit), ("email", .str user.email),
      ("uuid", .str user.uuid), ("alive_ip", .int alive_ip),
      ("subscribe_url", .str subscribe_url), ("reset_day", .null),
      ("allow_new_period", .int allow_new_period)]

end PyBoard.SubscribeService
